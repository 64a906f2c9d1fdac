import ViewLayout.Equation
import ViewLayout.Proofs.Choice

/-!
# Equations by ordered choice

The grammar of equations, put together from parsers that give back what they took when they fail.
A factor or a term without a value is given back with its operator; then the end is looked for and
not found, and the value that is missing is what the error is about.

The reader of equations gives the same equation, and stops where the parser is refused furthest on
(`run_equation`).
-/

namespace ViewLayout.Equation

open ViewLayout.Text ViewLayout.Grammar

namespace Choice

/-- A metric name or a number as it is written. -/
def asValue : Spanned Token → Option (Spanned String)
  | ⟨.ident name, span⟩ => some ⟨name, span⟩
  | ⟨.number literal, span⟩ => some ⟨literal, span⟩
  | _ => none

/-- The operator of a factor. -/
def asFactorOperator : Spanned Token → Option (Spanned FactorOperator)
  | ⟨.mark .star, span⟩ => some ⟨.times, span⟩
  | ⟨.mark .slash, span⟩ => some ⟨.divided, span⟩
  | _ => none

/-- The operator of a term. -/
def asTermOperator : Spanned Token → Option (Spanned TermOperator)
  | ⟨.mark .plus, span⟩ => some ⟨.plus, span⟩
  | ⟨.mark .minus, span⟩ => some ⟨.minus, span⟩
  | _ => none

/-- A key, a dot and an attribute, wherever they stand. -/
def dotted : Parser (Spanned String × Span × Spanned String) := do
  let key ← Parser.ident
  let dot ← Parser.mark .dot
  let edge ← Parser.ident
  return (key, dot, edge)

/-- The stop at a dot that is set apart. -/
def spacedDot? : Spanned String × Span × Spanned String → Option Stop := fun (key, dot, edge) =>
  if key.span.stop = dot.start ∧ dot.stop = edge.span.start then none
  else some (.spacedDot (key.span.through edge.span))

/-- A key, a dot and an attribute with nothing between them. -/
def operand : Parser Operand := do
  let (key, _, edge) ← dotted.check spacedDot?
  return ⟨key, edge⟩

/-- An operator and a value. -/
def clause {Operator : Type} (accept : Spanned Token → Option (Spanned Operator)) :
    Parser (Clause Operator) := do
  let operator ← Parser.token accept
  let value ← Parser.token asValue
  return ⟨operator, value⟩

/-- A whole equation and the end of the tokens. -/
def equation : Parser Equation := do
  let _ ← Parser.mark .equationTag
  let first ← operand
  let relation ← Parser.relation
  let second ← operand
  let factor ← (clause asFactorOperator).optional
  let term ← (clause asTermOperator).optional
  let _ ← Parser.ending
  return ⟨first, relation, second, factor, term⟩

/-! ## Operands -/

/-- Reads a key, a dot and an attribute, wherever they stand. -/
def takeDotted : Reader (Spanned String × Span × Spanned String) := fun tokens =>
  takeIdent tokens >>= fun key => takeMark .dot key.2 >>= fun dot =>
    takeIdent dot.2 >>= fun edge => .ok ((key.1, dot.1, edge.1), edge.2)

theorem agrees_dotted (tokens : Tokens) :
    Agrees Nowhere tokens (takeDotted tokens) (dotted tokens) := by
  have name (tokens : Tokens) : Agrees Nowhere tokens (takeIdent tokens) (Parser.ident tokens) :=
    agrees_ident tokens
  have dot (tokens : Tokens) :
      Agrees Nowhere tokens (takeMark .dot tokens) (Parser.mark .dot tokens) :=
    agrees_mark .dot tokens
  refine (name tokens).andThen fun _ rest _ => ?_
  refine (dot rest).andThen fun _ rest _ => ?_
  refine (name rest).andThen fun _ rest _ => ?_
  exact .took (Nat.le_refl _) behind_none

theorem straight_dotted : dotted.Straight :=
  (Parser.straight_token _).bind fun _ => (Parser.straight_token _).bind fun _ =>
    (Parser.straight_token _).bind fun _ _ _ => rfl

/-- An operand is a dotted name whose dot is checked. -/
theorem takeOperand_eq (tokens : Tokens) :
    takeOperand tokens = (takeDotted tokens >>= passed spacedDot?) >>= fun found =>
      .ok (⟨found.1.1, found.1.2.2⟩, found.2) := by
  unfold takeOperand takeDotted
  cases takeIdent tokens with
  | error => rfl
  | ok key =>
    show (takeMark .dot key.2 >>= _) = ((takeMark .dot key.2 >>= _) >>= _) >>= _
    cases takeMark .dot key.2 with
    | error => rfl
    | ok dot =>
      show (takeIdent dot.2 >>= _) = ((takeIdent dot.2 >>= _) >>= _) >>= _
      cases takeIdent dot.2 with
      | error => rfl
      | ok edge =>
        show (if _ then _ else _) = passed spacedDot? ((key.1, dot.1, edge.1), edge.2) >>= _
        unfold passed spacedDot?
        by_cases touching : key.1.span.stop = dot.1.start ∧ dot.1.stop = edge.1.span.start
        · simp only [if_pos touching]
          rfl
        · simp only [if_neg touching]
          rfl

/-- A dot that is set apart is an error at the whole operand. -/
theorem agrees_operand (tokens : Tokens) :
    Agrees Nowhere tokens (takeOperand tokens) (operand tokens) := by
  rw [takeOperand_eq]
  refine ((agrees_dotted tokens).check straight_dotted).andThen fun _ rest _ => ?_
  exact .took (Nat.le_refl _) behind_none

/-! ## Clauses -/

section Clauses

variable {Operator : Type} (accept : Spanned Token → Option (Spanned Operator))

theorem takeValue_eq : takeValue = takeToken asValue := by
  funext tokens
  rcases tokens with _ | ⟨⟨kind, span⟩, rest⟩
  · rfl
  · cases kind <;> rfl

/-- Reads the value behind an operator. -/
def takeClause (operator : Spanned Operator) : Reader (Clause Operator) := fun tokens =>
  takeValue tokens >>= fun found => .ok (⟨operator, found.1⟩, found.2)

theorem takeFactor_eq : takeFactor = takeBehind asFactorOperator takeClause := by
  funext tokens
  rcases tokens with _ | ⟨⟨kind, span⟩, rest⟩
  · rfl
  cases kind with
  | mark mark =>
    cases mark with
    | star =>
      show (takeValue rest >>= _) = (takeValue rest >>= _).map _
      cases takeValue rest <;> rfl
    | slash =>
      show (takeValue rest >>= _) = (takeValue rest >>= _).map _
      cases takeValue rest <;> rfl
    | _ => rfl
  | _ => rfl

theorem takeTerm_eq : takeTerm = takeBehind asTermOperator takeClause := by
  funext tokens
  rcases tokens with _ | ⟨⟨kind, span⟩, rest⟩
  · rfl
  cases kind with
  | mark mark =>
    cases mark with
    | plus =>
      show (takeValue rest >>= _) = (takeValue rest >>= _).map _
      cases takeValue rest <;> rfl
    | minus =>
      show (takeValue rest >>= _) = (takeValue rest >>= _).map _
      cases takeValue rest <;> rfl
    | _ => rfl
  | _ => rfl

/-- An operator without a value is given back. -/
theorem agrees_clause (tokens : Tokens) :
    Agrees (Accepts accept) tokens (takeBehind accept takeClause tokens)
      ((clause accept).optional tokens) := by
  have value (operator : Spanned Operator) (rest : Tokens) :
      Agrees Nowhere rest (takeClause operator rest)
        ((Parser.token asValue >>= fun value => pure ⟨operator, value⟩ : Parser _) rest) := by
    have one : Agrees Nowhere rest _ _ := agrees_token asValue rest
    rw [takeClause, takeValue_eq]
    refine one.andThen fun _ rest _ => ?_
    exact .took (Nat.le_refl _) behind_none
  refine (agrees_behind accept value tokens).weaken (Nat.le_refl _) ?_
  rintro back (held | accepted)
  · exact held.elim
  · exact accepted

end Clauses

/-! ## Whole equations -/

/-- An equation is read part by part, up to the end. -/
theorem ofTokens_eq (tokens : Tokens) :
    (ofTokens tokens).map (fun equation => (equation, ([] : Tokens))) =
      (takeMark .equationTag tokens >>= fun tagged => takeOperand tagged.2 >>= fun first =>
        takeRelation first.2 >>= fun relation => takeOperand relation.2 >>= fun second =>
          takeFactor second.2 >>= fun factor => takeTerm factor.2 >>= fun term =>
            (takeEnd term.2).map fun _ =>
              ((⟨first.1, relation.1, second.1, factor.1, term.1⟩ : Equation), [])) := by
  show (fun equation => (equation, ([] : Tokens))) <$> ofTokens tokens = _
  simp only [ofTokens, map_bind]
  rfl

/-- Every part of an equation is read alike. -/
theorem agrees_equation (tokens : Tokens) :
    Agrees Nowhere tokens ((ofTokens tokens).map fun equation => (equation, []))
      (equation tokens) := by
  have tag : Agrees Nowhere tokens (takeMark .equationTag tokens)
      (Parser.mark .equationTag tokens) := agrees_mark .equationTag tokens
  have relation (tokens : Tokens) :
      Agrees Nowhere tokens (takeRelation tokens) (Parser.relation tokens) :=
    agrees_relation tokens
  rw [ofTokens_eq, takeFactor_eq, takeTerm_eq]
  refine tag.andThen fun _ rest _ => ?_
  refine (agrees_operand rest).andThen fun _ rest _ => ?_
  refine (relation rest).andThen fun _ rest _ => ?_
  refine (agrees_operand rest).andThen fun _ rest _ => ?_
  refine (agrees_clause _ rest).bind (fun _ rest _ => ?_) fun factor rest operated => ?_
  · refine (agrees_clause _ rest).bind (fun _ rest _ => ?_) fun term rest operated => ?_
    · exact agrees_ending _ rest
    · obtain ⟨token, later, rfl, -⟩ := operated
      exact ((Parser.ending_refuses token later).bind _).blocked
  · obtain ⟨token, later, rfl, operator⟩ := operated
    have noTerm : asTermOperator token = none := by
      obtain ⟨kind, span⟩ := token
      cases kind with
      | mark mark => cases mark <;> first | rfl | contradiction
      | _ => rfl
    have refuses : (clause asTermOperator).Refuses (token :: later) :=
      (Parser.Refuses.unaccepted noTerm).bind _
    exact (refuses.optional_bind ((Parser.ending_refuses token later).bind _)).blocked

end Choice

open Choice in
/-- Reading one token ahead gives what ordered choice gives: the same equation, or the place where a
token was refused furthest on. -/
theorem run_equation (tokens : Tokens) : equation.run tokens = ofTokens tokens := by
  rw [(agrees_equation tokens).run_eq]
  cases ofTokens tokens <;> rfl

end ViewLayout.Equation
