import ViewLayout.Equation
import ViewLayout.Proofs.Phrases

/-!
# How an equation is spelled

`Equation.Spelled` lists the tokens an equation is written with and their places. Every part has
one spelling, in which a dot touches its key and its attribute, so tokens are read as an equation
exactly when they spell it. The captured parts of an equation are its tokens in text order, with
the tag and the dots left out.
-/

namespace ViewLayout

open ViewLayout.Text ViewLayout.Grammar ViewLayout.Outcome

/-- The tokens of an operand, a dot between key and attribute that touches both. -/
inductive Operand.Spelled : Operand → Tokens → Prop where
  | dotted {key edge : Spanned String} {dot : Span} (before : key.span.stop = dot.start)
      (after : dot.stop = edge.span.start) :
      Spelled ⟨key, edge⟩ [⟨.ident key.value, key.span⟩, ⟨.mark .dot, dot⟩,
        ⟨.ident edge.value, edge.span⟩]

/-- The token of a value: a metric name or a number. -/
inductive ValueSpelled : Spanned String → Spanned Token → Prop where
  | name (word : String) (span : Span) : ValueSpelled ⟨word, span⟩ ⟨.ident word, span⟩
  | number (literal : String) (span : Span) : ValueSpelled ⟨literal, span⟩ ⟨.number literal, span⟩

/-- The tokens of a factor or a term, if one is written: its operator, then its value. -/
inductive ClauseSpelled {Operator : Type} (mark : Operator → Mark) :
    Option (Clause Operator) → Tokens → Prop where
  | absent : ClauseSpelled mark none []
  | written {value : Spanned String} {token : Spanned Token} (operator : Spanned Operator)
      (spelled : ValueSpelled value token) :
      ClauseSpelled mark (some ⟨operator, value⟩)
        [⟨.mark (mark operator.value), operator.span⟩, token]

namespace Equation

/-- The tokens of an equation: tag, left side, relation, right side, factor, term. -/
inductive Spelled : Equation → Tokens → Prop where
  | parts {first second : Operand} {relation : Spanned String}
      {factor : Option (Clause FactorOperator)} {term : Option (Clause TermOperator)}
      {left right scaled shifted : Tokens} (tag : Span) (leftSide : first.Spelled left)
      (rightSide : second.Spelled right)
      (factored : ClauseSpelled FactorOperator.mark factor scaled)
      (added : ClauseSpelled TermOperator.mark term shifted) :
      Spelled ⟨first, relation, second, factor, term⟩ (⟨.mark .equationTag, tag⟩ :: (left ++
        ⟨.relation relation.value, relation.span⟩ :: (right ++ (scaled ++ shifted))))

/-! ## Reading -/

/-- An operand is taken by its spelling. -/
theorem takeOperand_eq_ok_iff {tokens rest : Tokens} {operand : Operand} :
    takeOperand tokens = .ok (operand, rest) ↔
      ∃ word, operand.Spelled word ∧ tokens = word ++ rest := by
  constructor
  · intro taken
    simp only [takeOperand, bind_eq_ok_iff, Prod.exists, takeMark_eq_ok_iff,
      takeIdent_eq_ok_iff] at taken
    obtain ⟨key, _, rfl, dot, _, rfl, edge, _, rfl, joined⟩ := taken
    by_cases touching : key.span.stop = dot.start ∧ dot.stop = edge.span.start
    · rw [if_pos touching] at joined
      obtain ⟨rfl, rfl⟩ := Prod.mk.inj (Except.ok.inj joined)
      exact ⟨_, .dotted touching.1 touching.2, rfl⟩
    · rw [if_neg touching] at joined
      contradiction
  · rintro ⟨word, spelled, rfl⟩
    cases spelled with
    | @dotted key edge dot before after =>
      have touching : key.span.stop = dot.start ∧ dot.stop = edge.span.start := ⟨before, after⟩
      simp only [takeOperand, List.cons_append, List.nil_append, takeIdent, takeMark, if_true,
        bind, Except.bind]
      rw [if_pos touching]

/-- A value is taken by its one token. -/
theorem takeValue_eq_ok_iff {tokens rest : Tokens} {value : Spanned String} :
    takeValue tokens = .ok (value, rest) ↔
      ∃ token, ValueSpelled value token ∧ tokens = token :: rest := by
  constructor
  · intro taken
    unfold takeValue at taken
    split at taken
    · obtain ⟨rfl, rfl⟩ := Prod.mk.inj (Except.ok.inj taken)
      exact ⟨_, .name _ _, rfl⟩
    · obtain ⟨rfl, rfl⟩ := Prod.mk.inj (Except.ok.inj taken)
      exact ⟨_, .number _ _, rfl⟩
    · contradiction
  · rintro ⟨token, spelled, rfl⟩
    cases spelled with
    | name word span => rfl
    | number literal span => rfl

/-- What is taken after the operator of a clause is its value. -/
theorem spelled_of_takeClause {Operator : Type} {tokens rest : Tokens}
    {operator : Spanned Operator} {clause : Option (Clause Operator)}
    (taken : (do let (value, rest) ← takeValue tokens
                 .ok (some ⟨operator, value⟩, rest)) = Except.ok (clause, rest)) :
    ∃ value token, ValueSpelled value token ∧ clause = some ⟨operator, value⟩ ∧
      tokens = token :: rest := by
  simp only [bind_eq_ok_iff, Except.ok.injEq, Prod.mk.injEq, Prod.exists] at taken
  obtain ⟨value, after, valueTaken, rfl, rfl⟩ := taken
  obtain ⟨token, spelled, rfl⟩ := takeValue_eq_ok_iff.1 valueTaken
  exact ⟨value, token, spelled, rfl, rfl⟩

/-- What is taken for a factor spells it. -/
theorem spelled_of_takeFactor {tokens rest : Tokens} {factor : Option (Clause FactorOperator)}
    (taken : takeFactor tokens = .ok (factor, rest)) :
    ∃ word, ClauseSpelled FactorOperator.mark factor word ∧ tokens = word ++ rest := by
  unfold takeFactor at taken
  split at taken
  · rename_i sign after
    obtain ⟨value, token, spelled, rfl, rfl⟩ := spelled_of_takeClause taken
    exact ⟨_, .written ⟨FactorOperator.times, sign⟩ spelled, rfl⟩
  · rename_i sign after
    obtain ⟨value, token, spelled, rfl, rfl⟩ := spelled_of_takeClause taken
    exact ⟨_, .written ⟨FactorOperator.divided, sign⟩ spelled, rfl⟩
  · obtain ⟨rfl, rfl⟩ := Prod.mk.inj (Except.ok.inj taken)
    exact ⟨[], .absent, rfl⟩

/-- What is taken for a term spells it. -/
theorem spelled_of_takeTerm {tokens rest : Tokens} {term : Option (Clause TermOperator)}
    (taken : takeTerm tokens = .ok (term, rest)) :
    ∃ word, ClauseSpelled TermOperator.mark term word ∧ tokens = word ++ rest := by
  unfold takeTerm at taken
  split at taken
  · rename_i sign after
    obtain ⟨value, token, spelled, rfl, rfl⟩ := spelled_of_takeClause taken
    exact ⟨_, .written ⟨TermOperator.plus, sign⟩ spelled, rfl⟩
  · rename_i sign after
    obtain ⟨value, token, spelled, rfl, rfl⟩ := spelled_of_takeClause taken
    exact ⟨_, .written ⟨TermOperator.minus, sign⟩ spelled, rfl⟩
  · obtain ⟨rfl, rfl⟩ := Prod.mk.inj (Except.ok.inj taken)
    exact ⟨[], .absent, rfl⟩

/-- Every spelling of a factor is taken, where no other factor follows. -/
theorem takeFactor_append {factor : Option (Clause FactorOperator)} {word rest : Tokens}
    (spelled : ClauseSpelled FactorOperator.mark factor word)
    (settled : takeFactor rest = .ok (none, rest)) :
    takeFactor (word ++ rest) = .ok (factor, rest) := by
  cases spelled with
  | absent => exact settled
  | @written value token operator spelled =>
    have valueTaken : takeValue (token :: rest) = .ok (value, rest) :=
      takeValue_eq_ok_iff.2 ⟨token, spelled, rfl⟩
    obtain ⟨sign, span⟩ := operator
    cases sign with
    | times =>
      rw [FactorOperator.mark, List.cons_append, List.singleton_append, takeFactor, valueTaken]
      rfl
    | divided =>
      rw [FactorOperator.mark, List.cons_append, List.singleton_append, takeFactor, valueTaken]
      rfl

/-- Every spelling of a term is taken at the end of the tokens. -/
theorem takeTerm_of_spelled {term : Option (Clause TermOperator)} {word : Tokens}
    (spelled : ClauseSpelled TermOperator.mark term word) : takeTerm word = .ok (term, []) := by
  cases spelled with
  | absent => rfl
  | @written value token operator spelled =>
    have valueTaken : takeValue [token] = .ok (value, []) :=
      takeValue_eq_ok_iff.2 ⟨token, spelled, rfl⟩
    obtain ⟨sign, span⟩ := operator
    cases sign with
    | plus =>
      rw [TermOperator.mark, takeTerm, valueTaken]
      rfl
    | minus =>
      rw [TermOperator.mark, takeTerm, valueTaken]
      rfl

/-- A term is no factor. -/
theorem takeFactor_of_term {term : Option (Clause TermOperator)} {word : Tokens}
    (spelled : ClauseSpelled TermOperator.mark term word) :
    takeFactor word = .ok (none, word) := by
  cases spelled with
  | absent => rfl
  | written operator spelled =>
    obtain ⟨sign, span⟩ := operator
    cases sign with
    | plus => rfl
    | minus => rfl

/-- Reading tokens as an equation gives the equation they spell, and only then. -/
theorem ofTokens_eq_ok_iff {tokens : Tokens} {e : Equation} :
    ofTokens tokens = .ok e ↔ e.Spelled tokens := by
  constructor
  · intro taken
    simp only [ofTokens, bind_eq_ok_iff, Except.ok.injEq, Prod.exists, takeMark_eq_ok_iff,
      takeOperand_eq_ok_iff, takeRelation_eq_ok_iff] at taken
    obtain ⟨tag, _, rfl, first, _, ⟨left, leftSide, rfl⟩, relation, _, rfl, second, _,
      ⟨right, rightSide, rfl⟩, factor, _, factorTaken, term, _, termTaken, _, ended, rfl⟩ := taken
    obtain ⟨scaled, factored, rfl⟩ := spelled_of_takeFactor factorTaken
    obtain ⟨shifted, added, rfl⟩ := spelled_of_takeTerm termTaken
    rw [takeEnd_eq_ok_iff.1 ended, List.append_nil]
    exact .parts tag leftSide rightSide factored added
  · intro spelled
    cases spelled with
    | @parts first second relation factor term left right scaled shifted tag leftSide rightSide
        factored added =>
      have firstTaken : takeOperand (left ++ ⟨.relation relation.value, relation.span⟩ ::
          (right ++ (scaled ++ shifted))) = .ok (first, _) :=
        takeOperand_eq_ok_iff.2 ⟨left, leftSide, rfl⟩
      have secondTaken : takeOperand (right ++ (scaled ++ shifted)) = .ok (second, _) :=
        takeOperand_eq_ok_iff.2 ⟨right, rightSide, rfl⟩
      have factorTaken : takeFactor (scaled ++ shifted) = .ok (factor, shifted) :=
        takeFactor_append factored (takeFactor_of_term added)
      simp only [ofTokens, takeMark, if_true, firstTaken, takeRelation, secondTaken, factorTaken,
        takeTerm_of_spelled added, takeEnd, bind, Except.bind]

/-! ## Captured parts -/

/-- Whether a token is captured: all are but the tag and the dots. -/
def isCaptured : Token → Bool
  | .mark .equationTag => false
  | .mark .dot => false
  | _ => true

/-- The texts of the captured tokens and their places, in text order. -/
def captured (tokens : Tokens) : List (Spanned String) :=
  (tokens.filter fun token => isCaptured token.value).map fun token =>
    ⟨token.value.text, token.span⟩

/-- A captured token comes before the captured tokens after it. -/
theorem captured_cons {token : Spanned Token} (shown : isCaptured token.value) (rest : Tokens) :
    captured (token :: rest) = ⟨token.value.text, token.span⟩ :: captured rest := by
  rw [captured, List.filter_cons, if_pos shown, List.map_cons]
  rfl

/-- The captured tokens of two runs are those of both. -/
theorem captured_append (first second : Tokens) :
    captured (first ++ second) = captured first ++ captured second := by
  rw [captured, List.filter_append, List.map_append]
  rfl

/-- The captured tokens of an operand are its key and its attribute. -/
theorem captured_of_operand {operand : Operand} {word : Tokens} (spelled : operand.Spelled word) :
    captured word = [operand.key, operand.edge] := by
  cases spelled with
  | dotted before after => rfl

/-- The captured tokens of a clause are its operator and its value, or there are none. -/
theorem captured_of_clause {Operator : Type} {mark : Operator → Mark}
    {clause : Option (Clause Operator)} {word : Tokens}
    (visible : ∀ operator, isCaptured (.mark (mark operator)))
    (spelled : ClauseSpelled mark clause word) :
    captured word = [operatorCapture mark clause, clause.map (·.value)].filterMap id := by
  cases spelled with
  | absent => rfl
  | written operator spelled =>
    rw [captured_cons (visible operator.value)]
    cases spelled with
    | name word span => rfl
    | number literal span => rfl

/-- The parts of an equation that are written are its captured tokens, in text order. -/
theorem captured_of_spelled {e : Equation} {tokens : Tokens} (spelled : e.Spelled tokens) :
    captured tokens = e.parts.filterMap id := by
  cases spelled with
  | @parts first second relation factor term left right scaled shifted tag leftSide rightSide
      factored added =>
    have factorParts := captured_of_clause (fun operator => by cases operator <;> rfl) factored
    have termParts := captured_of_clause (fun operator => by cases operator <;> rfl) added
    have tagless (rest : Tokens) : captured (⟨.mark .equationTag, tag⟩ :: rest) = captured rest :=
      rfl
    rw [tagless, captured_append, captured_cons rfl, captured_append, captured_append,
      captured_of_operand leftSide, captured_of_operand rightSide, factorParts, termParts,
      ← List.filterMap_append]
    rfl

end Equation

end ViewLayout
