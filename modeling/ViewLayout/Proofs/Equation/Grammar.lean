import ViewLayout.Proofs.Equation.Spelling
import ViewLayout.Proofs.Token.Places

/-!
# The grammar of equations

* `equation := 'X:' operand relation operand factor? term?`
* `operand := name '.' name`, with nothing on either side of the dot
* `factor := ('*' | '/') value`, `term := ('+' | '-') value` and `value := name | number`

A text is an equation when its tokens belong to the grammar and no name in it is longer than 31
bytes. The groups captured from it are then the tokens of the text in text order, with their
places: what stands in the text at the place of a group is the text of the group.
-/

namespace ViewLayout.Equation

open ViewLayout.Text ViewLayout.Grammar

/-- There is nothing between the tokens: each begins where the one before it ends. -/
def Unspaced (word : Tokens) : Prop :=
  word.IsChain fun first second => first.span.stop = second.span.start

/-- `operand := name '.' name`, with nothing on either side of the dot -/
def operandPhrase : Language (Spanned Token) :=
  {word | word ∈ namePhrase * (markPhrase .dot * namePhrase) ∧ Unspaced word}

/-- `value := name | number` -/
def valuePhrase : Language (Spanned Token) := namePhrase + numberPhrase

/-- `factor := ('*' | '/') value` -/
def factorPhrase : Language (Spanned Token) :=
  (markPhrase .star + markPhrase .slash) * valuePhrase

/-- `term := ('+' | '-') value` -/
def termPhrase : Language (Spanned Token) :=
  (markPhrase .plus + markPhrase .minus) * valuePhrase

/-- `equation := 'X:' operand relation operand factor? term?` -/
def equationPhrase : Language (Spanned Token) :=
  markPhrase .equationTag * (operandPhrase * (relationPhrase * (operandPhrase *
    (optionally factorPhrase * optionally termPhrase))))

/-- No identifier among the tokens is longer than 31 bytes. -/
def NamesFit (tokens : Tokens) : Prop :=
  ∀ token ∈ tokens, ∀ name, token.value = .ident name → name.utf8ByteSize ≤ 31

/-- A numbered group was captured. -/
def Present (groups : List Capture) (index : Nat) : Prop :=
  ∃ part, groups[index]? = some ⟨index, some part⟩

/-- The parts that were captured after the whole text, in the order of their numbers. -/
def presentParts (groups : List Capture) : List (Spanned String) :=
  groups.tail.filterMap (·.found)

/-- What the groups captured from a text have to be. -/
structure Faithful (raw : String) (groups : List Capture) : Prop where
  /-- There are ten groups, numbered in order. -/
  numbered : groups.map (·.index) = List.range 10
  /-- The first is the whole text. -/
  whole : groups[0]? = some ⟨0, some ⟨raw, ⟨0, raw.utf8ByteSize⟩⟩⟩
  /-- Keys, attributes and the relation are captured. -/
  required : ∀ index, 1 ≤ index → index ≤ 5 → Present groups index
  /-- A factor is captured with operator and value, or not at all. -/
  factor : Present groups 6 ↔ Present groups 7
  /-- A term is captured with operator and value, or not at all. -/
  term : Present groups 8 ↔ Present groups 9
  /-- The sixth group is an operator of a factor. -/
  factorOperator : ∀ part, groups[6]? = some ⟨6, some part⟩ → part.value ∈ ["*", "/"]
  /-- The eighth group is an operator of a term. -/
  termOperator : ∀ part, groups[8]? = some ⟨8, some part⟩ → part.value ∈ ["+", "-"]
  /-- The parts are the tokens of the text in order, without the tag and the dots. -/
  tokens : ∃ tokens, Token.scan raw = .ok tokens ∧ presentParts groups = captured tokens
  /-- Every part stands in the text at its span. -/
  cuts : ∀ part ∈ presentParts groups, part.span.Cuts raw part.value
  /-- No part is empty. -/
  written : ∀ part ∈ presentParts groups, part.span.start < part.span.stop
  /-- Each part ends before the next starts. -/
  ordered : (presentParts groups).Pairwise fun first second =>
    first.span.stop ≤ second.span.start

/-! ## The rules -/

/-- The rule for operands holds their spellings. -/
theorem mem_operandPhrase_iff {word : Tokens} :
    word ∈ operandPhrase ↔ ∃ operand : Operand, operand.Spelled word := by
  constructor
  · rintro ⟨inside, touching⟩
    obtain ⟨_, ⟨key, before, rfl⟩, _, ⟨_, ⟨dot, rfl⟩, _, ⟨edge, after, rfl⟩, rfl⟩, rfl⟩ := inside
    obtain ⟨left, rest⟩ := List.isChain_cons_cons.1 touching
    have right := (List.isChain_cons_cons.1 rest).1
    exact ⟨⟨⟨key, before⟩, ⟨edge, after⟩⟩, .dotted left right⟩
  · rintro ⟨operand, spelled⟩
    cases spelled with
    | @dotted key edge dot before after =>
      refine ⟨⟨_, ⟨_, _, rfl⟩, _, ⟨_, ⟨dot, rfl⟩, _, ⟨_, _, rfl⟩, rfl⟩, rfl⟩, ?_⟩
      exact List.isChain_cons_cons.2 ⟨before, List.isChain_cons_cons.2 ⟨after, .singleton _⟩⟩

/-- The rule for values holds their tokens. -/
theorem mem_valuePhrase_iff {word : Tokens} :
    word ∈ valuePhrase ↔ ∃ value token, ValueSpelled value token ∧ word = [token] := by
  rw [valuePhrase, Language.mem_add, mem_namePhrase, mem_numberPhrase]
  constructor
  · rintro (⟨name, span, rfl⟩ | ⟨literal, span, rfl⟩)
    · exact ⟨_, _, .name name span, rfl⟩
    · exact ⟨_, _, .number literal span, rfl⟩
  · rintro ⟨value, token, spelled, rfl⟩
    cases spelled with
    | name word span => exact .inl ⟨word, span, rfl⟩
    | number literal span => exact .inr ⟨literal, span, rfl⟩

/-- A rule for a clause holds the spellings of clauses with its operators. -/
theorem mem_optionally_clause_iff {Operator : Type} (mark : Operator → Mark)
    {first second : Operator} (all : ∀ operator, operator = first ∨ operator = second)
    {word : Tokens} :
    word ∈ optionally ((markPhrase (mark first) + markPhrase (mark second)) * valuePhrase) ↔
      ∃ clause, ClauseSpelled mark clause word := by
  rw [mem_optionally, Language.mem_mul]
  constructor
  · rintro (rfl | ⟨_, sign, _, last, rfl⟩)
    · exact ⟨none, .absent⟩
    · obtain ⟨value, token, spelled, rfl⟩ := mem_valuePhrase_iff.1 last
      rcases Language.mem_add _ _ _ |>.1 sign with ⟨span, rfl⟩ | ⟨span, rfl⟩
      · exact ⟨_, .written ⟨first, span⟩ spelled⟩
      · exact ⟨_, .written ⟨second, span⟩ spelled⟩
  · rintro ⟨clause, spelled⟩
    cases spelled with
    | absent => exact .inl rfl
    | @written value token operator spelled =>
      have last : [token] ∈ valuePhrase := mem_valuePhrase_iff.2 ⟨value, token, spelled, rfl⟩
      obtain ⟨sign, span⟩ := operator
      rcases all sign with rfl | rfl
      · exact .inr ⟨_, .inl ⟨span, rfl⟩, _, last, rfl⟩
      · exact .inr ⟨_, .inr ⟨span, rfl⟩, _, last, rfl⟩

/-- The rule for equations holds their spellings. -/
theorem mem_equationPhrase_iff {word : Tokens} :
    word ∈ equationPhrase ↔ ∃ e : Equation, e.Spelled word := by
  have factors (operator : FactorOperator) : operator = .times ∨ operator = .divided := by
    cases operator <;> decide
  have terms (operator : TermOperator) : operator = .plus ∨ operator = .minus := by
    cases operator <;> decide
  have factorRule (scaled : Tokens) : scaled ∈ optionally factorPhrase ↔
      ∃ clause, ClauseSpelled FactorOperator.mark clause scaled :=
    mem_optionally_clause_iff FactorOperator.mark factors
  have termRule (shifted : Tokens) : shifted ∈ optionally termPhrase ↔
      ∃ clause, ClauseSpelled TermOperator.mark clause shifted :=
    mem_optionally_clause_iff TermOperator.mark terms
  simp only [equationPhrase, Language.mem_mul, mem_markPhrase, mem_relationPhrase,
    mem_operandPhrase_iff, factorRule, termRule]
  constructor
  · rintro ⟨_, ⟨tag, rfl⟩, _, ⟨left, ⟨first, leftSide⟩, _, ⟨_, ⟨symbol, span, rfl⟩, _, ⟨right,
      ⟨second, rightSide⟩, _, ⟨scaled, ⟨factor, factored⟩, shifted, ⟨term, added⟩, rfl⟩, rfl⟩,
      rfl⟩, rfl⟩, rfl⟩
    have spelled : Spelled ⟨first, ⟨symbol, span⟩, second, factor, term⟩ _ :=
      .parts tag leftSide rightSide factored added
    exact ⟨_, spelled⟩
  · rintro ⟨e, spelled⟩
    cases spelled with
    | @parts first second relation factor term left right scaled shifted tag leftSide rightSide
        factored added =>
      exact ⟨_, ⟨tag, rfl⟩, _, ⟨left, ⟨first, leftSide⟩, _, ⟨_, ⟨_, _, rfl⟩, _, ⟨right,
        ⟨second, rightSide⟩, _, ⟨scaled, ⟨factor, factored⟩, shifted, ⟨term, added⟩, rfl⟩, rfl⟩,
        rfl⟩, rfl⟩, rfl⟩

/-! ## The captured groups -/

/-- The parts captured from an equation after the whole text are its parts. -/
theorem presentParts_captures (raw : String) (e : Equation) :
    presentParts (e.captures raw) = e.parts.filterMap id := by
  have parts : (e.captures raw).tail.map (·.found) = e.parts := rfl
  rw [presentParts, ← parts, List.filterMap_map]
  rfl

/-- A group of an equation is captured when its part is written. -/
theorem present_captures_iff {raw : String} {e : Equation} {index : Nat} :
    Present (e.captures raw) (index + 1) ↔ ∃ part, e.parts[index]? = some (some part) := by
  rw [Present, captures, List.getElem?_mapIdx, List.getElem?_cons_succ]
  constructor
  · rintro ⟨part, found⟩
    obtain ⟨written, present, same⟩ := Option.map_eq_some_iff.1 found
    obtain ⟨-, rfl⟩ := Capture.mk.inj same
    exact ⟨part, present⟩
  · rintro ⟨part, present⟩
    exact ⟨part, Option.map_eq_some_iff.2 ⟨_, present, rfl⟩⟩

/-- The operator of a clause is captured when its value is. -/
theorem exists_operatorCapture_iff {Operator : Type} {mark : Operator → Mark}
    {clause : Option (Clause Operator)} :
    (∃ part, operatorCapture mark clause = some part) ↔
      ∃ part, clause.map (·.value) = some part := by
  rw [operatorCapture]
  cases clause with
  | none => simp only [Option.map_none, reduceCtorEq, exists_false]
  | some written => simp only [Option.map_some, Option.some.injEq, exists_eq']

/-- The captured text of an operator is the text of its mark. -/
theorem exists_mark_of_operatorCapture {Operator : Type} {mark : Operator → Mark}
    {clause : Option (Clause Operator)} {part : Spanned String}
    (found : operatorCapture mark clause = some part) :
    ∃ operator, part.value = (mark operator).text := by
  obtain ⟨written, -, rfl⟩ := Option.map_eq_some_iff.1 found
  exact ⟨written.operator.value, rfl⟩

/-- No captured part is an overlong identifier when every captured name fits. -/
theorem overlong?_eq_none_iff {groups : List Capture} :
    overlong? groups = none ↔ ∀ part ∈ presentParts groups, Metrics.isName part.value →
      part.value.utf8ByteSize ≤ 31 := by
  have bound (size : Nat) : ¬identifierLimit < size ↔ size ≤ 31 := Nat.not_lt
  rw [overlong?, List.find?_eq_none, presentParts]
  simp only [List.mem_filterMap]
  constructor
  · rintro short part ⟨capture, present, found⟩ named
    have fits := short capture present
    rw [found] at fits
    simp only [named, Bool.true_and, decide_eq_true_eq] at fits
    exact (bound _).1 fits
  · intro fits capture present
    cases found : capture.found with
    | none => exact Bool.false_ne_true
    | some part =>
      simp only [Bool.and_eq_true, decide_eq_true_eq, not_and]
      intro named
      exact (bound _).2 (fits part ⟨capture, present, found⟩ named)

/-- A text is read as an equation exactly when its tokens spell that equation and no captured
name is too long. -/
theorem parse_eq_ok_iff {raw : String} {e : Equation} :
    parse raw = .ok e ↔ (∃ tokens, Token.scan raw = .ok tokens ∧ e.Spelled tokens) ∧
      overlong? (e.captures raw) = none := by
  simp only [← ofTokens_eq_ok_iff, ← read_eq_ok_iff]
  unfold parse
  cases read raw ofTokens with
  | error error => simp only [reduceCtorEq, false_and]
  | ok found =>
    rw [Except.ok.injEq]
    dsimp only
    split
    · rename_i index part long
      constructor
      · intro accepted
        contradiction
      · rintro ⟨rfl, fits⟩
        rw [fits] at long
        contradiction
    · rename_i fits
      rw [Except.ok.injEq]
      refine ⟨fun same => ⟨same, ?_⟩, fun accepted => accepted.1⟩
      rw [← same]
      cases long : overlong? (found.captures raw) with
      | none => rfl
      | some capture =>
        -- Only a part that was captured can be too long.
        obtain ⟨index, part⟩ := capture
        cases part with
        | some part => exact absurd long (fits index part)
        | none => exact absurd (List.find?_some long) Bool.false_ne_true

/-- The names captured from an equation fit when all names among its tokens do. -/
theorem overlong?_captures_eq_none_iff {raw : String} {e : Equation} {tokens : Tokens}
    (scanned : Token.scan raw = .ok tokens) (spelled : e.Spelled tokens) :
    overlong? (e.captures raw) = none ↔ NamesFit tokens := by
  have wellSpelled := (Token.scanFrom_eq_ok_iff.1 scanned).wellSpelled
  rw [overlong?_eq_none_iff, presentParts_captures, ← captured_of_spelled spelled]
  simp only [captured, List.forall_mem_map, List.mem_filter, and_imp]
  constructor
  · intro fits token present name named
    have shown : isCaptured token.value := by
      rw [named]
      rfl
    have short := fits token present shown
    rw [named] at short
    exact short (Token.isName_of_ident (named ▸ wellSpelled token present))
  · intro fits token present shown
    have kind := wellSpelled token present
    cases value : token.value with
    | ident name => exact fun _ => fits token present name value
    | number literal =>
      rw [value] at kind
      rw [Token.text, Token.isName_eq_false_of_number kind]
      exact fun named => absurd named Bool.false_ne_true
    | relation symbol =>
      rw [value] at kind
      rw [Token.text, Token.isName_eq_false_of_relation kind]
      exact fun named => absurd named Bool.false_ne_true
    | mark mark =>
      have short : mark.text.utf8ByteSize ≤ 31 := by cases mark <;> decide
      exact fun _ => short

/-- What was captured stands in the text, in its order. -/
theorem faithful_captures {raw : String} {e : Equation} {tokens : Tokens}
    (scanned : Token.scan raw = .ok tokens) (spelled : e.Spelled tokens) :
    Faithful raw (e.captures raw) := by
  have divided := Token.scanFrom_eq_ok_iff.1 scanned
  have parts : presentParts (e.captures raw) = captured tokens := by
    rw [presentParts_captures, captured_of_spelled spelled]
  have all {holds : Spanned String → Prop}
      (each : ∀ token ∈ tokens, holds ⟨token.value.text, token.span⟩) :
      ∀ part ∈ presentParts (e.captures raw), holds part := by
    rw [parts]
    simp only [captured, List.forall_mem_map, List.mem_filter]
    exact fun token present => each token present.1
  constructor
  case numbered => rfl
  case whole => rfl
  case required =>
    intro index positive bounded
    obtain ⟨index, rfl⟩ := Nat.exists_eq_add_of_le' positive
    rw [present_captures_iff]
    have cases : index = 0 ∨ index = 1 ∨ index = 2 ∨ index = 3 ∨ index = 4 := by omega
    rcases cases with rfl | rfl | rfl | rfl | rfl <;> exact ⟨_, rfl⟩
  case factor =>
    have operator : e.parts[5]? = some (operatorCapture FactorOperator.mark e.factor) := rfl
    have value : e.parts[6]? = some (e.factor.map (·.value)) := rfl
    simp only [present_captures_iff, operator, value, Option.some.injEq]
    exact exists_operatorCapture_iff
  case term =>
    have operator : e.parts[7]? = some (operatorCapture TermOperator.mark e.term) := rfl
    have value : e.parts[8]? = some (e.term.map (·.value)) := rfl
    simp only [present_captures_iff, operator, value, Option.some.injEq]
    exact exists_operatorCapture_iff
  case factorOperator =>
    intro part found
    have same : operatorCapture FactorOperator.mark e.factor = some part :=
      (Capture.mk.inj (Option.some.inj found)).2
    obtain ⟨operator, spelled⟩ := exists_mark_of_operatorCapture same
    rw [spelled]
    cases operator <;> decide
  case termOperator =>
    intro part found
    have same : operatorCapture TermOperator.mark e.term = some part :=
      (Capture.mk.inj (Option.some.inj found)).2
    obtain ⟨operator, spelled⟩ := exists_mark_of_operatorCapture same
    rw [spelled]
    cases operator <;> decide
  case tokens => exact ⟨tokens, scanned, parts⟩
  case cuts => exact all (Token.cuts_of_scan scanned)
  case written => exact all divided.start_lt_stop
  case ordered =>
    rw [parts, captured, List.pairwise_map]
    exact divided.pairwise.sublist List.filter_sublist

/-- A text is read as an equation exactly when its tokens spell that equation and none of their names
is longer than 31 bytes. -/
theorem parse_eq_ok_iff_fits {raw : String} {e : Equation} :
    parse raw = .ok e ↔
      ∃ tokens, Token.scan raw = .ok tokens ∧ e.Spelled tokens ∧ NamesFit tokens := by
  rw [parse_eq_ok_iff]
  constructor
  · rintro ⟨⟨tokens, scanned, spelled⟩, fits⟩
    exact ⟨tokens, scanned, spelled, (overlong?_captures_eq_none_iff scanned spelled).1 fits⟩
  · rintro ⟨tokens, scanned, spelled, fits⟩
    exact ⟨⟨tokens, scanned, spelled⟩, (overlong?_captures_eq_none_iff scanned spelled).2 fits⟩

/-- A text is an equation exactly when its tokens, all of them, belong to the grammar and no name
among them is longer than 31 bytes; the equation read from it is the one its tokens spell; and the
groups captured from it are faithful to the text. -/
theorem parse_accepts_equationPhrase (raw : String) :
    ((∃ e, parse raw = .ok e) ↔
        ∃ tokens, Token.scan raw = .ok tokens ∧ tokens ∈ equationPhrase ∧ NamesFit tokens) ∧
      (∀ e, parse raw = .ok e ↔
        ∃ tokens, Token.scan raw = .ok tokens ∧ e.Spelled tokens ∧ NamesFit tokens) ∧
      ∀ e, parse raw = .ok e → Faithful raw (e.captures raw) := by
  refine ⟨?_, fun _ => parse_eq_ok_iff_fits, ?_⟩
  · simp only [parse_eq_ok_iff_fits, mem_equationPhrase_iff]
    constructor
    · rintro ⟨e, tokens, scanned, spelled, fits⟩
      exact ⟨tokens, scanned, ⟨e, spelled⟩, fits⟩
    · rintro ⟨tokens, scanned, ⟨e, spelled⟩, fits⟩
      exact ⟨e, tokens, scanned, spelled, fits⟩
  · intro e accepted
    obtain ⟨tokens, scanned, spelled, -⟩ := parse_eq_ok_iff_fits.1 accepted
    exact faithful_captures scanned spelled

end ViewLayout.Equation
