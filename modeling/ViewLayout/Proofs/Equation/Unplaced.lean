import ViewLayout.Proofs.Equation.Grammar
import ViewLayout.Proofs.Equation.Lowering
import ViewLayout.Proofs.Token.Alike

/-!
# Equations up to the places of their parts

Tokens that are alike spell the same equation, but for the places of its parts, as long as the dots
touch their neighbours in both; and what an equation is compiled to does not depend on places.
-/

namespace ViewLayout

open ViewLayout.Number ViewLayout.Text ViewLayout.Grammar

/-- An operand without the places of its parts. -/
def Operand.unplaced (operand : Operand) : Operand :=
  ⟨operand.key.unplaced, operand.edge.unplaced⟩

/-- A clause without the places of its parts. -/
def Clause.unplaced {Operator : Type} (clause : Clause Operator) : Clause Operator :=
  ⟨clause.operator.unplaced, clause.value.unplaced⟩

/-- Tokens that are alike spell the same operand, where the dot touches its neighbours. -/
theorem Operand.Spelled.exists_moved {operand : Operand} {word other : Tokens}
    (spelled : operand.Spelled word) (alike : Alike word other) (touch : DotsTouch other) :
    ∃ moved : Operand, moved.Spelled other ∧ moved.unplaced = operand.unplaced := by
  cases spelled with
  | @dotted key edge dot before after =>
    obtain ⟨keyPlace, _, rfl, later⟩ := alike.of_cons
    obtain ⟨newDot, _, rfl, last⟩ := later.of_cons
    obtain ⟨edgePlace, _, rfl, ended⟩ := last.of_cons
    obtain rfl := ended.of_nil
    obtain ⟨left, rest⟩ := List.isChain_cons_cons.1 touch
    have right := (List.isChain_cons_cons.1 rest).1
    have moved : Operand.Spelled ⟨⟨key.value, keyPlace⟩, ⟨edge.value, edgePlace⟩⟩ _ :=
      .dotted (left (.inr rfl)) (right (.inl rfl))
    exact ⟨_, moved, rfl⟩

/-- The same token elsewhere is that of the same value elsewhere. -/
theorem ValueSpelled.exists_moved {value : Spanned String} {token other : Spanned Token}
    (spelled : ValueSpelled value token) (same : token.value = other.value) :
    ∃ moved, ValueSpelled moved other ∧ moved.unplaced = value.unplaced := by
  obtain ⟨kind, place⟩ := other
  cases spelled with
  | name word span =>
    obtain rfl : .ident word = kind := same
    exact ⟨_, .name word place, rfl⟩
  | number literal span =>
    obtain rfl : .number literal = kind := same
    exact ⟨_, .number literal place, rfl⟩

/-- Tokens that are alike spell the same clause, if any. -/
theorem ClauseSpelled.exists_moved {Operator : Type} {mark : Operator → Mark}
    {clause : Option (Clause Operator)} {word other : Tokens}
    (spelled : ClauseSpelled mark clause word) (alike : Alike word other) :
    ∃ moved, ClauseSpelled mark moved other ∧
      moved.map Clause.unplaced = clause.map Clause.unplaced := by
  cases spelled with
  | absent =>
    obtain rfl := alike.of_nil
    exact ⟨none, .absent, rfl⟩
  | @written value token operator spelled =>
    obtain ⟨sign, _, rfl, later⟩ := alike.of_cons
    obtain ⟨newToken, _, same, ended, rfl⟩ := List.forall₂_cons_left_iff.1 later
    obtain rfl := Alike.of_nil ended
    obtain ⟨moved, written, equal⟩ := spelled.exists_moved same
    refine ⟨_, .written ⟨operator.value, sign⟩ written, ?_⟩
    rw [Option.map_some, Clause.unplaced, equal]
    rfl

namespace Equation

/-- An equation without the places of its parts. -/
def unplaced (e : Equation) : Equation :=
  ⟨e.first.unplaced, e.relation.unplaced, e.second.unplaced, e.factor.map Clause.unplaced,
    e.term.map Clause.unplaced⟩

/-- Tokens that are alike spell the same equation, where the dots touch their neighbours. -/
theorem Spelled.exists_moved {e : Equation} {word other : Tokens} (spelled : e.Spelled word)
    (alike : Alike word other) (touch : DotsTouch other) :
    ∃ moved : Equation, moved.Spelled other ∧ moved.unplaced = e.unplaced := by
  cases spelled with
  | @parts first second relation factor term left right scaled shifted tag leftSide rightSide
      factored added =>
    obtain ⟨newTag, _, rfl, afterTag⟩ := alike.of_cons
    obtain ⟨newLeft, _, rfl, lefts, afterLeft⟩ := afterTag.of_append
    obtain ⟨place, _, rfl, afterRelation⟩ := afterLeft.of_cons
    obtain ⟨newRight, _, rfl, rights, afterRight⟩ := afterRelation.of_append
    obtain ⟨newScaled, newShifted, rfl, factors, terms⟩ := afterRight.of_append
    have touchTail := List.IsChain.tail touch
    have touchLeft : DotsTouch newLeft := touchTail.left_of_append
    have touchRight : DotsTouch newRight :=
      (List.IsChain.tail touchTail.right_of_append).left_of_append
    obtain ⟨firstMoved, newLeftSide, sameFirst⟩ := leftSide.exists_moved lefts touchLeft
    obtain ⟨secondMoved, newRightSide, sameSecond⟩ := rightSide.exists_moved rights touchRight
    obtain ⟨factorMoved, newFactored, sameFactor⟩ := factored.exists_moved factors
    obtain ⟨termMoved, newAdded, sameTerm⟩ := added.exists_moved terms
    have moved : Spelled ⟨firstMoved, ⟨relation.value, place⟩, secondMoved, factorMoved,
      termMoved⟩ _ := .parts newTag newLeftSide newRightSide newFactored newAdded
    refine ⟨_, moved, ?_⟩
    rw [unplaced, sameFirst, sameSecond, sameFactor, sameTerm]
    rfl

/-- Names that fit do so wherever they stand. -/
theorem NamesFit.of_alike {tokens others : Tokens} (fits : NamesFit tokens)
    (alike : Alike tokens others) : NamesFit others := by
  intro other present name named
  have value : other.value ∈ tokens.map (·.value) := by
    rw [alike_iff.1 alike]
    exact List.mem_map_of_mem present
  obtain ⟨token, among, same⟩ := List.mem_map.1 value
  exact fits token among name (same.trans named)

/-! ## Descriptors do not depend on places -/

/-- The multiplier of a factor does not depend on places. -/
theorem scales_unplaced_iff {metrics : Metrics} {factor : Option (Clause FactorOperator)}
    {multiplier : Binary64} :
    Scales metrics (factor.map Clause.unplaced) multiplier ↔ Scales metrics factor multiplier := by
  constructor
  · intro scales
    rcases factor with _ | ⟨⟨operator, sign⟩, value⟩
    · exact scales
    · cases scales with
      | times stands => exact .times stands
      | divided stands nonzero => exact .divided stands nonzero
  · intro scales
    cases scales with
    | absent => exact .absent
    | times stands => exact .times stands
    | divided stands nonzero => exact .divided stands nonzero

/-- The constant of a term does not depend on places. -/
theorem shifts_unplaced_iff {metrics : Metrics} {term : Option (Clause TermOperator)}
    {constant : Binary64} :
    Shifts metrics (term.map Clause.unplaced) constant ↔ Shifts metrics term constant := by
  constructor
  · intro shifts
    rcases term with _ | ⟨⟨operator, sign⟩, value⟩
    · exact shifts
    · cases shifts with
      | plus stands => exact .plus stands
      | minus stands => exact .minus stands
  · intro shifts
    cases shifts with
    | absent => exact .absent
    | plus stands => exact .plus stands
    | minus stands => exact .minus stands

/-- Whether the words of an equation stand for something does not depend on places. -/
theorem resolvable_unplaced_iff {registry : Registry} {metrics : Metrics} {e : Equation} :
    e.unplaced.Resolvable registry metrics ↔ e.Resolvable registry metrics := by
  have factors : (∃ multiplier, Scales metrics e.unplaced.factor multiplier) ↔
      ∃ multiplier, Scales metrics e.factor multiplier := exists_congr fun _ => scales_unplaced_iff
  have terms : (∃ constant, Shifts metrics e.unplaced.term constant) ↔
      ∃ constant, Shifts metrics e.term constant := exists_congr fun _ => shifts_unplaced_iff
  rw [exists_scales_iff, exists_scales_iff] at factors
  rw [exists_shifts_iff, exists_shifts_iff] at terms
  constructor
  · rintro ⟨firstKey, secondKey, firstEdge, secondEdge, relation, factor, term⟩
    exact ⟨firstKey, secondKey, firstEdge, secondEdge, relation, factors.1 factor, terms.1 term⟩
  · rintro ⟨firstKey, secondKey, firstEdge, secondEdge, relation, factor, term⟩
    exact ⟨firstKey, secondKey, firstEdge, secondEdge, relation, factors.2 factor, terms.2 term⟩

/-- What an equation says does not depend on places. -/
theorem describes_unplaced_iff {metrics : Metrics} {e : Equation} {d : Descriptor} :
    e.unplaced.Describes metrics d ↔ e.Describes metrics d := by
  constructor
  · rintro ⟨first, relation, second, multiplier, constant, priority⟩
    exact ⟨first, relation, second, scales_unplaced_iff.1 multiplier,
      shifts_unplaced_iff.1 constant, priority⟩
  · rintro ⟨first, relation, second, multiplier, constant, priority⟩
    exact ⟨first, relation, second, scales_unplaced_iff.2 multiplier,
      shifts_unplaced_iff.2 constant, priority⟩

/-- An equation is lowered to the same descriptor wherever its parts stand, and in whatever text. -/
theorem lower_of_unplaced {first second : String} {registry : Registry} {metrics : Metrics}
    {e moved : Equation} {d : Descriptor} (same : moved.unplaced = e.unplaced)
    (lowered : e.lower first registry metrics = .ok d) :
    moved.lower second registry metrics = .ok d := by
  rw [lower_eq_ok_iff, ← resolvable_unplaced_iff, ← describes_unplaced_iff] at lowered ⊢
  rw [same]
  exact lowered

/-- Texts with tokens that are alike are compiled to the same descriptor as equations, where the dots
touch their neighbours. -/
theorem compile_of_alike {first second : String} {registry : Registry} {metrics : Metrics}
    {tokens others : Tokens} {d : Descriptor} (scanned : Token.scan first = .ok tokens)
    (moved : Token.scan second = .ok others) (alike : Alike tokens others)
    (touch : DotsTouch others) (compiled : compile first registry metrics = .ok d) :
    compile second registry metrics = .ok d := by
  cases parsed : parse first with
  | error rejection =>
    rw [compile_of_rejected parsed] at compiled
    contradiction
  | ok e =>
    rw [compile_of_parse parsed] at compiled
    obtain ⟨word, found, spelled, fits⟩ := parse_eq_ok_iff_fits.1 parsed
    obtain rfl := Except.ok.inj (scanned.symm.trans found)
    obtain ⟨other, respelled, same⟩ := spelled.exists_moved alike touch
    have reparsed : parse second = .ok other :=
      parse_eq_ok_iff_fits.2 ⟨others, moved, respelled, fits.of_alike alike⟩
    rw [compile_of_parse reparsed]
    exact lower_of_unplaced same compiled

end Equation

end ViewLayout
