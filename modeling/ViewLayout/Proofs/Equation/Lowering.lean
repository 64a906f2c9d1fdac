import ViewLayout.Proofs.Equation.Groups
import ViewLayout.Proofs.Number.Order
import ViewLayout.Proofs.Resolution

/-!
# What an equation compiles to

An equation compiles when all its words stand for something and nothing is divided by zero. What
its descriptor has to be is read off the equation part by part (`Describes`), and what can be
wrong with it is a list of independent checks in the order in which the first of them is reported
(`errors`). Compiling gives the one or the first of the other.
-/

namespace ViewLayout.Equation

open ViewLayout.Number ViewLayout.Text ViewLayout.Outcome

/-- The multiplier that a factor stands for. -/
inductive Scales (metrics : Metrics) : Option (Clause FactorOperator) → Binary64 → Prop where
  | absent : Scales metrics none 1
  | times {sign : Span} {value : Spanned String} {number : Binary64}
      (stands : metrics.value? value.value = some number) :
      Scales metrics (some ⟨⟨.times, sign⟩, value⟩) number
  | divided {sign : Span} {value : Spanned String} {number : Binary64}
      (stands : metrics.value? value.value = some number) (nonzero : ¬number.IsZero) :
      Scales metrics (some ⟨⟨.divided, sign⟩, value⟩) number.reciprocal

/-- The constant that a term stands for. -/
inductive Shifts (metrics : Metrics) : Option (Clause TermOperator) → Binary64 → Prop where
  | absent : Shifts metrics none 0
  | plus {sign : Span} {value : Spanned String} {number : Binary64}
      (stands : metrics.value? value.value = some number) :
      Shifts metrics (some ⟨⟨.plus, sign⟩, value⟩) number
  | minus {sign : Span} {value : Spanned String} {number : Binary64}
      (stands : metrics.value? value.value = some number) :
      Shifts metrics (some ⟨⟨.minus, sign⟩, value⟩) (-number)

/-- A descriptor says what an equation says, once its words stand for something. -/
structure Describes (metrics : Metrics) (e : Equation) (d : Descriptor) : Prop where
  /-- The left side has the written key and attribute. -/
  first : d.first.key = e.first.key.value ∧ d.first.edge.keyword = e.first.edge.value
  /-- The relation is the written one. -/
  relation : d.relation.symbol = e.relation.value
  /-- The right side has the written key and attribute. -/
  second : ∃ anchor, d.second = some anchor ∧ anchor.key = e.second.key.value ∧
    anchor.edge.keyword = e.second.edge.value
  /-- The multiplier is that of the factor. -/
  multiplier : Scales metrics e.factor d.multiplier
  /-- The constant is that of the term. -/
  constant : Shifts metrics e.term d.constant
  /-- An equation has no priority. -/
  priority : d.priority = none

/-- Every word of an equation stands for something, and nothing is divided by zero. -/
structure Resolvable (registry : Registry) (metrics : Metrics) (e : Equation) : Prop where
  /-- The first key is known. -/
  firstKey : registry.Knows e.first.key.value
  /-- The second key is known. -/
  secondKey : registry.Knows e.second.key.value
  /-- The first attribute is in the vocabulary. -/
  firstEdge : e.first.edge.value ∈ Attribute.all.map Attribute.keyword
  /-- The second attribute is in the vocabulary. -/
  secondEdge : e.second.edge.value ∈ Attribute.all.map Attribute.keyword
  /-- The relation is in the vocabulary. -/
  relation : e.relation.value ∈ ["==", ">=", "<="]
  /-- The value of the factor is a number, and not zero when it divides. -/
  factor : ∀ clause ∈ e.factor, ∃ number, metrics.value? clause.value.value = some number ∧
    (clause.operator.value = .divided → ¬number.IsZero)
  /-- The value of the term is a number. -/
  term : ∀ clause ∈ e.term, ∃ number, metrics.value? clause.value.value = some number

/-- The error of a word, if something is wrong with it. -/
def wordError? (raw : String) (word : Spanned String) (fault : Option Fault) :
    Option ConstraintError :=
  fault.map (.within raw (some word.span))

/-- The error of the value of a clause, if one is written. -/
def valueError? {Operator : Type} (raw : String) (metrics : Metrics)
    (clause : Option (Clause Operator)) : Option ConstraintError :=
  clause.bind fun written =>
    wordError? raw written.value (metrics.fault? written.value.value)

/-- The error of a factor that divides by zero. -/
def divisorError? (raw : String) (metrics : Metrics) (e : Equation) : Option ConstraintError :=
  match e.factor with
  | some ⟨⟨.divided, _⟩, value⟩ =>
    if ∃ number ∈ metrics.value? value.value, number.IsZero then
      some (.malformed raw .divisionByZero none (e.captures raw))
    else none
  | _ => none

/-- What is wrong with an equation, each part looked at for itself, in the order in which the
first error is reported: keys, attributes, relation, factor, divisor, term. -/
def errors (raw : String) (registry : Registry) (metrics : Metrics) (e : Equation) :
    List (Option ConstraintError) :=
  [wordError? raw e.first.key (registry.fault? e.first.key.value),
    wordError? raw e.second.key (registry.fault? e.second.key.value),
    wordError? raw e.first.edge (Attribute.fault? e.first.edge.value),
    wordError? raw e.second.edge (Attribute.fault? e.second.edge.value),
    wordError? raw e.relation (Relation.fault? e.relation.value),
    valueError? raw metrics e.factor,
    e.divisorError? raw metrics,
    valueError? raw metrics e.term]

/-! ## Success -/

/-- The multiplier of an equation is that of its factor. -/
theorem multiplier_eq_ok_iff {raw : String} {metrics : Metrics} {e : Equation}
    {multiplier : Binary64} :
    e.multiplier raw metrics = .ok multiplier ↔ Scales metrics e.factor multiplier := by
  unfold Equation.multiplier
  cases e.factor with
  | none =>
    rw [Except.ok.injEq]
    constructor
    · rintro rfl
      exact .absent
    · intro scales
      cases scales with
      | absent => rfl
  | some clause =>
    obtain ⟨⟨operator, sign⟩, value⟩ := clause
    simp only [bind_eq_ok_iff, placed, mapError_eq_ok_iff, Metrics.resolve_eq_ok_iff]
    cases operator with
    | times =>
      simp only [Except.ok.injEq, exists_eq_right]
      constructor
      · exact .times
      · intro scales
        cases scales with
        | times stands => exact stands
    | divided =>
      constructor
      · rintro ⟨number, stands, inverted⟩
        by_cases zero : number.equal 0
        · rw [if_pos zero] at inverted
          contradiction
        · rw [if_neg zero] at inverted
          obtain rfl := Except.ok.inj inverted
          exact .divided stands fun isZero => zero (Binary.equal_zero_iff.2 isZero)
      · intro scales
        cases scales with
        | @divided _ _ number stands nonzero =>
          exact ⟨number, stands, if_neg fun zero => nonzero (Binary.equal_zero_iff.1 zero)⟩

/-- The constant of an equation is that of its term. -/
theorem constant_eq_ok_iff {raw : String} {metrics : Metrics} {e : Equation}
    {constant : Binary64} :
    e.constant raw metrics = .ok constant ↔ Shifts metrics e.term constant := by
  unfold Equation.constant
  cases e.term with
  | none =>
    rw [Except.ok.injEq]
    constructor
    · rintro rfl
      exact .absent
    · intro shifts
      cases shifts with
      | absent => rfl
  | some clause =>
    obtain ⟨⟨operator, sign⟩, value⟩ := clause
    simp only [bind_eq_ok_iff, placed, mapError_eq_ok_iff, Metrics.resolve_eq_ok_iff]
    cases operator with
    | plus =>
      simp only [Except.ok.injEq, exists_eq_right]
      constructor
      · exact .plus
      · intro shifts
        cases shifts with
        | plus stands => exact stands
    | minus =>
      simp only [Except.ok.injEq]
      constructor
      · rintro ⟨number, stands, rfl⟩
        exact .minus stands
      · intro shifts
        cases shifts with
        | minus stands => exact ⟨_, stands, rfl⟩

/-- A factor stands for a multiplier when its value is a number that it can be used with. -/
theorem exists_scales_iff {metrics : Metrics} {factor : Option (Clause FactorOperator)} :
    (∃ multiplier, Scales metrics factor multiplier) ↔
      ∀ clause ∈ factor, ∃ number, metrics.value? clause.value.value = some number ∧
        (clause.operator.value = .divided → ¬number.IsZero) := by
  cases factor with
  | none =>
    constructor
    · intro _ clause present
      contradiction
    · intro _
      exact ⟨_, .absent⟩
  | some clause =>
    simp only [Option.mem_def, Option.some.injEq, forall_eq']
    constructor
    · rintro ⟨multiplier, scales⟩
      cases scales with
      | times stands => exact ⟨_, stands, fun divides => nomatch divides⟩
      | divided stands nonzero => exact ⟨_, stands, fun _ => nonzero⟩
    · rintro ⟨number, stands, usable⟩
      obtain ⟨⟨operator, sign⟩, value⟩ := clause
      cases operator with
      | times => exact ⟨_, .times stands⟩
      | divided => exact ⟨_, .divided stands (usable rfl)⟩

/-- A term stands for a constant when its value is a number. -/
theorem exists_shifts_iff {metrics : Metrics} {term : Option (Clause TermOperator)} :
    (∃ constant, Shifts metrics term constant) ↔
      ∀ clause ∈ term, ∃ number, metrics.value? clause.value.value = some number := by
  cases term with
  | none =>
    constructor
    · intro _ clause present
      contradiction
    · intro _
      exact ⟨_, .absent⟩
  | some clause =>
    simp only [Option.mem_def, Option.some.injEq, forall_eq']
    constructor
    · rintro ⟨constant, shifts⟩
      cases shifts with
      | plus stands => exact ⟨_, stands⟩
      | minus stands => exact ⟨_, stands⟩
    · rintro ⟨number, stands⟩
      obtain ⟨⟨operator, sign⟩, value⟩ := clause
      cases operator with
      | plus => exact ⟨_, .plus stands⟩
      | minus => exact ⟨_, .minus stands⟩

/-- An equation is lowered to the descriptor that says what it says, when all its words stand for
something. -/
theorem lower_eq_ok_iff {raw : String} {registry : Registry} {metrics : Metrics} {e : Equation}
    {d : Descriptor} :
    e.lower raw registry metrics = .ok d ↔
      e.Resolvable registry metrics ∧ e.Describes metrics d := by
  simp only [lower, bind_eq_ok_iff, placed, mapError_eq_ok_iff, Attribute.lookup_eq_ok_iff,
    Relation.lookup_eq_ok_iff, multiplier_eq_ok_iff, constant_eq_ok_iff, Except.ok.injEq]
  constructor
  · rintro ⟨firstNode, firstFound, secondNode, secondFound, firstEdge, firstSpelled, secondEdge,
      secondSpelled, relation, related, multiplier, scales, constant, shifts, rfl⟩
    constructor
    · constructor
      case firstKey => exact Registry.exists_resolve_iff.1 ⟨firstNode, firstFound⟩
      case secondKey => exact Registry.exists_resolve_iff.1 ⟨secondNode, secondFound⟩
      case firstEdge =>
        rw [firstSpelled]
        exact firstEdge.keyword_mem
      case secondEdge =>
        rw [secondSpelled]
        exact secondEdge.keyword_mem
      case relation => exact Relation.exists_symbol_iff.1 ⟨relation, related⟩
      case factor => exact exists_scales_iff.1 ⟨multiplier, scales⟩
      case term => exact exists_shifts_iff.1 ⟨constant, shifts⟩
    · constructor
      case first => exact ⟨rfl, firstSpelled.symm⟩
      case relation => exact related.symm
      case second => exact ⟨_, rfl, rfl, secondSpelled.symm⟩
      case multiplier => exact scales
      case constant => exact shifts
      case priority => rfl
  · rintro ⟨resolvable, describes⟩
    obtain ⟨firstNode, firstFound⟩ := Registry.exists_resolve_iff.2 resolvable.firstKey
    obtain ⟨secondNode, secondFound⟩ := Registry.exists_resolve_iff.2 resolvable.secondKey
    obtain ⟨⟨firstKey, firstSpelled⟩, related, ⟨second, present, secondKey, secondSpelled⟩, scales,
      shifts, none⟩ := describes
    refine ⟨firstNode, firstFound, secondNode, secondFound, _, firstSpelled.symm, _,
      secondSpelled.symm, _, related.symm, _, scales, _, shifts, ?_⟩
    obtain ⟨first, relation, _, multiplier, constant, priority⟩ := d
    rw [← firstKey, ← secondKey]
    obtain rfl : priority = Option.none := none
    obtain rfl := present
    rfl

/-- Compiling a text gives the descriptor that says what the equation it is read as says, when all
words of the equation stand for something. -/
theorem compile_eq_ok_iff {raw : String} {registry : Registry} {metrics : Metrics}
    {d : Descriptor} :
    compile raw registry metrics = .ok d ↔
      ∃ e, parse raw = .ok e ∧ e.Resolvable registry metrics ∧ e.Describes metrics d := by
  cases parsed : parse raw with
  | error rejection =>
    simp only [compile_of_rejected parsed, reduceCtorEq, false_and, exists_false]
  | ok e =>
    simp only [compile_of_parse parsed, lower_eq_ok_iff, Except.ok.injEq, exists_eq_left']

/-- A resolvable equation has a descriptor that says what it says. -/
theorem Resolvable.exists_describes {registry : Registry} {metrics : Metrics} {e : Equation}
    (resolvable : e.Resolvable registry metrics) : ∃ d, e.Describes metrics d := by
  obtain ⟨firstEdge, -, firstSpelled⟩ := List.mem_map.1 resolvable.firstEdge
  obtain ⟨secondEdge, -, secondSpelled⟩ := List.mem_map.1 resolvable.secondEdge
  obtain ⟨relation, related⟩ := Relation.exists_symbol_iff.2 resolvable.relation
  obtain ⟨multiplier, scales⟩ := exists_scales_iff.2 resolvable.factor
  obtain ⟨constant, shifts⟩ := exists_shifts_iff.2 resolvable.term
  let first : Anchor := ⟨e.first.key.value, firstEdge⟩
  let second : Anchor := ⟨e.second.key.value, secondEdge⟩
  refine ⟨{ first, relation, second := some second, multiplier, constant }, ?_⟩
  exact ⟨⟨rfl, firstSpelled⟩, related.symm, ⟨_, rfl, rfl, secondSpelled⟩, scales, shifts, rfl⟩

/-! ## Failure -/

/-- Looking a word up reports the error of the word. -/
theorem placed_reports {α : Type} {raw : String} {word : Spanned String}
    {result : Except Fault α} {fault : Option Fault} (reports : Reports result fault) :
    Reports (placed raw word result) (wordError? raw word fault) :=
  reports.mapError _

/-- The multiplier of an equation reports the error of its value, or else that of the divisor. -/
theorem multiplier_reports (raw : String) (metrics : Metrics) (e : Equation) :
    Reports (e.multiplier raw metrics)
      ((valueError? raw metrics e.factor).or (e.divisorError? raw metrics)) := by
  unfold Equation.multiplier divisorError?
  cases e.factor with
  | none => exact .ok
  | some clause =>
    obtain ⟨⟨operator, sign⟩, value⟩ := clause
    refine .bind (placed_reports (metrics.resolve_reports value.value)) fun number found => ?_
    rw [placed, mapError_eq_ok_iff, Metrics.resolve_eq_ok_iff] at found
    cases operator with
    | times => exact .ok
    | divided =>
      simp only [found, Option.mem_def, Option.some.injEq, exists_eq_left']
      by_cases zero : number.IsZero
      · rw [if_pos zero, if_pos (Binary.equal_zero_iff.2 zero)]
        exact .error
      · rw [if_neg zero, if_neg fun equal => zero (Binary.equal_zero_iff.1 equal)]
        exact .ok

/-- The constant of an equation reports the error of its value. -/
theorem constant_reports (raw : String) (metrics : Metrics) (e : Equation) :
    Reports (e.constant raw metrics) (valueError? raw metrics e.term) := by
  unfold Equation.constant
  cases e.term with
  | none => exact .ok
  | some clause =>
    obtain ⟨⟨operator, sign⟩, value⟩ := clause
    rw [valueError?, Option.bind_some, ← @Option.or_none _ (wordError? raw value _)]
    refine .bind (placed_reports (metrics.resolve_reports value.value)) fun number _ => ?_
    cases operator with
    | plus => exact .ok
    | minus => exact .ok

/-- Lowering an equation reports the first of its errors. -/
theorem lower_reports (raw : String) (registry : Registry) (metrics : Metrics) (e : Equation) :
    Reports (e.lower raw registry metrics) ((e.errors raw registry metrics).findSome? id) := by
  simp only [errors, findSome?_id_cons, List.findSome?_nil]
  rw [← @Option.or_assoc _ (valueError? raw metrics e.factor)]
  refine .bind (placed_reports (registry.resolve_reports _)) fun _ _ => ?_
  refine .bind (placed_reports (registry.resolve_reports _)) fun _ _ => ?_
  refine .bind (placed_reports (Attribute.lookup_reports _)) fun firstEdge _ => ?_
  refine .bind (placed_reports (Attribute.lookup_reports _)) fun secondEdge _ => ?_
  refine .bind (placed_reports (Relation.lookup_reports _)) fun relation _ => ?_
  refine .bind (multiplier_reports raw metrics e) fun multiplier _ => ?_
  exact .bind (constant_reports raw metrics e) fun constant _ => .ok

/-- A text compiles exactly when it is an equation all of whose words stand for something and that
does not divide by zero. Its descriptor is then the one that says what the equation says. An
equation that does not compile has the first of its errors, in the order keys, attributes,
relation, factor, divisor, term. -/
theorem compile_describes_or_reports (raw : String) (registry : Registry) (metrics : Metrics) :
    ((∃ d, compile raw registry metrics = .ok d) ↔
        ∃ e, parse raw = .ok e ∧ e.Resolvable registry metrics) ∧
      (∀ d, compile raw registry metrics = .ok d ↔
        ∃ e, parse raw = .ok e ∧ e.Resolvable registry metrics ∧ e.Describes metrics d) ∧
      ∀ e, parse raw = .ok e → ∀ error, compile raw registry metrics = .error error ↔
        (e.errors raw registry metrics).findSome? id = some error := by
  refine ⟨?_, fun d => compile_eq_ok_iff, ?_⟩
  · simp only [compile_eq_ok_iff]
    constructor
    · rintro ⟨d, e, parsed, resolvable, -⟩
      exact ⟨e, parsed, resolvable⟩
    · rintro ⟨e, parsed, resolvable⟩
      obtain ⟨d, describes⟩ := resolvable.exists_describes
      exact ⟨d, e, parsed, resolvable, describes⟩
  · intro e parsed error
    rw [compile_of_parse parsed]
    exact lower_reports raw registry metrics e error

end ViewLayout.Equation
