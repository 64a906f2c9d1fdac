import ViewLayout.Constraint
import ViewLayout.Proofs.Equation.Plain
import ViewLayout.Proofs.Number.ReadBack

/-!
# Descriptors read back from their texts

The text of a descriptor that was compiled from an equation is an equation again. It is written with
the keys, attributes and relation of the first one, and with the numbers that its values stood for:
a multiplier of one and a constant of zero are left out, and the sign of the constant is the operator
of the term. As long as the numbers have finite values and the multiplier has no sign, it compiles to
the same descriptor.
-/

namespace ViewLayout

open ViewLayout.Number ViewLayout.Text ViewLayout.Grammar ViewLayout.Outcome

namespace Number.Binary

variable {f : Format} {x y : Binary f}

/-- Whether the sign of a number is set; a zero can have it too. -/
def signBit : Binary f → Bool
  | .nan => false
  | .signed negative _ _ => negative

/-- Numeric equality does not depend on the order of its sides. -/
theorem equal_comm (x y : Binary f) : x.equal y = y.equal x := by
  unfold equal
  cases x.place? with
  | none => cases y.place? <;> rfl
  | some p =>
    cases y.place? with
    | none => rfl
    | some q => simp only [eq_comm]

/-- A finite number is equal to itself. -/
theorem equal_self (finite : x.isFinite = true) : x.equal x = true := by
  cases x with
  | nan => contradiction
  | signed negative rank bounded => simp [equal, place?]

/-- A finite number is equal to what stands for it where equal numbers need not be written. -/
theorem equal_of_omitted (finite : x.isFinite = true) (usual : Binary f) :
    (if x.equal usual then usual else x).equal x = true := by
  by_cases omitted : x.equal usual
  · rw [if_pos omitted, equal_comm]
    exact omitted
  · rw [if_neg omitted]
    exact equal_self finite

/-- A number below zero is its absolute value with the sign turned round. -/
theorem neg_abs_of_isBelowZero (below : x.isBelowZero = true) : -x.abs = x := by
  cases x with
  | nan => contradiction
  | signed negative rank bounded =>
    cases negative with
    | true => rfl
    | false =>
      have below : (rank : Int) < 0 := of_decide_eq_true below
      omega

/-- A number that is neither below zero nor zero is its absolute value. -/
theorem abs_eq_self (notBelow : ¬x.isBelowZero = true) (nonzero : ¬x.equal 0 = true) :
    x.abs = x := by
  cases x with
  | nan => rfl
  | signed negative rank bounded =>
    cases negative with
    | false => rfl
    | true =>
      rw [equal_zero_iff] at nonzero
      have zero : rank = 0 := by simpa [isBelowZero, place?] using notBelow
      subst zero
      exact absurd (.inr rfl) nonzero

/-- The absolute value of a finite number is finite and has no sign. -/
theorem abs_unsigned (finite : x.isFinite = true) :
    x.abs.isFinite = true ∧ x.abs.signBit = false := by
  cases x with
  | nan => contradiction
  | signed negative rank bounded => exact ⟨finite, rfl⟩

/-- The text of a finite number without a sign is a number token that is read back. -/
theorem read?_of_unsigned (finite : x.isFinite = true) (unsigned : x.signBit = false) :
    Token.WellSpelled (.number x.render) ∧ read? x.render = some x := by
  cases x with
  | nan => contradiction
  | signed negative rank bounded =>
    obtain rfl : negative = false := unsigned
    exact ⟨wellSpelled_render bounded finite, read?_render bounded finite⟩

end Number.Binary

/-- A number token stands for the number it writes out. -/
theorem Metrics.value?_of_number (metrics : Metrics) {literal : String}
    (spelled : Token.WellSpelled (.number literal)) :
    metrics.value? literal = Binary.read? literal := by
  rw [value?, Token.isName_eq_false_of_number spelled, if_neg Bool.false_ne_true]

namespace Equation

/-- The keys of an equation are among its tokens. -/
theorem mem_of_spelled {e : Equation} {tokens : Tokens} (spelled : e.Spelled tokens) :
    ∀ key ∈ [e.first.key, e.second.key], ⟨.ident key.value, key.span⟩ ∈ tokens := by
  cases spelled with
  | parts tag leftSide rightSide factored added =>
    cases leftSide
    cases rightSide
    simp

/-- A key that an equation can be written with and that stands for something. -/
structure Usable (registry : Registry) (key : String) : Prop where
  /-- It is an identifier. -/
  spelled : Token.WellSpelled (.ident key)
  /-- It is short enough. -/
  short : key.utf8ByteSize ≤ 31
  /-- It is known. -/
  known : registry.Knows key

/-- A text compiles as an equation only to a descriptor of two anchors without a priority, whose keys
can be written again. -/
theorem usable_of_compile {raw : String} {registry : Registry} {metrics : Metrics} {d : Descriptor}
    (compiled : compile raw registry metrics = .ok d) :
    ∃ second, d.second = some second ∧ d.priority = none ∧ Usable registry d.first.key ∧
      Usable registry second.key := by
  obtain ⟨tokens, e, scanned, spelled, fits, resolvable, describes⟩ :=
    exists_spelled_of_compile compiled
  have wellSpelled := (Token.scanFrom_eq_ok_iff.1 scanned).wellSpelled
  obtain ⟨⟨firstKey, -⟩, -, ⟨second, present, secondKey, -⟩, -, -, unweighted⟩ := describes
  have usable (key : Spanned String) (written : key ∈ [e.first.key, e.second.key])
      (known : registry.Knows key.value) : Usable registry key.value := by
    have token := mem_of_spelled spelled key written
    exact ⟨wellSpelled _ token, fits _ token _ rfl, known⟩
  refine ⟨second, present, unweighted, ?_, ?_⟩
  · rw [firstKey]
    exact usable _ List.mem_cons_self resolvable.firstKey
  · rw [secondKey]
    exact usable _ (List.mem_cons_of_mem _ List.mem_cons_self) resolvable.secondKey

end Equation

namespace Descriptor

/-- Whether two descriptors are equal, their numbers compared as numbers. -/
def equal (d other : Descriptor) : Bool :=
  d.first = other.first && d.relation = other.relation && d.second = other.second &&
    d.multiplier.equal other.multiplier && d.constant.equal other.constant &&
    match d.priority, other.priority with
    | some priority, some weight => priority.value.equal weight.value
    | none, none => true
    | _, _ => false

/-- The equation a descriptor with a second anchor is written as. -/
def wording (d : Descriptor) (second : Anchor) : Equation.Wording where
  first := d.first
  relation := d.relation
  second := second
  factor := if d.multiplier.equal 1 then none else some (.times, d.multiplier.render)
  term := if d.constant.equal 0 then none
    else some (if d.constant.isBelowZero then .minus else .plus, d.constant.abs.render)

/-- The descriptor that the text of a descriptor compiles to: numbers that are not written have their
usual values. -/
def rewritten (d : Descriptor) : Descriptor where
  first := d.first
  relation := d.relation
  second := d.second
  multiplier := if d.multiplier.equal 1 then 1 else d.multiplier
  constant := if d.constant.equal 0 then 0 else d.constant

variable {d : Descriptor} {second : Anchor}

/-- The text of a descriptor of two anchors without a priority is its wording. -/
theorem toList_text (present : d.second = some second) (unweighted : d.priority = none) :
    d.text.toList = Token.written ((d.wording second).pieces 1) := by
  have factor : d.multiplierText.toList =
      Token.written (Equation.clausePieces FactorOperator.mark (d.wording second).factor) := by
    unfold multiplierText wording
    by_cases one : d.multiplier.equal 1
    · rw [if_pos one, if_pos one]
      rfl
    · rw [if_neg one, if_neg one]
      simp [Equation.clausePieces, Token.written, Token.text, FactorOperator.mark, Mark.text]
  have term : d.constantText.toList =
      Token.written (Equation.clausePieces TermOperator.mark (d.wording second).term) := by
    unfold constantText wording
    by_cases zero : d.constant.equal 0
    · rw [if_pos zero, if_pos zero]
      rfl
    · rw [if_neg zero, if_neg zero]
      by_cases below : d.constant.isBelowZero
      · simp [below, Equation.clausePieces, Token.written, Token.text, TermOperator.mark, Mark.text]
      · simp [below, Equation.clausePieces, Token.written, Token.text, TermOperator.mark, Mark.text]
  rw [text, present, unweighted]
  simp only [String.toList_append, factor, term]
  simp [Equation.Wording.pieces, Equation.Wording.clauses, Equation.anchorPieces, Anchor.text,
    Token.written, Token.text, Mark.text, wording]

/-- The wording of a descriptor has numbers for its values. -/
theorem spells_wording (firstKey : Token.WellSpelled (.ident d.first.key))
    (secondKey : Token.WellSpelled (.ident second.key)) (scaled : d.multiplier.isFinite = true)
    (unsigned : d.multiplier.signBit = false) (shifted : d.constant.isFinite = true) :
    (d.wording second).Spells := by
  have multiplier := (Binary.read?_of_unsigned scaled unsigned).1
  obtain ⟨finite, signless⟩ := Binary.abs_unsigned shifted
  have constant := (Binary.read?_of_unsigned finite signless).1
  refine ⟨firstKey, secondKey, fun clause written => ?_, fun clause written => ?_⟩
  · unfold wording at written
    dsimp only at written
    split at written
    · contradiction
    · obtain rfl := Option.some.inj written
      exact multiplier
  · unfold wording at written
    dsimp only at written
    split at written
    · contradiction
    · obtain rfl := Option.some.inj written
      exact constant

/-- The wording of a descriptor means the same descriptor, with its usual numbers for those that are
left out. -/
theorem means_wording {metrics : Metrics} (present : d.second = some second)
    (scaled : d.multiplier.isFinite = true) (unsigned : d.multiplier.signBit = false)
    (shifted : d.constant.isFinite = true) : (d.wording second).Means metrics d.rewritten := by
  obtain ⟨multiplierSpelled, multiplier⟩ := Binary.read?_of_unsigned scaled unsigned
  obtain ⟨finite, signless⟩ := Binary.abs_unsigned shifted
  obtain ⟨constantSpelled, constant⟩ := Binary.read?_of_unsigned finite signless
  rw [← metrics.value?_of_number multiplierSpelled] at multiplier
  rw [← metrics.value?_of_number constantSpelled] at constant
  have factor : Equation.Multiplies metrics (d.wording second).factor d.rewritten.multiplier := by
    unfold wording rewritten
    dsimp only
    by_cases one : d.multiplier.equal 1
    · rw [if_pos one, if_pos one]
      exact rfl
    · rw [if_neg one, if_neg one]
      exact multiplier
  have term : Equation.Adds metrics (d.wording second).term d.rewritten.constant := by
    unfold wording rewritten
    dsimp only
    by_cases zero : d.constant.equal 0
    · rw [if_pos zero, if_pos zero]
      exact rfl
    · rw [if_neg zero, if_neg zero]
      by_cases below : d.constant.isBelowZero
      · rw [if_pos below]
        exact ⟨d.constant.abs, constant, (Binary.neg_abs_of_isBelowZero below).symm⟩
      · rw [if_neg below]
        have same := Binary.abs_eq_self below zero
        exact constant.trans (congrArg some same)
  exact ⟨rfl, rfl, present, factor, term, rfl⟩

/-- A descriptor with finite numbers is equal to the one its text compiles to. -/
theorem equal_rewritten (unweighted : d.priority = none) (scaled : d.multiplier.isFinite = true)
    (shifted : d.constant.isFinite = true) : d.rewritten.equal d = true := by
  have multiplier := Binary.equal_of_omitted scaled 1
  have constant := Binary.equal_of_omitted shifted 0
  simp [equal, rewritten, unweighted, multiplier, constant]

end Descriptor

namespace Constraint

/-- A descriptor that was compiled from an equation is compiled from its own text again, with the same
registry and metrics, when its numbers are finite and its multiplier has no sign. Its numbers come
back as equal numbers. -/
theorem text_compiles_back {raw : String} (equation : isEquation raw = true) {spacing : Spacing}
    {registry : Registry} {metrics : Metrics} {ds : List Descriptor}
    (compiled : compile raw spacing registry metrics none = .ok ds) {d : Descriptor}
    (present : d ∈ ds) (scaled : d.multiplier.isFinite = true)
    (unsigned : d.multiplier.signBit = false) (shifted : d.constant.isFinite = true) :
    ∃ again, compile d.text spacing registry metrics none = .ok [again] ∧
      again.equal d = true := by
  simp only [compile, descriptors, equation, if_true, map_eq_ok_iff] at compiled
  obtain ⟨_, ⟨found, compiled, rfl⟩, rfl⟩ := compiled
  obtain rfl := List.mem_singleton.1 present
  obtain ⟨second, two, unweighted, firstUsable, secondUsable⟩ :=
    Equation.usable_of_compile compiled
  have written := Descriptor.toList_text two unweighted
  have spells := Descriptor.spells_wording firstUsable.spelled secondUsable.spelled scaled unsigned
    shifted
  have means : (d.wording second).Means metrics d.rewritten :=
    Descriptor.means_wording two scaled unsigned shifted
  have again : Equation.compile d.text registry metrics = .ok d.rewritten :=
    Equation.Wording.compile_of_means spells written firstUsable.short secondUsable.short
      firstUsable.known secondUsable.known means
  refine ⟨d.rewritten, ?_, Descriptor.equal_rewritten unweighted scaled shifted⟩
  have isEquation : isEquation d.text = true := by
    rw [Constraint.isEquation, written]
    rfl
  simp only [compile, descriptors, isEquation, if_true, again]
  rfl

/-- A factor of a half and a metric that is subtracted come back as literals. -/
theorem text_compiles_back_of_metric :
    let registry : Registry := ⟨"parent", some ⟨0⟩, .ofList [("a", .view ⟨1⟩), ("b", .view ⟨2⟩)]⟩
    let metrics : Metrics := .ofList [("margin", 8)]
    let d : Descriptor :=
      { first := ⟨"a", .width⟩, relation := .equal, second := some ⟨"b", .width⟩,
        multiplier := .ofRat (1 / 2), constant := -8 }
    compile "X:a.width==b.width/2-margin" ⟨8, 20⟩ registry metrics none = .ok [d] ∧
      d.text = "X: a.width == b.width * 0.5 - 8" ∧
        ∃ again, compile d.text ⟨8, 20⟩ registry metrics none = .ok [again] ∧
          again.equal d = true := by
  intro registry metrics d
  have compiled : compile "X:a.width==b.width/2-margin" ⟨8, 20⟩ registry metrics none = .ok [d] :=
    eq_ok_of_toOption (by decide +kernel)
  exact ⟨compiled, by decide +kernel, text_compiles_back (by decide) compiled List.mem_cons_self
    (by decide +kernel) (by decide +kernel) (by decide +kernel)⟩

end Constraint

end ViewLayout
