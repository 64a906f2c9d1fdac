import ViewLayout.Proofs.Chain.Parts
import ViewLayout.Proofs.Constraint.Keys
import ViewLayout.Proofs.Constraint.ReadBack

/-!
# Chains read back as equations

A descriptor of two anchors is written as an equation, also when it was compiled from a chain. Every
view of a chain is named by an identifier, but the parent key comes from the configuration and may
be any text, and names in a chain may have any length, where those of an equation are limited. So a
descriptor of a chain is compiled from its own text again exactly when its keys are short enough and
its parent key, if it has one, is an identifier.
-/

namespace ViewLayout

open ViewLayout.Number ViewLayout.Text ViewLayout.Grammar ViewLayout.Outcome

namespace Chain

/-! ## The names of a chain are identifiers -/

/-- The names that a view is written with: its own, and those that its size is compared with. -/
def Link.Names (link : Link) (name : String) : Prop :=
  name = link.name.value ∨ ∃ predicate ∈ link.predicates, predicate.object.value = .name name

/-- The names of a view are written as identifiers. -/
theorem Link.Spelled.exists_ident {link : Link} {word : Tokens} (spelled : link.Spelled word)
    {name : String} (named : link.Names name) : ∃ span, ⟨.ident name, span⟩ ∈ word := by
  obtain rfl | ⟨predicate, present, compared⟩ := named
  · exact ⟨_, spelled.mem_name⟩
  · obtain ⟨part, written, inside⟩ := spelled.exists_predicate present
    exact ⟨_, inside (written.mem_ident compared)⟩

/-- The names of the views of a chain are identifiers. -/
theorem wellSpelled_of_names {raw : String} {chain : Chain} (parsed : parse raw = .ok chain)
    {link : Link} (listed : link ∈ chain.links) {name : String} (named : link.Names name) :
    Token.WellSpelled (.ident name) := by
  obtain ⟨tokens, scanned, spelled⟩ := parse_eq_ok_iff.1 parsed
  obtain ⟨view, linked, inside⟩ := spelled.exists_link listed
  obtain ⟨span, written⟩ := linked.exists_ident named
  exact (Token.scanFrom_eq_ok_iff.1 scanned).wellSpelled _ (inside written)

/-! ## The descriptors of a chain -/

/-- What a connection requires is no size. -/
theorem Connection.not_sized {connection : Connection} {standard : Binary64}
    {first second item : Anchor} {predicate : Predicate} :
    .sized item predicate ∉ connection.requirements standard first second := by
  cases connection <;> simp [requirements]

/-- A size that a chain requires is a predicate of one of its views. -/
theorem exists_link_of_sized {chain : Chain} {spacing : Spacing} {parentKey : String}
    {item : Anchor} {predicate : Predicate}
    (present : .sized item predicate ∈ chain.requirements spacing parentKey) :
    ∃ link ∈ chain.links, predicate ∈ link.predicates := by
  rcases origin_of_requirement present with ⟨connection, -, _, _, _, gap, -⟩ | ⟨link, listed, size⟩
  · exact absurd gap Connection.not_sized
  · obtain ⟨written, among, same⟩ := List.mem_map.1 size
    obtain ⟨-, rfl⟩ := Requirement.sized.inj same
    exact ⟨link, listed, among⟩

/-- Every key of a requirement's descriptor is a key of the requirement or the name that a size is
compared with. -/
theorem Requirement.Met.mem_keys_or_compared {registry : Registry} {metrics : Metrics}
    {requirement : Requirement} {descriptor : Descriptor} {key : String}
    (met : requirement.Met registry metrics descriptor) (named : key ∈ descriptor.keys) :
    key ∈ requirement.keys ∨
      ∃ item predicate, requirement = .sized item predicate ∧
        predicate.object.value = .name key := by
  cases met with
  | gap => exact .inl named
  | spaced => exact .inl named
  | @likeItem item predicate other relation priority relates object used weighs =>
    simp only [Descriptor.keys, Option.toList_some, List.map_cons, List.map_nil, List.mem_cons,
      List.not_mem_nil, or_false] at named
    rcases named with rfl | rfl
    · exact .inl List.mem_cons_self
    · exact .inr ⟨item, predicate, rfl, object⟩
  | likeValue => exact .inl named

/-- Every descriptor of a requirement has the multiplier one. -/
theorem Requirement.Met.multiplier {registry : Registry} {metrics : Metrics}
    {requirement : Requirement} {descriptor : Descriptor}
    (met : requirement.Met registry metrics descriptor) : descriptor.multiplier = 1 := by
  cases met <;> rfl

/-- The keys of a compiled chain are identifiers, the parent key apart. -/
theorem wellSpelled_of_compile {raw : String} {spacing : Spacing} {registry : Registry}
    {metrics : Metrics} {ds : List Descriptor}
    (compiled : compile raw spacing registry metrics = .ok ds) {d : Descriptor} (present : d ∈ ds)
    {key : String} (named : key ∈ d.keys) :
    key = registry.parentKey ∨ Token.WellSpelled (.ident key) := by
  obtain ⟨chain, parsed, -, stated⟩ := compile_eq_ok_iff.1 compiled
  obtain ⟨requirement, required, met⟩ := exists_mem_of_forall₂ stated present
  rcases met.mem_keys_or_compared named with own | ⟨item, predicate, rfl, compared⟩
  · rcases mem_keys_of_requirements required own with parent | ⟨link, listed, rfl⟩
    · exact .inl parent
    · exact .inr (wellSpelled_of_names parsed listed (.inl rfl))
  · obtain ⟨link, listed, among⟩ := exists_link_of_sized required
    exact .inr (wellSpelled_of_names parsed listed (.inr ⟨predicate, among, compared⟩))

/-- The descriptors of a compiled chain have the multiplier one. -/
theorem multiplier_of_compile {raw : String} {spacing : Spacing} {registry : Registry}
    {metrics : Metrics} {ds : List Descriptor}
    (compiled : compile raw spacing registry metrics = .ok ds) {d : Descriptor}
    (present : d ∈ ds) : d.multiplier = 1 := by
  obtain ⟨chain, -, -, stated⟩ := compile_eq_ok_iff.1 compiled
  obtain ⟨requirement, -, met⟩ := exists_mem_of_forall₂ stated present
  exact met.multiplier

end Chain

namespace Constraint

variable {spacing : Spacing} {registry : Registry} {metrics : Metrics} {d : Descriptor}

/-- Descriptors that are equal have the same keys. -/
theorem keys_of_equal {again : Descriptor} (equal : again.equal d = true) :
    again.keys = d.keys := by
  simp only [Descriptor.equal, Bool.and_eq_true, decide_eq_true_eq] at equal
  obtain ⟨⟨⟨⟨⟨first, -⟩, second⟩, -⟩, -⟩, -⟩ := equal
  rw [Descriptor.keys, Descriptor.keys, first, second]

/-- The text of a descriptor of two anchors, without a priority, with finite numbers and a
multiplier without a sign, compiles to that descriptor exactly when an equation can be written with
its keys. -/
theorem text_compiles_back_iff {second : Anchor} (two : d.second = some second)
    (unweighted : d.priority = none) (scaled : d.multiplier.isFinite = true)
    (unsigned : d.multiplier.signBit = false) (shifted : d.constant.isFinite = true) :
    (∃ again, compile d.text spacing registry metrics none = .ok [again] ∧
        again.equal d = true) ↔ ∀ key ∈ d.keys, Equation.Usable registry key := by
  have written := Descriptor.toList_text two unweighted
  have isEquation : isEquation d.text = true := by
    rw [Constraint.isEquation, written]
    rfl
  simp only [compile, descriptors, isEquation, if_true, map_eq_ok_iff]
  constructor
  · rintro ⟨again, ⟨_, ⟨found, compiled, rfl⟩, same⟩, equal⟩
    obtain rfl := List.singleton_injective same
    obtain ⟨other, present, -, firstUsable, otherUsable⟩ := Equation.usable_of_compile compiled
    rw [← keys_of_equal equal, Descriptor.keys, present]
    simpa using ⟨firstUsable, otherUsable⟩
  · intro usable
    rw [Descriptor.keys, two] at usable
    have first := usable d.first.key List.mem_cons_self
    have other := usable second.key (List.mem_cons_of_mem _ List.mem_cons_self)
    have spells := Descriptor.spells_wording first.spelled other.spelled scaled unsigned shifted
    have means : (d.wording second).Means metrics d.rewritten :=
      Descriptor.means_wording two scaled unsigned shifted
    have compiled : Equation.compile d.text registry metrics = .ok d.rewritten :=
      Equation.Wording.compile_of_means spells written first.short other.short first.known
        other.known means
    exact ⟨d.rewritten, ⟨_, ⟨_, compiled, rfl⟩, rfl⟩,
      Descriptor.equal_rewritten unweighted scaled shifted⟩

/-- A descriptor of two anchors that was compiled from a chain, without a priority and with a finite
constant, is compiled from its own text again, with the same registry and metrics, exactly when its
keys are short enough for an equation and the parent key, if it is one of them, is an identifier.
Its constant comes back as an equal number. The parent key has to stand for a container. -/
theorem chain_text_compiles_back_iff {raw : String} (chain : isEquation raw = false)
    {ds : List Descriptor} (compiled : compile raw spacing registry metrics none = .ok ds)
    (present : d ∈ ds) {second : Anchor} (two : d.second = some second)
    (unweighted : d.priority = none) (shifted : d.constant.isFinite = true)
    (contained : registry.parentKey ∈ d.keys → registry.container ≠ none) :
    (∃ again, compile d.text spacing registry metrics none = .ok [again] ∧
        again.equal d = true) ↔
      (∀ key ∈ d.keys, key.utf8ByteSize ≤ 31) ∧
        (registry.parentKey ∈ d.keys → Token.WellSpelled (.ident registry.parentKey)) := by
  have lowered : Chain.compile raw spacing registry metrics = .ok ds := by
    simp only [compile, descriptors, chain, Bool.false_eq_true, if_false, map_eq_ok_iff,
      mapError_eq_ok_iff] at compiled
    obtain ⟨found, lowered, rfl⟩ := compiled
    exact lowered
  have one := Chain.multiplier_of_compile lowered present
  have scaled : d.multiplier.isFinite = true := by
    rw [one]
    decide +kernel
  have unsigned : d.multiplier.signBit = false := by
    rw [one]
    decide +kernel
  rw [text_compiles_back_iff two unweighted scaled unsigned shifted]
  constructor
  · intro usable
    exact ⟨fun key named => (usable key named).short, fun named => (usable _ named).spelled⟩
  · rintro ⟨short, spelled⟩ key named
    refine ⟨?_, short key named, ?_⟩
    · rcases Chain.wellSpelled_of_compile lowered present named with rfl | identifier
      · exact spelled named
      · exact identifier
    · rcases Registry.contains_iff.1 (Chain.contains_of_compile lowered present named) with
        known | ⟨rfl, none⟩
      · exact known
      · exact absurd none (contained named)

/-- A gap beside the container and a size that is compared with a view come back. -/
theorem chain_text_compiles_back_iff_of_sized :
    let registry : Registry := ⟨"parent", some ⟨0⟩, .ofList [("a", .view ⟨1⟩), ("b", .view ⟨2⟩)]⟩
    let tied : Descriptor :=
      { first := ⟨"a", .leading⟩, relation := .greaterOrEqual, second := some ⟨"parent", .leading⟩,
        constant := 4 }
    let sized : Descriptor :=
      { first := ⟨"a", .width⟩, relation := .equal, second := some ⟨"b", .width⟩ }
    compile "H:|-(>=4)-[a(b)]" ⟨8, 20⟩ registry .empty none = .ok [tied, sized] ∧
      ∀ d ∈ [tied, sized], ∃ again, compile d.text ⟨8, 20⟩ registry .empty none = .ok [again] ∧
        again.equal d = true := by
  intro registry tied sized
  have compiled : compile "H:|-(>=4)-[a(b)]" ⟨8, 20⟩ registry .empty none = .ok [tied, sized] :=
    eq_ok_of_toOption (by decide +kernel)
  have parentKey : Token.WellSpelled (.ident registry.parentKey) :=
    Token.wellSpelled_of_isIdent (by decide +kernel)
  have container : registry.container ≠ none := by decide
  refine ⟨compiled, List.forall_mem_cons.2 ⟨?_, List.forall_mem_singleton.2 ?_⟩⟩
  · have present : tied ∈ [tied, sized] := List.mem_cons_self
    exact (chain_text_compiles_back_iff (by decide) compiled present rfl rfl (by decide +kernel)
      fun _ => container).2 ⟨by decide, fun _ => parentKey⟩
  · have present : sized ∈ [tied, sized] := List.mem_cons_of_mem _ List.mem_cons_self
    exact (chain_text_compiles_back_iff (by decide) compiled present rfl rfl (by decide +kernel)
      fun _ => container).2 ⟨by decide, fun _ => parentKey⟩

/-- A chain may name a view by a key that is too long for an equation, and it may be tied to a
container whose key is no identifier. Neither descriptor's text compiles. -/
theorem exists_chain_text_rejected :
    let long : Registry := ⟨"parent", some ⟨0⟩,
      .ofList [("the_first_of_all_the_views_inside", .view ⟨1⟩), ("b", .view ⟨2⟩)]⟩
    let spaced : Registry := ⟨"the window", some ⟨0⟩, .ofList [("b", .view ⟨1⟩)]⟩
    let beside : Descriptor :=
      { first := ⟨"b", .leading⟩, relation := .equal,
        second := some ⟨"the_first_of_all_the_views_inside", .trailing⟩, constant := 8 }
    let tied : Descriptor :=
      { first := ⟨"b", .leading⟩, relation := .equal, second := some ⟨"the window", .leading⟩,
        constant := 20 }
    (compile "H:[the_first_of_all_the_views_inside]-[b]" ⟨8, 20⟩ long .empty none = .ok [beside] ∧
      ∀ again, compile beside.text ⟨8, 20⟩ long .empty none ≠ .ok again) ∧
    compile "H:|-[b]" ⟨8, 20⟩ spaced .empty none = .ok [tied] ∧
      ∀ again, compile tied.text ⟨8, 20⟩ spaced .empty none ≠ .ok again := by
  intro long spaced beside tied
  have fails {text : String} {registry : Registry}
      (rejected : (compile text ⟨8, 20⟩ registry .empty none).toOption = none)
      (again : List Descriptor) : compile text ⟨8, 20⟩ registry .empty none ≠ .ok again := by
    intro compiled
    rw [compiled] at rejected
    contradiction
  exact ⟨⟨eq_ok_of_toOption (by decide +kernel), fails (by decide +kernel)⟩,
    eq_ok_of_toOption (by decide +kernel), fails (by decide +kernel)⟩

end Constraint

end ViewLayout
