import ViewLayout.Constraint
import ViewLayout.Proofs.Chain.Requirements
import ViewLayout.Proofs.Equation.Lowering

/-!
# The keys of compiled constraints

A constraint that is compiled names its items by key, and whoever applies it looks the keys up
again. An equation is compiled only when both of its keys stand for something. A chain names three
kinds of keys: its views, which are looked up; the parent key, which is not; and the keys that its
sizes are compared with, which are in use. A key in use stands for something unless it is the
parent key without a container.
-/

namespace ViewLayout

open ViewLayout.Outcome

/-- A key in use stands for something, unless it is the parent key and there is no container. -/
theorem Registry.contains_iff {registry : Registry} {key : String} :
    registry.contains key = true ↔
      registry.Knows key ∨ key = registry.parentKey ∧ registry.container = none := by
  unfold contains Knows
  by_cases parent : key = registry.parentKey
  · simp only [parent, decide_true, Bool.true_or, if_true, true_and]
    exact ⟨fun _ => (em _).symm, fun _ => trivial⟩
  · simp [parent, KeyMap.contains, Option.isSome_iff_exists]

namespace Chain

/-- The keys that a requirement names apart from the objects of its predicate. -/
def Requirement.keys : Requirement → List String
  | .gap first second _ => [first.key, second.key]
  | .spaced first second _ => [first.key, second.key]
  | .sized item _ => [item.key]

/-- The keys of a descriptor are those of the requirement it states and a key in use. -/
theorem Requirement.Met.mem_keys {registry : Registry} {metrics : Metrics}
    {requirement : Requirement} {descriptor : Descriptor} {key : String}
    (met : requirement.Met registry metrics descriptor) (named : key ∈ descriptor.keys) :
    key ∈ requirement.keys ∨ registry.contains key = true := by
  cases met with
  | gap => exact .inl named
  | spaced => exact .inl named
  | likeItem relates object used weighs =>
    simp only [Descriptor.keys, Option.toList_some, List.map_cons, List.map_nil, List.mem_cons,
      List.not_mem_nil, or_false] at named
    rcases named with rfl | rfl
    · exact .inl List.mem_cons_self
    · exact .inr used
  | likeValue => exact .inl named

/-- The requirements of a connection name the keys of the edges it lies between. -/
theorem Connection.mem_keys {connection : Connection} {standard : Number.Binary64}
    {first second : Anchor} {requirement : Requirement} {key : String}
    (present : requirement ∈ connection.requirements standard first second)
    (named : key ∈ requirement.keys) : key = first.key ∨ key = second.key := by
  cases connection with
  | flush =>
    obtain rfl := List.mem_singleton.1 present
    simpa [Requirement.keys] using named
  | standard =>
    obtain rfl := List.mem_singleton.1 present
    simpa [Requirement.keys] using named
  | explicit predicates =>
    obtain ⟨predicate, -, rfl⟩ := List.mem_map.1 present
    simpa [Requirement.keys] using named

/-- The requirements of a view's size name the key of the view. -/
theorem Link.mem_keys {link : Link} {axis : Axis} {requirement : Requirement} {key : String}
    (present : requirement ∈ link.requirements axis) (named : key ∈ requirement.keys) :
    key = link.name.value := by
  obtain ⟨predicate, -, rfl⟩ := List.mem_map.1 present
  exact List.mem_singleton.1 named

/-- The requirements of a chain name its views and the parent key. -/
theorem mem_keys_of_requirements {chain : Chain} {spacing : Spacing} {parentKey : String}
    {requirement : Requirement} {key : String}
    (present : requirement ∈ chain.requirements spacing parentKey)
    (named : key ∈ requirement.keys) :
    key = parentKey ∨ ∃ link ∈ chain.links, key = link.name.value := by
  rcases origin_of_requirement present with
    ⟨connection, -, standard, before, after, gap, first, second⟩ | ⟨link, listed, size⟩
  · rcases Connection.mem_keys gap named with rfl | rfl
    · exact first
    · exact second
  · exact .inr ⟨link, listed, Link.mem_keys size named⟩

/-- The keys of a compiled chain are in use. -/
theorem contains_of_compile {raw : String} {spacing : Spacing} {registry : Registry}
    {metrics : Metrics} {descriptors : List Descriptor}
    (compiled : compile raw spacing registry metrics = .ok descriptors)
    {descriptor : Descriptor} (present : descriptor ∈ descriptors) {key : String}
    (named : key ∈ descriptor.keys) : registry.contains key = true := by
  obtain ⟨chain, -, views, stated⟩ := compile_eq_ok_iff.1 compiled
  obtain ⟨requirement, required, met⟩ := exists_mem_of_forall₂ stated present
  rcases met.mem_keys named with own | used
  · rcases mem_keys_of_requirements required own with rfl | ⟨link, listed, rfl⟩
    · simp [Registry.contains]
    · exact Registry.contains_iff.2 (.inl (views link listed))
  · exact used

end Chain

/-- The keys of a compiled equation stand for something. -/
theorem Equation.knows_of_compile {raw : String} {registry : Registry} {metrics : Metrics}
    {descriptor : Descriptor} (compiled : compile raw registry metrics = .ok descriptor)
    {key : String} (named : key ∈ descriptor.keys) : registry.Knows key := by
  obtain ⟨e, -, resolvable, describes⟩ := compile_eq_ok_iff.1 compiled
  obtain ⟨anchor, second, secondKey, -⟩ := describes.second
  simp only [Descriptor.keys, second, Option.toList_some, List.map_cons, List.map_nil,
    List.mem_cons, List.not_mem_nil, or_false] at named
  rcases named with rfl | rfl
  · rw [describes.first.1]
    exact resolvable.firstKey
  · rw [secondKey]
    exact resolvable.secondKey

namespace Constraint

variable {raw : String} {spacing : Spacing} {registry : Registry} {metrics : Metrics}
  {priority : Option Priority} {descriptors : List Descriptor}

/-- Replacing priorities changes no keys. -/
theorem keys_of_compile (compiled : compile raw spacing registry metrics priority = .ok descriptors)
    {descriptor : Descriptor} (present : descriptor ∈ descriptors) :
    ∃ written, Constraint.descriptors raw spacing registry metrics = .ok written ∧
      ∃ before ∈ written, before.keys = descriptor.keys := by
  obtain ⟨written, lowered, rfl⟩ := map_eq_ok_iff.1 compiled
  refine ⟨written, lowered, ?_⟩
  cases priority with
  | none => exact ⟨descriptor, present, rfl⟩
  | some priority =>
    obtain ⟨before, listed, rfl⟩ := List.mem_map.1 present
    exact ⟨before, listed, rfl⟩

/-- The keys of compiled constraint text are in use, and those of an equation stand for
something. -/
theorem knows_or_contains_of_compile
    (compiled : compile raw spacing registry metrics priority = .ok descriptors)
    {descriptor : Descriptor} (present : descriptor ∈ descriptors) {key : String}
    (named : key ∈ descriptor.keys) :
    registry.Knows key ∨ isEquation raw = false ∧ registry.contains key = true := by
  obtain ⟨written, lowered, before, listed, same⟩ := keys_of_compile compiled present
  rw [← same] at named
  unfold Constraint.descriptors at lowered
  split at lowered
  · obtain ⟨single, compiled, rfl⟩ := map_eq_ok_iff.1 lowered
    obtain rfl := List.mem_singleton.1 listed
    exact .inl (Equation.knows_of_compile compiled named)
  · rename_i chain
    exact .inr ⟨Bool.eq_false_iff.2 chain,
      Chain.contains_of_compile (mapError_eq_ok_iff.1 lowered) listed named⟩

/-- With a container, every key of compiled constraint text stands for something. -/
theorem knows_of_compile (container : registry.container ≠ none)
    (compiled : compile raw spacing registry metrics priority = .ok descriptors)
    {descriptor : Descriptor} (present : descriptor ∈ descriptors) {key : String}
    (named : key ∈ descriptor.keys) : registry.Knows key := by
  rcases knows_or_contains_of_compile compiled present named with known | ⟨-, used⟩
  · exact known
  · exact (Registry.contains_iff.1 used).resolve_right fun parent => container parent.2

/-- Every key of compiled constraint text resolves in the registry it was compiled against, with one
exception: the parent key of a chain when there is no container. -/
theorem compile_keys_resolve
    (compiled : compile raw spacing registry metrics priority = .ok descriptors) :
    ∀ descriptor ∈ descriptors, ∀ key ∈ descriptor.keys,
      (∃ node, registry.resolve key = .ok node) ∨
        isEquation raw = false ∧ key = registry.parentKey ∧ registry.container = none := by
  intro descriptor present key named
  rw [Registry.exists_resolve_iff]
  rcases knows_or_contains_of_compile compiled present named with known | ⟨chain, used⟩
  · exact .inl known
  · rcases Registry.contains_iff.1 used with known | ⟨parent, none⟩
    · exact .inl known
    · exact .inr ⟨chain, parent, none⟩

/-- With a container, a chain may be tied to its edge and compare a view with its size. -/
theorem compile_keys_resolve_of_container :
    let registry : Registry := ⟨"parent", some ⟨0⟩, .ofList [("a", .view ⟨1⟩), ("b", .view ⟨2⟩)]⟩
    let descriptors : List Descriptor := [
      { first := ⟨"a", .leading⟩, relation := .equal, second := some ⟨"parent", .leading⟩,
        constant := 20 },
      { first := ⟨"a", .width⟩, relation := .equal, second := some ⟨"parent", .width⟩ },
      { first := ⟨"b", .leading⟩, relation := .equal, second := some ⟨"a", .trailing⟩,
        constant := 8 }]
    compile "H:|-[a(parent)]-[b]" ⟨8, 20⟩ registry .empty none = .ok descriptors ∧
      ∀ descriptor ∈ descriptors, ∀ key ∈ descriptor.keys,
        (∃ node, registry.resolve key = .ok node) ∨
          isEquation "H:|-[a(parent)]-[b]" = false ∧ key = registry.parentKey ∧
            registry.container = none := by
  intro registry descriptors
  have compiled :
      compile "H:|-[a(parent)]-[b]" ⟨8, 20⟩ registry .empty none = .ok descriptors :=
    eq_ok_of_toOption (by decide +kernel)
  exact ⟨compiled, compile_keys_resolve compiled⟩

/-- Without a container, a chain that is tied to the edge of the container still compiles, and its
descriptor names a parent key that does not resolve. -/
theorem compile_leaves_parent_unresolved :
    let registry : Registry := ⟨"parent", none, .ofList [("a", .view ⟨1⟩)]⟩
    let descriptor : Descriptor :=
      { first := ⟨"a", .leading⟩, relation := .equal, second := some ⟨"parent", .leading⟩,
        constant := 20 }
    (Registry.withoutContainer "parent").register "a" (.view ⟨1⟩) = .ok registry ∧
      compile "H:|-[a]" ⟨8, 20⟩ registry .empty none = .ok [descriptor] ∧
      "parent" ∈ descriptor.keys ∧
      registry.resolve "parent" = .error (.parentUnresolved "parent") := by
  refine ⟨rfl, eq_ok_of_toOption ?_, ?_, rfl⟩
  · decide +kernel
  · decide

end Constraint

end ViewLayout
