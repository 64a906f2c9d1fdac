import ViewLayout.Builder
import ViewLayout.Proofs.Constraint.Faults
import ViewLayout.Proofs.Constraint.Keys

/-!
# Applying constraint text

A text is applied in two passes: it is compiled, which looks its keys up, and then every key of
every descriptor is looked up again and its node checked against the host. In a consistent builder
the second pass finds what the first one found, so that compiling decides the outcome: a text that
does not compile changes nothing, and one that does is stored whole, behind everything that was
stored before it.
-/

namespace ViewLayout

open ViewLayout.Outcome

/-- A stored constraint is a descriptor with the nodes that its keys stand for. -/
structure Host.Stores (registry : Registry) (descriptor : Descriptor) (applied : Applied) :
    Prop where
  /-- The descriptor is stored as it is. -/
  kept : applied.descriptor = descriptor
  /-- The first node is that of the first key. -/
  first : registry.resolve descriptor.first.key = .ok applied.first
  /-- The second node is that of the second key, if there is one. -/
  second : Option.Rel (fun anchor node => registry.resolve anchor.key = .ok node)
    descriptor.second applied.second

/-- The handles of the next constraints that are applied to a host. -/
def Host.nextHandles (host : Host) (count : Nat) : List Host.Handle :=
  (List.range count).map fun i => ⟨host.constraints.length + i⟩

namespace Builder

/-- The keys of a builder stand for nodes of its host, and its applied texts are what the host
stores. -/
structure Consistent (builder : Builder) : Prop where
  /-- The parent key stands for the container. -/
  parent : builder.registry.container = some builder.container
  /-- The host created the container. -/
  container : builder.host.knows (.view builder.container) = true
  /-- The host created every registered node. -/
  entries : ∀ key node, builder.registry.entries.get? key = some node →
    builder.host.knows node = true
  /-- The host stores the descriptors of the applied texts, in their order. -/
  stored : builder.host.constraints.map Applied.descriptor =
    builder.applied.flatMap AppliedText.descriptors
  /-- The applied texts have the handles of what the host stores, in their order. -/
  handles : builder.applied.flatMap AppliedText.handles =
    (List.range builder.host.constraints.length).map Host.Handle.mk
  /-- Every applied text has one handle for each of its descriptors. -/
  paired : ∀ text ∈ builder.applied, text.handles.length = text.descriptors.length

/-! ## Registering and attaching -/

/-- A node is registered in the registry of a builder, and nothing else changes. -/
theorem register_eq_ok_iff {builder next : Builder} {key : String} {node : Node} :
    builder.register key node = .ok next ↔
      ∃ registry, builder.registry.register key node = .ok registry ∧
        next = { builder with registry } := by
  unfold register
  cases builder.registry.register key node with
  | error fault => simp
  | ok registry => simp [eq_comm]

/-- A view is attached in the host of a builder, and nothing else changes. -/
theorem attach_eq_ok_iff {builder next : Builder} {parent child : ViewId} :
    builder.attach parent child = .ok next ↔
      ∃ host, builder.host.attach parent child = .ok host ∧ next = { builder with host } := by
  simp only [attach, onHost, bind_eq_ok_iff, mapError_eq_ok_iff, Except.ok.injEq,
    eq_comm (b := next)]

/-- A view is added by registering it and attaching it to the container. -/
theorem addView_eq_ok_iff {builder next : Builder} {key : String} {view : ViewId} :
    builder.addView key view = .ok next ↔
      ∃ registry host, builder.registry.register key (.view view) = .ok registry ∧
        builder.host.attach builder.container view = .ok host ∧
        next = { builder with registry, host } := by
  simp only [addView, addUnattached, bind_eq_ok_iff, register_eq_ok_iff, attach_eq_ok_iff]
  constructor
  · rintro ⟨_, ⟨registry, registered, rfl⟩, host, attached, rfl⟩
    exact ⟨registry, host, registered, attached, rfl⟩
  · rintro ⟨registry, host, registered, attached, rfl⟩
    exact ⟨_, ⟨registry, registered, rfl⟩, host, attached, rfl⟩

/-! ## Applying -/

/-- The builder after a text was applied. -/
def withText (builder : Builder) (raw : String) (descriptors : List Descriptor)
    (stored : List Applied) : Builder :=
  { builder with
    host := { builder.host with constraints := builder.host.constraints ++ stored }
    applied := builder.applied ++
      [⟨raw, descriptors, builder.host.nextHandles descriptors.length⟩] }

/-- What applying a text does in a builder. -/
structure ApplyLaw (builder : Builder) (raw : String) (priority : Option Priority) : Prop where
  /-- A text that does not compile leaves the builder as it was, with an error that is no refusal of
  the host. -/
  refused : ∀ error,
    builder.host.compile raw builder.registry builder.metrics priority = .error error →
      applyText raw priority builder = .error error builder ∧ error.hostFault? = none
  /-- A text that compiles is stored whole: the host gains its descriptors with the nodes of the
  moment, the builder one applied text, and nothing else changes. -/
  accepted : ∀ descriptors,
    builder.host.compile raw builder.registry builder.metrics priority = .ok descriptors →
      ∃ stored, List.Forall₂ (Host.Stores builder.registry) descriptors stored ∧
        applyText raw priority builder =
          .ok (builder.host.nextHandles descriptors.length) (builder.withText raw descriptors stored)

/-- Stored constraints have the descriptors they were stored for. -/
theorem descriptors_of_stores {registry : Registry} {descriptors : List Descriptor}
    {stored : List Applied} (stores : List.Forall₂ (Host.Stores registry) descriptors stored) :
    stored.map Applied.descriptor = descriptors := by
  induction stores with
  | nil => rfl
  | cons first rest ih => rw [List.map_cons, first.kept, ih]

/-- A text that does not compile changes nothing. -/
theorem applyText_of_error {builder : Builder} {raw : String} {priority : Option Priority}
    {error : ConstraintError}
    (failed : builder.host.compile raw builder.registry builder.metrics priority = .error error) :
    applyText raw priority builder = .error error builder :=
  Steps.bind_of_error (Steps.reading_of_error failed)

/-- The steps of applying a compiled text are those of the host, after which the text is noted. -/
theorem applyText_of_compiled {builder : Builder} {raw : String} {priority : Option Priority}
    {descriptors : List Descriptor}
    (compiled : builder.host.compile raw builder.registry builder.metrics priority =
      .ok descriptors) :
    applyText raw priority builder =
      (Steps.onPart Builder.host (fun builder host => { builder with host })
        (fun fault => ConstraintError.bare (.host fault))
        (Host.applySteps builder.registry descriptors) >>= fun handles => do
          modify fun builder =>
            { builder with applied := builder.applied ++ [⟨raw, descriptors, handles⟩] }
          return handles) builder :=
  calc applyText raw priority builder
      = _ := Steps.bind_of_ok (Steps.reading_of_ok compiled)
    _ = _ := Steps.bind_of_ok
          (rfl : (get : Steps Builder ConstraintError Builder) builder = .ok builder builder)

/-- A text whose keys are found again is stored whole. -/
theorem applyText_of_resolved {builder : Builder} {raw : String} {priority : Option Priority}
    {descriptors : List Descriptor} {stored : List Applied}
    (compiled : builder.host.compile raw builder.registry builder.metrics priority = .ok descriptors)
    (resolved : descriptors.mapM (builder.host.resolveDescriptor builder.registry) = .ok stored) :
    applyText raw priority builder =
      .ok (builder.host.nextHandles descriptors.length)
        (builder.withText raw descriptors stored) := by
  have applied : Host.applySteps builder.registry descriptors builder.host =
      .ok (builder.host.nextHandles descriptors.length)
        { builder.host with constraints := builder.host.constraints ++ stored } := by
    rw [(mapM_eq_ok_iff.1 resolved).length_eq]
    exact Steps.bind_of_ok (Steps.reading_of_ok resolved)
  have placed : Steps.onPart Builder.host (fun builder host => { builder with host })
      (fun fault => ConstraintError.bare (.host fault))
      (Host.applySteps builder.registry descriptors) builder =
        .ok (builder.host.nextHandles descriptors.length)
          { builder with
            host := { builder.host with constraints := builder.host.constraints ++ stored } } := by
    unfold Steps.onPart
    rw [applied]
  calc applyText raw priority builder
      = _ := applyText_of_compiled compiled
    _ = _ := Steps.bind_of_ok placed
    _ = _ := rfl

/-- A text with a key that is not found again changes nothing. -/
theorem applyText_of_unresolved {builder : Builder} {raw : String} {priority : Option Priority}
    {descriptors : List Descriptor} {fault : HostFault}
    (compiled : builder.host.compile raw builder.registry builder.metrics priority = .ok descriptors)
    (failed : descriptors.mapM (builder.host.resolveDescriptor builder.registry) = .error fault) :
    applyText raw priority builder = .error (.bare (.host fault)) builder := by
  have refused : Host.applySteps builder.registry descriptors builder.host =
      .error fault builder.host :=
    Steps.bind_of_error (Steps.reading_of_error failed)
  rw [applyText_of_compiled compiled]
  refine Steps.bind_of_error ?_
  unfold Steps.onPart
  rw [refused]

/-- A text is applied, or fails to, without a change of the keys and the tree. -/
theorem exists_of_applyText (builder : Builder) (raw : String) (priority : Option Priority) :
    ∃ constraints applied, (applyText raw priority).left builder =
      { builder with host := { builder.host with constraints }, applied } := by
  cases compiled : builder.host.compile raw builder.registry builder.metrics priority with
  | error error =>
    rw [Steps.left_of_error (applyText_of_error compiled)]
    exact ⟨_, _, rfl⟩
  | ok descriptors =>
    cases resolved : descriptors.mapM (builder.host.resolveDescriptor builder.registry) with
    | error fault =>
      rw [Steps.left_of_error (applyText_of_unresolved compiled resolved)]
      exact ⟨_, _, rfl⟩
    | ok stored =>
      rw [Steps.left_of_ok (applyText_of_resolved compiled resolved)]
      exact ⟨_, _, rfl⟩

/-- A text is applied by compiling it, finding its keys again and storing what comes of that. -/
theorem addConstraint_eq (builder : Builder) (raw : String) (priority : Option Priority) :
    builder.addConstraint raw priority = (do
      let descriptors ← builder.host.compile raw builder.registry builder.metrics priority
      let stored ← onHost (descriptors.mapM (builder.host.resolveDescriptor builder.registry))
      .ok (builder.withText raw descriptors stored)) := by
  unfold addConstraint Steps.outcome
  cases compiled : builder.host.compile raw builder.registry builder.metrics priority with
  | error error =>
    rw [applyText_of_error compiled]
    rfl
  | ok descriptors =>
    change _ = (onHost (descriptors.mapM _) >>= fun stored =>
      Except.ok (builder.withText raw descriptors stored))
    cases resolved : descriptors.mapM (builder.host.resolveDescriptor builder.registry) with
    | error fault =>
      rw [applyText_of_unresolved compiled resolved]
      rfl
    | ok stored =>
      rw [applyText_of_resolved compiled resolved]
      rfl

/-- A key that the host finds is found in the registry. -/
theorem resolve_of_resolveKey {host : Host} {registry : Registry} {key : String} {node : Node}
    (found : host.resolveKey registry key = .ok node) : registry.resolve key = .ok node := by
  unfold Host.resolveKey at found
  split at found
  · contradiction
  · rename_i other resolved
    split at found
    · rw [resolved, Except.ok.inj found]
    · contradiction

/-- A descriptor that is resolved is stored with the nodes of its keys. -/
theorem stores_of_resolveDescriptor {host : Host} {registry : Registry} {descriptor : Descriptor}
    {applied : Applied} (resolved : host.resolveDescriptor registry descriptor = .ok applied) :
    Host.Stores registry descriptor applied := by
  simp only [Host.resolveDescriptor, bind_eq_ok_iff, Except.ok.injEq] at resolved
  obtain ⟨first, firstFound, second, secondFound, rfl⟩ := resolved
  refine ⟨rfl, resolve_of_resolveKey firstFound, ?_⟩
  cases anchored : descriptor.second with
  | none =>
    rw [anchored] at secondFound
    obtain rfl := Except.ok.inj secondFound
    exact .none
  | some anchor =>
    rw [anchored] at secondFound
    obtain ⟨node, found, rfl⟩ := map_eq_ok_iff.1 secondFound
    exact .some (resolve_of_resolveKey found)

/-- A text that is applied compiles, and the builder stores what it compiles to. -/
theorem exists_stores_of_addConstraint {builder next : Builder} {raw : String}
    {priority : Option Priority} (went : builder.addConstraint raw priority = .ok next) :
    ∃ descriptors stored,
      builder.host.compile raw builder.registry builder.metrics priority = .ok descriptors ∧
      List.Forall₂ (Host.Stores builder.registry) descriptors stored ∧
      next = builder.withText raw descriptors stored := by
  simp only [addConstraint_eq, onHost, bind_eq_ok_iff, mapError_eq_ok_iff, Except.ok.injEq] at went
  obtain ⟨descriptors, compiled, stored, resolved, rfl⟩ := went
  exact ⟨descriptors, stored, compiled,
    (mapM_eq_ok_iff.1 resolved).imp fun _ _ => stores_of_resolveDescriptor, rfl⟩

/-- A key stands for a node that the host created. -/
def Finds (builder : Builder) (key : String) : Prop :=
  ∃ node, builder.registry.resolve key = .ok node ∧ builder.host.knows node = true

/-- A key that stands for a node of the host stands for something. -/
theorem Finds.knows {builder : Builder} {key : String} (finds : builder.Finds key) :
    builder.registry.Knows key := by
  obtain ⟨node, found, -⟩ := finds
  exact Registry.exists_resolve_iff.1 ⟨node, found⟩

/-- A descriptor whose keys stand for nodes of the host is stored with these nodes. -/
theorem exists_stores_of_finds {builder : Builder} {descriptor : Descriptor}
    (finds : ∀ key ∈ descriptor.keys, builder.Finds key) :
    ∃ applied, builder.host.resolveDescriptor builder.registry descriptor = .ok applied ∧
      Host.Stores builder.registry descriptor applied := by
  have again {key : String} {node : Node} (found : builder.registry.resolve key = .ok node)
      (known : builder.host.knows node = true) :
      builder.host.resolveKey builder.registry key = .ok node := by
    unfold Host.resolveKey
    simp only [found]
    exact if_pos known
  unfold Descriptor.keys at finds
  obtain ⟨first, firstFound, firstKnown⟩ := finds descriptor.first.key List.mem_cons_self
  unfold Host.resolveDescriptor
  simp only [bind_eq_ok_iff, Except.ok.injEq]
  cases second : descriptor.second with
  | none =>
    refine ⟨_, ⟨first, again firstFound firstKnown, none, rfl, rfl⟩, rfl, firstFound, ?_⟩
    rw [second]
    exact .none
  | some anchor =>
    rw [second] at finds
    obtain ⟨node, found, known⟩ :=
      finds anchor.key (List.mem_cons_of_mem _ List.mem_cons_self)
    refine ⟨_, ⟨first, again firstFound firstKnown, some node, ?_, rfl⟩, rfl, firstFound, ?_⟩
    · simp only [Option.mapM_some, again found known]
      rfl
    · rw [second]
      exact .some found

/-- Descriptors whose keys stand for nodes of the host are all stored. -/
theorem exists_resolved_of_finds {builder : Builder} {descriptors : List Descriptor}
    (finds : ∀ descriptor ∈ descriptors, ∀ key ∈ descriptor.keys, builder.Finds key) :
    ∃ stored, List.Forall₂ (Host.Stores builder.registry) descriptors stored ∧
      descriptors.mapM (builder.host.resolveDescriptor builder.registry) = .ok stored := by
  obtain ⟨stored, both⟩ := exists_forall₂_iff.2 fun descriptor present =>
    exists_stores_of_finds (finds descriptor present)
  exact ⟨stored, both.imp fun _ _ found => found.2,
    mapM_eq_ok_iff.2 (both.imp fun _ _ found => found.1)⟩

/-- A text is applied when it compiles and the keys of its descriptors stand for nodes of the
host. -/
theorem exists_addConstraint {builder : Builder} {raw : String} {priority : Option Priority}
    {descriptors : List Descriptor}
    (compiled : builder.host.compile raw builder.registry builder.metrics priority = .ok descriptors)
    (finds : ∀ descriptor ∈ descriptors, ∀ key ∈ descriptor.keys, builder.Finds key) :
    ∃ stored, builder.addConstraint raw priority =
      .ok (builder.withText raw descriptors stored) := by
  obtain ⟨stored, -, resolved⟩ := exists_resolved_of_finds finds
  simp only [addConstraint_eq, onHost, bind_eq_ok_iff, mapError_eq_ok_iff]
  exact ⟨stored, descriptors, compiled, stored, resolved, rfl⟩

/-- The host created every node that a key stands for. -/
def KeysKnown (builder : Builder) : Prop :=
  ∀ key node, builder.registry.resolve key = .ok node → builder.host.knows node = true

namespace KeysKnown

variable {builder : Builder} (created : builder.KeysKnown)

include created

/-- A key that stands for something stands for a node of the host. -/
theorem finds {key : String} (known : builder.registry.Knows key) : builder.Finds key := by
  obtain ⟨node, found⟩ := Registry.exists_resolve_iff.2 known
  exact ⟨node, found, created key node found⟩

/-- The keys of compiled descriptors are all found a second time. -/
theorem exists_resolved (anchored : builder.registry.container ≠ none) {raw : String}
    {priority : Option Priority} {descriptors : List Descriptor}
    (compiled : builder.host.compile raw builder.registry builder.metrics priority =
      .ok descriptors) :
    ∃ stored, List.Forall₂ (Host.Stores builder.registry) descriptors stored ∧
      descriptors.mapM (builder.host.resolveDescriptor builder.registry) = .ok stored :=
  exists_resolved_of_finds fun _ present _ named =>
    created.finds (Constraint.knows_of_compile anchored compiled present named)

/-- Compiling decides what applying a text does. -/
theorem applyLaw (anchored : builder.registry.container ≠ none) (raw : String)
    (priority : Option Priority) : builder.ApplyLaw raw priority where
  refused error failed :=
    ⟨applyText_of_error failed, Constraint.hostFault?_of_compile failed⟩
  accepted descriptors compiled := by
    obtain ⟨stored, stores, resolved⟩ := created.exists_resolved anchored compiled
    exact ⟨stored, stores, applyText_of_resolved compiled resolved⟩

end KeysKnown

namespace Consistent

variable {builder : Builder} (consistent : builder.Consistent)

include consistent

/-- Every node that a key stands for was created by the host. -/
theorem keysKnown : builder.KeysKnown := by
  intro key node found
  unfold Registry.resolve at found
  split at found
  · rw [consistent.parent] at found
    obtain rfl := Except.ok.inj found
    exact consistent.container
  · split at found
    · rename_i registered
      obtain rfl := Except.ok.inj found
      exact consistent.entries key _ registered
    · contradiction

/-- Compiling decides what applying a text does. -/
theorem applyLaw (raw : String) (priority : Option Priority) : builder.ApplyLaw raw priority := by
  have anchored : builder.registry.container ≠ none := by
    rw [consistent.parent]
    exact Option.some_ne_none _
  exact consistent.keysKnown.applyLaw anchored raw priority

/-- A text that is stored keeps the builder consistent. -/
theorem withText (raw : String) {descriptors : List Descriptor} {stored : List Applied}
    (stores : List.Forall₂ (Host.Stores builder.registry) descriptors stored) :
    (builder.withText raw descriptors stored).Consistent where
  parent := consistent.parent
  container := consistent.container
  entries := consistent.entries
  stored := by
    simp only [Builder.withText, List.map_append, List.flatMap_append, consistent.stored,
      descriptors_of_stores stores, List.flatMap_cons, List.flatMap_nil, List.append_nil]
  handles := by
    simp only [Builder.withText, List.flatMap_append, consistent.handles, List.flatMap_cons,
      List.flatMap_nil, List.append_nil, Host.nextHandles, stores.length_eq, List.length_append,
      List.range_add, List.map_append, List.map_map]
    rfl
  paired := by
    intro text present
    rcases List.mem_append.1 present with before | last
    · exact consistent.paired text before
    · obtain rfl := List.mem_singleton.1 last
      simp [Host.nextHandles]

end Consistent

end Builder

end ViewLayout
