import Mathlib.Logic.Relation
import ViewLayout.Proofs.Builder.Applying
import ViewLayout.Proofs.Builder.Runs
import ViewLayout.Proofs.Host.Inventory
import ViewLayout.Proofs.Registry.Bindings

/-!
# Operations on a builder

Every operation on a builder keeps it consistent and lets what its host stores only grow at the end
(`Grown`), as long as it registers nodes of the host. So a handle, once issued, stands for the same
constraint between the same nodes for good, whatever its keys stand for later, and what applying a
text does is decided by compiling it in every builder that operations lead to.
-/

namespace ViewLayout

namespace Builder

open ViewLayout.Number ViewLayout.Outcome

/-- A consistent builder has come out of another: its host still has all nodes and, at the same
places, all constraints. -/
structure Grown (before after : Builder) : Prop where
  /-- The keys, the texts and the host still agree. -/
  consistent : after.Consistent
  /-- No node is lost. -/
  nodes : ∀ node, before.host.knows node = true → after.host.knows node = true
  /-- No constraint is lost or changed. -/
  constraints : before.host.constraints <+: after.host.constraints

namespace Grown

theorem refl {builder : Builder} (consistent : builder.Consistent) : builder.Grown builder :=
  ⟨consistent, fun _ known => known, List.prefix_rfl⟩

theorem trans {before middle after : Builder} (first : before.Grown middle)
    (later : middle.Grown after) : before.Grown after :=
  ⟨later.consistent, fun node known => later.nodes node (first.nodes node known),
    first.constraints.trans later.constraints⟩

end Grown

/-! ## What the steps of operations keep -/

namespace Consistent

variable {builder : Builder} (consistent : builder.Consistent)

include consistent

/-- A change of the host that loses no node and touches no constraint. -/
theorem grown_host {host : Host}
    (nodes : ∀ node, builder.host.knows node = true → host.knows node = true)
    (constraints : host.constraints = builder.host.constraints) :
    builder.Grown { builder with host } where
  consistent := {
    parent := consistent.parent
    container := nodes _ consistent.container
    entries := fun key node registered => nodes node (consistent.entries key node registered)
    stored := by
      rw [← consistent.stored]
      exact congrArg _ constraints
    handles := by
      rw [consistent.handles]
      exact congrArg (fun stored => (List.range stored.length).map Host.Handle.mk) constraints.symm
    paired := consistent.paired }
  nodes := nodes
  constraints := by
    rw [← constraints]

/-- A change of the host that keeps its inventory. -/
theorem grown_inventory {host : Host} (same : host.inventory = builder.host.inventory) :
    builder.Grown { builder with host } :=
  consistent.grown_host (fun node known => (Host.knows_of_inventory same node).trans known)
    (Host.constraints_of_inventory same)

/-- A change of the keys that leaves the container and registers known nodes alone. -/
theorem grown_registry {registry : Registry}
    (parent : registry.container = builder.registry.container)
    (entries : ∀ key node, registry.entries.get? key = some node →
      builder.host.knows node = true) : builder.Grown { builder with registry } where
  consistent := {
    parent := parent.trans consistent.parent
    container := consistent.container
    entries := entries
    stored := consistent.stored
    handles := consistent.handles
    paired := consistent.paired }
  nodes := fun _ known => known
  constraints := List.prefix_rfl

/-- A change of nothing but the metrics and the use of guides. -/
theorem grown_options {metrics : Metrics} {hasGuides : Bool} :
    builder.Grown { builder with metrics, hasGuides } where
  consistent := {
    parent := consistent.parent
    container := consistent.container
    entries := consistent.entries
    stored := consistent.stored
    handles := consistent.handles
    paired := consistent.paired }
  nodes := fun _ known => known
  constraints := List.prefix_rfl

/-- Registering a known node. -/
theorem grown_register {key : String} {node : Node} {next : Builder}
    (known : builder.host.knows node = true) (done : builder.register key node = .ok next) :
    builder.Grown next := by
  obtain ⟨registry, registered, rfl⟩ := register_eq_ok_iff.1 done
  obtain ⟨-, rfl⟩ := Registry.register_eq_ok_iff.1 registered
  refine consistent.grown_registry rfl fun other found bound => ?_
  rw [KeyMap.get?_insert] at bound
  split at bound
  · exact Option.some.inj bound ▸ known
  · exact consistent.entries other found bound

/-- Applying a text, whether or not it fails. -/
theorem grown_applyText (raw : String) (priority : Option Priority) :
    builder.Grown ((applyText raw priority).left builder) := by
  have law := consistent.applyLaw raw priority
  cases compiled : builder.host.compile raw builder.registry builder.metrics priority with
  | error error =>
    rw [Steps.left_of_error (law.refused error compiled).1]
    exact .refl consistent
  | ok descriptors =>
    obtain ⟨stored, stores, applied⟩ := law.accepted descriptors compiled
    rw [Steps.left_of_ok applied]
    exact ⟨consistent.withText raw stores, fun _ known => known, List.prefix_append _ _⟩

/-- Unregistering keys. -/
theorem grown_unregister (keys : List String) :
    builder.Grown { builder with registry := (builder.registry.unregister keys).1 } :=
  consistent.grown_registry (Registry.container_unregister _ keys) fun key node bound =>
    consistent.entries key node (Registry.get?_of_unregister bound)

end Consistent

/-! ## Operations -/

/-- What a builder has grown into grows further by every change of an operation that registers known
nodes. -/
theorem kept_grown (builder : Builder) :
    Kept builder.Grown (builder.host.knows · = true) where
  tree middle grown step := by
    cases step with
    | create content =>
      have nodes node (there : middle.host.knows node = true) :=
        Host.knows_createView there content
      exact grown.trans (grown.consistent.grown_host nodes rfl)
    | attach parent child =>
      have same := Host.attachSteps_keeps parent child middle.host
      exact grown.trans (grown.consistent.grown_inventory same)
    | detach view =>
      have same := Host.detachSteps_keeps view middle.host
      exact grown.trans (grown.consistent.grown_inventory same)
  guide middle grown frame := by
    have nodes node (there : middle.host.knows node = true) := Host.knows_createGuide there frame
    exact grown.trans (grown.consistent.grown_host nodes rfl)
  priorities middle grown view priority axis kind host set :=
    grown.trans (grown.consistent.grown_inventory (Host.inventory_of_setPriorityBelow set))
  register middle grown key node known next done :=
    grown.trans (grown.consistent.grown_register (grown.nodes node known) done)
  unregister middle grown keys := grown.trans (grown.consistent.grown_unregister keys)
  options middle grown metrics hasGuides := grown.trans grown.consistent.grown_options
  text middle grown raw priority := grown.trans (grown.consistent.grown_applyText raw priority)

/-- Every operation that registers known nodes makes the builder grow. -/
theorem Consistent.grown_perform {builder next : Builder} (consistent : builder.Consistent)
    {operation : Operation} (known : ∀ node ∈ operation.nodes, builder.host.knows node = true)
    (done : builder.perform operation = .ok next) : builder.Grown next :=
  (kept_grown builder).perform (.refl consistent) known done

/-- Every run of operations makes the builder grow. -/
theorem Consistent.grown_run {builder later : Builder} (consistent : builder.Consistent)
    (reached : Relation.ReflTransGen Step builder later) : builder.Grown later := by
  induction reached with
  | refl => exact .refl consistent
  | tail _ step ih =>
    obtain ⟨operation, known, done⟩ := step
    exact ih.trans (ih.consistent.grown_perform known done)

/-- A new builder on a host without constraints is consistent. -/
theorem consistent_ofHost {host : Host} {container : ViewId} (configuration : Configuration)
    (empty : host.constraints = []) (created : host.knows (.view container) = true) :
    (ofHost host container configuration).Consistent where
  parent := rfl
  container := created
  entries _ _ bound := by contradiction
  stored := by
    rw [ofHost, empty]
    rfl
  handles := by
    rw [ofHost, empty]
    rfl
  paired _ present := by contradiction

/-- Whatever a builder on a host without constraints has been used for, applying a text either
leaves it as it was, with an error that is no refusal of the host, or stores the text whole and
changes nothing else. What the host has stored, no later operation changes, and it is at all times
the descriptors of the applied texts. -/
theorem applyLaw_of_reached {host : Host} {container : ViewId} {configuration : Configuration}
    {builder : Builder} (empty : host.constraints = [])
    (created : host.knows (.view container) = true)
    (reached : Relation.ReflTransGen Step (ofHost host container configuration) builder) :
    (∀ raw priority, builder.ApplyLaw raw priority) ∧
      (∀ later, Relation.ReflTransGen Step builder later → ∀ text ∈ builder.applied,
        ∀ handle ∈ text.handles, ∃ stored,
          builder.host.constraints[handle.index]? = some stored ∧
            later.host.constraints[handle.index]? = some stored) ∧
      builder.host.constraints.map Applied.descriptor =
        builder.applied.flatMap AppliedText.descriptors := by
  have begins := consistent_ofHost configuration empty created
  have consistent := (begins.grown_run reached).consistent
  refine ⟨consistent.applyLaw, ?_, consistent.stored⟩
  intro later further text present handle issued
  have among : handle ∈ (List.range builder.host.constraints.length).map Host.Handle.mk := by
    rw [← consistent.handles]
    exact List.mem_flatMap.2 ⟨text, present, issued⟩
  obtain ⟨index, inside, rfl⟩ := List.mem_map.1 among
  have bound := List.mem_range.1 inside
  refine ⟨builder.host.constraints[index], List.getElem?_eq_getElem bound, ?_⟩
  obtain ⟨more, same⟩ := (consistent.grown_run further).constraints
  rw [← same, List.getElem?_append_left bound, List.getElem?_eq_getElem bound]

/-- A view is registered and tied to the container, and what is then stored stays. -/
theorem applyLaw_of_reached_one_text :
    let start := ofHost { spacing := ⟨8, 20⟩, views := [{}, {}] } ⟨0⟩ {}
    let registered := { start with
      registry := { start.registry with entries := .ofList [("a", .view ⟨1⟩)] }
      host := { start.host with
        views := [{ children := [⟨1⟩] }, { parent := some ⟨0⟩ }] } }
    let builder := (applyText "H:|-[a]" none).left registered
    start.perform (.addViews [("a", ⟨1⟩)]) = .ok registered ∧
      registered.perform (.tryConstraint "H:|-[a]" none) = .ok builder ∧
      builder.applied.map AppliedText.handles = [[⟨0⟩]] ∧
      (∀ raw priority, builder.ApplyLaw raw priority) ∧
      (∀ later, Relation.ReflTransGen Step builder later → ∀ text ∈ builder.applied,
        ∀ handle ∈ text.handles, ∃ stored,
          builder.host.constraints[handle.index]? = some stored ∧
            later.host.constraints[handle.index]? = some stored) ∧
      builder.host.constraints.map Applied.descriptor =
        builder.applied.flatMap AppliedText.descriptors := by
  intro start registered builder
  have first : start.Step registered := ⟨.addViews [("a", ⟨1⟩)], by decide, rfl⟩
  have second : registered.Step builder :=
    ⟨.tryConstraint "H:|-[a]" none, by simp [Operation.nodes], rfl⟩
  refine ⟨rfl, rfl, ?_, applyLaw_of_reached rfl rfl (.tail (.single first) second)⟩
  decide +kernel

end Builder

end ViewLayout
