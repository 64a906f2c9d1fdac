import ViewLayout.Proofs.Builder.Operations
import ViewLayout.Proofs.Host.Tree

/-!
# Builders on a forest

A builder is grounded when the views of its host form a forest and its parent key stands for a
container that the host created. Every operation keeps a builder grounded, whatever nodes it
registers: a key may stand for a node of another host, which shows only where a constraint names
the key.
-/

namespace ViewLayout.Builder

open ViewLayout.Outcome

/-- The views of the host form a forest, and the parent key stands for a container that the host
created. -/
structure Grounded (builder : Builder) : Prop where
  /-- The views form a forest. -/
  forest : builder.host.IsForest
  /-- The host created the container. -/
  created : builder.host.knows (.view builder.container) = true
  /-- The parent key stands for the container. -/
  parent : builder.registry.container = some builder.container

/-- A new builder on a forest is grounded if the host created its container. -/
theorem grounded_ofHost {host : Host} {container : ViewId} (configuration : Configuration)
    (forest : host.IsForest) (created : host.knows (.view container) = true) :
    (ofHost host container configuration).Grounded :=
  ⟨forest, created, rfl⟩

namespace Grounded

variable {builder : Builder} (grounded : builder.Grounded)

include grounded

/-- A change of the host that leaves the tree as it is. -/
theorem withTree {host : Host} (same : host.tree = builder.host.tree) :
    Grounded { builder with host } := by
  have known := Host.knows_of_tree same builder.container
  exact ⟨grounded.forest.of_tree same, known.trans grounded.created, grounded.parent⟩

/-- Creating, attaching or detaching a view, whether or not it fails. -/
theorem withStep (step : Host.TreeStep) :
    Grounded { builder with host := step.perform builder.host } := by
  refine ⟨grounded.forest.perform step, ?_, grounded.parent⟩
  cases step with
  | create content => exact Host.knows_createView grounded.created content
  | attach parent child =>
    have same := Host.attachSteps_keeps parent child builder.host
    exact (Host.knows_of_inventory same _).trans grounded.created
  | detach view =>
    have same := Host.detachSteps_keeps view builder.host
    exact (Host.knows_of_inventory same _).trans grounded.created

/-- A change of the keys that leaves the container. -/
theorem withRegistry {registry : Registry}
    (same : registry.container = builder.registry.container) :
    Grounded { builder with registry } :=
  ⟨grounded.forest, grounded.created, same.trans grounded.parent⟩

/-- Registering any node. -/
theorem register {key : String} {node : Node} {next : Builder}
    (done : builder.register key node = .ok next) : next.Grounded := by
  obtain ⟨registry, registered, rfl⟩ := register_eq_ok_iff.1 done
  have container := (Registry.resolve_of_register registered).2.1
  exact grounded.withRegistry container

/-- Applying a text, whether or not it fails. -/
theorem applyText (raw : String) (priority : Option Priority) :
    ((applyText raw priority).left builder).Grounded := by
  obtain ⟨constraints, applied, same⟩ := builder.exists_of_applyText raw priority
  rw [same]
  have stores : Grounded { builder with host := { builder.host with constraints } } :=
    grounded.withTree rfl
  exact ⟨stores.forest, stores.created, stores.parent⟩

end Grounded

/-- Every change of an operation keeps a builder grounded. -/
theorem kept_grounded : Kept Grounded fun _ => True where
  tree _ grounded step := grounded.withStep step
  guide _ grounded _ := grounded.withTree rfl
  priorities _ grounded _ _ _ _ _ set := grounded.withTree (Host.tree_of_setPriorityBelow set)
  register _ grounded _ _ _ _ done := grounded.register done
  unregister builder grounded keys :=
    grounded.withRegistry (Registry.container_unregister builder.registry keys)
  options _ grounded _ _ := ⟨grounded.forest, grounded.created, grounded.parent⟩
  text _ grounded raw priority := grounded.applyText raw priority

/-- A builder becomes another by an operation that goes through, whatever nodes it registers. -/
def Becomes (builder next : Builder) : Prop :=
  ∃ operation : Operation, builder.perform operation = .ok next

/-- Every run of operations keeps a builder grounded. -/
theorem Grounded.run {builder later : Builder} (grounded : builder.Grounded)
    (reached : Relation.ReflTransGen Becomes builder later) : later.Grounded := by
  induction reached with
  | refl => exact grounded
  | tail _ step ih =>
    obtain ⟨operation, done⟩ := step
    exact kept_grounded.perform ih (fun _ _ => trivial) done

end ViewLayout.Builder
