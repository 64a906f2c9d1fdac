import ViewLayout.Proofs.Host.Tree
import ViewLayout.Proofs.Host.TreeRuns

/-!
# Runs of all operations on a host

Besides creating and moving views, a host creates guides, sets content priorities and stores
constraints. None of these touches the view tree, so every run of calls on a new host ends in a
forest, whether or not some of the calls fail.
-/

namespace ViewLayout.Host

open ViewLayout.Number

/-- A call on a host. What it is about need not exist. -/
inductive Call where
  /-- Creates, attaches or detaches a view. -/
  | tree (step : TreeStep)
  /-- Creates a guide. -/
  | createGuide (frame : Frame Binary64)
  /-- Sets a content priority of a view. -/
  | setContentPriority (view : ViewId) (priority : Priority) (axis : Axis) (kind : ContentPriority)
  /-- Applies descriptors. -/
  | apply (registry : Registry) (descriptors : List Descriptor)

/-- The host that a call leaves behind, whether or not it fails. -/
def Call.perform (host : Host) : Call → Host
  | tree step => step.perform host
  | createGuide frame => (host.createGuide frame).1
  | setContentPriority view priority axis kind =>
    ((host.setContentPriority view priority axis kind).toOption).getD host
  | apply registry descriptors => (applySteps registry descriptors).left host

/-- The host that calls on a new host lead to. -/
def reached (configuration : Configuration) (calls : List Call) : Host :=
  calls.foldl Call.perform (ofConfiguration configuration)

/-- Setting a content priority, whether or not it fails, leaves the tree as it is. -/
theorem tree_setContentPriority (host : Host) (view : ViewId) (priority : Priority) (axis : Axis)
    (kind : ContentPriority) :
    (((host.setContentPriority view priority axis kind).toOption).getD host).tree = host.tree := by
  unfold setContentPriority Host.view
  cases host.view? view with
  | none => rfl
  | some data => exact tree_setPriority host view priority axis kind

/-- Applying descriptors, whether or not it fails, leaves the tree as it is. -/
theorem applySteps_keeps_tree (registry : Registry) (descriptors : List Descriptor) :
    (applySteps registry descriptors).Keeps tree :=
  .bind (Steps.reading_keeps _) fun _ _ => rfl

/-- Every call leaves a forest behind. -/
theorem IsForest.call {host : Host} (forest : host.IsForest) (call : Call) :
    (call.perform host).IsForest := by
  cases call with
  | tree step => exact forest.perform step
  | createGuide frame => exact forest.of_tree rfl
  | setContentPriority view priority axis kind =>
    exact forest.of_tree (tree_setContentPriority host view priority axis kind)
  | apply registry descriptors =>
    exact forest.of_tree (applySteps_keeps_tree registry descriptors host)

/-- Every run of calls on a new host leaves a forest behind. -/
theorem isForest_reached (configuration : Configuration) (calls : List Call) :
    (reached configuration calls).IsForest := by
  unfold reached
  induction calls using List.reverseRecOn with
  | nil => exact isForest_ofConfiguration configuration
  | append_singleton calls call ih =>
    rw [List.foldl_append]
    exact ih.call call

end ViewLayout.Host
