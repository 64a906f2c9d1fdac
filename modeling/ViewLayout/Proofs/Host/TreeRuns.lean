import ViewLayout.Proofs.Host.Moving

/-!
# Runs of the tree operations

Every run of creating, attaching and detaching views on a new host ends in a forest, whatever views
the calls are about. `AttachLaw` and `DetachLaw` say what the next call then does: when it fails,
that it leaves the host as it is when it fails, and all that it changes when it goes through.
-/

namespace ViewLayout.Host

open ViewLayout.Number

/-- A call on the view tree of a host. Its views need not exist, and may be related in any way. -/
inductive TreeStep where
  /-- Creates a view. -/
  | create (content : Option (PerAxis Binary64))
  /-- Puts a view last among the children of a view. -/
  | attach (parent child : ViewId)
  /-- Takes a view out of its parent and out of layout. -/
  | detach (view : ViewId)

/-- The host that a call leaves behind, whether or not it fails. -/
def TreeStep.perform (host : Host) : TreeStep → Host
  | create content => (host.createView content).1
  | attach parent child => (attachSteps parent child).left host
  | detach view => (detachSteps view).left host

/-- The host that calls on a new host lead to. -/
def grown (configuration : Configuration) (steps : List TreeStep) : Host :=
  steps.foldl TreeStep.perform (ofConfiguration configuration)

/-- A host without views is a forest. -/
theorem isForest_ofConfiguration (configuration : Configuration) :
    (ofConfiguration configuration).IsForest where
  parents _ _ found := by contradiction
  children _ _ listed := by contradiction
  agree _ _ := by simp [Host.children, parent?, view?, ofConfiguration]
  nodup _ := .nil
  rooted _ := ⟨1, rfl⟩
  loose _ _ := rfl

/-- Every call leaves a forest behind. -/
theorem IsForest.perform {host : Host} (forest : host.IsForest) (step : TreeStep) :
    (step.perform host).IsForest := by
  cases step with
  | create content => exact forest.createView content
  | attach parent child =>
    obtain ⟨there, known, clear, done⟩ | ⟨-, fault, failed⟩ := forest.attachSteps_eq parent child
    · rw [TreeStep.perform, Steps.left_of_ok done]
      exact forest.reattached there known clear
    · rw [TreeStep.perform, Steps.left_of_error failed]
      exact forest
  | detach view =>
    obtain ⟨known, done⟩ | ⟨-, fault, failed⟩ := forest.detachSteps_eq view
    · rw [TreeStep.perform, Steps.left_of_ok done]
      exact forest.loosened known
    · rw [TreeStep.perform, Steps.left_of_error failed]
      exact forest

/-- Every run of calls on a new host leaves a forest behind. -/
theorem isForest_grown (configuration : Configuration) (steps : List TreeStep) :
    (grown configuration steps).IsForest := by
  unfold grown
  induction steps using List.reverseRecOn with
  | nil => exact isForest_ofConfiguration configuration
  | append_singleton steps step ih =>
    rw [List.foldl_append]
    exact ih.perform step

/-- A host is the result of attaching a view to a parent in another host. -/
structure Attached (host : Host) (parent child : ViewId) (after : Host) : Prop where
  /-- The child is the last child of the parent, and comes once. -/
  last : after.children parent = (host.children parent).filter (· ≠ child) ++ [child]
  /-- The old parent loses the child alone. -/
  old : ∀ view, host.parent? child = some view → view ≠ parent →
    after.children view = (host.children view).filter (· ≠ child)
  /-- No other view has its children changed. -/
  others : ∀ view, host.parent? child ≠ some view → view ≠ parent →
    after.children view = host.children view
  /-- The child has the new parent; no other view has its parent changed. -/
  parents : ∀ view, after.parent? view = if view = child then some parent else host.parent? view
  /-- The child is not detached; no other view changes in this. -/
  detached : ∀ view, after.isDetached view = if view = child then false else host.isDetached view
  /-- Nothing changes outside the tree. -/
  outside : after.outsideTree = host.outsideTree

/-- A host is the result of detaching a view in another host. -/
structure Detached (host : Host) (view : ViewId) (after : Host) : Prop where
  /-- The parent loses the view alone. -/
  old : ∀ other, host.parent? view = some other →
    after.children other = (host.children other).filter (· ≠ view)
  /-- No other view has its children changed. -/
  others : ∀ other, host.parent? view ≠ some other → after.children other = host.children other
  /-- The view has no parent; no other view has its parent changed. -/
  parents : ∀ other, after.parent? other = if other = view then none else host.parent? other
  /-- The view is detached; no other view changes in this. -/
  detached : ∀ other, after.isDetached other = if other = view then true else host.isDetached other
  /-- Nothing changes outside the tree. -/
  outside : after.outsideTree = host.outsideTree

/-- What attaching a view to a parent does in a host. -/
structure AttachLaw (host : Host) (parent child : ViewId) : Prop where
  /-- The climb from the parent ends, with the outcome that the bounded climb has. -/
  ends : ∀ outcome, host.Climbs parent child (some parent) outcome ↔
    outcome = host.checkNotAbove parent child (host.views.length + 1) (some parent)
  /-- Attaching fails when a view is unknown, or when the child is the parent or lies above it. -/
  fails_iff : (∃ fault after, attachSteps parent child host = .error fault after) ↔
    ¬host.knows (.view parent) = true ∨ ¬host.knows (.view child) = true ∨
      host.AtOrAbove child parent
  /-- Attaching leaves the host as it was when it fails. -/
  unchanged : ∀ fault after, attachSteps parent child host = .error fault after → after = host
  /-- Attaching moves the child when it goes through. -/
  moves : ∀ after, attachSteps parent child host = .ok () after → host.Attached parent child after

/-- What detaching a view does in a host. -/
structure DetachLaw (host : Host) (view : ViewId) : Prop where
  /-- Detaching fails when the view is unknown. -/
  fails_iff : (∃ fault after, detachSteps view host = .error fault after) ↔
    ¬host.knows (.view view) = true
  /-- Detaching leaves the host as it was when it fails. -/
  unchanged : ∀ fault after, detachSteps view host = .error fault after → after = host
  /-- Detaching loosens the view when it goes through. -/
  loosens : ∀ after, detachSteps view host = .ok () after → host.Detached view after

namespace IsForest

variable {host : Host} (forest : host.IsForest)

include forest

/-- What attaching leaves is what attaching is to lead to. -/
theorem attached_reattached {parent child : ViewId} (there : host.knows (.view parent) = true)
    (known : host.knows (.view child) = true) :
    host.Attached parent child (host.reattached parent child) where
  last := by rw [forest.children_reattached there, if_pos rfl]
  old view _ other := by rw [forest.children_reattached there, if_neg other, List.append_nil]
  others view elsewhere other := by
    rw [forest.children_reattached there, if_neg other, List.append_nil,
      forest.filter_children_of_ne elsewhere]
  parents view := parent?_reattached parent child view known
  detached := isDetached_reattached parent child
  outside := outsideTree_reattached host parent child

/-- What detaching leaves is what detaching is to lead to. -/
theorem detached_loosened {view : ViewId} (known : host.knows (.view view) = true) :
    host.Detached view (host.loosened view) where
  old other _ := forest.children_loosened
  others other elsewhere := by
    rw [forest.children_loosened, forest.filter_children_of_ne elsewhere]
  parents := parent?_loosened view
  detached other := isDetached_loosened view other known
  outside := outsideTree_loosened host view

/-- Attaching does in a forest what it is to do. -/
theorem attachLaw (parent child : ViewId) : host.AttachLaw parent child := by
  obtain ⟨there, known, clear, done⟩ | ⟨refused, fault, failed⟩ :=
    forest.attachSteps_eq parent child
  · refine ⟨forest.climbs_iff parent child, ?_, ?_, ?_⟩
    · simp [done, there, known, clear]
    · simp [done]
    · rw [done]
      rintro after ⟨⟩
      exact forest.attached_reattached there known
  · refine ⟨forest.climbs_iff parent child, ?_, ?_, ?_⟩
    · simp only [failed]
      tauto
    · rw [failed]
      rintro _ after ⟨⟩
      rfl
    · simp [failed]

/-- Detaching does in a forest what it is to do. -/
theorem detachLaw (view : ViewId) : host.DetachLaw view := by
  obtain ⟨known, done⟩ | ⟨unknown, fault, failed⟩ := forest.detachSteps_eq view
  · refine ⟨?_, ?_, ?_⟩
    · simp [done, known]
    · simp [done]
    · rw [done]
      rintro after ⟨⟩
      exact forest.detached_loosened known
  · refine ⟨?_, ?_, ?_⟩
    · simp [failed, unknown]
    · rw [failed]
      rintro _ after ⟨⟩
      rfl
    · simp [failed]

end IsForest

/-- Whatever is created, attached and detached on a new host, its views form a forest, and the next
move of a view does what it is to do or leaves the host as it is. -/
theorem grown_forest_with_laws (configuration : Configuration) (steps : List TreeStep) :
    (grown configuration steps).IsForest ∧
      (∀ parent child, (grown configuration steps).AttachLaw parent child) ∧
      ∀ view, (grown configuration steps).DetachLaw view := by
  have forest := isForest_grown configuration steps
  exact ⟨forest, forest.attachLaw, forest.detachLaw⟩

end ViewLayout.Host
