import ViewLayout.Proofs.Host.TreeRuns
import ViewLayout.Proofs.Outcome
import ViewLayout.Proofs.Sequence.Operations

/-!
# Runs of operations on a builder

An operation is made of a few kinds of changes: of the view tree, of content priorities, of the
keys, of the metrics, and by applying texts. What holds of a builder after each of these changes
(`Kept`) holds after every operation, and so after every run of operations.
-/

namespace ViewLayout.Builder

open ViewLayout.Number ViewLayout.Outcome

/-- An operation on a builder or on its host. -/
inductive Operation where
  /-- Creates a view of the host. -/
  | createView (content : Option (PerAxis Binary64))
  /-- Creates a guide of the host. -/
  | createGuide (frame : Frame Binary64)
  /-- Attaches a view of the host, or fails to. -/
  | attach (parent child : ViewId)
  /-- Detaches a view of the host, or fails to. -/
  | detach (view : ViewId)
  /-- Registers the guides at the top and the bottom. -/
  | useGuides (top bottom : GuideId)
  /-- Registers views and puts them into the container. -/
  | addViews (views : List (String × ViewId))
  /-- Registers a view without attaching it. -/
  | addUnattached (key : String) (view : ViewId)
  /-- Registers guides. -/
  | addGuides (guides : List (String × GuideId))
  /-- Unregisters and detaches the views of keys. -/
  | removeViews (keys : List String)
  /-- Unregisters and detaches every registered view. -/
  | removeAllViews
  /-- Replaces the active metrics. -/
  | withMetrics (metrics : Metrics)
  /-- Makes a view fill the container. -/
  | fill (view : ViewId) (insets : Insets)
  /-- Applies a text, or fails to and goes on. -/
  | tryConstraint (raw : String) (priority : Option Priority)
  /-- Applies texts. -/
  | addConstraints (raws : List String) (priority : Option Priority)
  /-- Sets a content priority of the view of a key and of everything below it. -/
  | setContentPriority (key : String) (priority : Priority) (axis : Axis) (kind : ContentPriority)
  /-- Keeps the view of a key at the size of its content along an axis. -/
  | wrapContent (key : String) (axis : Axis)
  /-- Stacks views along an axis. -/
  | stack (axis : Axis) (operations : List Sequence.Operation)

/-- The nodes that an operation registers. -/
def Operation.nodes : Operation → List Node
  | useGuides top bottom => [.guide top, .guide bottom]
  | addViews views => views.map fun entry => .view entry.2
  | addUnattached _ view => [.view view]
  | addGuides guides => guides.map fun entry => .guide entry.2
  | fill view _ => [.view view]
  | stack _ operations => (operations.flatMap Sequence.Operation.views).map .view
  | _ => []

/-- Performs an operation. What changes the host or applies a text in place goes on after it has
failed, and any other failure ends the building. -/
def perform (builder : Builder) : Operation → Except ConstraintError Builder
  | .createView content => .ok { builder with host := (builder.host.createView content).1 }
  | .createGuide frame => .ok { builder with host := (builder.host.createGuide frame).1 }
  | .attach parent child =>
    .ok { builder with host := (Host.attachSteps parent child).left builder.host }
  | .detach view => .ok { builder with host := (Host.detachSteps view).left builder.host }
  | .useGuides top bottom => builder.useGuides top bottom
  | .addViews views => builder.addViews views
  | .addUnattached key view => builder.addUnattached key view
  | .addGuides guides => builder.addGuides guides
  | .removeViews keys => builder.removeViews keys
  | .removeAllViews => builder.removeAllViews
  | .withMetrics metrics => .ok (builder.withMetrics metrics)
  | .fill view insets => builder.fill view insets
  | .tryConstraint raw priority => .ok ((applyText raw priority).left builder)
  | .addConstraints raws priority => builder.addConstraints raws priority
  | .setContentPriority key priority axis kind =>
    builder.setContentPriority key priority axis kind
  | .wrapContent key axis => builder.wrapContent key axis
  | .stack axis operations =>
    (Sequence.run { axis, builder } operations).map Sequence.builder

/-- A builder becomes another by an operation that goes through and registers only nodes that the
host created. -/
def Step (builder next : Builder) : Prop :=
  ∃ operation : Operation, (∀ node ∈ operation.nodes, builder.host.knows node = true) ∧
    builder.perform operation = .ok next

/-- What holds of a builder still holds after each change that operations are made of, where only
usable nodes are registered. -/
structure Kept (holds : Builder → Prop) (usable : Node → Prop) : Prop where
  /-- Creating, attaching or detaching a view, whether or not it fails. -/
  tree : ∀ builder, holds builder → ∀ step : Host.TreeStep,
    holds { builder with host := step.perform builder.host }
  /-- Creating a guide. -/
  guide : ∀ builder, holds builder → ∀ frame,
    holds { builder with host := (builder.host.createGuide frame).1 }
  /-- Setting a content priority of a view and of everything below it. -/
  priorities : ∀ builder, holds builder → ∀ view priority axis kind host,
    builder.host.setPriorityBelow view priority axis kind = .ok host → holds { builder with host }
  /-- Registering a usable node. -/
  register : ∀ builder, holds builder → ∀ key node, usable node → ∀ next,
    builder.register key node = .ok next → holds next
  /-- Unregistering keys. -/
  unregister : ∀ builder, holds builder → ∀ keys,
    holds { builder with registry := (builder.registry.unregister keys).1 }
  /-- Changing the metrics or the use of guides. -/
  options : ∀ builder, holds builder → ∀ metrics hasGuides,
    holds { builder with metrics, hasGuides }
  /-- Applying a text, whether or not it fails. -/
  text : ∀ builder, holds builder → ∀ raw priority,
    holds ((applyText raw priority).left builder)

namespace Kept

variable {holds : Builder → Prop} {usable : Node → Prop} (kept : Kept holds usable)
  {builder next : Builder} (held : holds builder)

include kept held

/-- Attaching a view. -/
theorem attach {parent child : ViewId} (done : builder.attach parent child = .ok next) :
    holds next := by
  obtain ⟨host, attached, replaced⟩ := bind_eq_ok_iff.1 done
  obtain rfl := Except.ok.inj replaced
  obtain ⟨⟨_, left⟩, went, rfl⟩ := map_eq_ok_iff.1 (mapError_eq_ok_iff.1 attached)
  rw [Steps.eq_left_of_outcome went]
  exact kept.tree builder held (.attach parent child)

/-- Registering a view and putting it into the container. -/
theorem addView {key : String} {view : ViewId} (fine : usable (.view view))
    (done : builder.addView key view = .ok next) : holds next := by
  obtain ⟨registered, registers, attaches⟩ := bind_eq_ok_iff.1 done
  have first : holds registered := kept.register builder held key (.view view) fine _ registers
  exact kept.attach first attaches

/-- Registering the guides at the top and the bottom. -/
theorem useGuides {top bottom : GuideId} (fine : usable (.guide top) ∧ usable (.guide bottom))
    (done : builder.useGuides top bottom = .ok next) : holds next := by
  obtain ⟨first, one, rest⟩ := bind_eq_ok_iff.1 done
  obtain ⟨second, other, replaced⟩ := bind_eq_ok_iff.1 rest
  obtain rfl := Except.ok.inj replaced
  have topHeld : holds first := kept.register builder held _ _ fine.1 first one
  have bothHeld : holds second := kept.register first topHeld _ _ fine.2 second other
  exact kept.options second bothHeld second.metrics true

/-- Detaching views one after another. -/
theorem detachAll {views : List ViewId} {host : Host}
    (done : Builder.detachAll builder.host views = .ok host) : holds { builder with host } := by
  refine foldlM_keeps (fun host => holds { builder with host }) ?_ held done
  intro middle here view _ after detached
  obtain ⟨⟨_, left⟩, went, rfl⟩ := map_eq_ok_iff.1 (mapError_eq_ok_iff.1 detached)
  rw [Steps.eq_left_of_outcome went]
  exact kept.tree { builder with host := middle } here (.detach view)

/-- Unregistering and detaching views. -/
theorem removeViews {keys : List String} (done : builder.removeViews keys = .ok next) :
    holds next := by
  obtain ⟨host, detached, replaced⟩ := bind_eq_ok_iff.1 done
  obtain rfl := Except.ok.inj replaced
  have unregistered :=
    kept.unregister builder held (keys.filter builder.registry.viewKeys.contains)
  exact kept.detachAll unregistered detached

/-- Applying a text where a failure ends the building. -/
theorem addConstraint {raw : String} {priority : Option Priority}
    (done : builder.addConstraint raw priority = .ok next) : holds next := by
  obtain ⟨⟨handles, after⟩, went, rfl⟩ := map_eq_ok_iff.1 done
  obtain rfl := Steps.eq_left_of_outcome went
  exact kept.text builder held raw priority

/-- Applying texts one after another. -/
theorem addConstraints {raws : List String} {priority : Option Priority}
    (done : builder.addConstraints raws priority = .ok next) : holds next :=
  foldlM_keeps holds (fun _ here _ _ _ applied => kept.addConstraint here applied) held done

/-- Making a view fill the container. -/
theorem fill {view : ViewId} {insets : Insets} (fine : usable (.view view))
    (done : builder.fill view insets = .ok next) : holds next := by
  obtain ⟨added, adds, fills⟩ := bind_eq_ok_iff.1 done
  have first : holds added := kept.addView held fine adds
  have measured := kept.options added first insets.metrics added.hasGuides
  exact kept.addConstraints measured fills

/-- Setting a content priority. -/
theorem setContentPriority {key : String} {priority : Priority} {axis : Axis}
    {kind : ContentPriority}
    (done : builder.setContentPriority key priority axis kind = .ok next) : holds next := by
  obtain ⟨view, -, rest⟩ := bind_eq_ok_iff.1 done
  obtain ⟨host, set, replaced⟩ := bind_eq_ok_iff.1 rest
  obtain rfl := Except.ok.inj replaced
  exact kept.priorities builder held view priority axis kind host (mapError_eq_ok_iff.1 set)

end Kept

/-! ## Sequences -/

section Sequences

variable {holds : Builder → Prop} {usable : Node → Prop} (kept : Kept holds usable)
  {sequence next : Sequence} (held : holds sequence.builder)

include kept held

/-- Emitting a text of a sequence. -/
theorem Kept.emit {raw : String} (done : sequence.emit raw = .ok next) : holds next.builder := by
  obtain ⟨after, applied, replaced⟩ := bind_eq_ok_iff.1 done
  obtain rfl := Except.ok.inj replaced
  have measured :=
    kept.options sequence.builder held sequence.margins.metrics sequence.builder.hasGuides
  exact kept.addConstraint measured applied

/-- Registering the next view of a sequence. -/
theorem Kept.addNext {view : ViewId} (fine : usable (.view view))
    (done : sequence.addNext view = .ok next) : holds next.builder := by
  obtain ⟨after, added, replaced⟩ := bind_eq_ok_iff.1 done
  obtain rfl := Except.ok.inj replaced
  exact kept.addView held fine added

/-- Appending a batch of views. -/
theorem Kept.appendViews {views : List ViewId} {centered : Bool}
    (fine : ∀ view ∈ views, usable (.view view))
    (done : sequence.addViews views centered = .ok next) : holds next.builder := by
  unfold Sequence.addViews at done
  split at done
  · obtain rfl := Except.ok.inj done
    exact held
  · dsimp only at done
    obtain ⟨added, adds, rest⟩ := bind_eq_ok_iff.1 done
    obtain ⟨placed, places, rest⟩ := bind_eq_ok_iff.1 rest
    obtain ⟨chained, chains, replaced⟩ := bind_eq_ok_iff.1 rest
    obtain rfl := Except.ok.inj replaced
    let still (sequence : Sequence) : Prop := holds sequence.builder
    have first : still added := foldlM_keeps still
      (fun _ here view listed _ stepped => Kept.addNext kept here (fine view listed) stepped)
      held adds
    have second : still placed := foldlM_keeps still
      (fun _ here _ _ _ stepped => Kept.emit kept here stepped) first places
    have stacked : holds chained.builder := Kept.emit kept second chains
    exact stacked

/-- Closing a sequence. -/
theorem Kept.close (done : sequence.close = .ok next) : holds next.builder := by
  unfold Sequence.close at done
  split at done
  · contradiction
  · split at done
    · obtain rfl := Except.ok.inj done
      exact held
    · obtain ⟨emitted, emits, replaced⟩ := bind_eq_ok_iff.1 done
      obtain rfl := Except.ok.inj replaced
      have closed : holds emitted.builder := kept.emit held emits
      exact closed

/-- Performing an operation of a sequence. -/
theorem Kept.performSequence {operation : Sequence.Operation}
    (fine : ∀ view ∈ operation.views, usable (.view view))
    (done : sequence.perform operation = .ok next) : holds next.builder := by
  cases operation with
  | withMargins margins =>
    obtain rfl := Except.ok.inj done
    exact held
  | addViews views centered => exact kept.appendViews held fine done
  | close => exact kept.close held done

end Sequences

/-! ## Operations -/

/-- What every change keeps holds after every operation that registers usable nodes. -/
theorem Kept.perform {holds : Builder → Prop} {usable : Node → Prop} (kept : Kept holds usable)
    {builder next : Builder} (held : holds builder) {operation : Operation}
    (fine : ∀ node ∈ operation.nodes, usable node)
    (done : builder.perform operation = .ok next) : holds next := by
  cases operation with
  | createView content =>
    obtain rfl := Except.ok.inj done
    exact kept.tree builder held (.create content)
  | createGuide frame =>
    obtain rfl := Except.ok.inj done
    exact kept.guide builder held frame
  | attach parent child =>
    obtain rfl := Except.ok.inj done
    exact kept.tree builder held (.attach parent child)
  | detach view =>
    obtain rfl := Except.ok.inj done
    exact kept.tree builder held (.detach view)
  | useGuides top bottom =>
    have both : usable (.guide top) ∧ usable (.guide bottom) :=
      ⟨fine _ List.mem_cons_self, fine _ (List.mem_cons_of_mem _ List.mem_cons_self)⟩
    exact kept.useGuides held both done
  | addViews views =>
    refine foldlM_keeps holds (fun _ here entry listed _ added => ?_) held done
    exact kept.addView here (fine _ (List.mem_map_of_mem listed)) added
  | addUnattached key view =>
    exact kept.register builder held key _ (fine _ List.mem_cons_self) next done
  | addGuides guides =>
    refine foldlM_keeps holds (fun middle here entry listed after registered => ?_) held done
    exact kept.register middle here entry.1 _ (fine _ (List.mem_map_of_mem listed)) after registered
  | removeViews keys => exact kept.removeViews held done
  | removeAllViews => exact kept.removeViews held done
  | withMetrics metrics =>
    obtain rfl := Except.ok.inj done
    exact kept.options builder held metrics builder.hasGuides
  | fill view insets => exact kept.fill held (fine _ List.mem_cons_self) done
  | tryConstraint raw priority =>
    obtain rfl := Except.ok.inj done
    exact kept.text builder held raw priority
  | addConstraints raws priority => exact kept.addConstraints held done
  | setContentPriority key priority axis kind => exact kept.setContentPriority held done
  | wrapContent key axis =>
    obtain ⟨hugged, hugs, resists⟩ := bind_eq_ok_iff.1 done
    have first : holds hugged := kept.setContentPriority held hugs
    exact kept.setContentPriority first resists
  | stack axis operations =>
    obtain ⟨final, ran, rfl⟩ := map_eq_ok_iff.1 done
    refine foldlM_keeps (fun sequence : Sequence => holds sequence.builder) ?_ held ran
    intro middle here operation listed after stepped
    refine kept.performSequence here (fun view appended => fine _ ?_) stepped
    exact List.mem_map_of_mem (List.mem_flatMap.2 ⟨operation, listed, appended⟩)

end ViewLayout.Builder
