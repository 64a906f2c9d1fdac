import ViewLayout.Proofs.Host.Frames
import ViewLayout.Proofs.Host.Views
import ViewLayout.Proofs.Number.Order
import ViewLayout.Proofs.Outcome

/-!
# What a layout honours

A layout leaves the finding of values to a solver. All that it needs of the solver is that the
values satisfy the required constraints that were added (`Solver.Honours`). What the layout itself
is answerable for is which constraints it adds and which quantities it reads back: whatever the
solver, the frames it returns are those of a `Host.IsLayout`.
-/

namespace ViewLayout

open ViewLayout.Number ViewLayout.Outcome

/-- All coordinates of a frame are finite. -/
def Frame.IsFinite (frame : Frame Binary64) : Prop :=
  frame.x.isFinite = true ∧ frame.y.isFinite = true ∧ frame.width.isFinite = true ∧
    frame.height.isFinite = true

instance (frame : Frame Binary64) : Decidable frame.IsFinite :=
  inferInstanceAs (Decidable (_ ∧ _ ∧ _ ∧ _))

/-- The frame with the exact values of finite coordinates. -/
def Frame.exact (frame : Frame Binary64) : Frame Rat :=
  frame.map fun coordinate => coordinate.toRat?.getD 0

namespace Host

/-! ## Layouts -/

/-- The values of all quantities that a solver finds for the constraints it was given. -/
def Solver.values {Value : Type} [OfNat Value 0] (solver : Solver Value) (state : solver.State)
    (quantity : Nat) : Value :=
  (solver.value? (solver.report state) quantity).getD 0

/-- When all of some constraints can be added, the values that the solver finds satisfy the required
ones among them. -/
def Solver.Honours (solver : Solver Rat) (quantities : Nat) (demands : List Demand) : Prop :=
  ∀ state, demands.foldlM solver.add (solver.start quantities) = .ok state →
    ∀ demand ∈ demands, demand.strength = .required → ∀ form ∈ demand.form,
      demand.relation.Compares (form.eval (solver.values state)) 0

/-- The frames of the nodes in a layout: those of views as they were found, those of guides as they
were declared. -/
def placed (host : Host) (frames : List (ViewId × Frame Rat)) : Node → Frame Rat
  | .view view => ((frames.find? (·.1 = view)).map (·.2)).getD ⟨0, 0, 0, 0⟩
  | .guide guide => ((host.guides[guide.index]?).map Frame.exact).getD ⟨0, 0, 0, 0⟩

/-- A constraint has no priority, or one of at least 1000. -/
def IsRequired (descriptor : Descriptor) : Prop :=
  ∀ priority ∈ descriptor.priority, Priority.required.value.atMost priority.value = true

instance (descriptor : Descriptor) : Decidable (IsRequired descriptor) :=
  inferInstanceAs (Decidable (∀ priority ∈ descriptor.priority, _))

/-- What the frames of a layout have to be. -/
structure IsLayout (host : Host) (root : ViewId) (width height : Rat)
    (frames : List (ViewId × Frame Rat)) : Prop where
  /-- No view has two frames. -/
  once : (frames.map (·.1)).Nodup
  /-- The root and the views that are not detached have frames, and no others. -/
  views : ∀ view, view ∈ frames.map (·.1) ↔
    host.knows (.view view) = true ∧ (host.isDetached view = false ∨ view = root)
  /-- The root lies at the origin and has the size that was asked for. -/
  pinned : (root, ⟨0, 0, width, height⟩) ∈ frames
  /-- No view has a negative size. -/
  sizes : ∀ entry ∈ frames, 0 ≤ entry.2.width ∧ 0 ≤ entry.2.height
  /-- Every required constraint between live nodes holds. -/
  required : ∀ applied ∈ host.constraints, IsRequired applied.descriptor →
    host.isLive root applied.first = true →
    (∀ node ∈ applied.second, host.isLive root node = true) → applied.Holds (host.placed frames)

/-! ## Live nodes -/

/-- A view is live when the host created it and it is not detached, or the root. -/
theorem isLive_view_iff {host : Host} {root view : ViewId} :
    host.isLive root (.view view) = true ↔
      host.knows (.view view) = true ∧ (host.isDetached view = false ∨ view = root) := by
  rw [knows_view_iff]
  unfold isLive isDetached
  cases found : host.view? view with
  | none => simp [found]
  | some data => simp [found]

/-- The live views are listed. -/
theorem mem_liveViews_iff {host : Host} {root view : ViewId} :
    view ∈ host.liveViews root ↔ host.isLive root (.view view) = true := by
  rw [liveViews, List.mem_filter, and_iff_right_iff_imp]
  intro live
  have known := (isLive_view_iff.1 live).1
  rw [knows, decide_eq_true_eq] at known
  exact List.mem_map.2 ⟨view.index, List.mem_range.2 known, rfl⟩

/-- The live views are listed once each. -/
theorem nodup_liveViews (host : Host) (root : ViewId) : (host.liveViews root).Nodup := by
  have distinct : Function.Injective ViewId.mk := fun _ _ same => congrArg ViewId.index same
  exact (List.nodup_range.map distinct).filter _

/-- The first frame of a view that is listed is its own. -/
theorem find?_frame {Value : Type} {views : List ViewId} (frame : ViewId → Frame Value)
    {view : ViewId} (listed : view ∈ views) :
    (views.map fun view => (view, frame view)).find? (·.1 = view) = some (view, frame view) := by
  have first : views.find? (fun other => decide (other = view)) = some view := by
    cases found : views.find? (fun other => decide (other = view)) with
    | none =>
      have missing := List.find?_eq_none.1 found view listed
      exact absurd (decide_eq_true rfl) missing
    | some other =>
      have same := List.find?_some found
      rw [decide_eq_true_eq] at same
      rw [same]
  rw [List.find?_map]
  exact congrArg _ first

/-- A view that is listed is placed where its frame is. -/
theorem placed_view {host : Host} {views : List ViewId} {frame : ViewId → Frame Rat} {view : ViewId}
    (listed : view ∈ views) :
    host.placed (views.map fun view => (view, frame view)) (.view view) = frame view := by
  rw [placed, find?_frame frame listed]
  rfl

section Finding

variable {Value : Type} [OfNat Value 0] {host : Host} {solver : Solver Value} {root : ViewId}
  {width height : Binary64} {frames : List (ViewId × Frame Value)}
  (laid : host.layoutBy solver root width height = .ok frames)

include laid

/-- The frames of a layout are read from the values that the solver finds once it has taken all
constraints. -/
theorem exists_values_of_layoutBy :
    host.knows (.view root) = true ∧ ∃ state,
      (host.demands root width height).foldlM solver.add
        (solver.start (4 * (host.views.length + host.guides.length))) = .ok state ∧
      frames = (host.liveViews root).map fun view =>
        (view, host.frame (solver.values state) (.view view)) := by
  obtain ⟨data, there, rest⟩ := bind_eq_ok_iff.1 laid
  obtain ⟨values, solved, placed⟩ := bind_eq_ok_iff.1 rest
  obtain ⟨state, added, found⟩ := bind_eq_ok_iff.1 solved
  obtain rfl := Except.ok.inj found
  exact ⟨knows_view_iff.2 ⟨data, view_eq_ok_iff.1 there⟩, state, added,
    (Except.ok.inj placed).symm⟩

/-- The frame that is found for a view in a layout is the only one it has. -/
theorem find?_eq_some_iff_of_layoutBy {view : ViewId} {frame : Frame Value} :
    (frames.find? (·.1 = view)).map (·.2) = some frame ↔ (view, frame) ∈ frames := by
  obtain ⟨-, state, -, rfl⟩ := exists_values_of_layoutBy laid
  constructor
  · intro found
    obtain ⟨⟨other, own⟩, first, rfl⟩ := Option.map_eq_some_iff.1 found
    obtain rfl : other = view := by simpa using List.find?_some first
    exact List.mem_of_find?_eq_some first
  · intro present
    obtain ⟨other, live, same⟩ := List.mem_map.1 present
    obtain ⟨rfl, rfl⟩ := Prod.mk.inj same
    rw [find?_frame (fun view => host.frame (solver.values state) (.view view)) live]
    rfl

end Finding

/-! ## Reading values back -/

/-- A demand whose numbers are finite compares a form with zero. -/
theorem Demand.exists_form {demand : Demand} (constant : demand.constant.isFinite = true)
    (scaled : ∀ factor right, demand.scaled = some (factor, right) → factor.isFinite = true) :
    ∃ form, demand.form = some form := by
  obtain ⟨shift, shifted⟩ := Binary.exists_toRat?_iff.2 constant
  unfold form
  split
  · rename_i factor right written
    obtain ⟨scale, finite⟩ := Binary.exists_toRat?_iff.2 (scaled factor right written)
    rw [finite, Option.bind_some, minus?, shifted, Option.map_some]
    exact ⟨_, rfl⟩
  · rw [minus?, shifted, Option.map_some]
    exact ⟨_, rfl⟩

section Values

variable {host : Host} {root : ViewId} {width height : Binary64} {values : Nat → Rat}
  (honoured : ∀ demand ∈ host.demands root width height, demand.strength = .required →
    ∀ form ∈ demand.form, demand.relation.Compares (form.eval values) 0)

include honoured

/-- A side that is pinned to a finite number has that number for its value. -/
theorem eq_of_pinned {node : Node} {side : Side} {value : Binary64} {q : Rat} {name : String}
    (present : ⟨host.sideForm node side, .equal, none, value, .required, name⟩ ∈
      host.demands root width height)
    (finite : value.toRat? = some q) : values (host.quantity side node) = q := by
  have formed : minus? (host.sideForm node side) value =
      some ((host.sideForm node side).add (.ofConstant (-q))) := by
    rw [minus?, finite, Option.map_some]
  have compares := honoured _ present rfl _ formed
  rw [sideForm, Linear.Form.eval_add, Linear.Form.eval_ofTerm, Linear.Form.eval_ofConstant,
    one_mul] at compares
  have difference : values (host.quantity side node) + -q = 0 := compares
  linarith

/-- A side that is bounded below by zero is not negative. -/
theorem nonneg_of_bounded {node : Node} {side : Side} {name : String}
    (present : ⟨host.sideForm node side, .greaterOrEqual, none, 0, .required, name⟩ ∈
      host.demands root width height) : 0 ≤ values (host.quantity side node) := by
  have formed : minus? (host.sideForm node side) 0 =
      some ((host.sideForm node side).add (.ofConstant (-0))) := by
    rw [minus?, Binary.toRat?_zero, Option.map_some]
  have compares := honoured _ present rfl _ formed
  rw [sideForm, Linear.Form.eval_add, Linear.Form.eval_ofTerm, Linear.Form.eval_ofConstant,
    one_mul, neg_zero, add_zero] at compares
  exact compares

/-- The frame of the root is what it was asked to be. -/
theorem frame_root {w h : Rat} (wide : width.toRat? = some w) (high : height.toRat? = some h) :
    host.frame values (.view root) = ⟨0, 0, w, h⟩ := by
  have asked {demand : Demand} (present : demand ∈ host.rootDemands root width height) :
      demand ∈ host.demands root width height := by
    unfold demands
    exact List.mem_append_left _ (List.mem_append_left _ (List.mem_append_right _ present))
  have x : values (host.quantity .x (.view root)) = 0 :=
    eq_of_pinned honoured (asked (.head _)) Binary.toRat?_zero
  have y : values (host.quantity .y (.view root)) = 0 :=
    eq_of_pinned honoured (asked (.tail _ (.head _))) Binary.toRat?_zero
  have across : values (host.quantity .width (.view root)) = w :=
    eq_of_pinned honoured (asked (.tail _ (.tail _ (.head _)))) wide
  have down : values (host.quantity .height (.view root)) = h :=
    eq_of_pinned honoured (asked (.tail _ (.tail _ (.tail _ (.head _))))) high
  simp only [frame, x, y, across, down]

/-- The frame of a guide is the declared one. -/
theorem frame_guide {guide : GuideId} {declared : Frame Binary64}
    (found : host.guides[guide.index]? = some declared) (finite : declared.IsFinite) :
    host.frame values (.guide guide) = declared.exact := by
  have asked {demand : Demand} (present : demand ∈ host.guideDemands guide declared) :
      demand ∈ host.demands root width height := by
    have listed : host.guideDemands guide declared ∈
        host.guides.mapIdx fun index frame => host.guideDemands ⟨index⟩ frame := by
      rw [List.mem_iff_getElem?]
      refine ⟨guide.index, ?_⟩
      rw [List.getElem?_mapIdx, found]
      rfl
    unfold demands
    exact List.mem_append_left _ (List.mem_append_right _ (List.mem_flatten.2 ⟨_, listed, present⟩))
  obtain ⟨x, y, across, down⟩ := finite
  have atX := eq_of_pinned honoured (asked (.head _)) (Binary.toRat?_of_isFinite x)
  have atY := eq_of_pinned honoured (asked (.tail _ (.head _))) (Binary.toRat?_of_isFinite y)
  have wide := eq_of_pinned honoured (asked (.tail _ (.tail _ (.head _))))
    (Binary.toRat?_of_isFinite across)
  have high := eq_of_pinned honoured (asked (.tail _ (.tail _ (.tail _ (.head _)))))
    (Binary.toRat?_of_isFinite down)
  simp only [frame, atX, atY, wide, high]
  rfl

/-- The size of a live view is not negative. -/
theorem nonneg_frame {view : ViewId} (live : host.isLive root (.view view) = true) :
    0 ≤ (host.frame values (.view view)).width ∧ 0 ≤ (host.frame values (.view view)).height := by
  obtain ⟨data, found⟩ := knows_view_iff.1 (isLive_view_iff.1 live).1
  have asked {demand : Demand} (present : demand ∈ host.viewDemands view) :
      demand ∈ host.demands root width height := by
    have listed := List.mem_map_of_mem (f := host.viewDemands) (mem_liveViews_iff.2 live)
    unfold demands
    exact List.mem_append_left _ (List.mem_append_left _ (List.mem_append_left _
      (List.mem_flatten.2 ⟨_, listed, present⟩)))
  rw [viewDemands, found] at asked
  have wide := nonneg_of_bounded honoured (asked (.head _))
  have high := nonneg_of_bounded honoured (asked (.tail _ (.head _)))
  exact ⟨wide, high⟩

/-- A required constraint with finite numbers holds when all its nodes are live. -/
theorem holds_of_required {applied : Applied} (stored : applied ∈ host.constraints)
    (required : IsRequired applied.descriptor)
    (first : host.isLive root applied.first = true)
    (second : ∀ node ∈ applied.second, host.isLive root node = true)
    (multiplier : applied.descriptor.multiplier.isFinite = true)
    (constant : applied.descriptor.constant.isFinite = true) :
    applied.Holds (host.frame values) := by
  have live : (host.isLive root applied.first &&
      (applied.second.map (host.isLive root)).getD true) = true := by
    rw [first, Bool.true_and]
    cases found : applied.second with
    | none => rfl
    | some node => exact second node found
  obtain ⟨demand, asked⟩ : ∃ demand, host.constraintDemand? root applied = some demand := by
    rw [constraintDemand?, if_pos live]
    exact ⟨_, rfl⟩
  have present : demand ∈ host.demands root width height :=
    List.mem_append_right _ (List.mem_filterMap.2 ⟨applied, stored, asked⟩)
  rw [holds_iff_of_constraintDemand? asked]
  rw [constraintDemand?, if_pos live, Option.some.injEq] at asked
  have strong : demand.strength = .required := by
    rw [← asked]
    show Strength.ofPriority _ = .required
    rw [Strength.ofPriority]
    refine if_pos ?_
    cases priority : applied.descriptor.priority with
    | none => decide +kernel
    | some weight => exact required weight priority
  obtain ⟨form, formed⟩ : ∃ form, demand.form = some form := by
    rw [← asked]
    refine Demand.exists_form constant fun factor right scaled => ?_
    dsimp only at scaled
    split at scaled
    · obtain ⟨rfl, -⟩ := Prod.mk.inj (Option.some.inj scaled)
      exact multiplier
    · contradiction
  exact ⟨form, formed, honoured demand present strong form formed⟩

/-- On live nodes, the frames that are returned are those of the quantities. -/
theorem placed_eq_frame (guides : ∀ frame ∈ host.guides, frame.IsFinite) {node : Node}
    (live : host.isLive root node = true) :
    host.placed ((host.liveViews root).map fun view => (view, host.frame values (.view view))) node =
      host.frame values node := by
  cases node with
  | view view => exact placed_view (mem_liveViews_iff.2 live)
  | guide guide =>
    have inside : guide.index < host.guides.length := of_decide_eq_true live
    have declared := List.getElem?_eq_getElem inside
    have finite := guides _ (List.getElem_mem inside)
    rw [placed, declared, frame_guide honoured declared finite]
    rfl

end Values

/-! ## The layout -/

/-- Whatever solver a layout is left to, the frames are those of a layout as soon as the solver
honours the constraints that are required of it: there is one frame for the root and for each view
that is not detached, the root lies where it was asked to, and every required constraint between live
nodes holds. The numbers of the host and the size of the root are finite and read exactly. -/
theorem isLayout_of_layoutBy {host : Host} {solver : Solver Rat} {root : ViewId}
    {width height : Binary64} {w h : Rat} {frames : List (ViewId × Frame Rat)}
    (guides : ∀ frame ∈ host.guides, frame.IsFinite)
    (constraints : ∀ applied ∈ host.constraints,
      applied.descriptor.multiplier.isFinite = true ∧ applied.descriptor.constant.isFinite = true)
    (wide : width.toRat? = some w) (high : height.toRat? = some h)
    (honours : solver.Honours (4 * (host.views.length + host.guides.length))
      (host.demands root width height))
    (laid : host.layoutBy solver root width height = .ok frames) :
    host.IsLayout root w h frames := by
  obtain ⟨known, state, added, rfl⟩ := exists_values_of_layoutBy laid
  have honoured := honours state added
  have rootLive : host.isLive root (.view root) = true := isLive_view_iff.2 ⟨known, .inr rfl⟩
  have keys : ((host.liveViews root).map fun view =>
      (view, host.frame (solver.values state) (.view view))).map (·.1) = host.liveViews root := by
    rw [List.map_map]
    exact List.map_id _
  constructor
  case once =>
    rw [keys]
    exact host.nodup_liveViews root
  case views =>
    intro view
    rw [keys, mem_liveViews_iff, isLive_view_iff]
  case pinned =>
    rw [← frame_root honoured wide high]
    exact List.mem_map.2 ⟨root, mem_liveViews_iff.2 rootLive, rfl⟩
  case sizes =>
    intro entry listed
    obtain ⟨view, live, rfl⟩ := List.mem_map.1 listed
    exact nonneg_frame honoured (mem_liveViews_iff.1 live)
  case required =>
    intro applied stored required first second
    obtain ⟨multiplier, constant⟩ := constraints applied stored
    have holds := holds_of_required honoured stored required first second multiplier constant
    refine (Applied.holds_congr (placed_eq_frame honoured guides first) ?_).2 holds
    exact fun node listed => placed_eq_frame honoured guides (second node listed)

/-- The built-in solver lays out a view below a guide, at most as wide as the root is from its
leading edge on, and weakly as wide as a view that is detached. -/
theorem isLayout_of_layoutBy_simplex :
    let host : Host := {
      spacing := ⟨8, 20⟩
      views := [{ children := [⟨1⟩] }, { parent := some ⟨0⟩, content := some ⟨120, 10⟩ },
        { detached := true }]
      guides := [⟨0, 5, 0, 2⟩]
      constraints := [
        ⟨{ first := ⟨"a", .leading⟩, relation := .equal, second := some ⟨"parent", .leading⟩,
           constant := 20 }, .view ⟨1⟩, some (.view ⟨0⟩)⟩,
        ⟨{ first := ⟨"a", .trailing⟩, relation := .lessOrEqual,
           second := some ⟨"parent", .trailing⟩, priority := some .required },
          .view ⟨1⟩, some (.view ⟨0⟩)⟩,
        ⟨{ first := ⟨"a", .top⟩, relation := .greaterOrEqual, second := some ⟨"g", .bottom⟩,
           multiplier := 2, constant := 8 }, .view ⟨1⟩, some (.guide ⟨0⟩)⟩,
        ⟨{ first := ⟨"a", .width⟩, relation := .equal, second := some ⟨"b", .width⟩,
           priority := some .low }, .view ⟨1⟩, some (.view ⟨2⟩)⟩] }
    let frames : List (ViewId × Frame Rat) :=
      [(⟨0⟩, ⟨0, 0, 100, 50⟩), (⟨1⟩, ⟨20, 22, 80, 10⟩)]
    host.layoutBy simplex ⟨0⟩ 100 50 = .ok frames ∧
      simplex.Honours (4 * (host.views.length + host.guides.length)) (host.demands ⟨0⟩ 100 50) ∧
      host.IsLayout ⟨0⟩ 100 50 frames := by
  intro host frames
  have laid : host.layoutBy simplex ⟨0⟩ 100 50 = .ok frames :=
    eq_ok_of_toOption (by decide +kernel)
  have checked : ∃ state ∈ ((host.demands ⟨0⟩ 100 50).foldlM simplex.add
      (simplex.start (4 * (host.views.length + host.guides.length)))).toOption,
      ∀ demand ∈ host.demands ⟨0⟩ 100 50, demand.strength = .required → ∀ form ∈ demand.form,
        demand.relation.Compares (form.eval (simplex.values state)) 0 := by
    decide +kernel
  have honours : simplex.Honours (4 * (host.views.length + host.guides.length))
      (host.demands ⟨0⟩ 100 50) := by
    intro state added
    obtain ⟨reached, found, satisfied⟩ := checked
    obtain rfl := Except.ok.inj ((eq_ok_of_toOption found).symm.trans added)
    exact satisfied
  refine ⟨laid, honours, isLayout_of_layoutBy ?_ ?_ ?_ ?_ honours laid⟩
  · decide +kernel
  · decide +kernel
  · decide +kernel
  · decide +kernel

end Host

end ViewLayout
