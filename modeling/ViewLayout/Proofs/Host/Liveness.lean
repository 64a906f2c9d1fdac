import ViewLayout.Proofs.Host.Layout
import ViewLayout.Proofs.Host.Runs

/-!
# What a layout depends on

The layout of a root depends on the nodes that are live and on what is known of them: their number,
the frames of guides, the contents and content priorities of live views, and the constraints of
which every node is live (`AgreeOnLive`). Who is whose parent does not matter, nor does anything
about a view that is detached.

A view that is detached takes its constraints out of layout but does not lose them. Attached again,
under any view that it does not lie above, it brings the layout back.
-/

namespace ViewLayout

open ViewLayout.Number ViewLayout.Linear ViewLayout.Outcome

/-- The nodes that a stored constraint is about. -/
def Applied.nodes (applied : Applied) : List Node :=
  applied.first :: applied.second.toList

namespace Host

/-- The size that the content of a view wants. -/
def content? (host : Host) (view : ViewId) : Option (PerAxis Binary64) :=
  (host.view? view).bind View.content

/-- The constraints of which every node is live, in the order in which they were applied. -/
def liveConstraints (host : Host) (root : ViewId) : List Applied :=
  host.constraints.filter fun applied => applied.nodes.all (host.isLive root)

/-- Two hosts agree on everything that is live in the layout of a root. -/
structure AgreeOnLive (first second : Host) (root : ViewId) : Prop where
  /-- They have as many views. -/
  views : first.views.length = second.views.length
  /-- They have as many guides, with the same frames. -/
  guides : first.guides = second.guides
  /-- The same views are detached. -/
  detached : ∀ view, first.isDetached view = second.isDetached view
  /-- The content of every live view wants the same size. -/
  contents : ∀ view ∈ first.liveViews root, first.content? view = second.content? view
  /-- Every live view has the same content priorities. -/
  priorities : ∀ view ∈ first.liveViews root, ∀ axis kind,
    first.contentPriority? view axis kind = second.contentPriority? view axis kind
  /-- The same constraints between live nodes were applied, in the same order. -/
  constraints : first.liveConstraints root = second.liveConstraints root

/-! ## The constraints of a layout are about live nodes -/

/-- The quantities of nodes are numbered by how many views there are. -/
theorem quantity_eq {first second : Host} (size : first.views.length = second.views.length) :
    first.quantity = second.quantity := by
  funext side node
  cases node with
  | view view => rfl
  | guide guide => rw [quantity, quantity, size]

/-- The attributes of nodes are forms of the same quantities. -/
theorem edgeForm_eq {first second : Host} (size : first.views.length = second.views.length) :
    first.edgeForm = second.edgeForm := by
  have sides : first.sideForm = second.sideForm := by
    funext node side
    rw [sideForm, quantity_eq size, sideForm]
  funext node edge
  unfold edgeForm
  rw [sides]

/-- A constraint that is about a node that is not live is left out, and any other is not. -/
theorem constraintDemand?_eq_none_iff {host : Host} {root : ViewId} {applied : Applied} :
    host.constraintDemand? root applied = none ↔ applied.nodes.all (host.isLive root) = false := by
  have live : applied.nodes.all (host.isLive root) = (host.isLive root applied.first &&
      (applied.second.map (host.isLive root)).getD true) := by
    rw [Applied.nodes, List.all_cons]
    cases applied.second with
    | none => rfl
    | some node => simp
  rw [live, constraintDemand?]
  dsimp only
  split
  · rename_i all
    simp [all]
  · rename_i some
    simpa using some

/-- Only the constraints between live nodes ask for anything. -/
theorem filterMap_constraintDemand? (host : Host) (root : ViewId) :
    host.constraints.filterMap (host.constraintDemand? root) =
      (host.liveConstraints root).filterMap (host.constraintDemand? root) := by
  rw [liveConstraints, List.filterMap_filter]
  refine List.filterMap_congr fun applied _ => ?_
  cases live : applied.nodes.all (host.isLive root) with
  | true => rfl
  | false => exact constraintDemand?_eq_none_iff.2 live

namespace AgreeOnLive

variable {first second : Host} {root : ViewId} (agree : first.AgreeOnLive second root)

include agree

/-- Hosts that agree created the same nodes. -/
theorem knows (node : Node) : first.knows node = second.knows node := by
  cases node with
  | view view => rw [Host.knows, agree.views, Host.knows]
  | guide guide => rw [Host.knows, agree.guides, Host.knows]

/-- The same nodes are live in hosts that agree. -/
theorem isLive (node : Node) : first.isLive root node = second.isLive root node := by
  cases node with
  | view view =>
    rw [Bool.eq_iff_iff, isLive_view_iff, isLive_view_iff, agree.knows, agree.detached]
  | guide guide => rw [Host.isLive, agree.guides, Host.isLive]

/-- The same views are live in hosts that agree. -/
theorem liveViews : first.liveViews root = second.liveViews root := by
  rw [Host.liveViews, agree.views, Host.liveViews]
  exact List.filter_congr fun view _ => agree.isLive (.view view)

/-- Hosts that agree both have data of a view, or neither has. -/
theorem view?_cases (view : ViewId) :
    (first.view? view = none ∧ second.view? view = none) ∨
      ∃ data other, first.view? view = some data ∧ second.view? view = some other := by
  have both : (∃ data, first.view? view = some data) ↔ ∃ data, second.view? view = some data := by
    rw [← knows_view_iff, ← knows_view_iff, agree.knows]
  cases here : first.view? view with
  | none =>
    cases there : second.view? view with
    | none => exact .inl ⟨rfl, rfl⟩
    | some other =>
      obtain ⟨data, found⟩ := both.2 ⟨other, there⟩
      exact nomatch here.symm.trans found
  | some data =>
    obtain ⟨other, there⟩ := both.1 ⟨data, here⟩
    exact .inr ⟨data, other, rfl, there⟩

/-- A live view asks for the same on its own account. -/
theorem viewDemands {view : ViewId} (live : view ∈ first.liveViews root) :
    first.viewDemands view = second.viewDemands view := by
  have contents := agree.contents view live
  have priorities := agree.priorities view live
  have sides (side : Side) :
      first.sideForm (.view view) side = second.sideForm (.view view) side := rfl
  simp only [content?, contentPriority?] at contents priorities
  unfold Host.viewDemands
  obtain ⟨here, there⟩ | ⟨data, other, here, there⟩ := agree.view?_cases view
  · rw [here, there]
  · rw [here, there] at contents priorities
    have content : data.content = other.content := contents
    have priority (kind : ContentPriority) (axis : Axis) :
        data.priority kind axis = other.priority kind axis :=
      Option.some.inj (priorities axis kind)
    rw [here, there]
    simp only [sides, content, contentDemands, priority]

/-- A stored constraint asks for the same in hosts that agree. -/
theorem constraintDemand? (applied : Applied) :
    first.constraintDemand? root applied = second.constraintDemand? root applied := by
  have live : first.isLive root = second.isLive root := funext agree.isLive
  unfold Host.constraintDemand?
  rw [live, edgeForm_eq agree.views]

/-- Hosts that agree have the same constraints in the layout of the root. -/
theorem demands (width height : Binary64) :
    first.demands root width height = second.demands root width height := by
  have own : (first.liveViews root).map first.viewDemands =
      (second.liveViews root).map second.viewDemands := by
    rw [← agree.liveViews]
    exact List.map_congr_left fun view live => agree.viewDemands live
  have guides : first.guideDemands = second.guideDemands := by
    funext guide frame
    simp only [guideDemands, sideForm, quantity_eq agree.views]
  have applied : first.constraintDemand? root = second.constraintDemand? root :=
    funext agree.constraintDemand?
  unfold Host.demands
  rw [own, filterMap_constraintDemand?, filterMap_constraintDemand?, agree.constraints, applied,
    guides, agree.guides]
  rfl

/-- Hosts that agree on everything that is live have the same layout, or the same fault. -/
theorem layoutBy {Value : Type} [OfNat Value 0] (solver : Solver Value)
    (width height : Binary64) :
    first.layoutBy solver root width height = second.layoutBy solver root width height := by
  have solved : first.solveBy solver root width height =
      second.solveBy solver root width height := by
    rw [Host.solveBy, agree.demands, agree.views, agree.guides, Host.solveBy]
  have frames (values : Nat → Value) : first.frame values = second.frame values := by
    funext node
    rw [Host.frame, quantity_eq agree.views, Host.frame]
  unfold Host.layoutBy Host.view
  simp only [solved, agree.liveViews, frames]
  obtain ⟨here, there⟩ | ⟨data, other, here, there⟩ := agree.view?_cases root
  · rw [here, there]
  · rw [here, there]
    rfl

end AgreeOnLive

/-! ## Detaching a view and attaching it again -/

/-- Hosts that are the same outside the tree have the same contents. -/
theorem content?_of_outsideTree {host after : Host} (same : after.outsideTree = host.outsideTree)
    (view : ViewId) : after.content? view = host.content? view := by
  have read (host : Host) :
      host.content? view = (host.outsideTree.view? view).bind View.content := by
    rw [content?, view?, view?, outsideTree, List.getElem?_map, Option.bind_map]
    rfl
  rw [read, read, same]

/-- Hosts that are the same outside the tree have the same content priorities. -/
theorem contentPriority?_of_outsideTree {host after : Host}
    (same : after.outsideTree = host.outsideTree) (view : ViewId) (axis : Axis)
    (kind : ContentPriority) :
    after.contentPriority? view axis kind = host.contentPriority? view axis kind := by
  have read (host : Host) : host.contentPriority? view axis kind =
      (host.outsideTree.view? view).map (·.priority kind axis) := by
    rw [contentPriority?, view?, view?, outsideTree, List.getElem?_map, Option.map_map]
    cases kind <;> rfl
  rw [read, read, same]

/-- Hosts that are the same outside the tree, and in which the same views are detached, agree on
everything that is live. -/
theorem agreeOnLive_of_outsideTree {host after : Host}
    (same : after.outsideTree = host.outsideTree)
    (detached : ∀ view, after.isDetached view = host.isDetached view) (root : ViewId) :
    after.AgreeOnLive host root := by
  have views := congrArg (fun host : Host => host.views.length) same
  simp only [outsideTree, List.length_map] at views
  have guides := guides_of_outsideTree same
  have live : after.isLive root = host.isLive root := by
    funext node
    cases node with
    | view view =>
      rw [Bool.eq_iff_iff, isLive_view_iff, isLive_view_iff, knows_of_outsideTree same, detached]
    | guide guide => rw [isLive, guides, isLive]
  refine ⟨views, guides, detached, fun view _ => content?_of_outsideTree same view,
    fun view _ => contentPriority?_of_outsideTree same view, ?_⟩
  rw [liveConstraints, constraints_of_outsideTree same, live, liveConstraints]

/-- While a view is detached, the constraints that are about it are not live, and all others are as
before. -/
theorem liveConstraints_loosened {host : Host} {view root : ViewId}
    (known : host.knows (.view view) = true) (other : root ≠ view) :
    (host.loosened view).liveConstraints root =
      (host.liveConstraints root).filter fun applied => .view view ∉ applied.nodes := by
  have same := outsideTree_loosened host view
  have live (node : Node) : (host.loosened view).isLive root node =
      (decide (.view view ≠ node) && host.isLive root node) := by
    cases node with
    | guide guide => simp [isLive, guides_of_outsideTree same]
    | view there =>
      rw [Bool.eq_iff_iff, isLive_view_iff, Bool.and_eq_true, isLive_view_iff, decide_eq_true_eq,
        knows_of_outsideTree same, isDetached_loosened _ _ known]
      by_cases moved : there = view
      · simp [moved, other.symm]
      · simp [moved, Ne.symm moved]
  rw [liveConstraints, constraints_of_outsideTree same, liveConstraints, List.filter_filter]
  refine List.filter_congr fun applied _ => ?_
  rw [Bool.eq_iff_iff, List.all_eq_true, Bool.and_eq_true, List.all_eq_true, decide_eq_true_eq]
  simp only [live, Bool.and_eq_true, decide_eq_true_eq]
  constructor
  · intro all
    exact ⟨fun among => (all _ among).1 rfl, fun node among => (all node among).2⟩
  · rintro ⟨absent, all⟩ node among
    exact ⟨fun same => absent (same ▸ among), all node among⟩

/-- A view that is not detached can be detached and attached again to any view that it does not lie
above, which restores what is live. -/
theorem IsForest.exists_return {host : Host} (forest : host.IsForest) {view parent : ViewId}
    (known : host.knows (.view view) = true) (placed : host.isDetached view = false)
    (there : host.knows (.view parent) = true) (clear : ¬host.AtOrAbove view parent) :
    ∃ again, (host.loosened view).attach parent view = .ok again ∧
      again.outsideTree = host.outsideTree ∧ ∀ root, again.AgreeOnLive host root := by
  have same := outsideTree_loosened host view
  have knows := knows_of_outsideTree same
  have elsewhere (other : ViewId) (apart : other ≠ view) :
      (host.loosened view).parent? other = host.parent? other := by
    rw [parent?_loosened, if_neg apart]
  have stillClear : ¬(host.loosened view).AtOrAbove view parent := by
    rintro ⟨steps, reached⟩
    rw [ancestor?_of_elsewhere elsewhere clear] at reached
    exact clear ⟨steps, reached⟩
  have outside := (outsideTree_reattached (host.loosened view) parent view).trans same
  refine ⟨_, (forest.loosened known).attach_of_clear ((knows _).trans there)
    ((knows _).trans known) stillClear, outside, ?_⟩
  refine agreeOnLive_of_outsideTree outside fun other => ?_
  rw [isDetached_reattached]
  by_cases moved : other = view
  · rw [if_pos moved, moved, placed]
  · rw [if_neg moved, isDetached_loosened _ _ known, if_neg moved]

/-- The layout of a root is the same, or fails in the same way, in any two hosts that agree on
everything that is live, whatever their trees and whatever else is known of detached views. So after
any calls on a new host, detaching a view that is not detached and attaching it again, to any view
that it does not lie above, restores every layout. In between, all constraints are kept, and those
that are about the view are not live. -/
theorem layout_depends_on_live :
    (∀ (first second : Host) (root : ViewId), first.AgreeOnLive second root →
      ∀ {Value : Type} [OfNat Value 0] (solver : Solver Value) (width height : Binary64),
        first.layoutBy solver root width height = second.layoutBy solver root width height) ∧
    ∀ (configuration : Configuration) (calls : List Call) (view parent : ViewId),
      let host := reached configuration calls
      host.knows (.view view) = true → host.isDetached view = false →
      host.knows (.view parent) = true → ¬host.AtOrAbove view parent →
      ∃ apart again, host.detach view = .ok apart ∧ apart.attach parent view = .ok again ∧
        apart.constraints = host.constraints ∧ again.constraints = host.constraints ∧
        (∀ root, root ≠ view → apart.liveConstraints root =
          (host.liveConstraints root).filter fun applied => .view view ∉ applied.nodes) ∧
        ∀ {Value : Type} [OfNat Value 0] (solver : Solver Value) (root : ViewId)
          (width height : Binary64),
          again.layoutBy solver root width height = host.layoutBy solver root width height := by
  refine ⟨fun first second root agree => agree.layoutBy, ?_⟩
  intro configuration calls view parent host known placed there clear
  have forest : host.IsForest := isForest_reached configuration calls
  obtain ⟨again, attached, outside, agree⟩ := forest.exists_return known placed there clear
  exact ⟨host.loosened view, again, forest.detach_of_knows known, attached,
    constraints_of_outsideTree (outsideTree_loosened host view),
    constraints_of_outsideTree outside, fun root other => liveConstraints_loosened known other,
    fun solver root => (agree root).layoutBy solver⟩

/-- What is stored about a detached view does not show in the layout of the root, and a view that is
detached and attached elsewhere brings the layout back. -/
theorem layout_depends_on_live_of_moved :
    let registry : Registry := ⟨"parent", some ⟨0⟩, .ofList [("a", .view ⟨1⟩)]⟩
    let wide : Descriptor :=
      { first := ⟨"a", .width⟩, relation := .equal, second := none, constant := 50 }
    let host := reached {} [.tree (.create none), .tree (.create (some (.both 10))),
      .tree (.create none), .tree (.attach ⟨0⟩ ⟨1⟩), .tree (.attach ⟨0⟩ ⟨2⟩),
      .apply registry [wide]]
    let stored := Call.perform host (.tree (.detach ⟨1⟩))
    let empty := reached {} [.tree (.create none), .tree (.create none), .tree (.create none),
      .tree (.detach ⟨1⟩)]
    (stored.constraints ≠ empty.constraints ∧ stored.content? ⟨1⟩ ≠ empty.content? ⟨1⟩ ∧
      stored.parent? ⟨2⟩ ≠ empty.parent? ⟨2⟩ ∧
      stored.layoutBy simplex ⟨0⟩ 100 50 = empty.layoutBy simplex ⟨0⟩ 100 50) ∧
    ∃ apart again, host.detach ⟨1⟩ = .ok apart ∧ apart.attach ⟨2⟩ ⟨1⟩ = .ok again ∧
      again.constraints = host.constraints ∧
      again.layoutBy simplex ⟨0⟩ 100 50 = host.layoutBy simplex ⟨0⟩ 100 50 := by
  intro registry wide host stored empty
  obtain ⟨agreeing, moving⟩ := layout_depends_on_live
  constructor
  · have agree : stored.AgreeOnLive empty ⟨0⟩ := by
      have detached (view : ViewId) : stored.isDetached view = empty.isDetached view := by
        obtain ⟨index⟩ := view
        match index with
        | 0 => decide +kernel
        | 1 => decide +kernel
        | 2 => decide +kernel
        | _ + 3 => rfl
      have priorities : ∀ view ∈ stored.liveViews ⟨0⟩, ∀ axis kind,
          stored.contentPriority? view axis kind = empty.contentPriority? view axis kind := by
        intro view live axis kind
        have listed : stored.liveViews ⟨0⟩ = [⟨0⟩, ⟨2⟩] := by decide +kernel
        simp only [listed, List.mem_cons, List.not_mem_nil, or_false] at live
        rcases live with rfl | rfl
        · cases axis <;> cases kind <;> decide +kernel
        · cases axis <;> cases kind <;> decide +kernel
      exact ⟨by decide +kernel, by decide +kernel, detached, by decide +kernel, priorities,
        by decide +kernel⟩
    exact ⟨by decide +kernel, by decide +kernel, by decide +kernel,
      agreeing stored empty ⟨0⟩ agree simplex 100 50⟩
  · have forest : host.IsForest := isForest_reached {} _
    have clear : ¬host.AtOrAbove ⟨1⟩ ⟨2⟩ := by
      have climbed : host.checkNotAbove ⟨2⟩ ⟨1⟩ (host.views.length + 1) (some ⟨2⟩) = .ok () := by
        decide +kernel
      exact (forest.checkNotAbove_iff.1 climbed).2
    obtain ⟨apart, again, detaches, attaches, -, kept, -, laid⟩ :=
      moving {} _ ⟨1⟩ ⟨2⟩ (by decide +kernel) (by decide +kernel) (by decide +kernel) clear
    exact ⟨apart, again, detaches, attaches, kept, laid simplex ⟨0⟩ 100 50⟩

end Host

end ViewLayout
