import Mathlib.Tactic.Linarith
import Mathlib.Tactic.Tauto
import ViewLayout.Proofs.Chain.Plain
import ViewLayout.Proofs.Host.Frames
import ViewLayout.Proofs.Sequence.Operations

/-!
# The stack that a sequence means

Operations on a sequence place views, each with the margins in force, and tie the last view to the
trailing edge. A sequence ties edges of these views to each other and to the container, and frames
that hold all of its ties are a stack: along the axis the views follow one another, each behind its
margin, and across the axis each is centered or spans the container (`stacked_of_ties`).
-/

namespace ViewLayout

open ViewLayout.Number

/-- An edge of a node that lies a distance after an edge of another node. -/
structure Tie where
  /-- The node after the distance. -/
  first : Node
  /-- Its edge. -/
  firstEdge : Attribute
  /-- The node before the distance. -/
  second : Node
  /-- Its edge. -/
  secondEdge : Attribute
  /-- The distance. -/
  distance : Binary64

namespace Tie

/-- Frames hold a tie, its distance being finite and read exactly. -/
def Holds (frames : Node → Frame Rat) (tie : Tie) : Prop :=
  ∃ distance, tie.distance.toRat? = some distance ∧
    (frames tie.first).edge tie.firstEdge = (frames tie.second).edge tie.secondEdge + distance

/-- A descriptor states a tie if its keys stand for the nodes of the tie. -/
def StatedBy (registry : Registry) (tie : Tie) (descriptor : Descriptor) : Prop :=
  ∃ firstKey secondKey, registry.resolve firstKey = .ok tie.first ∧
    registry.resolve secondKey = .ok tie.second ∧
    descriptor = .tie ⟨firstKey, tie.firstEdge⟩ ⟨secondKey, tie.secondEdge⟩ tie.distance

/-- An applied constraint imposes a tie if it sets the edges of its nodes that distance apart. -/
def ImposedBy (tie : Tie) (applied : Applied) : Prop :=
  applied.first = tie.first ∧ applied.second = some tie.second ∧
    ∃ firstKey secondKey, applied.descriptor =
      .tie ⟨firstKey, tie.firstEdge⟩ ⟨secondKey, tie.secondEdge⟩ tie.distance

/-- Frames that satisfy a constraint hold the tie that it imposes. -/
theorem holds_of_imposed {frames : Node → Frame Rat} {tie : Tie} {applied : Applied}
    (imposed : tie.ImposedBy applied) (held : applied.Holds frames) : tie.Holds frames := by
  obtain ⟨descriptor, first, second⟩ := applied
  obtain ⟨rfl, rfl, firstKey, secondKey, rfl⟩ := imposed
  obtain ⟨factor, scaled, distance, finite, equal⟩ := held
  have one : (1 : Binary64).toRat? = some 1 := by decide +kernel
  obtain rfl := Option.some.inj (one.symm.trans scaled)
  refine ⟨distance, finite, ?_⟩
  rw [mul_one] at equal
  exact equal

end Tie

namespace Sequence

/-! ## What operations ask for -/

/-- A view of a sequence. -/
structure Placement where
  /-- The view. -/
  view : ViewId
  /-- The margins in force when the view was appended. -/
  margins : Margins
  /-- Whether the view is centered across the axis. -/
  centered : Bool

/-- The node of a placed view. -/
def Placement.node (placement : Placement) : Node := .view placement.view

/-- A tie of the last view to the trailing edge. -/
structure Closing where
  /-- The view that was the last at that time. -/
  last : ViewId
  /-- The margins in force at that time. -/
  margins : Margins

/-- What operations have asked of a sequence so far. -/
structure History where
  /-- The margins in force. -/
  margins : Margins := {}
  /-- The views, in the order in which they were appended. -/
  placements : List Placement := []
  /-- The ties of the last view to the trailing edge. -/
  closings : List Closing := []
  /-- Whether the last view is tied to the trailing edge. -/
  closed : Bool := false

namespace History

/-- The placements of a batch of views. -/
def batch (history : History) (views : List ViewId) (centered : Bool) : List Placement :=
  views.map (⟨·, history.margins, centered⟩)

/-- The margins of a batch are those in force. -/
theorem margins_of_mem_batch {history : History} {views : List ViewId} {centered : Bool}
    {placement : Placement} (listed : placement ∈ history.batch views centered) :
    placement.margins = history.margins := by
  obtain ⟨view, -, rfl⟩ := List.mem_map.1 listed
  rfl

/-- The views of a batch are all centered or none is. -/
theorem centered_of_mem_batch {history : History} {views : List ViewId} {centered : Bool}
    {placement : Placement} (listed : placement ∈ history.batch views centered) :
    placement.centered = centered := by
  obtain ⟨view, -, rfl⟩ := List.mem_map.1 listed
  rfl

/-- The history after a batch of views. -/
def append (history : History) (views : List ViewId) (centered : Bool) : History :=
  { history with
    placements := history.placements ++ history.batch views centered
    closed := false }

/-- The tie of the last view, if there is one. -/
def closing (history : History) : List Closing :=
  history.placements.getLast?.toList.map fun last => ⟨last.view, history.margins⟩

/-- The history after the last view was tied to the trailing edge. -/
def close (history : History) : History :=
  { history with closings := history.closings ++ history.closing, closed := true }

/-- The history after one more operation. A batch without views asks for nothing, and neither does
closing again. -/
def record (history : History) : Operation → History
  | .withMargins margins => { history with margins }
  | .addViews views centered => if views.isEmpty then history else history.append views centered
  | .close => if history.closed then history else history.close

end History

/-- What operations on a new sequence ask for. -/
def history (operations : List Operation) : History :=
  operations.foldl History.record {}

/-! ## Ties -/

variable (axis : Axis) (container : ViewId)

/-- The ties of a view across the axis: at the center, or at both edges. -/
def crossTies (placement : Placement) : List Tie :=
  let cross := axis.cross
  if placement.centered then
    [⟨.view container, cross.center, placement.node, cross.center, 0⟩]
  else
    [⟨placement.node, cross.leadingEdge, .view container, cross.leadingEdge,
        placement.margins.sides⟩,
      ⟨.view container, cross.trailingEdge, placement.node, cross.trailingEdge,
        placement.margins.sides⟩]

/-- The tie of the first view to the leading edge. -/
def startTie (first : Placement) : Tie :=
  ⟨first.node, axis.leadingEdge, .view container, axis.leadingEdge, first.margins.ends⟩

/-- The tie of a view to the one before it. -/
def betweenTie (before after : Placement) : Tie :=
  ⟨after.node, axis.leadingEdge, before.node, axis.trailingEdge, after.margins.between⟩

/-- The tie of the last view to the trailing edge. -/
def endTie (closing : Closing) : Tie :=
  ⟨.view container, axis.trailingEdge, .view closing.last, axis.trailingEdge, closing.margins.ends⟩

/-- The ties of views to each other after an earlier view. -/
def followTies (before : Placement) : List Placement → List Tie
  | [] => []
  | after :: later => betweenTie axis before after :: followTies after later

/-- The ties of views along the axis. -/
def alongTies : List Placement → List Tie
  | [] => []
  | first :: later => startTie axis container first :: followTies axis first later

/-- All ties that a sequence makes. -/
def History.ties (history : History) : List Tie :=
  history.placements.flatMap (crossTies axis container)
    ++ alongTies axis container history.placements
    ++ history.closings.map (endTie axis container)

/-- Views that follow a list of views are tied to its last view. -/
theorem followTies_append (before : Placement) (first second : List Placement) :
    followTies axis before (first ++ second) =
      followTies axis before first ++ followTies axis (first.getLastD before) second := by
  induction first generalizing before with
  | nil => rfl
  | cons after later ih =>
    rw [List.cons_append, followTies, followTies, ih, List.getLastD_cons, List.cons_append]

/-- The ties of a batch along the axis: to the view before it, or else to the leading edge. -/
def batchTies (placements batch : List Placement) : List Tie :=
  match placements.getLast? with
  | none => alongTies axis container batch
  | some last => followTies axis last batch

/-- A batch adds its ties to those of the views before it. -/
theorem alongTies_append (placements batch : List Placement) :
    alongTies axis container (placements ++ batch) =
      alongTies axis container placements ++ batchTies axis container placements batch := by
  cases placements with
  | nil => rfl
  | cons first later =>
    rw [List.cons_append, alongTies, alongTies, followTies_append, batchTies, List.getLast?_cons,
      List.getLastD_eq_getLast?, List.cons_append]

/-- After a batch, a sequence has made the ties from before and those of the batch. -/
theorem History.ties_append_subset (history : History) (views : List ViewId) (centered : Bool) :
    (history.append views centered).ties axis container ⊆
      history.ties axis container ++
        ((history.batch views centered).flatMap (crossTies axis container) ++
          batchTies axis container history.placements (history.batch views centered)) := by
  intro tie
  simp only [History.ties, History.append, alongTies_append, List.flatMap_append, List.mem_append]
  tauto

/-- After closing, a sequence has made the ties from before and that of the last view. -/
theorem History.ties_close (history : History) :
    history.close.ties axis container =
      history.ties axis container ++ history.closing.map (endTie axis container) := by
  simp only [History.ties, History.close, List.map_append, List.append_assoc]

/-- Neighbours are tied to each other. -/
theorem betweenTie_mem_followTies {first before after : Placement} {later : List Placement}
    {k : Nat} (left : (first :: later)[k]? = some before) (right : later[k]? = some after) :
    betweenTie axis before after ∈ followTies axis first later := by
  induction later generalizing first k with
  | nil => contradiction
  | cons second later ih =>
    cases k with
    | zero =>
      obtain rfl := Option.some.inj left
      obtain rfl := Option.some.inj right
      exact List.mem_cons_self
    | succ k => exact List.mem_cons_of_mem _ (ih left right)

/-! ## Stacks -/

variable (frames : Node → Frame Rat)

/-- The exact value of a margin. Frames satisfy no constraint with a margin that is not finite. -/
def exact (margin : Binary64) : Rat := margin.toRat?.getD 0

/-- How far each view but the last lies before the next one: its size and the margin between. -/
def strides (placements : List Placement) : List Rat :=
  placements.zipWith (fun before after =>
    (frames before.node).edge axis.size + exact after.margins.between) placements.tail

/-- With one more view, the strides before it go on by the last of them. -/
theorem sum_take_strides_succ {placements : List Placement} {k : Nat} {before after : Placement}
    (here : placements[k]? = some before) (next : placements[k + 1]? = some after) :
    ((strides axis frames placements).take (k + 1)).sum =
      ((strides axis frames placements).take k).sum +
        ((frames before.node).edge axis.size + exact after.margins.between) := by
  have stride : (strides axis frames placements)[k]? =
      some ((frames before.node).edge axis.size + exact after.margins.between) := by
    rw [strides, List.getElem?_zipWith, here, List.getElem?_tail, next]
  rw [List.take_add_one, stride, Option.toList_some, List.sum_append, List.sum_singleton]

/-- Frames are the stack that a history asks for. -/
structure Stacked (history : History) : Prop where
  /-- Along the axis, a view begins after the margin at the ends that was in force for the first
  view and, for each view before it, that view's size and the margin in force for the next one. -/
  along : ∀ first ∈ history.placements.head?, ∀ k placement,
    history.placements[k]? = some placement →
      (frames placement.node).edge axis.leadingEdge =
        exact first.margins.ends + ((strides axis frames history.placements).take k).sum
  /-- Across the axis, a view that is not centered spans the container but for the margins at the
  sides. -/
  pinned : ∀ placement ∈ history.placements, placement.centered = false →
    (frames placement.node).edge axis.cross.leadingEdge = exact placement.margins.sides ∧
      (frames placement.node).edge axis.cross.trailingEdge =
        (frames (.view container)).edge axis.cross.size - exact placement.margins.sides
  /-- Across the axis, a centered view has the center of the container. -/
  centered : ∀ placement ∈ history.placements, placement.centered = true →
    (frames placement.node).edge axis.cross.center =
      (frames (.view container)).edge axis.cross.center
  /-- Along the axis, the container ends the margin after each view that was tied to its end. -/
  closed : ∀ closing ∈ history.closings,
    (frames (.view container)).edge axis.size =
      (frames (.view closing.last)).edge axis.leadingEdge
        + (frames (.view closing.last)).edge axis.size + exact closing.margins.ends

variable {axis container frames}

/-- A tie that is held sets its edges the exact distance apart. -/
theorem edge_eq_of_holds {tie : Tie} (held : tie.Holds frames) :
    (frames tie.first).edge tie.firstEdge =
      (frames tie.second).edge tie.secondEdge + exact tie.distance := by
  obtain ⟨distance, finite, equal⟩ := held
  rw [equal, exact, finite, Option.getD_some]

section Held

variable (origin : ∀ axis : Axis, (frames (.view container)).edge axis.leadingEdge = 0)

include origin

/-- A container at the origin ends at its size. -/
theorem edge_trailingEdge_container (axis : Axis) :
    (frames (.view container)).edge axis.trailingEdge =
      (frames (.view container)).edge axis.size := by
  rw [Frame.edge_trailingEdge, origin, zero_add]

/-- Views whose ties along the axis are held follow one another. -/
theorem edge_leadingEdge_of_ties {first placement : Placement} {later : List Placement} {k : Nat}
    (held : ∀ tie ∈ alongTies axis container (first :: later), tie.Holds frames)
    (placed : (first :: later)[k]? = some placement) :
    (frames placement.node).edge axis.leadingEdge =
      exact first.margins.ends + ((strides axis frames (first :: later)).take k).sum := by
  induction k generalizing placement with
  | zero =>
    obtain rfl := Option.some.inj placed
    have start := edge_eq_of_holds (held _ List.mem_cons_self)
    simp only [startTie, origin, zero_add] at start
    rw [start, List.take_zero, List.sum_nil, add_zero]
  | succ k ih =>
    -- The view before is the view with the previous number, behind which the margin lies.
    obtain ⟨bound, -⟩ := List.getElem?_eq_some_iff.1 placed
    obtain ⟨before, here⟩ : ∃ before, (first :: later)[k]? = some before :=
      ⟨_, List.getElem?_eq_getElem (Nat.lt_of_succ_lt bound)⟩
    have tied := edge_eq_of_holds (held _ (List.mem_cons_of_mem _
      (betweenTie_mem_followTies axis here placed)))
    simp only [betweenTie, Frame.edge_trailingEdge, ih here] at tied
    rw [tied, sum_take_strides_succ axis frames here placed]
    ring

/-- A view whose ties across the axis are held is centered or spans the container. -/
theorem edges_of_crossTies {placement : Placement}
    (held : ∀ tie ∈ crossTies axis container placement, tie.Holds frames) :
    (placement.centered = false →
      (frames placement.node).edge axis.cross.leadingEdge = exact placement.margins.sides ∧
        (frames placement.node).edge axis.cross.trailingEdge =
          (frames (.view container)).edge axis.cross.size - exact placement.margins.sides) ∧
      (placement.centered = true →
        (frames placement.node).edge axis.cross.center =
          (frames (.view container)).edge axis.cross.center) := by
  unfold crossTies at held
  split at held
  · rename_i centered
    have zero : exact 0 = 0 := by decide +kernel
    have middle := edge_eq_of_holds (held _ List.mem_cons_self)
    simp only [zero, add_zero] at middle
    rw [centered]
    exact ⟨nofun, fun _ => middle.symm⟩
  · rename_i pinned
    have leading := edge_eq_of_holds (held _ List.mem_cons_self)
    have trailing := edge_eq_of_holds (held _ (List.mem_cons_of_mem _ List.mem_cons_self))
    simp only [origin, zero_add] at leading
    simp only [edge_trailingEdge_container origin] at trailing
    exact ⟨fun _ => ⟨leading, by linarith⟩, fun centered => absurd centered pinned⟩

/-- Frames that hold all ties of a history are its stack, if the container is at the origin. -/
theorem stacked_of_ties {history : History}
    (held : ∀ tie ∈ history.ties axis container, tie.Holds frames) :
    Stacked axis container frames history := by
  simp only [History.ties, List.forall_mem_append, List.forall_mem_flatMap, List.forall_mem_map]
    at held
  obtain ⟨⟨across, along⟩, ends⟩ := held
  refine ⟨fun first begins k placement placed => ?_,
    fun placement placed => (edges_of_crossTies origin (across placement placed)).1,
    fun placement placed => (edges_of_crossTies origin (across placement placed)).2,
    fun closing closed => ?_⟩
  · obtain ⟨later, views⟩ := List.head?_eq_some_iff.1 begins
    rw [views] at along placed ⊢
    exact edge_leadingEdge_of_ties origin along placed
  · have final := edge_eq_of_holds (ends closing closed)
    simp only [endTie, edge_trailingEdge_container origin, Frame.edge_trailingEdge _ axis] at final
    exact final

end Held

end Sequence

end ViewLayout
