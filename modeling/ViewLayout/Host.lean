import ViewLayout.Constraint
import ViewLayout.Configuration
import ViewLayout.Steps

/-!
# The layout host

A host owns views, guides and applied constraints. Its views form a forest: each view knows its
parent and the list of its children, and the operations keep the two in step. A detached view
keeps its children and its constraints, but takes no part in layout until it is attached again.

Applied constraints are stored with the nodes that their keys stood for when they were applied.
-/

namespace ViewLayout

open ViewLayout.Number

/-- A rectangle. -/
structure Frame (Coordinate : Type) where
  /-- Distance of the leading edge. -/
  x : Coordinate
  /-- Distance of the top edge. -/
  y : Coordinate
  /-- Extent along the horizontal axis. -/
  width : Coordinate
  /-- Extent along the vertical axis. -/
  height : Coordinate
deriving DecidableEq, Repr

namespace Frame

/-- The frame whose coordinates are the images of those of a frame. -/
def map {α β : Type} (change : α → β) (frame : Frame α) : Frame β :=
  ⟨change frame.x, change frame.y, change frame.width, change frame.height⟩

/-- The coordinate of the trailing edge. -/
def right (frame : Frame Rat) : Rat := frame.x + frame.width

/-- The coordinate of the bottom edge. -/
def bottom (frame : Frame Rat) : Rat := frame.y + frame.height

/-- The frame as it is shown. Layouts are solved exactly; a coordinate is shown as the 64-bit number
nearest to it. -/
def shown (frame : Frame Rat) : Frame Rat := frame.map (Binary.nearest .double)

end Frame

/-- A coordinate as text, with a fixed number of places. -/
def coordinateText (places : Nat) (q : Rat) : String := fixed places (Binary.nearest .double q)

/-- One value for each axis. -/
structure PerAxis (α : Type) where
  /-- The value along the horizontal axis. -/
  horizontal : α
  /-- The value along the vertical axis. -/
  vertical : α
deriving DecidableEq, Repr

namespace PerAxis

variable {α : Type}

/-- The same value for both axes. -/
def both (value : α) : PerAxis α := ⟨value, value⟩

/-- The value along an axis. -/
def get (pair : PerAxis α) : Axis → α
  | .horizontal => pair.horizontal
  | .vertical => pair.vertical

/-- Replaces the value along an axis. -/
def set (pair : PerAxis α) (axis : Axis) (value : α) : PerAxis α :=
  match axis with
  | .horizontal => { pair with horizontal := value }
  | .vertical => { pair with vertical := value }

end PerAxis

/-- The two ways in which a view holds on to the size of its content. -/
inductive ContentPriority where
  /-- Resistance to growing beyond the content. -/
  | hugging
  /-- Resistance to shrinking below the content. -/
  | resistance
deriving DecidableEq, Repr

/-- A view of a host. -/
structure View where
  /-- The view it is in. -/
  parent : Option ViewId := none
  /-- The views in it, in the order in which they were attached. -/
  children : List ViewId := []
  /-- Whether it was taken out of layout. -/
  detached : Bool := false
  /-- The size its content wants. -/
  content : Option (PerAxis Binary64) := none
  /-- Resistance to growing beyond the content. -/
  hugging : PerAxis Priority := .both .low
  /-- Resistance to shrinking below the content. -/
  resistance : PerAxis Priority := .both .high
deriving DecidableEq, Repr

namespace View

/-- A content priority of a view. -/
def priority (view : View) (kind : ContentPriority) (axis : Axis) : Priority :=
  match kind with
  | .hugging => view.hugging.get axis
  | .resistance => view.resistance.get axis

/-- Replaces a content priority of a view. -/
def setPriority (view : View) (kind : ContentPriority) (axis : Axis) (value : Priority) : View :=
  match kind with
  | .hugging => { view with hugging := view.hugging.set axis value }
  | .resistance => { view with resistance := view.resistance.set axis value }

end View

/-- A constraint that has been applied. -/
structure Applied where
  /-- The constraint. -/
  descriptor : Descriptor
  /-- The node of its first item. -/
  first : Node
  /-- The node of its second item. -/
  second : Option Node
deriving DecidableEq, Repr

/-- A layout host. -/
structure Host where
  /-- The gaps of bare dashes in chains. -/
  spacing : Spacing
  /-- The views, in the order in which they were created. -/
  views : List View := []
  /-- The frames of the guides, in the order in which they were created. -/
  guides : List (Frame Binary64) := []
  /-- The applied constraints, in the order in which they were applied. -/
  constraints : List Applied := []
deriving DecidableEq, Repr

namespace Host

/-- A host without views. -/
def ofConfiguration (configuration : Configuration) : Host := { spacing := configuration.spacing }

/-! ### Nodes -/

/-- Creates a view whose content wants the given size, if it has content. -/
def createView (host : Host) (content : Option (PerAxis Binary64)) : Host × ViewId :=
  ({ host with views := host.views ++ [{ content }] }, ⟨host.views.length⟩)

/-- Creates a guide with a fixed frame. -/
def createGuide (host : Host) (frame : Frame Binary64) : Host × GuideId :=
  ({ host with guides := host.guides ++ [frame] }, ⟨host.guides.length⟩)

/-- The data of a view. -/
def view? (host : Host) (view : ViewId) : Option View := host.views[view.index]?

/-- The data of a view that has to exist. -/
def view (host : Host) (view : ViewId) : Except HostFault View :=
  match host.view? view with
  | some data => .ok data
  | none => .error (.unknownNode (Node.view view).describe)

/-- Changes the data of a view. -/
def modifyView (host : Host) (view : ViewId) (change : View → View) : Host :=
  { host with views := host.views.modify view.index change }

/-- Whether the host created a node. -/
def knows (host : Host) : Node → Bool
  | .view view => view.index < host.views.length
  | .guide guide => guide.index < host.guides.length

/-- The views in a view, in the order in which they were attached. -/
def children (host : Host) (view : ViewId) : List ViewId :=
  ((host.view? view).map View.children).getD []

/-- The view a view is in. -/
def parent? (host : Host) (view : ViewId) : Option ViewId :=
  (host.view? view).bind View.parent

/-- Whether a view was taken out of layout. -/
def isDetached (host : Host) (view : ViewId) : Bool :=
  ((host.view? view).map View.detached).getD false

/-- A content priority of a view. -/
def contentPriority? (host : Host) (view : ViewId) (axis : Axis) (kind : ContentPriority) :
    Option Priority :=
  (host.view? view).map (·.priority kind axis)

/-! ### The view tree -/

/-- Climbs from a view to its root and fails if `child` is on the way, or if a view on the way is
unknown. There are no more steps to a root than there are views. -/
def checkNotAbove (host : Host) (parent child : ViewId) :
    Nat → Option ViewId → Except HostFault Unit
  | _, none => .ok ()
  | 0, some _ => .error (.cycle parent.index child.index)
  | steps + 1, some node => do
    if node = child then .error (.cycle parent.index child.index)
    let data ← host.view node
    checkNotAbove host parent child steps data.parent

/-- Changes the data of a view that has to exist. -/
def change (view : ViewId) (update : View → View) : Steps Host HostFault Unit := do
  let _ ← Steps.reading (·.view view)
  modify (·.modifyView view update)

/-- Takes a view out of its parent's children. -/
def removeChild (parent : Option ViewId) (child : ViewId) : Steps Host HostFault Unit :=
  match parent with
  | some parent =>
    change parent fun data => { data with children := data.children.filter (· ≠ child) }
  | none => pure ()

/-- The steps of putting a view last among the children of another view, wherever it was before.
A view cannot be put under itself or under one of its descendants. -/
def attachSteps (parent child : ViewId) : Steps Host HostFault Unit := do
  let data ← Steps.reading (·.view child)
  Steps.reading fun host =>
    host.checkNotAbove parent child (host.views.length + 1) (some parent)
  removeChild data.parent child
  change child fun data => { data with parent := some parent, detached := false }
  change parent fun data => { data with children := data.children ++ [child] }

/-- The steps of taking a view out of its parent and out of layout. -/
def detachSteps (view : ViewId) : Steps Host HostFault Unit := do
  let data ← Steps.reading (·.view view)
  removeChild data.parent view
  change view fun data => { data with parent := none, detached := true }

/-- Puts a view last among the children of another view. -/
def attach (host : Host) (parent child : ViewId) : Except HostFault Host :=
  ((attachSteps parent child).outcome host).map (·.2)

/-- Takes a view out of its parent and out of layout. -/
def detach (host : Host) (view : ViewId) : Except HostFault Host :=
  ((detachSteps view).outcome host).map (·.2)

/-- Sets one content priority of one view. -/
def setContentPriority (host : Host) (view : ViewId) (priority : Priority) (axis : Axis)
    (kind : ContentPriority) : Except HostFault Host := do
  let _ ← host.view view
  .ok (host.modifyView view (·.setPriority kind axis priority))

/-! ### Constraints -/

/-- The node of a key, which the host has to know. -/
def resolveKey (host : Host) (registry : Registry) (key : String) : Except HostFault Node :=
  match registry.resolve key with
  | .error _ => .error (.unknownNode key)
  | .ok node => if host.knows node then .ok node else .error (.unknownNode node.describe)

/-- A descriptor with the nodes of its keys. -/
def resolveDescriptor (host : Host) (registry : Registry) (descriptor : Descriptor) :
    Except HostFault Applied := do
  let first ← host.resolveKey registry descriptor.first.key
  let second ← descriptor.second.mapM fun anchor => host.resolveKey registry anchor.key
  .ok ⟨descriptor, first, second⟩

/-- The number of an applied constraint among all that were applied. -/
structure Handle where
  /-- The number, counted from zero. -/
  index : Nat
deriving DecidableEq, Repr

/-- The text of a handle. -/
def Handle.text (handle : Handle) : String :=
  "ConstraintHandle(" ++ toString handle.index ++ ")"

/-- The steps of applying descriptors. All keys are resolved before anything is stored. -/
def applySteps (registry : Registry) (descriptors : List Descriptor) :
    Steps Host HostFault (List Handle) := do
  let applied ← Steps.reading fun host => descriptors.mapM (host.resolveDescriptor registry)
  modifyGet fun host =>
    ((List.range applied.length).map fun i => ⟨host.constraints.length + i⟩,
      { host with constraints := host.constraints ++ applied })

/-- Applies descriptors, and gives the handles of the constraints they become. -/
def apply (host : Host) (registry : Registry) (descriptors : List Descriptor) :
    Except HostFault (Host × List Handle) :=
  ((applySteps registry descriptors).outcome host).map Prod.swap

/-- The constraint of a handle. -/
def constraint? (host : Host) (handle : Handle) : Option Descriptor :=
  (host.constraints[handle.index]?).map Applied.descriptor

/-- Compiles constraint text with the gaps of the host. -/
def compile (host : Host) (raw : String) (registry : Registry) (metrics : Metrics)
    (priority : Option Priority) : Except ConstraintError (List Descriptor) :=
  Constraint.compile raw host.spacing registry metrics priority

end Host

end ViewLayout
