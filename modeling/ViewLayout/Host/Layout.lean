import ViewLayout.Host
import ViewLayout.Linear.Program

/-!
# Layout

A layout gives every live view a frame. It turns the state of a host into linear constraints on
four quantities for each node and has a solver find values for these quantities:

* no view has a negative size, and a view with content prefers the size of its content;
* the root lies at the origin with the size that is asked for, and guides lie where they are
  declared;
* applied constraints hold, or are preferred by their priority.

The constraints are taken in this order, and the first required one that cannot hold together with
those before it is the fault of the layout. A view is live unless it is detached; the root is live
in any case. Constraints that name a view that is not live are left out.

The solver is a parameter: a layout adds constraints to it, asks it for values, and passes on what
it refuses. `simplex` is a solver to run layouts with. It solves in exact arithmetic and takes a miss
below its tolerance for none, since the numbers of the constraints are rounded.
-/

namespace ViewLayout.Host

open ViewLayout.Number ViewLayout.Linear

/-- How strongly a constraint is asked for. -/
inductive Strength where
  | required | strong | medium | weak
deriving DecidableEq, Repr

namespace Strength

/-- The strength of a priority. -/
def ofPriority (priority : Priority) : Strength :=
  if Priority.required.value.atMost priority.value then required
  else if Priority.high.value.atMost priority.value then strong
  else if Priority.low.value.atMost priority.value then medium
  else weak

/-- What a unit of missing a preferred constraint costs. -/
def weight : Strength → Rat
  | required => 0
  | strong => 1000000
  | medium => 1000
  | weak => 1

end Strength

/-- A linear constraint of a layout: a form on the left, and on the right a number, to which another
form may be added that is scaled. -/
structure Demand where
  /-- The form on the left. -/
  left : Form
  /-- How the left side relates to the right side. -/
  relation : Relation
  /-- The factor and the form that it scales. -/
  scaled : Option (Binary64 × Form)
  /-- The number on the right. -/
  constant : Binary64
  /-- How strongly the constraint is asked for. -/
  strength : Strength
  /-- What the constraint is called when it cannot hold. -/
  name : String
deriving DecidableEq, Repr

/-- The four quantities of a node. -/
inductive Side where
  | x | y | width | height
deriving DecidableEq, Repr

namespace Side

/-- The place of a side among the quantities of its node. -/
def place : Side → Nat
  | x => 0
  | y => 1
  | width => 2
  | height => 3

end Side

/-- The number of a quantity: those of the views come first, then those of the guides. -/
def quantity (host : Host) (side : Side) : Node → Nat
  | .view view => 4 * view.index + side.place
  | .guide guide => 4 * (host.views.length + guide.index) + side.place

/-- A quantity of a node as a form. -/
def sideForm (host : Host) (node : Node) (side : Side) : Form :=
  .ofTerm (host.quantity side node) 1

/-- An attribute of a node as a form. -/
def edgeForm (host : Host) (node : Node) (edge : Attribute) : Form :=
  let side := host.sideForm node
  match edge with
  | .left | .leading => side .x
  | .right | .trailing => (side .x).add (side .width)
  | .top => side .y
  | .bottom | .baseline => (side .y).add (side .height)
  | .width => side .width
  | .height => side .height
  | .centerX => (side .x).add ((side .width).scale (1 / 2))
  | .centerY => (side .y).add ((side .height).scale (1 / 2))

/-- The difference of a form and a number, if the number is finite. -/
def minus? (form : Form) (value : Binary64) : Option Form :=
  value.toRat?.map fun q => form.add (.ofConstant (-q))

/-- The form that a constraint compares with zero: its left side without its right side. A constraint
with a number that is not finite has none. -/
def Demand.form (demand : Demand) : Option Form :=
  match demand.scaled with
  | some (factor, right) =>
    factor.toRat?.bind fun factor =>
      minus? (demand.left.add (right.scale (-factor))) demand.constant
  | none => minus? demand.left demand.constant

/-- Whether a node takes part in the layout of a root. -/
def isLive (host : Host) (root : ViewId) : Node → Bool
  | .view view =>
    match host.view? view with
    | some data => !data.detached || view = root
    | none => false
  | .guide guide => guide.index < host.guides.length

/-- The views that take part in the layout of a root, in the order in which they were created. -/
def liveViews (host : Host) (root : ViewId) : List ViewId :=
  ((List.range host.views.length).map ViewId.mk).filter fun view => host.isLive root (.view view)

/-- What a view asks for along an axis on account of its content. -/
def contentDemands (host : Host) (view : ViewId) (data : View) (content : PerAxis Binary64)
    (axis : Axis) : List Demand :=
  let side := match axis with
    | .horizontal => Side.width
    | .vertical => Side.height
  let form := host.sideForm (.view view) side
  let size := content.get axis
  let name := toString view.index ++ " " ++ axis.letter ++ " content size"
  [⟨form, .lessOrEqual, none, size, .ofPriority (data.priority .hugging axis), name⟩,
    ⟨form, .greaterOrEqual, none, size, .ofPriority (data.priority .resistance axis), name⟩]

/-- What a view asks for on its own account. -/
def viewDemands (host : Host) (view : ViewId) : List Demand :=
  match host.view? view with
  | none => []
  | some data =>
    [⟨host.sideForm (.view view) .width, .greaterOrEqual, none, 0, .required, "width >= 0"⟩,
      ⟨host.sideForm (.view view) .height, .greaterOrEqual, none, 0, .required, "height >= 0"⟩]
      ++ (match data.content with
        | some content =>
          host.contentDemands view data content .horizontal
            ++ host.contentDemands view data content .vertical
        | none => [])

/-- What the root asks for. -/
def rootDemands (host : Host) (root : ViewId) (width height : Binary64) : List Demand :=
  let pinned (side : Side) (value : Binary64) (name : String) : Demand :=
    ⟨host.sideForm (.view root) side, .equal, none, value, .required, name⟩
  [pinned .x 0 "root x", pinned .y 0 "root y", pinned .width width "root width",
    pinned .height height "root height"]

/-- What a guide asks for. -/
def guideDemands (host : Host) (guide : GuideId) (frame : Frame Binary64) : List Demand :=
  let pinned (side : Side) (value : Binary64) : Demand :=
    ⟨host.sideForm (.guide guide) side, .equal, none, value, .required, "guide frame"⟩
  [pinned .x frame.x, pinned .y frame.y, pinned .width frame.width, pinned .height frame.height]

/-- What an applied constraint asks for, if all its nodes are live. -/
def constraintDemand? (host : Host) (root : ViewId) (applied : Applied) : Option Demand :=
  let d := applied.descriptor
  let live := host.isLive root applied.first && (applied.second.map (host.isLive root)).getD true
  if live then
    let scaled :=
      match applied.second, d.second with
      | some node, some anchor => some (d.multiplier, host.edgeForm node anchor.edge)
      | _, _ => none
    some ⟨host.edgeForm applied.first d.first.edge, d.relation, scaled, d.constant,
      .ofPriority (d.priority.getD .required), d.text⟩
  else none

/-- The constraints of a layout, in the order in which they are taken. -/
def demands (host : Host) (root : ViewId) (width height : Binary64) : List Demand :=
  ((host.liveViews root).map host.viewDemands).flatten
    ++ host.rootDemands root width height
    ++ (host.guides.mapIdx fun index frame => host.guideDemands ⟨index⟩ frame).flatten
    ++ host.constraints.filterMap (host.constraintDemand? root)

/-- A solver of linear constraints on numbered quantities. -/
structure Solver (Value : Type) where
  /-- What the solver keeps of the constraints it was given. -/
  State : Type
  /-- What it has found when it is asked for values. -/
  Report : Type
  /-- The state before any constraint, for a number of quantities. -/
  start : Nat → State
  /-- Adds a constraint, or refuses it. -/
  add : State → Demand → Except HostFault State
  /-- Solves the constraints. -/
  report : State → Report
  /-- The value of a quantity, if it is reported. -/
  value? : Report → Nat → Option Value

/-- The frame of a node when the quantities have the given values. -/
def frame {Value : Type} (host : Host) (values : Nat → Value) (node : Node) : Frame Value :=
  let value (side : Side) : Value := values (host.quantity side node)
  ⟨value .x, value .y, value .width, value .height⟩

section Solving

variable {Value : Type} [OfNat Value 0]

/-- The values of all quantities in a layout. A quantity that is not reported is zero. -/
def solveBy (host : Host) (solver : Solver Value) (root : ViewId) (width height : Binary64) :
    Except HostFault (Nat → Value) := do
  let state ← (host.demands root width height).foldlM solver.add
    (solver.start (4 * (host.views.length + host.guides.length)))
  let report := solver.report state
  .ok fun quantity => (solver.value? report quantity).getD 0

/-- The frames of the live views when the root has the given size, in the order in which the views
were created. -/
def layoutBy (host : Host) (solver : Solver Value) (root : ViewId) (width height : Binary64) :
    Except HostFault (List (ViewId × Frame Value)) := do
  let _ ← host.view root
  let values ← host.solveBy solver root width height
  .ok <| (host.liveViews root).map fun view => (view, host.frame values (.view view))

end Solving

/-! ## A solver -/

/-- Adds one constraint to a program. One that compares no forms, since a number of it is not finite,
is left out. -/
def Demand.addTo (program : Program) (demand : Demand) : Except HostFault Program :=
  match demand.form with
  | none => .ok program
  | some form =>
    match demand.strength with
    | .required =>
      match program.require demand.relation form with
      | some program => .ok program
      | none => .error (.unsatisfiable demand.name)
    | strength => .ok (program.prefer strength.weight demand.relation form)

/-- The solver that takes the constraints as one program. It reports every quantity. -/
def simplex : Solver Rat where
  State := Program
  Report := System
  start := .ofQuantities
  add := Demand.addTo
  report := Program.optimum
  value? optimum quantity := some (optimum.quantityValue quantity)

end ViewLayout.Host
