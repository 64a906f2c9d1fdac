import ViewLayout.Builder

/-!
# Sequences

A sequence stacks views along an axis inside a container. It writes the constraint text for each
batch of views: one text for each view across the axis, then one chain along it. The first batch
begins at the container's leading edge, each later batch after the last view before it, and closing
a sequence ties its last view to the container's trailing edge.

The margins of a sequence are the metrics its texts are written with; they replace the active
metrics whenever a text is applied.
-/

namespace ViewLayout

open ViewLayout.Number

/-- The gaps of a sequence. -/
structure Margins where
  /-- Between the container and the first and the last view. -/
  ends : Binary64 := 0
  /-- Between the container and each view across the axis. -/
  sides : Binary64 := 0
  /-- Between one view and the next. -/
  between : Binary64 := 0
deriving DecidableEq, Repr

namespace Margins

/-- The metric of the gap at the ends. -/
def endsKey : String := "e"

/-- The metric of the gap at the sides. -/
def sidesKey : String := "s"

/-- The metric of the gap between views. -/
def betweenKey : String := "b"

/-- The margins as metrics. -/
def metrics (margins : Margins) : Metrics :=
  .ofList [(endsKey, margins.ends), (sidesKey, margins.sides), (betweenKey, margins.between)]

end Margins

/-- Views stacked along an axis. -/
structure Sequence where
  /-- The axis. -/
  axis : Axis
  /-- The layout that the sequence is part of. -/
  builder : Builder
  /-- The gaps of the texts to come. -/
  margins : Margins := {}
  /-- The number of views so far. -/
  count : Nat := 0
  /-- Whether the last view is tied to the trailing edge. -/
  closed : Bool := false

namespace Sequence

/-- The key of the view with a number, the first view having number one. -/
def viewKey (number : Nat) : String := "v" ++ toString number

/-- Sets the gaps of the texts to come. -/
def withMargins (sequence : Sequence) (margins : Margins) : Sequence :=
  { sequence with margins }

/-- The text that places a view across the axis: centered, or kept from both edges. -/
def crossText (sequence : Sequence) (key : String) (centered : Bool) : String :=
  let cross := sequence.axis.cross
  if centered then
    let center := cross.center.keyword
    "X:" ++ sequence.builder.registry.parentKey ++ "." ++ center ++ " == " ++ key ++ "." ++ center
  else
    cross.letter ++ ":|-(" ++ Margins.sidesKey ++ ")-[" ++ key ++ "]-(" ++ Margins.sidesKey ++ ")-|"

/-- What a chain begins with before its first new view. -/
def chainStart (count : Nat) : String :=
  if count = 0 then "|-(" ++ Margins.endsKey ++ ")-"
  else "[" ++ viewKey count ++ "]-(" ++ Margins.betweenKey ++ ")-"

/-- The chain of new views along an axis, after `count` views that are there already. -/
def chainText (axis : Axis) (count : Nat) (keys : List String) : String :=
  axis.letter ++ ":" ++ chainStart count ++ "["
    ++ ("]-(" ++ Margins.betweenKey ++ ")-[").intercalate keys ++ "]"

/-- The text that ties the last view to the trailing edge. -/
def closingText (axis : Axis) (count : Nat) : String :=
  axis.letter ++ ":[" ++ viewKey count ++ "]-(" ++ Margins.endsKey ++ ")-|"

/-- Applies a text with the margins as metrics. -/
def emit (sequence : Sequence) (raw : String) : Except ConstraintError Sequence := do
  let builder ← (sequence.builder.withMetrics sequence.margins.metrics).addConstraint raw
  .ok { sequence with builder }

/-- Registers the next view of the sequence and puts it into the container. -/
def addNext (sequence : Sequence) (view : ViewId) : Except ConstraintError Sequence := do
  let count := sequence.count + 1
  let builder ← sequence.builder.addView (viewKey count) view
  .ok { sequence with builder, count }

/-- Appends a batch of views. A batch without views changes nothing; any other batch opens the
sequence again. -/
def addViews (sequence : Sequence) (views : List ViewId) (centered : Bool) :
    Except ConstraintError Sequence := do
  if views.isEmpty then .ok sequence
  else
    let before := sequence.count
    let keys := (List.range views.length).map fun i => viewKey (before + i + 1)
    let added ← views.foldlM addNext sequence
    let placed ← keys.foldlM (fun s key => s.emit (s.crossText key centered)) added
    let chained ← placed.emit (chainText sequence.axis before keys)
    .ok { chained with closed := false }

/-- Ties the last view to the trailing edge, unless it is tied already. -/
def close (sequence : Sequence) : Except ConstraintError Sequence := do
  if sequence.count = 0 then .error (.bare .emptySequence)
  else if sequence.closed then .ok sequence
  else
    let emitted ← sequence.emit (closingText sequence.axis sequence.count)
    .ok { emitted with closed := true }

end Sequence

end ViewLayout
