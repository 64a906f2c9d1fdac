import ViewLayout.Document.Build
import ViewLayout.Host.Layout

/-!
# Solving layout documents

The answer to a document: a frame for its container and for every key of a view, and what each
constraint text was compiled to. The frames are found by a solver of one's choice.
-/

namespace ViewLayout

open ViewLayout.Number

/-- The answer to a document. -/
structure Solution (Value : Type) where
  /-- The frames by key: the container first, then the views in key order. -/
  frames : List (String × Frame Value)
  /-- The applied texts in order, with the constraints they were compiled to. -/
  constraints : List (String × List Descriptor)

/-- The text of a frame: its coordinates with one place each. -/
def Frame.text (frame : Frame Rat) : String :=
  "x=" ++ coordinateText 1 frame.x ++ " y=" ++ coordinateText 1 frame.y
    ++ " w=" ++ coordinateText 1 frame.width ++ " h=" ++ coordinateText 1 frame.height

namespace Solution

/-- The frames, one on a line. -/
def renderFrames (solution : Solution Rat) : String :=
  "\n".intercalate (solution.frames.map fun entry => entry.1 ++ ": " ++ entry.2.text)

/-- The applied texts, each on a line of its own before the lines of its constraints. -/
def renderConstraints {Value : Type} (solution : Solution Value) : String :=
  "\n".intercalate (solution.constraints.flatMap fun entry =>
    entry.1 :: entry.2.map fun descriptor => "  " ++ descriptor.text)

end Solution

namespace Document

/-- Builds a document and lays it out at the size of its container. -/
def solveBy {Value : Type} [OfNat Value 0] (solver : Host.Solver Value) (document : Document) :
    Except DocumentError (Solution Value) := do
  let builder ← document.build
  let frames ← (builder.host.layoutBy solver builder.container document.width
    document.height).mapError .host
  let frameOf? (view : ViewId) : Option (Frame Value) := (frames.find? (·.1 = view)).map (·.2)
  let registry := builder.registry
  let container := (frameOf? builder.container).map (registry.parentKey, ·)
  let views := registry.viewKeys.filterMap fun key => do
    let view ← (registry.resolveView key).toOption
    (frameOf? view).map (key, ·)
  .ok {
    frames := container.toList ++ views
    constraints := builder.applied.map fun applied => (applied.raw, applied.descriptors) }

end Document

end ViewLayout
