import ViewLayout.Sequence

/-!
# Runs of a sequence

A sequence is used by setting margins, appending batches and closing, in any order and any number
of times. A run takes such operations one after another, up to the first that fails.
-/

namespace ViewLayout.Sequence

/-- An operation on a sequence. -/
inductive Operation where
  /-- Sets the gaps of the texts to come. -/
  | withMargins (margins : Margins)
  /-- Appends a batch of views. -/
  | addViews (views : List ViewId) (centered : Bool)
  /-- Ties the last view to the trailing edge. -/
  | close

/-- The views that an operation appends. -/
def Operation.views : Operation → List ViewId
  | withMargins _ => []
  | addViews views _ => views
  | close => []

/-- Performs an operation. -/
def perform (sequence : Sequence) : Operation → Except ConstraintError Sequence
  | .withMargins margins => .ok (sequence.withMargins margins)
  | .addViews views centered => sequence.addViews views centered
  | .close => sequence.close

/-- Performs operations one after another. -/
def run (sequence : Sequence) (operations : List Operation) : Except ConstraintError Sequence :=
  operations.foldlM perform sequence

end ViewLayout.Sequence
