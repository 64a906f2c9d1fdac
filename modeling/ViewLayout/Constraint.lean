import ViewLayout.Chain.Compile
import ViewLayout.Equation.Compile

/-!
# Constraint text

The one entry point for constraint text of either format. A text that begins with an `X` is an
equation and becomes exactly one descriptor; any other text is a chain and may become several.
-/

namespace ViewLayout.Constraint

/-- Whether a text is meant as an equation. -/
def isEquation (raw : String) : Bool :=
  raw.toList.head? = some 'X'

/-- The descriptors of a text, with the priorities written in it. -/
def descriptors (raw : String) (spacing : Spacing) (registry : Registry) (metrics : Metrics) :
    Except ConstraintError (List Descriptor) :=
  if isEquation raw then
    (Equation.compile raw registry metrics).map ([·])
  else
    (Chain.compile raw spacing registry metrics).mapError fun rejection =>
      .rejected raw rejection.fault rejection.span

/-- Compiles constraint text. A priority given here replaces the priority of every descriptor. -/
def compile (raw : String) (spacing : Spacing) (registry : Registry) (metrics : Metrics)
    (priority : Option Priority) : Except ConstraintError (List Descriptor) :=
  (descriptors raw spacing registry metrics).map fun compiled =>
    match priority with
    | some priority => compiled.map ({ · with priority := some priority })
    | none => compiled

end ViewLayout.Constraint
