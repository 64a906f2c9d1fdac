import ViewLayout.Fault
import ViewLayout.KeyMap
import ViewLayout.Number.Decimal

/-!
# Metrics

Named numbers that constraint text can use in place of literals. A value in constraint text is a
metric name when it starts like one and a literal otherwise; a name that is not bound is a fault
and never stands for zero.
-/

namespace ViewLayout

open ViewLayout.Number

/-- The active metrics. -/
abbrev Metrics := KeyMap Binary64

namespace Metrics

/-- Whether a value starts with an ASCII letter or an underscore, and so is a name. -/
def isName (value : String) : Bool :=
  match value.toList with
  | c :: _ => c.isAlpha || c = '_'
  | [] => false

/-- The number a written value stands for. -/
def resolve (metrics : Metrics) (value : String) : Except Fault Binary64 :=
  if isName value then
    match metrics.get? value with
    | some number => .ok number
    | none => .error (.unknownMetric value)
  else
    match Binary.read? value with
    | some number => .ok number
    | none => .error (.malformedNumber value)

end Metrics

end ViewLayout
