import ViewLayout.ConstraintError
import ViewLayout.Descriptor
import ViewLayout.Registry

/-!
# Compiling equations

An equation becomes exactly one descriptor. It is read off the captured groups by their numbers: a
wrong number of groups or a required group that is not captured is an error. Then the words are
checked in the order keys, attributes, relation, factor, term, and the first that does not resolve is
the error.
-/

namespace ViewLayout.Equation

open ViewLayout.Number ViewLayout.Text

/-- Places the fault of a written word in its constraint. -/
def placed {α : Type} (raw : String) (part : Spanned String) (result : Except Fault α) :
    Except ConstraintError α :=
  result.mapError fun fault => .within raw (some part.span) fault

/-- Refuses a wrong number of captured groups. -/
def checkCount (raw : String) (captures : List Capture) : Except ConstraintError Unit :=
  if captures.length = Grammar.groupCount then .ok ()
  else .error (.malformed raw (.groupCount captures.length) none captures)

/-- The part captured in a group that has to be captured. -/
def required (raw : String) (captures : List Capture) (index : Nat) :
    Except ConstraintError (Spanned String) :=
  match Capture.at? captures index with
  | some part => .ok part
  | none => .error (.malformed raw (.missingGroup index) none captures)

/-- The multiplier that is captured: the value of a factor, or one divided by it, and one where no
factor is written. -/
def multiplierOf (raw : String) (metrics : Metrics) (captures : List Capture) :
    Except ConstraintError Binary64 :=
  match Capture.at? captures Group.factorOperator, Capture.at? captures Group.factorValue with
  | some operator, some value => do
    let number ← placed raw value (metrics.resolve value.value)
    if operator.value = FactorOperator.divided.mark.text then
      if number.equal 0 then .error (.malformed raw .divisionByZero none captures)
      else .ok number.reciprocal
    else .ok number
  | _, _ => .ok 1

/-- The constant that is captured: the value of a term, or its value with the sign turned round, and
zero where no term is written. -/
def constantOf (raw : String) (metrics : Metrics) (captures : List Capture) :
    Except ConstraintError Binary64 :=
  match Capture.at? captures Group.termOperator, Capture.at? captures Group.termValue with
  | some operator, some value => do
    let number ← placed raw value (metrics.resolve value.value)
    .ok (if operator.value = TermOperator.minus.mark.text then -number else number)
  | _, _ => .ok 0

/-- The descriptor of captured groups: all groups are there, all that are required are captured, and
all words resolve. -/
def descriptorOf (raw : String) (registry : Registry) (metrics : Metrics)
    (captures : List Capture) : Except ConstraintError Descriptor := do
  checkCount raw captures
  let firstKey ← required raw captures Group.firstKey
  let firstEdge ← required raw captures Group.firstEdge
  let symbol ← required raw captures Group.relation
  let secondKey ← required raw captures Group.secondKey
  let secondEdge ← required raw captures Group.secondEdge
  let _ ← placed raw firstKey (registry.resolve firstKey.value)
  let _ ← placed raw secondKey (registry.resolve secondKey.value)
  let first ← placed raw firstEdge (Attribute.lookup firstEdge.value)
  let second ← placed raw secondEdge (Attribute.lookup secondEdge.value)
  let relation ← placed raw symbol (Relation.lookup symbol.value)
  let multiplier ← multiplierOf raw metrics captures
  let constant ← constantOf raw metrics captures
  .ok {
    first := ⟨firstKey.value, first⟩
    relation
    second := some ⟨secondKey.value, second⟩
    multiplier
    constant }

/-- Compiles a whole text as an equation. -/
def compile (raw : String) (registry : Registry) (metrics : Metrics) :
    Except ConstraintError Descriptor :=
  match parse raw with
  | .error rejection =>
    .error (.malformed raw rejection.error.fault (some rejection.error.span) rejection.captures)
  | .ok e => descriptorOf raw registry metrics (e.captures raw)

end ViewLayout.Equation
