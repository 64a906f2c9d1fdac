import ViewLayout.Equation

/-!
# Errors of constraint text

An error of compiling or applying constraint text is a fault together with what is known about
where it was found. A fault is placed in a constraint once: an error that already names its text
keeps it.
-/

namespace ViewLayout

open ViewLayout.Number ViewLayout.Text

/-- Why a chain is refused. -/
inductive ChainFault where
  /-- The text is no chain. -/
  | malformed (fault : SyntaxFault)
  /-- A word or value of the chain does not resolve. -/
  | unresolved (fault : Fault)
  /-- A priority that is not on the scale from 0 to 1000. -/
  | priorityOutOfRange (value : Binary64)
deriving DecidableEq, Repr

/-- The wording of a chain's fault. -/
def ChainFault.message : ChainFault → String
  | malformed fault => fault.message
  | unresolved fault => fault.message
  | priorityOutOfRange value => "priority " ++ value.render ++ " is outside 0..=1000"

/-- An error of compiling or applying constraint text. -/
inductive ConstraintError where
  /-- A fault outside any constraint text. -/
  | bare (fault : Fault)
  /-- A fault in a constraint, with the place of the word at fault where it is known. -/
  | within (raw : String) (span : Option Span) (fault : Fault)
  /-- A text that is no equation, or one that divides by zero. -/
  | malformed (raw : String) (fault : SyntaxFault) (span : Option Span) (captures : List Capture)
  /-- A text that is refused as a chain. -/
  | rejected (raw : String) (fault : ChainFault) (span : Span)
deriving DecidableEq, Repr

namespace ConstraintError

/-- Places an error in a constraint, unless it has been placed in one before. -/
def placedIn (raw : String) (span : Option Span) : ConstraintError → ConstraintError
  | bare fault => within raw span fault
  | error => error

/-- The constraint text the error is about. -/
def raw? : ConstraintError → Option String
  | bare _ => none
  | within raw _ _ => some raw
  | malformed raw _ _ _ => some raw
  | rejected raw _ _ => some raw

/-- The place of the error in the constraint text. -/
def span? : ConstraintError → Option Span
  | bare _ => none
  | within _ span _ => span
  | malformed _ _ span _ => span
  | rejected _ _ span => some span

/-- What is wrong, without the constraint text. -/
def reason : ConstraintError → String
  | bare fault => fault.message
  | within _ _ fault => fault.message
  | malformed _ fault _ _ => fault.message
  | rejected _ fault _ => fault.message

/-- The full wording of the error. -/
def message : ConstraintError → String
  | bare fault => fault.message
  | within raw _ fault => "in constraint `" ++ raw ++ "`: " ++ fault.message
  | malformed raw fault _ _ => "invalid constraint `" ++ raw ++ "`: " ++ fault.message
  | rejected raw fault _ => "cannot compile `" ++ raw ++ "`: " ++ fault.message

/-- The groups captured before the error was found. -/
def captures : ConstraintError → List Capture
  | malformed _ _ _ captures => captures
  | _ => []

/-- The keys suggested in place of a missing one. -/
def suggestions : ConstraintError → List String
  | bare (.unknownKey _ suggestions) => suggestions
  | within _ _ (.unknownKey _ suggestions) => suggestions
  | _ => []

end ConstraintError

end ViewLayout
