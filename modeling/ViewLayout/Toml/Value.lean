import ViewLayout.Number.Binary

/-!
# TOML values and tables

A TOML document is a table of values. Each table remembers how it came to be, since that decides
what may still be added to it: an inline table is complete, a table that was only passed through by
the path of a header can still get its own header, and a table that dotted keys made can only be
extended by dotted keys.

Three operations build a document: a header opens a table, a double header appends a table to an
array, and an assignment gives a dotted key its value. Each fails instead of defining anything a
second time.
-/

namespace ViewLayout.Toml

open ViewLayout.Number

/-- How a table came to be. -/
inductive Origin where
  /-- Written in braces. -/
  | inline
  /-- Opened by its own header. -/
  | header
  /-- On the way to a table that has a header. -/
  | implied
  /-- On the way to the value of a dotted key. -/
  | dotted
deriving DecidableEq, Repr

/-- A TOML value. -/
inductive Value where
  | string (text : String)
  | integer (number : Int)
  | float (number : Binary64)
  | boolean (value : Bool)
  /-- A date, a time or both, as it was written. -/
  | moment (text : String)
  /-- An array; an open one was made by double headers and can still grow. -/
  | array (isOpen : Bool) (elements : List Value)
  | table (origin : Origin) (entries : List (String × Value))
deriving Repr

/-- The entries of a table, in the order in which they were added. -/
abbrev Entries := List (String × Value)

namespace Entries

/-- The value of a key. -/
def get? (entries : Entries) (key : String) : Option Value :=
  (entries.find? (·.1 = key)).map (·.2)

/-- Replaces the value of a key by what a change makes of it, or of its absence. -/
def alter (key : String) (change : Option Value → Option Value) : Entries → Option Entries
  | [] => (change none).map fun value => [(key, value)]
  | entry :: rest =>
    if entry.1 = key then (change (some entry.2)).map fun value => (key, value) :: rest
    else (alter key change rest).map (entry :: ·)

/-- Adds a key that must be new. -/
def add (key : String) (value : Value) (entries : Entries) : Option Entries :=
  entries.alter key fun
    | none => some value
    | some _ => none

/-- Changes the last table of the elements of an open array. -/
def inLast (change : Entries → Option Entries) : List Value → Option (List Value)
  | [] => none
  | [.table origin entries] => (change entries).map fun entries => [.table origin entries]
  | [_] => none
  | value :: rest => (inLast change rest).map (value :: ·)

/-- Changes the table that a header path leads to. Missing tables on the way are implied, and the
way through an open array is its last element. -/
def within : List String → (Entries → Option Entries) → Entries → Option Entries
  | [], change, entries => change entries
  | key :: path, change, entries =>
    entries.alter key fun
      | none => (within path change []).map (.table .implied)
      | some (.table .inline _) => none
      | some (.table origin inner) => (within path change inner).map (.table origin)
      | some (.array true elements) => (inLast (within path change) elements).map (.array true)
      | some _ => none

/-- Opens the table of a header: a new one, or one that is only implied so far. -/
def openTable (path : List String) (key : String) : Entries → Option Entries :=
  within path (alter key fun
    | none => some (.table .header [])
    | some (.table .implied inner) => some (.table .header inner)
    | some _ => none)

/-- Appends the table of a double header to its open array. -/
def openElement (path : List String) (key : String) : Entries → Option Entries :=
  within path (alter key fun
    | none => some (.array true [.table .header []])
    | some (.array true elements) => some (.array true (elements ++ [.table .header []]))
    | some _ => none)

/-- Assigns a value to a dotted key. Its last table must belong to dotted keys alone; before that
it may also pass through an implied table or the last element of an open array. -/
def assign : List String → String → Value → Entries → Option Entries
  | [], key, value, entries => entries.add key value
  | step :: path, key, value, entries =>
    entries.alter step fun
      | none => (assign path key value []).map (.table .dotted)
      | some (.table .dotted inner) => (assign path key value inner).map (.table .dotted)
      | some (.table .implied inner) =>
        if path.isEmpty then none else (assign path key value inner).map (.table .implied)
      | some (.array true elements) =>
        if path.isEmpty then none else (inLast (assign path key value) elements).map (.array true)
      | some _ => none

end Entries

/-- A statement of a document. -/
inductive Statement where
  /-- Opens the table of a header. -/
  | table (path : List String) (key : String)
  /-- Opens the next element of an array of tables. -/
  | element (path : List String) (key : String)
  /-- Gives a dotted key a value in the table that is open. -/
  | assignment (path : List String) (key : String) (value : Value)
deriving Repr

/-- A document on the way: its entries, and the path of the table that is open. -/
structure Draft where
  /-- The entries so far. -/
  entries : Entries := []
  /-- The path of the open table. -/
  focus : List String := []
deriving Repr

/-- Takes up one statement. -/
def Draft.take (draft : Draft) : Statement → Option Draft
  | .table path key =>
    (draft.entries.openTable path key).map fun entries => ⟨entries, path ++ [key]⟩
  | .element path key =>
    (draft.entries.openElement path key).map fun entries => ⟨entries, path ++ [key]⟩
  | .assignment path key value =>
    (draft.entries.within draft.focus (Entries.assign path key value)).map
      fun entries => { draft with entries }

/-- The table that statements make in turn. -/
def Entries.ofStatements (statements : List Statement) : Option Entries :=
  (statements.foldlM Draft.take {}).map Draft.entries

end ViewLayout.Toml
