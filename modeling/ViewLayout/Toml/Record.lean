import ViewLayout.Toml.Value

/-!
# Records in TOML

Typed values are read from TOML values here. A record has named fields and is written either as a
table or as an array of its fields in order. A table may leave out optional fields and must not have
other keys if the record is closed; an array may leave out fields at the end that have a default, and
what it has beyond the fields is ignored.
-/

namespace ViewLayout.Toml

open ViewLayout.Number

namespace Value

/-- The text of a string. -/
def string? : Value → Option String
  | .string text => some text
  | _ => none

/-- The truth value. -/
def boolean? : Value → Option Bool
  | .boolean value => some value
  | _ => none

/-- The number of a format nearest to an integer or a fraction. -/
def number? {f : Format} : Value → Option (Binary f)
  | .integer number => some (.ofRat number)
  | .float number => some (number.convert f)
  | _ => none

/-- The elements of an array. -/
def elements? : Value → Option (List Value)
  | .array _ elements => some elements
  | _ => none

/-- The entries of a table. -/
def entries? : Value → Option Entries
  | .table _ entries => some entries
  | _ => none

/-- The elements of an array, each read alike. -/
def list? {α : Type} (element : Value → Option α) (value : Value) : Option (List α) :=
  value.elements?.bind (·.mapM element)

/-- The first two elements of an array. -/
def pair? {α : Type} (element : Value → Option α) (value : Value) : Option (α × α) :=
  match value.elements? with
  | some (first :: second :: _) => do some (← element first, ← element second)
  | _ => none

end Value

/-- The fields of a kind of record. -/
structure Shape where
  /-- The names of the fields in order. -/
  fields : List String
  /-- Whether a table must not have any other key. -/
  closed : Bool
deriving DecidableEq, Repr

/-- The written fields of a record. -/
structure Record where
  /-- The values by field name. -/
  entries : Entries
  /-- Whether the record was written as a table. -/
  named : Bool

/-- Whether a table has fields of a shape only, or may have others. -/
def Shape.admits (shape : Shape) (entries : Entries) : Bool :=
  !shape.closed || entries.all fun entry => shape.fields.contains entry.1

/-- The written fields of a value. A moment is a record that has none of the fields, and so is no
closed record. -/
def Shape.record? (shape : Shape) : Value → Option Record
  | .table _ entries => if shape.admits entries then some ⟨entries, true⟩ else none
  | .array _ elements => some ⟨shape.fields.zip elements, false⟩
  | .moment _ => if shape.closed then none else some ⟨[], true⟩
  | _ => none

namespace Record

variable {α : Type}

/-- A field that may be left out. -/
def get? (record : Record) (name : String) (decode : Value → Option α) : Option (Option α) :=
  match record.entries.get? name with
  | some value => (decode value).map some
  | none => some none

/-- A field that must be there. -/
def required (record : Record) (name : String) (decode : Value → Option α) : Option α :=
  (record.get? name decode).bind id

/-- A field that has a default. -/
def withDefault (record : Record) (name : String) (default : α) (decode : Value → Option α) :
    Option α :=
  (record.get? name decode).map (·.getD default)

/-- A field without a default that only a table may leave out. -/
def optional (record : Record) (name : String) (decode : Value → Option α) : Option (Option α) :=
  if record.named then record.get? name decode else (record.required name decode).map some

end Record

end ViewLayout.Toml
