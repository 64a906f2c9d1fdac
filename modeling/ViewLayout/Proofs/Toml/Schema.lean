import ViewLayout.Toml.Record
import Mathlib.Data.List.Basic

/-!
# Which keys a format has where

A schema says what a format has at each place of a document: which keys a table may have there, and
what may stand under them. It is written down beside the readers and knows nothing of them. What a
reader is held to is that it accepts only what its schema admits (`Schema.Reads`): every key, however
deep, is one that the schema has at its place, unless the reader never gets to see it.

A reader sees neither the other keys of an open record nor what an array holds beyond the fields or
elements that are read off it.
-/

namespace ViewLayout.Toml

open ViewLayout.Number

/-! ## Places in a value -/

/-- A step from a value into it. -/
inductive Step where
  /-- To what a key of a table stands for. -/
  | entry (key : String)
  /-- To an element of an array. -/
  | element (index : Nat)
deriving DecidableEq, Repr

namespace Value

/-- The value that a step leads to. -/
def inner? : Value → Step → Option Value
  | .table _ entries, .entry key => Entries.get? entries key
  | .array _ elements, .element index => elements[index]?
  | _, _ => none

/-- The value that a path leads to. -/
def at? (value : Value) : List Step → Option Value
  | [] => some value
  | step :: path => (value.inner? step).bind (·.at? path)

/-- The keys of a value, which only a table has. -/
def keys : Value → List String
  | .table _ entries => entries.map (·.1)
  | _ => []

/-- At a place in a value there is a table with a key. -/
def HasKey (value : Value) (path : List Step) (key : String) : Prop :=
  ∃ part, value.at? path = some part ∧ key ∈ part.keys

instance (value : Value) (path : List Step) (key : String) :
    Decidable (value.HasKey path key) :=
  decidable_of_iff (∃ part ∈ value.at? path, key ∈ part.keys) Iff.rfl

/-- A value that nothing stands in. -/
structure IsFlat (value : Value) : Prop where
  /-- It has no keys. -/
  keys : value.keys = []
  /-- No step leads into it. -/
  inner : ∀ step, value.inner? step = none

/-- A string is flat. -/
theorem isFlat_of_string? {value : Value} {text : String} (read : value.string? = some text) :
    value.IsFlat := by
  cases value with
  | string text => exact ⟨rfl, fun _ => rfl⟩
  | _ => contradiction

/-- A truth value is flat. -/
theorem isFlat_of_boolean? {value : Value} {truth : Bool} (read : value.boolean? = some truth) :
    value.IsFlat := by
  cases value with
  | boolean truth => exact ⟨rfl, fun _ => rfl⟩
  | _ => contradiction

/-- A number is flat. -/
theorem isFlat_of_number? {f : Format} {value : Value} {number : Binary f}
    (read : value.number? = some number) : value.IsFlat := by
  cases value with
  | integer number => exact ⟨rfl, fun _ => rfl⟩
  | float number => exact ⟨rfl, fun _ => rfl⟩
  | _ => contradiction

end Value

/-! ## Schemas -/

/-- What a format has at a place of a document. -/
inductive Schema where
  /-- A value without keys. -/
  | plain
  /-- A table with any keys, each for a value without keys. -/
  | free
  /-- Any number of elements that are alike. -/
  | each (element : Schema)
  /-- An array of which the first elements are read. -/
  | row (elements : List Schema)
  /-- A record, written as a table or as the array of its fields. An open one lets other keys
  pass. -/
  | record (isOpen : Bool) (fields : List (String × Schema))

namespace Schema

/-- Whether a table may have a key. -/
def defines : Schema → String → Bool
  | .free, _ => true
  | .record _ fields, key => fields.any (·.1 = key)
  | _, _ => false

/-- What the format has where a step leads to. -/
def inner? : Schema → Step → Option Schema
  | .free, .entry _ => some .plain
  | .each element, .element _ => some element
  | .row elements, .element index => elements[index]?
  | .record _ fields, .entry key => (fields.find? (·.1 = key)).map (·.2)
  | .record _ fields, .element index => fields[index]?.map (·.2)
  | _, _ => none

/-- What the format has where a path leads to. -/
def at? (schema : Schema) : List Step → Option Schema
  | [] => some schema
  | step :: path => (schema.inner? step).bind (·.at? path)

/-- Whether a step leads to where nothing is read: to another key of an open record, or beyond what
is read off an array. -/
def overlooks : Schema → Step → Bool
  | .record isOpen fields, .entry key => isOpen && fields.all (·.1 ≠ key)
  | .record _ fields, .element index => fields.length ≤ index
  | .row elements, .element index => elements.length ≤ index
  | _, _ => false

/-- Whether a path leads to or through where nothing is read. -/
def overlooksAt (schema : Schema) : List Step → Bool
  | [] => false
  | step :: path =>
    schema.overlooks step || ((schema.inner? step).map (·.overlooksAt path)).getD false

/-- Whether the format has a key for the table at a place. -/
def definesAt (schema : Schema) (path : List Step) (key : String) : Bool :=
  ((schema.at? path).map (·.defines key)).getD false

/-- Every key in a value is one that the format has at its place, or stands where nothing is
read. -/
def Admits (schema : Schema) (value : Value) : Prop :=
  ∀ path key, value.HasKey path key →
    schema.definesAt path key = true ∨ schema.overlooksAt (path ++ [.entry key]) = true

/-- A reader accepts only what a schema admits. -/
def Reads {α : Type} (schema : Schema) (decode : Value → Option α) : Prop :=
  ∀ value found, decode value = some found → schema.Admits value

/-- The entries of a table whose keys the format has there. -/
def ownEntries (schema : Schema) (entries : Entries) : Entries :=
  entries.filter fun entry => schema.defines entry.1

/-! ### What is admitted -/

/-- A value is admitted when its own keys are, and what stands in it is admitted at its place. -/
theorem admits_of_inner {schema : Schema} {value : Value}
    (own : ∀ key ∈ value.keys, schema.defines key = true ∨ schema.overlooks (.entry key) = true)
    (inner : ∀ step part, value.inner? step = some part →
      schema.overlooks step = true ∨ ∃ here, schema.inner? step = some here ∧ here.Admits part) :
    schema.Admits value := by
  rintro path key ⟨part, stands, listed⟩
  cases path with
  | nil =>
    obtain rfl := Option.some.inj stands
    apply (own key listed).imp
    · exact id
    · intro overlooked
      simp only [List.nil_append, overlooksAt, overlooked, Bool.true_or]
  | cons step path =>
    obtain ⟨middle, first, rest⟩ := Option.bind_eq_some_iff.1 stands
    rcases inner step middle first with overlooked | ⟨here, found, admits⟩
    · right
      simp only [List.cons_append, overlooksAt, overlooked, Bool.true_or]
    · apply (admits path key ⟨part, rest, listed⟩).imp
      · intro defined
        rw [definesAt, at?, found, Option.bind_some]
        exact defined
      · intro overlooked
        simp only [List.cons_append, overlooksAt, found, Option.map_some, Option.getD_some,
          overlooked, Bool.or_true]

/-- A value that nothing stands in is admitted anywhere. -/
theorem admits_of_isFlat {value : Value} (flat : value.IsFlat) (schema : Schema) :
    schema.Admits value := by
  apply admits_of_inner
  · intro key listed
    rw [flat.keys] at listed
    contradiction
  · intro step part stands
    rw [flat.inner] at stands
    contradiction

/-- Strings have no keys. -/
theorem reads_string : plain.Reads Value.string? := fun _ _ read =>
  admits_of_isFlat (Value.isFlat_of_string? read) plain

/-- Truth values have no keys. -/
theorem reads_boolean : plain.Reads Value.boolean? := fun _ _ read =>
  admits_of_isFlat (Value.isFlat_of_boolean? read) plain

/-- Numbers have no keys. -/
theorem reads_number {f : Format} : plain.Reads (Value.number? (f := f)) := fun _ _ read =>
  admits_of_isFlat (Value.isFlat_of_number? read) plain

/-- What is made of the value that a reader gives does not matter. -/
theorem Reads.map {α β : Type} {schema : Schema} {decode : Value → Option α}
    (reads : schema.Reads decode) (change : α → β) :
    schema.Reads fun value => (decode value).map change := by
  intro value made read
  obtain ⟨found, decoded, -⟩ := Option.map_eq_some_iff.1 read
  exact reads value found decoded

/-- A reader that goes through at every element of a list does so at each. -/
theorem exists_of_mapM {α β : Type} {decode : α → Option β} {elements : List α} {found : List β}
    (read : elements.mapM decode = some found) {element : α} (listed : element ∈ elements) :
    ∃ value, decode element = some value := by
  induction elements generalizing found with
  | nil => contradiction
  | cons first rest ih =>
    rw [List.mapM_cons] at read
    obtain ⟨value, here, later⟩ := Option.bind_eq_some_iff.1 read
    obtain ⟨others, there, -⟩ := Option.bind_eq_some_iff.1 later
    rcases List.mem_cons.1 listed with rfl | behind
    · exact ⟨value, here⟩
    · exact ih there behind

/-- An array is admitted when what the format has for its elements admits them. -/
theorem admits_of_elements {schema : Schema} {value : Value} {elements : List Value}
    (written : value.elements? = some elements)
    (inner : ∀ index part, elements[index]? = some part →
      schema.overlooks (.element index) = true ∨
        ∃ here, schema.inner? (.element index) = some here ∧ here.Admits part) :
    schema.Admits value := by
  cases value with
  | array isOpen listed =>
    obtain rfl := Option.some.inj written
    apply admits_of_inner
    · intro key listed
      contradiction
    · intro step part stands
      cases step with
      | entry key => contradiction
      | element index => exact inner index part stands
  | _ => contradiction

/-- A list is read when each of its elements is. -/
theorem reads_list {α : Type} {schema : Schema} {decode : Value → Option α}
    (reads : schema.Reads decode) : (each schema).Reads (Value.list? decode) := by
  intro value found read
  obtain ⟨elements, written, decoded⟩ := Option.bind_eq_some_iff.1 read
  apply admits_of_elements written
  intro index part stands
  obtain ⟨made, here⟩ := exists_of_mapM decoded (List.mem_of_getElem? stands)
  exact .inr ⟨schema, rfl, reads part made here⟩

/-- Of a pair the first two elements of an array are read. -/
theorem reads_pair {α : Type} {schema : Schema} {decode : Value → Option α}
    (reads : schema.Reads decode) : (row [schema, schema]).Reads (Value.pair? decode) := by
  intro value found read
  unfold Value.pair? at read
  split at read
  · rename_i first second others written
    obtain ⟨one, here, later⟩ := Option.bind_eq_some_iff.1 read
    obtain ⟨other, there, -⟩ := Option.bind_eq_some_iff.1 later
    apply admits_of_elements written
    intro index part stands
    match index with
    | 0 => exact .inr ⟨schema, rfl, reads part one (Option.some.inj stands ▸ here)⟩
    | 1 => exact .inr ⟨schema, rfl, reads part other (Option.some.inj stands ▸ there)⟩
    | index + 2 => exact .inl (decide_eq_true (Nat.le_add_left 2 index))
  · contradiction

end Schema

/-! ## Records -/

namespace Record

/-- What a record has for a field is admitted there. -/
def Holds (record : Record) (name : String) (schema : Schema) : Prop :=
  ∀ value, record.entries.get? name = some value → schema.Admits value

variable {α : Type} {record : Record} {name : String} {schema : Schema} {decode : Value → Option α}
  (reads : schema.Reads decode)

include reads

/-- A field that may be left out is admitted when it is read. -/
theorem holds_of_get? {found : Option α} (read : record.get? name decode = some found) :
    record.Holds name schema := by
  intro value written
  unfold get? at read
  rw [written] at read
  obtain ⟨made, decoded, -⟩ := Option.map_eq_some_iff.1 read
  exact reads value made decoded

/-- A field that must be there is admitted when it is read. -/
theorem holds_of_required {found : α} (read : record.required name decode = some found) :
    record.Holds name schema := by
  obtain ⟨made, here, -⟩ := Option.bind_eq_some_iff.1 read
  exact holds_of_get? reads here

/-- A field that has a default is admitted when it is read. -/
theorem holds_of_withDefault {default found : α}
    (read : record.withDefault name default decode = some found) : record.Holds name schema := by
  obtain ⟨made, here, -⟩ := Option.map_eq_some_iff.1 read
  exact holds_of_get? reads here

/-- A field that only a table may leave out is admitted when it is read. -/
theorem holds_of_optional {found : Option α} (read : record.optional name decode = some found) :
    record.Holds name schema := by
  unfold optional at read
  split at read
  · exact holds_of_get? reads read
  · obtain ⟨made, here, -⟩ := Option.map_eq_some_iff.1 read
    exact holds_of_required reads here

end Record

/-- Of fields written in order, each has the value at its place. -/
theorem Entries.get?_zip {names : List String} (distinct : names.Nodup) {elements : List Value}
    {index : Nat} {name : String} {value : Value} (named : names[index]? = some name)
    (placed : elements[index]? = some value) :
    Entries.get? (names.zip elements) name = some value := by
  induction names generalizing index elements with
  | nil => contradiction
  | cons first rest ih =>
    cases elements with
    | nil => contradiction
    | cons element elements =>
      obtain ⟨absent, others⟩ := List.nodup_cons.1 distinct
      cases index with
      | zero =>
        obtain rfl := Option.some.inj named
        obtain rfl := Option.some.inj placed
        simp only [get?, List.zip_cons_cons, List.find?_cons, decide_true, Option.map_some]
      | succ index =>
        have later : name ∈ rest := List.mem_of_getElem? named
        have apart : first ≠ name := fun same => absent (same ▸ later)
        simp only [get?, List.zip_cons_cons, List.find?_cons, decide_eq_false apart]
        exact ih others named placed

/-- Only the entries of a table that are kept count for the keys that are kept. -/
theorem Entries.get?_filter (kept : String → Bool) (entries : Entries) {name : String}
    (keeps : kept name = true) :
    Entries.get? (entries.filter fun entry => kept entry.1) name = Entries.get? entries name := by
  unfold get?
  rw [List.find?_filter]
  refine congrArg (Option.map _) (congrArg (List.find? · entries) (funext fun entry => ?_))
  by_cases same : entry.1 = name
  · simp [same, keeps]
  · simp [same]

namespace Schema

variable {fields : List (String × Schema)}

/-- A record has what its table has for a field. -/
theorem inner?_entry (isOpen : Bool) {key : String} (listed : key ∈ fields.map (·.1)) :
    ∃ field ∈ fields, field.1 = key ∧
      (record isOpen fields).inner? (.entry key) = some field.2 := by
  obtain ⟨found, finds⟩ : ∃ found, fields.find? (·.1 = key) = some found := by
    apply Option.isSome_iff_exists.1
    rw [List.find?_isSome]
    obtain ⟨field, present, same⟩ := List.mem_map.1 listed
    exact ⟨field, present, decide_eq_true same⟩
  refine ⟨found, List.mem_of_find?_eq_some finds, ?_, ?_⟩
  · simpa using List.find?_some finds
  · rw [inner?, finds, Option.map_some]

/-- A table is admitted as a record when what it has for the fields is, unless a closed record gets
another key. -/
theorem admits_of_table {isOpen : Bool} {origin : Origin} {entries : Entries}
    (own : isOpen = true ∨ ∀ entry ∈ entries, entry.1 ∈ fields.map (·.1))
    (holds : ∀ field ∈ fields, Record.Holds ⟨entries, true⟩ field.1 field.2) :
    (record isOpen fields).Admits (.table origin entries) := by
  have defined {key : String} (listed : key ∈ fields.map (·.1)) :
      (record isOpen fields).defines key = true := by
    obtain ⟨field, present, same⟩ := List.mem_map.1 listed
    exact List.any_eq_true.2 ⟨field, present, decide_eq_true same⟩
  have passed {key : String} (other : key ∉ fields.map (·.1))
      (among : ∃ value, (key, value) ∈ entries) :
      (record isOpen fields).overlooks (.entry key) = true := by
    have opened : isOpen = true := by
      apply own.resolve_right
      obtain ⟨value, present⟩ := among
      exact fun closed => other (closed _ present)
    simp only [overlooks, opened, Bool.true_and, List.all_eq_true, decide_eq_true_eq]
    intro field present same
    exact other (List.mem_map.2 ⟨field, present, same⟩)
  apply admits_of_inner
  · intro key listed
    obtain ⟨entry, present, rfl⟩ := List.mem_map.1 listed
    by_cases own : entry.1 ∈ fields.map (·.1)
    · exact .inl (defined own)
    · exact .inr (passed own ⟨entry.2, present⟩)
  · intro step part stands
    cases step with
    | element index => contradiction
    | entry key =>
      by_cases own : key ∈ fields.map (·.1)
      · obtain ⟨field, present, rfl, found⟩ := inner?_entry isOpen own
        exact .inr ⟨field.2, found, holds field present part stands⟩
      · obtain ⟨entry, finds, -⟩ := Option.map_eq_some_iff.1 stands
        have here : entry.1 = key := by simpa using List.find?_some finds
        subst here
        exact .inl (passed own ⟨entry.2, List.mem_of_find?_eq_some finds⟩)

/-- A record is admitted in whatever way it is written, when what it has for its fields is. -/
theorem admits_of_record? {shape : Shape} {value : Value} {written : Record}
    (read : shape.record? value = some written) (named : fields.map (·.1) = shape.fields)
    (distinct : shape.fields.Nodup) (holds : ∀ field ∈ fields, written.Holds field.1 field.2) :
    (record (!shape.closed) fields).Admits value := by
  cases value with
  | table origin entries =>
    rw [Shape.record?] at read
    split at read
    · rename_i admitted
      obtain rfl := Option.some.inj read
      apply admits_of_table _ holds
      rw [named]
      simpa [Shape.admits] using admitted
    · contradiction
  | array isOpen elements =>
    obtain rfl := Option.some.inj read
    apply admits_of_elements rfl
    intro index part stands
    by_cases beyond : fields.length ≤ index
    · exact .inl (decide_eq_true beyond)
    · have field : fields[index]? = some fields[index] :=
        List.getElem?_eq_getElem (Nat.lt_of_not_le beyond)
      have name : shape.fields[index]? = some fields[index].1 := by
        rw [← named, List.getElem?_map, field, Option.map_some]
      have placed := Entries.get?_zip distinct name stands
      right
      refine ⟨fields[index].2, ?_, holds _ (List.getElem_mem _) part placed⟩
      rw [inner?, field, Option.map_some]
  | moment text => exact admits_of_isFlat ⟨rfl, fun _ => rfl⟩ _
  | _ => contradiction

end Schema

end ViewLayout.Toml
