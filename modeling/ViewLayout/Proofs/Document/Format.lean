import ViewLayout.Document.Read
import ViewLayout.Proofs.Outcome
import ViewLayout.Proofs.Toml.Schema

/-!
# Which keys a layout document may have

`Document.format` writes down what the format of layout documents has at every place, from the top
down to the batches of a sequence. A document that is read has no other key, with one exception: the
options of a layout, margins, and constraint texts with a priority are open records, and what they
have beside their fields is passed over without a word (`read_defines_keys`). So a misspelled field
of these three stands for its default, and anywhere else it makes the document malformed.
-/

namespace ViewLayout

open ViewLayout.Number ViewLayout.Toml

/-- An axis is its word, or the one key of a table. -/
def Axis.format : Schema := .record false [("horizontal", .plain), ("vertical", .plain)]

/-- The options of a layout let other keys pass. -/
def Configuration.format : Schema :=
  .record true [("parent_view_key", .plain), ("default_view_key", .plain),
    ("sibling_spacing", .plain), ("superview_spacing", .plain)]

/-- A guide is a closed record. -/
def GuideDeclaration.format : Schema :=
  .record false [("key", .plain), ("x", .plain), ("y", .plain), ("width", .plain),
    ("height", .plain)]

/-- Priorities for the two axes are a closed record. -/
def ViewDeclaration.prioritiesFormat : Schema :=
  .record false [("horizontal", .plain), ("vertical", .plain)]

/-- A view is a closed record. -/
def ViewDeclaration.format : Schema :=
  .record false [("key", .plain), ("size", .row [.plain, .plain]), ("parent", .plain),
    ("hugging", prioritiesFormat), ("resistance", prioritiesFormat)]

/-- A constraint text with its priority lets other keys pass. -/
def WeightedText.format : Schema := .record true [("format", .plain), ("priority", .plain)]

/-- Margins let other keys pass. -/
def Margins.format : Schema :=
  .record true [("ends", .plain), ("sides", .plain), ("between", .plain)]

/-- A batch is a closed record. -/
def Batch.format : Schema := .record false [("views", .each .plain), ("centered", .plain)]

/-- A sequence is a closed record. -/
def SequenceDeclaration.format : Schema :=
  .record false [("axis", Axis.format), ("margins", Margins.format),
    ("batches", .each Batch.format), ("close", .plain)]

namespace Document

/-- A container is a closed record. -/
def containerFormat : Schema := .record false [("width", .plain), ("height", .plain)]

/-- A document is a closed record. -/
def format : Schema :=
  .record false [("layout", Configuration.format), ("container", containerFormat),
    ("metrics", .free), ("guides", .each GuideDeclaration.format),
    ("views", .each ViewDeclaration.format), ("constraints", .each WeightedText.format),
    ("linear", SequenceDeclaration.format)]

end Document

/-! ## The readers and their formats -/

open Schema Record

/-- Reading an axis accepts only what its format admits. -/
theorem Axis.reads : format.Reads ofToml? := by
  intro value axis read
  have word {origin : Origin} {text : String} {empty : Value} (flat : empty.IsFlat)
      (found : ofWord? text = some axis) : format.Admits (.table origin [(text, empty)]) := by
    apply admits_of_table
    · right
      intro entry listed
      obtain rfl := List.mem_singleton.1 listed
      have same : axis.word = text := by simpa using List.find?_some found
      have named : axis.word ∈ ["horizontal", "vertical"] := by cases axis <;> decide
      rw [same] at named
      exact named
    · intro field _ part stands
      obtain ⟨entry, finds, rfl⟩ := Option.map_eq_some_iff.1 stands
      obtain rfl := List.mem_singleton.1 (List.mem_of_find?_eq_some finds)
      exact admits_of_isFlat flat _
  unfold ofToml? at read
  split at read
  · exact admits_of_isFlat ⟨rfl, fun _ => rfl⟩ _
  · exact word ⟨rfl, fun step => by cases step <;> rfl⟩ read
  · exact word ⟨rfl, fun step => by cases step <;> rfl⟩ read
  · contradiction

/-- Reading metrics accepts any keys. -/
theorem Metrics.reads : free.Reads ofToml? := by
  intro value metrics read
  obtain ⟨entries, written, rest⟩ := Option.bind_eq_some_iff.1 read
  obtain ⟨bindings, decoded, -⟩ := Option.bind_eq_some_iff.1 rest
  cases value with
  | table origin listed =>
    obtain rfl := Option.some.inj written
    apply admits_of_inner
    · intro key _
      exact .inl rfl
    · intro step part stands
      cases step with
      | element index => contradiction
      | entry key =>
        obtain ⟨entry, finds, rfl⟩ := Option.map_eq_some_iff.1 stands
        obtain ⟨binding, here⟩ := exists_of_mapM decoded (List.mem_of_find?_eq_some finds)
        obtain ⟨number, numbered, -⟩ := Option.map_eq_some_iff.1 here
        exact .inr ⟨plain, rfl, reads_number _ number numbered⟩
  | _ => contradiction

/-- Reading a priority accepts a number. -/
theorem Priority.reads : plain.Reads ofToml? := reads_number.map _

/-- Reading the options of a layout accepts only what their format admits. -/
theorem Configuration.reads : format.Reads ofToml? := by
  intro value configuration read
  simp only [ofToml?, Option.bind_eq_bind, Option.bind_eq_some_iff] at read
  obtain ⟨record, written, parentKey, one, defaultKey, two, sibling, three, superview, four, -⟩ :=
    read
  apply admits_of_record? written rfl (by decide)
  simp only [List.forall_mem_cons, List.not_mem_nil, false_implies, implies_true, and_true]
  exact ⟨holds_of_withDefault reads_string one, holds_of_withDefault reads_string two,
    holds_of_withDefault reads_number three, holds_of_withDefault reads_number four⟩

/-- Reading a guide accepts only what its format admits. -/
theorem GuideDeclaration.reads : format.Reads ofToml? := by
  intro value guide read
  simp only [ofToml?, Option.bind_eq_bind, Option.bind_eq_some_iff] at read
  obtain ⟨record, written, key, one, x, two, y, three, width, four, height, five, -⟩ := read
  apply admits_of_record? written rfl (by decide)
  simp only [List.forall_mem_cons, List.not_mem_nil, false_implies, implies_true, and_true]
  exact ⟨holds_of_required reads_string one, holds_of_withDefault reads_number two,
    holds_of_withDefault reads_number three, holds_of_withDefault reads_number four,
    holds_of_withDefault reads_number five⟩

/-- Reading priorities for the two axes accepts only what their format admits. -/
theorem ViewDeclaration.reads_priorities : prioritiesFormat.Reads prioritiesOfToml? := by
  intro value priorities read
  simp only [prioritiesOfToml?, Option.bind_eq_bind, Option.bind_eq_some_iff] at read
  obtain ⟨record, written, horizontal, one, vertical, two, -⟩ := read
  apply admits_of_record? written rfl (by decide)
  simp only [List.forall_mem_cons, List.not_mem_nil, false_implies, implies_true, and_true]
  exact ⟨holds_of_optional Priority.reads one, holds_of_optional Priority.reads two⟩

/-- Reading a view accepts only what its format admits. -/
theorem ViewDeclaration.reads : format.Reads ofToml? := by
  intro value view read
  simp only [ofToml?, Option.bind_eq_bind, Option.bind_eq_some_iff] at read
  obtain
    ⟨record, written, key, one, size, two, parent, three, hugging, four, resistance, five, -⟩ :=
    read
  have sizes : (row [plain, plain]).Reads sizeOfToml? := (reads_pair reads_number).map _
  apply admits_of_record? written rfl (by decide)
  simp only [List.forall_mem_cons, List.not_mem_nil, false_implies, implies_true, and_true]
  exact ⟨holds_of_required reads_string one, holds_of_optional sizes two,
    holds_of_optional reads_string three, holds_of_withDefault reads_priorities four,
    holds_of_withDefault reads_priorities five⟩

/-- Reading a constraint text accepts only what its format admits. -/
theorem WeightedText.reads : format.Reads ofToml? := by
  intro value text read
  unfold ofToml? at read
  split at read
  · exact admits_of_isFlat ⟨rfl, fun _ => rfl⟩ _
  · simp only [Option.bind_eq_bind, Option.bind_eq_some_iff] at read
    obtain ⟨raw, one, priority, two, -⟩ := read
    apply admits_of_table (.inl rfl)
    simp only [List.forall_mem_cons, List.not_mem_nil, false_implies, implies_true, and_true]
    exact ⟨holds_of_required reads_string one, holds_of_optional Priority.reads two⟩
  · contradiction

/-- Reading margins accepts only what their format admits. -/
theorem Margins.reads : format.Reads ofToml? := by
  intro value margins read
  simp only [ofToml?, Option.bind_eq_bind, Option.bind_eq_some_iff] at read
  obtain ⟨record, written, ends, one, sides, two, between, three, -⟩ := read
  apply admits_of_record? written rfl (by decide)
  simp only [List.forall_mem_cons, List.not_mem_nil, false_implies, implies_true, and_true]
  exact ⟨holds_of_withDefault reads_number one, holds_of_withDefault reads_number two,
    holds_of_withDefault reads_number three⟩

/-- Reading a batch accepts only what its format admits. -/
theorem Batch.reads : format.Reads ofToml? := by
  intro value batch read
  simp only [ofToml?, Option.bind_eq_bind, Option.bind_eq_some_iff] at read
  obtain ⟨record, written, keys, one, centered, two, -⟩ := read
  apply admits_of_record? written rfl (by decide)
  simp only [List.forall_mem_cons, List.not_mem_nil, false_implies, implies_true, and_true]
  exact ⟨holds_of_required (reads_list reads_string) one, holds_of_withDefault reads_boolean two⟩

/-- Reading a sequence accepts only what its format admits. -/
theorem SequenceDeclaration.reads : format.Reads ofToml? := by
  intro value sequence read
  simp only [ofToml?, Option.bind_eq_bind, Option.bind_eq_some_iff] at read
  obtain ⟨record, written, axis, one, margins, two, batches, three, close, four, -⟩ := read
  apply admits_of_record? written rfl (by decide)
  simp only [List.forall_mem_cons, List.not_mem_nil, false_implies, implies_true, and_true]
  exact ⟨holds_of_required Axis.reads one, holds_of_withDefault Margins.reads two,
    holds_of_withDefault (reads_list Batch.reads) three, holds_of_withDefault reads_boolean four⟩

namespace Document

/-- Reading the size of a container accepts only what its format admits. -/
theorem reads_container : containerFormat.Reads containerOfToml? := by
  intro value size read
  simp only [containerOfToml?, Option.bind_eq_bind, Option.bind_eq_some_iff] at read
  obtain ⟨record, written, width, one, height, two, -⟩ := read
  apply admits_of_record? written rfl (by decide)
  simp only [List.forall_mem_cons, List.not_mem_nil, false_implies, implies_true, and_true]
  exact ⟨holds_of_required reads_number one, holds_of_required reads_number two⟩

/-- Reading a document accepts only what its format admits. -/
theorem reads : format.Reads ofToml? := by
  intro value document read
  simp only [ofToml?, Option.bind_eq_bind, Option.bind_eq_some_iff] at read
  obtain ⟨record, written, size, one, configuration, two, metrics, three, guides, four, views, five,
    constraints, six, sequence, seven, -⟩ := read
  apply admits_of_record? written rfl (by decide)
  simp only [List.forall_mem_cons, List.not_mem_nil, false_implies, implies_true, and_true]
  exact ⟨holds_of_withDefault Configuration.reads two, holds_of_required reads_container one,
    holds_of_withDefault Metrics.reads three,
    holds_of_withDefault (reads_list GuideDeclaration.reads) four,
    holds_of_withDefault (reads_list ViewDeclaration.reads) five,
    holds_of_withDefault (reads_list WeightedText.reads) six,
    holds_of_optional SequenceDeclaration.reads seven⟩

variable {reader : String → Option Entries}

/-- A text is read when its table is. -/
theorem readBy_eq_ok_iff {text : String} {document : Document} :
    readBy reader text = .ok document ↔
      ∃ entries, reader text = some entries ∧
        ofToml? (.table .header entries) = some document := by
  rw [← Option.bind_eq_some_iff, readBy]
  split
  · rename_i found decoded
    rw [decoded, Except.ok.injEq, Option.some.injEq]
  · rename_i failed
    rw [failed]
    exact ⟨nofun, nofun⟩

/-- A text that is not read is malformed. -/
theorem readBy_cases (text : String) :
    (∃ document, readBy reader text = .ok document) ∨
      readBy reader text = .error .malformed := by
  unfold readBy
  split
  · exact .inl ⟨_, rfl⟩
  · exact .inr rfl

end Document

/-! ## Open records -/

section Open

variable {α : Type} (schema : Schema) (name : String) (decode : Value → Option α)
  (defined : schema.defines name = true) (entries : Entries)

include defined

/-- A field that may be left out is read off the entries that the format has. -/
theorem get?_ownEntries :
    get? ⟨schema.ownEntries entries, true⟩ name decode = get? ⟨entries, true⟩ name decode := by
  have same := Entries.get?_filter schema.defines entries defined
  simp only [get?, ownEntries, same]

end Open

/-- The options of a layout are read off their own entries. -/
theorem Configuration.ofToml?_ownEntries (origin : Origin) (entries : Entries) :
    ofToml? (.table origin (format.ownEntries entries)) = ofToml? (.table origin entries) := by
  simp (disch := decide) only [ofToml?, Shape.record?, Shape.admits, shape, Bool.not_false,
    Bool.true_or, if_true, Option.bind_eq_bind, Option.bind_some, withDefault,
    get?_ownEntries format]

/-- Margins are read off their own entries. -/
theorem Margins.ofToml?_ownEntries (origin : Origin) (entries : Entries) :
    ofToml? (.table origin (format.ownEntries entries)) = ofToml? (.table origin entries) := by
  simp (disch := decide) only [ofToml?, Shape.record?, Shape.admits, shape, Bool.not_false,
    Bool.true_or, if_true, Option.bind_eq_bind, Option.bind_some, withDefault,
    get?_ownEntries format]

/-- A constraint text with its priority is read off its own entries. -/
theorem WeightedText.ofToml?_ownEntries (origin : Origin) (entries : Entries) :
    ofToml? (.table origin (format.ownEntries entries)) = ofToml? (.table origin entries) := by
  simp (disch := decide) only [ofToml?, required, Record.optional, if_true,
    get?_ownEntries format]

namespace Document

/-! ## What is read -/

/-- Every key of a document that is read, at every level, is one that the format has there, unless
it stands in or below an open record, or beyond what is read off an array. Any other key makes the
document malformed. Open records are read as if only their own fields were written. All this holds
whatever finds the table of the text. -/
theorem read_defines_keys (reader : String → Option Entries) (text : String) :
    (∀ document, readBy reader text = .ok document →
      ∃ entries, reader text = some entries ∧
        ∀ path key, (Value.table .header entries).HasKey path key →
          format.definesAt path key = true ∨ format.overlooksAt (path ++ [.entry key]) = true) ∧
    (∀ entries path key, reader text = some entries →
      (Value.table .header entries).HasKey path key → format.definesAt path key = false →
      format.overlooksAt (path ++ [.entry key]) = false →
      readBy reader text = .error .malformed) ∧
    ∀ origin entries,
      Configuration.ofToml? (.table origin (Configuration.format.ownEntries entries)) =
        Configuration.ofToml? (.table origin entries) ∧
      Margins.ofToml? (.table origin (Margins.format.ownEntries entries)) =
        Margins.ofToml? (.table origin entries) ∧
      WeightedText.ofToml? (.table origin (WeightedText.format.ownEntries entries)) =
        WeightedText.ofToml? (.table origin entries) := by
  have admitted (document : Document) (accepted : readBy reader text = .ok document) :
      ∃ entries, reader text = some entries ∧ format.Admits (.table .header entries) := by
    obtain ⟨entries, written, decoded⟩ := readBy_eq_ok_iff.1 accepted
    exact ⟨entries, written, reads _ document decoded⟩
  refine ⟨admitted, ?_, fun origin entries => ⟨?_, ?_, ?_⟩⟩
  · intro entries path key written listed undefined seen
    apply (readBy_cases text).resolve_left
    rintro ⟨document, accepted⟩
    obtain ⟨found, same, admits⟩ := admitted document accepted
    obtain rfl := Option.some.inj (same.symm.trans written)
    rcases admits path key listed with defined | overlooked
    · exact absurd (defined.symm.trans undefined) nofun
    · exact absurd (overlooked.symm.trans seen) nofun
  · exact Configuration.ofToml?_ownEntries origin entries
  · exact Margins.ofToml?_ownEntries origin entries
  · exact WeightedText.ofToml?_ownEntries origin entries

/-- A misspelled margin is passed over, and a misspelled field of a sequence is not. -/
theorem read_defines_keys_of_misspelled :
    let passed := "container = [1, 2]\nlinear = \x7b axis = 'vertical', margins.end = 5 \x7d"
    let refused := "container = [1, 2]\nlinear = \x7b axis = 'vertical', margin.ends = 5 \x7d"
    (∃ document entries, read passed = .ok document ∧ Toml.read? passed = some entries ∧
      ∀ path key, (Value.table .header entries).HasKey path key →
        format.definesAt path key = true ∨ format.overlooksAt (path ++ [.entry key]) = true) ∧
      read refused = .error .malformed := by
  intro passed refused
  have accepts : ∃ document ∈ (read passed).toOption, document.width = 1 := by decide +kernel
  have undefined : ∃ entries ∈ Toml.read? refused,
      (Value.table .header entries).HasKey [.entry "linear"] "margin" ∧
        format.definesAt [.entry "linear"] "margin" = false ∧
        format.overlooksAt [.entry "linear", .entry "margin"] = false := by
    decide +kernel
  obtain ⟨document, found, -⟩ := accepts
  have accepted : read passed = .ok document := Outcome.eq_ok_of_toOption found
  obtain ⟨entries, written, admits⟩ := (read_defines_keys Toml.read? passed).1 document accepted
  obtain ⟨other, read, listed, unknown, seen⟩ := undefined
  exact ⟨⟨document, entries, accepted, written, admits⟩,
    (read_defines_keys Toml.read? refused).2.1 other _ _ read listed unknown seen⟩

/-- A document is read although it misspells an option of the layout, the priority of a constraint
text and a margin, and each of them gets its default. -/
theorem exists_undefined_key_read :
    let text := "layout = \x7b sibling_spacng = 4 \x7d\n" ++
      "constraints = [\x7b format = 'H:|[a]', prioritty = 250 \x7d]\n" ++
      "container = [1, 2]\n" ++
      "linear = \x7b axis = 'vertical', margins = \x7b end = 5 \x7d \x7d"
    let misspelled := [([.entry "layout"], "sibling_spacng"),
      ([.entry "constraints", .element 0], "prioritty"),
      ([.entry "linear", .entry "margins"], "end")]
    (∃ entries ∈ Toml.read? text, ∀ place ∈ misspelled,
        (Value.table .header entries).HasKey place.1 place.2 ∧
          format.definesAt place.1 place.2 = false) ∧
      ∃ document ∈ (read text).toOption, document.configuration = {} ∧
        document.constraints = [⟨"H:|[a]", none⟩] ∧
        document.sequence.map SequenceDeclaration.margins = some {} := by
  decide +kernel

end Document

end ViewLayout
