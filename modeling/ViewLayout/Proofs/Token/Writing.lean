import ViewLayout.Proofs.Token.Places

/-!
# Writing tokens

Text that is put together from tokens and spaces is scanned into the same tokens, as long as each
token is the longest one that can start where it is written. Marks always are, a name is when what
follows it cannot go on with it, and a relation when a space follows it.
-/

namespace ViewLayout.Token

open ViewLayout.Text

/-- The characters of pieces written one after another. A piece is a token or, if it is none, a
space. -/
def written (pieces : List (Option Token)) : List Char :=
  pieces.flatMap fun piece => (piece.map (·.text.toList)).getD [' ']

/-- The tokens among pieces that are written from a byte offset on, with their places. -/
def placed (offset : Nat) : List (Option Token) → List (Spanned Token)
  | [] => []
  | none :: later => placed (offset + 1) later
  | some token :: later =>
    let next := offset + token.text.utf8ByteSize
    ⟨token, ⟨offset, next⟩⟩ :: placed next later

/-- Every token among pieces is the longest that can start where it is written. -/
def Apart : List (Option Token) → Prop
  | [] => True
  | none :: later => Apart later
  | some token :: later =>
    longest? (token.text.toList ++ written later) = some (token, token.text.toList) ∧ Apart later

/-- A text after which a name cannot go on, nor be read as a tag. -/
def EndsName (text : List Char) : Prop :=
  ∀ c ∈ text.head?, isIdentRest c = false ∧ c ≠ ':'

/-- A text after which a number cannot go on. -/
def EndsNumber (text : List Char) : Prop :=
  ∀ c ∈ text.head?, c.isDigit = false ∧ c ≠ '.'

/-- Pieces that are apart are divided as they were written. -/
theorem divided_of_apart {pieces : List (Option Token)} (apart : Apart pieces) (offset : Nat) :
    Divided offset (written pieces) (placed offset pieces) := by
  induction pieces generalizing offset with
  | nil => exact .done offset
  | cons piece later ih =>
    cases piece with
    | none => exact .space (ih apart (offset + 1))
    | some token => exact .token apart.1 (ih apart.2 _)

/-- A text that is written in pieces is scanned into their tokens. -/
theorem scan_of_apart {raw : String} {pieces : List (Option Token)}
    (spelled : raw.toList = written pieces) (apart : Apart pieces) :
    scan raw = .ok (placed 0 pieces) := by
  rw [scan, spelled]
  exact scanFrom_of_divided (divided_of_apart apart 0)

/-- Pieces are written one after another. -/
theorem written_append (first second : List (Option Token)) :
    written (first ++ second) = written first ++ written second :=
  List.flatMap_append

/-- The tokens among pieces that come after others are placed after theirs. -/
theorem exists_placed_append (offset : Nat) (first later : List (Option Token)) :
    ∃ next, placed offset (first ++ later) = placed offset first ++ placed next later := by
  induction first generalizing offset with
  | nil => exact ⟨offset, rfl⟩
  | cons piece rest ih =>
    cases piece with
    | none => exact ih (offset + 1)
    | some token =>
      obtain ⟨next, split⟩ := ih (offset + token.text.utf8ByteSize)
      exact ⟨next, congrArg (_ :: ·) split⟩

/-! ## Names -/

/-- Whether a text is an identifier. -/
def isIdent (name : String) : Bool :=
  match name.toList with
  | c :: rest => isIdentStart c && rest.all isIdentRest
  | [] => false

/-- An identifier is spelled as one. -/
theorem wellSpelled_of_isIdent {name : String} (ident : isIdent name = true) :
    WellSpelled (.ident name) := by
  unfold isIdent at ident
  split at ident
  · rename_i c rest spelled
    rw [Bool.and_eq_true, List.all_eq_true] at ident
    exact ⟨c, rest, spelled, ident⟩
  · contradiction

/-! ## What is apart -/

/-- A mark is the longest token in front of anything. -/
theorem longest?_mark (mark : Mark) (rest : List Char) :
    longest? (mark.text.toList ++ rest) = some (.mark mark, mark.text.toList) := by
  cases mark <;> rfl

/-- A name is the longest token in front of what ends it. -/
theorem longest?_ident {name : String} {rest : List Char} (spelled : WellSpelled (.ident name))
    (ends : EndsName rest) :
    longest? (name.toList ++ rest) = some (.ident name, name.toList) := by
  obtain ⟨c, more, characters, starts, continues⟩ := spelled
  have noTag : (more ++ rest).head? ≠ some ':' := by
    intro colon
    cases more with
    | nil => exact (ends ':' colon).2 rfl
    | cons second others =>
      obtain rfl := Option.some.inj colon
      have goesOn := continues ':' List.mem_cons_self
      contradiction
  have whole : (more ++ rest).takeWhile isIdentRest = more :=
    takeWhile_append_of_head? continues fun next found => (ends next found).1
  rw [characters, List.cons_append, longest?]
  · rw [if_pos starts, whole, ← characters]
    dsimp only
    rw [String.ofList_toList]
  · intro tag after _ tagged
    rw [tagged] at noTag
    exact noTag rfl

/-- The symbol of a relation is the longest token in front of a space. -/
theorem longest?_symbol (relation : Relation) (rest : List Char) :
    longest? (relation.symbol.toList ++ ' ' :: rest) =
      some (.relation relation.symbol, relation.symbol.toList) := by
  cases relation <;> rfl

/-- A number is taken as far as it is written, in front of what ends it. -/
theorem numberLexeme_append {literal : String} {rest : List Char}
    (spelled : WellSpelled (.number literal)) (ends : EndsNumber rest) :
    numberLexeme (literal.toList ++ rest) = literal.toList := by
  obtain ⟨whole, -, digits, characters⟩ := spelled
  have noDigit : ∀ c ∈ rest.head?, c.isDigit = false := fun c found => (ends c found).1
  rcases characters with characters | ⟨fraction, later, characters⟩
  · rw [characters, numberLexeme, takeWhile_append_of_head? digits noDigit, List.drop_left]
    split
    · exact absurd rfl (ends '.' rfl).2
    · rfl
  · have point : ∀ c ∈ ('.' :: (fraction ++ rest)).head?, c.isDigit = false := by
      intro c found
      obtain rfl := Option.some.inj found
      rfl
    rw [characters, List.append_assoc, List.cons_append, numberLexeme,
      takeWhile_append_of_head? digits point, List.drop_left]
    exact congrArg (whole ++ '.' :: ·) (takeWhile_append_of_head? later noDigit)

/-- A number is the longest token in front of what ends it. -/
theorem longest?_number {literal : String} {rest : List Char}
    (spelled : WellSpelled (.number literal)) (ends : EndsNumber rest) :
    longest? (literal.toList ++ rest) = some (.number literal, literal.toList) := by
  have taken := numberLexeme_append spelled ends
  obtain ⟨c, more, characters, digit⟩ := exists_toList_of_number spelled
  rw [characters, List.cons_append] at taken ⊢
  rw [longest?]
  · rw [if_neg (by simp [isIdentStart_eq_false_of_isDigit digit]), if_pos digit, taken,
      ← characters]
    dsimp only
    rw [String.ofList_toList]
  · intro tag after tagged _
    unfold Mark.tagOf? at tagged
    split at tagged <;> contradiction

/-- A punctuation mark ends a name. -/
theorem endsName_mark {mark : Mark} (c : Char) (single : Mark.ofChar? c = some mark)
    (later : List (Option Token)) : EndsName (written (some (.mark mark) :: later)) := by
  have first : (written (some (.mark mark) :: later)).head? = some c := by
    have spelled := toList_text_of_ofChar? single
    simp [written, Token.text, spelled]
  have breaks : isIdentRest c = false ∧ c ≠ ':' := by
    unfold Mark.ofChar? at single
    split at single <;> first | contradiction | decide
  intro other found
  rw [first] at found
  exact Option.some.inj found ▸ breaks

/-- A space ends a name. -/
theorem endsName_space (later : List (Option Token)) : EndsName (written (none :: later)) := by
  intro c found
  obtain rfl := Option.some.inj found
  decide

/-- A space ends a number. -/
theorem endsNumber_space (later : List (Option Token)) : EndsNumber (written (none :: later)) := by
  intro c found
  obtain rfl := Option.some.inj found
  decide

/-- The end of a text ends a number. -/
theorem endsNumber_nil : EndsNumber (written []) := by
  intro c found
  contradiction

/-- The end of a text ends a name. -/
theorem endsName_nil : EndsName (written []) := by
  intro c found
  contradiction

end ViewLayout.Token
