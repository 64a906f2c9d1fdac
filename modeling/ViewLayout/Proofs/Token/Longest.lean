import ViewLayout.Proofs.Token.Writing

/-!
# The longest token

The scanner takes one token at a place and never compares it with another. Here the choice is said
without the scanner: a token can start at the front of a text when its spelling stands there, and
the longest of these is the token that is taken. It is the only one of its length, since a text
spells at most one token.

Where nothing is taken no token can start, and the first character alone decides that.
-/

namespace ViewLayout.Token

open ViewLayout.Text

/-- A token that can be written stands at the front of a text. -/
def Starts (text : List Char) (token : Token) : Prop :=
  token.WellSpelled ∧ token.text.toList <+: text

/-- A token stands at the front of a text, and any other token that does is shorter. -/
def LongestAt (text : List Char) (token : Token) : Prop :=
  token.Starts text ∧ ∀ other : Token, other.Starts text →
    other = token ∨ other.text.length < token.text.length

/-- A character is the first of some token. -/
def CanStart (c : Char) : Prop :=
  ∃ token : Token, token.WellSpelled ∧ token.text.toList.head? = some c

/-! ## What is taken at a first character -/

/-- A tag is taken where its letter and a colon stand. -/
theorem longest?_tag {c : Char} {tag : Mark} (tagged : Mark.tagOf? c = some tag)
    (rest : List Char) : longest? (c :: ':' :: rest) = some (.mark tag, [c, ':']) := by
  simp only [longest?, tagged]

/-- At a letter that begins no tag there the whole name is taken. -/
theorem longest?_name {c : Char} {rest : List Char} (letter : isIdentStart c)
    (noTag : ∀ tag after, Mark.tagOf? c = some tag → rest ≠ ':' :: after) :
    longest? (c :: rest) = some (.ident (String.ofList (c :: rest.takeWhile isIdentRest)),
      c :: rest.takeWhile isIdentRest) := by
  rw [longest?]
  · rw [if_pos letter]
  · exact noTag

/-- No tag begins with a digit or a character of relations. -/
theorem tagOf?_eq_none {c : Char} (other : isIdentStart c = false) : Mark.tagOf? c = none := by
  unfold Mark.tagOf?
  split <;> first | contradiction | rfl

/-- At a digit the whole number is taken. -/
theorem longest?_digits {c : Char} (digit : c.isDigit) (rest : List Char) :
    longest? (c :: rest) = some (.number (String.ofList (numberLexeme (c :: rest))),
      numberLexeme (c :: rest)) := by
  have noName := isIdentStart_eq_false_of_isDigit digit
  rw [longest?]
  · rw [if_neg (by simp [noName]), if_pos digit]
  · intro tag after tagged _
    rw [tagOf?_eq_none noName] at tagged
    contradiction

/-- A character of relations is neither a letter nor a digit. -/
theorem isRelationChar_other {c : Char} (compares : isRelationChar c) :
    isIdentStart c = false ∧ c.isDigit = false := by
  have among : (c = '=' ∨ c = '<') ∨ c = '>' := by
    simpa only [isRelationChar, Bool.or_eq_true, decide_eq_true_eq] using compares
  rcases among with (rfl | rfl) | rfl <;> decide

/-- At a character of relations the whole run of them is taken. -/
theorem longest?_run {c : Char} (compares : isRelationChar c) (rest : List Char) :
    longest? (c :: rest) = some (.relation (String.ofList (c :: rest.takeWhile isRelationChar)),
      c :: rest.takeWhile isRelationChar) := by
  obtain ⟨noName, noDigit⟩ := isRelationChar_other compares
  rw [longest?]
  · rw [if_neg (by simp [noName]), if_neg (by simp [noDigit]), if_pos compares]
  · intro tag after tagged _
    rw [tagOf?_eq_none noName] at tagged
    contradiction

/-! ## A text spells one token -/

/-- A token is the longest in its own text. -/
theorem longest?_text {token : Token} (spelled : token.WellSpelled) :
    longest? token.text.toList = some (token, token.text.toList) := by
  cases token with
  | mark mark =>
    have longest := longest?_mark mark []
    rw [List.append_nil] at longest
    exact longest
  | relation symbol =>
    obtain ⟨c, more, characters, compares, continues⟩ := spelled
    have whole : more.takeWhile isRelationChar = more := List.takeWhile_eq_self_iff.2 continues
    rw [text, characters, longest?_run compares, whole, ← characters, String.ofList_toList]
  | ident name =>
    have longest := longest?_ident spelled endsName_nil
    rwa [written, List.flatMap_nil, List.append_nil] at longest
  | number literal =>
    have longest := longest?_number spelled endsNumber_nil
    rwa [written, List.flatMap_nil, List.append_nil] at longest

/-- A text spells at most one token. -/
theorem eq_of_text_eq {first second : Token} (one : first.WellSpelled) (other : second.WellSpelled)
    (same : first.text = second.text) : first = second := by
  have taken := longest?_text one
  rw [same, longest?_text other] at taken
  exact (Prod.mk.inj (Option.some.inj taken)).1.symm

/-! ## What is taken is the longest -/

/-- Characters of a kind at the front of a text are among those that are taken. -/
theorem length_le_takeWhile {kind : Char → Bool} {front text : List Char}
    (all : ∀ c ∈ front, kind c) (begins : front <+: text) :
    front.length ≤ (text.takeWhile kind).length := by
  obtain ⟨after, rfl⟩ := begins
  rw [List.takeWhile_append_of_pos all, List.length_append]
  exact Nat.le_add_right _ _

/-- A number at the front of a text is no longer than the one that is taken. -/
theorem length_le_numberLexeme {literal : String} {text : List Char}
    (spelled : WellSpelled (.number literal)) (begins : literal.toList <+: text) :
    literal.toList.length ≤ (numberLexeme text).length := by
  obtain ⟨whole, -, digits, characters⟩ := spelled
  obtain ⟨after, rfl⟩ := begins
  rcases characters with characters | ⟨fraction, later, characters⟩
  · have enough := length_le_takeWhile digits (List.prefix_append whole after)
    rw [characters, numberLexeme]
    split
    · rw [List.length_append]
      exact Nat.le_add_right_of_le enough
    · exact enough
  · -- The digits end at the point, so the digits after it are the fraction that is taken.
    have point : ∀ c ∈ ('.' :: (fraction ++ after)).head?, c.isDigit = false := by
      intro c found
      obtain rfl := Option.some.inj found
      rfl
    have enough := length_le_takeWhile later (List.prefix_append fraction after)
    rw [characters, List.append_assoc, List.cons_append, numberLexeme,
      takeWhile_append_of_head? digits point, List.drop_left]
    simpa only [List.length_append, List.length_cons, Nat.add_le_add_iff_left,
      Nat.add_le_add_iff_right] using enough

/-- Where a token can start, characters are taken, and no fewer than the token has. -/
theorem exists_longest?_of_starts {text : List Char} {other : Token} (starts : other.Starts text) :
    ∃ token lexeme, longest? text = some (token, lexeme) ∧
      other.text.toList.length ≤ lexeme.length := by
  obtain ⟨spelled, after, rfl⟩ := starts
  cases other with
  | mark mark => exact ⟨_, _, longest?_mark mark after, Nat.le_refl _⟩
  | relation symbol =>
    obtain ⟨c, more, characters, compares, continues⟩ := spelled
    have enough := length_le_takeWhile continues (List.prefix_append more after)
    rw [text, characters]
    exact ⟨_, _, longest?_run compares (more ++ after), Nat.succ_le_succ enough⟩
  | ident name =>
    obtain ⟨c, more, characters, letter, continues⟩ := spelled
    have enough := length_le_takeWhile continues (List.prefix_append more after)
    rw [text, characters]
    by_cases colon : ∃ tag later, Mark.tagOf? c = some tag ∧ more ++ after = ':' :: later
    · obtain ⟨tag, later, tagged, split⟩ := colon
      -- A name has no colon, so this one is the letter of the tag alone.
      have single : more = [] := by
        cases more with
        | nil => rfl
        | cons second others =>
          obtain ⟨rfl, -⟩ := List.cons.inj split
          exact absurd (continues ':' List.mem_cons_self) (by decide)
      rw [List.cons_append, split, single]
      exact ⟨_, _, longest?_tag tagged later, Nat.succ_le_succ (Nat.zero_le _)⟩
    · have noTag : ∀ tag later, Mark.tagOf? c = some tag → more ++ after ≠ ':' :: later :=
        fun tag later tagged split => colon ⟨tag, later, tagged, split⟩
      exact ⟨_, _, longest?_name letter noTag, Nat.succ_le_succ enough⟩
  | number literal =>
    obtain ⟨c, more, characters, digit⟩ := exists_toList_of_number spelled
    have enough := length_le_numberLexeme spelled (List.prefix_append literal.toList after)
    rw [text]
    rw [characters] at enough ⊢
    exact ⟨_, _, longest?_digits digit (more ++ after), enough⟩

/-- The token that is taken is the longest that can start there, and the only one so long. -/
theorem longest?_eq_some_iff {text : List Char} {token : Token} :
    longest? text = some (token, token.text.toList) ↔ token.LongestAt text := by
  constructor
  · intro taken
    obtain ⟨-, begins, spelled⟩ := spelled_of_longest? taken
    refine ⟨⟨spelled, begins⟩, fun other starts => ?_⟩
    obtain ⟨_, lexeme, again, atMost⟩ := exists_longest?_of_starts starts
    obtain ⟨rfl, rfl⟩ := Prod.mk.inj (Option.some.inj (again.symm.trans taken))
    rcases Nat.lt_or_eq_of_le atMost with shorter | asLong
    · exact .inr shorter
    · have same := List.prefix_of_prefix_length_le starts.2 begins atMost
      have text := String.toList_inj.1 (same.eq_of_length asLong)
      exact .inl (eq_of_text_eq starts.1 spelled text)
  · rintro ⟨starts, atMost⟩
    obtain ⟨other, lexeme, taken, enough⟩ := exists_longest?_of_starts starts
    obtain ⟨rfl, begins, spelled⟩ := spelled_of_longest? taken
    rcases atMost other ⟨spelled, begins⟩ with rfl | shorter
    · exact taken
    · rw [← String.length_toList, ← String.length_toList] at shorter
      omega

/-- Nothing is taken where no token can start. -/
theorem longest?_eq_none_iff {text : List Char} :
    longest? text = none ↔ ∀ token : Token, ¬token.Starts text := by
  constructor
  · intro none token starts
    obtain ⟨_, _, taken, -⟩ := exists_longest?_of_starts starts
    rw [none] at taken
    contradiction
  · intro nothing
    cases taken : longest? text with
    | none => rfl
    | some found =>
      obtain ⟨token, lexeme⟩ := found
      obtain ⟨rfl, begins, spelled⟩ := spelled_of_longest? taken
      exact absurd ⟨spelled, begins⟩ (nothing token)

/-! ## First characters -/

/-- Nothing is taken at a character that is no letter, digit or mark. -/
theorem longest?_cons_eq_none_iff {c : Char} {rest : List Char} :
    longest? (c :: rest) = none ↔ isIdentStart c = false ∧ c.isDigit = false ∧
      isRelationChar c = false ∧ Mark.ofChar? c = none := by
  unfold longest?
  dsimp only
  split
  · rename_i tag after tagged
    have letter : isIdentStart c = true := by
      by_contra other
      rw [tagOf?_eq_none (by simpa using other)] at tagged
      contradiction
    simp [letter]
  · split_ifs with letter digit compares
    · simp [letter]
    · simp [digit]
    · simp [compares]
    · simp [letter, digit, compares]

/-- Nothing is taken at a character exactly when it is the first of no token. -/
theorem not_canStart_iff {c : Char} {rest : List Char} :
    ¬CanStart c ↔ longest? (c :: rest) = none := by
  constructor
  · intro cannot
    refine longest?_eq_none_iff.2 fun token starts => cannot ⟨token, starts.1, ?_⟩
    obtain ⟨first, more, characters⟩ := List.exists_cons_of_ne_nil
      (ne_nil_of_longest? (longest?_text starts.1))
    have begins := starts.2
    rw [characters] at begins ⊢
    exact congrArg some (List.cons_prefix_cons.1 begins).1
  · rintro none ⟨token, spelled, first⟩
    -- The spelling of the token begins as the text does, and something is taken there.
    obtain ⟨more, characters⟩ := List.head?_eq_some_iff.1 first
    have taken := longest?_text spelled
    rw [characters, longest?_cons_eq_none_iff.2 (longest?_cons_eq_none_iff.1 none)] at taken
    contradiction

/-- The characters a token can start with are letters, underscores, digits and marks. -/
theorem canStart_iff {c : Char} :
    CanStart c ↔ isIdentStart c ∨ c.isDigit ∨ isRelationChar c ∨ (Mark.ofChar? c).isSome := by
  have nothing : ¬CanStart c ↔ longest? [c] = none := not_canStart_iff
  rw [← not_iff_not, nothing, longest?_cons_eq_none_iff]
  simp

/-! ## Tags and numbers -/

/-- Where the letter of a tag and a colon stand, the tag is the longest token. -/
theorem LongestAt.eq_tag {c : Char} {rest : List Char} {tag : Mark} {token : Token}
    (longest : token.LongestAt (c :: ':' :: rest)) (tagged : Mark.tagOf? c = some tag) :
    token = .mark tag := by
  have taken := longest?_eq_some_iff.2 longest
  rw [longest?_tag tagged] at taken
  exact (Prod.mk.inj (Option.some.inj taken)).1.symm

/-- The longest number is followed by no digit, and by no point unless it has one. -/
theorem LongestAt.ends_number {literal : String} {after : List Char}
    (longest : (number literal).LongestAt (literal.toList ++ after)) :
    (∀ c ∈ after.head?, c.isDigit = false) ∧
      ('.' ∉ literal.toList → after.head? ≠ some '.') := by
  obtain ⟨⟨⟨whole, written, digits, characters⟩, -⟩, atMost⟩ := longest
  -- One more character would make a longer number.
  have no_more (c : Char) (begins : after.head? = some c)
      (spelled : WellSpelled (.number (String.ofList (literal.toList ++ [c])))) : False := by
    obtain ⟨later, rfl⟩ := List.head?_eq_some_iff.1 begins
    have starts : (number (String.ofList (literal.toList ++ [c]))).Starts
        (literal.toList ++ c :: later) := by
      refine ⟨spelled, later, ?_⟩
      rw [text, String.toList_ofList, List.append_assoc, List.singleton_append]
    rcases atMost _ starts with same | shorter
    · have longer := congrArg String.length (number.inj same)
      simp at longer
    · simp only [text, String.length_ofList, List.length_append, List.length_singleton,
        String.length_toList] at shorter
      omega
  refine ⟨fun c begins => ?_, fun noPoint point => ?_⟩
  · by_contra digit
    have digit : c.isDigit = true := by simpa using digit
    refine no_more c begins ?_
    have single : ∀ d ∈ [c], d.isDigit := List.forall_mem_singleton.2 digit
    rcases characters with characters | ⟨fraction, later, characters⟩
    · refine ⟨whole ++ [c], by simp, List.forall_mem_append.2 ⟨digits, single⟩, .inl ?_⟩
      rw [String.toList_ofList, characters]
    · refine ⟨whole, written, digits, .inr ⟨fraction ++ [c],
        List.forall_mem_append.2 ⟨later, single⟩, ?_⟩⟩
      rw [String.toList_ofList, characters, List.append_assoc, List.cons_append]
  · refine no_more '.' point ⟨whole, written, digits, .inr ⟨[], List.forall_mem_nil _, ?_⟩⟩
    rcases characters with characters | ⟨fraction, -, characters⟩
    · rw [String.toList_ofList, characters]
    · exact absurd (by simp [characters]) noPoint

end ViewLayout.Token
