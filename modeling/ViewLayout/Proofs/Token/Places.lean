import Mathlib.Data.List.TakeWhile
import ViewLayout.Metrics
import ViewLayout.Token.Scan
import ViewLayout.Proofs.Outcome

/-!
# Where tokens stand

A scan divides a text into spaces and tokens: `Token.Divided` is that division without the
scanner, and the scanner succeeds exactly on the texts that have one. Read off the division, every
token stands in the text at its span, no token is empty, and tokens follow one another without
overlap.

Spans count bytes and the scanner goes by characters, so the number of bytes of a run of
characters is tied to the size of the text they make.
-/

namespace ViewLayout

namespace Text

@[simp]
theorem byteLength_nil : byteLength [] = 0 := rfl

@[simp]
theorem byteLength_cons (c : Char) (rest : List Char) :
    byteLength (c :: rest) = c.utf8Size + byteLength rest := rfl

/-- Two runs of characters, one after the other, have the bytes of both. -/
theorem byteLength_append (first second : List Char) :
    byteLength (first ++ second) = byteLength first + byteLength second := by
  induction first with
  | nil => rw [List.nil_append, byteLength_nil, Nat.zero_add]
  | cons c rest ih => rw [List.cons_append, byteLength_cons, byteLength_cons, ih, Nat.add_assoc]

/-- The bytes of a run of characters are the bytes of the text it makes. -/
theorem utf8ByteSize_ofList (text : List Char) :
    (String.ofList text).utf8ByteSize = byteLength text := by
  induction text with
  | nil => rfl
  | cons c rest ih =>
    rw [String.ofList_cons, String.utf8ByteSize_append, String.utf8ByteSize_singleton, ih,
      byteLength_cons]

/-- The bytes of a text are the bytes of its characters. -/
theorem byteLength_toList (text : String) : byteLength text.toList = text.utf8ByteSize := by
  rw [← utf8ByteSize_ofList, String.ofList_toList]

/-- A run of characters of one byte each has as many bytes as characters. -/
theorem byteLength_eq_length {text : List Char} (narrow : ∀ c ∈ text, c.utf8Size = 1) :
    byteLength text = text.length := by
  induction text with
  | nil => rfl
  | cons c rest ih =>
    have here : c.utf8Size = 1 := narrow c List.mem_cons_self
    have later := ih fun other listed => narrow other (List.mem_cons_of_mem _ listed)
    rw [byteLength_cons, List.length_cons, here, later, Nat.add_comm]

/-- A run of characters that is not empty has bytes. -/
theorem byteLength_pos {text : List Char} (written : text ≠ []) : 0 < byteLength text := by
  cases text with
  | nil => exact absurd rfl written
  | cons c rest =>
    have wide : 0 < c.utf8Size := c.utf8Size_pos
    rw [byteLength_cons]
    omega

/-- The characters of one kind are taken up to one of another kind. -/
theorem takeWhile_append_of_head? {kind : Char → Bool} {front rest : List Char}
    (all : ∀ c ∈ front, kind c) (ends : ∀ c ∈ rest.head?, kind c = false) :
    (front ++ rest).takeWhile kind = front := by
  have stops : rest.takeWhile kind = [] := by
    cases rest with
    | nil => rfl
    | cons c others =>
      have other : ¬kind c = true := by simp [ends c rfl]
      exact List.takeWhile_cons_of_neg other
  rw [List.takeWhile_append_of_pos all, stops, List.append_nil]

/-- A part stands in a text at a span: the span begins after the bytes that come before the part
and ends after those of the part. -/
def Span.Cuts (span : Span) (whole part : String) : Prop :=
  ∃ before after, whole = before ++ part ++ after ∧ span.start = before.utf8ByteSize ∧
    span.stop = (before ++ part).utf8ByteSize

/-- A part that stands between other characters of a text is cut out by the span of its bytes. -/
theorem Span.cuts_of_toList {whole part : String} {before after : List Char}
    (split : whole.toList = before ++ (part.toList ++ after)) :
    Span.Cuts ⟨byteLength before, byteLength before + part.utf8ByteSize⟩ whole part := by
  have joined : whole = String.ofList before ++ part ++ String.ofList after := by
    rw [← String.ofList_toList (s := whole), split, String.ofList_append, String.ofList_append,
      String.ofList_toList, String.append_assoc]
  refine ⟨_, _, joined, ?_, ?_⟩
  · rw [utf8ByteSize_ofList]
  · rw [String.utf8ByteSize_append, utf8ByteSize_ofList]

end Text

namespace Token

open ViewLayout.Text ViewLayout.Outcome

/-- The text a token of each kind can have. -/
def WellSpelled : Token → Prop
  | mark _ => True
  | relation symbol => ∃ c rest, symbol.toList = c :: rest ∧ isRelationChar c ∧
      ∀ other ∈ rest, isRelationChar other
  | ident name => ∃ c rest, name.toList = c :: rest ∧ isIdentStart c ∧
      ∀ other ∈ rest, isIdentRest other
  | number literal => ∃ whole, whole ≠ [] ∧ (∀ c ∈ whole, c.isDigit) ∧
      (literal.toList = whole ∨
        ∃ fraction, (∀ c ∈ fraction, c.isDigit) ∧ literal.toList = whole ++ '.' :: fraction)

/-! ## Names -/

/-- The first character of a text decides whether it is a metric name. -/
theorem isName_iff_of_toList {text : String} {c : Char} {rest : List Char}
    (spelled : text.toList = c :: rest) : Metrics.isName text = isIdentStart c := by
  rw [Metrics.isName, spelled]
  rfl

/-- An identifier is a metric name. -/
theorem isName_of_ident {name : String} (spelled : WellSpelled (.ident name)) :
    Metrics.isName name := by
  obtain ⟨c, rest, characters, starts, -⟩ := spelled
  rw [isName_iff_of_toList characters, starts]

/-- No identifier starts with a digit. -/
theorem isIdentStart_eq_false_of_isDigit {c : Char} (digit : c.isDigit) :
    isIdentStart c = false := by
  have notAlpha : c.isAlpha = false := by
    change (decide (48 ≤ c.val) && decide (c.val ≤ 57)) = true at digit
    change (decide (65 ≤ c.val ∧ c.val ≤ 90) ||
      (decide (97 ≤ c.val) && decide (c.val ≤ 122))) = false
    simp only [Bool.and_eq_true, decide_eq_true_eq, Bool.or_eq_false_iff, Bool.and_eq_false_iff,
      decide_eq_false_iff_not, UInt32.le_iff_toNat_le, UInt32.reduceToNat] at digit ⊢
    omega
  have notBar : c ≠ '_' := by
    rintro rfl
    contradiction
  rw [isIdentStart, notAlpha, Bool.false_or, decide_eq_false_iff_not]
  exact notBar

/-- A number starts with a digit. -/
theorem exists_toList_of_number {literal : String} (spelled : WellSpelled (.number literal)) :
    ∃ c rest, literal.toList = c :: rest ∧ c.isDigit := by
  obtain ⟨whole, written, digits, characters⟩ := spelled
  obtain ⟨c, later, rfl⟩ := List.exists_cons_of_ne_nil written
  have digit : c.isDigit := digits c List.mem_cons_self
  rcases characters with characters | ⟨fraction, -, characters⟩
  · exact ⟨c, later, characters, digit⟩
  · exact ⟨c, later ++ '.' :: fraction, characters, digit⟩

/-- A number is no metric name. -/
theorem isName_eq_false_of_number {literal : String} (spelled : WellSpelled (.number literal)) :
    Metrics.isName literal = false := by
  obtain ⟨c, rest, characters, digit⟩ := exists_toList_of_number spelled
  rw [isName_iff_of_toList characters, isIdentStart_eq_false_of_isDigit digit]

/-- A relation is no metric name. -/
theorem isName_eq_false_of_relation {symbol : String}
    (spelled : WellSpelled (.relation symbol)) : Metrics.isName symbol = false := by
  obtain ⟨c, rest, characters, compares, -⟩ := spelled
  rw [isName_iff_of_toList characters]
  simp only [isRelationChar, Bool.or_eq_true, decide_eq_true_eq] at compares
  rcases compares with (rfl | rfl) | rfl
  · rfl
  · rfl
  · rfl

/-! ## The longest token -/

/-- A tag is its letter and a colon. -/
theorem toList_text_of_tagOf? {c : Char} {tag : Mark} (found : Mark.tagOf? c = some tag) :
    tag.text.toList = [c, ':'] := by
  unfold Mark.tagOf? at found
  split at found
  · obtain rfl := Option.some.inj found
    rfl
  · obtain rfl := Option.some.inj found
    rfl
  · obtain rfl := Option.some.inj found
    rfl
  · contradiction

/-- Any other mark is its one character. -/
theorem toList_text_of_ofChar? {c : Char} {mark : Mark} (found : Mark.ofChar? c = some mark) :
    mark.text.toList = [c] := by
  unfold Mark.ofChar? at found
  split at found <;> first | contradiction | (obtain rfl := Option.some.inj found; rfl)

/-- The longest number is at the front of the text. -/
theorem numberLexeme_prefix (text : List Char) : numberLexeme text <+: text := by
  have digits : text.takeWhile Char.isDigit <+: text := List.takeWhile_prefix _
  unfold numberLexeme
  dsimp only
  split
  · rename_i fraction pointed
    -- What follows the digits is the point, and the fraction is at the front of what follows it.
    obtain ⟨more, rest⟩ := List.takeWhile_prefix (l := fraction) Char.isDigit
    refine ⟨more, ?_⟩
    have whole := List.prefix_iff_eq_append.1 digits
    rw [pointed, ← rest] at whole
    rw [List.append_assoc, List.cons_append]
    exact whole
  · exact digits

/-- The longest number at a digit is digits, then perhaps a point and digits. -/
theorem wellSpelled_numberLexeme {c : Char} {rest : List Char} (digit : c.isDigit) :
    WellSpelled (.number (String.ofList (numberLexeme (c :: rest)))) := by
  have some : (c :: rest).takeWhile Char.isDigit ≠ [] := by
    rw [List.takeWhile_cons_of_pos digit]
    exact List.cons_ne_nil _ _
  have digits : ∀ other ∈ (c :: rest).takeWhile Char.isDigit, other.isDigit :=
    fun other taken => List.mem_takeWhile_imp taken
  refine ⟨_, some, digits, ?_⟩
  rw [String.toList_ofList, numberLexeme]
  split
  · rename_i fraction _
    exact .inr ⟨fraction.takeWhile Char.isDigit, fun other taken => List.mem_takeWhile_imp taken,
      rfl⟩
  · exact .inl rfl

/-- The longest token at the front of a text is spelled by the characters taken, in a way its
kind allows. -/
theorem spelled_of_longest? {text lexeme : List Char} {token : Token}
    (found : longest? text = some (token, lexeme)) :
    token.text.toList = lexeme ∧ lexeme <+: text ∧ token.WellSpelled := by
  unfold longest? at found
  split at found
  · contradiction
  · rename_i c rest
    split at found
    · rename_i tag after tagged
      obtain ⟨rfl, rfl⟩ := Prod.mk.inj (Option.some.inj found)
      exact ⟨toList_text_of_tagOf? tagged, ⟨after, rfl⟩, trivial⟩
    · split at found
      · rename_i letter
        obtain ⟨rfl, rfl⟩ := Prod.mk.inj (Option.some.inj found)
        refine ⟨String.toList_ofList, ?_, c, _, String.toList_ofList, letter,
          fun other taken => List.mem_takeWhile_imp taken⟩
        exact List.cons_prefix_cons.2 ⟨rfl, List.takeWhile_prefix _⟩
      · split at found
        · rename_i digit
          obtain ⟨rfl, rfl⟩ := Prod.mk.inj (Option.some.inj found)
          exact ⟨String.toList_ofList, numberLexeme_prefix _, wellSpelled_numberLexeme digit⟩
        · split at found
          · rename_i compares
            obtain ⟨rfl, rfl⟩ := Prod.mk.inj (Option.some.inj found)
            refine ⟨String.toList_ofList, ?_, c, _, String.toList_ofList, compares,
              fun other taken => List.mem_takeWhile_imp taken⟩
            exact List.cons_prefix_cons.2 ⟨rfl, List.takeWhile_prefix _⟩
          · obtain ⟨mark, spelled, same⟩ := Option.map_eq_some_iff.1 found
            obtain ⟨rfl, rfl⟩ := Prod.mk.inj same
            exact ⟨toList_text_of_ofChar? spelled, ⟨_, rfl⟩, trivial⟩

/-- No token starts with a space. -/
theorem longest?_space (rest : List Char) : longest? (' ' :: rest) = none := by
  rfl

/-! ## Spaces and tokens -/

/-- The division of the characters from a byte offset on into spaces and tokens, each token the
longest that can start where it does. -/
inductive Divided : Nat → List Char → List (Spanned Token) → Prop where
  | done (offset : Nat) : Divided offset [] []
  | space {offset : Nat} {text : List Char} {tokens : List (Spanned Token)}
      (later : Divided (offset + 1) text tokens) : Divided offset (' ' :: text) tokens
  | token {offset : Nat} {token : Token} {text : List Char} {tokens : List (Spanned Token)}
      (longest : longest? (token.text.toList ++ text) = some (token, token.text.toList))
      (later : Divided (offset + token.text.utf8ByteSize) text tokens) :
      Divided offset (token.text.toList ++ text)
        (⟨token, ⟨offset, offset + token.text.utf8ByteSize⟩⟩ :: tokens)

/-- A token that is the longest somewhere is not empty. -/
theorem utf8ByteSize_pos_of_longest? {text : List Char} {token : Token}
    (longest : longest? text = some (token, token.text.toList)) : 0 < token.text.utf8ByteSize := by
  have written : 0 < byteLength token.text.toList := byteLength_pos (ne_nil_of_longest? longest)
  rw [byteLength_toList] at written
  exact written

/-- The scanner divides what it accepts. -/
theorem divided_of_scanFrom {offset : Nat} {text : List Char} {tokens : List (Spanned Token)}
    (scanned : scanFrom offset text = .ok tokens) : Divided offset text tokens := by
  fun_induction scanFrom offset text generalizing tokens with
  | case1 offset =>
    obtain rfl := Except.ok.inj scanned
    exact .done offset
  | case2 offset rest ih => exact .space (ih scanned)
  | case3 => contradiction
  | case4 offset c rest notSpace token lexeme longest next =>
    rename_i ih
    rw [map_eq_ok_iff] at scanned
    obtain ⟨later, scanned, rfl⟩ := scanned
    obtain ⟨rfl, ⟨after, split⟩, _⟩ := spelled_of_longest? longest
    have stops : next = offset + token.text.utf8ByteSize := by
      rw [← byteLength_toList]
    have divided := ih scanned
    rw [← split] at longest divided ⊢
    rw [List.drop_left, stops] at divided
    rw [stops]
    exact .token longest divided

/-- A scan takes the longest token and goes on after it. -/
theorem scanFrom_of_longest? {token : Token} {text : List Char}
    (longest : longest? (token.text.toList ++ text) = some (token, token.text.toList))
    (offset : Nat) :
    scanFrom offset (token.text.toList ++ text) =
      (scanFrom (offset + token.text.utf8ByteSize) text).map
        (⟨token, ⟨offset, offset + token.text.utf8ByteSize⟩⟩ :: ·) := by
  obtain ⟨c, rest, spelled⟩ := List.exists_cons_of_ne_nil (ne_nil_of_longest? longest)
  rw [spelled, List.cons_append] at longest ⊢
  have notSpace : c ≠ ' ' := by
    rintro rfl
    rw [longest?_space] at longest
    contradiction
  rw [scanFrom]
  · split
    · rename_i none
      rw [longest] at none
      contradiction
    · rename_i found
      obtain ⟨rfl, rfl⟩ := Prod.mk.inj (Option.some.inj (longest.symm.trans found))
      dsimp only
      rw [← spelled, byteLength_toList, ← List.cons_append, ← spelled, List.drop_left]
  · exact notSpace

/-- The scanner accepts what can be divided. -/
theorem scanFrom_of_divided {offset : Nat} {text : List Char} {tokens : List (Spanned Token)}
    (divided : Divided offset text tokens) : scanFrom offset text = .ok tokens := by
  induction divided with
  | done offset => rw [scanFrom]
  | space later ih => rw [scanFrom, ih]
  | token longest later ih =>
    rw [scanFrom_of_longest? longest, ih]
    rfl

/-- Scanning the characters from an offset on gives their division. -/
theorem scanFrom_eq_ok_iff {offset : Nat} {text : List Char} {tokens : List (Spanned Token)} :
    scanFrom offset text = .ok tokens ↔ Divided offset text tokens :=
  ⟨divided_of_scanFrom, scanFrom_of_divided⟩

/-- Before the first token of a division there is nothing but spaces, and the other tokens divide
what comes after it. -/
theorem Divided.exists_spaces {offset : Nat} {text : List Char} {token : Spanned Token}
    {tokens : List (Spanned Token)} (divided : Divided offset text (token :: tokens)) :
    ∃ spaces later, text = List.replicate spaces ' ' ++ (token.value.text.toList ++ later) ∧
      token.span = ⟨offset + spaces, offset + spaces + token.value.text.utf8ByteSize⟩ ∧
      longest? (token.value.text.toList ++ later) = some (token.value, token.value.text.toList) ∧
      Divided token.span.stop later tokens := by
  generalize among : token :: tokens = all at divided
  induction divided with
  | done => contradiction
  | @space offset text all divided ih =>
    obtain ⟨spaces, rest, rfl, span, longest, later⟩ := ih among
    have further : offset + 1 + spaces = offset + (spaces + 1) := by omega
    rw [further] at span
    exact ⟨spaces + 1, rest, rfl, span, longest, later⟩
  | token longest later ih =>
    obtain ⟨rfl, rfl⟩ := List.cons.inj among
    exact ⟨0, _, rfl, rfl, longest, later⟩

/-- A division without tokens is one of spaces. -/
theorem Divided.exists_replicate {offset : Nat} {text : List Char}
    (divided : Divided offset text []) : ∃ spaces, text = List.replicate spaces ' ' := by
  generalize none : [] = all at divided
  induction divided with
  | done => exact ⟨0, rfl⟩
  | space later ih =>
    obtain ⟨spaces, rfl⟩ := ih none
    exact ⟨spaces + 1, rfl⟩
  | token => contradiction

/-! ## Texts around a space -/

/-- What is taken up to a character of another kind does not depend on what follows it. -/
theorem takeWhile_append_cons {kind : Char → Bool} {c : Char} (other : kind c = false)
    (front rest : List Char) : (front ++ c :: rest).takeWhile kind = front.takeWhile kind := by
  induction front with
  | nil => exact List.takeWhile_cons_of_neg (by simp [other])
  | cons first front ih =>
    rw [List.cons_append, List.takeWhile_cons, List.takeWhile_cons, ih]

/-- A number ends before a space. -/
theorem numberLexeme_before_space (front rest : List Char) :
    numberLexeme (front ++ ' ' :: rest) = numberLexeme front := by
  have bounded : (front.takeWhile Char.isDigit).length ≤ front.length :=
    (List.takeWhile_prefix _).length_le
  unfold numberLexeme
  dsimp only
  rw [takeWhile_append_cons rfl, List.drop_append_of_le_length bounded]
  generalize front.takeWhile Char.isDigit = whole
  cases front.drop whole.length with
  | nil => rfl
  | cons c more =>
    by_cases point : c = '.'
    · rw [point]
      exact congrArg (whole ++ '.' :: ·) (takeWhile_append_cons rfl more rest)
    · simp [point]

/-- The longest token before a space does not depend on the space and what follows it. -/
theorem longest?_before_space (front rest : List Char) :
    longest? (front ++ ' ' :: rest) = longest? front := by
  cases front with
  | nil => rfl
  | cons c more =>
    have name : (more ++ ' ' :: rest).takeWhile isIdentRest = more.takeWhile isIdentRest :=
      takeWhile_append_cons rfl more rest
    have symbol : (more ++ ' ' :: rest).takeWhile isRelationChar = more.takeWhile isRelationChar :=
      takeWhile_append_cons rfl more rest
    have number := numberLexeme_before_space (c :: more) rest
    rw [List.cons_append] at number ⊢
    by_cases colon : more.head? = some ':'
    · obtain ⟨later, rfl⟩ := List.head?_eq_some_iff.1 colon
      rw [List.cons_append] at name symbol number ⊢
      cases tagged : Mark.tagOf? c with
      | some tag => simp only [longest?, tagged]
      | none => simp only [longest?, tagged, name, symbol, number]
    · have apart (after : List Char) : more ≠ ':' :: after := by
        rintro rfl
        exact colon rfl
      have still (after : List Char) : more ++ ' ' :: rest ≠ ':' :: after := by
        intro begins
        cases more with
        | nil => exact absurd (List.cons.inj begins).1 (by decide)
        | cons second more =>
          obtain ⟨rfl, -⟩ := List.cons.inj begins
          exact apart more rfl
      rw [longest?, longest?, name, symbol, number]
      · exact fun _ after _ begins => apart after begins
      · exact fun _ after _ begins => still after begins

/-- A text is divided at a space: the space belongs to no token, and what comes before it and what
comes after it are divided apart. -/
theorem Divided.exists_split {offset : Nat} {front rest : List Char}
    {tokens : List (Spanned Token)} (divided : Divided offset (front ++ ' ' :: rest) tokens) :
    ∃ before after, tokens = before ++ after ∧ Divided offset front before ∧
      Divided (offset + byteLength front + 1) rest after := by
  generalize whole : front ++ ' ' :: rest = text at divided
  induction divided generalizing front with
  | done =>
    have empty := congrArg List.length whole
    simp at empty
  | @space offset text tokens later ih =>
    cases front with
    | nil =>
      obtain ⟨-, rfl⟩ := List.cons.inj whole
      exact ⟨[], tokens, rfl, .done offset, later⟩
    | cons c front =>
      obtain ⟨rfl, split⟩ := List.cons.inj whole
      obtain ⟨before, after, rfl, first, second⟩ := ih split
      refine ⟨before, after, rfl, .space first, ?_⟩
      have passed : offset + byteLength (' ' :: front) + 1 =
          offset + 1 + byteLength front + 1 := by
        have narrow : ' '.utf8Size = 1 := rfl
        rw [byteLength_cons, narrow]
        omega
      rwa [passed]
  | @token offset token text tokens longest later ih =>
    rw [← whole, longest?_before_space] at longest
    obtain ⟨-, ⟨more, rfl⟩, -⟩ := spelled_of_longest? longest
    rw [List.append_assoc] at whole
    obtain ⟨before, after, rfl, first, second⟩ := ih (List.append_cancel_left whole)
    refine ⟨_, after, rfl, .token longest first, ?_⟩
    rwa [byteLength_append, byteLength_toList, ← Nat.add_assoc]

/-! ## The places of the tokens -/

/-- Every token of a division is written as its kind allows. -/
theorem Divided.wellSpelled {offset : Nat} {text : List Char} {tokens : List (Spanned Token)}
    (divided : Divided offset text tokens) : ∀ token ∈ tokens, token.value.WellSpelled := by
  induction divided with
  | done => exact List.forall_mem_nil _
  | space later ih => exact ih
  | token longest later ih =>
    exact List.forall_mem_cons.2 ⟨(spelled_of_longest? longest).2.2, ih⟩

/-- No token of a division is empty. -/
theorem Divided.start_lt_stop {offset : Nat} {text : List Char} {tokens : List (Spanned Token)}
    (divided : Divided offset text tokens) :
    ∀ token ∈ tokens, token.span.start < token.span.stop := by
  induction divided with
  | done => exact List.forall_mem_nil _
  | space later ih => exact ih
  | token longest later ih =>
    have written := utf8ByteSize_pos_of_longest? longest
    exact List.forall_mem_cons.2 ⟨Nat.lt_add_of_pos_right written, ih⟩

/-- No token of a division starts before it. -/
theorem Divided.offset_le_start {offset : Nat} {text : List Char} {tokens : List (Spanned Token)}
    (divided : Divided offset text tokens) : ∀ token ∈ tokens, offset ≤ token.span.start := by
  induction divided with
  | done => exact List.forall_mem_nil _
  | space later ih =>
    intro token present
    have after := ih token present
    omega
  | token longest later ih =>
    refine List.forall_mem_cons.2 ⟨Nat.le_refl _, fun token present => ?_⟩
    have after := ih token present
    omega

/-- Each token of a division ends before the next starts. -/
theorem Divided.pairwise {offset : Nat} {text : List Char} {tokens : List (Spanned Token)}
    (divided : Divided offset text tokens) :
    tokens.Pairwise fun first second => first.span.stop ≤ second.span.start := by
  induction divided with
  | done => exact .nil
  | space later ih => exact ih
  | token longest later ih => exact .cons later.offset_le_start ih

/-- Every token of a division stands in the whole text at its span. -/
theorem Divided.cuts {raw : String} {before text : List Char} {tokens : List (Spanned Token)}
    {offset : Nat} (divided : Divided offset text tokens) (split : raw.toList = before ++ text)
    (reached : byteLength before = offset) :
    ∀ token ∈ tokens, token.span.Cuts raw token.value.text := by
  induction divided generalizing before with
  | done => exact List.forall_mem_nil _
  | @space offset text tokens later ih =>
    have further : raw.toList = (before ++ [' ']) ++ text := by
      rw [split, List.append_assoc, List.singleton_append]
    refine ih further ?_
    rw [byteLength_append, reached]
    rfl
  | @token offset token text tokens longest later ih =>
    have further : raw.toList = (before ++ token.text.toList) ++ text := by
      rw [split, List.append_assoc]
    have here : Span.Cuts ⟨offset, offset + token.text.utf8ByteSize⟩ raw token.text := by
      rw [← reached]
      exact Span.cuts_of_toList split
    refine List.forall_mem_cons.2 ⟨here, ih further ?_⟩
    rw [byteLength_append, reached, byteLength_toList]

/-- Every token of a text stands in it at its span. -/
theorem cuts_of_scan {raw : String} {tokens : List (Spanned Token)}
    (scanned : scan raw = .ok tokens) : ∀ token ∈ tokens, token.span.Cuts raw token.value.text :=
  (scanFrom_eq_ok_iff.1 scanned).cuts (List.nil_append _).symm byteLength_nil

end Token

end ViewLayout
