import ViewLayout.Proofs.Text.ByteOrder
import ViewLayout.Proofs.Token.Longest

/-!
# Nothing is lost in scanning

`Tokenized before tokens rest` says what it is to have read a text up to a place: the characters
before it are spaces and tokens, and each token is the longest that can start where it does, in
sight of the whole text. A text is scanned into tokens when its end is such a place. It cannot be
scanned when some such place stands before a character, other than a space, that is the first of no
token, and the error is that character.

A scanned text can be put together again from its tokens and their spans, since every byte that
belongs to no token is a space.
-/

namespace ViewLayout.Token

open ViewLayout.Text ViewLayout.Outcome

/-- The characters before a place are spaces and tokens, each token the longest that can start where
it does. -/
inductive Tokenized : List Char → List (Spanned Token) → List Char → Prop where
  | start (text : List Char) : Tokenized [] [] text
  | space {before rest : List Char} {tokens : List (Spanned Token)}
      (earlier : Tokenized before tokens (' ' :: rest)) :
      Tokenized (before ++ [' ']) tokens rest
  | token {before rest : List Char} {tokens : List (Spanned Token)} {token : Token}
      (earlier : Tokenized before tokens (token.text.toList ++ rest))
      (longest : token.LongestAt (token.text.toList ++ rest)) :
      Tokenized (before ++ token.text.toList)
        (tokens ++ [⟨token, byteLength before, byteLength before + token.text.utf8ByteSize⟩]) rest

/-- A token stands in a text at its span and is the longest that can start there. -/
def LongestIn (raw : String) (token : Spanned Token) : Prop :=
  ∃ before after, raw.toList = before ++ (token.value.text.toList ++ after) ∧
    token.span.start = byteLength before ∧
    token.span.stop = byteLength before + token.value.text.utf8ByteSize ∧
    token.value.LongestAt (token.value.text.toList ++ after)

/-- Everything before a character is tokenized, and the character is the first of no token. -/
structure StuckAt (raw : String) (found : Spanned Char) : Prop where
  /-- Some place that is reached stands before the character, and the span is the character. -/
  reached : ∃ before tokens after, raw.toList = before ++ found.value :: after ∧
    Tokenized before tokens (found.value :: after) ∧
    found.span = ⟨byteLength before, byteLength before + found.value.utf8Size⟩
  /-- The character is not passed over. -/
  notSpace : found.value ≠ ' '
  /-- No token starts with the character. -/
  noToken : ¬CanStart found.value

/-- What the tokens of a text that was scanned say of it. -/
structure Lossless (raw : String) (tokens : List (Spanned Token)) : Prop where
  /-- No token is empty. -/
  nonempty : ∀ token ∈ tokens, token.span.start < token.span.stop
  /-- Each token ends before the next one starts. -/
  ordered : tokens.Pairwise fun first second => first.span.stop ≤ second.span.start
  /-- The text at a span is that of the token. -/
  stands : ∀ token ∈ tokens, token.span.Cuts raw token.value.text
  /-- A byte of the text that lies in no span is a space. -/
  spaces : ∀ place < (bytes raw).length,
    (∀ token ∈ tokens, ¬(token.span.start ≤ place ∧ place < token.span.stop)) →
      (bytes raw)[place]? = some 32
  /-- Each token is the longest that can start where it does. -/
  longest : ∀ token ∈ tokens, LongestIn raw token
  /-- A token that starts with the letter of a tag, in front of a colon, is the tag. -/
  tags : ∀ token ∈ tokens, ∀ before c after, raw.toList = before ++ c :: ':' :: after →
    token.span.start = byteLength before → ∀ tag, Mark.tagOf? c = some tag →
      token.value = .mark tag
  /-- No digit comes after a number, and no point unless the number has one. -/
  numbers : ∀ literal span, ⟨number literal, span⟩ ∈ tokens → ∀ before c after,
    raw.toList = before ++ c :: after → span.stop = byteLength before →
      c.isDigit = false ∧ ('.' ∉ literal.toList → c ≠ '.')

/-! ## Reading on from a place -/

/-- A scan of the whole text goes through every place that is reached. -/
theorem scanFrom_of_tokenized {before rest : List Char} {tokens : List (Spanned Token)}
    (reached : Tokenized before tokens rest) :
    scanFrom 0 (before ++ rest) = (scanFrom (byteLength before) rest).map (tokens ++ ·) := by
  induction reached with
  | start text =>
    rw [List.nil_append, byteLength_nil]
    cases scanFrom 0 text <;> rfl
  | @space before rest tokens earlier ih =>
    have further : byteLength (before ++ [' ']) = byteLength before + 1 := byteLength_append _ _
    rw [List.append_assoc, List.singleton_append, ih, scanFrom, further]
  | @token before rest tokens token earlier longest ih =>
    have taken := longest?_eq_some_iff.2 longest
    rw [List.append_assoc, ih, scanFrom_of_longest? taken, byteLength_append, byteLength_toList]
    cases scanFrom (byteLength before + token.text.utf8ByteSize) rest with
    | error => rfl
    | ok later => simp [Except.map]

/-- A scan stops at a character that it does not pass over and that is the first of no token. -/
theorem scanFrom_stuck {c : Char} (notSpace : c ≠ ' ') (noToken : ¬CanStart c) (offset : Nat)
    (rest : List Char) : scanFrom offset (c :: rest) = .error ⟨c, offset, offset + c.utf8Size⟩ := by
  have none : longest? (c :: rest) = none := not_canStart_iff.1 noToken
  rw [scanFrom]
  · split
    · rfl
    · rename_i found
      rw [none] at found
      contradiction
  · exact notSpace

/-- A scan that goes on from a place that is reached and succeeds reaches the end of the text. -/
theorem tokenized_of_scanFrom {before rest : List Char} {tokens later : List (Spanned Token)}
    (reached : Tokenized before tokens rest) (scanned : scanFrom (byteLength before) rest = .ok later) :
    Tokenized (before ++ rest) (tokens ++ later) [] := by
  have divided := divided_of_scanFrom scanned
  generalize offset : byteLength before = start at divided
  clear scanned
  induction divided generalizing before tokens with
  | done =>
    rwa [List.append_nil, List.append_nil]
  | @space start rest later divided ih =>
    have passed := ih (.space reached) (by rw [byteLength_append, offset]; rfl)
    rwa [List.append_assoc] at passed
  | @token start token rest later longest divided ih =>
    subst offset
    have passed := ih (.token reached (longest?_eq_some_iff.1 longest))
      (by rw [byteLength_append, byteLength_toList])
    rwa [List.append_assoc, List.append_assoc] at passed

/-- A scan that goes on from a place that is reached and fails is stuck. -/
theorem stuckAt_of_scanFrom {raw : String} {before rest : List Char}
    {tokens : List (Spanned Token)} {found : Spanned Char} (split : raw.toList = before ++ rest)
    (reached : Tokenized before tokens rest)
    (failed : scanFrom (byteLength before) rest = .error found) : StuckAt raw found := by
  generalize offset : byteLength before = start at failed
  fun_induction scanFrom start rest generalizing before tokens with
  | case1 => contradiction
  | case2 start rest ih =>
    refine ih ?_ (.space reached) ?_ failed
    · rw [split, List.append_assoc, List.singleton_append]
    · rw [byteLength_append, offset]
      rfl
  | case3 start c rest notSpace none =>
    obtain rfl := Except.error.inj failed
    exact ⟨⟨before, tokens, rest, split, reached, by rw [offset]⟩, notSpace,
      not_canStart_iff.2 none⟩
  | case4 start c rest notSpace token lexeme taken next =>
    rename_i ih
    obtain ⟨rfl, ⟨after, whole⟩, -⟩ := spelled_of_longest? taken
    rw [← whole] at split reached taken ih failed
    rw [List.drop_left] at ih failed
    refine ih ?_ (.token reached (longest?_eq_some_iff.1 taken)) ?_ (map_eq_error_iff.1 failed)
    · rw [split, List.append_assoc]
    · rw [byteLength_append, offset]

/-- A text is scanned into tokens exactly when it is tokenized to its end. -/
theorem scan_eq_ok_iff {raw : String} {tokens : List (Spanned Token)} :
    scan raw = .ok tokens ↔ Tokenized raw.toList tokens [] := by
  constructor
  · exact tokenized_of_scanFrom (.start raw.toList)
  · intro reached
    have through := scanFrom_of_tokenized reached
    rw [List.append_nil, scanFrom] at through
    rw [scan, through]
    exact congrArg Except.ok (List.append_nil tokens)

/-- A text cannot be scanned exactly when it has a character where a scan is stuck, and the error is
that character. -/
theorem scan_eq_error_iff {raw : String} {found : Spanned Char} :
    scan raw = .error found ↔ StuckAt raw found := by
  constructor
  · exact stuckAt_of_scanFrom (List.nil_append _).symm (.start raw.toList)
  · rintro ⟨⟨before, tokens, after, split, reached, span⟩, notSpace, noToken⟩
    have through := scanFrom_of_tokenized reached
    rw [scanFrom_stuck notSpace noToken, ← span] at through
    rw [scan, split, through]
    rfl

/-! ## What the tokens say of the text -/

/-- Every token of a division is the longest that can start where it does. -/
theorem Divided.longestIn {raw : String} {before text : List Char} {tokens : List (Spanned Token)}
    {offset : Nat} (divided : Divided offset text tokens) (split : raw.toList = before ++ text)
    (reached : byteLength before = offset) : ∀ token ∈ tokens, LongestIn raw token := by
  induction divided generalizing before with
  | done => exact List.forall_mem_nil _
  | @space offset text tokens later ih =>
    have further : raw.toList = (before ++ [' ']) ++ text := by
      rw [split, List.append_assoc, List.singleton_append]
    refine ih further ?_
    rw [byteLength_append, reached]
    rfl
  | @token offset token text tokens longest later ih =>
    have further : raw.toList = (before ++ token.text.toList) ++ text := by
      rw [split, List.append_assoc]
    have here : LongestIn raw ⟨token, offset, offset + token.text.utf8ByteSize⟩ :=
      ⟨before, text, split, reached.symm, by rw [reached], longest?_eq_some_iff.1 longest⟩
    refine List.forall_mem_cons.2 ⟨here, ih further ?_⟩
    rw [byteLength_append, reached, byteLength_toList]

/-- The number of bytes of a run of characters is that of their codes. -/
theorem length_flatMap_encode (text : List Char) :
    (text.flatMap String.utf8EncodeChar).length = byteLength text := by
  induction text with
  | nil => rfl
  | cons c rest ih =>
    rw [List.flatMap_cons, List.length_append, String.length_utf8EncodeChar, ih, byteLength_cons]

/-- A byte of divided characters that lies in the span of no token is a space. -/
theorem Divided.spaces {offset : Nat} {text : List Char} {tokens : List (Spanned Token)}
    (divided : Divided offset text tokens) {place : Nat} (within : place < byteLength text)
    (outside : ∀ token ∈ tokens,
      ¬(token.span.start ≤ offset + place ∧ offset + place < token.span.stop)) :
    (text.flatMap String.utf8EncodeChar)[place]? = some 32 := by
  induction divided generalizing place with
  | done => contradiction
  | @space offset text tokens later ih =>
    have code : String.utf8EncodeChar ' ' = [32] := by decide +kernel
    rw [List.flatMap_cons, code, List.singleton_append]
    cases place with
    | zero => rfl
    | succ place =>
      rw [List.getElem?_cons_succ]
      have narrow : ' '.utf8Size = 1 := rfl
      rw [byteLength_cons, narrow] at within
      refine ih (by omega) fun token present => ?_
      rw [Nat.add_right_comm, Nat.add_assoc]
      exact outside token present
  | @token offset token text tokens longest later ih =>
    obtain ⟨here, apart⟩ := List.forall_mem_cons.1 outside
    dsimp only at here
    rw [byteLength_append, byteLength_toList] at within
    -- The place is none of those of the token, so it lies behind it.
    obtain ⟨place, rfl⟩ : ∃ behind, place = token.text.utf8ByteSize + behind :=
      Nat.exists_eq_add_of_le (by omega)
    have width : (token.text.toList.flatMap String.utf8EncodeChar).length =
        token.text.utf8ByteSize := by
      rw [length_flatMap_encode, byteLength_toList]
    rw [List.flatMap_append, List.getElem?_append_right (by omega), width,
      Nat.add_sub_cancel_left]
    refine ih (by omega) fun other present => ?_
    rw [Nat.add_assoc]
    exact apart other present

/-- A place in a text is at one number of bytes. -/
theorem eq_of_byteLength_eq {text first second : List Char} (one : first <+: text)
    (other : second <+: text) (same : byteLength first = byteLength second) : first = second := by
  have nothing {front more : List Char} (equal : byteLength front = byteLength (front ++ more)) :
      more = [] := by
    by_contra written
    have wide := byteLength_pos written
    rw [byteLength_append] at equal
    omega
  rcases List.prefix_or_prefix_of_prefix one other with ⟨more, rfl⟩ | ⟨more, rfl⟩
  · rw [nothing same, List.append_nil]
  · rw [nothing same.symm, List.append_nil]

/-- The longest token at the letter of a tag in front of a colon is the tag. -/
theorem LongestIn.eq_tag {raw : String} {token : Spanned Token} {before after : List Char}
    {c : Char} {tag : Mark} (longest : LongestIn raw token)
    (split : raw.toList = before ++ c :: ':' :: after)
    (here : token.span.start = byteLength before) (tagged : Mark.tagOf? c = some tag) :
    token.value = .mark tag := by
  obtain ⟨front, rest, whole, start, -, longest⟩ := longest
  obtain rfl := eq_of_byteLength_eq ⟨_, split.symm⟩ ⟨_, whole.symm⟩ (here.symm.trans start)
  rw [← List.append_cancel_left (split.symm.trans whole)] at longest
  exact longest.eq_tag tagged

/-- A number that is the longest token somewhere is followed by no digit, and by no point unless it
has one. -/
theorem LongestIn.ends_number {raw literal : String} {span : Span} {before after : List Char}
    {c : Char} (longest : LongestIn raw ⟨number literal, span⟩)
    (split : raw.toList = before ++ c :: after) (here : span.stop = byteLength before) :
    c.isDigit = false ∧ ('.' ∉ literal.toList → c ≠ '.') := by
  obtain ⟨front, rest, whole, -, stop, longest⟩ := longest
  have reached : byteLength before = byteLength (front ++ literal.toList) := by
    rw [byteLength_append, byteLength_toList]
    exact here.symm.trans stop
  rw [← List.append_assoc] at whole
  obtain rfl := eq_of_byteLength_eq ⟨_, split.symm⟩ ⟨_, whole.symm⟩ reached
  obtain rfl := List.append_cancel_left (split.symm.trans whole)
  obtain ⟨noDigit, noPoint⟩ := longest.ends_number
  refine ⟨noDigit c rfl, fun whole point => ?_⟩
  exact noPoint whole (congrArg some point)

/-- A text that was scanned is made of its tokens and of spaces. -/
theorem lossless_of_scan {raw : String} {tokens : List (Spanned Token)}
    (scanned : scan raw = .ok tokens) : Lossless raw tokens := by
  have divided := divided_of_scanFrom scanned
  have longest := divided.longestIn (List.nil_append _).symm byteLength_nil
  exact {
    nonempty := divided.start_lt_stop
    ordered := divided.pairwise
    stands := cuts_of_scan scanned
    spaces := by
      intro place within outside
      rw [bytes_eq] at within ⊢
      rw [length_flatMap_encode] at within
      refine divided.spaces within fun token present => ?_
      rw [Nat.zero_add]
      exact outside token present
    longest := longest
    tags := fun token present before c after split here tag tagged =>
      (longest token present).eq_tag split here tagged
    numbers := fun literal span present before c after split here =>
      (longest _ present).ends_number split here }

/-- A text that is scanned is divided into spaces and the longest tokens, none of it lost. It is not
scanned exactly when some place that is reached by tokenizing all that stands before it is in front
of a character with which no token can start, and the error is that character. -/
theorem scan_lossless_or_stuck (raw : String) :
    (∀ tokens, scan raw = .ok tokens → Lossless raw tokens) ∧
      ∀ found, scan raw = .error found ↔ StuckAt raw found :=
  ⟨fun _ => lossless_of_scan, fun _ => scan_eq_error_iff⟩

/-- A colon that follows no letter of a tag is the first character with which no token can start. -/
example : StuckAt "H:a a:b" ⟨':', 5, 6⟩ := scan_eq_error_iff.1 (by decide +kernel)

end ViewLayout.Token
