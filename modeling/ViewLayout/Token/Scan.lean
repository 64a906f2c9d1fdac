import ViewLayout.Token

/-!
# Scanning constraint text

At every place the longest token that can start there is taken, and spaces are passed over. A
character that can start no token ends the scan; nothing after it is looked at.
-/

namespace ViewLayout.Token

open ViewLayout.Text

/-- Characters a relation is written with. -/
def isRelationChar (c : Char) : Bool := c = '=' || c = '<' || c = '>'

/-- Characters an identifier can start with. -/
def isIdentStart (c : Char) : Bool := c.isAlpha || c = '_'

/-- Characters an identifier can go on with. -/
def isIdentRest (c : Char) : Bool := c.isAlphanum || c = '_'

/-- The longest number at the front of a text that starts with a digit: digits, then at most one
point and the digits after it. -/
def numberLexeme (text : List Char) : List Char :=
  let whole := text.takeWhile Char.isDigit
  match text.drop whole.length with
  | '.' :: rest => whole ++ '.' :: rest.takeWhile Char.isDigit
  | _ => whole

/-- The longest token at the front of a text, with its characters. -/
def longest? : List Char → Option (Token × List Char)
  | [] => none
  | c :: rest =>
    match Mark.tagOf? c, rest with
    | some tag, ':' :: _ => some (.mark tag, [c, ':'])
    | _, _ =>
      if isIdentStart c then
        let name := c :: rest.takeWhile isIdentRest
        some (.ident (String.ofList name), name)
      else if c.isDigit then
        let literal := numberLexeme (c :: rest)
        some (.number (String.ofList literal), literal)
      else if isRelationChar c then
        let symbol := c :: rest.takeWhile isRelationChar
        some (.relation (String.ofList symbol), symbol)
      else (Mark.ofChar? c).map fun m => (.mark m, [c])

/-- A token is never empty. -/
theorem ne_nil_of_longest? {text lexeme : List Char} {token : Token}
    (found : longest? text = some (token, lexeme)) : lexeme ≠ [] := by
  unfold longest? at found
  split at found
  · simp at found
  · split at found
    · simp at found; simp [← found.2]
    · split at found
      · simp at found; simp [← found.2]
      · split at found
        · rename_i digit
          simp only [Option.some.injEq, Prod.mk.injEq] at found
          rw [← found.2]
          simp only [numberLexeme, List.takeWhile_cons, digit, if_true]
          split <;> simp
        · split at found
          · simp at found; simp [← found.2]
          · simp only [Option.map_eq_some_iff, Prod.mk.injEq] at found
            obtain ⟨_, _, _, same⟩ := found
            simp [← same]

/-- Scans the characters that begin at byte `offset`. The error is the first character with which
no token can start. -/
def scanFrom (offset : Nat) (text : List Char) : Except (Spanned Char) (List (Spanned Token)) :=
  match text with
  | [] => .ok []
  | ' ' :: rest => scanFrom (offset + 1) rest
  | c :: rest =>
    match _found : longest? (c :: rest) with
    | none => .error ⟨c, ⟨offset, offset + c.utf8Size⟩⟩
    | some (token, lexeme) =>
      let next := offset + byteLength lexeme
      (scanFrom next ((c :: rest).drop lexeme.length)).map (⟨token, ⟨offset, next⟩⟩ :: ·)
termination_by text.length
decreasing_by
  all_goals simp only [List.length_cons, List.length_drop]
  · omega
  · have : lexeme.length ≠ 0 := by
      simpa using ne_nil_of_longest? _found
    omega

/-- The tokens of a constraint text with their spans. -/
def scan (text : String) : Except (Spanned Char) (List (Spanned Token)) :=
  scanFrom 0 text.toList

end ViewLayout.Token
