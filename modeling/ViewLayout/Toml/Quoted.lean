import ViewLayout.Toml.Scalar

/-!
# Quoted text

TOML has four kinds of strings: in double quotes with escapes or in single quotes without, each on
one line or, with tripled quotes, over several. A string is read as the pieces between its quotes,
and `readUntil` is the loop they share with arrays, inline tables and documents.
-/

namespace ViewLayout.Toml

/-- A reader of the front of a text, which gives what it read and the text after it. -/
abbrev Reader (α : Type) := List Char → Option (α × List Char)

/-- Reads pieces until the end is read, at most `count` of them. -/
def readPieces {α β : Type} (finish : Reader β) (piece : Reader α) :
    Nat → Reader (List α × β)
  | 0, text => do
    let (last, rest) ← finish text
    some (([], last), rest)
  | count + 1, text =>
    match finish text with
    | some (last, rest) => some (([], last), rest)
    | none => do
      let (first, rest) ← piece text
      let ((others, last), rest) ← readPieces finish piece count rest
      some ((first :: others, last), rest)

/-- Reads pieces until the end is read. Since no piece is empty, there are no more pieces than
characters. -/
def readUntil {α β : Type} (finish : Reader β) (piece : Reader α) : Reader (List α × β) :=
  fun text => readPieces finish piece text.length text

/-! ### Lines -/

/-- Whether a character is a blank within a line. -/
def isInnerBlank (c : Char) : Bool := c = ' ' || c = '\t'

/-- The text after its leading blanks. -/
def skipBlanks (text : List Char) : List Char := text.dropWhile isInnerBlank

/-- The text after a line break, if it begins with one. -/
def afterBreak? : List Char → Option (List Char)
  | '\n' :: rest => some rest
  | '\r' :: '\n' :: rest => some rest
  | _ => none

/-- The text after its leading blanks and line breaks. -/
def skipWhite : List Char → List Char
  | '\r' :: '\n' :: rest => skipWhite rest
  | c :: rest => if isInnerBlank c || c = '\n' then skipWhite rest else c :: rest
  | [] => []

/-- Whether a character can stand in a comment: all but the control characters, with the tab
allowed. -/
def isPrintable (c : Char) : Bool :=
  c = '\t' || (' ' ≤ c && c ≠ '\x7f')

/-! ### Escapes -/

/-- The character of a number that is written in base sixteen with a fixed count of digits. -/
def readCodePoint (count : Nat) : Reader Char := fun text =>
  let digits := text.take count
  let number := valueInBase 16 digits
  if digits.length = count ∧ digits.all isHexDigit ∧ number.isValidChar then
    some (Char.ofNat number, text.drop count)
  else none

/-- Reads an escape after its backslash. -/
def readEscape : Reader Char
  | 'b' :: rest => some ('\x08', rest)
  | 't' :: rest => some ('\t', rest)
  | 'n' :: rest => some ('\n', rest)
  | 'f' :: rest => some ('\x0c', rest)
  | 'r' :: rest => some ('\r', rest)
  | '"' :: rest => some ('"', rest)
  | '\\' :: rest => some ('\\', rest)
  | 'u' :: rest => readCodePoint 4 rest
  | 'U' :: rest => readCodePoint 8 rest
  | _ => none

/-! ### Strings -/

/-- Reads a character of a string. With escapes a backslash begins one. -/
def readPart (escapes : Bool) : Reader (List Char)
  | [] => none
  | c :: rest =>
    if escapes ∧ c = '\\' then (readEscape rest).map fun (c, rest) => ([c], rest)
    else if isPrintable c then some ([c], rest)
    else none

/-- Reads a line break that an escape hides, together with all white space after it. -/
def readHiddenBreak : Reader (List Char)
  | '\\' :: rest => (afterBreak? (skipBlanks rest)).map fun rest => ([], skipWhite rest)
  | _ => none

/-- Reads a piece of a string over several lines: a line break, which counts as a line feed however
it is written, a hidden line break, or a character. -/
def readLinePart (escapes : Bool) : Reader (List Char) := fun text =>
  match afterBreak? text with
  | some rest => some (['\n'], rest)
  | none => ((if escapes then readHiddenBreak text else none) <|> readPart escapes text)

/-- The end of a string on one line. -/
def readQuote (quote : Char) : Reader Unit := fun text =>
  (after? quote text).map fun rest => ((), rest)

/-- The end of a string over several lines. Up to two quotes right before it belong to the
string. -/
def readTripleQuote (quote : Char) : Reader (List Char) := fun text =>
  let quotes := min 5 (text.takeWhile (· = quote)).length
  if 3 ≤ quotes then some (List.replicate (quotes - 3) quote, text.drop quotes) else none

/-- Whether strings in a quote have escapes. -/
def hasEscapes (quote : Char) : Bool := quote = '"'

/-- Reads a string on one line after its opening quote. -/
def readLineString (quote : Char) : Reader String := fun text => do
  let ((parts, _), rest) ← readUntil (readQuote quote) (readPart (hasEscapes quote)) text
  some (String.ofList parts.flatten, rest)

/-- Reads a string over several lines after its opening quotes. A line break right after them is
not part of it. -/
def readBlockString (quote : Char) : Reader String := fun text => do
  let text := (afterBreak? text).getD text
  let ((parts, ending), rest) ←
    readUntil (readTripleQuote quote) (readLinePart (hasEscapes quote)) text
  some (String.ofList (parts.flatten ++ ending), rest)

/-- Reads a string after its first quote. -/
def readString (quote : Char) : Reader String := fun text =>
  if text.take 2 = [quote, quote] then readBlockString quote (text.drop 2)
  else readLineString quote text

end ViewLayout.Toml
