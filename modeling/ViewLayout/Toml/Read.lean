import ViewLayout.Toml.Quoted

/-!
# Reading TOML

`read?` gives the table of a TOML document, or nothing if the text is not TOML or defines something
twice. A document is a list of lines that each hold at most one statement; values nest up to a fixed
depth, and so do the keys of tables.
-/

namespace ViewLayout.Toml

/-- How deep arrays and inline tables nest at most, and how many parts a key has at most. -/
def nestingLimit : Nat := 79

/-! ### Keys -/

/-- Whether a character can stand in a key without quotes. -/
def isBareKeyPart (c : Char) : Bool := c.isAlphanum || c = '-' || c = '_'

/-- Reads one part of a key. -/
def readKeyPart : Reader String
  | '"' :: rest => readLineString '"' rest
  | '\'' :: rest => readLineString '\'' rest
  | text =>
    match text.span isBareKeyPart with
    | ([], _) => none
    | (part, rest) => some (String.ofList part, rest)

/-- Reads a part of a key with the blanks around it and, if another part follows, the dot. -/
def readDottedPart : Reader (String × Bool) := fun text => do
  let (part, rest) ← readKeyPart (skipBlanks text)
  match after? '.' (skipBlanks rest) with
  | some rest => some ((part, true), rest)
  | none => some ((part, false), skipBlanks rest)

/-- Reads the parts of a key, at most the given number: all but the last, and the last. -/
def readParts : Nat → Reader (List String × String)
  | 0, _ => none
  | count + 1, text => do
    let ((part, more), rest) ← readDottedPart text
    if more then
      let ((path, key), rest) ← readParts count rest
      some ((part :: path, key), rest)
    else some (([], part), rest)

/-- Reads a key with the blanks around it: its path, and the last part. -/
def readKey : Reader (List String × String) := readParts nestingLimit

/-! ### Values -/

/-- The text after white space, line breaks and comments; `inComment` tells whether it begins
within a comment. -/
def skipLinesFrom : Bool → List Char → List Char
  | _, [] => []
  | _, '\r' :: '\n' :: rest => skipLinesFrom false rest
  | inComment, c :: rest =>
    if c = '\n' then skipLinesFrom false rest
    else if inComment then if isPrintable c then skipLinesFrom true rest else c :: rest
    else if isInnerBlank c then skipLinesFrom false rest
    else if c = '#' then skipLinesFrom true rest
    else c :: rest

/-- The text after white space, line breaks and comments. -/
def skipLines : List Char → List Char := skipLinesFrom false

/-- Reads an element of an array together with the comma after it, which only the last element can
do without. -/
def readElement (value : Reader Value) : Reader Value := fun text => do
  let (element, rest) ← value text
  let rest := skipLines rest
  match after? ',' rest with
  | some rest => some (element, skipLines rest)
  | none => (after? ']' rest).map fun _ => (element, rest)

/-- Reads an array after its opening bracket. -/
def readArray (value : Reader Value) : Reader Value := fun text => do
  let finish : Reader Unit := fun text => (after? ']' text).map fun rest => ((), rest)
  let ((elements, _), rest) ← readUntil finish (readElement value) (skipLines text)
  some (.array false elements, rest)

/-- Reads a key and its value. -/
def readAssignment (value : Reader Value) : Reader ((List String × String) × Value) :=
  fun text => do
    let (key, rest) ← readKey text
    let (found, rest) ← value (skipBlanks (← after? '=' rest))
    some ((key, found), skipBlanks rest)

/-- Reads an entry of an inline table together with the comma after it, which the last entry must
do without. -/
def readEntry (value : Reader Value) : Reader ((List String × String) × Value) := fun text => do
  let (entry, rest) ← readAssignment value text
  match after? ',' rest with
  | some rest => if (after? '}' (skipBlanks rest)).isSome then none else some (entry, rest)
  | none => (after? '}' rest).map fun _ => (entry, rest)

/-- Reads an inline table after its opening brace. -/
def readInlineTable (value : Reader Value) : Reader Value := fun text => do
  let finish : Reader Unit := fun text => (after? '}' text).map fun rest => ((), rest)
  let ((assignments, _), rest) ← readUntil finish (readEntry value) (skipBlanks text)
  let entries ← assignments.foldlM
    (fun entries assignment => Entries.assign assignment.1.1 assignment.1.2 assignment.2 entries) []
  some (.table .inline entries, rest)

/-- Reads a value whose arrays and inline tables nest at most the given number of times. -/
def readNested : Nat → Reader Value
  | _, '"' :: rest => (readString '"' rest).map fun (text, rest) => (.string text, rest)
  | _, '\'' :: rest => (readString '\'' rest).map fun (text, rest) => (.string text, rest)
  | depth + 1, '[' :: rest => readArray (readNested depth) rest
  | depth + 1, '{' :: rest => readInlineTable (readNested depth) rest
  | _, text => readScalar text

/-- Reads a value. -/
def readValue : Reader Value := readNested nestingLimit

/-! ### Documents -/

/-- The text after a comment, if there is one. -/
def skipComment (text : List Char) : List Char :=
  match after? '#' text with
  | some rest => rest.dropWhile isPrintable
  | none => text

/-- Reads a statement, if the line has one. -/
def readStatement : Reader (Option Statement) := fun text =>
  match text with
  | '[' :: '[' :: rest => do
    let ((path, key), rest) ← readKey rest
    some (some (.element path key), ← after? ']' (← after? ']' rest))
  | '[' :: rest => do
    let ((path, key), rest) ← readKey rest
    some (some (.table path key), ← after? ']' rest)
  | [] => some (none, [])
  | c :: _ =>
    if c = '#' ∨ c = '\n' ∨ c = '\r' then some (none, text)
    else do
      let (((path, key), value), rest) ← readAssignment readValue text
      some (some (.assignment path key value), rest)

/-- Reads a line together with its break, which the last line can do without. -/
def readLine : Reader (Option Statement) := fun text => do
  let (statement, rest) ← readStatement (skipBlanks text)
  let rest := skipComment (skipBlanks rest)
  if rest.isEmpty then some (statement, [])
  else (afterBreak? rest).map fun rest => (statement, rest)

/-- The text of a document without the mark that may stand before it. -/
def skipByteOrderMark (text : List Char) : List Char :=
  (after? '\ufeff' text).getD text

/-- The statements of a document. -/
def statements? (text : String) : Option (List Statement) :=
  let finish : Reader Unit := fun text => if text.isEmpty then some ((), []) else none
  (readUntil finish readLine (skipByteOrderMark text.toList)).map fun ((lines, _), _) =>
    lines.filterMap id

/-- The table of a document. -/
def read? (text : String) : Option Entries :=
  (statements? text).bind Entries.ofStatements

end ViewLayout.Toml
