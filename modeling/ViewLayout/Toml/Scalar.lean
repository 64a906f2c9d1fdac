import ViewLayout.Number.Decimal
import ViewLayout.Toml.Value

/-!
# Numbers, truth values and moments

The values of TOML that are written without quotes or brackets. Such a value is one run of letters,
digits and a few marks, and each reader here decides about a whole run; only a date and its time may
be two runs with a space between.

Integers have 64 bits. A decimal fraction rounds to the nearest 64-bit number and must not overflow
to infinity, which is written `inf`.
-/

namespace ViewLayout.Toml

open ViewLayout.Number

/-! ### Digits -/

/-- The digits of a run in which single underscores may stand between digits. -/
def digitGroups? (isDigit : Char → Bool) : List Char → Option (List Char)
  | [] => none
  | [digit] => if isDigit digit then some [digit] else none
  | digit :: '_' :: rest =>
    if isDigit digit then (digitGroups? isDigit rest).map (digit :: ·) else none
  | digit :: rest =>
    if isDigit digit then (digitGroups? isDigit rest).map (digit :: ·) else none

/-- The value of one digit in any base up to sixteen. -/
def digitValue (digit : Char) : Nat :=
  if digit.isDigit then digit.toNat - '0'.toNat
  else digit.toLower.toNat - 'a'.toNat + 10

/-- Whether a character is a digit of base sixteen. -/
def isHexDigit (c : Char) : Bool :=
  c.isDigit || ('a' ≤ c.toLower && c.toLower ≤ 'f')

/-- The value of digits in a base. -/
def valueInBase (base : Nat) (digits : List Char) : Nat :=
  digits.foldl (fun value digit => value * base + digitValue digit) 0

/-! ### Integers and fractions -/

/-- The number of integers that are not negative. -/
def integerBound : Nat := Nat.pow 2 63

/-- An integer that fits into 64 bits. -/
def integer? (negative : Bool) (size : Nat) : Option Value :=
  if negative then if size ≤ integerBound then some (.integer (-size)) else none
  else if size < integerBound then some (.integer size) else none

/-- An integer in another base, after the mark of the base. -/
def integerInBase? (base : Nat) (isDigit : Char → Bool) (digits : List Char) : Option Value :=
  (digitGroups? isDigit digits).bind fun digits => integer? false (valueInBase base digits)

/-- A number with a fraction or an exponent; infinity is not the value of any digits. -/
def fraction? (negative : Bool) (digits : Decimal) : Option Value :=
  let number : Binary64 := .ofDecimal negative digits
  if number = Binary.infinite false then none else some (.float number)

/-- The exponent that a run consists of, if it is not empty. -/
def exponent? : List Char → Option Int
  | [] => some 0
  | mark :: rest =>
    if mark = 'e' ∨ mark = 'E' then
      let (negative, digits) := splitSign rest
      (digitGroups? Char.isDigit digits).map fun digits =>
        let size : Int := digitsValue digits
        if negative then -size else size
    else none

/-- Digits without a needless zero in front. -/
def wholeDigits? (text : List Char) : Option (List Char) :=
  match digitGroups? Char.isDigit text with
  | some ('0' :: _ :: _) => none
  | found => found

/-- A decimal number after its sign. -/
def decimal? (negative : Bool) (text : List Char) : Option Value := do
  let isPart (c : Char) : Bool := c.isDigit || c = '_'
  let (whole, rest) := text.span isPart
  let whole ← wholeDigits? whole
  match rest with
  | [] => integer? negative (digitsValue whole)
  | '.' :: rest =>
    let (places, rest) := rest.span isPart
    let places ← digitGroups? Char.isDigit places
    let exponent ← exponent? rest
    fraction? negative ⟨digitsValue (whole ++ places), exponent - places.length⟩
  | rest => do
    let exponent ← exponent? rest
    fraction? negative ⟨digitsValue whole, exponent⟩

/-- A number. -/
def number? (text : List Char) : Option Value :=
  match text with
  | '0' :: 'x' :: digits => integerInBase? 16 isHexDigit digits
  | '0' :: 'o' :: digits => integerInBase? 8 (fun c => '0' ≤ c && c ≤ '7') digits
  | '0' :: 'b' :: digits => integerInBase? 2 (fun c => c = '0' || c = '1') digits
  | _ =>
    let (negative, body) := splitSign text
    if body = ['i', 'n', 'f'] then some (.float (.infinite negative))
    else if body = ['n', 'a', 'n'] then some (.float .nan)
    else decimal? negative body

/-! ### Moments -/

/-- A number of a fixed count of digits, within bounds, and the text after it. -/
def boundedNumber? (count least greatest : Nat) (text : List Char) : Option (Nat × List Char) :=
  let digits := text.take count
  let number := digitsValue digits
  if digits.length = count ∧ digits.all Char.isDigit ∧ least ≤ number ∧ number ≤ greatest then
    some (number, text.drop count)
  else none

/-- The text after a given character. -/
def after? (mark : Char) : List Char → Option (List Char)
  | c :: rest => if c = mark then some rest else none
  | [] => none

/-- The number of days of a month. -/
def monthLength (year month : Nat) : Nat :=
  let isLeapYear := year % 4 = 0 ∧ (year % 100 ≠ 0 ∨ year % 400 = 0)
  if month = 2 then if isLeapYear then 29 else 28
  else if month = 4 ∨ month = 6 ∨ month = 9 ∨ month = 11 then 30
  else 31

/-- The text after a date. -/
def afterDate? (text : List Char) : Option (List Char) := do
  let (year, rest) ← boundedNumber? 4 0 9999 text
  let (month, rest) ← boundedNumber? 2 1 12 (← after? '-' rest)
  let (_, rest) ← boundedNumber? 2 1 (monthLength year month) (← after? '-' rest)
  some rest

/-- The text after a time of day, whose seconds may have a fraction and reach 60. -/
def afterTime? (text : List Char) : Option (List Char) := do
  let (_, rest) ← boundedNumber? 2 0 23 text
  let (_, rest) ← boundedNumber? 2 0 59 (← after? ':' rest)
  let (_, rest) ← boundedNumber? 2 0 60 (← after? ':' rest)
  match rest with
  | '.' :: rest =>
    match spanDigits rest with
    | ([], _) => none
    | (_, rest) => some rest
  | rest => some rest

/-- Whether a run is the offset of a time from universal time; it may be absent. -/
def isOffset : List Char → Bool
  | [] => true
  | mark :: rest =>
    if mark = 'Z' ∨ mark = 'z' then rest.isEmpty
    else if mark = '+' ∨ mark = '-' then
      let after := do
        let (_, rest) ← boundedNumber? 2 0 23 rest
        let (_, rest) ← boundedNumber? 2 0 59 (← after? ':' rest)
        some rest
      after = some []
    else false

/-- Whether a run is a time of day with or without an offset. -/
def isTimeOfDate (text : List Char) : Bool :=
  (afterTime? text).any isOffset

/-- Whether a run is a date alone. -/
def isDate (text : List Char) : Bool :=
  afterDate? text = some []

/-- Whether a run is a date, a date and a time, or a time of any day. -/
def isMoment (text : List Char) : Bool :=
  match afterDate? text with
  | some [] => true
  | some (mark :: rest) => (mark = 'T' || mark = 't') && isTimeOfDate rest
  | none => afterTime? text = some []

/-! ### Runs -/

/-- Whether a character can be part of a value without quotes. -/
def isScalarPart (c : Char) : Bool :=
  c.isAlphanum || c = '+' || c = '-' || c = '.' || c = '_' || c = ':'

/-- The value of a run. -/
def scalar? (text : List Char) : Option Value :=
  if text = ['t', 'r', 'u', 'e'] then some (.boolean true)
  else if text = ['f', 'a', 'l', 's', 'e'] then some (.boolean false)
  else if isMoment text then some (.moment (String.ofList text))
  else number? text

/-- Reads a value without quotes or brackets from the front of a text. A date takes in the time
that follows it after one space. -/
def readScalar (text : List Char) : Option (Value × List Char) :=
  let (run, rest) := text.span isScalarPart
  match isDate run, rest with
  | true, ' ' :: next =>
    if next.head?.any Char.isDigit then
      let (time, rest) := next.span isScalarPart
      if isTimeOfDate time then some (.moment (String.ofList (run ++ ' ' :: time)), rest) else none
    else some (.moment (String.ofList run), rest)
  | _, _ => (scalar? run).map (·, rest)

end ViewLayout.Toml
