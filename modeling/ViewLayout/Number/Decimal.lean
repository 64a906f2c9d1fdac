import ViewLayout.Number.Binary

/-!
# Decimal text of numbers

A number is written with the fewest digits that read back to it, in positional notation at every
size, and read by rounding the written value to the nearest number. Of two equally short texts
the one closer to the value is written, and the greater one when both are equally close.

`Binary.render` and `Binary.read?` are the two directions; `fixed` writes an exact rational with a
given number of places.
-/

namespace ViewLayout.Number

/-- An exact decimal value, `digits * 10 ^ exponent`. -/
structure Decimal where
  /-- All digits, read as one natural number. -/
  digits : Nat
  /-- The power of ten of the last digit. -/
  exponent : Int
deriving DecidableEq, Repr

namespace Decimal

/-- The exact value of a decimal. -/
def value (d : Decimal) : Rat := d.digits * power 10 d.exponent

/-- The digits of a natural number, first digit first. -/
def digitText (n : Nat) : List Char := Nat.toDigits 10 n

/-- Text padded on the left with zeros to at least the given length. -/
def padLeft (length : Nat) (text : List Char) : List Char :=
  List.replicate (length - text.length) '0' ++ text

/-- Positional notation: zeros fill up to the point, and a fraction has a digit before it. -/
def plain (d : Decimal) : List Char :=
  if 0 ≤ d.exponent then digitText d.digits ++ List.replicate d.exponent.toNat '0'
  else
    let places := (-d.exponent).toNat
    let text := padLeft (places + 1) (digitText d.digits)
    text.take (text.length - places) ++ '.' :: text.drop (text.length - places)

end Decimal

namespace Format

/-- The point of the grid `10 ^ exponent` to write for a rank, if one of the two grid points next
to the magnitude reads back as that rank: the closer one, and the upper of two equally close. -/
def gridPoint? (f : Format) (rank : Nat) (exponent : Int) : Option Decimal :=
  let cell := f.magnitude rank * power 10 (-exponent)
  let lower : Decimal := ⟨cell.num.toNat / cell.den, exponent⟩
  let upper : Decimal := ⟨lower.digits + 1, exponent⟩
  let readsBack (d : Decimal) : Bool := f.nearestRank d.value = rank
  let lowerIsCloser : Bool := cell - lower.digits < upper.digits - cell
  if readsBack lower && (lowerIsCloser || !readsBack upper) then some lower
  else if readsBack upper then some upper
  else none

/-- The first grid with a point for the rank, trying `steps` grids from coarse to fine; the grid
after them is taken to hold the magnitude itself. -/
def shortestFrom (f : Format) (rank : Nat) : Nat → Int → Decimal
  | 0, exponent => ⟨(f.magnitude rank * power 10 (-exponent)).num.toNat, exponent⟩
  | steps + 1, exponent =>
    match f.gridPoint? rank exponent with
    | some d => d
    | none => shortestFrom f rank steps (exponent - 1)

/-- The decimal with the fewest digits that reads back as a rank above zero. The search begins on
a grid coarser than twice the magnitude and ends on one that contains it, since `2 ^ e` is a
multiple of `10 ^ e` for negative `e`. -/
def shortest (f : Format) (rank : Nat) : Decimal :=
  let coarse := binaryExponent (f.magnitude rank) * 3 / 10 + 3
  let fine := min (f.exponent rank) 0
  f.shortestFrom rank (coarse - fine).toNat coarse

/-- The nearest rank of a decimal. Decimals far outside the range of the format are decided by
their size alone, so that no huge power is ever formed. -/
def rankOfDecimal (f : Format) (d : Decimal) : Nat :=
  let leading : Int := (Decimal.digitText d.digits).length + d.exponent
  if d.digits = 0 then 0
  else if Nat.pow 2 (f.exponentBits - 1) < leading then f.infiniteRank
  else if leading < f.leastExponent then 0
  else f.nearestRank d.value

theorem rankOfDecimal_le_infiniteRank (f : Format) (d : Decimal) :
    f.rankOfDecimal d ≤ f.infiniteRank := by
  unfold rankOfDecimal
  dsimp only
  split
  · exact Nat.zero_le _
  · split
    · exact Nat.le_refl _
    · split
      · exact Nat.zero_le _
      · exact f.nearestRank_le_infiniteRank _

end Format

namespace Binary

variable {f : Format}

/-- The number of a given sign nearest to a decimal. -/
def ofDecimal (negative : Bool) (d : Decimal) : Binary f :=
  .signed negative (f.rankOfDecimal d) (f.rankOfDecimal_le_infiniteRank d)

/-- The text of a magnitude. -/
def magnitudeText (f : Format) (rank : Nat) : List Char :=
  if rank = 0 then ['0']
  else if rank = f.infiniteRank then ['i', 'n', 'f']
  else (f.shortest rank).plain

/-- The shortest positional text that reads back to the number; a minus sign is written also for
negative zero. -/
def render : Binary f → String
  | .nan => "NaN"
  | .signed negative rank _ =>
    String.ofList ((if negative then ['-'] else []) ++ magnitudeText f rank)

end Binary

/-- The digits at the front of a text, and the text after them. -/
def spanDigits (text : List Char) : List Char × List Char :=
  text.span Char.isDigit

/-- The value of a run of digits. -/
def digitsValue (digits : List Char) : Nat :=
  digits.foldl (fun value c => value * 10 + (c.toNat - '0'.toNat)) 0

/-- A sign at the front of a text: whether it is a minus, and the text after it. -/
def splitSign : List Char → Bool × List Char
  | '-' :: rest => (true, rest)
  | '+' :: rest => (false, rest)
  | text => (false, text)

/-- An exponent part that takes up the whole text; nothing at all stands for zero. -/
def readExponent? : List Char → Option Int
  | [] => some 0
  | c :: rest =>
    if c = 'e' ∨ c = 'E' then
      let (negative, digits) := splitSign rest
      match spanDigits digits with
      | (d :: ds, []) =>
        let size : Int := digitsValue (d :: ds)
        some (if negative then -size else size)
      | _ => none
    else none

/-- A decimal literal that takes up the whole text: digits with at most one point and at least
one digit, then an optional exponent. -/
def readDecimal? (text : List Char) : Option Decimal :=
  let (whole, rest) := spanDigits text
  let (fraction, rest) :=
    match rest with
    | '.' :: rest => spanDigits rest
    | _ => ([], rest)
  if whole.isEmpty && fraction.isEmpty then none
  else
    (readExponent? rest).map fun exponent =>
      ⟨digitsValue (whole ++ fraction), exponent - fraction.length⟩

namespace Binary

variable {f : Format}

/-- Reads a whole text as a number: an optional sign before a decimal literal, or before `inf`,
`infinity` or `nan` in letters of any case. -/
def read? (text : String) : Option (Binary f) :=
  let (negative, body) := splitSign text.toList
  let word := String.ofList (body.map Char.toLower)
  if word = "inf" ∨ word = "infinity" then some (infinite negative)
  else if word = "nan" then some .nan
  else (readDecimal? body).map (ofDecimal negative)

end Binary

/-- An exact rational with a fixed number of places, a half going to the even neighbour. A value
that rounds to zero has no sign. -/
def fixed (places : Nat) (q : Rat) : String :=
  let units := roundHalfEven (q.num.natAbs * Nat.pow 10 places) q.den
  let text := Decimal.plain ⟨units, -(places : Int)⟩
  String.ofList (if q < 0 ∧ units ≠ 0 then '-' :: text else text)

end ViewLayout.Number
