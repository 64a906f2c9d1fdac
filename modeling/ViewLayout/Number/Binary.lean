/-!
# Binary floating-point numbers

A binary format lists its magnitudes in increasing order: zero, the subnormal values, then one
binade after another up to infinity. A magnitude is stored as its place in that list, its *rank*.
Ranks make order, parity of the significand and neighbours plain arithmetic on natural numbers:
the neighbours of rank `n` are `n - 1` and `n + 1`, and a significand is even exactly when its
rank is.

Every operation is rounding of an exact rational result: to the nearest magnitude, and from half
way to the one of even rank.
-/

namespace ViewLayout.Number

/-- The natural number nearest to `numerator / denominator`; a half goes to the even neighbour. -/
def roundHalfEven (numerator denominator : Nat) : Nat :=
  let whole := numerator / denominator
  let rest := numerator % denominator
  if 2 * rest < denominator then whole
  else if denominator < 2 * rest then whole + 1
  else whole + whole % 2

/-- The exact power of a natural base with a signed exponent. -/
def power (base : Nat) (exponent : Int) : Rat :=
  if 0 ≤ exponent then Nat.pow base exponent.toNat
  else 1 / Nat.pow base (-exponent).toNat

/-- The exponent of the binade of a positive rational: the greatest `e` with `2 ^ e ≤ q`. -/
def binaryExponent (q : Rat) : Int :=
  let guess : Int := (q.num.toNat.log2 : Int) - (q.den.log2 : Int)
  if power 2 guess ≤ q then guess else guess - 1

/-- The widths of the two fields of a binary interchange format. -/
structure Format where
  /-- Bits of the significand after its leading bit. -/
  fractionBits : Nat
  /-- Bits of the biased exponent. -/
  exponentBits : Nat
deriving DecidableEq, Repr

namespace Format

/-- The 64-bit format. -/
def double : Format := ⟨52, 11⟩

/-- The 32-bit format. -/
def single : Format := ⟨23, 8⟩

/-- The number of magnitudes in a binade. -/
def binadeSize (f : Format) : Nat := Nat.pow 2 f.fractionBits

/-- The exponent of the least positive magnitude, which is `2 ^ leastExponent`. -/
def leastExponent (f : Format) : Int :=
  2 - Nat.pow 2 (f.exponentBits - 1) - f.fractionBits

/-- The rank of infinity, the last magnitude of the format. -/
def infiniteRank (f : Format) : Nat :=
  (Nat.pow 2 f.exponentBits - 1) * f.binadeSize

/-- The integer significand of a rank; below the first full binade it is the rank itself. -/
def significand (f : Format) (rank : Nat) : Nat :=
  if rank < f.binadeSize then rank
  else f.binadeSize + rank % f.binadeSize

/-- The exponent of the unit of a rank's significand. -/
def exponent (f : Format) (rank : Nat) : Int :=
  f.leastExponent + (rank / f.binadeSize - 1 : Nat)

/-- The exact magnitude of a rank. At the rank of infinity this is the power of two that the
format can no longer hold, which is the value overflow is rounded against. -/
def magnitude (f : Format) (rank : Nat) : Rat :=
  f.significand rank * power 2 (f.exponent rank)

/-- The rank of the magnitude nearest to a rational that is not negative. -/
def nearestRank (f : Format) (q : Rat) : Nat :=
  if q = 0 then 0
  else
    let unit := max f.leastExponent (binaryExponent q - f.fractionBits)
    let scaled := q * power 2 (-unit)
    min f.infiniteRank
      ((unit - f.leastExponent).toNat * f.binadeSize
        + roundHalfEven scaled.num.toNat scaled.den)

theorem nearestRank_le_infiniteRank (f : Format) (q : Rat) :
    f.nearestRank q ≤ f.infiniteRank := by
  unfold nearestRank
  split
  · exact Nat.zero_le _
  · exact Nat.min_le_left _ _

end Format

/-- A number of a binary format. -/
inductive Binary (f : Format) where
  /-- The result of an operation without a value. -/
  | nan
  /-- A sign and the rank of a magnitude; zero and infinity have both signs. -/
  | signed (negative : Bool) (rank : Nat) (bounded : rank ≤ f.infiniteRank)
deriving DecidableEq, Repr

/-- Numbers of 64 bits. -/
abbrev Binary64 := Binary Format.double

/-- Numbers of 32 bits. -/
abbrev Binary32 := Binary Format.single

namespace Binary

variable {f : Format}

/-- The number of a given sign nearest to a magnitude that is not negative. -/
def ofMagnitude (negative : Bool) (q : Rat) : Binary f :=
  .signed negative (f.nearestRank q) (f.nearestRank_le_infiniteRank q)

/-- The number nearest to a rational; zero gets the positive sign. -/
def ofRat (q : Rat) : Binary f :=
  if q < 0 then ofMagnitude true (-q) else ofMagnitude false q

/-- Infinity with the given sign. -/
def infinite (negative : Bool) : Binary f :=
  .signed negative f.infiniteRank (Nat.le_refl _)

/-- Zero with the given sign. -/
def zero (negative : Bool) : Binary f :=
  .signed negative 0 (Nat.zero_le _)

instance (n : Nat) : OfNat (Binary f) n := ⟨ofRat n⟩

instance : Inhabited (Binary f) := ⟨zero false⟩

/-- The exact value of a finite number; infinities and `nan` have none. -/
def toRat? : Binary f → Option Rat
  | .nan => none
  | .signed negative rank _ =>
    if rank = f.infiniteRank then none
    else some (if negative then -f.magnitude rank else f.magnitude rank)

/-- The exact value of the number of a format that is nearest to a rational. A rational beyond the
greatest number stays as it is. -/
def nearest (f : Format) (q : Rat) : Rat := ((ofRat q : Binary f).toRat?).getD q

/-- Whether the number has an exact value. -/
def isFinite : Binary f → Bool
  | .nan => false
  | .signed _ rank _ => rank ≠ f.infiniteRank

/-- The place of a number in the numeric order of its format, which puts both zeros at `0`;
`nan` has no place. -/
def place? : Binary f → Option Int
  | .nan => none
  | .signed negative rank _ => some (if negative then -(rank : Int) else rank)

/-- Numeric equality: both zeros are equal, and `nan` equals nothing. -/
def equal (x y : Binary f) : Bool :=
  match x.place?, y.place? with
  | some p, some q => p = q
  | _, _ => false

/-- Numeric order: false whenever either side is `nan`. -/
def atMost (x y : Binary f) : Bool :=
  match x.place?, y.place? with
  | some p, some q => p ≤ q
  | _, _ => false

/-- Whether the number lies below zero; `-0` does not. -/
def isBelowZero (x : Binary f) : Bool :=
  match x.place? with
  | some p => p < 0
  | none => false

/-- The number with its sign turned round. -/
protected def neg : Binary f → Binary f
  | .nan => .nan
  | .signed negative rank bounded => .signed (!negative) rank bounded

instance : Neg (Binary f) := ⟨Binary.neg⟩

/-- The number without its sign. -/
def abs : Binary f → Binary f
  | .nan => .nan
  | .signed _ rank bounded => .signed false rank bounded

/-- One divided by the number: zero and infinity change places and keep the sign. -/
def reciprocal : Binary f → Binary f
  | .nan => .nan
  | .signed negative rank _ =>
    if rank = 0 then infinite negative
    else if rank = f.infiniteRank then zero negative
    else ofMagnitude negative (1 / f.magnitude rank)

/-- The nearest number of another format. -/
def convert (g : Format) : Binary f → Binary g
  | .nan => .nan
  | .signed negative rank _ =>
    if rank = f.infiniteRank then infinite negative
    else ofMagnitude negative (f.magnitude rank)

end Binary

end ViewLayout.Number
