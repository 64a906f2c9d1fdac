import Mathlib
import ViewLayout.Number.Binary

/-!
# Numeric order

The ranks of a format list its magnitudes in strictly increasing order. Comparing two finite
numbers by rank is therefore comparing their exact values, and the only numbers equal to zero are
the two zeros.
-/

namespace ViewLayout.Number

/-- The exact power is the power of the rationals. -/
theorem power_eq_zpow (base : Nat) (exponent : Int) :
    power base exponent = (base : Rat) ^ exponent := by
  unfold power
  by_cases natural : 0 ≤ exponent
  · rw [if_pos natural]
    obtain ⟨n, rfl⟩ := Int.eq_ofNat_of_zero_le natural
    rw [Int.toNat_natCast, zpow_natCast]
    exact Nat.cast_pow base n
  · rw [if_neg natural]
    obtain ⟨n, negated⟩ := Int.eq_ofNat_of_zero_le (show 0 ≤ -exponent by omega)
    have exponentEq : exponent = -(n : Int) := by omega
    rw [exponentEq, neg_neg, Int.toNat_natCast, zpow_neg, zpow_natCast, one_div]
    exact congrArg _ (Nat.cast_pow base n)

namespace Format

/-- A magnitude in units of the least positive one. -/
def units (f : Format) (rank : Nat) : Nat :=
  if rank < f.binadeSize then rank
  else (f.binadeSize + rank % f.binadeSize) * 2 ^ (rank / f.binadeSize - 1)

theorem binadeSize_pos (f : Format) : 0 < f.binadeSize := Nat.two_pow_pos _

/-- Each rank has more units than the one before it. -/
theorem units_lt_succ (f : Format) (rank : Nat) : f.units rank < f.units (rank + 1) := by
  have positive := f.binadeSize_pos
  unfold units
  generalize f.binadeSize = size at positive
  by_cases low : rank + 1 < size
  · rw [if_pos low, if_pos (by omega)]
    exact Nat.lt_succ_self rank
  · rw [if_neg low]
    by_cases boundary : rank < size
    · -- The first full binade begins where the subnormal magnitudes end.
      have first : rank + 1 = size := by omega
      rw [if_pos boundary, first, Nat.mod_self, Nat.div_self positive]
      omega
    · rw [if_neg boundary]
      have split := Nat.div_add_mod rank size
      have place := Nat.mod_lt rank positive
      have binade : 1 ≤ rank / size := (Nat.one_le_div_iff positive).2 (by omega)
      by_cases last : rank % size + 1 = size
      · -- The last place of a binade lies below the first of the next, which has unit twice as large.
        have next : rank + 1 = size * (rank / size + 1) := by
          rw [Nat.mul_add]
          omega
        have doubled : 2 ^ (rank / size + 1 - 1) = 2 * 2 ^ (rank / size - 1) := by
          rw [← Nat.pow_succ']
          congr 1
          omega
        rw [next, Nat.mul_mod_right, Nat.mul_div_cancel_left _ positive, doubled]
        calc
          (size + rank % size) * 2 ^ (rank / size - 1)
              < (size + size) * 2 ^ (rank / size - 1) :=
            Nat.mul_lt_mul_of_pos_right (by omega) (Nat.two_pow_pos _)
          _ = (size + 0) * (2 * 2 ^ (rank / size - 1)) := by ring
      · have inside : rank % size + 1 < size := by omega
        have next : rank + 1 = size * (rank / size) + (rank % size + 1) := by omega
        have sameBinade : (rank + 1) / size = rank / size := by
          rw [next, Nat.mul_add_div positive, Nat.div_eq_of_lt inside, Nat.add_zero]
        have nextPlace : (rank + 1) % size = rank % size + 1 := by
          rw [next, Nat.mul_add_mod, Nat.mod_eq_of_lt inside]
        rw [sameBinade, nextPlace]
        exact Nat.mul_lt_mul_of_pos_right (by omega) (Nat.two_pow_pos _)

/-- A magnitude is its units times the least positive magnitude. -/
theorem magnitude_eq (f : Format) (rank : Nat) :
    f.magnitude rank = f.units rank * (2 : Rat) ^ f.leastExponent := by
  unfold magnitude significand exponent units
  rw [power_eq_zpow]
  by_cases low : rank < f.binadeSize
  · rw [if_pos low, if_pos low, Nat.div_eq_of_lt low]
    simp
  · rw [if_neg low, if_neg low, Nat.cast_ofNat, zpow_add₀ two_ne_zero, zpow_natCast, Nat.cast_mul,
      Nat.cast_pow, Nat.cast_ofNat]
    ring

/-- The magnitudes of a format increase strictly with their ranks. -/
theorem magnitude_strictMono (f : Format) : StrictMono f.magnitude := by
  have increasing : StrictMono f.units := strictMono_nat_of_lt_succ f.units_lt_succ
  intro first second less
  rw [magnitude_eq, magnitude_eq]
  have unit : (0 : Rat) < 2 ^ f.leastExponent := zpow_pos two_pos _
  exact mul_lt_mul_of_pos_right (Nat.cast_lt.2 (increasing less)) unit

@[simp]
theorem magnitude_zero (f : Format) : f.magnitude 0 = 0 := by
  rw [magnitude_eq, units, if_pos f.binadeSize_pos, Nat.cast_zero, zero_mul]

/-- The exact value at a place in the order of the finite numbers. -/
def exact (f : Format) (place : Int) : Rat :=
  if place < 0 then -f.magnitude place.natAbs else f.magnitude place.natAbs

/-- The exact values increase strictly with their places. -/
theorem exact_strictMono (f : Format) : StrictMono f.exact := by
  intro first second less
  have notBelow (rank : Nat) : 0 ≤ f.magnitude rank := by
    rw [← f.magnitude_zero]
    exact f.magnitude_strictMono.monotone (Nat.zero_le rank)
  unfold exact
  by_cases firstBelow : first < 0
  · rw [if_pos firstBelow]
    have negative : 0 < f.magnitude first.natAbs := by
      rw [← f.magnitude_zero]
      exact f.magnitude_strictMono (by omega)
    by_cases secondBelow : second < 0
    · rw [if_pos secondBelow]
      exact Rat.neg_lt_neg (f.magnitude_strictMono (by omega))
    · rw [if_neg secondBelow]
      have below : -f.magnitude first.natAbs < 0 := Rat.neg_lt_neg negative
      exact lt_of_lt_of_le below (notBelow _)
  · rw [if_neg firstBelow, if_neg (by omega)]
    exact f.magnitude_strictMono (by omega)

end Format

namespace Binary

variable {f : Format}

/-- One of the two zeros. -/
def IsZero (x : Binary f) : Prop := x = zero false ∨ x = zero true

instance (x : Binary f) : Decidable x.IsZero := inferInstanceAs (Decidable (_ ∨ _))

/-- A number is finite when its place lies inside the infinities, and its exact value is then the
one at its place. -/
theorem toRat?_eq_some_iff {x : Binary f} {q : Rat} :
    x.toRat? = some q ↔
      ∃ place, x.place? = some place ∧ place.natAbs < f.infiniteRank ∧ q = f.exact place := by
  cases x with
  | nan => simp [toRat?, place?]
  | signed negative rank bounded =>
    have absolute : (if negative then -(rank : Int) else rank).natAbs = rank := by
      cases negative <;> simp
    have value : (if negative then -f.magnitude rank else f.magnitude rank) =
        f.exact (if negative then -(rank : Int) else rank) := by
      unfold Format.exact
      rw [absolute]
      cases negative with
      | false => simp
      | true =>
        by_cases none : rank = 0
        · simp [none]
        · rw [if_pos rfl, if_pos rfl, if_pos (by omega)]
    rw [toRat?, place?, value]
    simp only [Option.some.injEq, exists_eq_left', absolute]
    by_cases infinite : rank = f.infiniteRank
    · rw [if_pos infinite]
      simp only [infinite, Nat.lt_irrefl, false_and, reduceCtorEq]
    · rw [if_neg infinite]
      have finite : rank < f.infiniteRank := by omega
      simp only [finite, true_and, Option.some.injEq, eq_comm]

/-- The finite numbers are those with an exact value. -/
theorem exists_toRat?_iff {x : Binary f} : (∃ q, x.toRat? = some q) ↔ x.isFinite = true := by
  cases x with
  | nan => simp [toRat?, isFinite]
  | signed negative rank bounded =>
    by_cases infinite : rank = f.infiniteRank
    · simp [toRat?, isFinite, infinite]
    · simp [toRat?, isFinite, infinite]

/-- A finite number has its exact value. -/
theorem toRat?_of_isFinite {x : Binary f} (finite : x.isFinite = true) :
    x.toRat? = some (x.toRat?.getD 0) := by
  obtain ⟨q, value⟩ := exists_toRat?_iff.2 finite
  rw [value, Option.getD_some]

/-- A number lies between two finite ones exactly when it is finite and its exact value lies
between theirs. -/
theorem atMost_between_iff {low x high : Binary f} {p r : Rat} (lowest : low.toRat? = some p)
    (highest : high.toRat? = some r) :
    (low.atMost x = true ∧ x.atMost high = true) ↔ ∃ q, x.toRat? = some q ∧ p ≤ q ∧ q ≤ r := by
  obtain ⟨below, lowPlace, lowInside, rfl⟩ := toRat?_eq_some_iff.1 lowest
  obtain ⟨above, highPlace, highInside, rfl⟩ := toRat?_eq_some_iff.1 highest
  simp only [toRat?_eq_some_iff, atMost, lowPlace, highPlace]
  cases x.place? with
  | none => simp
  | some place =>
    simp only [decide_eq_true_eq, Option.some.injEq, exists_eq_left']
    constructor
    · rintro ⟨first, second⟩
      exact ⟨_, ⟨by omega, rfl⟩, f.exact_strictMono.le_iff_le.2 first,
        f.exact_strictMono.le_iff_le.2 second⟩
    · rintro ⟨_, ⟨-, rfl⟩, first, second⟩
      exact ⟨f.exact_strictMono.le_iff_le.1 first, f.exact_strictMono.le_iff_le.1 second⟩

theorem zero_eq : (0 : Binary f) = zero false := by
  show ofRat ((0 : Nat) : Rat) = zero false
  rw [Nat.cast_zero, ofRat, if_neg (lt_irrefl _), ofMagnitude, zero]
  simp only [Format.nearestRank, if_true]

/-- Zero has the value zero. -/
theorem toRat?_zero : (0 : Binary64).toRat? = some 0 := by
  rw [zero_eq, zero, toRat?, if_neg (by decide), Format.magnitude_zero]
  rfl

/-- Only the two zeros are equal to zero. -/
theorem equal_zero_iff {x : Binary f} : x.equal 0 = true ↔ x.IsZero := by
  rw [zero_eq, IsZero, equal]
  cases x with
  | nan => simp [place?, zero]
  | signed negative rank bounded =>
    cases negative <;> simp [place?, zero]

end Binary

end ViewLayout.Number
