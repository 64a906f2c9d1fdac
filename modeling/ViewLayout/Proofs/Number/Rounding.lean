import Mathlib
import ViewLayout.Number.Decimal
import ViewLayout.Proofs.Number.Order

/-!
# Rounding to a format

The binade of a positive rational is its logarithm to base two, so rounding is exact on the
magnitudes of a format, and what lies beyond them rounds to zero or to infinity. Deciding decimals
far outside the range of a format by their size alone therefore changes nothing.
-/

namespace ViewLayout.Number

/-! ## Natural numbers -/

/-- A natural number rounds to itself. -/
theorem roundHalfEven_natCast (n : Nat) :
    roundHalfEven (n : Rat).num.toNat (n : Rat).den = n := by
  rw [Rat.num_natCast, Rat.den_natCast, Int.toNat_natCast]
  simp [roundHalfEven, Nat.mod_one]

/-- A rational does not round below a natural number that it reaches. -/
theorem le_roundHalfEven {n : Nat} {q : Rat} (reached : (n : Rat) ≤ q) :
    n ≤ roundHalfEven q.num.toNat q.den := by
  have positive : 0 < q.den := q.den_pos
  have notBelow : 0 ≤ q.num := Rat.num_nonneg.2 ((Nat.cast_nonneg n).trans reached)
  have scaled : (n : Int) * q.den ≤ q.num := by
    rw [← Rat.num_div_den q, le_div_iff₀ (Nat.cast_pos.2 positive)] at reached
    exact_mod_cast reached
  have whole : n ≤ q.num.toNat / q.den := by
    rw [Nat.le_div_iff_mul_le positive]
    zify
    rw [Int.toNat_of_nonneg notBelow]
    exact scaled
  unfold roundHalfEven
  dsimp only
  split
  · exact whole
  · split <;> omega

/-- A greater quotient does not round lower. -/
theorem roundHalfEven_mono {a b c d : Nat} (firstPos : 0 < b) (secondPos : 0 < d)
    (le : a * d ≤ c * b) : roundHalfEven a b ≤ roundHalfEven c d := by
  have first := Nat.div_add_mod a b
  have second := Nat.div_add_mod c d
  have firstRest := Nat.mod_lt a firstPos
  have secondRest := Nat.mod_lt c secondPos
  unfold roundHalfEven
  dsimp only
  generalize a / b = n, a % b = x, c / d = m, c % d = y at *
  have whole : n ≤ m := by
    by_contra above
    have room : b * d * (m + 1) ≤ b * d * n := Nat.mul_le_mul_left _ (by omega)
    have inside : y * b < d * b := Nat.mul_lt_mul_of_pos_right secondRest firstPos
    nlinarith
  -- With equal whole parts, the rests are in the same order, and so they are to the halves.
  have rests (same : n = m) : x * d ≤ y * b := by
    subst same
    nlinarith
  have half (same : n = m) (reached : b ≤ 2 * x) : d ≤ 2 * y := by
    have scaled : b * d ≤ 2 * x * d := Nat.mul_le_mul_right d reached
    have doubled : b * d ≤ b * (2 * y) := by linarith [rests same]
    exact Nat.le_of_mul_le_mul_left doubled firstPos
  have beyond (same : n = m) (passed : b < 2 * x) : d < 2 * y := by
    have scaled : b * d < 2 * x * d := Nat.mul_lt_mul_of_pos_right passed secondPos
    have doubled : b * d < b * (2 * y) := by linarith [rests same]
    exact Nat.lt_of_mul_lt_mul_left doubled
  clear rests first second le
  split_ifs <;> omega

/-- A greater rational does not round lower. -/
theorem roundHalfEven_le {q r : Rat} (notBelow : 0 ≤ q) (le : q ≤ r) :
    roundHalfEven q.num.toNat q.den ≤ roundHalfEven r.num.toNat r.den := by
  apply roundHalfEven_mono q.den_pos r.den_pos
  have scaled : q.num * r.den ≤ r.num * q.den := (Rat.le_iff q r).1 le
  zify
  rw [Int.toNat_of_nonneg (Rat.num_nonneg.2 notBelow),
    Int.toNat_of_nonneg (Rat.num_nonneg.2 (notBelow.trans le))]
  exact scaled

/-- What lies below a half rounds to zero. -/
theorem roundHalfEven_eq_zero {q : Rat} (notBelow : 0 ≤ q) (small : q < 1 / 2) :
    roundHalfEven q.num.toNat q.den = 0 := by
  have positive : 0 < q.den := q.den_pos
  have doubled : 2 * q.num.toNat < q.den := by
    rw [← Rat.num_div_den q, div_lt_iff₀ (Nat.cast_pos.2 positive)] at small
    zify
    rw [Int.toNat_of_nonneg (Rat.num_nonneg.2 notBelow)]
    have cast : (2 : Rat) * q.num < q.den := by linarith
    exact_mod_cast cast
  have below : q.num.toNat < q.den := by omega
  unfold roundHalfEven
  dsimp only
  rw [Nat.div_eq_of_lt below, Nat.mod_eq_of_lt below, if_pos doubled]

/-! ## Binades -/

/-- The lengths of two natural numbers bound their quotient from below. -/
theorem zpow_log2_sub_le_div {n d : Nat} (some : n ≠ 0) (positive : 0 < d) :
    (2 : Rat) ^ ((n.log2 : Int) - d.log2 - 1) ≤ n / d := by
  have shifted : (2 : Rat) ^ ((n.log2 : Int) - d.log2 - 1) * 2 ^ (d.log2 + 1) = 2 ^ n.log2 := by
    rw [← zpow_natCast, ← zpow_natCast, ← zpow_add₀ two_ne_zero]
    congr 1
    push_cast
    ring
  have unit : (0 : Rat) < 2 ^ ((n.log2 : Int) - d.log2 - 1) := zpow_pos two_pos _
  have below : (d : Rat) ≤ 2 ^ (d.log2 + 1) := by exact_mod_cast Nat.lt_log2_self.le
  rw [le_div_iff₀ (Nat.cast_pos.2 positive)]
  calc (2 : Rat) ^ ((n.log2 : Int) - d.log2 - 1) * d
      ≤ 2 ^ ((n.log2 : Int) - d.log2 - 1) * 2 ^ (d.log2 + 1) :=
        mul_le_mul_of_nonneg_left below unit.le
    _ = 2 ^ n.log2 := shifted
    _ ≤ n := by exact_mod_cast Nat.log2_self_le some

/-- The lengths of two natural numbers bound their quotient from above. -/
theorem div_lt_zpow_log2_sub (n : Nat) {d : Nat} (positive : 0 < d) :
    (n : Rat) / d < 2 ^ ((n.log2 : Int) - d.log2 + 1) := by
  have shifted : (2 : Rat) ^ ((n.log2 : Int) - d.log2 + 1) * 2 ^ d.log2 = 2 ^ (n.log2 + 1) := by
    rw [← zpow_natCast, ← zpow_natCast, ← zpow_add₀ two_ne_zero]
    congr 1
    push_cast
    ring
  have unit : (0 : Rat) < 2 ^ ((n.log2 : Int) - d.log2 + 1) := zpow_pos two_pos _
  have above : (2 : Rat) ^ d.log2 ≤ d := by exact_mod_cast Nat.log2_self_le positive.ne'
  rw [div_lt_iff₀ (Nat.cast_pos.2 positive)]
  calc (n : Rat) < 2 ^ (n.log2 + 1) := by exact_mod_cast Nat.lt_log2_self
    _ = 2 ^ ((n.log2 : Int) - d.log2 + 1) * 2 ^ d.log2 := shifted.symm
    _ ≤ 2 ^ ((n.log2 : Int) - d.log2 + 1) * d := mul_le_mul_of_nonneg_left above unit.le

/-- A power of two up to a positive rational has an exponent up to its logarithm. -/
theorem zpow_le_iff {q : Rat} (positive : 0 < q) {e : Int} : 2 ^ e ≤ q ↔ e ≤ Int.log 2 q := by
  rw [← Int.zpow_le_iff_le_log one_lt_two positive, Nat.cast_ofNat]

/-- A power of two beyond a positive rational has an exponent beyond its logarithm. -/
theorem lt_zpow_iff {q : Rat} (positive : 0 < q) {e : Int} : q < 2 ^ e ↔ Int.log 2 q < e := by
  rw [← Int.lt_zpow_iff_log_lt one_lt_two positive, Nat.cast_ofNat]

/-- The exponent of the binade of a positive rational is its logarithm to base two. -/
theorem binaryExponent_eq_log {q : Rat} (positive : 0 < q) : binaryExponent q = Int.log 2 q := by
  have above : 0 < q.num := Rat.num_pos.2 positive
  have whole : ((q.num.toNat : Int) : Rat) = q.num := by rw [Int.toNat_of_nonneg above.le]
  have quotient : (q.num.toNat : Rat) / q.den = q := by
    rw [← Int.cast_natCast, whole, Rat.num_div_den]
  have lowest := zpow_log2_sub_le_div (n := q.num.toNat) (by omega) q.den_pos
  have highest := div_lt_zpow_log2_sub q.num.toNat q.den_pos
  rw [quotient] at lowest highest
  have least := (zpow_le_iff positive).1 lowest
  have most := (lt_zpow_iff positive).1 highest
  unfold binaryExponent
  simp only [power_eq_zpow, Nat.cast_ofNat, zpow_le_iff positive]
  split <;> omega

namespace Format

/-- The exponent of the unit in which a positive rational is rounded. -/
def unit (f : Format) (q : Rat) : Int := max f.leastExponent (Int.log 2 q - f.fractionBits)

/-- The rank of a positive rational counts the binades below its own and the units in it. -/
theorem nearestRank_eq (f : Format) {q : Rat} (positive : 0 < q) :
    f.nearestRank q = min f.infiniteRank
      ((f.unit q - f.leastExponent).toNat * f.binadeSize +
        roundHalfEven (q * 2 ^ (-f.unit q)).num.toNat (q * 2 ^ (-f.unit q)).den) := by
  unfold nearestRank unit
  rw [if_neg positive.ne', binaryExponent_eq_log positive]
  simp only [power_eq_zpow, Nat.cast_ofNat]

/-- The unit of a rank's significand is the one its magnitude is rounded in. -/
theorem unit_magnitude (f : Format) {rank : Nat} (positive : 0 < f.magnitude rank) :
    f.unit (f.magnitude rank) = f.exponent rank := by
  have value : f.magnitude rank = f.significand rank * 2 ^ f.exponent rank := by
    rw [magnitude, power_eq_zpow, Nat.cast_ofNat]
  have unitPos : (0 : Rat) < 2 ^ f.exponent rank := zpow_pos two_pos _
  -- The binade of a magnitude is the one of its significand, moved by the exponent of the unit.
  have binade (width : Nat) :
      (2 : Rat) ^ (width + f.exponent rank) = (2 ^ width : Nat) * 2 ^ f.exponent rank := by
    rw [zpow_add₀ two_ne_zero, zpow_natCast, Nat.cast_pow, Nat.cast_ofNat]
  have below (width : Nat) (fits : f.significand rank < 2 ^ width) :
      Int.log 2 (f.magnitude rank) < width + f.exponent rank := by
    rw [← lt_zpow_iff positive, binade width, value]
    exact mul_lt_mul_of_pos_right (Nat.cast_lt.2 fits) unitPos
  have size : f.binadeSize = 2 ^ f.fractionBits := rfl
  unfold unit
  by_cases low : rank < f.binadeSize
  · have significand : f.significand rank = rank := if_pos low
    have least : f.exponent rank = f.leastExponent := by
      rw [exponent, Nat.div_eq_of_lt low, Nat.zero_sub, Nat.cast_zero, add_zero]
    have under := below f.fractionBits (by omega)
    omega
  · have significand : f.significand rank = f.binadeSize + rank % f.binadeSize := if_neg low
    have place := Nat.mod_lt rank f.binadeSize_pos
    have least : f.leastExponent ≤ f.exponent rank := by
      rw [exponent]
      omega
    have under := below (f.fractionBits + 1) (by rw [Nat.pow_succ]; omega)
    have reached : f.fractionBits + f.exponent rank ≤ Int.log 2 (f.magnitude rank) := by
      rw [← zpow_le_iff positive, binade f.fractionBits, value]
      exact mul_le_mul_of_nonneg_right (Nat.cast_le.2 (by omega)) unitPos.le
    omega

/-- The place of a rank in its binade and the binades below it make up the rank. -/
theorem exponent_significand (f : Format) (rank : Nat) :
    (f.exponent rank - f.leastExponent).toNat * f.binadeSize + f.significand rank = rank := by
  have count : (f.exponent rank - f.leastExponent).toNat = rank / f.binadeSize - 1 := by
    rw [exponent]
    omega
  have split := Nat.div_add_mod' rank f.binadeSize
  unfold significand
  rw [count]
  by_cases low : rank < f.binadeSize
  · rw [if_pos low, Nat.div_eq_of_lt low, Nat.zero_sub, Nat.zero_mul, Nat.zero_add]
  · have binade : 1 ≤ rank / f.binadeSize := (Nat.one_le_div_iff f.binadeSize_pos).2 (by omega)
    have room := Nat.mul_le_mul_right f.binadeSize binade
    rw [if_neg low, Nat.sub_mul, Nat.one_mul]
    omega

/-- A magnitude rounds to its rank. -/
theorem nearestRank_magnitude (f : Format) {rank : Nat} (bounded : rank ≤ f.infiniteRank) :
    f.nearestRank (f.magnitude rank) = rank := by
  by_cases zero : rank = 0
  · rw [zero, magnitude_zero, nearestRank, if_pos rfl]
  · have positive : 0 < f.magnitude rank := by
      rw [← f.magnitude_zero]
      exact f.magnitude_strictMono (Nat.pos_of_ne_zero zero)
    have scaled : f.magnitude rank * 2 ^ (-f.exponent rank) = f.significand rank := by
      have nonzero : (2 : Rat) ^ f.exponent rank ≠ 0 := zpow_ne_zero _ two_ne_zero
      rw [magnitude, power_eq_zpow, Nat.cast_ofNat, zpow_neg, mul_assoc, mul_inv_cancel₀ nonzero,
        mul_one]
    rw [nearestRank_eq f positive, unit_magnitude f positive, scaled, roundHalfEven_natCast,
      exponent_significand, Nat.min_eq_right bounded]

/-- A positive rational has fewer units than two full binades, and a binade at least when its unit
is not the least one. -/
theorem scaled_bounds (f : Format) {q : Rat} (positive : 0 < q) :
    q * 2 ^ (-f.unit q) ≤ (2 * f.binadeSize : Nat) ∧
      (f.leastExponent < f.unit q → (f.binadeSize : Rat) ≤ q * 2 ^ (-f.unit q)) := by
  have unitPos : (0 : Rat) < 2 ^ (-f.unit q) := zpow_pos two_pos _
  have size : ((f.binadeSize : Nat) : Rat) = 2 ^ f.fractionBits := Nat.cast_pow 2 f.fractionBits
  constructor
  · have within : Int.log 2 q < f.unit q + f.fractionBits + 1 := by
      unfold unit
      omega
    calc q * 2 ^ (-f.unit q)
        ≤ 2 ^ (f.unit q + f.fractionBits + 1) * 2 ^ (-f.unit q) :=
          mul_le_mul_of_nonneg_right ((lt_zpow_iff positive).2 within).le unitPos.le
      _ = 2 ^ ((f.fractionBits : Int) + 1) := by
          rw [← zpow_add₀ two_ne_zero]
          congr 1
          ring
      _ = (2 * f.binadeSize : Nat) := by
          rw [zpow_add₀ two_ne_zero, zpow_natCast, zpow_one, Nat.cast_mul, size, Nat.cast_ofNat,
            mul_comm]
  · intro normal
    have binade : f.unit q + f.fractionBits = Int.log 2 q := by
      unfold unit at normal ⊢
      omega
    calc (f.binadeSize : Rat) = 2 ^ (f.unit q + f.fractionBits) * 2 ^ (-f.unit q) := by
          rw [← zpow_add₀ two_ne_zero, size, ← zpow_natCast]
          congr 1
          ring
      _ ≤ q * 2 ^ (-f.unit q) := by
          rw [binade]
          exact mul_le_mul_of_nonneg_right ((zpow_le_iff positive).2 le_rfl) unitPos.le

/-- A greater rational has no lower rank. -/
theorem nearestRank_mono (f : Format) {q r : Rat} (notBelow : 0 ≤ q) (le : q ≤ r) :
    f.nearestRank q ≤ f.nearestRank r := by
  by_cases zero : q = 0
  · rw [zero, nearestRank, if_pos rfl]
    exact Nat.zero_le _
  have positive : 0 < q := lt_of_le_of_ne notBelow (Ne.symm zero)
  have unitLe : f.unit q ≤ f.unit r := by
    have binades := Int.log_mono_right (b := 2) positive le
    unfold unit
    omega
  rw [f.nearestRank_eq positive, f.nearestRank_eq (positive.trans_le le)]
  refine min_le_min_left _ ?_
  have least : f.leastExponent ≤ f.unit q := le_max_left _ _
  have unitPos (e : Int) : (0 : Rat) < 2 ^ e := zpow_pos two_pos _
  by_cases same : f.unit q = f.unit r
  · rw [same]
    exact Nat.add_le_add_left (roundHalfEven_le (mul_pos positive (unitPos _)).le
      (mul_le_mul_of_nonneg_right le (unitPos _).le)) _
  · -- The binades between them make up for the units.
    have few : roundHalfEven (q * 2 ^ (-f.unit q)).num.toNat (q * 2 ^ (-f.unit q)).den ≤
        2 * f.binadeSize := by
      have rounded := roundHalfEven_le (mul_pos positive (unitPos _)).le
        (f.scaled_bounds positive).1
      rwa [roundHalfEven_natCast] at rounded
    have many : f.binadeSize ≤
        roundHalfEven (r * 2 ^ (-f.unit r)).num.toNat (r * 2 ^ (-f.unit r)).den :=
      le_roundHalfEven ((f.scaled_bounds (positive.trans_le le)).2 (by omega))
    have steps : (f.unit q - f.leastExponent).toNat + 1 ≤ (f.unit r - f.leastExponent).toNat := by
      omega
    calc _ ≤ (f.unit q - f.leastExponent).toNat * f.binadeSize + 2 * f.binadeSize :=
          Nat.add_le_add_left few _
      _ = ((f.unit q - f.leastExponent).toNat + 1) * f.binadeSize + f.binadeSize := by ring
      _ ≤ _ := Nat.add_le_add (Nat.mul_le_mul_right _ steps) many

/-- What lies below half the least positive magnitude rounds to zero. -/
theorem nearestRank_eq_zero (f : Format) {q : Rat} (notBelow : 0 ≤ q)
    (small : q < 2 ^ (f.leastExponent - 1)) : f.nearestRank q = 0 := by
  by_cases zero : q = 0
  · rw [nearestRank, if_pos zero]
  · have positive : 0 < q := lt_of_le_of_ne notBelow (Ne.symm zero)
    have binade := (lt_zpow_iff positive).1 small
    have least : f.unit q = f.leastExponent := by
      unfold unit
      omega
    have unitPos : (0 : Rat) < 2 ^ (-f.leastExponent) := zpow_pos two_pos _
    have half : q * 2 ^ (-f.leastExponent) < 1 / 2 := by
      calc q * 2 ^ (-f.leastExponent)
          < 2 ^ (f.leastExponent - 1) * 2 ^ (-f.leastExponent) :=
            mul_lt_mul_of_pos_right small unitPos
        _ = 2 ^ (-1 : Int) := by
          rw [← zpow_add₀ two_ne_zero]
          congr 1
          ring
        _ = 1 / 2 := by norm_num
    rw [nearestRank_eq f positive, least, sub_self, Int.toNat_zero, Nat.zero_mul, Nat.zero_add,
      roundHalfEven_eq_zero (mul_pos positive unitPos).le half, Nat.min_eq_right (Nat.zero_le _)]

/-- What reaches the power of two that a format can no longer hold rounds to infinity. -/
theorem nearestRank_eq_infiniteRank (f : Format) {q : Rat}
    (large : (2 : Rat) ^ (2 ^ (f.exponentBits - 1)) ≤ q) : f.nearestRank q = f.infiniteRank := by
  have positive : 0 < q := lt_of_lt_of_le (pow_pos two_pos _) large
  rw [nearestRank_eq f positive]
  apply Nat.min_eq_left
  rw [← zpow_natCast, zpow_le_iff positive] at large
  have least : f.leastExponent = 2 - (2 ^ (f.exponentBits - 1) : Nat) - f.fractionBits := rfl
  have bias := Nat.two_pow_pos (f.exponentBits - 1)
  have doubled : 2 ^ f.exponentBits ≤ 2 * 2 ^ (f.exponentBits - 1) := by
    rw [← Nat.pow_succ']
    exact Nat.pow_le_pow_right two_pos (by omega)
  generalize 2 ^ (f.exponentBits - 1) = half at large least bias doubled
  have normal : f.unit q = Int.log 2 q - f.fractionBits := by
    unfold unit
    omega
  have full : f.binadeSize ≤
      roundHalfEven (q * 2 ^ (-f.unit q)).num.toNat (q * 2 ^ (-f.unit q)).den := by
    apply le_roundHalfEven
    have unitPos : (0 : Rat) < 2 ^ (-f.unit q) := zpow_pos two_pos _
    calc (f.binadeSize : Rat) = 2 ^ Int.log 2 q * 2 ^ (-f.unit q) := by
          rw [← zpow_add₀ two_ne_zero, normal, neg_sub, add_sub_cancel, zpow_natCast]
          exact Nat.cast_pow 2 f.fractionBits
      _ ≤ q * 2 ^ (-f.unit q) :=
        mul_le_mul_of_nonneg_right ((zpow_le_iff positive).2 le_rfl) unitPos.le
  have binades : 2 ^ f.exponentBits - 1 ≤ (f.unit q - f.leastExponent).toNat + 1 := by
    omega
  calc f.infiniteRank = (2 ^ f.exponentBits - 1) * f.binadeSize := rfl
    _ ≤ ((f.unit q - f.leastExponent).toNat + 1) * f.binadeSize :=
      Nat.mul_le_mul_right f.binadeSize binades
    _ = (f.unit q - f.leastExponent).toNat * f.binadeSize + f.binadeSize := by ring
    _ ≤ _ := Nat.add_le_add_left full _

end Format

/-! ## Changing the format -/

namespace Binary

variable {f : Format}

/-- The rank that a rank has in another format. -/
def rankIn (f g : Format) (rank : Nat) : Nat :=
  if rank = f.infiniteRank then g.infiniteRank else g.nearestRank (f.magnitude rank)

/-- A greater rank has no lower rank in another format. -/
theorem rankIn_mono (f g : Format) {first second : Nat} (le : first ≤ second)
    (bounded : second ≤ f.infiniteRank) : rankIn f g first ≤ rankIn f g second := by
  unfold rankIn
  by_cases infinite : second = f.infiniteRank
  · rw [if_pos infinite]
    split
    · exact Nat.le_refl _
    · exact g.nearestRank_le_infiniteRank _
  · have notBelow : 0 ≤ f.magnitude first := by
      rw [← f.magnitude_zero]
      exact f.magnitude_strictMono.monotone (Nat.zero_le first)
    rw [if_neg infinite, if_neg (by omega)]
    exact g.nearestRank_mono notBelow (f.magnitude_strictMono.monotone le)

/-- Changing the format changes the rank and keeps the sign. -/
theorem place?_convert (g : Format) (negative : Bool) {rank : Nat}
    (bounded : rank ≤ f.infiniteRank) :
    ((signed negative rank bounded).convert g).place? =
      some (if negative then -(rankIn f g rank : Int) else rankIn f g rank) := by
  rw [convert, rankIn]
  by_cases infinite : rank = f.infiniteRank
  · rw [if_pos infinite, if_pos infinite]
    rfl
  · rw [if_neg infinite, if_neg infinite]
    rfl

/-- Changing the format of numbers does not turn their order round. -/
theorem atMost_convert (g : Format) (finite : 0 < f.infiniteRank) {x y : Binary f}
    (le : x.atMost y = true) : (x.convert g).atMost (y.convert g) = true := by
  cases x with
  | nan => contradiction
  | signed negative rank bounded =>
    cases y with
    | nan => cases negative <;> contradiction
    | signed otherNegative other otherBounded =>
      rw [atMost, place?_convert, place?_convert]
      simp only [atMost, place?, decide_eq_true_eq] at le ⊢
      have zero : rankIn f g 0 = 0 := by
        rw [rankIn, if_neg finite.ne, f.magnitude_zero, Format.nearestRank, if_pos rfl]
      cases negative <;> cases otherNegative <;>
        simp only [Bool.false_eq_true, if_false, if_true] at le ⊢
      · have ranks := rankIn_mono f g (show rank ≤ other by omega) otherBounded
        omega
      · -- Only the zeros lie on both sides of zero.
        have none : rank = 0 := by omega
        have otherNone : other = 0 := by omega
        rw [none, otherNone, zero]
        omega
      · omega
      · have ranks := rankIn_mono f g (show other ≤ rank by omega) bounded
        omega

end Binary

/-! ## Decimals -/

namespace Decimal

/-- The first digit of a decimal tells the power of ten that its value reaches. -/
theorem zpow_le_value {d : Decimal} (some : d.digits ≠ 0) :
    (10 : Rat) ^ ((digitText d.digits).length + d.exponent - 1) ≤ d.value := by
  have written : 0 < (digitText d.digits).length := Nat.length_toDigits_pos
  have reached : 10 ^ ((digitText d.digits).length - 1) ≤ d.digits := by
    by_cases single : (digitText d.digits).length = 1
    · rw [single]
      exact Nat.pos_of_ne_zero some
    · have shorter : ¬(digitText d.digits).length ≤ (digitText d.digits).length - 1 := by omega
      rw [digitText, Nat.length_toDigits_le_iff (by decide) (by rw [digitText] at *; omega),
        Nat.not_lt] at shorter
      exact shorter
  have tenPos : (0 : Rat) < 10 ^ d.exponent := zpow_pos (by norm_num) _
  rw [value, power_eq_zpow, Nat.cast_ofNat]
  calc (10 : Rat) ^ ((digitText d.digits).length + d.exponent - 1)
      = (10 ^ ((digitText d.digits).length - 1) : Nat) * 10 ^ d.exponent := by
        rw [Nat.cast_pow, ← zpow_natCast, Nat.cast_ofNat, ← zpow_add₀ (by norm_num)]
        congr 1
        omega
    _ ≤ d.digits * 10 ^ d.exponent :=
      mul_le_mul_of_nonneg_right (Nat.cast_le.2 reached) tenPos.le

/-- The first digit of a decimal tells the power of ten that its value stays below. -/
theorem value_lt_zpow (d : Decimal) :
    d.value < (10 : Rat) ^ ((digitText d.digits).length + d.exponent) := by
  have written : 0 < (digitText d.digits).length := Nat.length_toDigits_pos
  have below : d.digits < 10 ^ (digitText d.digits).length :=
    (Nat.length_toDigits_le_iff (by decide) written).1 le_rfl
  have tenPos : (0 : Rat) < 10 ^ d.exponent := zpow_pos (by norm_num) _
  rw [value, power_eq_zpow, Nat.cast_ofNat, zpow_add₀ (by norm_num), zpow_natCast]
  exact mul_lt_mul_of_pos_right (by exact_mod_cast below) tenPos

end Decimal

/-- Decimals outside the range of a format are decided by their size as rounding decides them. -/
theorem Format.rankOfDecimal_eq (f : Format) (d : Decimal) :
    f.rankOfDecimal d = f.nearestRank d.value := by
  unfold rankOfDecimal
  dsimp only
  split
  · rename_i zero
    rw [Decimal.value, zero, Nat.cast_zero, zero_mul, nearestRank, if_pos rfl]
  · rename_i some
    split
    · rename_i huge
      refine (f.nearestRank_eq_infiniteRank ?_).symm
      calc (2 : Rat) ^ (2 ^ (f.exponentBits - 1))
          ≤ 10 ^ (2 ^ (f.exponentBits - 1)) := pow_le_pow_left₀ (by norm_num) (by norm_num) _
        _ = 10 ^ ((2 ^ (f.exponentBits - 1) : Nat) : Int) := (zpow_natCast _ _).symm
        _ ≤ 10 ^ ((Decimal.digitText d.digits).length + d.exponent - 1) := by
          refine zpow_le_zpow_right₀ (by norm_num) ?_
          have bound : Nat.pow 2 (f.exponentBits - 1) = 2 ^ (f.exponentBits - 1) := rfl
          omega
        _ ≤ d.value := d.zpow_le_value some
    · split
      · rename_i tiny
        have positive : 0 < d.value := lt_of_lt_of_le (zpow_pos (by norm_num) _)
          (d.zpow_le_value some)
        refine (f.nearestRank_eq_zero positive.le ?_).symm
        have least : f.leastExponent = 2 - (2 ^ (f.exponentBits - 1) : Nat) - f.fractionBits := rfl
        have bias := Nat.two_pow_pos (f.exponentBits - 1)
        obtain ⟨k, negated⟩ := Int.eq_ofNat_of_zero_le
          (show 0 ≤ -((Decimal.digitText d.digits).length + d.exponent) by omega)
        have leading : (Decimal.digitText d.digits).length + d.exponent = -k := by omega
        calc d.value < 10 ^ ((Decimal.digitText d.digits).length + d.exponent) := d.value_lt_zpow
          _ = (10 ^ k)⁻¹ := by rw [leading, zpow_neg, zpow_natCast]
          _ ≤ (2 ^ k)⁻¹ := inv_anti₀ (pow_pos two_pos k)
            (pow_le_pow_left₀ (by norm_num) (by norm_num) k)
          _ = 2 ^ (-(k : Int)) := by rw [zpow_neg, zpow_natCast]
          _ ≤ 2 ^ (f.leastExponent - 1) := by
            refine zpow_le_zpow_right₀ (by norm_num) ?_
            omega
      · rfl

end ViewLayout.Number
