import Mathlib
import ViewLayout.Proofs.Number.Rounding
import ViewLayout.Proofs.Token.Places

/-!
# Numbers read back from their texts

The text of a finite number without a minus sign is digits with at most one point among them, and
reading it gives the number again. The decimal that is written rounds to the number: a grid point
is only taken when it does, and the search for one ends on a grid that holds the number itself.
-/

namespace ViewLayout.Number

namespace Format

/-! ## The decimal that is written -/

/-- A magnitude is a point of the finest grid on which one is looked for. -/
theorem exists_magnitude_eq (f : Format) (rank : Nat) :
    ∃ n : Nat, f.magnitude rank = n * (10 : Rat) ^ min (f.exponent rank) 0 := by
  have value : f.magnitude rank = f.significand rank * 2 ^ f.exponent rank := by
    rw [magnitude, power_eq_zpow, Nat.cast_ofNat]
  by_cases natural : 0 ≤ f.exponent rank
  · obtain ⟨k, exponent⟩ := Int.eq_ofNat_of_zero_le natural
    refine ⟨f.significand rank * 2 ^ k, ?_⟩
    rw [value, min_eq_right natural, zpow_zero, mul_one, exponent, zpow_natCast, Nat.cast_mul,
      Nat.cast_pow, Nat.cast_ofNat]
  · obtain ⟨k, negated⟩ := Int.eq_ofNat_of_zero_le (show 0 ≤ -f.exponent rank by omega)
    have exponent : f.exponent rank = -k := by omega
    -- A power of two that divides is a multiple of the same power of ten.
    have tenths : (2 : Rat) ^ (-(k : Int)) = 5 ^ k * 10 ^ (-(k : Int)) := by
      have base : (10 : Rat) = 5 * 2 := by norm_num
      rw [base, mul_zpow, ← zpow_natCast, ← mul_assoc, ← zpow_add₀ (by norm_num),
        add_neg_cancel, zpow_zero, one_mul]
    refine ⟨f.significand rank * 5 ^ k, ?_⟩
    rw [value, min_eq_left (by omega), exponent, tenths, Nat.cast_mul, Nat.cast_pow,
      Nat.cast_ofNat, mul_assoc]

/-- A grid point that is taken for a rank rounds to it. -/
theorem nearestRank_of_gridPoint? {f : Format} {rank : Nat} {exponent : Int} {d : Decimal}
    (taken : f.gridPoint? rank exponent = some d) : f.nearestRank d.value = rank := by
  unfold gridPoint? at taken
  dsimp only at taken
  split at taken
  · rename_i lower
    obtain rfl := Option.some.inj taken
    rw [Bool.and_eq_true, decide_eq_true_eq] at lower
    exact lower.1
  · split at taken
    · rename_i upper
      obtain rfl := Option.some.inj taken
      exact of_decide_eq_true upper
    · contradiction

/-- The decimal found for a rank rounds to it, when the last grid looked at holds the magnitude. -/
theorem nearestRank_shortestFrom {f : Format} {rank : Nat} (bounded : rank ≤ f.infiniteRank)
    {steps : Nat} {exponent : Int}
    (held : ∃ n : Nat, f.magnitude rank = n * (10 : Rat) ^ (exponent - steps)) :
    f.nearestRank (f.shortestFrom rank steps exponent).value = rank := by
  induction steps generalizing exponent with
  | zero =>
    obtain ⟨n, value⟩ := held
    rw [Nat.cast_zero, sub_zero] at value
    have cell : f.magnitude rank * power 10 (-exponent) = n := by
      rw [value, power_eq_zpow, Nat.cast_ofNat, mul_assoc, ← zpow_add₀ (by norm_num),
        add_neg_cancel, zpow_zero, mul_one]
    rw [shortestFrom, cell, Rat.num_natCast, Int.toNat_natCast, Decimal.value, power_eq_zpow,
      Nat.cast_ofNat, ← value, nearestRank_magnitude f bounded]
  | succ steps ih =>
    rw [shortestFrom]
    split
    · rename_i taken
      exact nearestRank_of_gridPoint? taken
    · apply ih
      have last : exponent - (steps + 1 : Nat) = exponent - 1 - steps := by
        push_cast
        ring
      rw [← last]
      exact held

/-- The shortest decimal of a rank above zero rounds to it. -/
theorem nearestRank_shortest {f : Format} {rank : Nat} (positive : 0 < rank)
    (bounded : rank ≤ f.infiniteRank) : f.nearestRank (f.shortest rank).value = rank := by
  have above : 0 < f.magnitude rank := by
    rw [← f.magnitude_zero]
    exact f.magnitude_strictMono positive
  have reached : f.exponent rank ≤ binaryExponent (f.magnitude rank) := by
    rw [binaryExponent_eq_log above, ← zpow_le_iff above, magnitude, power_eq_zpow, Nat.cast_ofNat]
    have whole : 1 ≤ f.significand rank := by
      unfold significand
      have size := f.binadeSize_pos
      split <;> omega
    exact le_mul_of_one_le_left (zpow_pos two_pos _).le (by exact_mod_cast whole)
  unfold shortest
  dsimp only
  apply nearestRank_shortestFrom bounded
  have finest : binaryExponent (f.magnitude rank) * 3 / 10 + 3 -
      (binaryExponent (f.magnitude rank) * 3 / 10 + 3 - min (f.exponent rank) 0).toNat =
        min (f.exponent rank) 0 := by omega
  rw [finest]
  exact f.exists_magnitude_eq rank

end Format

/-! ## Digits -/

/-- The value of a run of digits is the one of the library. -/
theorem digitsValue_eq (digits : List Char) : digitsValue digits = Nat.ofDigitChars 10 digits 0 := by
  rw [digitsValue, Nat.ofDigitChars_eq_foldl]
  congr 1
  funext value c
  rw [Nat.mul_comm]

/-- The digits of a number are digits. -/
theorem Decimal.isDigit_of_mem_digitText {n : Nat} {c : Char} (present : c ∈ digitText n) :
    c.isDigit :=
  Nat.isDigit_of_mem_toDigits (by decide) (by decide) present

/-- Zeros on the left do not change the value of digits. -/
theorem Decimal.digitsValue_padLeft (length n : Nat) :
    digitsValue (padLeft length (digitText n)) = n := by
  rw [digitsValue_eq, padLeft, Nat.ofDigitChars_append, Nat.ofDigitChars_replicate_zero,
    Nat.mul_zero, digitText, Nat.ofDigitChars_ten_toDigits]

/-- A positional text is digits with at most one point among them, and the digits count the value
in units of the last of them. -/
theorem Decimal.exists_plain (d : Decimal) :
    ∃ whole fraction : List Char, whole ≠ [] ∧ (∀ c ∈ whole ++ fraction, c.isDigit) ∧
      (d.plain = whole ∧ fraction = [] ∨ d.plain = whole ++ '.' :: fraction) ∧
      (⟨digitsValue (whole ++ fraction), -fraction.length⟩ : Decimal).value = d.value := by
  have zero {count : Nat} {c : Char} (present : c ∈ List.replicate count '0') : c.isDigit := by
    obtain ⟨-, rfl⟩ := List.mem_replicate.1 present
    rfl
  unfold plain
  by_cases natural : 0 ≤ d.exponent
  · obtain ⟨k, exponent⟩ := Int.eq_ofNat_of_zero_le natural
    refine ⟨digitText d.digits ++ List.replicate k '0', [], ?_, ?_, .inl ⟨?_, rfl⟩, ?_⟩
    · exact List.append_ne_nil_of_left_ne_nil Nat.toDigits_ne_nil _
    · intro c present
      rw [List.append_nil] at present
      exact (List.mem_append.1 present).elim isDigit_of_mem_digitText zero
    · rw [if_pos natural, exponent, Int.toNat_natCast]
    · rw [List.append_nil, digitsValue_eq, Nat.ofDigitChars_append, digitText,
        Nat.ofDigitChars_ten_toDigits, Nat.ofDigitChars_replicate_zero]
      simp only [value, power_eq_zpow, exponent, List.length_nil, zpow_natCast]
      push_cast
      ring
  · obtain ⟨places, negated⟩ := Int.eq_ofNat_of_zero_le (show 0 ≤ -d.exponent by omega)
    have exponent : d.exponent = -places := by omega
    have text : ∀ c ∈ padLeft (places + 1) (digitText d.digits), c.isDigit := fun c present =>
      (List.mem_append.1 present).elim zero isDigit_of_mem_digitText
    have long : places + 1 ≤ (padLeft (places + 1) (digitText d.digits)).length := by
      rw [padLeft, List.length_append, List.length_replicate]
      omega
    have value := digitsValue_padLeft (places + 1) d.digits
    rw [if_neg natural, negated, Int.toNat_natCast]
    dsimp only
    generalize padLeft (places + 1) (digitText d.digits) = digits at text long value
    refine ⟨digits.take (digits.length - places), digits.drop (digits.length - places), ?_, ?_,
      .inr rfl, ?_⟩
    · apply List.ne_nil_of_length_pos
      rw [List.length_take]
      omega
    · rw [List.take_append_drop]
      exact text
    · have fraction : (digits.drop (digits.length - places)).length = places := by
        rw [List.length_drop]
        omega
      rw [List.take_append_drop, value, fraction, ← exponent]

/-- A positional text is a number token. -/
theorem Decimal.wellSpelled_plain (d : Decimal) :
    Token.WellSpelled (.number (String.ofList d.plain)) := by
  obtain ⟨whole, fraction, written, digits, spelled, -⟩ := d.exists_plain
  rw [Token.WellSpelled, String.toList_ofList]
  refine ⟨whole, written, fun c present => digits c (List.mem_append_left _ present), ?_⟩
  rcases spelled with ⟨plain, -⟩ | plain
  · exact .inl plain
  · exact .inr ⟨fraction, fun c present => digits c (List.mem_append_right _ present), plain⟩

/-! ## Reading -/

/-- A digit is no letter that has a lower case. -/
theorem toLower_of_isDigit {c : Char} (digit : c.isDigit) : c.toLower = c := by
  have small : c.val ≤ 57 := by
    change (decide (48 ≤ c.val) && decide (c.val ≤ 57)) = true at digit
    rw [Bool.and_eq_true, decide_eq_true_eq, decide_eq_true_eq] at digit
    exact digit.2
  unfold Char.toLower
  rw [dif_neg]
  rintro ⟨letter, -⟩
  exact absurd (UInt32.le_trans letter small) (by decide)

/-- The digits before anything that is no digit are taken. -/
theorem spanDigits_append {digits rest : List Char} (all : ∀ c ∈ digits, c.isDigit)
    (ends : ∀ c ∈ rest.head?, c.isDigit = false) : spanDigits (digits ++ rest) = (digits, rest) := by
  have front := Text.takeWhile_append_of_head? all ends
  have parts := List.takeWhile_append_dropWhile (p := Char.isDigit) (l := digits ++ rest)
  rw [front] at parts
  rw [spanDigits, List.span_eq_takeWhile_dropWhile, front, List.append_cancel_left parts]

/-- Digits alone are read as a decimal. -/
theorem readDecimal?_whole {whole : List Char} (written : whole ≠ [])
    (digits : ∀ c ∈ whole, c.isDigit) :
    readDecimal? whole = some ⟨digitsValue whole, 0⟩ := by
  have taken : spanDigits (whole ++ []) = (whole, []) :=
    spanDigits_append digits fun c found => nomatch found
  rw [List.append_nil] at taken
  rw [readDecimal?, taken]
  simp [written, readExponent?]

/-- Digits with a point after the first of them are read as a decimal. -/
theorem readDecimal?_point {whole fraction : List Char} (written : whole ≠ [])
    (digits : ∀ c ∈ whole ++ fraction, c.isDigit) :
    readDecimal? (whole ++ '.' :: fraction) =
      some ⟨digitsValue (whole ++ fraction), -fraction.length⟩ := by
  have before : ∀ c ∈ whole, c.isDigit := fun c present =>
    digits c (List.mem_append_left _ present)
  have after : ∀ c ∈ fraction, c.isDigit := fun c present =>
    digits c (List.mem_append_right _ present)
  have point : ∀ c ∈ ('.' :: fraction).head?, c.isDigit = false := by
    intro c found
    obtain rfl := Option.some.inj found
    rfl
  have last : spanDigits (fraction ++ []) = (fraction, []) :=
    spanDigits_append after fun c found => nomatch found
  rw [List.append_nil] at last
  rw [readDecimal?, spanDigits_append before point]
  simp [written, last, readExponent?]

/-- A positional text is read as a decimal of its value. -/
theorem exists_readDecimal?_plain (d : Decimal) :
    ∃ read, readDecimal? d.plain = some read ∧ read.value = d.value := by
  obtain ⟨whole, fraction, written, digits, spelled, value⟩ := d.exists_plain
  rcases spelled with ⟨plain, rfl⟩ | plain
  · rw [List.append_nil] at digits value
    rw [plain]
    exact ⟨_, readDecimal?_whole written digits, value⟩
  · rw [plain]
    exact ⟨_, readDecimal?_point written digits, value⟩

namespace Binary

variable {f : Format}

/-- A text of a digit and what follows, after its sign, is read as a decimal. -/
theorem read?_of_splitSign {text : List Char} {negative : Bool} {c : Char} {rest : List Char}
    (split : splitSign text = (negative, c :: rest)) (digit : c.isDigit) :
    (read? (String.ofList text) : Option (Binary f)) =
      (readDecimal? (c :: rest)).map (ofDecimal negative) := by
  -- A digit stays a digit in lower case, so it begins none of the words.
  have noWord (word : String) (letter : Char) (begins : word.toList.head? = some letter)
      (noDigit : letter.isDigit = false) :
      String.ofList ((c :: rest).map Char.toLower) ≠ word := by
    rintro rfl
    rw [String.toList_ofList] at begins
    have lower : c.toLower = letter := Option.some.inj begins
    rw [toLower_of_isDigit digit] at lower
    rw [lower, noDigit] at digit
    contradiction
  unfold read?
  rw [String.toList_ofList, split]
  dsimp only
  rw [if_neg, if_neg]
  · exact noWord "nan" 'n' rfl rfl
  · rintro (infinity | infinity)
    · exact noWord "inf" 'i' rfl rfl infinity
    · exact noWord "infinity" 'i' rfl rfl infinity

/-- A text that starts with a digit is read as a decimal without a sign. -/
theorem read?_of_isDigit {c : Char} {rest : List Char} (digit : c.isDigit) :
    (read? (String.ofList (c :: rest)) : Option (Binary f)) =
      (readDecimal? (c :: rest)).map (ofDecimal false) := by
  refine read?_of_splitSign ?_ digit
  unfold splitSign
  split
  · rename_i later same
    obtain ⟨rfl, -⟩ := List.cons.inj same
    contradiction
  · rename_i later same
    obtain ⟨rfl, -⟩ := List.cons.inj same
    contradiction
  · rfl

/-- A number token is read as a decimal. -/
theorem exists_readDecimal?_of_number {literal : String}
    (spelled : Token.WellSpelled (.number literal)) :
    ∃ decimal, readDecimal? literal.toList = some decimal := by
  obtain ⟨whole, written, digits, characters⟩ := spelled
  rcases characters with characters | ⟨fraction, later, characters⟩
  · rw [characters]
    exact ⟨_, readDecimal?_whole written digits⟩
  · rw [characters]
    exact ⟨_, readDecimal?_point written fun c present =>
      (List.mem_append.1 present).elim (digits c) (later c)⟩

/-- A number token is read as a number, and so is one with a minus sign in front. -/
theorem exists_read?_of_number {literal : String}
    (spelled : Token.WellSpelled (.number literal)) :
    (∃ number : Binary f, read? literal = some number) ∧
      ∃ number : Binary f, read? ("-" ++ literal) = some number := by
  obtain ⟨decimal, read⟩ := exists_readDecimal?_of_number spelled
  obtain ⟨c, rest, characters, digit⟩ := Token.exists_toList_of_number spelled
  rw [characters] at read
  have unsigned : literal = String.ofList (c :: rest) := by
    rw [← characters, String.ofList_toList]
  have signed : "-" ++ literal = String.ofList ('-' :: c :: rest) := by
    rw [← characters, String.ofList_cons, String.ofList_toList]
    rfl
  constructor
  · rw [unsigned, read?_of_isDigit digit, read]
    exact ⟨_, rfl⟩
  · rw [signed, read?_of_splitSign rfl digit, read]
    exact ⟨_, rfl⟩

/-- The text of a magnitude is that of a decimal that rounds to it. -/
theorem exists_magnitudeText_eq {rank : Nat} (finite : rank < f.infiniteRank) :
    ∃ d : Decimal, magnitudeText f rank = d.plain ∧ f.nearestRank d.value = rank := by
  unfold magnitudeText
  by_cases zero : rank = 0
  · refine ⟨⟨0, 0⟩, if_pos zero, ?_⟩
    rw [Decimal.value, Nat.cast_zero, zero_mul, Format.nearestRank, if_pos rfl, zero]
  · refine ⟨f.shortest rank, ?_, Format.nearestRank_shortest (Nat.pos_of_ne_zero zero) finite.le⟩
    rw [if_neg zero, if_neg finite.ne]

/-- The text of a finite number without a minus sign is that of a decimal that rounds to it. -/
theorem exists_render_eq {rank : Nat} (bounded : rank ≤ f.infiniteRank)
    (finite : (signed false rank bounded : Binary f).isFinite = true) :
    ∃ d : Decimal, (signed false rank bounded : Binary f).render = String.ofList d.plain ∧
      f.nearestRank d.value = rank := by
  have inside : rank < f.infiniteRank := lt_of_le_of_ne bounded (of_decide_eq_true finite)
  obtain ⟨d, text, nearest⟩ := exists_magnitudeText_eq inside
  refine ⟨d, ?_, nearest⟩
  rw [render, text]
  rfl

/-- The text of a finite number without a minus sign is a number token. -/
theorem wellSpelled_render {rank : Nat} (bounded : rank ≤ f.infiniteRank)
    (finite : (signed false rank bounded : Binary f).isFinite = true) :
    Token.WellSpelled (.number (signed false rank bounded : Binary f).render) := by
  obtain ⟨d, rendered, -⟩ := exists_render_eq bounded finite
  rw [rendered]
  exact d.wellSpelled_plain

/-- The text of a finite number without a minus sign is read back as the number. -/
theorem read?_render {rank : Nat} (bounded : rank ≤ f.infiniteRank)
    (finite : (signed false rank bounded : Binary f).isFinite = true) :
    read? (signed false rank bounded : Binary f).render = some (signed false rank bounded) := by
  obtain ⟨d, rendered, nearest⟩ := exists_render_eq bounded finite
  obtain ⟨read, decimal, value⟩ := exists_readDecimal?_plain d
  obtain ⟨c, rest, spelled, digit⟩ := Token.exists_toList_of_number d.wellSpelled_plain
  rw [String.toList_ofList] at spelled
  have number : f.rankOfDecimal read = rank := by rw [f.rankOfDecimal_eq, value, nearest]
  rw [rendered, spelled, read?_of_isDigit digit, ← spelled, decimal, Option.map_some, ofDecimal]
  simp only [number]

end Binary

end ViewLayout.Number
