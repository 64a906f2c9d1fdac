import Mathlib.Data.String.Basic

/-!
# The order of texts and of their bytes

Keys are ordered by their characters, and so by the numbers of these. UTF-8 keeps that order: where
the codes of two characters first differ, the lower character has the lower byte. So texts are in
the order of their characters exactly when they are in the order of their bytes.
-/

namespace ViewLayout.Text

/-- The bytes of a text. -/
def bytes (text : String) : List UInt8 := text.toUTF8.data.toList

/-- The bytes of a text are those of its characters one after another. -/
theorem bytes_eq (text : String) : bytes text = text.toList.flatMap String.utf8EncodeChar := by
  have encoded : text.toList.utf8Encode = text.toByteArray := String.utf8Encode_toList
  rw [bytes, String.toUTF8_eq_toByteArray, ← encoded, List.utf8Encode]
  simp

/-- Bytes are ordered by their numbers. -/
theorem ofNat_lt_ofNat_iff {m n : Nat} (left : m < 256) (right : n < 256) :
    UInt8.ofNat m < UInt8.ofNat n ↔ m < n :=
  UInt8.ofNat_lt_iff_lt left right

/-- Bytes are equal when their numbers are. -/
theorem ofNat_eq_ofNat_iff {m n : Nat} (left : m < 256) (right : n < 256) :
    UInt8.ofNat m = UInt8.ofNat n ↔ m = n := by
  rw [← UInt8.toNat_inj, UInt8.toNat_ofNat', UInt8.toNat_ofNat', Nat.mod_eq_of_lt left,
    Nat.mod_eq_of_lt right]

/-- The code of a lower character is lower, whatever follows the two. -/
theorem encode_lt {c d : Char} (below : c < d) (first second : List UInt8) :
    String.utf8EncodeChar c ++ first < String.utf8EncodeChar d ++ second := by
  have order : c.val.toNat < d.val.toNat := below
  have bound : d.val.toNat < 0x110000 := by
    rcases d.valid with low | high
    · exact Nat.lt_trans low (by decide)
    · exact high.2
  unfold String.utf8EncodeChar
  generalize c.val.toNat = m at order
  generalize d.val.toNat = n at order bound
  have twelve (v : Nat) : v / 4096 = v / 64 / 64 := by omega
  have eighteen (v : Nat) : v / 262144 = v / 64 / 64 / 64 := by omega
  have step {v w : Nat} (lower : v < w) : v / 64 < w / 64 ∨ v / 64 = w / 64 ∧ v % 64 < w % 64 := by
    omega
  -- Codes of two lengths differ in the first byte, codes of one length in some byte.
  dsimp only
  split_ifs <;>
    simp (disch := omega) only [List.cons_append, List.nil_append, List.cons_lt_cons_iff,
      ofNat_lt_ofNat_iff, ofNat_eq_ofNat_iff] <;>
    try omega
  -- Two codes of four bytes are left.
  rw [twelve, twelve, eighteen, eighteen]
  rcases step order with six | six
  · rcases step six with next | next
    · have := step next
      omega
    · omega
  · omega

/-- The bytes of lower characters are lower. -/
theorem flatMap_encode_lt {first second : List Char} (below : first < second) :
    first.flatMap String.utf8EncodeChar < second.flatMap String.utf8EncodeChar := by
  induction first generalizing second with
  | nil =>
    cases second with
    | nil => contradiction
    | cons d second =>
      have coded : String.utf8EncodeChar d ≠ [] := String.utf8EncodeChar_ne_nil
      obtain ⟨byte, rest, code⟩ := List.exists_cons_of_ne_nil coded
      rw [List.flatMap_cons, code]
      exact List.nil_lt_cons _ _
  | cons c first ih =>
    cases second with
    | nil => contradiction
    | cons d second =>
      rw [List.flatMap_cons, List.flatMap_cons]
      rcases List.cons_lt_cons_iff.1 below with lower | ⟨rfl, later⟩
      · exact encode_lt lower _ _
      · exact List.append_left_lt (ih later)

/-- Texts are ordered as their bytes are. -/
theorem bytes_lt_iff {first second : String} : bytes first < bytes second ↔ first < second := by
  have forward {first second : String} (below : first < second) : bytes first < bytes second := by
    rw [bytes_eq, bytes_eq]
    exact flatMap_encode_lt (String.lt_iff_toList_lt.1 below)
  refine ⟨fun below => ?_, forward⟩
  rcases lt_trichotomy first second with lower | rfl | higher
  · exact lower
  · exact absurd below (List.lt_irrefl _)
  · exact absurd below (List.lt_asymm (forward higher))

end ViewLayout.Text
