import Mathlib.Order.Bounds.Defs
import Mathlib.Order.MinMax
import ViewLayout.EditDistance

/-!
# The edit distance of two texts

An edit inserts, deletes or replaces one character anywhere in a text, and texts are lists of
characters here. The distance of two texts is defined by recursion on their first characters. It is
the least number of edits that turn one text into the other, whatever these edits are and in
whatever order they are made, because a single edit brings no text nearer to a third by more than
one.

The computation compares the last characters of prefixes instead of first characters, and keeps two
rows of cells that it writes over in turn. Its invariant says of every cell which prefixes it
belongs to, from which follow the value of the last cell and that no access falls outside of a row.
-/

namespace ViewLayout.EditDistance

/-! ## Edits -/

/-- A text becomes another by inserting, deleting or replacing one character. -/
inductive Edit : List Char → List Char → Prop where
  | insert (before after : List Char) (c : Char) : Edit (before ++ after) (before ++ c :: after)
  | delete (before after : List Char) (c : Char) : Edit (before ++ c :: after) (before ++ after)
  | replace (before after : List Char) (c d : Char) :
      Edit (before ++ c :: after) (before ++ d :: after)

/-- A text becomes another by a number of edits, one after another. -/
inductive Edits : Nat → List Char → List Char → Prop where
  | done (text : List Char) : Edits 0 text text
  | step {count : Nat} {source middle target : List Char} (edit : Edit source middle)
      (later : Edits count middle target) : Edits (count + 1) source target

/-- An edit can as well be made behind one more character. -/
theorem Edit.cons {source target : List Char} (edit : Edit source target) (c : Char) :
    Edit (c :: source) (c :: target) := by
  cases edit with
  | insert before after d => exact .insert (c :: before) after d
  | delete before after d => exact .delete (c :: before) after d
  | replace before after d e => exact .replace (c :: before) after d e

/-- Edits can as well be made behind one more character. -/
theorem Edits.cons {count : Nat} {source target : List Char} (edits : Edits count source target)
    (c : Char) : Edits count (c :: source) (c :: target) := by
  induction edits with
  | done text => exact .done (c :: text)
  | step edit _ ih => exact .step (edit.cons c) ih

/-- An edit can be made with the texts read backwards. -/
theorem Edit.reverse {source target : List Char} (edit : Edit source target) :
    Edit source.reverse target.reverse := by
  cases edit with
  | insert before after c =>
    simpa using Edit.insert after.reverse before.reverse c
  | delete before after c =>
    simpa using Edit.delete after.reverse before.reverse c
  | replace before after c d =>
    simpa using Edit.replace after.reverse before.reverse c d

/-- Edits can be made with the texts read backwards. -/
theorem Edits.reverse {count : Nat} {source target : List Char}
    (edits : Edits count source target) : Edits count source.reverse target.reverse := by
  induction edits with
  | done text => exact .done text.reverse
  | step edit _ ih => exact .step edit.reverse ih

/-! ## The distance by recursion -/

/-- What it costs to put the second of two characters in the place of the first. -/
def replacing (c d : Char) : Nat := if c = d then 0 else 1

/-- The distance of two texts, by recursion on their first characters: the first character of the
first text is deleted, that of the second is inserted, or the one replaces the other. -/
def distance : List Char → List Char → Nat
  | [], target => target.length
  | source, [] => source.length
  | c :: source, d :: target =>
    min (min (distance source (d :: target) + 1) (distance (c :: source) target + 1))
      (distance source target + replacing c d)
  termination_by source target => source.length + target.length

@[simp]
theorem distance_nil_left (target : List Char) : distance [] target = target.length := by
  simp [distance]

@[simp]
theorem distance_nil_right (source : List Char) : distance source [] = source.length := by
  cases source <;> simp [distance]

theorem distance_cons (c d : Char) (source target : List Char) :
    distance (c :: source) (d :: target) =
      min (min (distance source (d :: target) + 1) (distance (c :: source) target + 1))
        (distance source target + replacing c d) := by
  rw [distance]

theorem replacing_le_one (c d : Char) : replacing c d ≤ 1 := by
  unfold replacing
  split <;> decide

/-- Edits can as well be made behind a character that is replaced by another. -/
theorem Edits.replacing {count : Nat} {source target : List Char}
    (edits : Edits count source target) (c d : Char) :
    Edits (count + replacing c d) (c :: source) (d :: target) := by
  unfold EditDistance.replacing
  split
  · rename_i same
    rw [same]
    exact edits.cons d
  · exact .step (.replace [] source c d) (edits.cons d)

/-- Of two ways to edit a text, the shorter one is a way. -/
theorem Edits.min {count other : Nat} {source target : List Char}
    (edits : Edits count source target) (others : Edits other source target) :
    Edits (min count other) source target := by
  rcases min_choice count other with here | there
  · rwa [here]
  · rwa [there]

/-- The distance is reached by that many edits. -/
theorem edits_distance (source target : List Char) :
    Edits (distance source target) source target := by
  induction source generalizing target with
  | nil =>
    rw [distance_nil_left]
    induction target with
    | nil => exact .done []
    | cons d target ih => exact .step (.insert [] [] d) (ih.cons d)
  | cons c source ihSource =>
    induction target with
    | nil =>
      have rest := ihSource []
      rw [distance_nil_right] at rest ⊢
      exact .step (.delete [] source c) rest
    | cons d target ihTarget =>
      have deleted : Edits (distance source (d :: target) + 1) (c :: source) (d :: target) :=
        .step (.delete [] source c) (ihSource (d :: target))
      have inserted : Edits (distance (c :: source) target + 1) (c :: source) (d :: target) :=
        .step (.insert [] (c :: source) d) (ihTarget.cons d)
      have replaced := (ihSource target).replacing c d
      rw [distance_cons]
      exact (deleted.min inserted).min replaced

/-! ## A single edit changes no distance by more than one -/

/-- A text is no further than one step away from another: no distance from the first exceeds that
from the second by more than one. -/
def Near (source middle : List Char) : Prop :=
  ∀ target, distance source target ≤ distance middle target + 1

/-- Deleting the first character is one step. -/
theorem near_of_delete (c : Char) (source : List Char) : Near (c :: source) source := by
  intro target
  cases target with
  | nil => simp
  | cons d target =>
    rw [distance_cons]
    omega

/-- A character more at the end of a distance costs one step. -/
theorem distance_cons_right_le (source : List Char) (d : Char) (target : List Char) :
    distance source (d :: target) ≤ distance source target + 1 := by
  cases source with
  | nil => simp
  | cons c source =>
    rw [distance_cons]
    omega

/-- Inserting a first character is one step. -/
theorem near_of_insert (c : Char) (source : List Char) : Near source (c :: source) := by
  intro target
  induction target with
  | nil =>
    rw [distance_nil_right, distance_nil_right, List.length_cons]
    omega
  | cons d target ih =>
    have here := distance_cons_right_le source d target
    rw [distance_cons]
    omega

/-- Replacing the first character is one step. -/
theorem near_of_replace (c d : Char) (source : List Char) : Near (c :: source) (d :: source) := by
  intro target
  induction target with
  | nil => simp
  | cons e target ih =>
    have replaced := replacing_le_one c e
    rw [distance_cons, distance_cons]
    omega

/-- What is one step apart stays so behind one more character. -/
theorem Near.cons {source middle : List Char} (near : Near source middle) (c : Char) :
    Near (c :: source) (c :: middle) := by
  intro target
  induction target with
  | nil =>
    have here := near []
    simp only [distance_nil_right, List.length_cons] at here ⊢
    omega
  | cons d target ih =>
    have deleted := near (d :: target)
    have replaced := near target
    rw [distance_cons, distance_cons]
    omega

/-- What is one step apart stays so behind any characters. -/
theorem Near.append {source middle : List Char} (near : Near source middle)
    (before : List Char) : Near (before ++ source) (before ++ middle) := by
  induction before with
  | nil => exact near
  | cons c before ih => exact ih.cons c

/-- A single edit is one step. -/
theorem Edit.near {source middle : List Char} (edit : Edit source middle) : Near source middle := by
  cases edit with
  | insert before after c => exact (near_of_insert c after).append before
  | delete before after c => exact (near_of_delete c after).append before
  | replace before after c d => exact (near_of_replace c d after).append before

/-- No fewer edits than the distance turn one text into another. -/
theorem distance_le_of_edits {count : Nat} {source target : List Char}
    (edits : Edits count source target) : distance source target ≤ count := by
  induction edits with
  | done text =>
    induction text with
    | nil => simp
    | cons c text ih =>
      rw [distance_cons, replacing, if_pos rfl]
      omega
  | step edit _ ih => exact Nat.le_trans (edit.near _) (Nat.add_le_add_right ih 1)

/-- The distance is the least number of edits. -/
theorem isLeast_distance (source target : List Char) :
    IsLeast {count | Edits count source target} (distance source target) :=
  ⟨edits_distance source target, fun _ => distance_le_of_edits⟩

/-- Reading both texts backwards keeps the distance. -/
theorem distance_reverse (source target : List Char) :
    distance source.reverse target.reverse = distance source target := by
  apply Nat.le_antisymm
  · exact distance_le_of_edits (edits_distance source target).reverse
  · have back := (edits_distance source.reverse target.reverse).reverse
    rw [List.reverse_reverse, List.reverse_reverse] at back
    exact distance_le_of_edits back

/-! ## Filling the rows -/

/-- The distance of two prefixes, which are compared by their last characters. -/
def prefixDistance (source target : List Char) : Nat :=
  distance source.reverse target.reverse

/-- The first cell of a row. -/
theorem prefixDistance_nil_right (source : List Char) :
    prefixDistance source [] = source.length := by
  simp [prefixDistance]

/-- The cells of the first row. -/
theorem prefixDistance_nil_left (target : List Char) :
    prefixDistance [] target = target.length := by
  simp [prefixDistance]

/-- Any other cell, from those above it, on its left and diagonally before it. -/
theorem prefixDistance_concat (source target : List Char) (c d : Char) :
    prefixDistance (source ++ [c]) (target ++ [d]) =
      min (min (prefixDistance source (target ++ [d]) + 1)
        (prefixDistance (source ++ [c]) target + 1))
        (prefixDistance source target + replacing c d) := by
  simp only [prefixDistance, List.reverse_append, List.reverse_singleton, List.singleton_append]
  exact distance_cons c d _ _

/-- A row has one cell for each prefix of the second text, the empty one included, and the first
cells, up to number `j`, are filled for a prefix of the first text. The others may hold anything. -/
structure Filled (source target : List Char) (j : Nat) (row : Array Nat) : Prop where
  /-- The width of the row. -/
  size : row.size = target.length + 1
  /-- The cells that are filled. -/
  cells : ∀ k ≤ j, row[k]? = some (prefixDistance source (target.take k))

/-- A cell inside of a row can be written, and the row is then as before at any other place. -/
theorem exists_write? {row : Array Nat} {i : Nat} (inside : i < row.size) (cell : Nat) :
    ∃ written, write? row i cell = some written ∧ written.size = row.size ∧
      ∀ k, written[k]? = if i = k then some cell else row[k]? := by
  refine ⟨row.set i cell inside, dif_pos inside, Array.size_set inside, fun k => ?_⟩
  rw [Array.getElem?_set]

/-- Writing the first cell of a row begins it, whatever the row held before. -/
theorem exists_begun (source : List Char) {target : List Char} {row : Array Nat}
    (width : row.size = target.length + 1) :
    ∃ begun, write? row 0 source.length = some begun ∧ Filled source target 0 begun := by
  have inside : 0 < row.size := by omega
  obtain ⟨begun, written, size, cells⟩ := exists_write? inside source.length
  refine ⟨begun, written, size.trans width, fun k first => ?_⟩
  obtain rfl := Nat.le_zero.1 first
  rw [cells, if_pos rfl, List.take_zero, prefixDistance_nil_right]

section Filling

variable {source target : List Char} {c : Char} {above : Array Nat}
  (upper : Filled source target target.length above)

include upper

/-- Filling a cell finds the three cells that it is made from, and fills one cell more. -/
theorem exists_fillCell? {d : Char} {j : Nat} {row : Array Nat} (there : target[j]? = some d)
    (here : Filled (source ++ [c]) target j row) :
    ∃ filled, fillCell? c d above j row = some filled ∧
      Filled (source ++ [c]) target (j + 1) filled := by
  obtain ⟨inside, -⟩ := List.getElem?_eq_some_iff.1 there
  have next : target.take (j + 1) = target.take j ++ [d] := by
    rw [List.take_add_one, there, Option.toList_some]
  have room : j + 1 < row.size := by
    rw [here.size]
    omega
  obtain ⟨filled, written, size, cells⟩ := exists_write? room
    (prefixDistance (source ++ [c]) (target.take (j + 1)))
  refine ⟨filled, ?_, size.trans here.size, fun k upTo => ?_⟩
  · rw [next, prefixDistance_concat] at written
    simp only [fillCell?, upper.cells (j + 1) inside, upper.cells j (Nat.le_of_lt inside),
      here.cells j (Nat.le_refl j), next, Option.bind_eq_bind, Option.bind_some]
    exact written
  · rw [cells]
    split
    · rename_i same
      rw [same]
    · rename_i other
      exact here.cells k (by omega)

/-- Filling the cells from one on fills the row. -/
theorem exists_fillCells? {rest : List Char} {j : Nat} {row : Array Nat}
    (remaining : target.drop j = rest) (here : Filled (source ++ [c]) target j row)
    (upTo : j ≤ target.length) :
    ∃ filled, fillCells? c above rest j row = some filled ∧
      Filled (source ++ [c]) target target.length filled := by
  induction rest generalizing j row with
  | nil =>
    obtain rfl : j = target.length := Nat.le_antisymm upTo (List.drop_eq_nil_iff.1 remaining)
    exact ⟨row, rfl, here⟩
  | cons d rest ih =>
    have there : target[j]? = some d := by
      rw [← List.head?_drop, remaining, List.head?_cons]
    have later : target.drop (j + 1) = rest := by
      rw [← List.tail_drop, remaining, List.tail_cons]
    have inside : j < target.length := (List.getElem?_eq_some_iff.1 there).1
    obtain ⟨next, fills, cells⟩ := exists_fillCell? upper there here
    obtain ⟨filled, fillsAll, all⟩ := ih later cells inside
    refine ⟨filled, ?_, all⟩
    rw [fillCells?, fills]
    exact fillsAll

end Filling

/-- Filling a row for each further character of the first text leaves the last row filled for the
whole text. The spare row only has to have the width of a row: its cells are two rows old, and each
is written before it is read. -/
theorem exists_fillRows? (source : List Char) {passed target : List Char} {rows : Rows}
    (last : Filled passed target target.length rows.last)
    (spare : rows.spare.size = target.length + 1) :
    ∃ final, fillRows? target source passed.length rows = some final ∧
      Filled (passed ++ source) target target.length final.last := by
  induction source generalizing passed rows with
  | nil =>
    rw [List.append_nil]
    exact ⟨rows, rfl, last⟩
  | cons c source ih =>
    have number : (passed ++ [c]).length = passed.length + 1 := by simp
    obtain ⟨begun, begins, first⟩ := exists_begun (passed ++ [c]) spare
    obtain ⟨filled, fills, all⟩ := exists_fillCells? last List.drop_zero first (Nat.zero_le _)
    have next : Filled (passed ++ [c]) target target.length (Rows.mk filled rows.last).last := all
    obtain ⟨final, fillsLater, done⟩ := ih next last.size
    rw [number] at begins fillsLater
    refine ⟨final, ?_, ?_⟩
    · simp only [fillRows?, begins, fills, Option.bind_eq_bind, Option.bind_some]
      exact fillsLater
    · rw [List.append_assoc, List.singleton_append] at done
      exact done

/-- The first row is filled: as many insertions make a prefix as it has characters. -/
theorem filled_firstRows (target : List Char) :
    Filled [] target target.length (firstRows target).last where
  size := by simp [firstRows]
  cells k upTo := by
    rw [firstRows, List.getElem?_toArray, List.getElem?_range (by omega), prefixDistance_nil_left,
      List.length_take, Nat.min_eq_left upTo]

/-- The last cell is always reached, and it is the distance of the texts. -/
theorem lastCell?_eq_some (source target : List Char) :
    lastCell? source target = some (distance source target) := by
  have spare : (firstRows target).spare.size = target.length + 1 := Array.size_replicate
  obtain ⟨final, fills, all⟩ := exists_fillRows? source (filled_firstRows target) spare
  have corner := all.cells target.length (Nat.le_refl _)
  rw [List.take_length, List.nil_append, prefixDistance, distance_reverse] at corner
  rw [List.length_nil] at fills
  simp only [lastCell?, fills, Option.bind_eq_bind, Option.bind_some]
  exact corner

/-- The edit distance of two texts is the distance of their characters. -/
theorem editDistance_eq (source target : String) :
    editDistance source target = distance source.toList target.toList := by
  rw [editDistance, lastCell?_eq_some, Option.getD_some]

/-- A text is no edit away from itself. -/
theorem editDistance_self (text : String) : editDistance text text = 0 := by
  rw [editDistance_eq]
  exact Nat.le_zero.1 (distance_le_of_edits (.done text.toList))

/-- For any two texts, the empty ones included, no access to a row falls outside of it, and the last
cell is the distance by recursion, which is the least number of insertions, deletions and
replacements of single characters that turn the first text into the second. -/
theorem editDistance_isLeast (source target : String) :
    lastCell? source.toList target.toList = some (editDistance source target) ∧
      editDistance source target = distance source.toList target.toList ∧
      IsLeast {count | Edits count source.toList target.toList} (editDistance source target) := by
  rw [editDistance_eq]
  exact ⟨lastCell?_eq_some _ _, rfl, isLeast_distance _ _⟩

example : editDistance "" "abc" = 3 ∧ editDistance "server" "servr" = 1 := by decide

end ViewLayout.EditDistance
