import ViewLayout.KeyMap

/-!
# Reading finite maps

What is bound to a key after a binding is put in or taken out, and the bindings of a map as the
entries that are listed. The order of the entries never shows in what is read.
-/

namespace ViewLayout.KeyMap

variable {α : Type}

/-- The value of a key in a list of bindings. -/
theorem find?_insertEntry (key other : String) (value : α) (entries : List (String × α)) :
    ((insertEntry key value entries).find? (·.1 == other)).map (·.2) =
      if other = key then some value else (entries.find? (·.1 == other)).map (·.2) := by
  induction entries with
  | nil =>
    by_cases same : other = key
    · simp [insertEntry, same]
    · simp [insertEntry, same, Ne.symm same]
  | cons head rest ih =>
    unfold insertEntry
    split
    · by_cases same : other = key
      · simp [same]
      · simp [same, Ne.symm same, List.find?_cons]
    · split
      · rename_i replaced
        by_cases same : other = key
        · simp [same]
        · -- The entry that is replaced is bound to the key put in, which is not the one asked for.
          have passed : ¬head.1 = other := fun here => same (here.symm.trans replaced.symm)
          simp [same, Ne.symm same, passed]
      · rename_i different
        by_cases here : head.1 = other
        · have same : ¬other = key := fun same => different (same.symm.trans here.symm)
          simp [here, same]
        · simp only [List.find?_cons, beq_eq_false_iff_ne.2 here, ih]

/-- A key that is bound stands for its new value, and any other key for what it stood for. -/
theorem get?_insert (map : KeyMap α) (key other : String) (value : α) :
    (map.insert key value).get? other = if other = key then some value else map.get? other :=
  find?_insertEntry key other value map.entries

/-- A key that is taken out stands for nothing, and any other key for what it stood for. -/
theorem get?_erase (map : KeyMap α) (key other : String) :
    (map.erase key).get? other = if other = key then none else map.get? other := by
  unfold erase get?
  rw [List.find?_filter]
  by_cases same : other = key
  · rw [if_pos same, Option.map_eq_none_iff, List.find?_eq_none]
    intro entry _
    simp [same]
  · rw [if_neg same]
    congr 2
    funext entry
    by_cases here : entry.1 = other
    · simp [here, same]
    · simp [here]

/-- What a key stands for is listed with it. -/
theorem get?_eq_some_iff {map : KeyMap α} {key : String} {value : α} :
    map.get? key = some value ↔ (key, value) ∈ map.entries := by
  obtain ⟨entries, sorted⟩ := map
  unfold get?
  induction sorted with
  | nil => simp
  | @cons head rest below _ ih =>
    by_cases here : head.1 = key
    · subst here
      have absent : (head.1, value) ∉ rest := fun later =>
        absurd (below _ later) (String.lt_irrefl _)
      simp [Prod.ext_iff, absent, eq_comm]
    · have passed : (key, value) ≠ head := fun same => here (congrArg Prod.fst same).symm
      rw [List.find?_cons, beq_eq_false_iff_ne.2 here, ih, List.mem_cons, or_iff_right passed]

@[simp]
theorem get?_empty (key : String) : (empty : KeyMap α).get? key = none := rfl

/-- A binding at the end of a list is put in last. -/
theorem ofList_concat (bindings : List (String × α)) (key : String) (value : α) :
    ofList (bindings ++ [(key, value)]) = (ofList bindings).insert key value := by
  rw [ofList, List.foldl_append]
  rfl

/-- Later bindings of other keys do not change what a key stands for. -/
theorem get?_ofList_append (first : List (String × α)) {later : List (String × α)} {key : String}
    (absent : key ∉ later.map (·.1)) :
    (ofList (first ++ later)).get? key = (ofList first).get? key := by
  induction later generalizing first with
  | nil => rw [List.append_nil]
  | cons binding later ih =>
    rw [List.map_cons, List.mem_cons, not_or] at absent
    have rest := ih (first ++ [binding]) absent.2
    rw [List.append_assoc, List.singleton_append] at rest
    rw [rest, ofList_concat, get?_insert, if_neg absent.1]

/-- A key stands for the value of its last binding. -/
theorem get?_ofList_of_last (before : List (String × α)) {bindings : List (String × α)} {i : Nat}
    {key : String} {value : α} (bound : bindings[i]? = some (key, value))
    (absent : key ∉ (bindings.map (·.1)).drop (i + 1)) :
    (ofList (before ++ bindings)).get? key = some value := by
  obtain ⟨inside, here⟩ := List.getElem?_eq_some_iff.1 bound
  have split : before ++ bindings =
      (before ++ bindings.take i ++ [(key, value)]) ++ bindings.drop (i + 1) := by
    rw [← here, List.append_assoc, List.append_assoc, List.singleton_append,
      ← List.drop_eq_getElem_cons inside, List.take_append_drop]
  rw [← List.map_drop] at absent
  rw [split, get?_ofList_append _ absent, ofList_concat, get?_insert, if_pos rfl]

end ViewLayout.KeyMap
