/-!
# Finite maps from keys

Entries are kept in key order, so two maps with the same bindings are the same map: nothing that
is read from a map depends on the order in which it was filled.
-/

namespace ViewLayout

/-- A finite map from strings, as its bindings in strictly increasing key order. -/
structure KeyMap (α : Type) where
  /-- The bindings. -/
  entries : List (String × α)
  /-- Each key comes once, before every greater key. -/
  sorted : entries.Pairwise fun left right => left.1 < right.1

namespace KeyMap

variable {α : Type}

/-- The map without bindings. -/
def empty : KeyMap α := ⟨[], .nil⟩

instance : Inhabited (KeyMap α) := ⟨empty⟩

/-- Puts a binding at its place in a sorted list, over any earlier binding of its key. -/
def insertEntry (key : String) (value : α) : List (String × α) → List (String × α)
  | [] => [(key, value)]
  | entry :: rest =>
    if key < entry.1 then (key, value) :: entry :: rest
    else if key = entry.1 then (key, value) :: rest
    else entry :: insertEntry key value rest

theorem mem_insertEntry {key : String} {value : α} {entries : List (String × α)}
    {entry : String × α} (present : entry ∈ insertEntry key value entries) :
    entry = (key, value) ∨ entry ∈ entries := by
  induction entries with
  | nil => simpa [insertEntry] using present
  | cons head rest ih =>
    unfold insertEntry at present
    split at present
    · simpa using present
    · split at present
      · rcases List.mem_cons.1 present with rfl | later
        · exact .inl rfl
        · exact .inr (List.mem_cons_of_mem _ later)
      · rcases List.mem_cons.1 present with rfl | later
        · exact .inr List.mem_cons_self
        · exact (ih later).imp id (List.mem_cons_of_mem _)

theorem sorted_insertEntry (key : String) (value : α) {entries : List (String × α)}
    (sorted : entries.Pairwise fun left right => left.1 < right.1) :
    (insertEntry key value entries).Pairwise fun left right => left.1 < right.1 := by
  induction sorted with
  | nil => simp [insertEntry]
  | @cons head rest below tail ih =>
    unfold insertEntry
    split
    · rename_i first
      refine .cons (fun entry present => ?_) (.cons below tail)
      rcases List.mem_cons.1 present with rfl | later
      · exact first
      · exact String.lt_trans first (below entry later)
    · split
      · rename_i _ same
        exact .cons (fun entry present => same ▸ below entry present) tail
      · rename_i notBelow different
        refine .cons (fun entry present => ?_) ih
        rcases mem_insertEntry present with rfl | later
        · exact Std.lt_of_le_of_ne (String.not_lt.1 notBelow) (Ne.symm different)
        · exact below entry later

/-- Binds a key, over any earlier binding of it. -/
def insert (map : KeyMap α) (key : String) (value : α) : KeyMap α :=
  ⟨insertEntry key value map.entries, sorted_insertEntry key value map.sorted⟩

/-- Removes the binding of a key, if there is one. -/
def erase (map : KeyMap α) (key : String) : KeyMap α :=
  ⟨map.entries.filter (·.1 ≠ key), map.sorted.filter _⟩

/-- The value bound to a key. -/
def get? (map : KeyMap α) (key : String) : Option α :=
  (map.entries.find? (·.1 == key)).map (·.2)

/-- Whether a key is bound. -/
def contains (map : KeyMap α) (key : String) : Bool :=
  (map.get? key).isSome

/-- The bound keys in increasing order. -/
def keys (map : KeyMap α) : List String :=
  map.entries.map (·.1)

/-- The number of bindings. -/
def size (map : KeyMap α) : Nat :=
  map.entries.length

/-- The map that a list of bindings leads to, a later binding of a key replacing an earlier one. -/
def ofList (entries : List (String × α)) : KeyMap α :=
  entries.foldl (fun map entry => map.insert entry.1 entry.2) empty

end KeyMap

end ViewLayout
