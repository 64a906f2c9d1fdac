import ViewLayout.Proofs.KeyMap
import ViewLayout.Proofs.Resolution

/-!
# The bindings of a registry

Registering a node and removing keys change what single keys are bound to. The keys of views are
those bound to views, and removing keys gives back what they were bound to, once each.
-/

namespace ViewLayout.Registry

/-! ## The keys of views -/

/-- The keys of views are those that stand for one. -/
theorem mem_viewKeys_iff {registry : Registry} {key : String} :
    key ∈ registry.viewKeys ↔ ∃ view, registry.entries.get? key = some (.view view) := by
  simp only [KeyMap.get?_eq_some_iff, viewKeys, List.mem_filterMap]
  constructor
  · rintro ⟨⟨bound, node⟩, listed, kept⟩
    cases node with
    | guide guide => contradiction
    | view view =>
      obtain rfl := Option.some.inj kept
      exact ⟨view, listed⟩
  · rintro ⟨view, listed⟩
    exact ⟨(key, .view view), listed, rfl⟩

/-- The keys of views increase. -/
theorem pairwise_viewKeys (registry : Registry) : registry.viewKeys.Pairwise (· < ·) := by
  refine List.Pairwise.filterMap _ ?_ registry.entries.sorted
  intro left right below first listedFirst second listedSecond
  obtain ⟨_, -, rfl⟩ := Option.map_eq_some_iff.1 listedFirst
  obtain ⟨_, -, rfl⟩ := Option.map_eq_some_iff.1 listedSecond
  exact below

/-! ## Removing keys -/

/-- Removing keys leaves the parent key. -/
theorem parentKey_unregister (registry : Registry) (keys : List String) :
    (registry.unregister keys).1.parentKey = registry.parentKey := by
  induction keys generalizing registry with
  | nil => rfl
  | cons key keys ih =>
    unfold unregister
    split
    · exact ih registry
    · exact ih _

/-- Removing keys leaves the container. -/
theorem container_unregister (registry : Registry) (keys : List String) :
    (registry.unregister keys).1.container = registry.container := by
  induction keys generalizing registry with
  | nil => rfl
  | cons key keys ih =>
    unfold unregister
    split
    · exact ih registry
    · exact ih _

/-- A key that is removed stands for nothing, and any other key for what it stood for. -/
theorem get?_unregister (registry : Registry) (keys : List String) (other : String) :
    (registry.unregister keys).1.entries.get? other =
      if other ∈ keys then none else registry.entries.get? other := by
  induction keys generalizing registry with
  | nil => simp [unregister]
  | cons key keys ih =>
    unfold unregister
    split
    · rename_i unbound
      rw [ih]
      by_cases here : other = key
      · subst here
        simp [unbound]
      · simp [here]
    · rename_i bound
      rw [ih, KeyMap.get?_erase]
      by_cases here : other = key <;> simp [here]

/-- What is left after removing keys was there before. -/
theorem get?_of_unregister {registry : Registry} {keys : List String} {key : String} {node : Node}
    (bound : (registry.unregister keys).1.entries.get? key = some node) :
    registry.entries.get? key = some node := by
  rw [get?_unregister] at bound
  split at bound
  · contradiction
  · exact bound

/-- The bindings that are removed are those of the keys asked for. -/
theorem mem_unregister_iff {registry : Registry} {keys : List String} {key : String} {node : Node} :
    (key, node) ∈ (registry.unregister keys).2 ↔
      key ∈ keys ∧ registry.entries.get? key = some node := by
  induction keys generalizing registry with
  | nil => simp [unregister]
  | cons first keys ih =>
    unfold unregister
    split
    · rename_i unbound
      rw [ih, List.mem_cons]
      constructor
      · exact And.imp_left .inr
      · rintro ⟨rfl | later, bound⟩
        · rw [unbound] at bound
          contradiction
        · exact ⟨later, bound⟩
    · rename_i removed bound
      dsimp only
      rw [List.mem_cons, ih, KeyMap.get?_erase, Prod.mk.injEq, List.mem_cons]
      by_cases here : key = first
      · subst here
        simp [bound, eq_comm]
      · simp [here]

/-- Asking for a key that is bound to nothing changes nothing. -/
theorem unregister_filter {registry : Registry} {key : String}
    (unbound : registry.entries.get? key = none) (keys : List String) :
    registry.unregister (keys.filter (· ≠ key)) = registry.unregister keys := by
  induction keys generalizing registry with
  | nil => rfl
  | cons first keys ih =>
    by_cases here : first = key
    · subst here
      rw [List.filter_cons_of_neg (by simp), ih unbound]
      simp only [unregister, unbound]
    · rw [List.filter_cons_of_pos (by simp [here])]
      simp only [unregister]
      split
      · exact ih unbound
      · rw [ih]
        rw [KeyMap.get?_erase, if_neg (Ne.symm here), unbound]

/-- The bindings of the keys asked for are removed in the order asked, each of them once. -/
theorem unregister_eq_filterMap (registry : Registry) : (keys : List String) →
    (registry.unregister keys).2 =
      keys.eraseDups.filterMap fun key => (registry.entries.get? key).map (key, ·)
  | [] => rfl
  | key :: keys => by
    have others : keys.filter (fun other => !other == key) = keys.filter (· ≠ key) := by
      simp only [ne_eq, decide_not, Bool.beq_eq_decide_eq]
    rw [List.eraseDups_cons, others, List.filterMap_cons, unregister]
    cases bound : registry.entries.get? key with
    | none =>
      rw [← unregister_filter bound, unregister_eq_filterMap registry (keys.filter (· ≠ key))]
      rfl
    | some node =>
      have erased : (registry.entries.erase key).get? key = none := by
        rw [KeyMap.get?_erase, if_pos rfl]
      dsimp only [Option.map_some]
      rw [← unregister_filter erased, unregister_eq_filterMap _ (keys.filter (· ≠ key))]
      refine congrArg _ (List.filterMap_congr fun other listed => ?_)
      have different := (List.mem_filter.1 (List.mem_eraseDups.1 listed)).2
      rw [KeyMap.get?_erase, if_neg (of_decide_eq_true different)]
  termination_by keys => keys.length
  decreasing_by all_goals exact Nat.lt_succ_of_le (List.length_filter_le _ _)

/-- The keys that are removed are asked for in that order, where only the first time counts. -/
theorem keys_unregister_sublist (registry : Registry) (keys : List String) :
    ((registry.unregister keys).2.map (·.1)).Sublist keys.eraseDups := by
  have bound : (registry.unregister keys).2.map (·.1) =
      keys.eraseDups.filter registry.entries.contains := by
    rw [unregister_eq_filterMap, List.map_filterMap, ← List.filterMap_eq_filter]
    refine List.filterMap_congr fun key _ => ?_
    rw [Option.guard, KeyMap.contains]
    cases registry.entries.get? key <;> rfl
  rw [bound]
  exact List.filter_sublist

/-- The views that are removed are those that the keys asked for stand for. -/
theorem mem_removed_iff {registry : Registry} {keys : List String} {view : ViewId} :
    view ∈ (registry.unregister (keys.filter registry.viewKeys.contains)).2.filterMap (·.2.view?) ↔
      ∃ key ∈ keys, registry.entries.get? key = some (.view view) := by
  rw [List.mem_filterMap]
  constructor
  · rintro ⟨⟨key, node⟩, listed, here⟩
    obtain ⟨among, stands⟩ := mem_unregister_iff.1 listed
    cases node with
    | guide guide => contradiction
    | view other =>
      obtain rfl := Option.some.inj here
      exact ⟨key, List.mem_of_mem_filter among, stands⟩
  · rintro ⟨key, among, stands⟩
    have viewed := mem_viewKeys_iff.2 ⟨view, stands⟩
    have listed : key ∈ keys.filter registry.viewKeys.contains :=
      List.mem_filter.2 ⟨among, List.contains_iff_mem.2 viewed⟩
    exact ⟨(key, .view view), mem_unregister_iff.2 ⟨listed, stands⟩, rfl⟩

end ViewLayout.Registry
