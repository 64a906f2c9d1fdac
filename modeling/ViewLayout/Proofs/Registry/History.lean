import ViewLayout.Proofs.Registry.Bindings

/-!
# Registries and their histories

A registry begins without bindings and is changed by registering nodes and by removing keys, in any
order. Whatever it answers is decided by this history: a key stands for the node of its latest
registration, unless it was removed after that, and the parent key stands for the container and is
never registered.

Keys of views and the key of a node are read off the bindings in their order. The answers are right
in whatever order the bindings are looked through.
-/

namespace ViewLayout.Registry

/-! ## Histories -/

/-- A call that changes a registry. -/
inductive Call where
  /-- Registers a node under a key, or fails to. -/
  | register (key : String) (node : Node)
  /-- Removes keys. -/
  | unregister (keys : List String)

/-- A call settles what a key stands for when it registers or removes the key. -/
def Call.Settles (key : String) : Call → Prop
  | register other _ => other = key
  | unregister keys => key ∈ keys

/-- A registry before the first call. -/
def initial (parentKey : String) : Option ViewId → Registry
  | some container => ofContainer parentKey container
  | none => withoutContainer parentKey

/-- Makes a call. Registering in vain leaves the registry as it was. -/
def perform (registry : Registry) : Call → Registry
  | .register key node =>
    match registry.register key node with
    | .ok next => next
    | .error _ => registry
  | .unregister keys => (registry.unregister keys).1

/-- Makes calls one after another. -/
def performAll (registry : Registry) (calls : List Call) : Registry :=
  calls.foldl perform registry

/-- Calls leave a key bound to a node when the latest of them that settles the key registers it for
the node. -/
def LeaveBound (calls : List Call) (key : String) (node : Node) : Prop :=
  ∃ earlier later, calls = earlier ++ .register key node :: later ∧
    ∀ call ∈ later, ¬call.Settles key

/-- No calls leave nothing bound. -/
theorem not_leaveBound_nil {key : String} {node : Node} : ¬LeaveBound [] key node := by
  rintro ⟨earlier, later, split, -⟩
  exact absurd split.symm (List.append_ne_nil_of_right_ne_nil _ (List.cons_ne_nil _ _))

/-- After one more call a key is left bound to what the call registers it for or, when the call does
not settle the key, to what it was bound to before. -/
theorem leaveBound_concat {calls : List Call} {call : Call} {key : String} {node : Node} :
    LeaveBound (calls ++ [call]) key node ↔
      call = .register key node ∨ ¬call.Settles key ∧ LeaveBound calls key node := by
  constructor
  · rintro ⟨earlier, later, split, unsettled⟩
    rcases List.eq_nil_or_concat later with rfl | ⟨between, last, rfl⟩
    · exact .inl (List.singleton_inj.1 (List.append_inj' split rfl).2)
    · have regrouped : calls ++ [call] = (earlier ++ .register key node :: between) ++ [last] := by
        rw [split, List.append_assoc, List.cons_append, List.concat_eq_append]
      obtain ⟨rfl, same⟩ := List.append_inj' regrouped rfl
      obtain rfl := List.singleton_inj.1 same
      rw [List.concat_eq_append, List.forall_mem_append] at unsettled
      exact .inr ⟨unsettled.2 call List.mem_cons_self, earlier, between, rfl, unsettled.1⟩
  · rintro (rfl | ⟨passed, earlier, later, rfl, unsettled⟩)
    · exact ⟨calls, [], rfl, nofun⟩
    · refine ⟨earlier, later ++ [call], by rw [List.append_assoc, List.cons_append], ?_⟩
      rw [List.forall_mem_append]
      exact ⟨unsettled, fun last listed => List.mem_singleton.1 listed ▸ passed⟩

/-! ## What a registry holds -/

/-- A registry holds what calls on an initial registry leave bound. -/
structure Holds (registry : Registry) (parent : String) (container : Option ViewId)
    (calls : List Call) : Prop where
  /-- The parent key stays. -/
  parentKey : registry.parentKey = parent
  /-- The container stays. -/
  container : registry.container = container
  /-- The parent key is not bound. -/
  free : registry.entries.get? parent = none
  /-- Every other key is bound to what it is left bound to. -/
  bound : ∀ key, key ≠ parent → ∀ node,
    registry.entries.get? key = some node ↔ LeaveBound calls key node

/-- An initial registry holds nothing. -/
theorem holds_initial (parent : String) (container : Option ViewId) :
    (initial parent container).Holds parent container [] := by
  cases container with
  | some view => exact ⟨rfl, rfl, rfl, fun _ _ _ => iff_of_false nofun not_leaveBound_nil⟩
  | none => exact ⟨rfl, rfl, rfl, fun _ _ _ => iff_of_false nofun not_leaveBound_nil⟩

/-- Registering changes nothing under the parent key, and binds any other key. -/
theorem perform_register (registry : Registry) (key : String) (node : Node) :
    registry.perform (.register key node) =
      if key = registry.parentKey then registry
      else { registry with entries := registry.entries.insert key node } := by
  unfold perform register
  dsimp only
  by_cases reserved : key = registry.parentKey
  · rw [if_pos reserved, if_pos reserved]
  · rw [if_neg reserved, if_neg reserved]

namespace Holds

variable {registry : Registry} {parent : String} {container : Option ViewId}
  {calls : List Call} (holds : registry.Holds parent container calls)

include holds

/-- After one more call a registry holds what the calls leave bound. -/
theorem perform (call : Call) :
    (registry.perform call).Holds parent container (calls ++ [call]) := by
  cases call with
  | register other node =>
    rw [perform_register]
    by_cases reserved : other = registry.parentKey
    · rw [if_pos reserved]
      refine ⟨holds.parentKey, holds.container, holds.free, fun key free found => ?_⟩
      have different : other ≠ key := by
        rintro rfl
        exact free (reserved.trans holds.parentKey)
      rw [holds.bound key free, leaveBound_concat]
      simp [Call.Settles, different]
    · rw [if_neg reserved]
      rw [holds.parentKey] at reserved
      refine ⟨holds.parentKey, holds.container, ?_, fun key free found => ?_⟩
      · rw [KeyMap.get?_insert, if_neg (Ne.symm reserved), holds.free]
      · rw [KeyMap.get?_insert, leaveBound_concat]
        by_cases same : key = other
        · subst same
          simp [Call.Settles]
        · simp [Call.Settles, same, Ne.symm same, holds.bound key free]
  | unregister keys =>
    refine ⟨(parentKey_unregister registry keys).trans holds.parentKey,
      (container_unregister registry keys).trans holds.container, ?_, fun key free found => ?_⟩
    · simp only [Registry.perform, get?_unregister, holds.free, ite_self]
    · simp only [Registry.perform, get?_unregister, leaveBound_concat]
      by_cases listed : key ∈ keys
      · simp [Call.Settles, listed]
      · simp [Call.Settles, listed, holds.bound key free]

end Holds

/-- After any calls a registry holds what they leave bound. -/
theorem holds_performAll (parent : String) (container : Option ViewId) (calls : List Call) :
    ((initial parent container).performAll calls).Holds parent container calls := by
  induction calls using List.reverseRecOn with
  | nil => exact holds_initial parent container
  | append_singleton calls call ih =>
    rw [performAll, List.foldl_append]
    exact ih.perform call

/-! ## What a registry answers -/

/-- The key of a node when the bindings are looked through in a given order. -/
def keyAmong? (registry : Registry) (order : List (String × Node)) (node : Node) : Option String :=
  if registry.container.map Node.view = some node then some registry.parentKey
  else (order.find? (·.2 = node)).map (·.1)

/-- The keys of views among bindings in a given order, sorted. -/
def viewKeysAmong (order : List (String × Node)) : List String :=
  (order.filterMap fun entry => entry.2.view?.map fun _ => entry.1).mergeSort
    fun left right => decide (left ≤ right)

/-- A key that is given for a node stands for the node, and none is given only if none stands for
it. -/
def Names (registry : Registry) (node : Node) (given : Option String) : Prop :=
  (∀ key, given = some key → registry.resolve key = .ok node) ∧
    (given = none → ∀ key, registry.resolve key ≠ .ok node)

/-- The answers of a registry with a parent key and a container, or none, after calls. -/
structure Answers (registry : Registry) (parent : String) (container : Option ViewId)
    (calls : List Call) : Prop where
  /-- The parent key cannot be registered, and trying to changes nothing. -/
  refuses : ∀ node, registry.register parent node = .error (.reservedKey parent) ∧
    registry.perform (.register parent node) = registry
  /-- Any other key can be registered. -/
  registers : ∀ key node, key ≠ parent → ∃ next, registry.register key node = .ok next
  /-- The parent key stands for the container, if there is one. -/
  resolvesParent : (∀ view, container = some view → registry.resolve parent = .ok (.view view)) ∧
    (container = none → registry.resolve parent = .error (.parentUnresolved parent))
  /-- Any other key stands for the node that the calls leave it bound to. -/
  resolves : ∀ key node, key ≠ parent → LeaveBound calls key node →
    registry.resolve key = .ok node
  /-- A key that the calls leave unbound is unknown. -/
  unknown : ∀ key, key ≠ parent → (∀ node, ¬LeaveBound calls key node) →
    registry.resolve key = .error (.unknownKey key (registry.suggestions key))
  /-- Removing keys gives the bindings of those that are bound, in the order asked; the first time
  that a key is asked for counts. -/
  removes : ∀ keys, ((registry.unregister keys).2.map (·.1)).Sublist keys.eraseDups ∧
    ∀ key node, (key, node) ∈ (registry.unregister keys).2 ↔
      key ∈ keys ∧ key ≠ parent ∧ LeaveBound calls key node
  /-- The keys of views increase and are the keys that are bound to views. -/
  viewKeys : registry.viewKeys.Pairwise (· < ·) ∧
    ∀ key, key ∈ registry.viewKeys ↔ key ≠ parent ∧ ∃ view, LeaveBound calls key (.view view)
  /-- The key of a node stands for it. -/
  names : ∀ node, registry.Names node (registry.keyOf? node)
  /-- The order in which the bindings are looked through does not matter for any of this. -/
  anyOrder : ∀ order, order.Perm registry.entries.entries →
    viewKeysAmong order = registry.viewKeys ∧
      ∀ node, registry.Names node (registry.keyAmong? order node)

/-- Sorting the keys of views gives the same keys for every order of the bindings. -/
theorem viewKeysAmong_of_perm {registry : Registry} {order : List (String × Node)}
    (same : order.Perm registry.entries.entries) : viewKeysAmong order = registry.viewKeys := by
  have sorted : (viewKeysAmong order).Pairwise (· ≤ ·) := by
    unfold viewKeysAmong
    refine (List.pairwise_mergeSort ?_ ?_ _).imp of_decide_eq_true
    · intro first second third below above
      exact decide_eq_true (String.le_trans (of_decide_eq_true below) (of_decide_eq_true above))
    · intro first second
      rw [Bool.or_eq_true, decide_eq_true_eq, decide_eq_true_eq]
      exact String.le_total first second
  have increasing : registry.viewKeys.Pairwise (· ≤ ·) :=
    registry.pairwise_viewKeys.imp fun below => Std.le_of_lt below
  refine List.Perm.eq_of_pairwise (fun left right _ _ => String.le_antisymm) sorted increasing ?_
  exact (List.mergeSort_perm _ _).trans (same.filterMap _)

namespace Holds

variable {registry : Registry} {parent : String} {container : Option ViewId}
  {calls : List Call} (holds : registry.Holds parent container calls)

include holds

/-- The parent key stands for the container, if there is one. -/
theorem resolve_parent :
    (∀ view, container = some view → registry.resolve parent = .ok (.view view)) ∧
      (container = none → registry.resolve parent = .error (.parentUnresolved parent)) := by
  rw [resolve, if_pos holds.parentKey.symm, holds.container]
  constructor
  · rintro view rfl
    rfl
  · rintro rfl
    rfl

/-- Any other key stands for what it is bound to. -/
theorem resolve_eq_ok_iff {key : String} (free : key ≠ parent) {node : Node} :
    registry.resolve key = .ok node ↔ registry.entries.get? key = some node := by
  rw [resolve, holds.parentKey, if_neg free]
  cases registry.entries.get? key <;> simp

/-- A bound key is not the parent key. -/
theorem ne_parent {key : String} {node : Node} (bound : registry.entries.get? key = some node) :
    key ≠ parent := by
  rintro rfl
  rw [holds.free] at bound
  contradiction

/-- In any order of the bindings, the key of a node stands for it. -/
theorem names_keyAmong? {order : List (String × Node)} (same : order.Perm registry.entries.entries)
    (node : Node) : registry.Names node (registry.keyAmong? order node) := by
  unfold keyAmong?
  by_cases contained : registry.container.map Node.view = some node
  · rw [if_pos contained]
    refine ⟨fun key given => ?_, nofun⟩
    obtain rfl := Option.some.inj given
    obtain ⟨view, own, rfl⟩ := Option.map_eq_some_iff.1 contained
    rw [resolve, if_pos rfl, own]
  · rw [if_neg contained]
    constructor
    · intro key given
      obtain ⟨⟨found, bound⟩, finds, rfl⟩ := Option.map_eq_some_iff.1 given
      obtain rfl : bound = node := by simpa using List.find?_some finds
      have listed := KeyMap.get?_eq_some_iff.2 (same.mem_iff.1 (List.mem_of_find?_eq_some finds))
      exact (holds.resolve_eq_ok_iff (holds.ne_parent listed)).2 listed
    · intro nothing key stands
      by_cases parental : key = parent
      · subst parental
        rw [holds.container] at contained
        cases own : container with
        | none =>
          rw [holds.resolve_parent.2 own] at stands
          contradiction
        | some view =>
          rw [holds.resolve_parent.1 view own] at stands
          exact contained (by rw [own, Option.map_some, Except.ok.inj stands])
      · have bound := (holds.resolve_eq_ok_iff parental).1 stands
        have listed := same.mem_iff.2 (KeyMap.get?_eq_some_iff.1 bound)
        have absent := List.find?_eq_none.1 (Option.map_eq_none_iff.1 nothing) _ listed
        exact absent (decide_eq_true rfl)

/-- What is bound is what the calls leave bound under a key other than the parent key. -/
theorem get?_eq_some_iff {key : String} {node : Node} :
    registry.entries.get? key = some node ↔ key ≠ parent ∧ LeaveBound calls key node := by
  constructor
  · intro bound
    have free := holds.ne_parent bound
    exact ⟨free, (holds.bound key free node).1 bound⟩
  · rintro ⟨free, left⟩
    exact (holds.bound key free node).2 left

/-- A registry that holds what calls leave bound answers by it. -/
theorem answers : registry.Answers parent container calls where
  refuses node := by
    rw [perform_register, holds.parentKey, if_pos rfl, register, if_pos holds.parentKey.symm]
    exact ⟨rfl, rfl⟩
  registers key node free :=
    ⟨_, register_eq_ok_iff.2 ⟨holds.parentKey.symm ▸ free, rfl⟩⟩
  resolvesParent := holds.resolve_parent
  resolves key node free left := by
    rw [holds.resolve_eq_ok_iff free, holds.bound key free]
    exact left
  unknown key free none := by
    have unbound : registry.entries.get? key = Option.none :=
      Option.eq_none_iff_forall_ne_some.2 fun node bound =>
        none node ((holds.bound key free node).1 bound)
    rw [resolve, holds.parentKey, if_neg free, unbound]
  removes keys := by
    refine ⟨registry.keys_unregister_sublist keys, fun key node => ?_⟩
    rw [mem_unregister_iff, holds.get?_eq_some_iff]
  viewKeys := by
    refine ⟨registry.pairwise_viewKeys, fun key => ?_⟩
    rw [mem_viewKeys_iff]
    simp only [holds.get?_eq_some_iff, exists_and_left]
  names := holds.names_keyAmong? (.refl _)
  anyOrder _ same := ⟨viewKeysAmong_of_perm same, holds.names_keyAmong? same⟩

end Holds

/-- Whatever nodes are registered and keys removed in a registry with any parent key and any
container, or none, it answers as a map with one reserved key: the parent key stands for the
container for good, and any other key for the node of its latest registration, unless it was removed
after that. -/
theorem answers_of_calls (parent : String) (container : Option ViewId) (calls : List Call) :
    ((initial parent container).performAll calls).Answers parent container calls :=
  (holds_performAll parent container calls).answers

end ViewLayout.Registry
