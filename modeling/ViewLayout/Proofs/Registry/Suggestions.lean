import Mathlib.Data.List.Perm.Subperm
import ViewLayout.Proofs.EditDistance
import ViewLayout.Proofs.Registry.History

/-!
# Suggestions for a missing key

A missing key is reported together with at most three registered keys that are one or two edits
away from it. Which keys these are, and in which order, is decided by what is registered: the order
puts any two different keys one before the other, so its first three are the same however the
bindings are looked through, and by whatever calls they came about.
-/

namespace ViewLayout.Registry

open ViewLayout.EditDistance

/-- A key is similar to a missing one when it is one or two edits away. -/
def Similar (key other : String) : Prop :=
  editDistance other key = 1 ∨ editDistance other key = 2

/-- A key comes before another when it is nearer to the missing key, or equally near and the lesser
of the two. -/
def Closer (key first second : String) : Prop :=
  editDistance first key < editDistance second key ∨
    editDistance first key = editDistance second key ∧ first < second

/-- The keys suggested for a missing key are the first three similar keys among those that are
registered, or all of them when there are fewer. -/
structure Suggests (registered : String → Prop) (key : String) (suggested : List String) :
    Prop where
  /-- Only similar keys that are registered are suggested. -/
  similar : ∀ other ∈ suggested, registered other ∧ Similar key other
  /-- The closer of two suggested keys comes first. -/
  ordered : suggested.Pairwise (Closer key)
  /-- At most three keys are suggested. -/
  few : suggested.length ≤ 3
  /-- A similar key is left out only behind three that are closer. -/
  complete : ∀ other, registered other → Similar key other →
    other ∈ suggested ∨ suggested.length = 3 ∧ ∀ before ∈ suggested, Closer key before other

/-! ## The order of suggestions -/

variable {key first second : String}

theorem Closer.trans {third : String} (left : Closer key first second)
    (right : Closer key second third) : Closer key first third := by
  rcases left with nearer | ⟨same, less⟩
  · rcases right with further | ⟨alike, -⟩
    · exact .inl (Nat.lt_trans nearer further)
    · exact .inl (alike ▸ nearer)
  · rcases right with further | ⟨alike, greater⟩
    · exact .inl (same ▸ further)
    · exact .inr ⟨same.trans alike, String.lt_trans less greater⟩

theorem Closer.ne (closer : Closer key first second) : first ≠ second := by
  rintro rfl
  rcases closer with nearer | ⟨-, less⟩
  · exact Nat.lt_irrefl _ nearer
  · exact String.lt_irrefl first less

/-- No two keys come each before the other. -/
theorem Closer.asymm (closer : Closer key first second) : ¬Closer key second first :=
  fun back => (closer.trans back).ne rfl

/-- Sorting puts one key before another when it is closer, and does not part equal keys. -/
theorem notAfter_iff :
    notAfter key first second = true ↔ Closer key first second ∨ first = second := by
  simp only [notAfter, Bool.or_eq_true, Bool.and_eq_true, decide_eq_true_eq, Closer]
  constructor
  · rintro (nearer | ⟨same, below⟩)
    · exact .inl (.inl nearer)
    · by_cases here : first = second
      · exact .inr here
      · exact .inl (.inr ⟨same, Std.lt_of_le_of_ne below here⟩)
  · rintro ((nearer | ⟨same, less⟩) | rfl)
    · exact .inl nearer
    · exact .inr ⟨same, Std.le_of_lt less⟩
    · exact .inr ⟨rfl, String.le_refl first⟩

theorem notAfter_trans {third : String} (left : notAfter key first second = true)
    (right : notAfter key second third = true) : notAfter key first third = true := by
  rw [notAfter_iff] at *
  rcases left with closer | rfl
  · rcases right with further | rfl
    · exact .inl (closer.trans further)
    · exact .inl closer
  · exact right

theorem notAfter_total (key first second : String) :
    (notAfter key first second || notAfter key second first) = true := by
  simp only [notAfter, Bool.or_eq_true, Bool.and_eq_true, decide_eq_true_eq]
  have distances := Nat.lt_trichotomy (editDistance first key) (editDistance second key)
  have keys := String.le_total first second
  tauto

/-! ## Which keys are suggested -/

variable {registered : String → Prop} {suggested others : List String}

/-- The first three of all similar keys in their order are suggested. -/
theorem suggests_take {similar : List String} (ordered : similar.Pairwise (Closer key))
    (all : ∀ other, other ∈ similar ↔ registered other ∧ Similar key other) :
    Suggests registered key (similar.take 3) where
  similar other listed := (all other).1 (List.mem_of_mem_take listed)
  ordered := ordered.sublist (List.take_sublist 3 similar)
  few := List.length_take_le 3 similar
  complete other bound near := by
    have listed := (all other).2 ⟨bound, near⟩
    rw [← List.take_append_drop 3 similar, List.mem_append] at listed
    rw [← List.take_append_drop 3 similar, List.pairwise_append] at ordered
    rcases listed with taken | left
    · exact .inl taken
    · have long : 3 < similar.length := by
        have here := List.length_pos_of_mem left
        rw [List.length_drop] at here
        omega
      refine .inr ⟨List.length_take_of_le (Nat.le_of_lt long), fun before taken => ?_⟩
      exact ordered.2.2 before taken other left

namespace Suggests

/-- No key is suggested twice. -/
theorem nodup (suggests : Suggests registered key suggested) : suggested.Nodup :=
  suggests.ordered.imp Closer.ne

/-- The missing key is not suggested. -/
theorem not_mem (suggests : Suggests registered key suggested) : key ∉ suggested := by
  intro listed
  have near := (suggests.similar key listed).2
  rw [Similar, editDistance_self] at near
  rcases near with one | two <;> contradiction

/-- A key in one list of suggestions is in any other. -/
theorem mem_of_mem (suggests : Suggests registered key suggested)
    (also : Suggests registered key others) {other : String} (listed : other ∈ suggested) :
    other ∈ others := by
  obtain ⟨bound, near⟩ := suggests.similar other listed
  rcases also.complete other bound near with there | ⟨three, closer⟩
  · exact there
  · -- Otherwise the other list holds three keys that are closer, and so are in the first one too.
    have among : other :: others ⊆ suggested := by
      intro before present
      rcases List.mem_cons.1 present with rfl | inOthers
      · exact listed
      · obtain ⟨known, alike⟩ := also.similar before inOthers
        rcases suggests.complete before known alike with here | ⟨-, closest⟩
        · exact here
        · exact absurd (closest other listed) (closer before inOthers).asymm
    have absent : other ∉ others := fun there => (closer other there).ne rfl
    have most := (List.subperm_of_subset (List.nodup_cons.2 ⟨absent, also.nodup⟩) among).length_le
    have few := suggests.few
    rw [List.length_cons, three] at most
    omega

/-- The suggestions are determined by what is registered. -/
theorem eq (suggests : Suggests registered key suggested)
    (also : Suggests registered key others) : suggested = others := by
  have same : suggested.Perm others :=
    (List.perm_ext_iff_of_nodup suggests.nodup also.nodup).2 fun _ =>
      ⟨suggests.mem_of_mem also, also.mem_of_mem suggests⟩
  refine List.Perm.eq_of_pairwise ?_ suggests.ordered also.ordered same
  intro first second _ _ closer back
  exact absurd back closer.asymm

end Suggests

/-! ## What a registry suggests -/

/-- The bound keys increase. -/
theorem pairwise_keys (registry : Registry) : registry.entries.keys.Pairwise (· < ·) :=
  List.pairwise_map.2 registry.entries.sorted

/-- The keys that are listed are those that are bound. -/
theorem mem_keys_iff {registry : Registry} {other : String} :
    other ∈ registry.entries.keys ↔ ∃ node, registry.entries.get? other = some node := by
  simp [KeyMap.keys, KeyMap.get?_eq_some_iff]

/-- The keys that a search sorts are the similar ones. -/
theorem mem_similarAmong_iff {order : List String} {other : String} :
    other ∈ similarAmong order key ↔ other ∈ order ∧ Similar key other := by
  rw [similarAmong, List.mem_mergeSort, List.mem_filter, Similar]
  simp only [Bool.and_eq_true, decide_eq_true_eq]
  refine and_congr_right fun _ => ?_
  unfold suggestionDistance
  omega

/-- A search through keys that come once each puts the closer of two keys first. -/
theorem pairwise_similarAmong {order : List String} (distinct : order.Nodup) (key : String) :
    (similarAmong order key).Pairwise (Closer key) := by
  have sorted : (similarAmong order key).Pairwise fun first second =>
      notAfter key first second = true := by
    apply List.pairwise_mergeSort
    · exact fun _ _ _ => notAfter_trans
    · exact notAfter_total key
  have once : (similarAmong order key).Nodup :=
    (List.mergeSort_perm _ _).nodup_iff.2 (distinct.filter _)
  refine (sorted.and once).imp fun both => ?_
  exact (notAfter_iff.1 both.1).resolve_right both.2

/-- A search suggests the first three similar keys among those that it looks through. -/
theorem suggests_suggestionsAmong {order : List String} (distinct : order.Nodup) (key : String) :
    Suggests (· ∈ order) key (suggestionsAmong order key) :=
  suggests_take (pairwise_similarAmong distinct key) fun _ => mem_similarAmong_iff

/-- The bound keys are listed once each. -/
theorem nodup_keys (registry : Registry) : registry.entries.keys.Nodup :=
  registry.pairwise_keys.imp Std.ne_of_lt

/-- The suggestions of a registry are the first three similar keys among those that are bound. -/
theorem suggests_suggestions (registry : Registry) (key : String) :
    Suggests (· ∈ registry.entries.keys) key (registry.suggestions key) :=
  suggests_suggestionsAmong registry.nodup_keys key

/-- A search through the bound keys in any order suggests the same. -/
theorem suggestionsAmong_of_perm {registry : Registry} {order : List String}
    (same : order.Perm registry.entries.keys) (key : String) :
    suggestionsAmong order key = registry.suggestions key := by
  have searched := suggests_suggestionsAmong (same.nodup_iff.2 registry.nodup_keys) key
  simp only [same.mem_iff] at searched
  exact searched.eq (registry.suggests_suggestions key)

/-- The suggestions of a registry without a sort: since the bound keys increase, those one edit away
come before those two edits away, each in the order in which they are bound. -/
theorem suggestions_eq_take (registry : Registry) (key : String) :
    registry.suggestions key = (registry.entries.keys.filter (editDistance · key = 1) ++
      registry.entries.keys.filter (editDistance · key = 2)).take 3 := by
  have away {edits : Nat} {other : String}
      (listed : other ∈ registry.entries.keys.filter (editDistance · key = edits)) :
      editDistance other key = edits := of_decide_eq_true (List.mem_filter.1 listed).2
  have group (edits : Nat) :
      (registry.entries.keys.filter (editDistance · key = edits)).Pairwise (Closer key) := by
    refine (registry.pairwise_keys.filter _).imp_of_mem fun {first second} one two less => ?_
    exact .inr ⟨(away one).trans (away two).symm, less⟩
  refine (registry.suggests_suggestions key).eq (suggests_take
    (List.pairwise_append.2 ⟨group 1, group 2, ?_⟩) fun other => ?_)
  · intro first one second two
    refine .inl ?_
    rw [away one, away two]
    exact Nat.one_lt_two
  · simp only [List.mem_append, List.mem_filter, decide_eq_true_eq, ← and_or_left, Similar]

/-- A key is registered after calls when they leave it bound and it is not the parent key. -/
def Registered (parent : String) (calls : List Call) (key : String) : Prop :=
  key ≠ parent ∧ ∃ node, LeaveBound calls key node

/-- A registry that holds what calls leave bound lists the registered keys. -/
theorem Holds.mem_keys_iff {registry : Registry} {parent : String} {container : Option ViewId}
    {calls : List Call} (holds : registry.Holds parent container calls) {other : String} :
    other ∈ registry.entries.keys ↔ Registered parent calls other := by
  simp only [Registry.mem_keys_iff, holds.get?_eq_some_iff, exists_and_left, Registered]

/-- A registry reports a key that is not registered, with the suggestions among the registered
keys. -/
theorem Holds.resolve_eq_unknown {registry : Registry} {parent : String}
    {container : Option ViewId} {calls : List Call}
    (holds : registry.Holds parent container calls) (free : key ≠ parent)
    (missing : ¬Registered parent calls key) :
    ∃ suggested, registry.resolve key = .error (.unknownKey key suggested) ∧
      Suggests (Registered parent calls) key suggested := by
  have unbound (node : Node) : ¬LeaveBound calls key node := fun bound =>
    missing ⟨free, node, bound⟩
  have among := registry.suggests_suggestions key
  simp only [holds.mem_keys_iff] at among
  exact ⟨registry.suggestions key, holds.answers.unknown key free unbound, among⟩

/-- What is reported for a missing key after calls on an initial registry, with the keys that are
suggested. -/
structure ReportsMissing (parent : String) (container : Option ViewId) (calls : List Call)
    (key : String) (suggested : List String) : Prop where
  /-- The key is unknown, and these are the suggestions. -/
  unknown : ((initial parent container).performAll calls).resolve key =
    .error (.unknownKey key suggested)
  /-- They are the first three similar keys among the registered ones, or all of them. -/
  suggests : Suggests (Registered parent calls) key suggested
  /-- No other list is that. -/
  only : ∀ others, Suggests (Registered parent calls) key others → others = suggested
  /-- No key is repeated. -/
  nodup : suggested.Nodup
  /-- The parent key is not suggested. -/
  noParent : parent ∉ suggested
  /-- The missing key is not suggested. -/
  notItself : key ∉ suggested
  /-- A search that looks through the bound keys in any order finds the same. -/
  anyOrder : ∀ order : List String,
    order.Perm ((initial parent container).performAll calls).entries.keys →
      suggestionsAmong order key = suggested
  /-- The same is reported after any other calls, on any other initial registry, that leave the same
  keys registered. -/
  anyHistory : ∀ reserved holder history, key ≠ reserved →
    (∀ other, Registered reserved history other ↔ Registered parent calls other) →
      ((initial reserved holder).performAll history).resolve key =
        .error (.unknownKey key suggested)

/-- Whatever nodes were registered and keys removed, a key that does not resolve and is not the
parent key is reported with the registered keys closest to it: of those one or two edits away the
first three, by distance and then by key. Neither the order of the bindings nor their history
shows. -/
theorem exists_suggestions_of_calls (parent : String) (container : Option ViewId)
    (calls : List Call) (key : String) (free : key ≠ parent)
    (unresolved : ∀ node, ((initial parent container).performAll calls).resolve key ≠ .ok node) :
    ∃ suggested, ReportsMissing parent container calls key suggested := by
  have holds := holds_performAll parent container calls
  have missing : ¬Registered parent calls key := by
    rintro ⟨-, node, bound⟩
    exact unresolved node (holds.answers.resolves key node free bound)
  obtain ⟨suggested, unknown, suggests⟩ := holds.resolve_eq_unknown free missing
  refine ⟨suggested, unknown, suggests, fun others also => also.eq suggests, suggests.nodup,
    fun listed => (suggests.similar parent listed).1.1 rfl, suggests.not_mem, ?_, ?_⟩
  · intro order same
    have given : suggested = ((initial parent container).performAll calls).suggestions key := by
      have among := suggests_suggestions ((initial parent container).performAll calls) key
      simp only [holds.mem_keys_iff] at among
      exact suggests.eq among
    rw [given, suggestionsAmong_of_perm same]
  · intro reserved holder history unreserved alike
    obtain ⟨others, reported, also⟩ :=
      (holds_performAll reserved holder history).resolve_eq_unknown unreserved
        (mt (alike key).1 missing)
    have same : Registered reserved history = Registered parent calls :=
      funext fun other => propext (alike other)
    rw [same] at also
    rw [reported, also.eq suggests]

/-- Of five similar keys the three nearest are suggested, in key order, whatever was registered
first. -/
theorem exists_suggestions_of_calls_five_similar :
    let calls : List Call := [.register "xb" (.view ⟨1⟩), .register "abcd" (.guide ⟨0⟩),
      .register "b" (.view ⟨2⟩), .register "ab" (.view ⟨3⟩), .register "abc" (.view ⟨4⟩),
      .unregister ["ab"], .register "a" (.guide ⟨1⟩)]
    let registry := (initial "parent" (some ⟨0⟩)).performAll calls
    "ab" ≠ "parent" ∧ registry.resolve "ab" = .error (.unknownKey "ab" ["a", "abc", "b"]) ∧
      ∃ suggested, ReportsMissing "parent" (some ⟨0⟩) calls "ab" suggested := by
  intro calls registry
  have reported : registry.resolve "ab" = .error (.unknownKey "ab" ["a", "abc", "b"]) := by
    have unknown : registry.resolve "ab" =
        .error (.unknownKey "ab" (registry.suggestions "ab")) := rfl
    rw [unknown, suggestions_eq_take]
    rfl
  have unresolved (node : Node) : registry.resolve "ab" ≠ .ok node := by
    rw [reported]
    nofun
  exact ⟨by decide, reported,
    exists_suggestions_of_calls "parent" (some ⟨0⟩) calls "ab" (by decide) unresolved⟩

end ViewLayout.Registry
