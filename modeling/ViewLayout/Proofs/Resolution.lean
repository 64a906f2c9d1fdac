import ViewLayout.Metrics
import ViewLayout.Registry
import ViewLayout.Proofs.KeyMap
import ViewLayout.Proofs.Outcome

/-!
# What words stand for

A key stands for a node, an attribute and a relation for the member of the vocabulary they spell,
and a value for a number. For each kind of word there is what it stands for, and the fault it has
when it stands for nothing; looking it up gives the one or reports the other.
-/

namespace ViewLayout

open ViewLayout.Number ViewLayout.Outcome

/-- A symbol names a relation when it is the spelling of that relation. -/
theorem Relation.lookup_eq_ok_iff {word : String} {relation : Relation} :
    Relation.lookup word = .ok relation ↔ word = relation.symbol := by
  unfold Relation.lookup
  constructor
  · intro found
    split at found
    · rename_i known spelled
      obtain rfl := Except.ok.inj found
      exact (symbol_of_ofSymbol? spelled).symm
    · contradiction
  · rintro rfl
    rw [ofSymbol?_symbol]

/-- The symbols of the three relations. -/
theorem Relation.exists_symbol_iff {word : String} :
    (∃ relation : Relation, word = relation.symbol) ↔ word ∈ ["==", ">=", "<="] := by
  simp only [List.mem_cons, List.not_mem_nil, or_false]
  constructor
  · rintro ⟨relation, spelled⟩
    cases relation with
    | equal => exact .inl spelled
    | greaterOrEqual => exact .inr (.inl spelled)
    | lessOrEqual => exact .inr (.inr spelled)
  · rintro (spelled | spelled | spelled)
    · exact ⟨.equal, spelled⟩
    · exact ⟨.greaterOrEqual, spelled⟩
    · exact ⟨.lessOrEqual, spelled⟩

/-- What is wrong with the symbol of a relation. -/
def Relation.fault? (word : String) : Option Fault :=
  if word ∈ ["==", ">=", "<="] then none else some (.unknownRelation word)

/-- Looking a relation up reports what is wrong with its symbol. -/
theorem Relation.lookup_reports (word : String) :
    Reports (Relation.lookup word) (Relation.fault? word) := by
  unfold Relation.fault?
  by_cases known : word ∈ ["==", ">=", "<="]
  · obtain ⟨relation, spelled⟩ := exists_symbol_iff.2 known
    rw [if_pos known, lookup_eq_ok_iff.2 spelled]
    exact .ok
  · rw [if_neg known]
    unfold Relation.lookup
    cases found : ofSymbol? word with
    | some relation =>
      have spelled := (symbol_of_ofSymbol? found).symm
      exact absurd (exists_symbol_iff.1 ⟨relation, spelled⟩) known
    | none => exact .error

/-- A single equals sign is no relation. -/
example : Relation.fault? "=" = some (.unknownRelation "=") := by decide

/-- A word names an attribute when it is the spelling of that attribute. -/
theorem Attribute.lookup_eq_ok_iff {word : String} {edge : Attribute} :
    Attribute.lookup word = .ok edge ↔ word = edge.keyword := by
  unfold Attribute.lookup
  constructor
  · intro found
    split at found
    · rename_i known spelled
      obtain rfl := Except.ok.inj found
      exact (keyword_of_ofKeyword? spelled).symm
    · contradiction
  · rintro rfl
    rw [ofKeyword?_keyword]

/-- The words of all attributes are listed. -/
theorem Attribute.keyword_mem (edge : Attribute) :
    edge.keyword ∈ Attribute.all.map Attribute.keyword := by
  cases edge <;> decide

/-- What is wrong with the word of an attribute. -/
def Attribute.fault? (word : String) : Option Fault :=
  if word ∈ Attribute.all.map Attribute.keyword then none else some (.unknownAttribute word)

/-- Looking an attribute up reports what is wrong with its word. -/
theorem Attribute.lookup_reports (word : String) :
    Reports (Attribute.lookup word) (Attribute.fault? word) := by
  unfold Attribute.fault?
  by_cases known : word ∈ Attribute.all.map Attribute.keyword
  · obtain ⟨edge, -, spelled⟩ := List.mem_map.1 known
    rw [if_pos known, lookup_eq_ok_iff.2 spelled.symm]
    exact .ok
  · rw [if_neg known]
    unfold Attribute.lookup
    cases found : ofKeyword? word with
    | some edge =>
      have listed := edge.keyword_mem
      rw [keyword_of_ofKeyword? found] at listed
      exact absurd listed known
    | none => exact .error

namespace Registry

/-- A key stands for something: the parent key for the container, when there is one, and any
other key for what is registered under it. -/
def Knows (registry : Registry) (key : String) : Prop :=
  if key = registry.parentKey then registry.container ≠ none
  else ∃ node, registry.entries.get? key = some node

/-- What is wrong with a key. -/
def fault? (registry : Registry) (key : String) : Option Fault :=
  if key = registry.parentKey then
    if registry.container = none then some (.parentUnresolved key) else none
  else if registry.entries.contains key then none
  else some (.unknownKey key (registry.suggestions key))

/-- Looking a key up reports what is wrong with it. -/
theorem resolve_reports (registry : Registry) (key : String) :
    Reports (registry.resolve key) (registry.fault? key) := by
  unfold resolve fault?
  by_cases parent : key = registry.parentKey
  · rw [if_pos parent, if_pos parent]
    cases registry.container with
    | none => exact .error
    | some view => exact .ok
  · rw [if_neg parent, if_neg parent, KeyMap.contains]
    cases registry.entries.get? key with
    | none => exact .error
    | some node => exact .ok

/-- The keys that stand for something are found. -/
theorem exists_resolve_iff {registry : Registry} {key : String} :
    (∃ node, registry.resolve key = .ok node) ↔ registry.Knows key := by
  rw [(registry.resolve_reports key).exists_ok_iff]
  unfold fault? Knows
  by_cases parent : key = registry.parentKey
  · rw [if_pos parent, if_pos parent]
    cases registry.container <;> simp
  · rw [if_neg parent, if_neg parent, KeyMap.contains]
    cases registry.entries.get? key <;> simp

/-- Any key but the parent key can be registered, and is bound over what it was bound to. -/
theorem register_eq_ok_iff {registry after : Registry} {key : String} {node : Node} :
    registry.register key node = .ok after ↔
      key ≠ registry.parentKey ∧
        after = { registry with entries := registry.entries.insert key node } := by
  unfold register
  by_cases reserved : key = registry.parentKey
  · rw [if_pos reserved]
    exact ⟨nofun, fun free => absurd reserved free.1⟩
  · rw [if_neg reserved, Except.ok.injEq, eq_comm]
    exact (and_iff_right reserved).symm

/-- A key that is registered stands for its node, and any other key for what it stood for. -/
theorem resolve_of_register {registry after : Registry} {key : String} {node : Node}
    (done : registry.register key node = .ok after) :
    after.parentKey = registry.parentKey ∧ after.container = registry.container ∧
      after.resolve key = .ok node ∧
      ∀ other found, other ≠ key → registry.resolve other = .ok found →
        after.resolve other = .ok found := by
  obtain ⟨free, rfl⟩ := register_eq_ok_iff.1 done
  refine ⟨rfl, rfl, ?_, fun other found different resolved => ?_⟩
  · simp only [resolve, if_neg free, KeyMap.get?_insert, if_true]
  · unfold resolve at resolved ⊢
    split at resolved
    · rename_i reserved
      rw [if_pos reserved]
      exact resolved
    · rename_i unreserved
      rw [if_neg unreserved, KeyMap.get?_insert, if_neg different]
      split at resolved
      · exact resolved
      · contradiction

end Registry

namespace Metrics

/-- The number a written value stands for: the metric it names, or the number it writes out. -/
def value? (metrics : Metrics) (text : String) : Option Binary64 :=
  if isName text then metrics.get? text else Binary.read? text

/-- What is wrong with a value. -/
def fault? (metrics : Metrics) (text : String) : Option Fault :=
  if metrics.value? text = none then
    some (if isName text then .unknownMetric text else .malformedNumber text)
  else none

/-- Looking a value up gives the number it stands for. -/
theorem resolve_eq_ok_iff {metrics : Metrics} {text : String} {number : Binary64} :
    metrics.resolve text = .ok number ↔ metrics.value? text = some number := by
  unfold resolve value?
  by_cases named : isName text
  · rw [if_pos named, if_pos named]
    cases metrics.get? text <;> simp
  · rw [if_neg named, if_neg named]
    cases (Binary.read? text : Option Binary64) <;> simp

/-- Looking a value up reports what is wrong with it. -/
theorem resolve_reports (metrics : Metrics) (text : String) :
    Reports (metrics.resolve text) (metrics.fault? text) := by
  unfold fault?
  cases known : metrics.value? text with
  | some number =>
    rw [resolve_eq_ok_iff.2 known]
    exact .ok
  | none =>
    unfold value? at known
    unfold resolve
    by_cases named : isName text
    · rw [if_pos named] at known
      rw [if_pos named, if_pos named, known]
      exact .error
    · rw [if_neg named] at known
      rw [if_neg named, if_neg named, known]
      exact .error

end Metrics

end ViewLayout
