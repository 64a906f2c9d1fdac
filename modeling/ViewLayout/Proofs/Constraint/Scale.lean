import ViewLayout.Constraint
import ViewLayout.Proofs.Chain.Requirements
import ViewLayout.Proofs.Equation.Lowering
import ViewLayout.Proofs.Number.Rounding

/-!
# The scale of priorities

Priorities lie on a scale from 0 to 1000. A priority that is written in a chain, as a number or as a
metric, is compared with the ends of the scale before it is rounded to the format of priorities;
rounding keeps the order of numbers, so it does not leave the scale again. An equation has no
priority. What a text compiles to by itself is therefore on the scale.

A priority that is given along with a text is compared with nothing. It takes the place of those
written in the text, wherever it lies.
-/

namespace ViewLayout

open ViewLayout.Number ViewLayout.Text ViewLayout.Outcome

/-! ## Places on the scale -/

/-- A priority is a finite number from 0 to 1000. -/
def Priority.OnScale (priority : Priority) : Prop :=
  ∃ q, priority.value.toRat? = some q ∧ 0 ≤ q ∧ q ≤ 1000

/-- A priority is on the scale when it lies between the ends of the scale. -/
theorem Priority.onScale_iff {priority : Priority} :
    priority.OnScale ↔
      Binary.atMost 0 priority.value = true ∧ priority.value.atMost 1000 = true := by
  have lowest : (0 : Binary32).toRat? = some 0 := by decide +kernel
  have highest : (1000 : Binary32).toRat? = some 1000 := by decide +kernel
  exact (Binary.atMost_between_iff lowest highest).symm

instance (weight : Priority) : Decidable weight.OnScale :=
  decidable_of_iff _ Priority.onScale_iff.symm

namespace Chain

/-- A value on the scale stays there when it becomes a priority. -/
theorem OnPriorityScale.onScale {value : Binary64} (inside : OnPriorityScale value) :
    Priority.OnScale ⟨value.convert Format.single⟩ := by
  have finite : 0 < Format.double.infiniteRank := by decide
  have compared := onPriorityScale_iff.2 inside
  rw [Bool.and_eq_true] at compared
  have low := Binary.atMost_convert Format.single finite compared.1
  have high := Binary.atMost_convert Format.single finite compared.2
  have zero : (0 : Binary64).convert Format.single = 0 := by decide +kernel
  have thousand : (1000 : Binary64).convert Format.single = 1000 := by decide +kernel
  rw [zero] at low
  rw [thousand] at high
  exact Priority.onScale_iff.2 ⟨low, high⟩

/-- The priority that a predicate stands for is on the scale. -/
theorem Predicate.Weighs.onScale {metrics : Metrics} {predicate : Predicate}
    {priority : Option Priority} (weighs : predicate.Weighs metrics priority) :
    ∀ weight ∈ priority, weight.OnScale := by
  unfold Predicate.Weighs at weighs
  split at weighs
  · obtain ⟨value, -, inside, rfl⟩ := weighs
    intro weight given
    obtain rfl := Option.some.inj given
    exact inside.onScale
  · rw [weighs]
    exact nofun

/-- The priority of a descriptor that states a requirement is on the scale. -/
theorem Requirement.Met.onScale {registry : Registry} {metrics : Metrics}
    {requirement : Requirement} {descriptor : Descriptor}
    (met : requirement.Met registry metrics descriptor) :
    ∀ weight ∈ descriptor.priority, weight.OnScale := by
  cases met with
  | gap => exact nofun
  | spaced _ _ weighs => exact weighs.onScale
  | likeItem _ _ _ weighs => exact weighs.onScale
  | likeValue _ _ _ weighs => exact weighs.onScale

/-- The priorities that a chain is compiled to are on the scale. -/
theorem onScale_of_compile {raw : String} {spacing : Spacing} {registry : Registry}
    {metrics : Metrics} {ds : List Descriptor}
    (compiled : compile raw spacing registry metrics = .ok ds) :
    ∀ d ∈ ds, ∀ weight ∈ d.priority, weight.OnScale := by
  obtain ⟨chain, -, -, stated⟩ := compile_eq_ok_iff.1 compiled
  intro d present
  obtain ⟨requirement, -, met⟩ := exists_mem_of_forall₂ stated present
  exact met.onScale

/-- A chain with a priority that is not on the scale is not compiled. -/
theorem exists_error_of_off_scale {raw : String} {spacing : Spacing} {registry : Registry}
    {metrics : Metrics} {chain : Chain} {predicate : Predicate} {object : Spanned Object}
    {value : Binary64} (parsed : parse raw = .ok chain) (listed : predicate ∈ chain.predicates)
    (written : predicate.priority = some object)
    (stands : metrics.value? object.value.text = some value) (off : ¬OnPriorityScale value) :
    ∃ rejection, compile raw spacing registry metrics = .error rejection := by
  cases compiled : compile raw spacing registry metrics with
  | error rejection => exact ⟨rejection, rfl⟩
  | ok ds =>
    obtain ⟨other, same, views, stated⟩ := compile_eq_ok_iff.1 compiled
    obtain rfl := Except.ok.inj (parsed.symm.trans same)
    have resolvable := resolvable_iff.2 ⟨views, ds, stated⟩
    obtain ⟨found, resolved, inside⟩ := resolvable.priorities predicate listed object written
    obtain rfl := Option.some.inj (stands.symm.trans resolved)
    exact absurd inside off

end Chain

namespace Constraint

variable {raw : String} {spacing : Spacing} {registry : Registry} {metrics : Metrics}

/-- The priorities that are written in a text are compiled to priorities on the scale. -/
theorem onScale_of_descriptors {ds : List Descriptor}
    (compiled : descriptors raw spacing registry metrics = .ok ds) :
    ∀ d ∈ ds, ∀ weight ∈ d.priority, weight.OnScale := by
  unfold descriptors at compiled
  split at compiled
  · obtain ⟨d, lowered, rfl⟩ := map_eq_ok_iff.1 compiled
    obtain ⟨_, -, -, describes⟩ := Equation.compile_eq_ok_iff.1 lowered
    rw [List.forall_mem_singleton, describes.priority]
    exact nofun
  · exact Chain.onScale_of_compile (mapError_eq_ok_iff.1 compiled)

/-- A text compiles with a given priority when it compiles without, to the same descriptors but for
their priorities. -/
theorem compile_some (priority : Priority) :
    compile raw spacing registry metrics (some priority) =
      (compile raw spacing registry metrics none).map
        (List.map ({ · with priority := some priority })) := by
  unfold compile
  cases descriptors raw spacing registry metrics <;> rfl

/-- A chain with a priority that is not on the scale is refused, whether or not a priority is given
along with it. -/
theorem exists_error_of_off_scale {chain : Chain} {predicate : Chain.Predicate}
    {object : Spanned Chain.Object} {value : Binary64} (notEquation : isEquation raw = false)
    (parsed : Chain.parse raw = .ok chain) (listed : predicate ∈ chain.predicates)
    (written : predicate.priority = some object)
    (stands : metrics.value? object.value.text = some value) (off : ¬Chain.OnPriorityScale value)
    (priority : Option Priority) :
    ∃ error, compile raw spacing registry metrics priority = .error error := by
  obtain ⟨rejection, refused⟩ : ∃ rejection,
      Chain.compile raw spacing registry metrics = .error rejection :=
    Chain.exists_error_of_off_scale parsed listed written stands off
  refine ⟨.rejected raw rejection.fault rejection.span, ?_⟩
  rw [compile, descriptors, notEquation, if_neg Bool.false_ne_true, refused]
  rfl

/-- Without a priority given along with it, every text compiles to priorities on the scale. A given
priority is put in their place unchecked, so that the descriptors of a text are on the scale exactly
when it is. A priority written in a chain, as a number or as a metric, is refused off the scale in
either case. -/
theorem priorities_on_scale (raw : String) (spacing : Spacing) (registry : Registry)
    (metrics : Metrics) :
    (∀ ds, compile raw spacing registry metrics none = .ok ds →
      ∀ d ∈ ds, ∀ weight ∈ d.priority, weight.OnScale) ∧
    (∀ priority : Priority,
      compile raw spacing registry metrics (some priority) =
          (compile raw spacing registry metrics none).map
            (List.map ({ · with priority := some priority })) ∧
        ∀ ds, compile raw spacing registry metrics (some priority) = .ok ds → ∀ d ∈ ds,
          (∀ weight ∈ d.priority, weight.OnScale) ↔ priority.OnScale) ∧
    ∀ chain, isEquation raw = false → Chain.parse raw = .ok chain →
      ∀ predicate ∈ chain.predicates, ∀ object ∈ predicate.priority,
        ∀ value ∈ metrics.value? object.value.text, ¬Chain.OnPriorityScale value →
          ∀ priority, ∃ error, compile raw spacing registry metrics priority = .error error := by
  refine ⟨fun ds compiled => ?_, fun priority => ⟨compile_some priority, fun ds compiled => ?_⟩,
    fun chain notEquation parsed predicate listed object written value stands off => ?_⟩
  · obtain ⟨written, lowered, rfl⟩ := map_eq_ok_iff.1 compiled
    exact onScale_of_descriptors lowered
  · rw [compile_some] at compiled
    obtain ⟨written, -, rfl⟩ := map_eq_ok_iff.1 compiled
    intro d present
    obtain ⟨original, -, rfl⟩ := List.mem_map.1 present
    simp only [Option.mem_def, Option.some.injEq, forall_eq']
  · exact exists_error_of_off_scale notEquation parsed listed written stands off

/-- A metric may stand for a priority on the scale, and a given priority takes its place. A metric
off the scale is refused whatever is given. -/
theorem priorities_on_scale_of_metrics :
    let registry : Registry := ⟨"parent", some ⟨0⟩, .ofList [("a", .view ⟨1⟩)]⟩
    let metrics : Metrics := .ofList [("firm", 700), ("beyond", 2000)]
    let compile := fun raw => compile raw ⟨8, 20⟩ registry metrics
    (∃ ds, compile "H:[a(10@firm)]" none = .ok ds ∧ ds.map (·.priority) = [some ⟨700⟩] ∧
      ∀ d ∈ ds, ∀ weight ∈ d.priority, weight.OnScale) ∧
    (∃ ds, compile "H:[a(10@firm)]" (some ⟨500⟩) = .ok ds ∧ ds.map (·.priority) = [some ⟨500⟩] ∧
      ∀ d ∈ ds, ∀ weight ∈ d.priority, weight.OnScale) ∧
    ∀ priority, ∃ error, compile "H:[a(10@beyond)]" priority = .error error := by
  intro registry metrics compile
  have written : ∃ ds ∈ (compile "H:[a(10@firm)]" none).toOption,
      ds.map (·.priority) = [some ⟨700⟩] := by decide +kernel
  have given : ∃ ds ∈ (compile "H:[a(10@firm)]" (some ⟨500⟩)).toOption,
      ds.map (·.priority) = [some ⟨500⟩] := by decide +kernel
  have refused : ∃ chain ∈ (Chain.parse "H:[a(10@beyond)]").toOption,
      ∃ predicate ∈ chain.predicates, ∃ object ∈ predicate.priority,
        metrics.value? object.value.text = some 2000 := by decide +kernel
  obtain ⟨ds, found, values⟩ := written
  obtain ⟨es, others, otherValues⟩ := given
  obtain ⟨chain, parsed, predicate, listed, object, priority, stands⟩ := refused
  have compiled := eq_ok_of_toOption found
  have replaced := eq_ok_of_toOption others
  obtain ⟨alone, -, -⟩ := priorities_on_scale "H:[a(10@firm)]" ⟨8, 20⟩ registry metrics
  obtain ⟨-, along, -⟩ := priorities_on_scale "H:[a(10@firm)]" ⟨8, 20⟩ registry metrics
  obtain ⟨-, -, off⟩ := priorities_on_scale "H:[a(10@beyond)]" ⟨8, 20⟩ registry metrics
  refine ⟨⟨ds, compiled, values, alone ds compiled⟩, ⟨es, replaced, otherValues, ?_⟩, ?_⟩
  · exact fun e present => ((along ⟨500⟩).2 es replaced e present).2 (by decide +kernel)
  · refine off chain (by decide) (eq_ok_of_toOption parsed) predicate listed object priority 2000
      stands ?_
    rw [← Chain.onPriorityScale_iff]
    decide +kernel

/-- A priority off the scale is refused where it is written in a chain, as a number or as a metric.
Given along with a chain or an equation, it is taken. -/
theorem exists_off_scale_taken :
    let registry : Registry := ⟨"parent", some ⟨0⟩, .ofList [("a", .view ⟨1⟩), ("b", .view ⟨2⟩)]⟩
    let metrics : Metrics := .ofList [("beyond", 2000)]
    let compile := fun raw => compile raw ⟨8, 20⟩ registry metrics
    ¬Priority.OnScale ⟨2000⟩ ∧ ¬Priority.OnScale ⟨-1⟩ ∧
      (compile "H:[a(10@2000)]" none).toOption = none ∧
      (compile "H:[a(10@beyond)]" none).toOption = none ∧
      compile "H:|[a]" (some ⟨2000⟩) =
        .ok [{ first := ⟨"a", .leading⟩, relation := .equal, second := some ⟨"parent", .leading⟩,
               priority := some ⟨2000⟩ }] ∧
      compile "X: a.top == b.top" (some ⟨-1⟩) =
        .ok [{ first := ⟨"a", .top⟩, relation := .equal, second := some ⟨"b", .top⟩,
               priority := some ⟨-1⟩ }] := by
  intro registry metrics compile
  refine ⟨?_, ?_, ?_, ?_, eq_ok_of_toOption ?_, eq_ok_of_toOption ?_⟩ <;> decide +kernel

end Constraint

end ViewLayout
