import ViewLayout.Constraint
import ViewLayout.Proofs.Equation.Lowering

/-!
# What compiling can report

Compiling looks words up and reads texts. A refusal of the host is no such thing: whatever text is
compiled, against whatever keys and metrics, the error is never one.
-/

namespace ViewLayout

open ViewLayout.Text ViewLayout.Outcome

/-- The refusal of the host that an error is, if it is one. -/
def ConstraintError.hostFault? : ConstraintError → Option HostFault
  | .bare (.host fault) => some fault
  | .within _ _ (.host fault) => some fault
  | _ => none

namespace Equation

/-- The error of a word is no refusal of the host when what is wrong with the word is none. -/
theorem hostFault?_of_wordError? {raw : String} {word : Spanned String} {fault : Option Fault}
    {error : ConstraintError} (ours : ∀ refusal, fault ≠ some (.host refusal))
    (found : wordError? raw word fault = some error) : error.hostFault? = none := by
  obtain ⟨wrong, present, rfl⟩ := Option.map_eq_some_iff.1 found
  cases wrong with
  | host refusal => exact absurd present (ours refusal)
  | _ => rfl

/-- What is wrong with a key is no refusal of the host. -/
theorem fault?_key_ne_host (registry : Registry) (key : String) (refusal : HostFault) :
    registry.fault? key ≠ some (.host refusal) := by
  unfold Registry.fault?
  split_ifs <;> simp

/-- What is wrong with a value is no refusal of the host. -/
theorem fault?_value_ne_host (metrics : Metrics) (text : String) (refusal : HostFault) :
    metrics.fault? text ≠ some (.host refusal) := by
  unfold Metrics.fault?
  split_ifs <;> simp

/-- What is wrong with the word of an attribute is no refusal of the host. -/
theorem fault?_attribute_ne_host (word : String) (refusal : HostFault) :
    Attribute.fault? word ≠ some (.host refusal) := by
  unfold Attribute.fault?
  split_ifs <;> simp

/-- What is wrong with the symbol of a relation is no refusal of the host. -/
theorem fault?_relation_ne_host (word : String) (refusal : HostFault) :
    Relation.fault? word ≠ some (.host refusal) := by
  unfold Relation.fault?
  split_ifs <;> simp

/-- The error of the value of a clause is no refusal of the host. -/
theorem hostFault?_of_valueError? {Operator : Type} {raw : String} {metrics : Metrics}
    {clause : Option (Clause Operator)} {error : ConstraintError}
    (found : valueError? raw metrics clause = some error) : error.hostFault? = none := by
  obtain ⟨written, -, wrong⟩ := Option.bind_eq_some_iff.1 found
  exact hostFault?_of_wordError? (fault?_value_ne_host metrics _) wrong

/-- The error of a divisor is no refusal of the host. -/
theorem hostFault?_of_divisorError? {raw : String} {metrics : Metrics} {e : Equation}
    {error : ConstraintError} (found : e.divisorError? raw metrics = some error) :
    error.hostFault? = none := by
  unfold divisorError? at found
  split at found
  · split at found
    · obtain rfl := Option.some.inj found
      rfl
    · contradiction
  · contradiction

/-- The error of an equation is no refusal of the host. -/
theorem hostFault?_of_compile {raw : String} {registry : Registry} {metrics : Metrics}
    {error : ConstraintError} (failed : compile raw registry metrics = .error error) :
    error.hostFault? = none := by
  cases parsed : parse raw with
  | error rejection =>
    rw [compile_of_rejected parsed] at failed
    obtain rfl := Except.error.inj failed
    rfl
  | ok e =>
    rw [compile_of_parse parsed] at failed
    obtain ⟨check, listed, found⟩ :=
      List.exists_of_findSome?_eq_some ((lower_reports raw registry metrics e error).1 failed)
    obtain rfl : check = some error := found
    simp only [errors, List.mem_cons, List.not_mem_nil, or_false] at listed
    rcases listed with key | key | edge | edge | relation | factor | divisor | term
    · exact hostFault?_of_wordError? (fault?_key_ne_host registry _) key.symm
    · exact hostFault?_of_wordError? (fault?_key_ne_host registry _) key.symm
    · exact hostFault?_of_wordError? (fault?_attribute_ne_host _) edge.symm
    · exact hostFault?_of_wordError? (fault?_attribute_ne_host _) edge.symm
    · exact hostFault?_of_wordError? (fault?_relation_ne_host _) relation.symm
    · exact hostFault?_of_valueError? factor.symm
    · exact hostFault?_of_divisorError? divisor.symm
    · exact hostFault?_of_valueError? term.symm

end Equation

/-- The error of constraint text is no refusal of the host. -/
theorem Constraint.hostFault?_of_compile {raw : String} {spacing : Spacing} {registry : Registry}
    {metrics : Metrics} {priority : Option Priority} {error : ConstraintError}
    (failed : compile raw spacing registry metrics priority = .error error) :
    error.hostFault? = none := by
  have lowered := map_eq_error_iff.1 failed
  unfold descriptors at lowered
  split at lowered
  · exact Equation.hostFault?_of_compile (map_eq_error_iff.1 lowered)
  · obtain ⟨rejection, -, rfl⟩ := mapError_eq_error_iff.1 lowered
    rfl

end ViewLayout
