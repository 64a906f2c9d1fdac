import ViewLayout.Proofs.Builder.Applying
import ViewLayout.Proofs.Chain.Turned
import ViewLayout.Proofs.Host.Inventory
import ViewLayout.Proofs.Host.Moving

/-!
# Layouts along the two axes

Two layouts that are built alike along the two axes, from one state, differ in the constraints that
were applied since, and there only by their attributes: each descriptor of the one is the turned
descriptor of the other, on the same nodes.

Whatever is done to both keeps them so, or fails for both. Registering and attaching do not look at
constraints, and a text is stored once its keys are found, which turning does not change.
-/

namespace ViewLayout

open ViewLayout.Outcome

/-- The constraint with its attributes turned, on the same nodes. -/
def Applied.turned (applied : Applied) : Applied :=
  { applied with descriptor := applied.descriptor.onEdges Attribute.turned }

/-- One text became the turned constraints of another, under the same handles. -/
structure AppliedText.Turned (first second : AppliedText) : Prop where
  /-- The descriptors correspond one to one. -/
  descriptors : second.descriptors = first.descriptors.map (Descriptor.onEdges Attribute.turned)
  /-- The handles are the same. -/
  handles : second.handles = first.handles

/-- Since a common start, what was applied in one layout is turned in the other, and all else is the
same in both. -/
structure Builder.Turned (start first second : Builder) : Prop where
  /-- The constraints of the hosts correspond one to one. -/
  constraints : ∃ added, first.host.constraints = start.host.constraints ++ added ∧
    second.host.constraints = start.host.constraints ++ added.map Applied.turned
  /-- The applied texts correspond one to one. -/
  applied : ∃ texts others, first.applied = start.applied ++ texts ∧
    second.applied = start.applied ++ others ∧ List.Forall₂ AppliedText.Turned texts others
  /-- The container is that of the start. -/
  container : first.container = start.container
  /-- Nothing else differs. -/
  alike : ∃ constraints applied,
    second = { first with host := first.host.withConstraints constraints, applied }

namespace Host

/-- Turning a descriptor turns the constraint it becomes, and a host with other constraints finds
the same nodes. -/
theorem resolveDescriptor_onEdges (host : Host) (constraints : List Applied) (registry : Registry)
    (descriptor : Descriptor) :
    (host.withConstraints constraints).resolveDescriptor registry
        (descriptor.onEdges Attribute.turned) =
      (host.resolveDescriptor registry descriptor).map Applied.turned := by
  obtain ⟨first, relation, second, multiplier, constant, priority⟩ := descriptor
  simp only [resolveDescriptor, Descriptor.onEdges, map_of_bind]
  cases second <;> rfl

/-- Turning descriptors turns the constraints they become. -/
theorem resolveDescriptors_onEdges (host : Host) (constraints : List Applied) (registry : Registry)
    (descriptors : List Descriptor) :
    (descriptors.map (Descriptor.onEdges Attribute.turned)).mapM
        ((host.withConstraints constraints).resolveDescriptor registry) =
      (descriptors.mapM (host.resolveDescriptor registry)).map (List.map Applied.turned) := by
  rw [← mapM_map, List.mapM_map]
  congr 1
  funext descriptor
  exact resolveDescriptor_onEdges host constraints registry descriptor

end Host

namespace Builder

/-- At the start the two layouts are the same. -/
theorem Turned.refl (start : Builder) : Turned start start start where
  constraints := ⟨[], (List.append_nil _).symm, (List.append_nil _).symm⟩
  applied := ⟨[], [], (List.append_nil _).symm, (List.append_nil _).symm, .nil⟩
  container := rfl
  alike := ⟨start.host.constraints, start.applied, rfl⟩

namespace Turned

variable {start first second : Builder} (turned : Turned start first second)

include turned

/-- The same keys are in use in both layouts. -/
theorem registry_eq : second.registry = first.registry := by
  obtain ⟨constraints, applied, rfl⟩ := turned.alike
  rfl

/-- The same metrics are set in both layouts. -/
theorem withMetrics (metrics : Metrics) :
    Turned start (first.withMetrics metrics) (second.withMetrics metrics) := by
  obtain ⟨added, texts, container, constraints, applied, rfl⟩ := turned
  exact ⟨added, texts, container, constraints, applied, rfl⟩

/-- A node is registered in both layouts or in neither. -/
theorem register (key : String) (node : Node) :
    Together (Turned start) (first.register key node) (second.register key node) := by
  obtain ⟨added, texts, container, constraints, applied, rfl⟩ := turned
  unfold Builder.register
  cases first.registry.register key node with
  | error fault => exact .error _ _
  | ok registry => exact .ok ⟨added, texts, container, constraints, applied, rfl⟩

/-- A view is attached in both layouts or in neither. -/
theorem attach (parent child : ViewId) :
    Together (Turned start) (first.attach parent child) (second.attach parent child) := by
  obtain ⟨added, texts, container, constraints, applied, rfl⟩ := turned
  unfold Builder.attach
  rw [Host.attach_withConstraints]
  cases attached : first.host.attach parent child with
  | error fault => exact .error _ _
  | ok host =>
    have kept : host.constraints = first.host.constraints :=
      Host.constraints_of_inventory (Host.inventory_of_attach attached)
    rw [← kept] at added
    exact .ok ⟨added, texts, container, constraints, applied, rfl⟩

/-- A view is added to both layouts or to neither. -/
theorem addView (key : String) (view : ViewId) :
    Together (Turned start) (first.addView key view) (second.addView key view) := by
  refine (turned.register key (.view view)).bind fun next found turned => ?_
  obtain ⟨constraints, applied, rfl⟩ := turned.alike
  exact turned.attach next.container view

/-- What texts are compiled to is stored in both layouts or in neither, if it corresponds. -/
theorem addConstraint {raw other : String} {priority : Option Priority}
    (compiled : Together
      (fun descriptors others => others = descriptors.map (Descriptor.onEdges Attribute.turned))
      (Constraint.compile raw first.host.spacing first.registry first.metrics priority)
      (Constraint.compile other first.host.spacing first.registry first.metrics priority)) :
    Together (Turned start) (first.addConstraint raw priority)
      (second.addConstraint other priority) := by
  obtain ⟨⟨added, here, there⟩, ⟨texts, others, before, behind, matched⟩, container, constraints,
    applied, rfl⟩ := turned
  rw [addConstraint_eq, addConstraint_eq]
  refine compiled.bind ?_
  rintro descriptors _ rfl
  have resolved := Host.resolveDescriptors_onEdges first.host constraints first.registry descriptors
  dsimp only
  rw [resolved]
  cases descriptors.mapM (first.host.resolveDescriptor first.registry) with
  | error fault => exact .error _ _
  | ok stored =>
    have counted : constraints.length = first.host.constraints.length := by
      rw [here, show constraints = _ from there]
      simp
    let text : AppliedText := ⟨raw, descriptors, first.host.nextHandles descriptors.length⟩
    let turnedDescriptors := descriptors.map (Descriptor.onEdges Attribute.turned)
    let turnedText : AppliedText := ⟨other, turnedDescriptors,
      (first.host.withConstraints constraints).nextHandles turnedDescriptors.length⟩
    refine .ok ⟨⟨added ++ stored, ?_, ?_⟩, ⟨texts ++ [text], others ++ [turnedText], ?_, ?_, ?_⟩,
      container, _, _, rfl⟩
    · exact (congrArg (· ++ stored) here).trans (List.append_assoc ..)
    · rw [List.map_append]
      exact (congrArg (· ++ stored.map Applied.turned) there).trans (List.append_assoc ..)
    · exact (congrArg (· ++ [text]) before).trans (List.append_assoc ..)
    · exact (congrArg (· ++ [turnedText]) behind).trans (List.append_assoc ..)
    · refine List.rel_append matched (.cons ⟨rfl, ?_⟩ .nil)
      simp only [text, turnedText, turnedDescriptors, Host.nextHandles, Host.withConstraints,
        counted, List.length_map]

end Turned

end Builder

end ViewLayout
