import ViewLayout.Constraint
import ViewLayout.Proofs.Outcome

/-!
# The gaps of bare dashes

The gap of a bare dash is not written in the text. It depends on what the dash stands between, and
on the standard gaps that the text is compiled with. Nothing else does: with other standard gaps a
text is compiled, or refused with the same error, all the same, and its descriptors are the same but
for the constants of its bare dashes.
-/

namespace ViewLayout

open ViewLayout.Number ViewLayout.Outcome

/-- Descriptors that are the same but for their constants are the same when these are. -/
theorem Descriptor.eq_of_rest {d other : Descriptor}
    (rest : { d with constant := 0 } = { other with constant := 0 })
    (constants : d.constant = other.constant) : d = other :=
  calc d = { { d with constant := 0 } with constant := d.constant } := rfl
    _ = { { other with constant := 0 } with constant := other.constant } := by rw [rest, constants]
    _ = other := rfl

/-- What a bare dash stands between. -/
inductive Dash where
  /-- Two views. -/
  | sibling
  /-- A view and the container's edge. -/
  | superview
deriving DecidableEq, Repr

/-- The gap of a bare dash. -/
def Spacing.gap (spacing : Spacing) : Dash → Binary64
  | .sibling => spacing.sibling
  | .superview => spacing.superview

/-- The dash that a connection is, if it is a bare one. -/
def Chain.Connection.dashes (dash : Dash) : Connection → List Dash
  | .standard => [dash]
  | .flush | .explicit _ => []

/-- The bare dashes of a chain, from first to last. -/
def Chain.dashes (chain : Chain) : List Dash :=
  chain.leading.toList.flatMap (·.dashes .superview)
    ++ chain.rest.flatMap (·.1.dashes .sibling)
    ++ chain.trailing.toList.flatMap (·.dashes .superview)

/-- The bare dashes of a text. An equation has none, and neither has a text that is not read. -/
def Constraint.dashes (raw : String) : List Dash :=
  if isEquation raw then []
  else
    match Chain.parse raw with
    | .ok chain => chain.dashes
    | .error _ => []

/-- Descriptors that one text becomes with the gaps `first` and with the gaps `second`, when it has
the given bare dashes. -/
structure VaryBy (first second : Spacing) (dashes : List Dash) (left right : List Descriptor) :
    Prop where
  /-- They are the same but for their constants. -/
  rest : left.map ({ · with constant := 0 }) = right.map ({ · with constant := 0 })
  /-- They have the same constants exactly when every dash has the same gap. -/
  constants : left.map Descriptor.constant = right.map Descriptor.constant ↔
    ∀ dash ∈ dashes, first.gap dash = second.gap dash

namespace VaryBy

variable {first second : Spacing} {dashes more : List Dash}
  {left right leftMore rightMore : List Descriptor}

/-- Without a bare dash there is nothing to vary. -/
theorem refl (descriptors : List Descriptor) : VaryBy first second [] descriptors descriptors :=
  ⟨rfl, iff_of_true rfl nofun⟩

/-- There are as many descriptors with other gaps. -/
theorem length_eq (vary : VaryBy first second dashes left right) : left.length = right.length := by
  simpa only [List.length_map] using congrArg List.length vary.rest

/-- Parts of a text one after the other vary by the dashes of both. -/
theorem append (vary : VaryBy first second dashes left right)
    (later : VaryBy first second more leftMore rightMore) :
    VaryBy first second (dashes ++ more) (left ++ leftMore) (right ++ rightMore) where
  rest := by rw [List.map_append, List.map_append, vary.rest, later.rest]
  constants := by
    have lengths : (left.map Descriptor.constant).length =
        (right.map Descriptor.constant).length := by
      rw [List.length_map, List.length_map, vary.length_eq]
    rw [List.map_append, List.map_append, List.forall_mem_append, ← vary.constants,
      ← later.constants]
    exact ⟨(List.append_inj · lengths), fun ⟨here, there⟩ => by rw [here, there]⟩

/-- Giving every descriptor a priority changes no constant. -/
theorem withPriority (vary : VaryBy first second dashes left right) (priority : Priority) :
    VaryBy first second dashes (left.map ({ · with priority := some priority }))
      (right.map ({ · with priority := some priority })) where
  rest := by
    have both := congrArg
      (List.map fun d : Descriptor => { d with priority := some priority }) vary.rest
    simpa only [List.map_map, Function.comp_def] using both
  constants := by simpa only [List.map_map, Function.comp_def] using vary.constants

/-- The descriptors are the same exactly when every dash has the same gap. -/
theorem eq_iff (vary : VaryBy first second dashes left right) :
    left = right ↔ ∀ dash ∈ dashes, first.gap dash = second.gap dash := by
  rw [← vary.constants]
  refine ⟨fun same => same ▸ rfl, fun constants => ?_⟩
  apply List.ext_getElem vary.length_eq
  intro i inside inRight
  have rest := List.getElem_of_eq vary.rest (by rwa [List.length_map])
  have constant := List.getElem_of_eq constants (by rwa [List.length_map])
  simp only [List.getElem_map] at rest constant
  exact Descriptor.eq_of_rest rest constant

end VaryBy

/-! ## Compiling with two settings of the gaps -/

namespace Chain

variable (first second : Spacing)

/-- A connection varies if it is a bare dash. -/
theorem Context.connect_alongside (context : Context) (connection : Connection) (dash : Dash)
    (after before : Anchor) :
    Alongside (VaryBy first second (connection.dashes dash))
      (context.connect connection (first.gap dash) after before)
      (context.connect connection (second.gap dash) after before) := by
  cases connection with
  | flush => exact .ok (.refl _)
  | standard => exact .ok ⟨rfl, by simp [Connection.dashes]⟩
  | explicit predicates => exact .refl .refl _

/-- A connection to the container's edge varies if it is a bare dash. -/
theorem Context.toEdge_alongside (context : Context) (connection : Option Connection)
    (after before : Anchor) :
    Alongside (VaryBy first second (connection.toList.flatMap (·.dashes .superview)))
      (context.toEdge first connection after before)
      (context.toEdge second connection after before) := by
  cases connection with
  | none => exact .ok (.refl [])
  | some connection =>
    rw [Option.toList_some, List.flatMap_singleton]
    exact context.connect_alongside first second connection .superview after before

/-- The views after one another vary by the bare dashes between them. -/
theorem Context.follow_alongside (context : Context) (previous : Link)
    (rest : List (Connection × Link)) :
    Alongside (VaryBy first second (rest.flatMap (·.1.dashes .sibling)))
      (context.follow first previous rest) (context.follow second previous rest) := by
  induction rest generalizing previous with
  | nil => exact .ok (.refl [])
  | cons step rest ih =>
    obtain ⟨connection, link⟩ := step
    rw [follow, follow, List.flatMap_cons]
    have gap := context.connect_alongside first second connection .sibling
      ⟨link.name.value, context.axis.leadingEdge⟩ ⟨previous.name.value, context.axis.trailingEdge⟩
    have sizes : Alongside (VaryBy first second []) (context.sizes link) (context.sizes link) :=
      .refl .refl _
    refine gap.bind fun _ _ joined => sizes.bind fun _ _ sized => (ih link).bind ?_
    intro _ _ followed
    have both := (joined.append sized).append followed
    rw [List.append_nil] at both
    exact .ok both

/-- A chain varies by its bare dashes. -/
theorem lower_alongside (chain : Chain) (registry : Registry) (metrics : Metrics) :
    Alongside (VaryBy first second chain.dashes) (chain.lower first registry metrics)
      (chain.lower second registry metrics) := by
  unfold lower
  have found : Alongside Eq (resolveLinks registry chain.links)
      (resolveLinks registry chain.links) := .refl (fun _ => rfl) _
  refine found.bind fun _ _ _ => ?_
  set context : Context := ⟨chain.axis.getD .horizontal, registry, metrics⟩
  have sizes : Alongside (VaryBy first second []) (context.sizes chain.first)
      (context.sizes chain.first) := .refl .refl _
  refine (context.toEdge_alongside first second chain.leading _ _).bind fun _ _ led => ?_
  refine sizes.bind fun _ _ sized => ?_
  refine (context.follow_alongside first second chain.first chain.rest).bind fun _ _ followed => ?_
  refine (context.toEdge_alongside first second chain.trailing _ _).bind fun _ _ trailed => ?_
  have whole := ((led.append sized).append followed).append trailed
  rw [List.append_nil] at whole
  exact .ok whole

end Chain

namespace Constraint

variable (raw : String) (first second : Spacing) (registry : Registry) (metrics : Metrics)

/-- The descriptors of a text vary by its bare dashes. -/
theorem descriptors_alongside :
    Alongside (VaryBy first second (dashes raw)) (descriptors raw first registry metrics)
      (descriptors raw second registry metrics) := by
  unfold descriptors dashes
  split
  · exact .refl .refl _
  · refine Alongside.mapError _ ?_
    unfold Chain.compile
    cases Chain.parse raw with
    | error error => exact .error _
    | ok chain => exact chain.lower_alongside first second registry metrics

/-- With other gaps a text is compiled or refused all the same, and what it is compiled to varies by
its bare dashes. -/
theorem compile_alongside (priority : Option Priority) :
    Alongside (VaryBy first second (dashes raw)) (compile raw first registry metrics priority)
      (compile raw second registry metrics priority) := by
  refine (descriptors_alongside raw first second registry metrics).map fun _ _ vary => ?_
  cases priority with
  | none => exact vary
  | some priority => exact vary.withPriority priority

end Constraint

end ViewLayout
