import ViewLayout.Constraint
import ViewLayout.Proofs.Chain.Requirements
import ViewLayout.Proofs.Host.Frames

/-!
# Chains that fill their container

A chain that runs from edge to edge of the container, and each of whose connections sets one gap,
leaves nothing of the container over: frames that satisfy its descriptors place every view behind
all gaps and sizes before it, and the gaps and sizes together are the size of the container.

The induction is along the later views (`start_of_followed`): each view begins a gap after the end
of the view listed before it, and this holds of the frames of keys, so a key may stand in a chain
more than once.
-/

namespace ViewLayout

open ViewLayout.Number ViewLayout.Outcome

/-- Frames of keys satisfy a descriptor, its finite numbers being read exactly and its priority left
out. A number that is not finite says nothing of them. -/
def Descriptor.Holds (frames : String → Frame Rat) (d : Descriptor) : Prop :=
  let left := (frames d.first.key).edge d.first.edge
  match d.second with
  | some anchor =>
    ∀ factor ∈ d.multiplier.toRat?, ∀ shift ∈ d.constant.toRat?,
      d.relation.Compares left ((frames anchor.key).edge anchor.edge * factor + shift)
  | none => ∀ shift ∈ d.constant.toRat?, d.relation.Compares left shift

instance (frames : String → Frame Rat) : (d : Descriptor) → Decidable (d.Holds frames)
  | ⟨first, relation, some anchor, multiplier, constant, _⟩ =>
    inferInstanceAs <| Decidable <|
      ∀ factor ∈ multiplier.toRat?, ∀ shift ∈ constant.toRat?,
        relation.Compares ((frames first.key).edge first.edge)
          ((frames anchor.key).edge anchor.edge * factor + shift)
  | ⟨first, relation, none, _, constant, _⟩ =>
    inferInstanceAs <| Decidable <|
      ∀ shift ∈ constant.toRat?, relation.Compares ((frames first.key).edge first.edge) shift

namespace Chain

/-- A connection sets its gap: it is nothing, a bare dash, or one predicate without a relation or
with that of equality. -/
def Connection.SetsGap : Connection → Prop
  | .flush => True
  | .standard => True
  | .explicit [predicate] => ∀ symbol ∈ predicate.relation, symbol.value = "=="
  | .explicit _ => False

instance : (connection : Connection) → Decidable connection.SetsGap
  | .flush => inferInstanceAs (Decidable True)
  | .standard => inferInstanceAs (Decidable True)
  | .explicit [predicate] =>
    inferInstanceAs (Decidable (∀ symbol ∈ predicate.relation, symbol.value = "=="))
  | .explicit [] => inferInstanceAs (Decidable False)
  | .explicit (_ :: _ :: _) => inferInstanceAs (Decidable False)

/-- The constant of the gap that a connection sets, where a bare dash stands for `standard`. -/
def Connection.gap? (metrics : Metrics) (standard : Binary64) : Connection → Option Binary64
  | .flush => some 0
  | .standard => some standard
  | .explicit [predicate] => metrics.value? predicate.object.value.text
  | .explicit _ => none

/-- The constants of the gaps of a chain, from the leading edge to the trailing edge. -/
def gaps (chain : Chain) (spacing : Spacing) (metrics : Metrics) : List (Option Binary64) :=
  chain.leading.toList.map (·.gap? metrics spacing.superview)
    ++ chain.rest.map (·.1.gap? metrics spacing.sibling)
    ++ chain.trailing.toList.map (·.gap? metrics spacing.superview)

/-- The exact value of a gap, if its constant is there and finite. -/
def exactGap? (gap : Option Binary64) : Option Rat := gap.bind (·.toRat?)

/-- The size of a view along an axis. -/
def Link.extent (frames : String → Frame Rat) (axis : Axis) (link : Link) : Rat :=
  (frames link.name.value).edge axis.size

/-- Where a view begins along an axis. -/
def Link.start (frames : String → Frame Rat) (axis : Axis) (link : Link) : Rat :=
  (frames link.name.value).edge axis.leadingEdge

variable {spacing : Spacing} {registry : Registry} {metrics : Metrics}
  {frames : String → Frame Rat} {axis : Axis}

/-! ## One gap -/

/-- An equation with a finite constant sets an edge that distance after another one. -/
theorem edge_of_holds {first second : Anchor} {constant : Binary64} {distance : Rat}
    {priority : Option Priority} (finite : constant.toRat? = some distance)
    (held : Descriptor.Holds frames
      { first, relation := .equal, second := some second, constant, priority }) :
    (frames first.key).edge first.edge = (frames second.key).edge second.edge + distance := by
  have one : (1 : Binary64).toRat? = some 1 := by decide +kernel
  have equal := held 1 one distance finite
  rw [mul_one] at equal
  exact equal

/-- A connection with predicates that sets its gap has one of them, which compares by equality. -/
theorem Connection.SetsGap.exists_predicate {predicates : List Predicate}
    (sets : (Connection.explicit predicates).SetsGap) :
    ∃ predicate, predicates = [predicate] ∧
      ∀ symbol ∈ predicate.relation, symbol.value = "==" := by
  match predicates, sets with
  | [predicate], equality => exact ⟨predicate, rfl, equality⟩

/-- The one requirement of a connection that sets its gap is stated by an equation with the constant
of the gap. -/
theorem Connection.exists_equation (registry : Registry) (metrics : Metrics)
    {connection : Connection} {standard : Binary64} {first second : Anchor}
    (sets : connection.SetsGap) :
    ∃ requirement, connection.requirements standard first second = [requirement] ∧
      ∀ d, requirement.Met registry metrics d →
        connection.gap? metrics standard = some d.constant ∧
          d = { first, relation := .equal, second := some second, constant := d.constant,
                priority := d.priority } := by
  cases connection with
  | flush =>
    refine ⟨_, rfl, fun d met => ?_⟩
    cases met
    exact ⟨rfl, rfl⟩
  | standard =>
    refine ⟨_, rfl, fun d met => ?_⟩
    cases met
    exact ⟨rfl, rfl⟩
  | explicit predicates =>
    obtain ⟨predicate, rfl, equality⟩ := sets.exists_predicate
    refine ⟨_, rfl, fun d met => ?_⟩
    cases met with
    | @spaced _ _ _ relation _ _ relates valued _ =>
      obtain rfl : relation = .equal := by
        unfold Predicate.Relates at relates
        cases written : predicate.relation with
        | none =>
          rw [written] at relates
          exact relates
        | some symbol =>
          rw [written] at relates
          have spelled : Relation.symbol .equal = relation.symbol :=
            (equality symbol written).symm.trans relates
          rw [← Option.some.injEq, ← Relation.ofSymbol?_symbol, ← spelled,
            Relation.ofSymbol?_symbol]
      exact ⟨valued, rfl⟩

/-! ## Along the chain -/

/-- Some requirements are stated by descriptors that frames satisfy. -/
def Satisfied (registry : Registry) (metrics : Metrics) (frames : String → Frame Rat)
    (requirements : List Requirement) : Prop :=
  ∀ requirement ∈ requirements, ∃ d, requirement.Met registry metrics d ∧ d.Holds frames

/-- A connection that sets its gap keeps its two edges that distance apart. -/
theorem Connection.edge_of_satisfied {connection : Connection} {standard : Binary64}
    {first second : Anchor} (sets : connection.SetsGap)
    (satisfied : Satisfied registry metrics frames (connection.requirements standard first second))
    {distance : Rat} (valued : exactGap? (connection.gap? metrics standard) = some distance) :
    (frames first.key).edge first.edge = (frames second.key).edge second.edge + distance := by
  obtain ⟨requirement, single, equation⟩ :=
    Connection.exists_equation registry metrics sets
  obtain ⟨d, met, held⟩ := satisfied requirement (by rw [single]; exact List.mem_cons_self)
  obtain ⟨constant, same⟩ := equation d met
  rw [constant, exactGap?, Option.bind_some] at valued
  rw [same] at held
  exact edge_of_holds valued held

/-- Every view after a first one begins behind the gaps and the sizes between them, and the last one
ends behind all of them. -/
theorem start_of_followed {previous : Link} {rest : List (Connection × Link)} {gaps : List Rat}
    (sets : ∀ step ∈ rest, step.1.SetsGap)
    (satisfied : Satisfied registry metrics frames
      (((previous :: rest.map (·.2)).zip rest).flatMap fun pair =>
        joint axis spacing.sibling pair.1 pair.2))
    (valued : rest.map (fun step => exactGap? (step.1.gap? metrics spacing.sibling)) =
      gaps.map some) :
    (∀ i link, (previous :: rest.map (·.2))[i]? = some link →
      link.start frames axis = previous.start frames axis + (gaps.take i).sum +
        (((previous :: rest.map (·.2)).take i).map (·.extent frames axis)).sum) ∧
      (frames ((rest.getLast?.map (·.2)).getD previous).name.value).edge axis.trailingEdge =
        previous.start frames axis + gaps.sum +
          ((previous :: rest.map (·.2)).map (·.extent frames axis)).sum := by
  induction rest generalizing previous gaps with
  | nil =>
    obtain rfl := List.map_eq_nil_iff.1 valued.symm
    constructor
    · rintro (_ | i) link listed
      · obtain rfl := Option.some.inj listed
        simp
      · contradiction
    · simp [Frame.edge_trailingEdge, Link.start, Link.extent]
  | cons step rest ih =>
    obtain ⟨connection, link⟩ := step
    obtain ⟨gap, later, rfl⟩ : ∃ gap later, gaps = gap :: later := by
      cases gaps with
      | nil => contradiction
      | cons gap later => exact ⟨gap, later, rfl⟩
    obtain ⟨gapValued, laterValued⟩ := List.cons.inj valued
    have parts := satisfied
    rw [List.map_cons, List.zip_cons_cons, List.flatMap_cons, joint, Satisfied,
      List.forall_mem_append, List.forall_mem_append] at parts
    obtain ⟨⟨joined, -⟩, others⟩ := parts
    have begins : link.start frames axis =
        previous.start frames axis + previous.extent frames axis + gap := by
      have apart := Connection.edge_of_satisfied (sets _ List.mem_cons_self) joined gapValued
      rw [Frame.edge_trailingEdge] at apart
      exact apart
    obtain ⟨placed, ends⟩ :=
      ih (fun step present => sets step (List.mem_cons_of_mem _ present)) others laterValued
    constructor
    · rintro (_ | i) found listed
      · obtain rfl := Option.some.inj listed
        simp
      · rw [placed i found listed, begins]
        simp only [List.map_cons, List.take_succ_cons, List.sum_cons]
        ring
    · have last : (((connection, link) :: rest).getLast?.map (·.2)).getD previous =
          (rest.getLast?.map (·.2)).getD link := by
        rw [List.getLast?_cons]
        cases rest.getLast? <;> rfl
      rw [last, ends, begins]
      simp only [List.map_cons, List.sum_cons]
      ring

/-- Every gap of a chain is that of one of its connections, the requirements of which are among
those of the chain. -/
theorem exists_connection_of_gap {chain : Chain} (parentKey : String) {gap : Option Binary64}
    (present : gap ∈ chain.gaps spacing metrics) :
    ∃ connection ∈ chain.connections, ∃ standard first second,
      gap = connection.gap? metrics standard ∧
        connection.requirements standard first second ⊆ chain.requirements spacing parentKey := by
  let lead := (chain.axis.getD .horizontal).leadingEdge
  let trail := (chain.axis.getD .horizontal).trailingEdge
  simp only [gaps, List.mem_append, List.mem_map, Option.mem_toList] at present
  rcases present with (⟨connection, leading, rfl⟩ | ⟨step, later, rfl⟩) |
    ⟨connection, trailing, rfl⟩
  · refine ⟨connection, by simp [connections, leading], spacing.superview,
      ⟨chain.first.name.value, lead⟩, ⟨parentKey, lead⟩, rfl, fun requirement among => ?_⟩
    refine List.mem_append_left _ (List.mem_append_left _ (List.mem_append_left _ ?_))
    exact List.mem_flatMap.2 ⟨connection, Option.mem_toList.2 leading, among⟩
  · have between : step.1 ∈ chain.rest.map (·.1) := List.mem_map_of_mem later
    obtain ⟨pair, zipped, same⟩ := List.mem_map.1 (chain.map_snd_zip_links.symm ▸ later)
    refine ⟨step.1, by simp [connections, between], spacing.sibling,
      ⟨step.2.name.value, lead⟩, ⟨pair.1.name.value, trail⟩, rfl, fun requirement among => ?_⟩
    refine List.mem_append_left _ (List.mem_append_right _ ?_)
    refine List.mem_flatMap.2 ⟨pair, zipped, List.mem_append_left _ ?_⟩
    rw [same]
    exact among
  · refine ⟨connection, by simp [connections, trailing], spacing.superview,
      ⟨parentKey, trail⟩, ⟨chain.last.name.value, trail⟩, rfl, fun requirement among => ?_⟩
    refine List.mem_append_right _ ?_
    exact List.mem_flatMap.2 ⟨connection, Option.mem_toList.2 trailing, among⟩

/-- Every gap of a chain whose connections set their gaps has the constant of a descriptor. -/
theorem exists_constant_of_gap {chain : Chain} {parentKey : String} {ds : List Descriptor}
    (sets : ∀ connection ∈ chain.connections, connection.SetsGap)
    (stated : ∀ requirement ∈ chain.requirements spacing parentKey,
      ∃ d ∈ ds, requirement.Met registry metrics d) :
    ∀ gap ∈ chain.gaps spacing metrics, ∃ d ∈ ds, gap = some d.constant := by
  intro gap present
  obtain ⟨connection, joined, standard, first, second, rfl, inside⟩ :=
    exists_connection_of_gap parentKey present
  obtain ⟨requirement, single, equation⟩ :=
    Connection.exists_equation registry metrics (sets _ joined)
  obtain ⟨d, listed, met⟩ := stated requirement (inside (by rw [single]; exact List.mem_cons_self))
  exact ⟨d, listed, (equation d met).1⟩

/-- Frames that satisfy the requirements of a chain from edge to edge of the container place its
views behind one another, and leave nothing of the container over. -/
theorem fills_of_satisfied {chain : Chain} {parentKey : String} (leads : chain.leading ≠ none)
    (trails : chain.trailing ≠ none)
    (sets : ∀ connection ∈ chain.connections, connection.SetsGap)
    (satisfied : Satisfied registry metrics frames (chain.requirements spacing parentKey))
    {gaps : List Rat} (valued : (chain.gaps spacing metrics).map exactGap? = gaps.map some) :
    let axis := chain.axis.getD .horizontal
    let container := frames parentKey
    (∀ i link, chain.links[i]? = some link →
      link.start frames axis = container.edge axis.leadingEdge + (gaps.take (i + 1)).sum +
        ((chain.links.take i).map (·.extent frames axis)).sum) ∧
      container.edge axis.size = gaps.sum + (chain.links.map (·.extent frames axis)).sum := by
  intro axis container
  obtain ⟨tag, leading, first, rest, trailing⟩ := chain
  obtain ⟨before, rfl⟩ := Option.ne_none_iff_exists'.1 leads
  obtain ⟨after, rfl⟩ := Option.ne_none_iff_exists'.1 trails
  -- The gaps are those at the two edges and those between the views.
  have apart : [exactGap? (before.gap? metrics spacing.superview)]
      ++ rest.map (fun step => exactGap? (step.1.gap? metrics spacing.sibling))
      ++ [exactGap? (after.gap? metrics spacing.superview)] = gaps.map some := by
    rw [← valued]
    simp [Chain.gaps]
  obtain ⟨front, back, rfl, frontValued, backValued⟩ := List.append_eq_map_iff.1 apart
  obtain ⟨head, between, rfl, headValued, betweenValued⟩ :=
    List.append_eq_map_iff.1 frontValued.symm
  obtain ⟨start, rfl, startValued⟩ := List.map_eq_singleton_iff.1 headValued
  obtain ⟨final, rfl, finalValued⟩ := List.map_eq_singleton_iff.1 backValued
  have parts := satisfied
  simp only [requirements, Satisfied, List.forall_mem_append, Option.toList_some,
    List.flatMap_singleton] at parts
  obtain ⟨⟨⟨led, -⟩, followed⟩, trailed⟩ := parts
  have begins : first.start frames axis = container.edge axis.leadingEdge + start :=
    Connection.edge_of_satisfied (sets before (by simp [connections])) led startValued.symm
  have closes : container.edge axis.trailingEdge =
      (frames ((rest.getLast?.map (·.2)).getD first).name.value).edge axis.trailingEdge + final :=
    Connection.edge_of_satisfied (sets after (by simp [connections])) trailed finalValued.symm
  obtain ⟨placed, ends⟩ := start_of_followed
    (fun step present => sets step.1 (by simp [connections, List.mem_map_of_mem present]))
    followed betweenValued.symm
  constructor
  · intro i link listed
    have short : i ≤ between.length := by
      have counted : between.length = rest.length := by
        simpa using congrArg List.length betweenValued
      obtain ⟨bound, -⟩ := List.getElem?_eq_some_iff.1 listed
      change i < (first :: rest.map (·.2)).length at bound
      rw [List.length_cons, List.length_map] at bound
      omega
    rw [placed i link listed, begins, List.append_assoc, List.singleton_append,
      List.take_succ_cons, List.take_append_of_le_length short, List.sum_cons]
    simp only [links]
    ring
  · rw [ends, begins, Frame.edge_trailingEdge] at closes
    simp only [List.sum_append, List.sum_singleton, links]
    linarith

end Chain

namespace Constraint

open Chain

variable {raw : String} {spacing : Spacing} {registry : Registry} {metrics : Metrics}
  {priority : Option Priority} {ds : List Descriptor} {chain : Chain}
  {frames : String → Frame Rat}

/-- Frames satisfy what is compiled with a priority when they satisfy what is written. -/
theorem exists_written (format : isEquation raw = false)
    (compiled : compile raw spacing registry metrics priority = .ok ds)
    (held : ∀ d ∈ ds, d.Holds frames) :
    ∃ written, Chain.compile raw spacing registry metrics = .ok written ∧
      ∀ d ∈ written, d.Holds frames ∧ ∃ listed ∈ ds, listed.constant = d.constant := by
  obtain ⟨written, lowered, rfl⟩ := map_eq_ok_iff.1 compiled
  rw [descriptors, if_neg (Bool.eq_false_iff.1 format)] at lowered
  refine ⟨written, mapError_eq_ok_iff.1 lowered, fun d present => ?_⟩
  cases priority with
  | none => exact ⟨held d present, d, present, rfl⟩
  | some priority =>
    have among : { d with priority := some priority } ∈
        written.map ({ · with priority := some priority }) := List.mem_map_of_mem present
    have holds : Descriptor.Holds frames { d with priority := some priority } := held _ among
    exact ⟨holds, _, among, rfl⟩

/-- A chain from edge to edge of the container accounts for the whole container. Let every
connection of the chain set its gap, whatever the sizes require, and let frames satisfy the
descriptors the chain compiles to. Then along the axis of the chain each view begins behind the gaps
up to it and the sizes of the views before it, and the container is as large as all gaps and all
sizes together.

The constants of the gaps are constants of the descriptors; the sums are those of their exact
values. A name that repeats in the chain is the same view each time, and the sums count it each
time. -/
theorem full_chain_fills_container (format : isEquation raw = false)
    (compiled : compile raw spacing registry metrics priority = .ok ds)
    (parsed : Chain.parse raw = .ok chain) (leads : chain.leading ≠ none)
    (trails : chain.trailing ≠ none)
    (sets : ∀ connection ∈ chain.connections, connection.SetsGap)
    (held : ∀ d ∈ ds, d.Holds frames) :
    (∀ gap ∈ chain.gaps spacing metrics, ∃ d ∈ ds, gap = some d.constant) ∧
      ∀ gaps : List Rat, (chain.gaps spacing metrics).map exactGap? = gaps.map some →
        let axis := chain.axis.getD .horizontal
        let container := frames registry.parentKey
        (∀ i link, chain.links[i]? = some link →
          link.start frames axis = container.edge axis.leadingEdge + (gaps.take (i + 1)).sum +
            ((chain.links.take i).map (·.extent frames axis)).sum) ∧
        container.edge axis.size =
          gaps.sum + (chain.links.map (·.extent frames axis)).sum := by
  obtain ⟨written, lowered, holds⟩ := exists_written format compiled held
  obtain ⟨_, found, -, stated⟩ := Chain.compile_eq_ok_iff.1 lowered
  obtain rfl := Except.ok.inj (parsed.symm.trans found)
  constructor
  · intro gap present
    obtain ⟨d, among, rfl⟩ := exists_constant_of_gap sets
      (fun requirement => exists_mem_of_forall₂ stated.flip) gap present
    obtain ⟨-, listed, inside, same⟩ := holds d among
    exact ⟨listed, inside, congrArg some same.symm⟩
  · have satisfied : Satisfied registry metrics frames
        (chain.requirements spacing registry.parentKey) := by
      intro requirement required
      obtain ⟨d, among, met⟩ := exists_mem_of_forall₂ stated.flip required
      exact ⟨d, met, (holds d among).1⟩
    exact fun gaps valued => fills_of_satisfied leads trails sets satisfied valued

/-- A view may stand in a chain twice, behind a gap that leads back to it. Its size is then counted
twice. -/
theorem full_chain_fills_container_of_repeated :
    let raw := "V:|-[a(>=10)]-5-[b]-(==back@500)-[a]|"
    let registry : Registry := ⟨"parent", some ⟨0⟩, .ofList [("a", .view ⟨1⟩), ("b", .view ⟨2⟩)]⟩
    let metrics : Metrics := .ofList [("back", -45)]
    let frames : String → Frame Rat := fun key =>
      if key = "a" then ⟨0, 20, 50, 20⟩ else if key = "b" then ⟨0, 45, 50, 20⟩ else ⟨0, 0, 50, 40⟩
    ∃ ds chain, compile raw ⟨8, 20⟩ registry metrics none = .ok ds ∧
      Chain.parse raw = .ok chain ∧ (∀ d ∈ ds, d.Holds frames) ∧
      chain.links.map (·.name.value) = ["a", "b", "a"] ∧
      chain.gaps ⟨8, 20⟩ metrics = [some 20, some 5, some (-45), some 0] ∧
      (∀ link, chain.links[2]? = some link →
        link.start frames .vertical = 0 + ([20, 5, -45, 0].take 3).sum +
          ((chain.links.take 2).map (·.extent frames .vertical)).sum) ∧
      (40 : Rat) = [20, 5, -45, 0].sum + (chain.links.map (·.extent frames .vertical)).sum := by
  intro raw registry metrics frames
  obtain ⟨ds, compiled, held⟩ : ∃ ds ∈ (compile raw ⟨8, 20⟩ registry metrics none).toOption,
      ∀ d ∈ ds, d.Holds frames := by decide +kernel
  obtain ⟨chain, parsed, leads, trails, sets, names, constants, along⟩ :
      ∃ chain ∈ (Chain.parse raw).toOption, chain.leading ≠ none ∧ chain.trailing ≠ none ∧
        (∀ connection ∈ chain.connections, connection.SetsGap) ∧
        chain.links.map (·.name.value) = ["a", "b", "a"] ∧
        chain.gaps ⟨8, 20⟩ metrics = [some 20, some 5, some (-45), some 0] ∧
        chain.axis.getD .horizontal = .vertical := by decide +kernel
  obtain compiled := eq_ok_of_toOption compiled
  obtain parsed := eq_ok_of_toOption parsed
  have fills := (full_chain_fills_container (by decide) compiled parsed leads trails sets held).2
    [20, 5, -45, 0] (by rw [constants]; decide +kernel)
  rw [along] at fills
  exact ⟨ds, chain, compiled, parsed, held, names, constants, fills.1 2, fills.2⟩

end Constraint

end ViewLayout
