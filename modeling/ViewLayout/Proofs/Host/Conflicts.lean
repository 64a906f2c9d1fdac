import ViewLayout.Proofs.Host.Layout
import ViewLayout.Proofs.Host.Moving
import ViewLayout.Proofs.Host.Runs

/-!
# Conflicts between constraints

The required constraints of a layout may have no values that meet all of them. The layout then fails
with the first that the required ones before it leave no room for. Applying constraints adds to the
end of what a layout asks for, so a conflict that is there stays, and stays the first one: no
further constraint repairs a layout, or makes it fail by another name.

This is said of every solver, and of two solvers as well that take the constraints in order
(`Solver.TakesInOrder`): which of them is asked before and which one after does not matter.
-/

namespace ViewLayout.Host

open ViewLayout.Number ViewLayout.Outcome

/-! ## Conflicts -/

instance (values : Nat → Rat) (demand : Demand) : Decidable (demand.Met values) :=
  inferInstanceAs (Decidable (∃ form ∈ demand.form, demand.relation.Compares (form.eval values) 0))

/-- There are values that meet all required ones of some constraints. -/
def Satisfiable (demands : List Demand) : Prop :=
  ∃ values : Nat → Rat, ∀ demand ∈ demands, demand.strength = .required → demand.Met values

/-- Where constraints can hold together, the first of them can. -/
theorem Satisfiable.of_append {before after : List Demand}
    (satisfiable : Satisfiable (before ++ after)) : Satisfiable before := by
  obtain ⟨values, met⟩ := satisfiable
  exact ⟨values, fun demand listed => met demand (List.mem_append_left _ listed)⟩

/-- Where some values meet the required ones of constraints, the first of them can hold together. -/
theorem Satisfiable.of_met {first demands : List Demand} (listed : first <+: demands)
    {values : Nat → Rat}
    (met : ∀ demand ∈ demands, demand.strength = .required → demand.Met values) :
    Satisfiable first :=
  ⟨values, fun demand among => met demand (listed.subset among)⟩

/-- A constraint that is not required does not conflict with any other. -/
theorem Satisfiable.concat {before : List Demand} {demand : Demand}
    (satisfiable : Satisfiable before) (preferred : demand.strength ≠ .required) :
    Satisfiable (before ++ [demand]) := by
  obtain ⟨values, met⟩ := satisfiable
  refine ⟨values, fun other listed required => ?_⟩
  rcases List.mem_append.1 listed with earlier | last
  · exact met other earlier required
  · rw [List.mem_singleton.1 last] at required
    contradiction

/-- Constraints that hold together and set one quantity set it to one value. -/
theorem Satisfiable.eq_of_set {demands : List Demand} (satisfiable : Satisfiable demands)
    {quantity : Nat} {points others : Binary64} {name other : String}
    (one : ⟨.ofTerm quantity 1, .equal, none, points, .required, name⟩ ∈ demands)
    (two : ⟨.ofTerm quantity 1, .equal, none, others, .required, other⟩ ∈ demands) :
    points.toRat? = others.toRat? := by
  obtain ⟨values, met⟩ := satisfiable
  have set {number : Binary64} {called : String}
      (listed : ⟨.ofTerm quantity 1, .equal, none, number, .required, called⟩ ∈ demands) :
      number.toRat? = some (values quantity) := by
    obtain ⟨value, finite, equal⟩ := met_single_iff.1 (met _ listed rfl)
    have same : (Linear.Form.ofTerm quantity 1).eval values = value := equal
    rw [Linear.Form.eval_ofTerm, one_mul] at same
    rw [finite, same]
  exact (set one).trans (set two).symm

/-- A constraint is the first of some that cannot hold together with the required ones before it. -/
def IsFirstConflict (demands : List Demand) (demand : Demand) : Prop :=
  ∃ before after, demands = before ++ demand :: after ∧ demand.strength = .required ∧
    Satisfiable before ∧ ¬Satisfiable (before ++ [demand])

/-- Further constraints leave the first conflict where it is. -/
theorem IsFirstConflict.append {demands : List Demand} {demand : Demand}
    (conflict : IsFirstConflict demands demand) (more : List Demand) :
    IsFirstConflict (demands ++ more) demand := by
  obtain ⟨before, after, rfl, required, fits, clashes⟩ := conflict
  refine ⟨before, after ++ more, ?_, required, fits, clashes⟩
  rw [List.append_assoc, List.cons_append]

/-! ## Solvers that take constraints in order -/

variable {Value : Type}

/-- The constraints up to one of them are the first ones. -/
theorem upTo_first (before : List Demand) (demand : Demand) (after : List Demand) :
    before ++ [demand] <+: before ++ demand :: after :=
  (List.prefix_append_right_inj before).2 (List.prefix_append [demand] after)

/-- A solver takes some constraints in order: whatever of them it has taken, it takes the next one
unless that is required and cannot hold together with the required ones before it, and refuses it
for this reason. -/
structure Solver.TakesInOrder (solver : Solver Value) (quantities : Nat) (demands : List Demand) :
    Prop where
  /-- A constraint that is not required, or can hold together with those before it, is taken. -/
  takes : ∀ before demand state, before ++ [demand] <+: demands →
    before.foldlM solver.add (solver.start quantities) = .ok state →
    (demand.strength = .required → Satisfiable (before ++ [demand])) →
    ∃ next, solver.add state demand = .ok next
  /-- A required one that cannot is refused by its name. -/
  refuses : ∀ before demand state, before ++ [demand] <+: demands →
    before.foldlM solver.add (solver.start quantities) = .ok state →
    demand.strength = .required → ¬Satisfiable (before ++ [demand]) →
    solver.add state demand = .error (.unsatisfiable demand.name)

namespace Solver.TakesInOrder

variable {solver : Solver Value} {quantities : Nat} {demands : List Demand}
  (ordered : solver.TakesInOrder quantities demands)

include ordered

/-- The first of the constraints are all taken exactly when they can hold together. -/
theorem exists_state_iff {taken : List Demand} (first : taken <+: demands) :
    (∃ state, taken.foldlM solver.add (solver.start quantities) = .ok state) ↔
      Satisfiable taken := by
  induction taken using List.reverseRecOn with
  | nil => exact ⟨fun _ => ⟨fun _ => 0, nofun⟩, fun _ => ⟨_, rfl⟩⟩
  | append_singleton before demand ih =>
    have earlier := ih ((List.prefix_append before [demand]).trans first)
    constructor
    · rintro ⟨final, ended⟩
      obtain ⟨state, went, -⟩ := bind_eq_ok_iff.1 (List.foldlM_append.symm.trans ended)
      by_cases required : demand.strength = .required
      · by_contra clashes
        have refused := ordered.refuses before demand state first went required clashes
        rw [foldlM_eq_error_of_stopped went refused] at ended
        contradiction
      · exact (earlier.1 ⟨state, went⟩).concat required
    · intro satisfiable
      obtain ⟨state, went⟩ := earlier.2 satisfiable.of_append
      obtain ⟨next, added⟩ := ordered.takes before demand state first went fun _ => satisfiable
      refine ⟨next, ?_⟩
      rw [foldlM_append_of_ok went, List.foldlM_cons, added]
      rfl

/-- A solver that fails does so at the first conflict, and with its name. -/
theorem foldlM_eq_error_iff {fault : HostFault} :
    demands.foldlM solver.add (solver.start quantities) = .error fault ↔
      ∃ demand, IsFirstConflict demands demand ∧ fault = .unsatisfiable demand.name := by
  constructor
  · intro failed
    obtain ⟨before, demand, after, state, rfl, went, stopped⟩ := exists_error_of_foldlM failed
    have first := upTo_first before demand after
    have fits : Satisfiable before :=
      (ordered.exists_state_iff (List.prefix_append before _)).1 ⟨state, went⟩
    -- A constraint that the solver does not take is required, and leaves no values.
    have untaken : ¬(demand.strength = .required → Satisfiable (before ++ [demand])) := by
      intro fine
      obtain ⟨next, added⟩ := ordered.takes before demand state first went fine
      rw [added] at stopped
      contradiction
    obtain ⟨required, clashes⟩ := Classical.not_imp.1 untaken
    have refused := ordered.refuses before demand state first went required clashes
    refine ⟨demand, ⟨before, after, rfl, required, fits, clashes⟩, ?_⟩
    exact Except.error.inj (stopped.symm.trans refused)
  · rintro ⟨demand, ⟨before, after, rfl, required, fits, clashes⟩, rfl⟩
    obtain ⟨state, went⟩ := (ordered.exists_state_iff (List.prefix_append before _)).2 fits
    have first := upTo_first before demand after
    have refused := ordered.refuses before demand state first went required clashes
    exact foldlM_eq_error_of_stopped went refused

end Solver.TakesInOrder

section Checking

variable {solver : Solver Value} {quantities : Nat} {taken : List Demand} {last : solver.State}
  (went : taken.foldlM solver.add (solver.start quantities) = .ok last)
  {values : Nat → Rat} (met : ∀ demand ∈ taken, demand.strength = .required → demand.Met values)

include went

/-- Of constraints that are all taken, each is taken after those before it. -/
theorem Solver.exists_add_of_taken {before : List Demand} {demand : Demand} {state : solver.State}
    (first : before ++ [demand] <+: taken)
    (earlier : before.foldlM solver.add (solver.start quantities) = .ok state) :
    ∃ next, solver.add state demand = .ok next := by
  obtain ⟨after, rfl⟩ := first
  rw [List.append_assoc, foldlM_append_of_ok earlier] at went
  obtain ⟨next, added, -⟩ := bind_eq_ok_iff.1 (List.foldlM_cons.symm.trans went)
  exact ⟨next, added⟩

include met

/-- A solver that takes constraints which some values meet takes them in order. -/
theorem Solver.takesInOrder_of_met : solver.TakesInOrder quantities taken where
  takes _ _ _ first earlier _ := exists_add_of_taken went first earlier
  refuses _ _ _ first _ _ clashes := absurd (.of_met first met) clashes

/-- A solver that takes constraints which some values meet, and refuses the next one because it
leaves no values, takes all of them in order, whatever comes after. -/
theorem Solver.takesInOrder_of_conflict {conflict : Demand}
    (required : conflict.strength = .required) (clashes : ¬Satisfiable (taken ++ [conflict]))
    (refused : solver.add last conflict = .error (.unsatisfiable conflict.name))
    (after : List Demand) : solver.TakesInOrder quantities (taken ++ conflict :: after) := by
  -- What is asked for next comes before the conflict or is the conflict: nothing is taken after it.
  have place {before : List Demand} {demand : Demand} {state : solver.State}
      (first : before ++ [demand] <+: taken ++ conflict :: after)
      (earlier : before.foldlM solver.add (solver.start quantities) = .ok state) :
      before ++ [demand] <+: taken ∨ before = taken ∧ demand = conflict := by
    have conflicting := upTo_first taken conflict after
    rcases List.prefix_or_prefix_of_prefix first conflicting with shorter | longer
    · rcases List.prefix_concat_iff.1 shorter with same | inside
      · exact .inr (List.append_singleton_inj.1 same)
      · exact .inl inside
    · rcases List.prefix_concat_iff.1 longer with same | ⟨rest, rfl⟩
      · exact .inr (List.append_singleton_inj.1 same.symm)
      · rw [List.append_assoc, List.singleton_append,
          foldlM_eq_error_of_stopped went refused] at earlier
        contradiction
  constructor
  case takes =>
    intro before demand state first earlier fine
    rcases place first earlier with inside | ⟨rfl, rfl⟩
    · exact exists_add_of_taken went inside earlier
    · exact absurd (fine required) clashes
  case refuses =>
    intro before demand state first earlier strong apart
    rcases place first earlier with inside | ⟨rfl, rfl⟩
    · exact absurd (.of_met inside met) apart
    · obtain rfl := Except.ok.inj (earlier.symm.trans went)
      exact refused

end Checking

/-! ## Layouts and conflicts -/

section Layout

variable {host : Host} [OfNat Value 0] {solver : Solver Value} {root : ViewId} {width height : Binary64}

/-- A layout goes through when the host created the root and the solver takes all constraints. -/
theorem exists_layoutBy_iff :
    (∃ frames, host.layoutBy solver root width height = .ok frames) ↔
      host.knows (.view root) = true ∧ ∃ state,
        (host.demands root width height).foldlM solver.add
          (solver.start (4 * (host.views.length + host.guides.length))) = .ok state := by
  constructor
  · rintro ⟨frames, laid⟩
    obtain ⟨known, state, added, -⟩ := exists_values_of_layoutBy laid
    exact ⟨known, state, added⟩
  · rintro ⟨known, state, added⟩
    obtain ⟨data, there⟩ := knows_view_iff.1 known
    exact ⟨_, bind_eq_ok_iff.2 ⟨data, view_eq_ok_iff.2 there,
      bind_eq_ok_iff.2 ⟨_, bind_eq_ok_iff.2 ⟨state, added, rfl⟩, rfl⟩⟩⟩

/-- A layout fails because the host did not create the root, or because the solver refuses one of
the constraints. -/
theorem layoutBy_eq_error_iff {fault : HostFault} :
    host.layoutBy solver root width height = .error fault ↔
      host.view root = .error fault ∨ host.knows (.view root) = true ∧
        (host.demands root width height).foldlM solver.add
          (solver.start (4 * (host.views.length + host.guides.length))) = .error fault := by
  have finding : host.solveBy solver root width height = .error fault ↔
      (host.demands root width height).foldlM solver.add
        (solver.start (4 * (host.views.length + host.guides.length))) = .error fault := by
    refine bind_eq_error_iff.trans ⟨?_, .inl⟩
    rintro (refused | ⟨state, -, impossible⟩)
    · exact refused
    · contradiction
  have found (data : View) : host.view root = .ok data → host.knows (.view root) = true :=
    fun there => knows_view_iff.2 ⟨data, view_eq_ok_iff.1 there⟩
  refine bind_eq_error_iff.trans (or_congr_right ?_)
  constructor
  · rintro ⟨data, there, failed⟩
    refine ⟨found data there, finding.1 ?_⟩
    rcases bind_eq_error_iff.1 failed with unsolved | ⟨values, -, impossible⟩
    · exact unsolved
    · contradiction
  · rintro ⟨known, refused⟩
    obtain ⟨data, there⟩ := knows_view_iff.1 known
    exact ⟨data, view_eq_ok_iff.2 there, bind_eq_error_iff.2 (.inl (finding.2 refused))⟩

end Layout

/-! ## Applying further constraints -/

/-- The host after descriptors were applied one list after another, whether or not that went
through. -/
def applyAll (host : Host) (applications : List (Registry × List Descriptor)) : Host :=
  applications.foldl
    (fun later application => Call.perform later (.apply application.1 application.2)) host

/-- Applying descriptors, whether or not it goes through, at most puts constraints behind the
others. -/
theorem exists_withConstraints_of_apply (host : Host) (registry : Registry)
    (descriptors : List Descriptor) : ∃ more,
      Call.perform host (.apply registry descriptors) =
        host.withConstraints (host.constraints ++ more) := by
  cases resolved : descriptors.mapM (host.resolveDescriptor registry) with
  | ok stored =>
    exact ⟨stored, Steps.left_of_ok (Steps.bind_of_ok (Steps.reading_of_ok resolved))⟩
  | error fault =>
    have unchanged : Call.perform host (.apply registry descriptors) = host :=
      Steps.left_of_error (Steps.bind_of_error (Steps.reading_of_error resolved))
    refine ⟨[], unchanged.trans ?_⟩
    rw [List.append_nil]
    rfl

/-- Applying lists of descriptors at most puts constraints behind the others. -/
theorem exists_withConstraints_of_applyAll (host : Host)
    (applications : List (Registry × List Descriptor)) : ∃ more,
      host.applyAll applications = host.withConstraints (host.constraints ++ more) := by
  induction applications generalizing host with
  | nil =>
    refine ⟨[], ?_⟩
    rw [List.append_nil]
    rfl
  | cons application applications ih =>
    obtain ⟨first, applied⟩ := exists_withConstraints_of_apply host application.1 application.2
    obtain ⟨later, others⟩ := ih (host.withConstraints (host.constraints ++ first))
    refine ⟨first ++ later, ?_⟩
    rw [applyAll, List.foldl_cons, applied, ← List.append_assoc]
    exact others

/-- Constraints behind the others are asked for behind everything else. -/
theorem demands_withConstraints (host : Host) (more : List Applied) (root : ViewId)
    (width height : Binary64) :
    (host.withConstraints (host.constraints ++ more)).demands root width height =
      host.demands root width height ++ more.filterMap (host.constraintDemand? root) := by
  rw [demands, demands, List.append_assoc _ (host.constraints.filterMap _),
    ← List.filterMap_append]
  rfl

/-- A layout of one host asks for what a layout of another asks for, and then perhaps for more. -/
structure AsksMore (host later : Host) (root : ViewId) (width height : Binary64) : Prop where
  /-- The root is in both hosts or in neither. -/
  found : later.view root = host.view root
  /-- There are as many quantities. -/
  quantities : 4 * (later.views.length + later.guides.length) =
    4 * (host.views.length + host.guides.length)
  /-- What is asked for besides comes last. -/
  demands : ∃ more, later.demands root width height = host.demands root width height ++ more

/-- What is applied to a host is asked for after everything else. -/
theorem asksMore_applyAll (host : Host) (applications : List (Registry × List Descriptor))
    (root : ViewId) (width height : Binary64) :
    host.AsksMore (host.applyAll applications) root width height := by
  obtain ⟨more, grown⟩ := exists_withConstraints_of_applyAll host applications
  have demands := demands_withConstraints host more root width height
  rw [grown]
  exact ⟨rfl, rfl, _, demands⟩

namespace AsksMore

variable {host later : Host} {root : ViewId} {width height : Binary64}
  (more : host.AsksMore later root width height)

include more

/-- The root is known to both hosts or to neither. -/
theorem knows : later.knows (.view root) = host.knows (.view root) := by
  rw [Bool.eq_iff_iff, knows_view_iff, knows_view_iff]
  simp only [← view_eq_ok_iff, more.found]

/-- A layout that fails still fails in the same way when more is asked for. -/
theorem layoutBy_eq_error [OfNat Value 0] {solver : Solver Value} {fault : HostFault}
    (failed : host.layoutBy solver root width height = .error fault) :
    later.layoutBy solver root width height = .error fault := by
  obtain ⟨added, demands⟩ := more.demands
  rw [layoutBy_eq_error_iff] at failed ⊢
  rw [more.found, more.knows, more.quantities, demands]
  exact failed.imp_right fun refused => ⟨refused.1, foldlM_append_of_error refused.2 added⟩

/-- A layout for which more is asked and that goes through goes through without that. -/
theorem exists_layoutBy [OfNat Value 0] {solver : Solver Value}
    {frames : List (ViewId × Frame Value)}
    (laid : later.layoutBy solver root width height = .ok frames) :
    ∃ found, host.layoutBy solver root width height = .ok found := by
  cases before : host.layoutBy solver root width height with
  | ok found => exact ⟨found, rfl⟩
  | error fault =>
    rw [more.layoutBy_eq_error before] at laid
    contradiction

variable {Other : Type} [OfNat Value 0] [OfNat Other 0] {first : Solver Value}
  {second : Solver Other}
  (one : first.TakesInOrder (4 * (host.views.length + host.guides.length))
    (host.demands root width height))
  (other : second.TakesInOrder (4 * (host.views.length + host.guides.length))
    (later.demands root width height))

include one other

/-- A constraint by which a layout cannot be satisfied is the one by which it cannot be satisfied
when more is asked for, by whatever solver. -/
theorem layoutBy_eq_unsatisfiable {name : String}
    (failed : host.layoutBy first root width height = .error (.unsatisfiable name)) :
    later.layoutBy second root width height = .error (.unsatisfiable name) := by
  obtain ⟨added, demands⟩ := more.demands
  rcases layoutBy_eq_error_iff.1 failed with unknown | ⟨known, refused⟩
  · cases found : host.view? root with
    | none => exact nomatch Except.error.inj ((view_eq_error found).symm.trans unknown)
    | some data => exact nomatch (view_eq_ok_iff.2 found).symm.trans unknown
  · obtain ⟨demand, conflict, named⟩ := one.foldlM_eq_error_iff.1 refused
    refine layoutBy_eq_error_iff.2 (.inr ⟨more.knows.trans known, ?_⟩)
    rw [more.quantities]
    refine other.foldlM_eq_error_iff.2 ⟨demand, ?_, named⟩
    rw [demands]
    exact conflict.append added

/-- A layout for which more is asked and that goes through goes through without that, by whatever
solver. -/
theorem exists_layoutBy_of_other {frames : List (ViewId × Frame Other)}
    (laid : later.layoutBy second root width height = .ok frames) :
    ∃ found, host.layoutBy first root width height = .ok found := by
  obtain ⟨added, demands⟩ := more.demands
  obtain ⟨known, taken⟩ := exists_layoutBy_iff.1 ⟨frames, laid⟩
  rw [more.quantities] at taken
  have satisfiable := (other.exists_state_iff List.prefix_rfl).1 taken
  rw [demands] at satisfiable
  exact exists_layoutBy_iff.2
    ⟨more.knows.symm.trans known, (one.exists_state_iff List.prefix_rfl).2 satisfiable.of_append⟩

end AsksMore

/-- Whatever is applied to a host, a layout that failed fails again with the same fault, and one
that goes through went through before. This holds of every solver. It also holds when one solver is
asked before and another one after, of faults about constraints that cannot be satisfied, as long as
both take the constraints in order. -/
theorem conflicts_stay (host : Host) (applications : List (Registry × List Descriptor))
    (root : ViewId) (width height : Binary64) :
    let later := host.applyAll applications
    (∀ {Value : Type} [OfNat Value 0] (solver : Solver Value),
      (∀ fault, host.layoutBy solver root width height = .error fault →
        later.layoutBy solver root width height = .error fault) ∧
      ∀ frames, later.layoutBy solver root width height = .ok frames →
        ∃ found, host.layoutBy solver root width height = .ok found) ∧
    ∀ {Value Other : Type} [OfNat Value 0] [OfNat Other 0] (first : Solver Value)
      (second : Solver Other),
      first.TakesInOrder (4 * (host.views.length + host.guides.length))
        (host.demands root width height) →
      second.TakesInOrder (4 * (host.views.length + host.guides.length))
        (later.demands root width height) →
      (∀ name, host.layoutBy first root width height = .error (.unsatisfiable name) →
        later.layoutBy second root width height = .error (.unsatisfiable name)) ∧
      ∀ frames, later.layoutBy second root width height = .ok frames →
        ∃ found, host.layoutBy first root width height = .ok found := by
  intro later
  have more : host.AsksMore later root width height :=
    asksMore_applyAll host applications root width height
  refine ⟨fun solver => ⟨fun _ failed => ?_, fun _ laid => ?_⟩,
    fun first second one other => ⟨fun _ failed => ?_, fun _ laid => ?_⟩⟩
  · exact more.layoutBy_eq_error failed
  · exact more.exists_layoutBy laid
  · exact more.layoutBy_eq_unsatisfiable one other failed
  · exact more.exists_layoutBy_of_other one other laid

/-- A view is to be 30 wide and 50 wide, so the second of these constraints is the fault of a
layout, also after one more was applied and another one could not be. Without it, a layout goes
through, and does so before and after. -/
theorem conflicts_stay_of_two_widths :
    let registry : Registry := ⟨"parent", some ⟨0⟩, .ofList [("a", .view ⟨1⟩)]⟩
    let sized (key : String) (edge : Attribute) (points : Binary64)
        (priority : Option Priority) : Registry × List Descriptor :=
      (registry, [⟨⟨key, edge⟩, .equal, none, 1, points, priority⟩])
    let plain := (reached {} [.tree (.create none), .tree (.create none),
      .tree (.attach ⟨0⟩ ⟨1⟩)]).applyAll [sized "a" .width 30 none, sized "a" .width 40 (some .low)]
    let host := plain.applyAll [sized "a" .width 50 none]
    let more := [sized "a" .height 10 none, sized "b" .width 60 none]
    (simplex.TakesInOrder 8 (host.demands ⟨0⟩ 100 50) ∧
      simplex.TakesInOrder 8 ((host.applyAll more).demands ⟨0⟩ 100 50) ∧
      host.layoutBy simplex ⟨0⟩ 100 50 = .error (.unsatisfiable "a.width == 50") ∧
      (host.applyAll more).layoutBy simplex ⟨0⟩ 100 50 = .error (.unsatisfiable "a.width == 50")) ∧
    simplex.TakesInOrder 8 (plain.demands ⟨0⟩ 100 50) ∧
      simplex.TakesInOrder 8 ((plain.applyAll more).demands ⟨0⟩ 100 50) ∧
      (∃ frames, (plain.applyAll more).layoutBy simplex ⟨0⟩ 100 50 = .ok frames) ∧
      ∃ frames, plain.layoutBy simplex ⟨0⟩ 100 50 = .ok frames := by
  intro registry sized plain host more
  let sizes (quantity : Nat) : Rat := [0, 0, 100, 50, 0, 0, 30, 10].getD quantity 0
  let conflict : Demand := ⟨.ofTerm 6 1, .equal, none, 50, .required, "a.width == 50"⟩
  constructor
  · have before : host.demands ⟨0⟩ 100 50 = plain.demands ⟨0⟩ 100 50 ++ [conflict] := by
      decide +kernel
    have after : (host.applyAll more).demands ⟨0⟩ 100 50 = plain.demands ⟨0⟩ 100 50 ++
        conflict :: ((host.applyAll more).demands ⟨0⟩ 100 50).drop 11 := by
      decide +kernel
    have checked : ∃ state ∈ ((plain.demands ⟨0⟩ 100 50).foldlM Demand.addTo
          (Linear.Program.ofQuantities 8)).toOption,
        (∀ demand ∈ plain.demands ⟨0⟩ 100 50, demand.strength = .required → demand.Met sizes) ∧
        Demand.addTo state conflict = .error (.unsatisfiable "a.width == 50") := by
      decide +kernel
    obtain ⟨state, found, met, refused⟩ := checked
    have went : (plain.demands ⟨0⟩ 100 50).foldlM simplex.add (simplex.start 8) = .ok state :=
      eq_ok_of_toOption found
    have thirty : ⟨.ofTerm 6 1, .equal, none, 30, .required, "a.width == 30"⟩ ∈
        plain.demands ⟨0⟩ 100 50 ++ [conflict] := by
      decide +kernel
    have fifty : conflict ∈ plain.demands ⟨0⟩ 100 50 ++ [conflict] :=
      List.mem_append_right _ (List.mem_singleton_self conflict)
    have clashes : ¬Satisfiable (plain.demands ⟨0⟩ 100 50 ++ [conflict]) :=
      fun fits => absurd (fits.eq_of_set thirty fifty) (by decide +kernel)
    have ordered (rest : List Demand) :
        simplex.TakesInOrder 8 (plain.demands ⟨0⟩ 100 50 ++ conflict :: rest) :=
      Solver.takesInOrder_of_conflict went met rfl clashes refused rest
    have first : simplex.TakesInOrder 8 (host.demands ⟨0⟩ 100 50) := by
      rw [before]
      exact ordered []
    have second : simplex.TakesInOrder 8 ((host.applyAll more).demands ⟨0⟩ 100 50) := by
      rw [after]
      exact ordered _
    have failed : host.layoutBy simplex ⟨0⟩ 100 50 = .error (.unsatisfiable "a.width == 50") := by
      decide +kernel
    have stays := (conflicts_stay host more ⟨0⟩ 100 50).2 simplex simplex first second
    exact ⟨first, second, failed, stays.1 _ failed⟩
  · have checked : ∀ demands ∈ [plain.demands ⟨0⟩ 100 50, (plain.applyAll more).demands ⟨0⟩ 100 50],
        (∃ state ∈ (demands.foldlM Demand.addTo (Linear.Program.ofQuantities 8)).toOption, True) ∧
          ∀ demand ∈ demands, demand.strength = .required → demand.Met sizes := by
      decide +kernel
    have ordered {demands : List Demand} (listed : demands ∈
        [plain.demands ⟨0⟩ 100 50, (plain.applyAll more).demands ⟨0⟩ 100 50]) :
        simplex.TakesInOrder 8 demands := by
      obtain ⟨⟨state, found, -⟩, met⟩ := checked demands listed
      exact Solver.takesInOrder_of_met (eq_ok_of_toOption found) met
    have first := ordered (.head _)
    have second := ordered (.tail _ (.head _))
    have laid : ((plain.applyAll more).layoutBy simplex ⟨0⟩ 100 50).toOption.isSome := by
      decide +kernel
    obtain ⟨frames, goes⟩ := Option.isSome_iff_exists.1 laid
    have after := eq_ok_of_toOption goes
    have succeeds := (conflicts_stay plain more ⟨0⟩ 100 50).2 simplex simplex first second
    exact ⟨first, second, ⟨frames, after⟩, succeeds.2 frames after⟩

end ViewLayout.Host
