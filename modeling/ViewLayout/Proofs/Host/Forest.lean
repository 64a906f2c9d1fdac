import Mathlib.Data.Fintype.Pigeonhole
import ViewLayout.Proofs.Host.Views

/-!
# The view tree is a forest

Parents and children are two copies of one relation, which the operations on the tree change in
separate steps. `IsForest` says that the copies agree and that following parents ends. It holds
after every run of creating, attaching and detaching views, whatever views they are asked for.

Attaching climbs from the new parent to its root before it changes anything. Nothing bounds that
climb but the forest it protects, so `Climbs` is the same climb without a bound, which need not end
on other hosts. In a forest it ends, within the bound of the host, and no step after it fails.
-/

namespace ViewLayout.Host

/-- The view that is reached from a view by following parents a number of times. -/
def ancestor? (host : Host) : Nat → ViewId → Option ViewId
  | 0, view => some view
  | steps + 1, view => (host.parent? view).bind (host.ancestor? steps)

/-- A view is another one or lies above it. -/
def AtOrAbove (host : Host) (upper lower : ViewId) : Prop :=
  ∃ steps, host.ancestor? steps lower = some upper

/-- The views of a host form a forest. -/
structure IsForest (host : Host) : Prop where
  /-- Every parent exists. -/
  parents : ∀ view parent, host.parent? view = some parent → host.knows (.view parent) = true
  /-- Every child exists. -/
  children : ∀ view, ∀ child ∈ host.children view, host.knows (.view child) = true
  /-- A view lists those views as its children whose parent it is. -/
  agree : ∀ parent child, child ∈ host.children parent ↔ host.parent? child = some parent
  /-- No view is listed twice. -/
  nodup : ∀ view, (host.children view).Nodup
  /-- Following parents ends. -/
  rooted : ∀ view, ∃ steps, host.ancestor? steps view = none
  /-- A detached view has no parent. -/
  loose : ∀ view, host.isDetached view = true → host.parent? view = none

/-! ## Following parents -/

/-- Following parents goes on from where it has come to. -/
theorem ancestor?_add (host : Host) (first second : Nat) (view : ViewId) :
    host.ancestor? (first + second) view =
      (host.ancestor? first view).bind (host.ancestor? second) := by
  induction first generalizing view with
  | zero => rw [Nat.zero_add, ancestor?, Option.bind_some]
  | succ first ih =>
    rw [Nat.succ_add, ancestor?, ancestor?, Option.bind_assoc]
    cases host.parent? view with
    | none => rfl
    | some parent => exact ih parent

/-- Where following parents has ended, there is nothing further up. -/
theorem ancestor?_of_le {host : Host} {steps more : Nat} {view : ViewId}
    (ended : host.ancestor? steps view = none) (le : steps ≤ more) :
    host.ancestor? more view = none := by
  obtain ⟨extra, rfl⟩ := Nat.exists_eq_add_of_le le
  rw [ancestor?_add, ended, Option.bind_none]

namespace IsForest

/-- No view lies above itself. -/
theorem ancestor?_ne_self {host : Host} (forest : host.IsForest) {steps : Nat}
    (moves : 0 < steps) (view : ViewId) : host.ancestor? steps view ≠ some view := by
  intro back
  have around (rounds : Nat) : host.ancestor? (rounds * steps) view = some view := by
    induction rounds with
    | zero => rw [Nat.zero_mul, ancestor?]
    | succ rounds ih => rw [Nat.succ_mul, ancestor?_add, ih, Option.bind_some, back]
  obtain ⟨height, ended⟩ := forest.rooted view
  have beyond := ancestor?_of_le ended (Nat.le_mul_of_pos_right height moves)
  rw [around height] at beyond
  contradiction

/-- There are no more steps to a root than there are views. -/
theorem ancestor?_eq_none {host : Host} (forest : host.IsForest) (view : ViewId) :
    host.ancestor? (host.views.length + 1) view = none := by
  by_contra reached
  have onTheWay (place : Fin (host.views.length + 1)) :
      ∃ node, host.ancestor? (place + 1) view = some node ∧ node.index < host.views.length := by
    cases found : host.ancestor? (place + 1) view with
    | none => exact absurd (ancestor?_of_le found (by omega)) reached
    | some node =>
      refine ⟨node, rfl, ?_⟩
      rw [ancestor?_add] at found
      obtain ⟨below, -, step⟩ := Option.bind_eq_some_iff.1 found
      have parent : host.parent? below = some node := by
        simpa [ancestor?] using step
      simpa [knows] using forest.parents below node parent
  choose node climbed inside using onTheWay
  -- More places than views: one view is met twice, and lies above itself.
  obtain ⟨first, second, apart, same⟩ := Fintype.exists_ne_map_eq_of_card_lt
    (fun place => (⟨(node place).index, inside place⟩ : Fin host.views.length)) (by simp)
  have met : node first = node second := by
    have indices := congrArg Fin.val same
    cases one : node first
    cases other : node second
    simp_all
  wlog before : first < second generalizing first second
  · exact this second first apart.symm same.symm met.symm (by omega)
  have between : (first : Nat) + 1 + (second - first) = second + 1 := by omega
  have loop := climbed second
  rw [← between, ancestor?_add, climbed first, Option.bind_some, ← met] at loop
  exact forest.ancestor?_ne_self (by omega) _ loop

end IsForest

/-! ## Climbing to a root -/

/-- What comes out of the climb of `checkNotAbove` when nothing bounds its steps. A climb that never
ends has no outcome. -/
inductive Climbs (host : Host) (parent child : ViewId) :
    Option ViewId → Except HostFault Unit → Prop
  /-- Above a root there is nothing. -/
  | root : Climbs host parent child none (.ok ())
  /-- The child is on the way. -/
  | met : Climbs host parent child (some child) (.error (.cycle parent.index child.index))
  /-- A view on the way is unknown. -/
  | lost {node : ViewId} {fault : HostFault} : node ≠ child → host.view node = .error fault →
      Climbs host parent child (some node) (.error fault)
  /-- The climb goes on with the parent. -/
  | up {node : ViewId} {data : View} {outcome : Except HostFault Unit} : node ≠ child →
      host.view node = .ok data → Climbs host parent child data.parent outcome →
      Climbs host parent child (some node) outcome

/-- A climb ends where following parents ends, and a bound that reaches that far does not show. -/
theorem climbs_iff {host : Host} {parent child : ViewId} {bound : Nat} {start : Option ViewId}
    (ended : start.bind (host.ancestor? bound) = none) {outcome : Except HostFault Unit} :
    host.Climbs parent child start outcome ↔
      outcome = host.checkNotAbove parent child bound start := by
  have atRoot (steps : Nat) : host.Climbs parent child none outcome ↔
      outcome = host.checkNotAbove parent child steps none := by
    rw [checkNotAbove]
    constructor
    · rintro ⟨⟩
      rfl
    · rintro rfl
      exact .root
  induction bound generalizing start with
  | zero =>
    cases start with
    | none => exact atRoot 0
    | some node => contradiction
  | succ bound ih =>
    cases start with
    | none => exact atRoot (bound + 1)
    | some node =>
      rw [checkNotAbove]
      by_cases here : node = child
      · subst here
        rw [if_pos rfl]
        constructor
        · intro climbed
          cases climbed with
          | met => rfl
          | lost away _ => exact absurd rfl away
          | up away _ _ => exact absurd rfl away
        · rintro rfl
          exact .met
      · rw [if_neg here]
        cases read : host.view node with
        | error fault =>
          constructor
          · intro climbed
            cases climbed with
            | met => contradiction
            | lost _ missing =>
              obtain rfl := Except.error.inj (missing.symm.trans read)
              rfl
            | up _ found _ => exact absurd (found.symm.trans read) nofun
          · rintro rfl
            exact .lost here read
        | ok data =>
          have above : host.parent? node = data.parent := by
            rw [parent?, view_eq_ok_iff.1 read, Option.bind_some]
          rw [Option.bind_some, ancestor?, above] at ended
          refine Iff.trans ?_ (ih ended)
          constructor
          · intro climbed
            cases climbed with
            | met => contradiction
            | lost _ missing => exact absurd (missing.symm.trans read) nofun
            | up _ found later =>
              obtain rfl := Except.ok.inj (found.symm.trans read)
              exact later
          · exact .up here read

/-- What lies at or above a view is the view itself or lies at or above its parent. -/
theorem atOrAbove_iff {host : Host} {upper lower : ViewId} :
    host.AtOrAbove upper lower ↔
      lower = upper ∨ ∃ parent, host.parent? lower = some parent ∧ host.AtOrAbove upper parent := by
  constructor
  · rintro ⟨steps, reached⟩
    cases steps with
    | zero => exact .inl (Option.some.inj reached)
    | succ steps =>
      obtain ⟨parent, above, later⟩ := Option.bind_eq_some_iff.1 reached
      exact .inr ⟨parent, above, steps, later⟩
  · rintro (rfl | ⟨parent, above, steps, reached⟩)
    · exact ⟨0, rfl⟩
    · exact ⟨steps + 1, by rw [ancestor?, above, Option.bind_some, reached]⟩

/-- A climb goes through when it starts at a known view that the child does not lie above. -/
theorem checkNotAbove_eq_ok_iff {host : Host} {parent child : ViewId} {bound : Nat}
    {start : Option ViewId}
    (parents : ∀ view parent, host.parent? view = some parent → host.knows (.view parent) = true)
    (ended : start.bind (host.ancestor? bound) = none) :
    host.checkNotAbove parent child bound start = .ok () ↔
      ∀ node ∈ start, host.knows (.view node) = true ∧ ¬host.AtOrAbove child node := by
  induction bound generalizing start with
  | zero =>
    cases start with
    | none => simp [checkNotAbove]
    | some node => contradiction
  | succ bound ih =>
    cases start with
    | none => simp [checkNotAbove]
    | some node =>
      simp only [Option.mem_def, Option.some.injEq, forall_eq']
      rw [checkNotAbove]
      by_cases met : node = child
      · rw [if_pos met]
        have here : host.AtOrAbove child node := atOrAbove_iff.2 (.inl met)
        simp [here, bind, Except.bind]
      · rw [if_neg met]
        cases found : host.view? node with
        | none =>
          have unknown : ¬host.knows (.view node) = true := by
            rw [knows_view_iff, found]
            simp
          simp [view_eq_error found, unknown, bind, Except.bind]
        | some data =>
          have known : host.knows (.view node) = true := knows_view_iff.2 ⟨data, found⟩
          have above : host.parent? node = data.parent := by
            rw [parent?, found, Option.bind_some]
          rw [Option.bind_some, ancestor?, above] at ended
          have later := ih ended
          have here : host.AtOrAbove child node ↔ _ := atOrAbove_iff
          simp only [view_eq_ok_iff.2 found, bind, Except.bind, later, known, true_and, here, met,
            false_or, above]
          constructor
          · rintro clear ⟨next, up, reached⟩
            exact (clear next up).2 reached
          · intro clear next up
            exact ⟨parents node next (above.trans up), fun reached => clear ⟨next, up, reached⟩⟩

end ViewLayout.Host
