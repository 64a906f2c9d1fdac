import ViewLayout.Host.Walk
import ViewLayout.Proofs.Host.Runs
import ViewLayout.Proofs.Host.TreeOrder

/-!
# Walking a tree while it changes

A walk keeps a stack of views, and a visitor may change the tree under it. `Walks` is the loop of a
walk without a bound on its visits, together with the visits it makes. A visitor that detaches views
leaves a `Pruned` tree behind, whose order is a part of the order from before. Each visit shortens
the order of the stack, so the walk ends, and it ends within the bound of the host.

A view below the root is visited when its parent is, unless it was detached by then: a view that is
on the stack already is visited even if it is detached before its turn. `WalkLaw` collects what a
walk with a detaching visitor does, with and without a fault on the way.
-/

namespace ViewLayout.Host

variable {Extra : Type}

/-! ## Walks without a bound -/

/-- A visit of a walk: what the visitor is given. -/
structure Visit (Extra : Type) where
  /-- The state of the walk before the visit. -/
  state : Host × Extra
  /-- The view that is visited. -/
  view : ViewId

/-- The state that a visitor leaves behind, whether or not it fails. -/
def Visit.after (made : Visit Extra) (visit : Visitor (Host × Extra)) : Host × Extra :=
  (visit made.state made.view).1

/-- The fault of a visitor that fails. -/
def Visit.fault? (made : Visit Extra) (visit : Visitor (Host × Extra)) : Option HostFault :=
  (visit made.state made.view).2

/-- The visitor that does the same and never fails. -/
def Visitor.unfailing (visit : Visitor (Host × Extra)) : Visitor (Host × Extra) :=
  fun state view => ((visit state view).1, none)

/-- The visits of a walk, and what comes out of it, when nothing bounds their number. A walk that
never ends has no outcome. -/
inductive Walks (visit : Visitor (Host × Extra)) :
    List ViewId → Host × Extra → List (Visit Extra) → (Host × Extra) × Option HostFault → Prop
  /-- The stack is empty. -/
  | done {state : Host × Extra} : Walks visit [] state [] (state, none)
  /-- The visitor fails. -/
  | stopped {view : ViewId} {stack : List ViewId} {state after : Host × Extra}
      {fault : HostFault} : visit state view = (after, some fault) →
      Walks visit (view :: stack) state [⟨state, view⟩] (after, some fault)
  /-- The views that are in the visited view after the visit are walked next. -/
  | on {view : ViewId} {stack : List ViewId} {state after : Host × Extra}
      {visits : List (Visit Extra)} {outcome : (Host × Extra) × Option HostFault} :
      visit state view = (after, none) →
      Walks visit (after.1.children view ++ stack) after visits outcome →
      Walks visit (view :: stack) state (⟨state, view⟩ :: visits) outcome

namespace Walks

variable {visit : Visitor (Host × Extra)} {stack : List ViewId} {state : Host × Extra}
  {visits : List (Visit Extra)} {outcome : (Host × Extra) × Option HostFault}

/-- A walk goes one way. -/
theorem unique (one : Walks visit stack state visits outcome) {others : List (Visit Extra)}
    {result : (Host × Extra) × Option HostFault} (other : Walks visit stack state others result) :
    others = visits ∧ result = outcome := by
  induction one generalizing others result with
  | done =>
    cases other
    exact ⟨rfl, rfl⟩
  | stopped failed =>
    cases other with
    | stopped again =>
      rw [failed] at again
      cases again
      exact ⟨rfl, rfl⟩
    | on went _ => exact absurd (failed.symm.trans went) (by simp)
  | on went _ ih =>
    cases other with
    | stopped failed => exact absurd (failed.symm.trans went) (by simp)
    | on again later =>
      obtain rfl := congrArg Prod.fst (went.symm.trans again)
      obtain ⟨rfl, rfl⟩ := ih later
      exact ⟨rfl, rfl⟩

/-- A bound that allows all visits does not show. -/
theorem walkStack_eq (walked : Walks visit stack state visits outcome) {bound : Nat}
    (enough : visits.length ≤ bound) :
    walkStack (fun state view => state.1.children view) visit bound stack state = outcome := by
  induction walked generalizing bound with
  | done => cases bound <;> rfl
  | stopped failed =>
    cases bound with
    | zero => contradiction
    | succ bound => rw [walkStack, failed]
  | on went _ ih =>
    cases bound with
    | zero => contradiction
    | succ bound =>
      rw [walkStack, went]
      exact ih (Nat.le_of_succ_le_succ enough)

/-- What every visit keeps is as it was before the walk at every visit. -/
theorem read_state (walked : Walks visit stack state visits outcome) {Reading : Type}
    (read : Host × Extra → Reading) (kept : ∀ state view, read (visit state view).1 = read state) :
    ∀ made ∈ visits, read made.state = read state := by
  induction walked with
  | done => nofun
  | stopped _ =>
    intro made only
    rw [List.mem_singleton.1 only]
  | @on view _ state after _ _ went _ ih =>
    intro made present
    obtain rfl | later := List.mem_cons.1 present
    · rfl
    · have here := kept state view
      rw [went] at here
      exact (ih made later).trans here

/-- A walk ends in the state that the visitor leads to from view to view. -/
theorem outcome_eq (walked : Walks visit stack state visits outcome) :
    outcome.1 =
      (visits.map Visit.view).foldl (fun state view => (visit state view).1) state := by
  induction walked with
  | done => rfl
  | stopped failed =>
    rw [List.map_singleton, List.foldl_cons, failed]
    rfl
  | on went _ ih => rw [List.map_cons, List.foldl_cons, went, ih]

/-- What is on the stack first is visited first. -/
theorem exists_eq_cons {view : ViewId}
    (walked : Walks visit (view :: stack) state visits outcome) :
    ∃ later, visits = ⟨state, view⟩ :: later := by
  cases walked with
  | stopped _ => exact ⟨[], rfl⟩
  | on _ _ => exact ⟨_, rfl⟩

end Walks

/-! ## Walks that a fault cuts short -/

/-- The visits of a walk are those of the walk without faults, up to the first fault. -/
structure CutShort (visit : Visitor (Host × Extra)) (full visits : List (Visit Extra))
    (outcome : (Host × Extra) × Option HostFault) : Prop where
  /-- No other visits are made. -/
  part : visits <+: full
  /-- The first visit that fails is the last, and its fault is that of the walk. -/
  stops : ∀ n made fault, full[n]? = some made → made.fault? visit = some fault →
    (∀ earlier ∈ full.take n, earlier.fault? visit = none) →
    visits = full.take (n + 1) ∧ outcome = (made.after visit, some fault)
  /-- When no visit fails, all are made and the walk does not fail. -/
  completes : (∀ made ∈ full, made.fault? visit = none) → visits = full ∧ outcome.2 = none

/-- When the walk without faults ends, the walk ends. -/
theorem Walks.exists_cutShort {visit : Visitor (Host × Extra)} {stack : List ViewId}
    {state : Host × Extra} {full : List (Visit Extra)}
    {outcome : (Host × Extra) × Option HostFault}
    (walked : Walks visit.unfailing stack state full outcome) :
    ∃ visits result, Walks visit stack state visits result ∧
      CutShort visit full visits result := by
  induction walked with
  | done =>
    refine ⟨[], _, .done, List.prefix_rfl, ?_, fun _ => ⟨rfl, rfl⟩⟩
    intro n made fault found
    simp at found
  | stopped failed => exact absurd (congrArg Prod.snd failed) nofun
  | @on view stack state after full outcome went _ ih =>
    obtain rfl : (visit state view).1 = after := congrArg Prod.fst went
    cases failed : (visit state view).2 with
    | some fault =>
      refine ⟨_, _, .stopped (Prod.ext rfl failed), ⟨full, rfl⟩, ?_, ?_⟩
      · intro n made other found faulty clear
        cases n with
        | zero =>
          obtain rfl := Option.some.inj found
          obtain rfl : fault = other := Option.some.inj (failed.symm.trans faulty)
          exact ⟨rfl, rfl⟩
        | succ n =>
          have first := clear ⟨state, view⟩ List.mem_cons_self
          exact absurd (failed.symm.trans first) nofun
      · intro clear
        exact absurd (failed.symm.trans (clear ⟨state, view⟩ List.mem_cons_self)) nofun
    | none =>
      obtain ⟨visits, result, walked, cut⟩ := ih
      refine ⟨_, _, .on (Prod.ext rfl failed) walked, ?_, ?_, ?_⟩
      · rw [List.prefix_cons_inj]
        exact cut.part
      · intro n made fault found faulty clear
        cases n with
        | zero =>
          obtain rfl := Option.some.inj found
          exact absurd (failed.symm.trans faulty) nofun
        | succ n =>
          obtain ⟨rfl, rfl⟩ := cut.stops n made fault found faulty fun earlier present =>
            clear earlier (List.mem_cons_of_mem _ present)
          exact ⟨rfl, rfl⟩
      · intro clear
        obtain ⟨rfl, none⟩ := cut.completes fun made present =>
          clear made (List.mem_cons_of_mem _ present)
        exact ⟨rfl, none⟩

/-! ## Pruned trees -/

/-- A host is another one after views were detached: every view keeps those of its children that are
not detached. -/
structure Pruned (host after : Host) : Prop where
  /-- The views form a forest. -/
  forest : after.IsForest
  /-- Children are lost when they are detached. -/
  children : ∀ view,
    after.children view = (host.children view).filter fun child => !after.isDetached child
  /-- Views that were detached stay detached. -/
  detached : ∀ view, host.isDetached view = true → after.isDetached view = true

namespace IsForest

variable {host : Host} (forest : host.IsForest)

include forest

/-- Children are not detached. -/
theorem isDetached_child {view child : ViewId} (listed : child ∈ host.children view) :
    host.isDetached child = false := by
  rw [← Bool.not_eq_true]
  intro loose
  have above := (forest.agree view child).1 listed
  rw [forest.loose child loose] at above
  contradiction

/-- A tree that stays as it is loses nothing. -/
theorem pruned_of_tree {after : Host} (same : after.tree = host.tree) : host.Pruned after where
  forest := forest.of_tree same
  children view := by
    rw [children_of_tree same, eq_comm, List.filter_eq_self]
    intro child listed
    rw [isDetached_of_tree same, forest.isDetached_child listed, Bool.not_false]
  detached view loose := (isDetached_of_tree same view).trans loose

/-- Detaching a view prunes the tree, whether or not the view exists. -/
theorem pruned_detach (view : ViewId) :
    host.Pruned ((TreeStep.detach view).perform host) := by
  obtain ⟨known, done⟩ | ⟨-, fault, failed⟩ := forest.detachSteps_eq view
  · rw [TreeStep.perform, Steps.left_of_ok done]
    refine ⟨forest.loosened known, fun other => ?_, fun other loose => ?_⟩
    · rw [forest.children_loosened]
      apply List.filter_congr
      intro child listed
      by_cases here : child = view
      · simp [here, isDetached_loosened view view known]
      · simp [here, isDetached_loosened view child known, forest.isDetached_child listed]
    · rw [isDetached_loosened view other known, loose, ite_self]
  · rw [TreeStep.perform, Steps.left_of_error failed]
    exact forest.pruned_of_tree rfl

end IsForest

/-- A tree that is pruned again is pruned. -/
theorem Pruned.trans {host middle after : Host} (first : host.Pruned middle)
    (second : middle.Pruned after) : host.Pruned after where
  forest := second.forest
  children view := by
    rw [second.children, first.children, List.filter_filter]
    apply List.filter_congr
    intro child _
    cases loose : middle.isDetached child with
    | false => simp
    | true => simp [second.detached child loose]
  detached view loose := second.detached view (first.detached view loose)

/-- Detaching views one after another prunes the tree. -/
theorem IsForest.pruned_detachAll {host : Host} (forest : host.IsForest) (views : List ViewId) :
    host.Pruned (views.foldl (fun host view => (TreeStep.detach view).perform host) host) := by
  induction views generalizing host with
  | nil => exact forest.pruned_of_tree rfl
  | cons view views ih =>
    have here := forest.pruned_detach view
    exact here.trans (ih here.forest)

namespace Pruned

variable {host after : Host} (pruned : host.Pruned after)

include pruned

/-- A view is in a view after pruning when it was before, and is not detached. -/
theorem mem_children {view child : ViewId} :
    child ∈ after.children view ↔
      child ∈ host.children view ∧ after.isDetached child = false := by
  rw [pruned.children, List.mem_filter, Bool.not_eq_true']

/-- What is listed after pruning is a part of what was listed before. -/
theorem exists_treeOrder {views fewer order : List ViewId} (listed : host.TreeOrder views order)
    (part : fewer.Sublist views) :
    ∃ less, after.TreeOrder fewer less ∧ less.Sublist order := by
  induction listed generalizing fewer with
  | nil =>
    rw [List.sublist_nil.1 part]
    exact ⟨[], .nil, .refl _⟩
  | @cons view rest below after' _ _ ihBelow ihAfter =>
    rw [List.sublist_cons_iff] at part
    obtain skipped | ⟨others, rfl, part⟩ := part
    · obtain ⟨less, listed, shorter⟩ := ihAfter skipped
      exact ⟨less, listed, shorter.trans ((List.sublist_append_right below after').cons view)⟩
    · have inside : (after.children view).Sublist (host.children view) := by
        rw [pruned.children]
        exact List.filter_sublist
      obtain ⟨one, listedOne, shorterOne⟩ := ihBelow inside
      obtain ⟨other, listedOther, shorterOther⟩ := ihAfter part
      exact ⟨_, .cons listedOne listedOther, (shorterOne.append shorterOther).cons_cons view⟩

end Pruned

/-! ## Walks that prune the tree -/

/-- Every visit leaves a tree behind that is pruned. -/
def Visitor.Prunes (visit : Visitor (Host × Extra)) : Prop :=
  ∀ (state : Host × Extra) (view : ViewId), state.1.IsForest →
    state.1.Pruned (visit state view).1.1

/-- Which views are visited from a stack, by the tree of a host: those on the stack, and below them
the views whose parent is visited before they are detached. -/
structure Reaches (host : Host) (visit : Visitor (Host × Extra)) (stack order : List ViewId)
    (visits : List (Visit Extra)) : Prop where
  /-- The visits follow the order. -/
  part : (visits.map Visit.view).Sublist order
  /-- What is on the stack is visited. -/
  stacked : ∀ view ∈ stack, view ∈ visits.map Visit.view
  /-- Other views are visited when their parent is, unless they are detached by then. -/
  below : ∀ view, view ∉ stack → (view ∈ visits.map Visit.view ↔
    ∃ made ∈ visits, host.parent? view = some made.view ∧
      (made.after visit).1.isDetached view = false)
  /-- Views that are detached stay detached. -/
  detached : ∀ made ∈ visits, ∀ view, host.isDetached view = true →
    (made.after visit).1.isDetached view = true

/-- A visit adds the visited view, and below it the views that are still in it. -/
theorem Reaches.on {state : Host × Extra} {visit : Visitor (Host × Extra)} {view : ViewId}
    {stack below order : List ViewId} {visits : List (Visit Extra)} (forest : state.1.IsForest)
    (pruned : state.1.Pruned (visit state view).1.1)
    (reaches : Reaches (visit state view).1.1 visit
      ((visit state view).1.1.children view ++ stack) below visits)
    (part : below.Sublist order) :
    Reaches state.1 visit (view :: stack) (view :: order) (⟨state, view⟩ :: visits) where
  part := (reaches.part.trans part).cons_cons view
  stacked other onStack := by
    obtain rfl | behind := List.mem_cons.1 onStack
    · exact List.mem_cons_self
    · exact List.mem_cons_of_mem _ (reaches.stacked other (List.mem_append_right _ behind))
  below other offStack := by
    obtain ⟨differs, notBehind⟩ := not_or.1 (List.mem_cons.not.1 offStack)
    rw [List.map_cons, List.mem_cons, or_iff_right differs]
    by_cases still : other ∈ (visit state view).1.1.children view
    · -- A view that is still in the visited view is on the stack now.
      have visited := reaches.stacked other (List.mem_append_left _ still)
      obtain ⟨listed, free⟩ := pruned.mem_children.1 still
      exact iff_of_true visited
        ⟨_, List.mem_cons_self, (forest.agree view other).1 listed, free⟩
    · rw [reaches.below other (by simp [still, notBehind])]
      constructor
      · rintro ⟨made, later, above, free⟩
        have listed := ((pruned.forest.agree made.view other).2 above)
        have before := (forest.agree made.view other).1 (pruned.mem_children.1 listed).1
        exact ⟨made, List.mem_cons_of_mem _ later, before, free⟩
      · rintro ⟨made, present, above, free⟩
        have listed := (forest.agree made.view other).2 above
        obtain rfl | later := List.mem_cons.1 present
        · exact absurd (pruned.mem_children.2 ⟨listed, free⟩) still
        · -- A view that is free later was not detached by this visit.
          have freeNow : (visit state view).1.1.isDetached other = false := by
            rw [← Bool.not_eq_true]
            intro loose
            rw [reaches.detached made later other loose] at free
            contradiction
          have inside := pruned.mem_children.2 ⟨listed, freeNow⟩
          exact ⟨made, later, (pruned.forest.agree made.view other).1 inside, free⟩
  detached made present other loose := by
    have looseNow := pruned.detached other loose
    obtain rfl | later := List.mem_cons.1 present
    · exact looseNow
    · exact reaches.detached made later other looseNow

/-- A walk that prunes a forest and never fails ends, because each visit shortens the order of the
stack. -/
theorem Visitor.Prunes.exists_walks {visit : Visitor (Host × Extra)} (prunes : visit.Prunes)
    {state : Host × Extra} (forest : state.1.IsForest) {stack order : List ViewId}
    (listed : state.1.TreeOrder stack order) :
    ∃ visits final, Walks visit.unfailing stack state visits (final, none) ∧
      Reaches state.1 visit stack order visits := by
  induction length : order.length using Nat.strong_induction_on generalizing state stack order with
  | _ size ih =>
    cases listed with
    | nil => exact ⟨[], state, .done, .slnil, nofun, by simp, nofun⟩
    | @cons view stack below after inside behind =>
      have pruned := prunes state view forest
      have kept : ((visit state view).1.1.children view ++ stack).Sublist
          (state.1.children view ++ stack) := by
        rw [pruned.children]
        exact List.filter_sublist.append_right stack
      obtain ⟨less, listed, part⟩ := pruned.exists_treeOrder (inside.append behind) kept
      have shorter : less.length < size := by
        have bound := part.length_le
        rw [List.length_cons] at length
        omega
      obtain ⟨visits, final, walked, reaches⟩ := ih _ shorter pruned.forest listed rfl
      exact ⟨_, final, .on rfl walked, reaches.on forest pruned part⟩

/-- A walk that leaves the tree as it is visits its views in tree order. -/
theorem Walks.map_view {visit : Visitor (Host × Extra)} {stack : List ViewId}
    {state : Host × Extra} {visits : List (Visit Extra)}
    {outcome : (Host × Extra) × Option HostFault}
    (walked : Walks visit.unfailing stack state visits outcome)
    (still : ∀ made ∈ visits, (made.after visit).1.tree = made.state.1.tree)
    {order : List ViewId} (listed : state.1.TreeOrder stack order) :
    visits.map Visit.view = order := by
  induction walked generalizing order with
  | done =>
    cases listed
    rfl
  | stopped failed => exact absurd (congrArg Prod.snd failed) nofun
  | @on view stack state after visits outcome went _ ih =>
    obtain rfl : (visit state view).1 = after := congrArg Prod.fst went
    cases listed with
    | cons inside behind =>
      have same : (visit state view).1.1.tree = state.1.tree := still _ List.mem_cons_self
      have next := (inside.append behind).congr (children_of_tree same)
      rw [← children_of_tree same view] at next
      rw [List.map_cons, ih (fun made later => still made (List.mem_cons_of_mem _ later)) next]

/-! ## Walks from a root -/

/-- A visitor detaches views and does nothing else to the host: any views, at any visit, whether or
not it fails. -/
def Visitor.OnlyDetaches (visit : Visitor (Host × Extra)) : Prop :=
  ∀ state view, ∃ views : List ViewId,
    (visit state view).1.1 =
      views.foldl (fun host other => (TreeStep.detach other).perform host) state.1

/-- A visitor that detaches views prunes the tree. -/
theorem Visitor.OnlyDetaches.prunes {visit : Visitor (Host × Extra)}
    (detaches : visit.OnlyDetaches) : visit.Prunes := by
  intro state view forest
  obtain ⟨views, changed⟩ := detaches state view
  rw [changed]
  exact forest.pruned_detachAll views

/-- What a walk from a root does. `order` is the tree order of the root and all that is below it,
`full` are the visits when the visitor never fails, and `visits` are those that are made. -/
structure WalkLaw (host : Host) (extra : Extra) (visit : Visitor (Host × Extra)) (root : ViewId)
    (order : List ViewId) (full visits : List (Visit Extra)) : Prop where
  /-- The views at or below the root have one order. -/
  order_iff : ∀ views, host.TreeOrder [root] views ↔ views = order
  /-- All views at or below the root are in it. -/
  mem_order : ∀ view, view ∈ order ↔ host.AtOrAbove root view
  /-- The walk ends without a bound, and its bound does not show. -/
  ends : ∀ made outcome, Walks visit [root] (host, extra) made outcome ↔
    made = visits ∧ outcome = host.walk extra visit root
  /-- So does the walk of the visitor that never fails. -/
  full_ends : ∀ made outcome, Walks visit.unfailing [root] (host, extra) made outcome ↔
    made = full ∧ outcome = host.walk extra visit.unfailing root
  /-- The root is visited first. -/
  starts : ∃ later, full = ⟨(host, extra), root⟩ :: later
  /-- No view is visited twice. -/
  nodup : (full.map Visit.view).Nodup
  /-- The visits follow the tree order from before the walk. -/
  part : (full.map Visit.view).Sublist order
  /-- A view below the root is visited when the view that it was in is, unless it was detached
  before or during that visit. -/
  visited_iff : ∀ view ∈ order, view ≠ root → (view ∈ full.map Visit.view ↔
    ∃ made ∈ full, host.parent? view = some made.view ∧
      (made.after visit).1.isDetached view = false)
  /-- When the tree stays as it is, all views are visited. -/
  still : (∀ made ∈ full, (made.after visit).1.tree = made.state.1.tree) →
    full.map Visit.view = order
  /-- The walk is cut short by the first fault. -/
  cut : CutShort visit full visits (host.walk extra visit root)

/-- An order of a forest is no longer than the host has views. -/
theorem IsForest.length_le {host : Host} (forest : host.IsForest) {root : ViewId}
    (known : host.knows (.view root) = true) {order : List ViewId} (once : order.Nodup)
    (below : ∀ view ∈ order, host.AtOrAbove root view) : order.length ≤ host.views.length := by
  have inside (view : ViewId) (listed : view ∈ order) : view.index < host.views.length := by
    simpa [knows] using forest.knows_of_atOrAbove known (below view listed)
  have indices : (order.map ViewId.index).Nodup := by
    apply once.map
    rintro ⟨one⟩ ⟨other⟩ rfl
    rfl
  have subset : order.map ViewId.index ⊆ List.range host.views.length := by
    intro index listed
    obtain ⟨view, present, rfl⟩ := List.mem_map.1 listed
    exact List.mem_range.2 (inside view present)
  simpa using (indices.subperm subset).length_le

/-- A walk that prunes a forest does what a walk is to do. -/
theorem Visitor.Prunes.exists_walkLaw {visit : Visitor (Host × Extra)} (prunes : visit.Prunes)
    {host : Host} (forest : host.IsForest) {root : ViewId}
    (known : host.knows (.view root) = true) (extra : Extra) :
    ∃ order full visits, host.WalkLaw extra visit root order full visits := by
  obtain ⟨order, listed, once, members⟩ := forest.exists_treeOrder_singleton root
  obtain ⟨full, final, walked, reaches⟩ : ∃ full final,
      Walks visit.unfailing [root] (host, extra) full (final, none) ∧
        Reaches host visit [root] order full := prunes.exists_walks forest listed
  obtain ⟨visits, result, walkedShort, cut⟩ := walked.exists_cutShort
  have few : full.length ≤ host.views.length + 1 := by
    have bound := forest.length_le known once fun view => (members view).1
    have shorter := reaches.part.length_le
    rw [List.length_map] at shorter
    omega
  have boundless : walk host extra visit.unfailing root = (final, none) :=
    walked.walkStack_eq few
  have boundlessShort : walk host extra visit root = result :=
    walkedShort.walkStack_eq (cut.part.length_le.trans few)
  refine ⟨order, full, visits, ?_⟩
  constructor
  case order_iff =>
    intro views
    constructor
    · exact listed.unique
    · rintro rfl
      exact listed
  case mem_order => exact members
  case ends =>
    intro made outcome
    rw [boundlessShort]
    constructor
    · exact walkedShort.unique
    · rintro ⟨rfl, rfl⟩
      exact walkedShort
  case full_ends =>
    intro made outcome
    rw [boundless]
    constructor
    · exact walked.unique
    · rintro ⟨rfl, rfl⟩
      exact walked
  case starts => exact walked.exists_eq_cons
  case nodup => exact once.sublist reaches.part
  case part => exact reaches.part
  case visited_iff =>
    intro view _ differs
    exact reaches.below view (by simpa using differs)
  case still =>
    intro still
    exact walked.map_view still listed
  case cut =>
    rw [boundlessShort]
    exact cut

/-- Whatever calls made a host, a walk from a view that it created does what a walk is to do, with
every visitor that detaches views and does nothing else to the host. -/
theorem exists_walkLaw_of_onlyDetaches (configuration : Configuration) (calls : List Call)
    (extra : Extra) {visit : Visitor (Host × Extra)} {root : ViewId}
    (known : (reached configuration calls).knows (.view root) = true)
    (detaches : visit.OnlyDetaches) :
    ∃ order full visits, (reached configuration calls).WalkLaw extra visit root order full visits :=
  detaches.prunes.exists_walkLaw (isForest_reached configuration calls) known extra

/-- A visitor that detaches a grandchild of the root while its parent is visited, and fails at the
last child of the root. -/
theorem exists_walkLaw_of_grandchild_detached :
    let host := reached {} [.tree (.create none), .tree (.create none), .tree (.create none),
      .tree (.create none), .tree (.attach ⟨0⟩ ⟨1⟩), .tree (.attach ⟨1⟩ ⟨2⟩),
      .tree (.attach ⟨0⟩ ⟨3⟩)]
    let visit : Visitor (Host × Unit) := fun state view =>
      (((if view = ⟨1⟩ then [⟨2⟩] else []).foldl
          (fun host other => (TreeStep.detach other).perform host) state.1, ()),
        if view = ⟨3⟩ then some (.unknownNode "c") else none)
    host.knows (.view ⟨0⟩) = true ∧ visit.OnlyDetaches ∧
      ∃ order full visits, host.WalkLaw () visit ⟨0⟩ order full visits := by
  refine ⟨by decide, fun state view => ⟨_, rfl⟩, ?_⟩
  exact exists_walkLaw_of_onlyDetaches {} _ () (by decide) fun state view => ⟨_, rfl⟩

/-- A view that was detached while it was on the stack is visited all the same, here the last child
of the root. The visits are recorded in front of those before them. -/
example :
    let host := reached {} [.tree (.create none), .tree (.create none), .tree (.create none),
      .tree (.attach ⟨0⟩ ⟨1⟩), .tree (.attach ⟨0⟩ ⟨2⟩)]
    let visit : Visitor (Host × List ViewId) := fun state view =>
      ((if view = ⟨1⟩ then (TreeStep.detach ⟨2⟩).perform state.1 else state.1, view :: state.2),
        none)
    (host.walk [] visit ⟨0⟩).1.2 = [⟨2⟩, ⟨1⟩, ⟨0⟩] := by
  decide

end ViewLayout.Host
