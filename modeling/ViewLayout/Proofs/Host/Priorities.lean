import ViewLayout.Proofs.Host.Walking

/-!
# Content priorities of a subtree

Setting a content priority of a view walks over everything below it. `PrioritiesSet` says which
priorities of a host such settings change: in the subtree of one view those that are set, and no
others. Everything else about the host is what it is `withoutPriorities`. Settings that meet in no
priority of any view can be made in either order.
-/

namespace ViewLayout

namespace View

/-- What a view is apart from its content priorities. -/
def withoutPriorities (view : View) : View :=
  { view with hugging := .both .low, resistance := .both .high }

/-- A view has no data besides its content priorities and what it is apart from them. -/
theorem eq_of_priorities {one other : View}
    (same : one.withoutPriorities = other.withoutPriorities)
    (priorities : ∀ kind axis, one.priority kind axis = other.priority kind axis) :
    one = other := by
  obtain ⟨_, _, _, _, ⟨_, _⟩, ⟨_, _⟩⟩ := one
  obtain ⟨_, _, _, _, ⟨_, _⟩, ⟨_, _⟩⟩ := other
  have hugging axis := priorities .hugging axis
  have resistance axis := priorities .resistance axis
  have huggingX := hugging .horizontal
  have huggingY := hugging .vertical
  have resistanceX := resistance .horizontal
  have resistanceY := resistance .vertical
  simp only [priority, PerAxis.get] at huggingX huggingY resistanceX resistanceY
  simp only [withoutPriorities, View.mk.injEq] at same
  simp only [View.mk.injEq, PerAxis.mk.injEq]
  exact ⟨same.1, same.2.1, same.2.2.1, same.2.2.2.1, ⟨huggingX, huggingY⟩,
    ⟨resistanceX, resistanceY⟩⟩

/-- Setting a content priority changes that one alone. -/
theorem priority_setPriority (view : View) (kind other : ContentPriority) (axis along : Axis)
    (value : Priority) :
    (view.setPriority kind axis value).priority other along =
      if along = axis ∧ other = kind then value else view.priority other along := by
  cases kind <;> cases other <;> cases axis <;> cases along <;> rfl

/-- Setting a content priority leaves everything else as it is. -/
theorem withoutPriorities_setPriority (view : View) (kind : ContentPriority) (axis : Axis)
    (value : Priority) :
    (view.setPriority kind axis value).withoutPriorities = view.withoutPriorities := by
  cases kind <;> rfl

end View

namespace Host

open ViewLayout.Number

/-- What a host is apart from the content priorities of its views: the view tree, the contents of
the views, the guides, the constraints and the gaps. -/
def withoutPriorities (host : Host) : Host :=
  { host with views := host.views.map View.withoutPriorities }

/-- Hosts that are the same apart from content priorities have the same view tree. -/
theorem tree_of_withoutPriorities {host after : Host}
    (same : after.withoutPriorities = host.withoutPriorities) : after.tree = host.tree := by
  have read (host : Host) : host.tree = host.withoutPriorities.tree := by
    rw [tree, tree, withoutPriorities, List.map_map]
    rfl
  rw [read after, same, ← read]

/-- A host has no data besides the content priorities and what it is apart from them. -/
theorem eq_of_priorities {one other : Host}
    (same : one.withoutPriorities = other.withoutPriorities)
    (priorities : ∀ view axis kind,
      one.contentPriority? view axis kind = other.contentPriority? view axis kind) :
    one = other := by
  have views : one.views = other.views := by
    apply List.ext_getElem?
    intro index
    have apart := congrArg (fun host : Host => host.views[index]?) same
    have here axis kind := priorities ⟨index⟩ axis kind
    simp only [withoutPriorities, List.getElem?_map] at apart
    simp only [contentPriority?, view?] at here
    cases left : one.views[index]? with
    | none =>
      rw [left, Option.map_none, eq_comm, Option.map_eq_none_iff] at apart
      exact apart.symm
    | some data =>
      cases right : other.views[index]? with
      | none =>
        rw [left, right] at apart
        contradiction
      | some found =>
        rw [left, right] at apart here
        rw [View.eq_of_priorities (Option.some.inj apart) fun kind axis =>
          Option.some.inj (here axis kind)]
  have rest := same
  simp only [withoutPriorities, Host.mk.injEq] at rest
  obtain ⟨spacing, guides, constraints⟩ := one
  obtain ⟨_, _, _⟩ := other
  simp_all

/-! ## Setting the priority of some views -/

/-- Sets one content priority of views, one after another. -/
def setPriorities (host : Host) (views : List ViewId) (priority : Priority) (axis : Axis)
    (kind : ContentPriority) : Host :=
  views.foldl (fun host view => host.modifyView view (·.setPriority kind axis priority)) host

/-- Setting a content priority of one view changes that one alone. -/
theorem contentPriority?_modifyView (host : Host) (view other : ViewId) (priority : Priority)
    (axis along : Axis) (kind which : ContentPriority) :
    (host.modifyView view (·.setPriority kind axis priority)).contentPriority? other along which =
      (host.contentPriority? other along which).map fun before =>
        if other = view ∧ along = axis ∧ which = kind then priority else before := by
  rw [contentPriority?, contentPriority?, view?_modifyView]
  cases host.view? other with
  | none => simp
  | some data =>
    by_cases here : other = view
    · rw [if_pos here, Option.map_some, Option.map_some, View.priority_setPriority]
      simp only [here, true_and, Option.map_some]
    · rw [if_neg here, Option.map_some, Option.map_some]
      simp only [here, false_and, if_false]

/-- Setting a content priority of some views changes that of those views alone. -/
theorem contentPriority?_setPriorities (host : Host) (views : List ViewId) (other : ViewId)
    (priority : Priority) (axis along : Axis) (kind which : ContentPriority) :
    (host.setPriorities views priority axis kind).contentPriority? other along which =
      (host.contentPriority? other along which).map fun before =>
        if other ∈ views ∧ along = axis ∧ which = kind then priority else before := by
  unfold setPriorities
  induction views generalizing host with
  | nil => simp
  | cons view views ih =>
    rw [List.foldl_cons, ih, contentPriority?_modifyView, Option.map_map]
    congr 1
    funext before
    by_cases first : other = view
    · by_cases chosen : along = axis ∧ which = kind <;> simp [first, chosen]
    · simp [first]

/-- Setting a content priority of one view leaves everything else about the host as it is. -/
theorem withoutPriorities_modifyView (host : Host) (view : ViewId) (priority : Priority)
    (axis : Axis) (kind : ContentPriority) :
    (host.modifyView view (·.setPriority kind axis priority)).withoutPriorities =
      host.withoutPriorities := by
  rw [withoutPriorities, withoutPriorities,
    map_views_modifyView fun data => data.withoutPriorities_setPriority kind axis priority]
  rfl

/-! ## Setting the priority of a subtree -/

/-- The visitor that sets a content priority. -/
def priorityVisitor (priority : Priority) (axis : Axis) (kind : ContentPriority) :
    Visitor (Host × Unit) := fun state view =>
  match state.1.setContentPriority view priority axis kind with
  | .ok host => ((host, ()), none)
  | .error fault => (state, some fault)

/-- Setting a content priority of a subtree is a walk. -/
theorem setPriorityBelow_eq (host : Host) (root : ViewId) (priority : Priority) (axis : Axis)
    (kind : ContentPriority) :
    host.setPriorityBelow root priority axis kind =
      match host.walk () (priorityVisitor priority axis kind) root with
      | ((host, _), none) => .ok host
      | (_, some fault) => .error fault :=
  rfl

section Visiting

variable (priority : Priority) (axis : Axis) (kind : ContentPriority)

/-- A visit changes the visited view, if there is one. -/
theorem priorityVisitor_fst (state : Host × Unit) (view : ViewId) :
    (priorityVisitor priority axis kind state view).1 =
      (state.1.modifyView view (·.setPriority kind axis priority), ()) := by
  unfold priorityVisitor setContentPriority Host.view
  cases found : state.1.view? view with
  | some data => rfl
  | none =>
    have beyond : state.1.views.length ≤ view.index := List.getElem?_eq_none_iff.1 found
    have same : state.1.views.modify view.index (·.setPriority kind axis priority) =
        state.1.views := List.modify_eq_self beyond
    simp only [modifyView, same]
    rfl

/-- A visit does not fail when the host created the view. -/
theorem priorityVisitor_snd {state : Host × Unit} {view : ViewId}
    (known : state.1.knows (.view view) = true) :
    (priorityVisitor priority axis kind state view).2 = none := by
  obtain ⟨data, found⟩ := knows_view_iff.1 known
  unfold priorityVisitor setContentPriority
  rw [view_eq_ok_iff.2 found]
  rfl

/-- A visit leaves the tree as it is. -/
theorem tree_priorityVisitor (state : Host × Unit) (view : ViewId) :
    (priorityVisitor priority axis kind state view).1.1.tree = state.1.tree := by
  rw [priorityVisitor_fst]
  exact tree_setPriority state.1 view priority axis kind

/-- Visits one after another change the visited views. -/
theorem foldl_priorityVisitor (host : Host) (views : List ViewId) :
    views.foldl (fun state view => (priorityVisitor priority axis kind state view).1) (host, ()) =
      (host.setPriorities views priority axis kind, ()) := by
  unfold setPriorities
  induction views generalizing host with
  | nil => rfl
  | cons view views ih => rw [List.foldl_cons, List.foldl_cons, priorityVisitor_fst, ih]

/-- In a forest, setting a content priority of a view sets that of everything at or below it. -/
theorem IsForest.exists_setPriorityBelow {host : Host} (forest : host.IsForest) {root : ViewId}
    (known : host.knows (.view root) = true) :
    ∃ order, (∀ view, view ∈ order ↔ host.AtOrAbove root view) ∧
      host.setPriorityBelow root priority axis kind =
        .ok (host.setPriorities order priority axis kind) := by
  have prunes : (priorityVisitor priority axis kind).Prunes := fun state view forest =>
    forest.pruned_of_tree (tree_priorityVisitor priority axis kind state view)
  obtain ⟨order, full, visits, law⟩ := prunes.exists_walkLaw forest known ()
  have all : full.map Visit.view = order :=
    law.still fun made _ => tree_priorityVisitor priority axis kind made.state made.view
  have clear : ∀ made ∈ full, made.fault? (priorityVisitor priority axis kind) = none := by
    intro made present
    have walked := (law.full_ends _ _).2 ⟨rfl, rfl⟩
    have same := walked.read_state (fun state => state.1.tree)
      (tree_priorityVisitor priority axis kind) made present
    have below := (law.mem_order made.view).1 (all ▸ List.mem_map_of_mem present)
    apply priorityVisitor_snd
    exact (knows_of_tree same made.view).trans (forest.knows_of_atOrAbove known below)
  obtain ⟨rfl, whole⟩ := law.cut.completes clear
  have ends := ((law.ends _ _).2 ⟨rfl, rfl⟩).outcome_eq
  rw [all, foldl_priorityVisitor] at ends
  have walked : host.walk () (priorityVisitor priority axis kind) root =
      ((host.setPriorities order priority axis kind, ()), none) := Prod.ext ends whole
  refine ⟨order, law.mem_order, ?_⟩
  rw [setPriorityBelow_eq, walked]

end Visiting

/-! ## Settings of a subtree -/

/-- A host is another one after content priorities were set in the subtree of a view: those that
`chosen` gives for an axis and a kind. -/
structure PrioritiesSet (host : Host) (root : ViewId)
    (chosen : Axis → ContentPriority → Option Priority) (after : Host) : Prop where
  /-- At or below the view they are what was chosen. -/
  inside : ∀ view axis kind priority, host.AtOrAbove root view →
    chosen axis kind = some priority → after.contentPriority? view axis kind = some priority
  /-- Elsewhere, and where nothing was chosen, they are what they were. -/
  outside : ∀ view axis kind, (host.AtOrAbove root view → chosen axis kind = none) →
    after.contentPriority? view axis kind = host.contentPriority? view axis kind
  /-- Nothing else changes. -/
  besides : after.withoutPriorities = host.withoutPriorities

/-- The choice of one priority. -/
def chooseOne (priority : Priority) (axis : Axis) (kind : ContentPriority) :
    Axis → ContentPriority → Option Priority :=
  fun along which => if along = axis ∧ which = kind then some priority else none

/-- In a forest, setting a content priority of a view that the host created goes through, and sets
it in the subtree of the view. -/
theorem IsForest.exists_prioritiesSet {host : Host} (forest : host.IsForest) {root : ViewId}
    (known : host.knows (.view root) = true) (priority : Priority) (axis : Axis)
    (kind : ContentPriority) :
    ∃ after, host.setPriorityBelow root priority axis kind = .ok after ∧
      host.PrioritiesSet root (chooseOne priority axis kind) after := by
  obtain ⟨order, members, done⟩ := forest.exists_setPriorityBelow priority axis kind known
  refine ⟨_, done, ?_, ?_, ?_⟩
  · intro view along which value below chosen
    obtain ⟨data, found⟩ := knows_view_iff.1 (forest.knows_of_atOrAbove known below)
    obtain ⟨here, same⟩ := Option.ite_none_right_eq_some.1 chosen
    have set : view ∈ order ∧ along = axis ∧ which = kind := ⟨(members view).2 below, here⟩
    rw [contentPriority?_setPriorities, contentPriority?, found, Option.map_some, Option.map_some,
      if_pos set, same]
  · intro view along which spared
    have other : ¬(view ∈ order ∧ along = axis ∧ which = kind) := by
      rintro ⟨listed, here⟩
      have nothing := spared ((members view).1 listed)
      rw [chooseOne, if_pos here] at nothing
      contradiction
    rw [contentPriority?_setPriorities]
    simp only [if_neg other, Option.map_id']
  · exact read_of_setPriorityBelow (fun host view => withoutPriorities_modifyView host view _ _ _)
      done

namespace PrioritiesSet

variable {host middle after : Host} {root : ViewId}
  {chosen more : Axis → ContentPriority → Option Priority}

/-- Settings leave the view tree as it is. -/
theorem atOrAbove_iff (set : host.PrioritiesSet root chosen after) {upper lower : ViewId} :
    after.AtOrAbove upper lower ↔ host.AtOrAbove upper lower :=
  atOrAbove_of_tree (tree_of_withoutPriorities set.besides)

/-- Where nothing is chosen, nothing changes. -/
theorem refl (host : Host) (root : ViewId) : host.PrioritiesSet root (fun _ _ => none) host where
  inside _ _ _ _ _ impossible := by contradiction
  outside _ _ _ _ := rfl
  besides := rfl

/-- Settings of one view, one after another, of which the later one counts. -/
theorem trans (first : host.PrioritiesSet root chosen middle)
    (second : middle.PrioritiesSet root more after) :
    host.PrioritiesSet root (fun axis kind => (more axis kind).or (chosen axis kind)) after where
  inside view axis kind priority below set := by
    have here := first.atOrAbove_iff.2 below
    cases later : more axis kind with
    | some value =>
      rw [later] at set
      obtain rfl := Option.some.inj set
      exact second.inside view axis kind value here later
    | none =>
      rw [later, Option.none_or] at set
      rw [second.outside view axis kind fun _ => later]
      exact first.inside view axis kind priority below set
  outside view axis kind spared := by
    have neither (below : host.AtOrAbove root view) := Option.or_eq_none_iff.1 (spared below)
    rw [second.outside view axis kind fun here => (neither (first.atOrAbove_iff.1 here)).1,
      first.outside view axis kind fun below => (neither below).2]
  besides := second.besides.trans first.besides

/-- Settings that meet in no priority of any view can be made in either order. -/
theorem eq_of_apart {other : ViewId} {left right : Host}
    (first : host.PrioritiesSet root chosen middle)
    (second : middle.PrioritiesSet other more after)
    (secondFirst : host.PrioritiesSet other more left)
    (firstSecond : left.PrioritiesSet root chosen right)
    (apart : ∀ view axis kind, host.AtOrAbove root view → host.AtOrAbove other view →
      chosen axis kind = none ∨ more axis kind = none) : right = after := by
  apply eq_of_priorities
  · rw [firstSecond.besides, secondFirst.besides, second.besides, first.besides]
  · intro view axis kind
    by_cases one : host.AtOrAbove root view → chosen axis kind = none
    · have still := firstSecond.outside view axis kind fun below =>
        one (secondFirst.atOrAbove_iff.1 below)
      by_cases two : host.AtOrAbove other view → more axis kind = none
      · have stays := second.outside view axis kind fun below =>
          two (first.atOrAbove_iff.1 below)
        rw [still, secondFirst.outside view axis kind two, stays, first.outside view axis kind one]
      · obtain ⟨below, some⟩ := Classical.not_imp.1 two
        obtain ⟨value, set⟩ := Option.ne_none_iff_exists'.1 some
        rw [still, secondFirst.inside view axis kind value below set,
          second.inside view axis kind value (first.atOrAbove_iff.2 below) set]
    · obtain ⟨below, some⟩ := Classical.not_imp.1 one
      obtain ⟨value, set⟩ := Option.ne_none_iff_exists'.1 some
      have spared : host.AtOrAbove other view → more axis kind = none := fun meets =>
        (apart view axis kind below meets).resolve_left some
      rw [firstSecond.inside view axis kind value (secondFirst.atOrAbove_iff.2 below) set,
        second.outside view axis kind fun here => spared (first.atOrAbove_iff.1 here),
        first.inside view axis kind value below set]

end PrioritiesSet

end Host

end ViewLayout
