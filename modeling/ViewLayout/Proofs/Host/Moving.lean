import ViewLayout.Proofs.Host.Forest

/-!
# Moving views in the tree

Attaching and detaching first read, then change three views one after another. In a forest every
view that they change exists, so nothing fails after the first change: `attachSteps_eq` and
`detachSteps_eq` give the outcome of a move and the host it leaves as a whole. What a move leaves is
a forest again, and so every run of the tree operations ends in one.

A move looks at the tree alone: `attach_withConstraints` says so of the constraints.
-/

namespace ViewLayout.Host

open ViewLayout.Number

/-! ## The tree after a move -/

/-- The host after a view was taken out of the children of its parent. -/
def unlisted (host : Host) (child : ViewId) : Host :=
  match host.parent? child with
  | some old =>
    host.modifyView old fun data => { data with children := data.children.filter (· ≠ child) }
  | none => host

/-- The host after a view was put last among the children of a view. -/
def reattached (host : Host) (parent child : ViewId) : Host :=
  ((host.unlisted child).modifyView child fun data =>
      { data with parent := some parent, detached := false }).modifyView parent
    fun data => { data with children := data.children ++ [child] }

/-- The host after a view was taken out of its parent and out of layout. -/
def loosened (host : Host) (view : ViewId) : Host :=
  (host.unlisted view).modifyView view fun data =>
    { data with parent := none, detached := true }

/-- Taking a view out of the children of its parent changes those children alone. -/
theorem view?_unlisted (host : Host) (child view : ViewId) :
    (host.unlisted child).view? view = (host.view? view).map fun data =>
      if host.parent? child = some view then
        { data with children := data.children.filter (· ≠ child) }
      else data := by
  unfold unlisted
  cases host.parent? child with
  | none => simp
  | some old =>
    rw [view?_modifyView]
    by_cases here : view = old
    · simp [here]
    · simp [here, Ne.symm here]

/-- Attaching changes the place of the child, and the children of its old and its new parent. -/
theorem view?_reattached (host : Host) (parent child view : ViewId) :
    (host.reattached parent child).view? view = (host.view? view).map fun data =>
      { data with
        parent := if view = child then some parent else data.parent
        detached := if view = child then false else data.detached
        children :=
          (if host.parent? child = some view then data.children.filter (· ≠ child)
            else data.children) ++ if view = parent then [child] else [] } := by
  rw [reattached, view?_modifyView, view?_modifyView, view?_unlisted]
  cases host.view? view with
  | none => simp
  | some data => split_ifs <;> simp only [Option.map_some, List.append_nil]

/-- Detaching changes the place of the view, and the children of its parent. -/
theorem view?_loosened (host : Host) (view other : ViewId) :
    (host.loosened view).view? other = (host.view? other).map fun data =>
      { data with
        parent := if other = view then none else data.parent
        detached := if other = view then true else data.detached
        children :=
          if host.parent? view = some other then data.children.filter (· ≠ view)
          else data.children } := by
  rw [loosened, view?_modifyView, view?_unlisted]
  cases host.view? other with
  | none => simp
  | some data => split_ifs <;> simp only [Option.map_some]

/-- A view is taken out of the children of its parent without a change outside the tree. -/
theorem outsideTree_unlisted (host : Host) (child : ViewId) :
    (host.unlisted child).outsideTree = host.outsideTree := by
  unfold unlisted
  cases host.parent? child with
  | none => rfl
  | some old => exact outsideTree_modifyView host old fun _ => rfl

/-- Attaching changes nothing outside the tree. -/
theorem outsideTree_reattached (host : Host) (parent child : ViewId) :
    (host.reattached parent child).outsideTree = host.outsideTree := by
  unfold reattached
  rw [outsideTree_modifyView, outsideTree_modifyView, outsideTree_unlisted]
  · exact fun _ => rfl
  · exact fun _ => rfl

/-- Detaching changes nothing outside the tree. -/
theorem outsideTree_loosened (host : Host) (view : ViewId) :
    (host.loosened view).outsideTree = host.outsideTree := by
  unfold loosened
  rw [outsideTree_modifyView, outsideTree_unlisted]
  exact fun _ => rfl

section Reading

variable {host : Host} (parent child view other : ViewId)

/-- The child has the new parent, and no other view changes its parent. -/
theorem parent?_reattached (known : host.knows (.view child) = true) :
    (host.reattached parent child).parent? view =
      if view = child then some parent else host.parent? view := by
  unfold parent?
  rw [view?_reattached, Option.bind_map]
  by_cases moved : view = child
  · obtain ⟨data, found⟩ := knows_view_iff.1 known
    rw [if_pos moved, moved, found, Option.bind_some, Function.comp, if_pos rfl]
  · simp only [if_neg moved, Function.comp_def]

/-- The child takes part in layout again, and no other view changes in this. -/
theorem isDetached_reattached :
    (host.reattached parent child).isDetached view =
      if view = child then false else host.isDetached view := by
  unfold isDetached
  rw [view?_reattached, Option.map_map]
  by_cases moved : view = child
  · cases host.view? view <;> simp [moved]
  · simp only [if_neg moved, Function.comp_def]

/-- The view has no parent, and no other view changes its parent. -/
theorem parent?_loosened :
    (host.loosened view).parent? other = if other = view then none else host.parent? other := by
  unfold parent?
  rw [view?_loosened, Option.bind_map]
  by_cases moved : other = view
  · cases host.view? other <;> simp [moved]
  · simp only [if_neg moved, Function.comp_def]

/-- The view is taken out of layout, and no other view changes in this. -/
theorem isDetached_loosened (known : host.knows (.view view) = true) :
    (host.loosened view).isDetached other =
      if other = view then true else host.isDetached other := by
  unfold isDetached
  rw [view?_loosened, Option.map_map]
  by_cases moved : other = view
  · obtain ⟨data, found⟩ := knows_view_iff.1 known
    rw [if_pos moved, moved, found, Option.map_some, Function.comp, Option.getD_some]
    exact if_pos rfl
  · simp only [if_neg moved, Function.comp_def]

end Reading

/-- A view is attached only to a view that the host created, and only if the host created it, whether
or not the views form a forest. -/
theorem knows_of_attach {host after : Host} {parent child : ViewId}
    (attached : host.attach parent child = .ok after) :
    host.knows (.view parent) = true ∧ host.knows (.view child) = true := by
  have went (fault : HostFault) : attachSteps parent child host ≠ .error fault host := by
    intro failed
    rw [attach, Steps.outcome, failed] at attached
    contradiction
  cases found : host.view? child with
  | none =>
    have unread : Steps.reading (fun host : Host => host.view child) host = .error _ host :=
      Steps.reading_of_error (view_eq_error found)
    exact absurd (Steps.bind_of_error unread) (went _)
  | some data =>
    have read : Steps.reading (fun host : Host => host.view child) host = .ok data host :=
      Steps.reading_of_ok (view_eq_ok_iff.2 found)
    cases there : host.view? parent with
    | none =>
      -- The climb from the parent fails at its first step.
      obtain ⟨fault, climbed⟩ : ∃ fault,
          host.checkNotAbove parent child (host.views.length + 1) (some parent) = .error fault := by
        by_cases same : parent = child
        · exact ⟨_, by rw [checkNotAbove, if_pos same]; rfl⟩
        · exact ⟨_, by rw [checkNotAbove, if_neg same, view_eq_error there]; rfl⟩
      refine absurd ?_ (went fault)
      calc attachSteps parent child host
          = _ := Steps.bind_of_ok read
        _ = .error fault host := Steps.bind_of_error (Steps.reading_of_error climbed)
    | some parentData =>
      exact ⟨knows_view_iff.2 ⟨parentData, there⟩, knows_view_iff.2 ⟨data, found⟩⟩

namespace IsForest

variable {host : Host} (forest : host.IsForest) {parent child view other : ViewId}

include forest

/-- A view is among the children of its parent alone, so all others keep theirs without it. -/
theorem filter_children_of_ne (elsewhere : host.parent? child ≠ some view) :
    (host.children view).filter (· ≠ child) = host.children view := by
  rw [List.filter_eq_self]
  intro listed present
  rw [decide_eq_true_eq]
  rintro rfl
  exact elsewhere ((forest.agree view listed).1 present)

/-- Taking a view out of the children of its parent takes it out of those of every view. -/
theorem getD_children (child view : ViewId) :
    ((host.view? view).map fun data =>
      if host.parent? child = some view then data.children.filter (· ≠ child)
      else data.children).getD [] = (host.children view).filter (· ≠ child) := by
  by_cases listed : host.parent? child = some view
  · simp only [if_pos listed, Host.children]
    cases host.view? view <;> rfl
  · simp only [if_neg listed]
    exact (forest.filter_children_of_ne listed).symm

/-- The children of every view after a view was attached. -/
theorem children_reattached (known : host.knows (.view parent) = true) :
    (host.reattached parent child).children view =
      (host.children view).filter (· ≠ child) ++ if view = parent then [child] else [] := by
  rw [← forest.getD_children child view, Host.children, view?_reattached, Option.map_map]
  cases found : host.view? view with
  | some data => rfl
  | none =>
    have elsewhere : view ≠ parent := by
      rintro rfl
      rw [knows_view_iff, found] at known
      obtain ⟨data, impossible⟩ := known
      contradiction
    simp [elsewhere]

/-- The children of every view after a view was detached. -/
theorem children_loosened :
    (host.loosened child).children view = (host.children view).filter (· ≠ child) := by
  rw [← forest.getD_children child view, Host.children, view?_loosened, Option.map_map]
  rfl

/-- Taking a view out of the children of its parent goes through. -/
theorem removeChild_eq (child : ViewId) :
    removeChild (host.parent? child) child host = .ok () (host.unlisted child) := by
  unfold removeChild unlisted
  cases above : host.parent? child with
  | none => rfl
  | some old => exact change_of_knows (forest.parents child old above) _

/-- The bound on a climb reaches beyond the root. -/
theorem bind_ancestor?_eq_none (parent : ViewId) :
    (some parent).bind (host.ancestor? (host.views.length + 1)) = none :=
  forest.ancestor?_eq_none parent

/-- The climb from a view that is to become a parent ends, and the bound on it does not show. -/
theorem climbs_iff (parent child : ViewId) (outcome : Except HostFault Unit) :
    host.Climbs parent child (some parent) outcome ↔
      outcome = host.checkNotAbove parent child (host.views.length + 1) (some parent) :=
  Host.climbs_iff (forest.bind_ancestor?_eq_none parent)

/-- The climb goes through when the parent exists and the child does not lie above it. -/
theorem checkNotAbove_iff :
    host.checkNotAbove parent child (host.views.length + 1) (some parent) = .ok () ↔
      host.knows (.view parent) = true ∧ ¬host.AtOrAbove child parent := by
  simpa using checkNotAbove_eq_ok_iff forest.parents (forest.bind_ancestor?_eq_none parent)

/-- Attaching goes through when both views exist and the child does not lie above the parent. It
leaves the host as it is when it fails. -/
theorem attachSteps_eq (parent child : ViewId) :
    (host.knows (.view parent) = true ∧ host.knows (.view child) = true ∧
        ¬host.AtOrAbove child parent ∧
        attachSteps parent child host = .ok () (host.reattached parent child)) ∨
      (¬(host.knows (.view parent) = true ∧ host.knows (.view child) = true ∧
          ¬host.AtOrAbove child parent) ∧
        ∃ fault, attachSteps parent child host = .error fault host) := by
  cases found : host.view? child with
  | none =>
    have unknown : ¬host.knows (.view child) = true := by
      rw [knows_view_iff, found]
      simp
    exact .inr ⟨fun ⟨_, known, _⟩ => unknown known, _,
      Steps.bind_of_error (Steps.reading_of_error (view_eq_error found))⟩
  | some data =>
    have known : host.knows (.view child) = true := knows_view_iff.2 ⟨data, found⟩
    have read : Steps.reading (fun host : Host => host.view child) host = .ok data host :=
      Steps.reading_of_ok (view_eq_ok_iff.2 found)
    cases climbed : host.checkNotAbove parent child (host.views.length + 1) (some parent) with
    | error fault =>
      refine .inr ⟨fun ⟨there, _, clear⟩ => ?_, fault, ?_⟩
      · rw [forest.checkNotAbove_iff.2 ⟨there, clear⟩] at climbed
        contradiction
      · calc attachSteps parent child host
            = _ := Steps.bind_of_ok read
          _ = .error fault host := Steps.bind_of_error (Steps.reading_of_error climbed)
    | ok =>
      obtain ⟨there, clear⟩ := forest.checkNotAbove_iff.1 climbed
      have above : host.parent? child = data.parent := by
        rw [parent?, found, Option.bind_some]
      -- The changes keep every view, so each finds the view it is about.
      have stillChild : (host.unlisted child).knows (.view child) = true :=
        (knows_of_outsideTree (outsideTree_unlisted host child) _).trans known
      have stillParent : (host.unlisted child).knows (.view parent) = true :=
        (knows_of_outsideTree (outsideTree_unlisted host child) _).trans there
      refine .inl ⟨there, known, clear, ?_⟩
      calc attachSteps parent child host
          = _ := Steps.bind_of_ok read
        _ = _ := Steps.bind_of_ok (Steps.reading_of_ok climbed)
        _ = _ := Steps.bind_of_ok (above ▸ forest.removeChild_eq child)
        _ = _ := Steps.bind_of_ok (change_of_knows stillChild _)
        _ = .ok () (host.reattached parent child) :=
            change_of_knows ((knows_modifyView _ _ _ _).trans stillParent) _

/-- Detaching goes through when the view exists. It leaves the host as it is when it fails. -/
theorem detachSteps_eq (view : ViewId) :
    (host.knows (.view view) = true ∧ detachSteps view host = .ok () (host.loosened view)) ∨
      (¬host.knows (.view view) = true ∧ ∃ fault, detachSteps view host = .error fault host) := by
  cases found : host.view? view with
  | none =>
    have unknown : ¬host.knows (.view view) = true := by
      rw [knows_view_iff, found]
      simp
    exact .inr ⟨unknown, _,
      Steps.bind_of_error (Steps.reading_of_error (view_eq_error found))⟩
  | some data =>
    have known : host.knows (.view view) = true := knows_view_iff.2 ⟨data, found⟩
    have above : host.parent? view = data.parent := by
      rw [parent?, found, Option.bind_some]
    have still : (host.unlisted view).knows (.view view) = true :=
      (knows_of_outsideTree (outsideTree_unlisted host view) _).trans known
    refine .inl ⟨known, ?_⟩
    calc detachSteps view host
        = _ := Steps.bind_of_ok (Steps.reading_of_ok (view_eq_ok_iff.2 found))
      _ = _ := Steps.bind_of_ok (above ▸ forest.removeChild_eq view)
      _ = .ok () (host.loosened view) := change_of_knows still _

/-- A view is attached to a view that it does not lie above. -/
theorem attach_of_clear (there : host.knows (.view parent) = true)
    (known : host.knows (.view child) = true) (clear : ¬host.AtOrAbove child parent) :
    host.attach parent child = .ok (host.reattached parent child) := by
  obtain ⟨-, -, -, done⟩ | ⟨refused, -⟩ := forest.attachSteps_eq parent child
  · rw [attach, Steps.outcome, done]
    rfl
  · exact absurd ⟨there, known, clear⟩ refused

/-- A view that the host created is detached. -/
theorem detach_of_knows (known : host.knows (.view view) = true) :
    host.detach view = .ok (host.loosened view) := by
  obtain ⟨-, done⟩ | ⟨unknown, -⟩ := forest.detachSteps_eq view
  · rw [detach, Steps.outcome, done]
    rfl
  · exact absurd known unknown

end IsForest

/-! ## The forest after a step -/

/-- What lies above a view is determined by the parents. -/
theorem ancestor?_congr {host after : Host}
    (same : ∀ view, after.parent? view = host.parent? view) : after.ancestor? = host.ancestor? := by
  funext steps
  induction steps with
  | zero => rfl
  | succ steps ih =>
    funext view
    rw [ancestor?, ancestor?, same, ih]

/-- The views above a view do not change when only the parent of a view changes that is not among
them. -/
theorem ancestor?_of_elsewhere {host after : Host} {moved view : ViewId}
    (elsewhere : ∀ view, view ≠ moved → after.parent? view = host.parent? view)
    (clear : ¬host.AtOrAbove moved view) (steps : Nat) :
    after.ancestor? steps view = host.ancestor? steps view := by
  induction steps generalizing view with
  | zero => rfl
  | succ steps ih =>
    rw [ancestor?, ancestor?, elsewhere view fun here => clear (atOrAbove_iff.2 (.inl here))]
    cases above : host.parent? view with
    | none => rfl
    | some parent =>
      exact ih fun reached => clear (atOrAbove_iff.2 (.inr ⟨parent, above, reached⟩))

/-- Following parents still ends when the parent of one view changes and following parents ends from
that view. -/
theorem rooted_of_elsewhere {host after : Host} {moved : ViewId}
    (elsewhere : ∀ view, view ≠ moved → after.parent? view = host.parent? view)
    (here : ∃ steps, after.ancestor? steps moved = none) {view : ViewId} {height : Nat}
    (ended : host.ancestor? height view = none) : ∃ steps, after.ancestor? steps view = none := by
  induction height generalizing view with
  | zero => contradiction
  | succ height ih =>
    by_cases same : view = moved
    · exact same ▸ here
    · rw [ancestor?, ← elsewhere view same] at ended
      cases above : after.parent? view with
      | none => exact ⟨1, by rw [ancestor?, above, Option.bind_none]⟩
      | some parent =>
        rw [above, Option.bind_some] at ended
        obtain ⟨steps, later⟩ := ih ended
        exact ⟨steps + 1, by rw [ancestor?, above, Option.bind_some, later]⟩

namespace IsForest

variable {host : Host} (forest : host.IsForest)

include forest

/-- A forest with one more root is a forest. -/
theorem createView (content : Option (PerAxis Binary64)) :
    (host.createView content).1.IsForest := by
  have parents view : (host.createView content).1.parent? view = host.parent? view :=
    readView_createView host content view (·.bind View.parent) rfl
  have children view : (host.createView content).1.children view = host.children view :=
    readView_createView host content view (fun data => (data.map View.children).getD []) rfl
  have detached view : (host.createView content).1.isDetached view = host.isDetached view :=
    readView_createView host content view (fun data => (data.map View.detached).getD false) rfl
  have knows view (known : host.knows (.view view) = true) :
      (host.createView content).1.knows (.view view) = true := by
    simp only [Host.knows, Host.createView, List.length_append, decide_eq_true_eq] at known ⊢
    omega
  constructor
  case parents =>
    intro view above found
    rw [parents] at found
    exact knows above (forest.parents view above found)
  case children =>
    intro view listed present
    rw [children] at present
    exact knows listed (forest.children view listed present)
  case agree =>
    intro view listed
    rw [children, parents]
    exact forest.agree view listed
  case nodup =>
    intro view
    rw [children]
    exact forest.nodup view
  case rooted =>
    intro view
    rw [ancestor?_congr parents]
    exact forest.rooted view
  case loose =>
    intro view
    rw [detached, parents]
    exact forest.loose view

/-- What attaching leaves is a forest. -/
theorem reattached {parent child : ViewId} (there : host.knows (.view parent) = true)
    (known : host.knows (.view child) = true) (clear : ¬host.AtOrAbove child parent) :
    (host.reattached parent child).IsForest := by
  have knows := knows_of_outsideTree (outsideTree_reattached host parent child)
  have parents view := parent?_reattached parent child view known
  have elsewhere view (other : view ≠ child) :
      (host.reattached parent child).parent? view = host.parent? view := by
    rw [parents, if_neg other]
  constructor
  case parents =>
    intro view above
    rw [parents, knows]
    split
    · rintro ⟨⟩
      exact there
    · exact forest.parents view above
  case children =>
    intro view listed
    rw [forest.children_reattached there, knows, List.mem_append, List.mem_filter]
    rintro (⟨before, -⟩ | last)
    · exact forest.children view listed before
    · split at last
      · exact List.mem_singleton.1 last ▸ known
      · contradiction
  case agree =>
    intro view listed
    rw [forest.children_reattached there, parents, List.mem_append, List.mem_filter,
      forest.agree view listed]
    by_cases moved : listed = child
    · by_cases target : view = parent
      · simp [moved, target]
      · simp [moved, target, Ne.symm target]
    · by_cases target : view = parent <;> simp [moved, target]
  case nodup =>
    intro view
    rw [forest.children_reattached there, List.nodup_append]
    refine ⟨(forest.nodup view).filter _, by split <;> simp, ?_⟩
    intro one before other last
    split at last
    · rw [List.mem_singleton.1 last]
      exact of_decide_eq_true (List.mem_filter.1 before).2
    · contradiction
  case rooted =>
    intro view
    obtain ⟨height, ended⟩ := forest.rooted view
    refine rooted_of_elsewhere elsewhere ?_ ended
    obtain ⟨above, root⟩ := forest.rooted parent
    refine ⟨above + 1, ?_⟩
    rw [ancestor?, parents, if_pos rfl, Option.bind_some,
      ancestor?_of_elsewhere elsewhere clear, root]
  case loose =>
    intro view
    rw [isDetached_reattached, parents]
    split
    · intro impossible
      contradiction
    · exact forest.loose view

/-- What detaching leaves is a forest. -/
theorem loosened {view : ViewId} (known : host.knows (.view view) = true) :
    (host.loosened view).IsForest := by
  have knows := knows_of_outsideTree (outsideTree_loosened host view)
  constructor
  case parents =>
    intro other above
    rw [parent?_loosened, knows]
    split
    · intro impossible
      contradiction
    · exact forest.parents other above
  case children =>
    intro other listed present
    rw [forest.children_loosened] at present
    exact (knows _).trans (forest.children other listed (List.mem_of_mem_filter present))
  case agree =>
    intro other listed
    rw [forest.children_loosened, parent?_loosened, List.mem_filter, forest.agree other listed]
    by_cases moved : listed = view <;> simp [moved]
  case nodup =>
    intro other
    rw [forest.children_loosened]
    exact (forest.nodup other).filter _
  case rooted =>
    intro other
    obtain ⟨height, ended⟩ := forest.rooted other
    have elsewhere moved (apart : moved ≠ view) :
        (host.loosened view).parent? moved = host.parent? moved := by
      rw [parent?_loosened, if_neg apart]
    have root : (host.loosened view).ancestor? 1 view = none := by
      rw [ancestor?, parent?_loosened, if_pos rfl, Option.bind_none]
    exact rooted_of_elsewhere elsewhere ⟨1, root⟩ ended
  case loose =>
    intro other
    rw [isDetached_loosened _ _ known, parent?_loosened]
    split
    · exact fun _ => rfl
    · exact forest.loose other

end IsForest

/-! ## Constraints and the tree -/

/-- The host with other constraints. -/
def withConstraints (host : Host) (constraints : List Applied) : Host :=
  { host with constraints }

/-- A climb does not look at the constraints. -/
theorem checkNotAbove_withConstraints (host : Host) (constraints : List Applied)
    (parent child : ViewId) (steps : Nat) (node : Option ViewId) :
    (host.withConstraints constraints).checkNotAbove parent child steps node =
      host.checkNotAbove parent child steps node := by
  induction steps generalizing node with
  | zero => cases node <;> rfl
  | succ steps ih =>
    cases node with
    | none => rfl
    | some node =>
      unfold checkNotAbove
      simp only [ih]
      rfl

section Passing

variable (constraints : List Applied)

/-- Changing a view that has to exist passes by the constraints. -/
theorem change_passesBy (view : ViewId) (update : View → View) :
    (change view update).PassesBy (·.withConstraints constraints) :=
  Steps.PassesBy.bind (Steps.reading_passesBy fun _ => rfl) fun _ =>
    Steps.modify_passesBy fun _ => rfl

/-- Attaching passes by the constraints. -/
theorem attachSteps_passesBy (parent child : ViewId) :
    (attachSteps parent child).PassesBy (·.withConstraints constraints) := by
  refine .bind (Steps.reading_passesBy fun _ => rfl) fun data => ?_
  refine .bind (Steps.reading_passesBy fun host => ?_) fun _ => ?_
  · exact checkNotAbove_withConstraints host constraints parent child _ _
  · refine .bind ?_ fun _ => .bind (change_passesBy constraints _ _) fun _ =>
      change_passesBy constraints _ _
    unfold removeChild
    split
    · exact change_passesBy constraints _ _
    · exact Steps.pure_passesBy ()

/-- A host with other constraints attaches a view when the host does, in the same place. -/
theorem attach_withConstraints (host : Host) (parent child : ViewId) :
    (host.withConstraints constraints).attach parent child =
      (host.attach parent child).map (·.withConstraints constraints) := by
  unfold attach
  rw [(attachSteps_passesBy constraints parent child).outcome]
  cases (attachSteps parent child).outcome host <;> rfl

end Passing

end ViewLayout.Host
