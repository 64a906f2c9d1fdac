import ViewLayout.Host

/-!
# The views of a host

What is read off a host after the data of one of its views is changed, and what a host is apart
from its view tree: the changes of the tree are to leave all of that as it is.
-/

namespace ViewLayout

open ViewLayout.Number

/-- What a view is apart from its place in the view tree. -/
def View.outsideTree (view : View) : View :=
  { view with parent := none, children := [], detached := false }

namespace Host

/-- What a host is apart from its view tree: how many views it has and what their contents want,
its guides, its constraints and its gaps. -/
def outsideTree (host : Host) : Host :=
  { host with views := host.views.map View.outsideTree }

/-- The views that have data are those the host created. -/
theorem knows_view_iff {host : Host} {view : ViewId} :
    host.knows (.view view) = true ↔ ∃ data, host.view? view = some data := by
  simp only [knows, view?, decide_eq_true_eq]
  constructor
  · intro inside
    exact ⟨_, List.getElem?_eq_getElem inside⟩
  · rintro ⟨data, found⟩
    exact (List.getElem?_eq_some_iff.1 found).1

/-- A view that has to exist is read when the host created it. -/
theorem view_eq_ok_iff {host : Host} {view : ViewId} {data : View} :
    host.view view = .ok data ↔ host.view? view = some data := by
  unfold Host.view
  cases host.view? view <;> simp

/-- A view that the host did not create cannot be read. -/
theorem view_eq_error {host : Host} {view : ViewId} (missing : host.view? view = none) :
    host.view view = .error (.unknownNode (Node.view view).describe) := by
  unfold Host.view
  rw [missing]

/-- Changing one view changes the data of that view alone. -/
theorem view?_modifyView (host : Host) (view other : ViewId) (update : View → View) :
    (host.modifyView view update).view? other =
      if other = view then (host.view? other).map update else host.view? other := by
  unfold view? modifyView
  rw [List.getElem?_modify]
  by_cases same : other = view
  · simp [same]
  · have apart : view.index ≠ other.index := by
      intro indices
      apply same
      cases other
      cases view
      exact congrArg ViewId.mk indices.symm
    simp [same, apart]

/-- A new view comes after the others and changes none of them. -/
theorem view?_createView (host : Host) (content : Option (PerAxis Binary64)) (view : ViewId) :
    (host.createView content).1.view? view =
      if view.index = host.views.length then some { content } else host.view? view := by
  unfold view? createView
  rw [List.getElem?_append]
  split
  · rename_i before
    rw [if_neg (by omega)]
  · rename_i beyond
    split
    · rename_i last
      rw [last, Nat.sub_self]
      rfl
    · rw [List.getElem?_eq_none (by simp; omega), List.getElem?_eq_none (by omega)]

/-- Whatever a new view has as a missing one does reads as before. -/
theorem readView_createView {α : Type} (host : Host) (content : Option (PerAxis Binary64))
    (view : ViewId) (read : Option View → α) (fresh : read (some { content }) = read none) :
    read ((host.createView content).1.view? view) = read (host.view? view) := by
  rw [view?_createView]
  split
  · rename_i last
    rw [fresh, view?, List.getElem?_eq_none (by omega)]
  · rfl

/-- What a change of a view keeps of its data is read off all views as before. -/
theorem map_views_modifyView {Reading : Type} {read : View → Reading} {update : View → View}
    (kept : ∀ data, read (update data) = read data) (host : Host) (view : ViewId) :
    (host.modifyView view update).views.map read = host.views.map read := by
  apply List.ext_getElem?
  intro index
  rw [modifyView, List.getElem?_map, List.getElem?_map, List.getElem?_modify]
  cases host.views[index]? with
  | none => rfl
  | some data =>
    by_cases here : view.index = index
    · simp [here, kept]
    · simp [here]

/-- Changing the place of a view in the tree leaves everything outside the tree as it is. -/
theorem outsideTree_modifyView (host : Host) (view : ViewId) {update : View → View}
    (inTree : ∀ data, (update data).outsideTree = data.outsideTree) :
    (host.modifyView view update).outsideTree = host.outsideTree := by
  rw [outsideTree, outsideTree, map_views_modifyView inTree]
  rfl

/-- Changing a view creates and removes no nodes. -/
theorem knows_modifyView (host : Host) (view : ViewId) (update : View → View) (node : Node) :
    (host.modifyView view update).knows node = host.knows node := by
  cases node with
  | view other => simp only [knows, modifyView, List.length_modify]
  | guide guide => rfl

/-- Hosts that are the same outside the tree have the same guides. -/
theorem guides_of_outsideTree {host after : Host} (same : after.outsideTree = host.outsideTree) :
    after.guides = host.guides := by
  simpa [outsideTree] using congrArg (fun host => host.guides) same

/-- Hosts that are the same outside the tree have the same constraints. -/
theorem constraints_of_outsideTree {host after : Host}
    (same : after.outsideTree = host.outsideTree) : after.constraints = host.constraints := by
  simpa [outsideTree] using congrArg (fun host => host.constraints) same

/-- Hosts that are the same outside the tree created the same nodes. -/
theorem knows_of_outsideTree {host after : Host} (same : after.outsideTree = host.outsideTree)
    (node : Node) : after.knows node = host.knows node := by
  have views : after.views.length = host.views.length := by
    simpa [outsideTree] using congrArg (fun host => host.views.length) same
  cases node with
  | view view => simp only [knows, views]
  | guide guide => simp only [knows, guides_of_outsideTree same]

/-- A change of a view that the host created goes through. -/
theorem change_of_knows {host : Host} {view : ViewId} (known : host.knows (.view view) = true)
    (update : View → View) : change view update host = .ok () (host.modifyView view update) := by
  obtain ⟨data, found⟩ := knows_view_iff.1 known
  exact Steps.bind_of_ok (Steps.reading_of_ok (view_eq_ok_iff.2 found))

end Host

end ViewLayout
