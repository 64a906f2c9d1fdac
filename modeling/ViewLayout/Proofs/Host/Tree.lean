import ViewLayout.Proofs.Host.Inventory
import ViewLayout.Proofs.Host.Moving

/-!
# The view tree as a reading

Whether the views of a host form a forest is decided by the place of every view in the tree. What
changes no place, such as setting content priorities or storing constraints, leaves a forest as it
is.
-/

namespace ViewLayout.Host

open ViewLayout.Number

/-- The place of every view in the view tree. -/
def tree (host : Host) : List (Option ViewId × List ViewId × Bool) :=
  host.views.map fun view => (view.parent, view.children, view.detached)

/-- Hosts of one tree have the same parents. -/
theorem parent?_of_tree {host after : Host} (same : after.tree = host.tree) (view : ViewId) :
    after.parent? view = host.parent? view := by
  have read (host : Host) : host.parent? view = (host.tree[view.index]?).bind (·.1) := by
    rw [tree, List.getElem?_map, Option.bind_map]
    rfl
  rw [read, read, same]

/-- Hosts of one tree have the same children. -/
theorem children_of_tree {host after : Host} (same : after.tree = host.tree) (view : ViewId) :
    after.children view = host.children view := by
  have read (host : Host) :
      host.children view = ((host.tree[view.index]?).map (·.2.1)).getD [] := by
    rw [tree, List.getElem?_map, Option.map_map]
    rfl
  rw [read, read, same]

/-- Hosts of one tree have the same views detached. -/
theorem isDetached_of_tree {host after : Host} (same : after.tree = host.tree) (view : ViewId) :
    after.isDetached view = host.isDetached view := by
  have read (host : Host) :
      host.isDetached view = ((host.tree[view.index]?).map (·.2.2)).getD false := by
    rw [tree, List.getElem?_map, Option.map_map]
    rfl
  rw [read, read, same]

/-- In hosts of one tree the same views lie above each other. -/
theorem atOrAbove_of_tree {host after : Host} (same : after.tree = host.tree)
    {upper lower : ViewId} : after.AtOrAbove upper lower ↔ host.AtOrAbove upper lower := by
  rw [AtOrAbove, AtOrAbove, ancestor?_congr (parent?_of_tree same)]

/-- Hosts of one tree created the same views. -/
theorem knows_of_tree {host after : Host} (same : after.tree = host.tree) (view : ViewId) :
    after.knows (.view view) = host.knows (.view view) := by
  have size := congrArg List.length same
  simp only [tree, List.length_map] at size
  simp only [knows, size]

/-- A host with the tree of a forest is a forest. -/
theorem IsForest.of_tree {host after : Host} (forest : host.IsForest)
    (same : after.tree = host.tree) : after.IsForest := by
  have parents := parent?_of_tree same
  have children := children_of_tree same
  have knows := knows_of_tree same
  constructor
  case parents =>
    intro view parent above
    rw [parents] at above
    rw [knows]
    exact forest.parents view parent above
  case children =>
    intro view child listed
    rw [children] at listed
    rw [knows]
    exact forest.children view child listed
  case agree =>
    intro parent child
    rw [children, parents]
    exact forest.agree parent child
  case nodup =>
    intro view
    rw [children]
    exact forest.nodup view
  case rooted =>
    intro view
    rw [ancestor?_congr parents]
    exact forest.rooted view
  case loose =>
    intro view
    rw [isDetached_of_tree same, parents]
    exact forest.loose view

/-- Changing the content priority of a view leaves the tree as it is. -/
theorem tree_setPriority (host : Host) (view : ViewId) (priority : Priority) (axis : Axis)
    (kind : ContentPriority) :
    (host.modifyView view (·.setPriority kind axis priority)).tree = host.tree := by
  apply map_views_modifyView
  intro data
  cases kind <;> rfl

/-- Setting a content priority of a view and of everything below it leaves the tree as it is. -/
theorem tree_of_setPriorityBelow {host after : Host} {root : ViewId} {priority : Priority}
    {axis : Axis} {kind : ContentPriority}
    (done : host.setPriorityBelow root priority axis kind = .ok after) : after.tree = host.tree :=
  read_of_setPriorityBelow (fun host view => tree_setPriority host view priority axis kind) done

end ViewLayout.Host
