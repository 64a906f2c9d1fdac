import ViewLayout.Proofs.Builder.Changes
import ViewLayout.Proofs.Builder.Priorities

/-!
# Removing views

Views are removed by their keys. Keys that stand for no view are passed over, and a view that is
named more than once, by one key or by several, is removed once. The keys of views go, and the views
named by them leave the tree with all that is below them; every other key, every other place in the
tree and everything apart from keys and tree stays as it was.
-/

namespace ViewLayout

open ViewLayout.Number ViewLayout.Outcome

namespace Builder

/-- Detaching views one after another changes nothing outside the tree. -/
theorem outsideTree_of_detachAll {host after : Host} {views : List ViewId}
    (detached : detachAll host views = .ok after) : after.outsideTree = host.outsideTree := by
  refine foldlM_keeps (fun later => later.outsideTree = host.outsideTree) ?_ rfl detached
  intro middle same view _ next stepped
  have once := Host.outsideTree_keptByMoves.read_of_detach (mapError_eq_ok_iff.1 stepped)
  exact once.trans same

/-- What removing views by some keys does to a builder. -/
structure RemovalLaw (builder : Builder) (keys : List String) (next : Builder) : Prop where
  /-- It goes through. -/
  goes : builder.removeViews keys = .ok next
  /-- The keys that are left are all but those of the named ones that stood for a view. -/
  bindings : ∀ key node, next.registry.entries.get? key = some node ↔
    builder.registry.entries.get? key = some node ∧ (key ∈ keys → node.view? = none)
  /-- The parent key and what it stands for stay. -/
  reserved : next.registry.parentKey = builder.registry.parentKey ∧
    next.registry.container = builder.registry.container
  /-- A view with one of the keys is detached, has no parent and is among the children of no
  view. -/
  removed : ∀ view, builder.standing.hasKeyIn keys view = true →
    next.host.isDetached view = true ∧ next.host.parent? view = none ∧
      ∀ parent, view ∉ next.host.children parent
  /-- Any other view keeps its parent, and is detached exactly when it was. -/
  kept : ∀ view, builder.standing.hasKeyIn keys view = false →
    next.host.parent? view = builder.host.parent? view ∧
      next.host.isDetached view = builder.host.isDetached view
  /-- Every view, removed or not, keeps its children but for the removed ones, in their order. -/
  children : ∀ view, next.host.children view =
    (builder.host.children view).filter fun child => !builder.standing.hasKeyIn keys child
  /-- In the host, nothing changes outside the tree: the guides, the contents, the content
  priorities and the constraints stay. -/
  outside : next.host.outsideTree = builder.host.outsideTree
  /-- In the builder, nothing changes but keys and host: the metrics, the applied texts and the
  options stay. -/
  besides : next = { builder with registry := next.registry, host := next.host }

/-- The keys that are left after removing some of them are all but those that stood for a view. -/
theorem get?_unregister_viewKeys_iff {registry : Registry} {keys : List String} {key : String}
    {node : Node} :
    (registry.unregister (keys.filter registry.viewKeys.contains)).1.entries.get? key = some node ↔
      registry.entries.get? key = some node ∧ (key ∈ keys → node.view? = none) := by
  rw [Registry.get?_unregister]
  have taken : key ∈ keys.filter registry.viewKeys.contains ↔
      key ∈ keys ∧ ∃ view, registry.entries.get? key = some (.view view) := by
    rw [List.mem_filter, List.contains_iff_mem, Registry.mem_viewKeys_iff]
  constructor
  · intro left
    split at left
    · contradiction
    · rename_i elsewhere
      refine ⟨left, fun asked => ?_⟩
      cases node with
      | guide guide => rfl
      | view view => exact absurd (taken.2 ⟨asked, view, left⟩) elsewhere
  · rintro ⟨bound, guided⟩
    rw [if_neg, bound]
    intro listed
    obtain ⟨asked, view, stands⟩ := taken.1 listed
    have guide := guided asked
    rw [Option.some.inj (bound.symm.trans stands)] at guide
    contradiction

/-- Whatever calls made a host and whatever was done to a builder on it, if the host created every
registered view, then removing views by any keys does what a removal is to do. -/
theorem exists_removalLaw {configuration options : Configuration} {calls : List Host.Call}
    {container : ViewId} {builder : Builder}
    (reached : Relation.ReflTransGen Evolves
      (ofHost (Host.reached configuration calls) container options) builder)
    (created : ∀ key view, builder.registry.entries.get? key = some (.view view) →
      builder.host.knows (.view view) = true) (keys : List String) :
    ∃ next, builder.RemovalLaw keys next := by
  have forest := isForest_of_evolves (Host.isForest_reached configuration calls) reached
  obtain ⟨host, views, named, unloaded, done⟩ := exists_unloaded forest created keys
  obtain ⟨after, detached, replaced⟩ := bind_eq_ok_iff.1 done
  obtain rfl : after = host := congrArg Builder.host (Except.ok.inj replaced)
  have children := unloaded.children_eq named
  have loose := unloaded.isDetached_eq named
  -- The parents follow from the children: both hosts are forests.
  have parent (view above : ViewId) : after.parent? view = some above ↔
      builder.host.parent? view = some above ∧ builder.standing.hasKeyIn keys view = false := by
    rw [← unloaded.forest.agree, ← forest.agree, children, List.mem_filter, Bool.not_eq_true']
  refine ⟨_, done, fun _ _ => get?_unregister_viewKeys_iff,
    ⟨Registry.parentKey_unregister _ _, Registry.container_unregister _ _⟩,
    fun view gone => ?_, fun view stays => ?_, children, outsideTree_of_detachAll detached, rfl⟩
  · have orphan : after.parent? view = none := by
      refine Option.eq_none_iff_forall_ne_some.2 fun above found => ?_
      rw [((parent view above).1 found).2] at gone
      contradiction
    refine ⟨(loose view).trans (by rw [gone, Bool.or_true]), orphan, fun above listed => ?_⟩
    rw [(unloaded.forest.agree above view).1 listed] at orphan
    contradiction
  · refine ⟨Option.ext fun above => ?_, (loose view).trans (by rw [stays, Bool.or_false])⟩
    rw [parent, and_iff_left stays]

/-- A view with two keys, around another view with a key, is removed by both of its keys, along with
keys that stand for no view. -/
theorem exists_removalLaw_of_two_keys :
    let host := Host.reached {} [.tree (.create none), .tree (.create none), .tree (.create none),
      .tree (.create none), .createGuide ⟨0, 0, 0, 0⟩, .tree (.attach ⟨1⟩ ⟨2⟩),
      .tree (.attach ⟨0⟩ ⟨3⟩)]
    ∃ builder, Relation.ReflTransGen Evolves (ofHost host ⟨0⟩ {}) builder ∧
      (∀ key view, builder.registry.entries.get? key = some (.view view) →
        builder.host.knows (.view view) = true) ∧
      builder.registry.viewKeys = ["a", "b", "c"] ∧
      ∃ next, builder.RemovalLaw ["a", "guide", "b", "missing", "parent", "a"] next ∧
        next.registry.viewKeys = ["c"] ∧ next.host.children ⟨1⟩ = [⟨2⟩] := by
  intro host
  let addition := Operation.addViews [("a", ⟨1⟩), ("b", ⟨1⟩)]
  have checked : ∃ added ∈ ((ofHost host ⟨0⟩ {}).perform addition).toOption,
      ∃ guided ∈ (added.perform (.addGuides [("guide", ⟨0⟩)])).toOption,
      ∃ builder ∈ (guided.perform (.addUnattached "c" ⟨2⟩)).toOption,
        (∀ entry ∈ builder.registry.entries.entries, ∀ view ∈ entry.2.view?,
          builder.host.knows (.view view) = true) ∧
        builder.registry.viewKeys = ["a", "b", "c"] ∧
        ∃ next ∈ (builder.removeViews ["a", "guide", "b", "missing", "parent", "a"]).toOption,
          next.registry.viewKeys = ["c"] ∧ next.host.children ⟨1⟩ = [⟨2⟩] := by
    decide +kernel
  obtain ⟨added, adds, guided, guides, builder, binds, known, keys, next, removes, left, below⟩ :=
    checked
  have reached : Relation.ReflTransGen Evolves (ofHost host ⟨0⟩ {}) builder :=
    .tail (.tail (.single (.inl ⟨_, eq_ok_of_toOption adds⟩))
      (.inl ⟨_, eq_ok_of_toOption guides⟩)) (.inl ⟨_, eq_ok_of_toOption binds⟩)
  have created : ∀ key view, builder.registry.entries.get? key = some (.view view) →
      builder.host.knows (.view view) = true := by
    intro key view stands
    exact known (key, .view view) (KeyMap.get?_eq_some_iff.1 stands) view rfl
  obtain ⟨found, law⟩ := exists_removalLaw reached created
    ["a", "guide", "b", "missing", "parent", "a"]
  obtain rfl := Except.ok.inj (law.goes.symm.trans (eq_ok_of_toOption removes))
  exact ⟨builder, reached, created, keys, found, law, left, below⟩

end Builder

end ViewLayout
