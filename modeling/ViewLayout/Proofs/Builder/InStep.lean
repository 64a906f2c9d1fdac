import ViewLayout.Proofs.Builder.Changes

/-!
# Keys and the view tree in step

The keys of a builder and the children of its container are not kept one to one: a view may have
several keys, and a key may be bound anew. They stay in step as long as a removal takes all keys of
a view or none, and a key that is the only one of a view in the container is not bound to another
node. One change breaks the step exactly when it does not do so (`keysPlaced_after_iff`,
`viewsKeyed_after_iff`), and a run keeps what each of its changes keeps. Whatever was done before,
`removeAllViews` leaves in the container exactly the views that no key stands for.
-/

namespace ViewLayout

open ViewLayout.Number ViewLayout.Outcome

/-! ## New hosts -/

namespace Host

/-- A host whose views have only been created: none was attached or detached. -/
structure Fresh (host : Host) : Prop where
  /-- No view is in another. -/
  apart : ∀ view, host.parent? view = none
  /-- No view has another in it. -/
  empty : ∀ view, host.children view = []
  /-- No view is out of layout. -/
  placed : ∀ view, host.isDetached view = false

/-- The views of a new host form a forest of roots. -/
theorem Fresh.forest {host : Host} (fresh : host.Fresh) : host.IsForest where
  parents view parent above := by
    rw [fresh.apart] at above
    contradiction
  children view child listed := by
    rw [fresh.empty] at listed
    contradiction
  agree parent child := by
    rw [fresh.empty, fresh.apart]
    exact ⟨nofun, nofun⟩
  nodup view := by
    rw [fresh.empty]
    exact .nil
  rooted view := ⟨1, by rw [ancestor?, fresh.apart, Option.bind_none]⟩
  loose view _ := fresh.apart view

/-- Creating a view leaves a host new. -/
theorem Fresh.createView {host : Host} (fresh : host.Fresh)
    (content : Option (PerAxis Binary64)) : (host.createView content).1.Fresh where
  apart view := (readView_createView host content view (·.bind View.parent) rfl).trans
    (fresh.apart view)
  empty view := (readView_createView host content view
    (fun data => (data.map View.children).getD []) rfl).trans (fresh.empty view)
  placed view := (readView_createView host content view
    (fun data => (data.map View.detached).getD false) rfl).trans (fresh.placed view)

/-- A host whose views have been created one after another is new. -/
theorem fresh_created (configuration : Configuration) (contents : List (Option (PerAxis Binary64))) :
    (contents.foldl (fun host content => (host.createView content).1)
      (ofConfiguration configuration)).Fresh := by
  induction contents using List.reverseRecOn with
  | nil => exact ⟨fun _ => rfl, fun _ => rfl, fun _ => rfl⟩
  | append_singleton contents content ih =>
    rw [List.foldl_append]
    exact ih.createView content

end Host

namespace Builder

/-! ## In step -/

namespace Standing

/-- No key stands for a view that is out of layout. -/
def KeysPlaced (standing : Standing) : Prop :=
  ∀ key view, standing.registry.entries.get? key = some (.view view) →
    standing.detached view = false

/-- Every view in the container has a key. -/
def ViewsKeyed (standing : Standing) : Prop :=
  ∀ child ∈ standing.children, ∃ key, standing.registry.entries.get? key = some (.view child)

/-- A removal takes all keys of a view or none. -/
def TakesWhole (standing : Standing) : KeyChange → Prop
  | .bind _ _ => True
  | .remove keys => ∀ key ∈ keys, ∀ other ∈ standing.registry.viewKeys,
      standing.registry.entries.get? other = standing.registry.entries.get? key → other ∈ keys

/-- A key that is the only one of a view in the container is not bound to another node. -/
def SparesKeys (standing : Standing) : KeyChange → Prop
  | .bind key node => ∀ child ∈ standing.children,
      standing.registry.entries.get? key = some (.view child) → node = .view child ∨
        ∃ other ∈ standing.registry.viewKeys, other ≠ key ∧
          standing.registry.entries.get? other = some (.view child)
  | .remove _ => True

instance (standing : Standing) : (change : KeyChange) → Decidable (standing.TakesWhole change)
  | .bind _ _ => .isTrue trivial
  | .remove keys => inferInstanceAs (Decidable (∀ key ∈ keys,
      ∀ other ∈ standing.registry.viewKeys,
        standing.registry.entries.get? other = standing.registry.entries.get? key → other ∈ keys))

instance (standing : Standing) : (change : KeyChange) → Decidable (standing.SparesKeys change)
  | .bind key node => inferInstanceAs (Decidable (∀ child ∈ standing.children,
      standing.registry.entries.get? key = some (.view child) → node = .view child ∨
        ∃ other ∈ standing.registry.viewKeys, other ≠ key ∧
          standing.registry.entries.get? other = some (.view child)))
  | .remove _ => .isTrue trivial

variable {standing : Standing}

/-- After a removal a key stands for a view when it did so before and was not removed. -/
theorem get?_after_remove {keys : List String} {key : String} {view : ViewId} :
    (standing.after (.remove keys)).registry.entries.get? key = some (.view view) ↔
      key ∉ keys ∧ standing.registry.entries.get? key = some (.view view) := by
  rw [after, Registry.get?_unregister]
  split
  · rename_i removed
    have among := List.mem_of_mem_filter removed
    exact iff_of_false (Option.some_ne_none _).symm fun kept => kept.1 among
  · rename_i left
    refine ⟨fun stands => ⟨fun among => left ?_, stands⟩, And.right⟩
    have viewed := Registry.mem_viewKeys_iff.2 ⟨view, stands⟩
    exact List.mem_filter.2 ⟨among, List.contains_iff_mem.2 viewed⟩

/-- The keys after a binding. -/
theorem get?_after_bind (key other : String) (node : Node) :
    (standing.after (.bind key node)).registry.entries.get? other =
      if other = key then some node else standing.registry.entries.get? other := by
  cases node <;> exact KeyMap.get?_insert _ key other _

/-- The views in the container after a binding. -/
theorem mem_children_after_bind {key : String} {node : Node} {child : ViewId} :
    child ∈ (standing.after (.bind key node)).children ↔
      child ∈ standing.children ∨ node = .view child := by
  cases node with
  | guide guide => exact (or_iff_left_of_imp fun same => nomatch same).symm
  | view bound =>
    rw [after, List.mem_append, List.mem_filter, List.mem_singleton, decide_eq_true_eq,
      Node.view.injEq]
    by_cases here : child = bound
    · exact iff_of_true (.inr here) (.inr here.symm)
    · simp [here, Ne.symm here]

/-- A change leaves no key for a view that is out of layout exactly when it takes all keys of a view
or none. -/
theorem keysPlaced_after_iff (placed : standing.KeysPlaced) (change : KeyChange) :
    (standing.after change).KeysPlaced ↔ standing.TakesWhole change := by
  cases change with
  | bind key node =>
    refine iff_of_true (fun other view stands => ?_) trivial
    rw [get?_after_bind] at stands
    cases node with
    | guide guide =>
      split at stands
      · exact nomatch Option.some.inj stands
      · exact placed other view stands
    | view bound =>
      by_cases here : view = bound
      · exact if_pos here
      · split at stands
        · exact absurd (Node.view.inj (Option.some.inj stands)).symm here
        · exact (if_neg here).trans (placed other view stands)
  | remove keys =>
    constructor
    · intro still key among other viewed alike
      by_contra left
      obtain ⟨view, stands⟩ := Registry.mem_viewKeys_iff.1 viewed
      have detached := still other view (get?_after_remove.2 ⟨left, stands⟩)
      have taken : standing.hasKeyIn keys view = true :=
        hasKeyIn_iff.2 ⟨key, among, alike ▸ stands⟩
      simp [after, taken] at detached
    · intro whole key view stands
      obtain ⟨left, before⟩ := get?_after_remove.1 stands
      have untaken : standing.hasKeyIn keys view = false := by
        rw [Bool.eq_false_iff, ne_eq, hasKeyIn_iff]
        rintro ⟨other, among, same⟩
        have viewed := Registry.mem_viewKeys_iff.2 ⟨view, before⟩
        exact left (whole other among key viewed (before.trans same.symm))
      simp only [after, placed key view before, untaken, Bool.or_self]

/-- A change leaves a key for every view in the container exactly when it spares the only keys of
such views. -/
theorem viewsKeyed_after_iff (keyed : standing.ViewsKeyed) (change : KeyChange) :
    (standing.after change).ViewsKeyed ↔ standing.SparesKeys change := by
  cases change with
  | bind key node =>
    constructor
    · intro still child there stands
      obtain ⟨other, bound⟩ := still child (mem_children_after_bind.2 (.inl there))
      rw [get?_after_bind] at bound
      split at bound
      · exact .inl (Option.some.inj bound)
      · rename_i different
        exact .inr ⟨other, Registry.mem_viewKeys_iff.2 ⟨child, bound⟩, different, bound⟩
    · intro spares child there
      simp only [get?_after_bind]
      by_cases new : node = .view child
      · exact ⟨key, by rw [if_pos rfl, new]⟩
      · have old := (mem_children_after_bind.1 there).resolve_right new
        obtain ⟨own, stands⟩ := keyed child old
        by_cases taken : own = key
        · subst taken
          obtain same | ⟨other, -, different, left⟩ := spares child old stands
          · exact absurd same new
          · exact ⟨other, by rw [if_neg different, left]⟩
        · exact ⟨own, by rw [if_neg taken, stands]⟩
  | remove keys =>
    refine iff_of_true (fun child there => ?_) trivial
    obtain ⟨before, untaken⟩ := List.mem_filter.1 there
    obtain ⟨key, stands⟩ := keyed child before
    refine ⟨key, get?_after_remove.2 ⟨fun among => ?_, stands⟩⟩
    rw [hasKeyIn_iff.2 ⟨key, among, stands⟩] at untaken
    contradiction

/-- Changes one after another are all allowed where they are made. -/
def Allows (allowed : Standing → KeyChange → Prop) : Standing → List KeyChange → Prop
  | _, [] => True
  | standing, change :: changes =>
    allowed standing change ∧ Allows allowed (standing.after change) changes

instance decidableAllows {allowed : Standing → KeyChange → Prop}
    [decides : ∀ standing change, Decidable (allowed standing change)] :
    (standing : Standing) → (changes : List KeyChange) → Decidable (standing.Allows allowed changes)
  | _, [] => .isTrue trivial
  | standing, change :: changes =>
    @instDecidableAnd _ _ (decides standing change) (decidableAllows (standing.after change) changes)

/-- Where every change is allowed, any changes are. -/
theorem allows_all (standing : Standing) (changes : List KeyChange) :
    standing.Allows (fun _ _ => True) changes := by
  induction changes generalizing standing with
  | nil => trivial
  | cons change changes ih => exact ⟨trivial, ih (standing.after change)⟩

/-- What every allowed change keeps holds after allowed changes. -/
theorem Allows.keeps {allowed : Standing → KeyChange → Prop} {holds : Standing → Prop}
    (kept : ∀ standing change, holds standing → allowed standing change →
      holds (standing.after change))
    {changes : List KeyChange} (held : holds standing) (allows : standing.Allows allowed changes) :
    holds (changes.foldl after standing) := by
  induction changes generalizing standing with
  | nil => exact held
  | cons change changes ih => exact ih (kept standing change held allows.1) allows.2

end Standing

/-! ## Runs -/

/-- A builder becomes another by an operation through keys that makes allowed changes. -/
def Moves (allowed : Standing → KeyChange → Prop) (builder next : Builder) : Prop :=
  ∃ operation : Operation, operation.ThroughKeys ∧
    builder.standing.Allows allowed (operation.changes builder) ∧
    builder.perform operation = .ok next

/-- An operation through keys that goes through is a move where every change is allowed. -/
theorem moves_of_performed {builder next : Builder} (operation : Operation)
    (keyed : operation.ThroughKeys) (done : builder.perform operation = .ok next) :
    Moves (fun _ _ => True) builder next :=
  ⟨operation, keyed, Standing.allows_all _ _, done⟩

/-- What every allowed change keeps holds after every run of allowed changes. -/
theorem Housed.run (holds : Standing → Prop) {allowed : Standing → KeyChange → Prop}
    (kept : ∀ standing change, holds standing → allowed standing change →
      holds (standing.after change))
    {start final : Builder} (housed : start.Housed) (held : holds start.standing)
    (reached : Relation.ReflTransGen (Moves allowed) start final) :
    final.Housed ∧ final.container = start.container ∧ holds final.standing := by
  induction reached with
  | refl => exact ⟨housed, rfl, held⟩
  | tail _ moved ih =>
    obtain ⟨operation, keyed, allows, done⟩ := moved
    obtain ⟨here, container, still⟩ := ih
    have led := here.led_perform keyed done
    refine ⟨led.housed, led.container.trans container, ?_⟩
    rw [led.standing]
    exact allows.keeps kept still

/-- Removing all views goes through, and leaves in the container those that no key stands for. -/
theorem Housed.exists_removeAllViews {builder : Builder} (housed : builder.Housed) :
    ∃ emptied, builder.removeAllViews = .ok emptied ∧
      ∀ child, child ∈ emptied.host.children builder.container ↔
        child ∈ builder.host.children builder.container ∧
          ∀ key, builder.registry.entries.get? key ≠ some (.view child) := by
  obtain ⟨emptied, removes, led⟩ := housed.exists_removeViews builder.registry.viewKeys
  refine ⟨emptied, removes, fun child => ?_⟩
  have left : emptied.host.children builder.container =
      (builder.host.children builder.container).filter fun child =>
        !builder.standing.hasKeyIn builder.registry.viewKeys child :=
    calc emptied.host.children builder.container
        = emptied.standing.children := by rw [standing, led.container]
      _ = _ := congrArg Standing.children led.standing
  rw [left, List.mem_filter, Bool.not_eq_true', Bool.eq_false_iff, ne_eq, Standing.hasKeyIn_iff]
  refine and_congr_right fun _ => ⟨fun unkeyed key stands => unkeyed ⟨key, ?_, stands⟩, ?_⟩
  · exact Registry.mem_viewKeys_iff.2 ⟨child, stands⟩
  · rintro unkeyed ⟨key, -, stands⟩
    exact unkeyed key stands

/-- Removing all views empties a container whose views all have a key. -/
theorem Housed.exists_removeAllViews_of_viewsKeyed {builder : Builder} (housed : builder.Housed)
    (keyed : builder.standing.ViewsKeyed) :
    ∃ emptied, builder.removeAllViews = .ok emptied ∧
      emptied.host.children builder.container = [] := by
  obtain ⟨emptied, removes, left⟩ := housed.exists_removeAllViews
  refine ⟨emptied, removes, List.eq_nil_iff_forall_not_mem.2 fun child still => ?_⟩
  obtain ⟨there, unkeyed⟩ := (left child).1 still
  obtain ⟨key, stands⟩ := keyed child there
  exact unkeyed key stands

/-- No key stands for a view when none is registered for it that resolves to it. -/
theorem Housed.unkeyed_iff {builder : Builder} (housed : builder.Housed) {view : ViewId} :
    (∀ key, builder.registry.entries.get? key ≠ some (.view view)) ↔
      ∀ key ∈ builder.registry.viewKeys, builder.registry.resolve key ≠ .ok (.view view) := by
  constructor
  · exact fun unkeyed key viewed resolved =>
      unkeyed key (housed.resolve_iff.1 ⟨viewed, resolved⟩)
  · intro unresolved key stands
    obtain ⟨viewed, resolved⟩ := housed.resolve_iff.2 stands
    exact unresolved key viewed resolved

/-- A new builder on a new host that created its container. -/
theorem housed_ofHost {host : Host} {container : ViewId} (configuration : Configuration)
    (fresh : host.Fresh) (created : host.knows (.view container) = true) :
    (ofHost host container configuration).Housed :=
  ⟨grounded_ofHost configuration fresh.forest created, rfl, nofun⟩

/-- Keys and tree stay in step under operations through keys on a new host. No registered key
resolves to a detached view where removals take all keys of a view or none. Every view in the
container has a key, and removing all views empties the container, where no key that is the only one
of such a view is bound to another node. In any case removing all views goes through and leaves in
the container those views that no key resolves to. -/
theorem keys_and_tree_in_step {host : Host} {container : ViewId} (configuration : Configuration)
    (fresh : host.Fresh) (created : host.knows (.view container) = true) :
    let start := ofHost host container configuration
    (∀ final, Relation.ReflTransGen (Moves Standing.TakesWhole) start final →
      ∀ key ∈ final.registry.viewKeys, ∀ view, final.registry.resolve key = .ok (.view view) →
        final.host.isDetached view = false) ∧
    (∀ final, Relation.ReflTransGen (Moves Standing.SparesKeys) start final →
      (∀ child ∈ final.host.children container,
        ∃ key ∈ final.registry.viewKeys, final.registry.resolve key = .ok (.view child)) ∧
      ∃ emptied, final.removeAllViews = .ok emptied ∧ emptied.host.children container = []) ∧
    ∀ final, Relation.ReflTransGen (Moves fun _ _ => True) start final →
      ∃ emptied, final.removeAllViews = .ok emptied ∧
        ∀ child, child ∈ emptied.host.children container ↔
          child ∈ final.host.children container ∧
            ∀ key ∈ final.registry.viewKeys, final.registry.resolve key ≠ .ok (.view child) := by
  intro start
  have housed : start.Housed := housed_ofHost configuration fresh created
  refine ⟨fun final reached => ?_, fun final reached => ?_, fun final reached => ?_⟩
  · have begins : start.standing.KeysPlaced := fun _ _ stands => nomatch stands
    obtain ⟨here, -, placed⟩ := housed.run Standing.KeysPlaced
      (fun _ change held => (Standing.keysPlaced_after_iff held change).2) begins reached
    intro key viewed view resolved
    exact placed key view (here.resolve_iff.1 ⟨viewed, resolved⟩)
  · have begins : start.standing.ViewsKeyed := by
      intro child there
      have none : start.standing.children = [] := fresh.empty container
      rw [none] at there
      contradiction
    obtain ⟨here, same, keyed⟩ := housed.run Standing.ViewsKeyed
      (fun _ change held => (Standing.viewsKeyed_after_iff held change).2) begins reached
    obtain rfl : final.container = container := same
    refine ⟨fun child there => ?_, here.exists_removeAllViews_of_viewsKeyed keyed⟩
    obtain ⟨key, stands⟩ := keyed child there
    obtain ⟨viewed, resolved⟩ := here.resolve_iff.2 stands
    exact ⟨key, viewed, resolved⟩
  · obtain ⟨here, same, -⟩ := housed.run (fun _ => True) (fun _ _ _ _ => trivial) trivial reached
    obtain rfl : final.container = container := same
    obtain ⟨emptied, removes, left⟩ := here.exists_removeAllViews
    exact ⟨emptied, removes, fun child => (left child).trans (and_congr_right' here.unkeyed_iff)⟩

/-- A view with a key of its own and a key of a sequence, taken out with both. -/
theorem keys_and_tree_in_step_of_shared_view :
    let host := [none, none, none].foldl (fun host content => (host.createView content).1)
      (Host.ofConfiguration {})
    let start := ofHost host ⟨0⟩ {}
    ∃ final, Relation.ReflTransGen (Moves Standing.TakesWhole) start final ∧
      Relation.ReflTransGen (Moves Standing.SparesKeys) start final ∧
      final.registry.viewKeys = ["v2"] ∧
      (∀ key ∈ final.registry.viewKeys, ∀ view, final.registry.resolve key = .ok (.view view) →
        final.host.isDetached view = false) ∧
      final.host.children ⟨0⟩ = [⟨2⟩] ∧
      (∀ child ∈ final.host.children ⟨0⟩,
        ∃ key ∈ final.registry.viewKeys, final.registry.resolve key = .ok (.view child)) ∧
      ∃ emptied, final.removeAllViews = .ok emptied ∧ emptied.host.children ⟨0⟩ = [] := by
  intro host start
  let addition := Operation.addViews [("a", ⟨1⟩)]
  let stacking := Operation.stack .vertical [.addViews [⟨1⟩, ⟨2⟩] false, .close]
  let removal := Operation.removeViews ["a", "v1"]
  have checked : ∃ added ∈ (start.perform addition).toOption,
      (start.standing.Allows Standing.TakesWhole (addition.changes start) ∧
        start.standing.Allows Standing.SparesKeys (addition.changes start)) ∧
      ∃ stacked ∈ (added.perform stacking).toOption,
        (added.standing.Allows Standing.TakesWhole (stacking.changes added) ∧
          added.standing.Allows Standing.SparesKeys (stacking.changes added)) ∧
        ∃ final ∈ (stacked.perform removal).toOption,
          (stacked.standing.Allows Standing.TakesWhole (removal.changes stacked) ∧
            stacked.standing.Allows Standing.SparesKeys (removal.changes stacked)) ∧
          final.registry.viewKeys = ["v2"] ∧ final.host.children ⟨0⟩ = [⟨2⟩] := by
    decide +kernel
  obtain ⟨added, first, one, stacked, second, other, final, third, last, keys, children⟩ := checked
  have reached {allowed : Standing → KeyChange → Prop}
      (here : start.standing.Allows allowed (addition.changes start))
      (there : added.standing.Allows allowed (stacking.changes added))
      (later : stacked.standing.Allows allowed (removal.changes stacked)) :
      Relation.ReflTransGen (Moves allowed) start final :=
    .tail (.tail (.single ⟨addition, trivial, here, eq_ok_of_toOption first⟩)
      ⟨stacking, trivial, there, eq_ok_of_toOption second⟩)
      ⟨removal, trivial, later, eq_ok_of_toOption third⟩
  have whole := reached one.1 other.1 last.1
  have spared := reached one.2 other.2 last.2
  obtain ⟨placed, keyed, -⟩ := keys_and_tree_in_step {} (Host.fresh_created {} [none, none, none])
    (by decide : host.knows (.view ⟨0⟩) = true)
  exact ⟨final, whole, spared, keys, placed final whole, children, keyed final spared⟩

/-- A view can lose one of its keys and be detached under the other, and a view whose key is bound
anew is left in the container when all views are removed. -/
theorem exists_out_of_step :
    let host := [none, none, none].foldl (fun host content => (host.createView content).1)
      (Host.ofConfiguration {})
    let start := ofHost host ⟨0⟩ {}
    (∃ final, Relation.ReflTransGen (Moves fun _ _ => True) start final ∧
      "b" ∈ final.registry.viewKeys ∧ final.registry.resolve "b" = .ok (.view ⟨1⟩) ∧
      final.host.isDetached ⟨1⟩ = true) ∧
    ∃ final emptied, Relation.ReflTransGen (Moves fun _ _ => True) start final ∧
      ⟨1⟩ ∈ final.host.children ⟨0⟩ ∧
      (∀ key ∈ final.registry.viewKeys, final.registry.resolve key ≠ .ok (.view ⟨1⟩)) ∧
      final.removeAllViews = .ok emptied ∧ emptied.host.children ⟨0⟩ = [⟨1⟩] := by
  intro host start
  let shared := Operation.addViews [("a", ⟨1⟩), ("b", ⟨1⟩)]
  let removal := Operation.removeViews ["a"]
  let rebound := Operation.addViews [("a", ⟨1⟩), ("a", ⟨2⟩)]
  constructor
  · have checked : ∃ added ∈ (start.perform shared).toOption,
        ∃ final ∈ (added.perform removal).toOption,
          "b" ∈ final.registry.viewKeys ∧
            (final.registry.resolve "b").toOption = some (.view ⟨1⟩) ∧
            final.host.isDetached ⟨1⟩ = true := by
      decide +kernel
    obtain ⟨added, adds, final, removes, viewed, resolved, detached⟩ := checked
    have first := moves_of_performed shared trivial (eq_ok_of_toOption adds)
    have second := moves_of_performed removal trivial (eq_ok_of_toOption removes)
    exact ⟨final, .tail (.single first) second, viewed, eq_ok_of_toOption resolved, detached⟩
  · have checked : ∃ final ∈ (start.perform rebound).toOption,
        ⟨1⟩ ∈ final.host.children ⟨0⟩ ∧
        (∀ key ∈ final.registry.viewKeys,
          (final.registry.resolve key).toOption ≠ some (.view ⟨1⟩)) ∧
        ∃ emptied ∈ final.removeAllViews.toOption, emptied.host.children ⟨0⟩ = [⟨1⟩] := by
      decide +kernel
    obtain ⟨final, binds, there, unkeyed, emptied, removes, left⟩ := checked
    have first := moves_of_performed rebound trivial (eq_ok_of_toOption binds)
    refine ⟨final, emptied, .single first, there, fun key viewed resolved => ?_,
      eq_ok_of_toOption removes, left⟩
    exact unkeyed key viewed (by rw [resolved]; rfl)

end Builder

end ViewLayout
