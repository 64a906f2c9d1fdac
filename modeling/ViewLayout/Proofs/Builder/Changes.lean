import ViewLayout.Proofs.Builder.Grounded
import ViewLayout.Proofs.Registry.Bindings

/-!
# Changes of keys and the view tree

A builder keeps two accounts of the views of its container: the keys that stand for them and the
children of the container. Registering a view enters it in both, and removing keys takes from both.
Every operation that reaches the tree through keys is a list of such changes (`Operation.changes`):
`led_perform` says that it makes these changes and no others, whatever texts it applies on the way.
-/

namespace ViewLayout

open ViewLayout.Number ViewLayout.Outcome

namespace Host

/-- A host is the result of detaching some views in another host. -/
structure Unloaded (host : Host) (views : List ViewId) (after : Host) : Prop where
  /-- The views still form a forest. -/
  forest : after.IsForest
  /-- The host created the same nodes. -/
  knows : ∀ node, after.knows node = host.knows node
  /-- Every view loses the detached views alone. -/
  children : ∀ view, after.children view = (host.children view).filter (· ∉ views)
  /-- The views are detached; no other view changes in this. -/
  detached : ∀ view, after.isDetached view = (host.isDetached view || decide (view ∈ views))

namespace Unloaded

variable {host after : Host} {views : List ViewId} (unloaded : host.Unloaded views after)
  {test : ViewId → Bool} (tested : ∀ view, view ∈ views ↔ test view = true)

include unloaded tested

/-- The children that are left are those that a test for the detached views does not meet. -/
theorem children_eq (view : ViewId) :
    after.children view = (host.children view).filter fun child => !test child := by
  rw [unloaded.children]
  congr 1
  funext child
  rw [Bool.eq_iff_iff, decide_eq_true_eq, tested, Bool.not_eq_true, Bool.not_eq_true']

/-- The detached views are those that were, and those that a test for them meets. -/
theorem isDetached_eq (view : ViewId) :
    after.isDetached view = (host.isDetached view || test view) := by
  rw [unloaded.detached]
  congr 1
  rw [Bool.eq_iff_iff, decide_eq_true_eq]
  exact tested view

end Unloaded

/-- Views that the host created can be detached one after another. -/
theorem IsForest.exists_detachAll {host : Host} (forest : host.IsForest) {views : List ViewId}
    (known : ∀ view ∈ views, host.knows (.view view) = true) :
    ∃ after, Builder.detachAll host views = .ok after ∧ host.Unloaded views after := by
  induction views using List.reverseRecOn with
  | nil =>
    refine ⟨host, rfl, forest, fun _ => rfl, fun view => ?_, fun view => ?_⟩ <;> simp
  | append_singleton before view ih =>
    obtain ⟨middle, first, unloaded⟩ := ih fun other listed =>
      known other (List.mem_append_left _ listed)
    have there : middle.knows (.view view) = true :=
      (unloaded.knows _).trans (known view List.mem_concat_self)
    have detaches := unloaded.forest.detach_of_knows there
    refine ⟨middle.loosened view, ?_, unloaded.forest.loosened there, fun node => ?_,
      fun other => ?_, fun other => ?_⟩
    · rw [Builder.detachAll, List.foldlM_append, bind_eq_ok_iff]
      refine ⟨middle, first, ?_⟩
      simp only [List.foldlM_cons, List.foldlM_nil, detaches]
      rfl
    · have same := knows_of_outsideTree (outsideTree_loosened middle view) node
      exact same.trans (unloaded.knows node)
    · rw [unloaded.forest.children_loosened, unloaded.children, List.filter_filter]
      congr 1
      funext child
      simp [and_comm]
    · rw [isDetached_loosened _ _ there, unloaded.detached]
      by_cases here : other = view <;> simp [here]

end Host

namespace Builder

/-! ## Changes of the keys and the tree -/

/-- What keys stand for and where views are. -/
structure Standing where
  /-- The keys. -/
  registry : Registry
  /-- The views in the container, in order. -/
  children : List ViewId
  /-- Whether a view is out of layout. -/
  detached : ViewId → Bool

/-- What the keys of a builder stand for and where its views are. -/
def standing (builder : Builder) : Standing :=
  ⟨builder.registry, builder.host.children builder.container, builder.host.isDetached⟩

/-- A change of the keys that the tree follows. -/
inductive KeyChange where
  /-- A key stands for a node from now on; a view is put into the container. -/
  | bind (key : String) (node : Node)
  /-- The views of some keys are taken out, with these keys. -/
  | remove (keys : List String)

namespace Standing

/-- A view has one of some keys. -/
def hasKeyIn (standing : Standing) (keys : List String) (view : ViewId) : Bool :=
  keys.any fun key => standing.registry.entries.get? key = some (.view view)

/-- A view has one of some keys when one of them stands for it. -/
theorem hasKeyIn_iff {standing : Standing} {keys : List String} {view : ViewId} :
    standing.hasKeyIn keys view = true ↔
      ∃ key ∈ keys, standing.registry.entries.get? key = some (.view view) := by
  simp only [hasKeyIn, List.any_eq_true, decide_eq_true_eq]

/-- What a change leads to. -/
def after (standing : Standing) : KeyChange → Standing
  | .bind key (.guide guide) =>
    { standing with
      registry := { standing.registry with
        entries := standing.registry.entries.insert key (.guide guide) } }
  | .bind key (.view view) =>
    { registry := { standing.registry with
        entries := standing.registry.entries.insert key (.view view) }
      children := standing.children.filter (· ≠ view) ++ [view]
      detached := fun other => if other = view then false else standing.detached other }
  | .remove keys =>
    { registry := (standing.registry.unregister
        (keys.filter standing.registry.viewKeys.contains)).1
      children := standing.children.filter fun child => !standing.hasKeyIn keys child
      detached := fun other => standing.detached other || standing.hasKeyIn keys other }

end Standing

/-- Unregistering keys and detaching their views goes through where the views form a forest and the
host created those that are registered. -/
theorem exists_unloaded {builder : Builder} (forest : builder.host.IsForest)
    (known : ∀ key view, builder.registry.entries.get? key = some (.view view) →
      builder.host.knows (.view view) = true) (keys : List String) :
    ∃ host views, (∀ view, view ∈ views ↔ builder.standing.hasKeyIn keys view = true) ∧
      builder.host.Unloaded views host ∧
      builder.removeViews keys = .ok { builder with
        registry := (builder.registry.unregister
          (keys.filter builder.registry.viewKeys.contains)).1
        host } := by
  let taken := keys.filter builder.registry.viewKeys.contains
  let views := (builder.registry.unregister taken).2.filterMap (·.2.view?)
  have created : ∀ view ∈ views, builder.host.knows (.view view) = true := by
    intro view listed
    obtain ⟨key, -, stands⟩ := Registry.mem_removed_iff.1 listed
    exact known key view stands
  obtain ⟨host, detached, unloaded⟩ := forest.exists_detachAll created
  refine ⟨host, views, fun view => ?_, unloaded, bind_eq_ok_iff.2 ⟨host, detached, rfl⟩⟩
  rw [Standing.hasKeyIn_iff]
  exact Registry.mem_removed_iff

/-- The views of a sequence under the keys of their numbers. -/
def numbered (views : List ViewId) : List (String × ViewId) :=
  views.zipIdx.map fun entry => (Sequence.viewKey (entry.2 + 1), entry.1)

/-- The changes that put views into the container under keys. -/
def placing (views : List (String × ViewId)) : List KeyChange :=
  views.map fun entry => .bind entry.1 (.view entry.2)

/-- The changes that an operation makes in a builder, one after another. -/
def Operation.changes (builder : Builder) : Operation → List KeyChange
  | useGuides top bottom =>
    [.bind topGuideKey (.guide top), .bind bottomGuideKey (.guide bottom)]
  | addViews views => placing views
  | addGuides guides => guides.map fun entry => .bind entry.1 (.guide entry.2)
  | removeViews keys => [.remove keys]
  | removeAllViews => [.remove builder.registry.viewKeys]
  | fill view _ => [.bind builder.configuration.defaultKey (.view view)]
  | stack _ operations => placing (numbered (operations.flatMap Sequence.Operation.views))
  | _ => []

/-- An operation reaches the tree through keys alone: it attaches and detaches no view by itself,
and it registers none that it does not attach. -/
def Operation.ThroughKeys : Operation → Prop
  | attach _ _ | detach _ | addUnattached _ _ => False
  | _ => True

/-- A grounded builder whose host created every registered view. -/
structure Housed (builder : Builder) : Prop where
  /-- The views form a forest with the container. -/
  grounded : builder.Grounded
  /-- Nothing is registered under the parent key. -/
  free : builder.registry.entries.get? builder.registry.parentKey = none
  /-- The host created every registered view. -/
  known : ∀ key view, builder.registry.entries.get? key = some (.view view) →
    builder.host.knows (.view view) = true

/-- A key is registered for a view and resolves to it exactly when it stands for the view. -/
theorem Housed.resolve_iff {builder : Builder} (housed : builder.Housed) {key : String}
    {view : ViewId} :
    key ∈ builder.registry.viewKeys ∧ builder.registry.resolve key = .ok (.view view) ↔
      builder.registry.entries.get? key = some (.view view) := by
  rw [Registry.mem_viewKeys_iff]
  constructor
  · rintro ⟨⟨other, stands⟩, resolved⟩
    rw [Registry.resolve] at resolved
    split at resolved
    · rename_i reserved
      rw [reserved, housed.free] at stands
      contradiction
    · rw [stands] at resolved
      rw [stands, Except.ok.inj resolved]
  · intro stands
    refine ⟨⟨view, stands⟩, ?_⟩
    have unreserved : key ≠ builder.registry.parentKey := by
      rintro rfl
      rw [housed.free] at stands
      contradiction
    rw [Registry.resolve, if_neg unreserved, stands]

/-- A builder has come out of another by changes of the keys and the tree. -/
structure Led (changes : List KeyChange) (builder next : Builder) : Prop where
  /-- The host still created every registered view. -/
  housed : next.Housed
  /-- The container stays. -/
  container : next.container = builder.container
  /-- The options stay. -/
  configuration : next.configuration = builder.configuration
  /-- The changes have been made, and no others. -/
  standing : next.standing = changes.foldl Standing.after builder.standing

namespace Led

variable {changes more : List KeyChange} {builder middle next : Builder}

/-- Nothing changes at first. -/
theorem refl (housed : builder.Housed) : Led [] builder builder := ⟨housed, rfl, rfl, rfl⟩

/-- Changes are made one after another. -/
theorem trans (first : Led changes builder middle) (second : Led more middle next) :
    Led (changes ++ more) builder next := by
  refine ⟨second.housed, second.container.trans first.container,
    second.configuration.trans first.configuration, ?_⟩
  rw [second.standing, first.standing, List.foldl_append]

/-- A builder with the keys and the tree of another has come out of it by no change. -/
theorem of_same (housed : builder.Housed) (grounded : next.Grounded)
    (registry : next.registry = builder.registry) (container : next.container = builder.container)
    (configuration : next.configuration = builder.configuration)
    (knows : ∀ view, builder.host.knows (.view view) = true → next.host.knows (.view view) = true)
    (children : next.host.children = builder.host.children)
    (detached : next.host.isDetached = builder.host.isDetached) : Led [] builder next := by
  refine ⟨⟨grounded, registry ▸ housed.free, fun key view stands => ?_⟩, container,
    configuration, ?_⟩
  · rw [registry] at stands
    exact knows view (housed.known key view stands)
  · simp only [Builder.standing, registry, container, children, detached, List.foldl_nil]

/-- A builder with the keys of another whose host has the same tree. -/
theorem of_tree (housed : builder.Housed) (grounded : next.Grounded)
    (registry : next.registry = builder.registry) (container : next.container = builder.container)
    (configuration : next.configuration = builder.configuration)
    (tree : next.host.tree = builder.host.tree) : Led [] builder next :=
  of_same housed grounded registry container configuration
    (fun view known => (Host.knows_of_tree tree view).trans known)
    (funext (Host.children_of_tree tree)) (funext (Host.isDetached_of_tree tree))

end Led

namespace Housed

variable {builder next : Builder} (housed : builder.Housed)

include housed

/-- Applying a text, whether or not it fails. -/
theorem led_text (raw : String) (priority : Option Priority) :
    Led [] builder ((applyText raw priority).left builder) := by
  have grounded := housed.grounded.applyText raw priority
  obtain ⟨constraints, applied, same⟩ := builder.exists_of_applyText raw priority
  rw [same] at grounded ⊢
  exact .of_tree housed grounded rfl rfl rfl rfl

/-- Changing the metrics or the use of guides. -/
theorem led_options (metrics : Metrics) (hasGuides : Bool) :
    Led [] builder { builder with metrics, hasGuides } := by
  have grounded := kept_grounded.options builder housed.grounded metrics hasGuides
  exact .of_tree housed grounded rfl rfl rfl rfl

/-- Applying a text where a failure ends the building. -/
theorem led_addConstraint {raw : String} {priority : Option Priority}
    (done : builder.addConstraint raw priority = .ok next) : Led [] builder next := by
  obtain ⟨⟨handles, left⟩, went, rfl⟩ := map_eq_ok_iff.1 done
  obtain rfl := Steps.eq_left_of_outcome went
  exact housed.led_text raw priority

/-- Applying texts one after another. -/
theorem led_addConstraints {raws : List String} {priority : Option Priority}
    (done : builder.addConstraints raws priority = .ok next) : Led [] builder next :=
  foldlM_keeps (Led [] builder)
    (fun _ before _ _ _ applied => before.trans (before.housed.led_addConstraint applied))
    (.refl housed) done

/-- Setting a content priority. -/
theorem led_setContentPriority {key : String} {priority : Priority} {axis : Axis}
    {kind : ContentPriority}
    (done : builder.setContentPriority key priority axis kind = .ok next) :
    Led [] builder next := by
  have grounded := kept_grounded.setContentPriority housed.grounded done
  obtain ⟨view, -, rest⟩ := bind_eq_ok_iff.1 done
  obtain ⟨host, set, replaced⟩ := bind_eq_ok_iff.1 rest
  obtain rfl := Except.ok.inj replaced
  have tree := Host.tree_of_setPriorityBelow (mapError_eq_ok_iff.1 set)
  exact .of_tree housed grounded rfl rfl rfl tree

/-- Registering a guide. -/
theorem led_register {key : String} {guide : GuideId}
    (done : builder.register key (.guide guide) = .ok next) :
    Led [.bind key (.guide guide)] builder next := by
  have grounded := housed.grounded.register done
  obtain ⟨registry, registered, rfl⟩ := register_eq_ok_iff.1 done
  obtain ⟨unreserved, rfl⟩ := Registry.register_eq_ok_iff.1 registered
  refine ⟨⟨grounded, ?_, fun other view stands => ?_⟩, rfl, rfl, rfl⟩
  · exact (KeyMap.get?_insert _ _ _ _).trans ((if_neg unreserved.symm).trans housed.free)
  · dsimp only at stands
    rw [KeyMap.get?_insert] at stands
    split at stands
    · exact nomatch Option.some.inj stands
    · exact housed.known other view stands

/-- Registering a view and putting it into some view. -/
theorem of_attach {registered : Builder} {key : String} {parent view : ViewId} {host : Host}
    (registers : builder.register key (.view view) = .ok registered)
    (attached : registered.host.attach parent view = .ok host) :
    Housed { registered with host } ∧ builder.host.knows (.view parent) = true ∧
      host = builder.host.reattached parent view := by
  have attaches : registered.attach parent view = .ok { registered with host } :=
    bind_eq_ok_iff.2 ⟨host, mapError_eq_ok_iff.2 attached, rfl⟩
  have grounded := kept_grounded.attach (housed.grounded.register registers) attaches
  obtain ⟨registry, bound, rfl⟩ := register_eq_ok_iff.1 registers
  obtain ⟨unreserved, rfl⟩ := Registry.register_eq_ok_iff.1 bound
  have inventory := Host.inventory_of_attach attached
  obtain ⟨there, known, -, went⟩ | ⟨-, fault, failed⟩ :=
    housed.grounded.forest.attachSteps_eq parent view
  · rw [Host.attach, Steps.outcome, went] at attached
    refine ⟨⟨grounded, ?_, fun other found stands => ?_⟩, there, (Except.ok.inj attached).symm⟩
    · exact (KeyMap.get?_insert _ _ _ _).trans ((if_neg unreserved.symm).trans housed.free)
    · dsimp only at stands ⊢
      rw [Host.knows_of_inventory inventory]
      rw [KeyMap.get?_insert] at stands
      split at stands
      · obtain rfl := Node.view.inj (Option.some.inj stands)
        exact known
      · exact housed.known other found stands
  · rw [Host.attach, Steps.outcome, failed] at attached
    contradiction

/-- Registering a view and putting it into the container. -/
theorem led_addView {key : String} {view : ViewId} (done : builder.addView key view = .ok next) :
    Led [.bind key (.view view)] builder next := by
  obtain ⟨registry, host, registered, attached, rfl⟩ := addView_eq_ok_iff.1 done
  obtain ⟨still, there, rfl⟩ :=
    housed.of_attach (register_eq_ok_iff.2 ⟨registry, registered, rfl⟩) attached
  obtain ⟨-, rfl⟩ := Registry.register_eq_ok_iff.1 registered
  refine ⟨still, rfl, rfl, ?_⟩
  have children : (builder.host.reattached builder.container view).children builder.container =
      _ := housed.grounded.forest.children_reattached there
  have detached := funext (builder.host.isDetached_reattached builder.container view)
  rw [if_pos rfl] at children
  simp only [Builder.standing, List.foldl_cons, List.foldl_nil, Standing.after, children, detached]

/-- Unregistering and detaching views goes through. -/
theorem exists_removeViews (keys : List String) :
    ∃ next, builder.removeViews keys = .ok next ∧ Led [.remove keys] builder next := by
  obtain ⟨host, views, named, unloaded, done⟩ :=
    exists_unloaded housed.grounded.forest housed.known keys
  have grounded := kept_grounded.removeViews housed.grounded done
  refine ⟨_, done, ⟨grounded, ?_, fun key view stands => ?_⟩, rfl, rfl, ?_⟩
  · dsimp only
    rw [Registry.parentKey_unregister, Registry.get?_unregister, housed.free, ite_self]
  · exact (unloaded.knows _).trans (housed.known key view (Registry.get?_of_unregister stands))
  · have children := unloaded.children_eq named builder.container
    have loose := funext (unloaded.isDetached_eq named)
    simp only [Builder.standing, List.foldl_cons, List.foldl_nil, Standing.after, children, loose]

/-- Unregistering and detaching views. -/
theorem led_removeViews {keys : List String} (done : builder.removeViews keys = .ok next) :
    Led [.remove keys] builder next := by
  obtain ⟨found, removes, led⟩ := housed.exists_removeViews keys
  obtain rfl := Except.ok.inj (removes.symm.trans done)
  exact led

end Housed

/-! ## Sequences -/

/-- A further view of a sequence has the next number. -/
theorem numbered_concat (views : List ViewId) (view : ViewId) :
    numbered (views ++ [view]) =
      numbered views ++ [(Sequence.viewKey (views.length + 1), view)] := by
  simp [numbered, List.zipIdx_append]

/-- A sequence in a builder has placed some views, and has changed no keys and no tree but for
them. -/
structure Placed (builder : Builder) (views : List ViewId) (sequence : Sequence) : Prop where
  /-- The views have been put into the container under the keys of their numbers. -/
  led : Led (placing (numbered views)) builder sequence.builder
  /-- The sequence has counted the views. -/
  count : sequence.count = views.length

namespace Placed

variable {builder : Builder} {views : List ViewId} {sequence next : Sequence}
  (placed : Placed builder views sequence)

include placed

/-- Emitting a text places no view. -/
theorem emit {raw : String} (done : sequence.emit raw = .ok next) : Placed builder views next := by
  obtain ⟨after, applied, replaced⟩ := bind_eq_ok_iff.1 done
  obtain rfl := Except.ok.inj replaced
  have measured := placed.led.housed.led_options sequence.margins.metrics sequence.builder.hasGuides
  have emitted := measured.trans (measured.housed.led_addConstraint applied)
  refine ⟨?_, placed.count⟩
  have led := placed.led.trans emitted
  rwa [List.append_nil, List.append_nil] at led

/-- The next view is placed behind the others. -/
theorem addNext {view : ViewId} (done : sequence.addNext view = .ok next) :
    Placed builder (views ++ [view]) next := by
  obtain ⟨after, added, replaced⟩ := bind_eq_ok_iff.1 done
  obtain rfl := Except.ok.inj replaced
  have led := placed.led.trans (placed.led.housed.led_addView added)
  refine ⟨?_, ?_⟩
  · rw [numbered_concat, placing, List.map_append, ← placed.count]
    exact led
  · rw [placed.count, List.length_append, List.length_singleton]

/-- A batch of views is placed behind the others. -/
theorem addViews {batch : List ViewId} {centered : Bool}
    (done : sequence.addViews batch centered = .ok next) : Placed builder (views ++ batch) next := by
  unfold Sequence.addViews at done
  split at done
  · rename_i empty
    obtain rfl := Except.ok.inj done
    rw [List.isEmpty_iff.1 empty, List.append_nil]
    exact placed
  · dsimp only at done
    obtain ⟨added, adds, rest⟩ := bind_eq_ok_iff.1 done
    obtain ⟨crossed, crosses, rest⟩ := bind_eq_ok_iff.1 rest
    obtain ⟨chained, chains, replaced⟩ := bind_eq_ok_iff.1 rest
    obtain rfl := Except.ok.inj replaced
    have filled : Placed builder (views ++ batch) added := by
      refine foldlM_collects (fun passed => Placed builder (views ++ passed)) ?_ ?_ adds
      · intro passed state here view _ after stepped
        rw [← List.append_assoc]
        exact here.addNext stepped
      · rwa [List.append_nil]
    have stated : Placed builder (views ++ batch) crossed :=
      foldlM_keeps (Placed builder (views ++ batch))
        (fun _ here _ _ _ stepped => here.emit stepped) filled crosses
    have stacked : Placed builder (views ++ batch) chained := stated.emit chains
    exact ⟨stacked.led, stacked.count⟩

/-- Closing places no view. -/
theorem close (done : sequence.close = .ok next) : Placed builder views next := by
  unfold Sequence.close at done
  split at done
  · contradiction
  · split at done
    · obtain rfl := Except.ok.inj done
      exact placed
    · obtain ⟨emitted, emits, replaced⟩ := bind_eq_ok_iff.1 done
      obtain rfl := Except.ok.inj replaced
      have closed : Placed builder views emitted := placed.emit emits
      exact ⟨closed.led, closed.count⟩

/-- An operation places the views that it appends. -/
theorem perform {operation : Sequence.Operation} (done : sequence.perform operation = .ok next) :
    Placed builder (views ++ operation.views) next := by
  cases operation with
  | withMargins margins =>
    obtain rfl := Except.ok.inj done
    rw [Sequence.Operation.views, List.append_nil]
    exact ⟨placed.led, placed.count⟩
  | addViews batch centered => exact placed.addViews done
  | close =>
    rw [Sequence.Operation.views, List.append_nil]
    exact placed.close done

end Placed

/-- A run of a new sequence places the views of its batches. -/
theorem Housed.placed_of_run {builder : Builder} (housed : builder.Housed) {axis : Axis}
    {operations : List Sequence.Operation} {final : Sequence}
    (ran : Sequence.run { axis, builder } operations = .ok final) :
    Placed builder (operations.flatMap Sequence.Operation.views) final := by
  have begins : Placed builder [] { axis, builder } := ⟨.refl housed, rfl⟩
  refine foldlM_collects (fun passed => Placed builder (passed.flatMap Sequence.Operation.views))
    ?_ begins ran
  intro passed state here operation _ next stepped
  rw [List.flatMap_append, List.flatMap_singleton]
  exact here.perform stepped

/-! ## Operations -/

/-- An operation through keys makes its changes, and no others. -/
theorem Housed.led_perform {builder next : Builder} (housed : builder.Housed)
    {operation : Operation} (keyed : operation.ThroughKeys)
    (done : builder.perform operation = .ok next) :
    Led (operation.changes builder) builder next := by
  cases operation with
  | createView content =>
    obtain rfl := Except.ok.inj done
    have grounded := housed.grounded.withStep (.create content)
    refine .of_same housed grounded rfl rfl rfl
      (fun view known => Host.knows_createView known content) ?_ ?_
    · funext view
      exact Host.readView_createView builder.host content view
        (fun data => (data.map View.children).getD []) rfl
    · funext view
      exact Host.readView_createView builder.host content view
        (fun data => (data.map View.detached).getD false) rfl
  | createGuide frame =>
    obtain rfl := Except.ok.inj done
    have grounded := kept_grounded.guide builder housed.grounded frame
    exact .of_tree housed grounded rfl rfl rfl rfl
  | attach parent child => exact absurd keyed not_false
  | detach view => exact absurd keyed not_false
  | addUnattached key view => exact absurd keyed not_false
  | useGuides top bottom =>
    obtain ⟨first, one, rest⟩ := bind_eq_ok_iff.1 done
    obtain ⟨second, other, replaced⟩ := bind_eq_ok_iff.1 rest
    obtain rfl := Except.ok.inj replaced
    have topLed := housed.led_register one
    have bothLed := topLed.trans (topLed.housed.led_register other)
    exact bothLed.trans (bothLed.housed.led_options second.metrics true)
  | addViews views =>
    refine foldlM_collects (fun passed => Led (placing passed) builder) ?_ (.refl housed) done
    intro passed state here entry _ after added
    rw [placing, List.map_append]
    exact here.trans (here.housed.led_addView added)
  | addGuides guides =>
    refine foldlM_collects (fun passed => Led (passed.map fun entry =>
      .bind entry.1 (.guide entry.2)) builder) ?_ (.refl housed) done
    intro passed state here entry _ after registered
    rw [List.map_append]
    exact here.trans (here.housed.led_register registered)
  | removeViews keys => exact housed.led_removeViews done
  | removeAllViews => exact housed.led_removeViews done
  | withMetrics metrics =>
    obtain rfl := Except.ok.inj done
    exact housed.led_options metrics builder.hasGuides
  | fill view insets =>
    obtain ⟨added, adds, fills⟩ := bind_eq_ok_iff.1 done
    have placed := housed.led_addView adds
    have measured := placed.trans (placed.housed.led_options insets.metrics added.hasGuides)
    exact measured.trans (measured.housed.led_addConstraints fills)
  | tryConstraint raw priority =>
    obtain rfl := Except.ok.inj done
    exact housed.led_text raw priority
  | addConstraints raws priority => exact housed.led_addConstraints done
  | setContentPriority key priority axis kind => exact housed.led_setContentPriority done
  | wrapContent key axis =>
    obtain ⟨hugged, hugs, resists⟩ := bind_eq_ok_iff.1 done
    have first := housed.led_setContentPriority hugs
    exact first.trans (first.housed.led_setContentPriority resists)
  | stack axis operations =>
    obtain ⟨final, ran, rfl⟩ := map_eq_ok_iff.1 done
    exact (housed.placed_of_run ran).led

end Builder

end ViewLayout
