import ViewLayout.Proofs.Builder.Changes
import ViewLayout.Proofs.Document.Nesting
import ViewLayout.Proofs.Text.ByteOrder

/-!
# What the answer to a document reports

An answer is put together from the keys of views and the frames of a layout, and leaves out a key
whose view has no frame. None is left out: every change that building a document makes keeps the
registered views known to the host and in layout (`Builder.Shows`), and adds the key of each view
that it registers. So an answer names the container, then every declared view and every view of the
sequence, each once.
-/

namespace ViewLayout

open ViewLayout.Number ViewLayout.Outcome ViewLayout.Text

/-! ## Views in layout -/

namespace Builder

/-- The keys of views are some keys and no others, and no view is out of layout. -/
structure Standing.Lists (standing : Standing) (parentKey : String) (keys : List String) :
    Prop where
  /-- The parent key is the one it was. -/
  parentKey : standing.registry.parentKey = parentKey
  /-- No view is detached. -/
  undetached : ∀ view, standing.detached view = false
  /-- The keys of views are those that are listed. -/
  keys : ∀ key, key ∈ standing.registry.viewKeys ↔ key ∈ keys

namespace Standing.Lists

variable {standing : Standing} {parentKey : String} {keys : List String}

/-- The key of a view that is put into the container is listed with the others. -/
theorem bindView (lists : standing.Lists parentKey keys) (key : String) (view : ViewId) :
    (standing.after (.bind key (.view view))).Lists parentKey (keys ++ [key]) := by
  refine ⟨lists.parentKey, fun other => ?_, fun other => ?_⟩
  · simp only [Standing.after, lists.undetached, ite_self]
  · rw [List.mem_append, List.mem_singleton, ← lists.keys, Registry.mem_viewKeys_iff,
      Registry.mem_viewKeys_iff]
    simp only [Standing.after, KeyMap.get?_insert]
    by_cases same : other = key <;> simp [same]

/-- The keys of views that are put into the container are listed with the others. -/
theorem bindViews (lists : standing.Lists parentKey keys) (views : List (String × ViewId)) :
    ((placing views).foldl Standing.after standing).Lists parentKey
      (keys ++ views.map (·.1)) := by
  induction views generalizing standing keys with
  | nil => simpa [placing] using lists
  | cons entry views ih =>
    have more := ih (lists.bindView entry.1 entry.2)
    rw [List.append_assoc] at more
    exact more

/-- The key of a guide is not listed, when it is not that of a view. -/
theorem bindGuide (lists : standing.Lists parentKey keys) {key : String} (guide : GuideId)
    (free : key ∉ keys) : (standing.after (.bind key (.guide guide))).Lists parentKey keys := by
  refine ⟨lists.parentKey, lists.undetached, fun other => ?_⟩
  have unlisted := (lists.keys key).not.2 free
  rw [← lists.keys]
  rw [Registry.mem_viewKeys_iff] at unlisted ⊢
  rw [Registry.mem_viewKeys_iff]
  simp only [Standing.after, KeyMap.get?_insert]
  by_cases same : other = key
  · subst same
    simp [unlisted]
  · simp [same]

end Standing.Lists

/-- The views of some keys are in layout: the host created every registered view and has detached
none, and the keys of views are those. -/
structure Shows (builder : Builder) (parentKey : String) (keys : List String) : Prop where
  /-- The host created every registered view. -/
  housed : builder.Housed
  /-- The keys of views are those that are listed, and no view is out of layout. -/
  lists : builder.standing.Lists parentKey keys

namespace Shows

variable {builder next : Builder} {parentKey : String} {keys : List String}
  (shows : builder.Shows parentKey keys)

include shows

/-- What changes no keys and no tree shows the same views. -/
theorem of_led_nil (led : Led [] builder next) : next.Shows parentKey keys := by
  refine ⟨led.housed, ?_⟩
  rw [led.standing]
  exact shows.lists

/-- Views that are put into the container are shown with the others. -/
theorem of_led_placing {views : List (String × ViewId)} (led : Led (placing views) builder next) :
    next.Shows parentKey (keys ++ views.map (·.1)) := by
  refine ⟨led.housed, ?_⟩
  rw [led.standing]
  exact shows.lists.bindViews views

/-- A guide is not shown. -/
theorem of_led_guide {key : String} {guide : GuideId} (free : key ∉ keys)
    (led : Led [.bind key (.guide guide)] builder next) : next.Shows parentKey keys := by
  refine ⟨led.housed, ?_⟩
  rw [led.standing]
  exact shows.lists.bindGuide guide free

/-- A view that is registered and put into any view is shown with the others. -/
theorem of_attach {registered : Builder} {key : String} {parent view : ViewId} {host : Host}
    (registers : builder.register key (.view view) = .ok registered)
    (attached : registered.host.attach parent view = .ok host) :
    Shows { registered with host } parentKey (keys ++ [key]) := by
  obtain ⟨housed, -, rfl⟩ := shows.housed.of_attach registers attached
  obtain ⟨registry, bound, rfl⟩ := register_eq_ok_iff.1 registers
  obtain ⟨-, rfl⟩ := Registry.register_eq_ok_iff.1 bound
  have listed := shows.lists.bindView key view
  refine ⟨housed, listed.parentKey, fun other => ?_, listed.keys⟩
  have undetached : builder.host.isDetached other = false := shows.lists.undetached other
  refine (builder.host.isDetached_reattached parent view other).trans ?_
  rw [undetached, ite_self]

end Shows

end Builder

/-- The keys of the views of a sequence are the numbered ones. -/
theorem Sequence.map_fst_numbered (views : List ViewId) :
    (Builder.numbered views).map (·.1) = numberedKeys views.length := by
  have numbers : views.zipIdx.map (·.2) = List.range views.length := by
    rw [List.range_eq_range', List.zipIdx_map_snd]
  rw [numberedKeys, ← numbers, Builder.numbered, List.map_map, List.map_map]
  rfl

/-! ## Building -/

namespace Document

variable {document : Document} {builder next : Builder} {parentKey : String} {keys : List String}

/-- Before anything is registered, no view is detached. -/
theorem start_undetached (document : Document) (view : ViewId) :
    document.start.host.isDetached view = false := by
  let loose (host : Host) : Prop := ∀ view, host.isDetached view = false
  have created (host : Host) (content : Option (PerAxis Binary64)) (held : loose host) :
      loose (host.createView content).1 := by
    intro view
    rw [← held view]
    exact Host.readView_createView host content view
      (fun data => (data.map View.detached).getD false) rfl
  have empty : loose (Host.ofConfiguration document.configuration) := fun _ => rfl
  have viewed := createEach_keeps loose (fun host view => created host view.size)
    document.views (created _ none empty)
  exact createEach_keeps loose (fun _ _ held => held) document.guides viewed view

/-- Before anything is registered, no view is shown. -/
theorem start_shows (document : Document) :
    document.start.Shows document.configuration.parentKey [] := by
  obtain ⟨forest, -⟩ := document.start_forest
  refine ⟨⟨⟨forest, document.start_knows (.inl rfl), rfl⟩, rfl, nofun⟩, rfl,
    document.start_undetached, fun key => ?_⟩
  rw [Registry.mem_viewKeys_iff]
  exact iff_of_false nofun List.not_mem_nil

/-- Guides that are registered first are not shown. -/
theorem shows_of_addGuides (shows : builder.Shows parentKey []) {guides : List (String × GuideId)}
    (done : builder.addGuides guides = .ok next) : next.Shows parentKey [] :=
  foldlM_keeps (Builder.Shows · parentKey [])
    (fun _ here _ _ _ registers =>
      here.of_led_guide List.not_mem_nil (here.housed.led_register registers))
    shows done

/-- A declared view is shown under its key, in whatever view it is placed. -/
theorem shows_of_place (shows : builder.Shows parentKey keys) {container : String}
    {declared : List DeclaredView} {entry : DeclaredView}
    (done : place container declared builder entry = .ok next) :
    next.Shows parentKey (keys ++ [entry.1.key]) := by
  obtain ⟨declaration, view⟩ := entry
  unfold place at done
  dsimp only at done
  split at done
  · have added : Builder.Led (Builder.placing [(declaration.key, view)]) builder next :=
      shows.housed.led_addView (mapError_eq_ok_iff.1 done)
    exact shows.of_led_placing added
  · split at done
    · contradiction
    · obtain ⟨registered, registers, rest⟩ := bind_eq_ok_iff.1 done
      obtain ⟨host, attached, replaced⟩ := bind_eq_ok_iff.1 rest
      obtain rfl := Except.ok.inj replaced
      exact shows.of_attach (mapError_eq_ok_iff.1 registers) (mapError_eq_ok_iff.1 attached)

/-- Setting the content priorities of a view shows the same views. -/
theorem shows_of_prioritizeView (shows : builder.Shows parentKey keys)
    {declaration : ViewDeclaration} (done : prioritizeView builder declaration = .ok next) :
    next.Shows parentKey keys := by
  have kind {kind : ContentPriority} {key : String} {priorities : PerAxis (Option Priority)}
      {before after : Builder} (shown : before.Shows parentKey keys)
      (set : prioritize kind key priorities before = .ok after) : after.Shows parentKey keys := by
    refine foldlM_keeps (Builder.Shows · parentKey keys) ?_ shown set
    intro state here axis _ next stepped
    split at stepped
    · exact here.of_led_nil (here.housed.led_setContentPriority stepped)
    · obtain rfl := Except.ok.inj stepped
      exact here
  obtain ⟨hugged, hugs, resists⟩ := bind_eq_ok_iff.1 done
  exact kind (kind shows hugs) resists

/-- The views of a sequence are shown under their numbers. -/
theorem shows_of_buildSequence (shows : builder.Shows parentKey keys) {container : String}
    {declared : List DeclaredView} {declaration : SequenceDeclaration}
    (done : buildSequence container declared declaration builder = .ok next) :
    next.Shows parentKey (keys ++
      Sequence.numberedKeys (declaration.batches.flatMap Batch.keys).length) := by
  obtain ⟨stacked, appends, rest⟩ := bind_eq_ok_iff.1 done
  have begun : Builder.Placed builder []
      { axis := declaration.axis, builder, margins := declaration.margins } :=
    ⟨.refl shows.housed, rfl⟩
  obtain ⟨views, placed, counted⟩ : ∃ views, Builder.Placed builder views stacked ∧
      views.length = (declaration.batches.flatMap Batch.keys).length := by
    refine foldlM_collects (fun passed sequence => ∃ views, Builder.Placed builder views sequence ∧
      views.length = (passed.flatMap Batch.keys).length) ?_ ⟨[], begun, rfl⟩ appends
    rintro passed sequence ⟨views, placed, counted⟩ batch _ after stepped
    obtain ⟨more, found, added⟩ := bind_eq_ok_iff.1 stepped
    refine ⟨views ++ more, placed.addViews (mapError_eq_ok_iff.1 added), ?_⟩
    rw [List.length_append, counted, List.flatMap_append, List.length_append,
      List.flatMap_singleton, (mapM_eq_ok_iff.1 found).length_eq]
  have shown (led : Builder.Led (Builder.placing (Builder.numbered views)) builder next) :
      next.Shows parentKey (keys ++
        Sequence.numberedKeys (declaration.batches.flatMap Batch.keys).length) := by
    have listed := shows.of_led_placing led
    rw [Sequence.map_fst_numbered, counted] at listed
    exact listed
  dsimp only at rest
  split at rest
  · obtain ⟨ended, ends, replaced⟩ := bind_eq_ok_iff.1 rest
    obtain rfl := Except.ok.inj replaced
    exact shown (placed.close (mapError_eq_ok_iff.1 ends)).led
  · obtain rfl := Except.ok.inj rest
    exact shown placed.led

/-- A document that is built shows its declared views and the views of its sequence. -/
theorem shows_of_build (built : document.build = .ok builder) :
    builder.Shows document.configuration.parentKey
      (document.views.map (·.key) ++ document.generatedKeys) := by
  rw [build_eq_placing] at built
  obtain ⟨placed, placing, finishes⟩ := bind_eq_ok_iff.1 built
  obtain ⟨guided, guides, places⟩ := bind_eq_ok_iff.1 placing
  obtain ⟨weighted, weighs, rest⟩ := bind_eq_ok_iff.1 finishes
  obtain ⟨applied, applies, rest⟩ := bind_eq_ok_iff.1 rest
  have afterGuides := shows_of_addGuides document.start_shows (mapError_eq_ok_iff.1 guides)
  let declares (builder : Builder) : Prop :=
    builder.Shows document.configuration.parentKey (document.views.map (·.key))
  have afterViews : declares placed := by
    unfold declares
    rw [← map_fst_declared, List.map_map]
    refine foldlM_collects (fun passed builder =>
      builder.Shows document.configuration.parentKey (passed.map fun entry => entry.1.key)) ?_
      afterGuides places
    intro passed state here entry _ next stepped
    rw [List.map_append]
    exact shows_of_place here stepped
  have afterWeights : declares weighted :=
    foldlM_keeps declares (fun _ here _ _ _ stepped => shows_of_prioritizeView here stepped)
      afterViews (mapError_eq_ok_iff.1 weighs)
  have measured : declares (weighted.withMetrics document.metrics) :=
    afterWeights.of_led_nil (afterWeights.housed.led_options document.metrics weighted.hasGuides)
  have afterTexts : declares applied :=
    foldlM_keeps declares
      (fun _ here _ _ _ stepped => here.of_led_nil (here.housed.led_addConstraint stepped))
      measured (mapError_eq_ok_iff.1 applies)
  unfold generatedKeys
  cases declared : document.sequence with
  | some declaration =>
    rw [declared] at rest
    exact shows_of_buildSequence afterTexts rest
  | none =>
    rw [declared] at rest
    obtain rfl := Except.ok.inj rest
    rw [List.append_nil]
    exact afterTexts

/-- What was registered for the views or the guides of a document that is built has another key than
the parent key. -/
theorem binding_ne_parentKey_of_build (built : document.build = .ok builder)
    {key : String}
    (listed : key ∈ document.guideBindings.map (·.1) ∨ key ∈ document.viewBindings.map (·.1)) :
    key ≠ builder.registry.parentKey := by
  obtain ⟨numbered, -, logs⟩ := exists_logs_of_build built
  rw [← List.mem_append, ← List.map_append] at listed
  obtain ⟨binding, bound, rfl⟩ := List.mem_map.1 listed
  exact logs.free binding (List.mem_append_left _ bound)

/-- No guide has the parent key in a document that is built. -/
theorem guide_ne_parentKey_of_build (built : document.build = .ok builder)
    {guide : GuideDeclaration} (listed : guide ∈ document.guides) :
    guide.key ≠ builder.registry.parentKey := by
  have keys : document.guideBindings.map (·.1) = document.guides.map (·.key) :=
    map_bindings document.length_createdGuides
  refine binding_ne_parentKey_of_build built (.inl ?_)
  rw [keys]
  exact List.mem_map_of_mem listed

/-- No view has the parent key in a document that is built. -/
theorem view_ne_parentKey_of_build (built : document.build = .ok builder)
    {view : ViewDeclaration} (listed : view ∈ document.views) :
    view.key ≠ builder.registry.parentKey := by
  have keys : document.viewBindings.map (·.1) = document.views.map (·.key) :=
    map_bindings document.length_createdViews
  refine binding_ne_parentKey_of_build built (.inr ?_)
  rw [keys]
  exact List.mem_map_of_mem listed

/-! ## Solving -/

section Solving

variable {Value : Type} [OfNat Value 0] {solver : Host.Solver Value}

/-- A view that takes part in a layout has a frame in it. -/
theorem exists_find?_of_layoutBy {host : Host} {root view : ViewId} {width height : Binary64}
    {frames : List (ViewId × Frame Value)}
    (laid : host.layoutBy solver root width height = .ok frames)
    (live : host.isLive root (.view view) = true) :
    ∃ frame, (frames.find? (·.1 = view)).map (·.2) = some frame := by
  obtain ⟨-, state, -, rfl⟩ := Host.exists_values_of_layoutBy laid
  rw [Host.find?_frame _ (Host.mem_liveViews_iff.2 live)]
  exact ⟨_, rfl⟩

omit [OfNat Value 0] in
/-- Nothing is left out of keys that all have a frame. -/
theorem map_fst_filterMap {framed : String → Option (String × Frame Value)} {keys : List String}
    (total : ∀ key ∈ keys, ∃ frame, framed key = some (key, frame)) :
    (keys.filterMap framed).map (·.1) = keys := by
  have kept : ∀ key ∈ keys, (framed key).map (·.1) = some key := by
    intro key listed
    obtain ⟨frame, found⟩ := total key listed
    rw [found]
    rfl
  rw [List.map_filterMap, List.filterMap_congr kept, List.filterMap_some]

/-- An answer has a frame for the parent key and for every key of a view, and it is that of the view
the key stands for. -/
theorem exists_frames_of_solveBy {solution : Solution Value}
    (solved : document.solveBy solver = .ok solution) :
    ∃ builder, document.build = .ok builder ∧
      solution.frames.map (·.1) = builder.registry.parentKey :: builder.registry.viewKeys ∧
      ∃ frameOf? : ViewId → Option (Frame Value), ∀ entry ∈ solution.frames,
        ∃ view, builder.registry.resolve entry.1 = .ok (.view view) ∧
          frameOf? view = some entry.2 := by
  obtain ⟨builder, built, rest⟩ := bind_eq_ok_iff.1 solved
  obtain ⟨frames, lays, reported⟩ := bind_eq_ok_iff.1 rest
  obtain rfl := Except.ok.inj reported
  have laid := mapError_eq_ok_iff.1 lays
  have shows := shows_of_build built
  obtain ⟨container, contained⟩ := exists_find?_of_layoutBy laid
    (Host.isLive_view_iff.2 ⟨shows.housed.grounded.created, .inr rfl⟩)
  have stands : builder.registry.resolve builder.registry.parentKey =
      .ok (.view builder.container) := by
    rw [Registry.resolve, if_pos rfl, shows.housed.grounded.parent]
  let framed (key : String) : Option (String × Frame Value) := do
    let view ← (builder.registry.resolveView key).toOption
    ((frames.find? (·.1 = view)).map (·.2)).map (key, ·)
  have each {key : String} (listed : key ∈ builder.registry.viewKeys) :
      ∃ view frame, builder.registry.resolve key = .ok (.view view) ∧
        (frames.find? (·.1 = view)).map (·.2) = some frame ∧ framed key = some (key, frame) := by
    obtain ⟨view, bound⟩ := Registry.mem_viewKeys_iff.1 listed
    have resolved := (shows.housed.resolve_iff.2 bound).2
    obtain ⟨frame, found⟩ := exists_find?_of_layoutBy laid (Host.isLive_view_iff.2
      ⟨shows.housed.known key view bound, .inl (shows.lists.undetached view)⟩)
    have read : builder.registry.resolveView key = .ok view := by
      rw [Registry.resolveView, resolved]
    refine ⟨view, frame, resolved, found, ?_⟩
    change (builder.registry.resolveView key).toOption.bind _ = _
    rw [read]
    exact congrArg (Option.map (key, ·)) found
  refine ⟨builder, built, ?_, fun view => (frames.find? (·.1 = view)).map (·.2), ?_⟩
  · dsimp only
    rw [contained, List.map_append]
    refine congrArg (List.cons builder.registry.parentKey) ?_
    refine map_fst_filterMap fun key listed => ?_
    obtain ⟨-, frame, -, -, made⟩ := each listed
    exact ⟨frame, made⟩
  · intro entry listed
    rcases List.mem_append.1 listed with here | there
    · dsimp only at here
      rw [contained, Option.map_some, Option.mem_toList] at here
      obtain rfl := Option.some.inj here
      exact ⟨builder.container, stands, contained⟩
    · obtain ⟨key, among, produced⟩ := List.mem_filterMap.1 there
      obtain ⟨view, frame, resolved, found, made⟩ := each among
      obtain rfl := Option.some.inj (made.symm.trans produced)
      exact ⟨view, resolved, found⟩

end Solving

/-- The keys and frames of an answer say where every view of a document lies, each once. -/
structure Covers {Value : Type} (document : Document) (builder : Builder)
    (solution : Solution Value) : Prop where
  /-- The parent key comes first. After it come the keys of the declared views and the numbered keys
  of the sequence, in the order of their bytes. -/
  keys : ∃ keys, solution.frames.map (·.1) = document.configuration.parentKey :: keys ∧
    keys.Pairwise (fun first second => bytes first < bytes second) ∧
    ∀ key, key ∈ keys ↔
      (∃ view ∈ document.views, view.key = key) ∨ key ∈ document.generatedKeys
  /-- No key comes twice. -/
  once : (solution.frames.map (·.1)).Nodup
  /-- Every key stands for a view. -/
  bound : ∀ entry ∈ solution.frames, ∃ view,
    builder.registry.resolve entry.1 = .ok (.view view)
  /-- Keys that stand for the same view have the same frame. -/
  shared : ∀ entry ∈ solution.frames, ∀ other ∈ solution.frames, ∀ view,
    builder.registry.resolve entry.1 = .ok (.view view) →
    builder.registry.resolve other.1 = .ok (.view view) → entry.2 = other.2
  /-- The key of a guide only comes when it is also that of a view. -/
  guides : ∀ guide ∈ document.guides, guide.key ∈ solution.frames.map (·.1) →
    (∃ view ∈ document.views, view.key = guide.key) ∨ guide.key ∈ document.generatedKeys

/-- A document that is solved reports every view once. The parent key comes first; then, in the
order of their bytes and without repetition, come the keys of the declared views together with the
numbered keys of the sequence, one for each name in its batches, and no others. Keys that stand for
the same view have the same frame, and a guide's key only comes when it is also one of these. This
holds whatever solver finds the frames. -/
theorem solve_covers_views {Value : Type} [OfNat Value 0] {solver : Host.Solver Value}
    {solution : Solution Value} (solved : document.solveBy solver = .ok solution) :
    ∃ builder, document.build = .ok builder ∧ document.Covers builder solution := by
  obtain ⟨builder, built, keys, frameOf?, framed⟩ := exists_frames_of_solveBy solved
  have shows := shows_of_build built
  have views (key : String) : key ∈ builder.registry.viewKeys ↔
      (∃ view ∈ document.views, view.key = key) ∨ key ∈ document.generatedKeys := by
    rw [← List.mem_map, ← List.mem_append]
    exact shows.lists.keys key
  have sorted := builder.registry.pairwise_viewKeys
  refine ⟨builder, built, ?_⟩
  constructor
  case keys =>
    refine ⟨builder.registry.viewKeys, ?_, sorted.imp bytes_lt_iff.2, views⟩
    rw [keys]
    exact congrArg (List.cons · _) shows.lists.parentKey
  case once =>
    rw [keys, List.nodup_cons]
    refine ⟨fun parent => ?_, sorted.imp ne_of_lt⟩
    obtain ⟨view, bound⟩ := Registry.mem_viewKeys_iff.1 parent
    rw [shows.housed.free] at bound
    contradiction
  case bound =>
    intro entry listed
    obtain ⟨view, stands, -⟩ := framed entry listed
    exact ⟨view, stands⟩
  case shared =>
    intro entry listed other among view first second
    obtain ⟨own, stands, frame⟩ := framed entry listed
    obtain ⟨its, standsToo, frameToo⟩ := framed other among
    obtain rfl := Node.view.inj (Except.ok.inj (stands.symm.trans first))
    obtain rfl := Node.view.inj (Except.ok.inj (standsToo.symm.trans second))
    exact Option.some.inj (frame.symm.trans frameToo)
  case guides =>
    intro guide listed reported
    rw [keys, List.mem_cons] at reported
    rw [← views]
    exact reported.resolve_left (guide_ne_parentKey_of_build built listed)

/-- One key belongs to a guide and to two views, and the sequence numbers a view with the key of
another one. The answer names the container and every key of a view once, and no guide by itself;
the number of a view has the frame of its own key. -/
theorem solve_covers_views_of_repeated :
    let document := ofKeys ["a", "g"] ["a", "b", "a", "v1"] ["b", "a"]
    ∃ solution builder, document.solveBy Host.simplex = .ok solution ∧
      document.Covers builder solution ∧
      solution.frames.map (·.1) = ["parent", "a", "b", "v1", "v2"] ∧
      ∀ entry ∈ solution.frames, ∀ other ∈ solution.frames, entry.1 = "v1" → other.1 = "b" →
        entry.2 = other.2 := by
  intro document
  obtain ⟨solution, found, names⟩ : ∃ solution ∈
      (document.solveBy Host.simplex).toOption, solution.frames.map (·.1) = ["parent", "a", "b", "v1", "v2"] := by decide +kernel
  have solved := eq_ok_of_toOption found
  obtain ⟨again, rebuilt, numbered, named⟩ : ∃ builder ∈ document.build.toOption,
      builder.registry.resolve "v1" = .ok (.view ⟨2⟩) ∧
        builder.registry.resolve "b" = .ok (.view ⟨2⟩) := by decide +kernel
  obtain ⟨builder, built, covers⟩ := solve_covers_views solved
  obtain rfl := Except.ok.inj (built.symm.trans (eq_ok_of_toOption rebuilt))
  refine ⟨solution, builder, solved, covers, names, fun entry listed other among here there => ?_⟩
  refine covers.shared entry listed other among ⟨2⟩ ?_ ?_
  · rw [here]
    exact numbered
  · rw [there]
    exact named

end Document

end ViewLayout
