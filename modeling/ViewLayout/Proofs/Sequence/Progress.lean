import ViewLayout.Proofs.Builder.Grounded
import ViewLayout.Proofs.Sequence.Texts

/-!
# Sequences never get stuck

A sequence names in its texts the parent key, the keys of its own views and the metrics of its
margins. While it is `Ready`, the host knows what these keys stand for and the texts are applied
with these metrics, so every text compiles and is stored. Appending placeable views keeps a sequence
ready, and so does closing it: the only failure left is to close a sequence without views.
-/

namespace ViewLayout

open ViewLayout.Chain ViewLayout.Outcome

/-! ## Applying the texts -/

namespace Builder

/-- A view can be put into the container: the host created it, and it is neither the container nor
above it. -/
def Placeable (builder : Builder) (view : ViewId) : Prop :=
  builder.host.knows (.view view) = true ∧ ¬builder.host.AtOrAbove view builder.container

/-- Whether a view is placeable is decided by the view tree. -/
theorem Placeable.of_tree {builder after : Builder} {view : ViewId}
    (placeable : builder.Placeable view) (container : after.container = builder.container)
    (same : after.host.tree = builder.host.tree) : after.Placeable view := by
  have above : after.host.ancestor? = builder.host.ancestor? :=
    Host.ancestor?_congr (Host.parent?_of_tree same)
  obtain ⟨known, clear⟩ := placeable
  refine ⟨(Host.knows_of_tree same view).trans known, ?_⟩
  rw [container, Host.AtOrAbove, above]
  exact clear

variable {builder : Builder} {raw : String}

/-- A placeable view can be put into the container. -/
theorem Placeable.attach {view : ViewId} (placeable : builder.Placeable view)
    (grounded : builder.Grounded) : builder.host.attach builder.container view =
      .ok (builder.host.reattached builder.container view) :=
  grounded.forest.attach_of_clear grounded.created placeable.1 placeable.2

/-- What is placeable stays so when a placeable view is put into the container. -/
theorem Placeable.of_reattached {after : Builder} {view other : ViewId}
    (placeable : builder.Placeable other) (placed : builder.Placeable view)
    (container : after.container = builder.container)
    (attached : builder.host.attach builder.container view = .ok after.host)
    (moved : after.host = builder.host.reattached builder.container view) :
    after.Placeable other := by
  have nodes := Host.knows_of_inventory (Host.inventory_of_attach attached)
  -- Only the parent of the new view has changed, which is not above the container.
  have elsewhere (there : ViewId) (apart : there ≠ view) :
      after.host.parent? there = builder.host.parent? there := by
    rw [moved, Host.parent?_reattached _ _ _ placed.1, if_neg apart]
  refine ⟨(nodes _).trans placeable.1, ?_⟩
  rintro ⟨steps, reached⟩
  rw [container, Host.ancestor?_of_elsewhere elsewhere placed.2] at reached
  exact placeable.2 ⟨steps, reached⟩

/-- A text that is written as a plain chain is applied when its keys stand for nodes of the host and
its metrics are bound. -/
theorem exists_addConstraint_plain {plain : Plain}
    (spelled : ∀ name ∈ plain.names, Token.WellSpelled (.ident name))
    (written : raw.toList = Token.written plain.pieces)
    (finds : ∀ key ∈ builder.registry.parentKey :: plain.keys, builder.Finds key)
    (bound : ∀ metric ∈ plain.metrics, ∃ distance, builder.metrics.get? metric = some distance) :
    ∃ ds stored, builder.addConstraint raw = .ok (builder.withText raw ds stored) := by
  have known : ∀ key ∈ plain.keys, builder.registry.Knows key := fun key listed =>
    (finds key (List.mem_cons_of_mem _ listed)).knows
  obtain ⟨ds, compiled⟩ :=
    Constraint.exists_compile_plain spelled written builder.host.spacing known bound
  have sets := Constraint.set_of_compile spelled written compiled
  refine ⟨ds, exists_addConstraint compiled fun descriptor present key named => ?_⟩
  obtain ⟨gap, listed, distance, -, rfl⟩ := exists_mem_of_forall₂ sets present
  obtain ⟨first, second⟩ := Plain.mem_keys_of_gaps listed
  simp only [Descriptor.keys, Descriptor.tie, Option.toList_some, List.map_cons, List.map_nil,
    List.mem_cons, List.not_mem_nil, or_false] at named
  rcases named with rfl | rfl
  · exact finds _ first
  · exact finds _ second

/-- A text that is written as the equality of two anchors is applied when their keys stand for nodes
of the host and are short enough. -/
theorem exists_addConstraint_equality {first second : Anchor}
    (written : raw.toList = Token.written (Equation.equalityPieces first second))
    (spelled : Token.WellSpelled (.ident first.key) ∧ Token.WellSpelled (.ident second.key))
    (short : first.key.utf8ByteSize ≤ 31 ∧ second.key.utf8ByteSize ≤ 31)
    (finds : builder.Finds first.key ∧ builder.Finds second.key) :
    ∃ ds stored, builder.addConstraint raw = .ok (builder.withText raw ds stored) := by
  have compiled := Constraint.compile_equality spelled.1 spelled.2 written short.1 short.2
    builder.host.spacing finds.1.knows finds.2.knows builder.metrics
  refine ⟨_, exists_addConstraint compiled fun descriptor present key named => ?_⟩
  obtain rfl := List.mem_singleton.1 present
  simp only [Descriptor.keys, Descriptor.tie, Option.toList_some, List.map_cons, List.map_nil,
    List.mem_cons, List.not_mem_nil, or_false] at named
  rcases named with rfl | rfl
  · exact finds.1
  · exact finds.2

end Builder

namespace Sequence

/-! ## Ready sequences -/

/-- Everything that the texts of a sequence name is there. -/
structure Ready (sequence : Sequence) : Prop where
  /-- The views form a forest, and the parent key stands for a container in it. -/
  grounded : sequence.builder.Grounded
  /-- The parent key is an identifier. -/
  spelled : Token.WellSpelled (.ident sequence.builder.registry.parentKey)
  /-- It is short enough for an equation. -/
  short : sequence.builder.registry.parentKey.utf8ByteSize ≤ 31
  /-- It is the key of no view of a sequence. -/
  free : ∀ number, sequence.builder.registry.parentKey ≠ viewKey number
  /-- The keys of the views so far stand for nodes of the host. -/
  views : ∀ number, 0 < number → number ≤ sequence.count →
    sequence.builder.Finds (viewKey number)

/-- A ready sequence has come out of another one by adding a number of views, and what could be put
into the container still can. -/
structure Advanced (added : Nat) (before after : Sequence) : Prop where
  /-- The sequence is ready. -/
  ready : after.Ready
  /-- The views are counted. -/
  count : after.count = before.count + added
  /-- What was placeable is placeable. -/
  placeable : ∀ view, before.builder.Placeable view → after.builder.Placeable view

/-- A ready sequence goes on from itself. -/
theorem Advanced.refl {sequence : Sequence} (ready : sequence.Ready) :
    Advanced 0 sequence sequence :=
  ⟨ready, rfl, fun _ placeable => placeable⟩

/-- What goes on goes on further. -/
theorem Advanced.trans {first second : Nat} {before middle after : Sequence}
    (one : Advanced first before middle) (other : Advanced second middle after) :
    Advanced (first + second) before after := by
  refine ⟨other.ready, ?_, fun view placeable => other.placeable view (one.placeable view placeable)⟩
  rw [other.count, one.count, Nat.add_assoc]

/-- A key is that of one of the first views of a sequence. -/
def Numbered (count : Nat) (key : String) : Prop :=
  ∃ number, 0 < number ∧ number ≤ count ∧ key = viewKey number

/-- A metric is one of those of the margins. -/
def IsMargin (metric : String) : Prop :=
  metric = Margins.endsKey ∨ metric = Margins.sidesKey ∨ metric = Margins.betweenKey

/-- The metrics of margins are bound. -/
theorem exists_get?_of_isMargin {metric : String} (isMargin : IsMargin metric) (margins : Margins) :
    ∃ distance, margins.metrics.get? metric = some distance := by
  rcases isMargin with rfl | rfl | rfl
  · exact ⟨margins.ends, margins.get?_endsKey⟩
  · exact ⟨margins.sides, margins.get?_sidesKey⟩
  · exact ⟨margins.between, margins.get?_betweenKey⟩

section Steps

variable {sequence : Sequence} (ready : sequence.Ready)

include ready

/-- The parent key stands for a node of the host. -/
theorem Ready.finds_parentKey :
    sequence.builder.Finds sequence.builder.registry.parentKey := by
  refine ⟨.view sequence.builder.container, ?_, ready.grounded.created⟩
  unfold Registry.resolve
  rw [if_pos rfl, ready.grounded.parent]

/-- The keys of the views so far stand for nodes of the host. -/
theorem Ready.finds_of_numbered {key : String} (numbered : Numbered sequence.count key) :
    sequence.builder.Finds key := by
  obtain ⟨number, positive, counted, rfl⟩ := numbered
  exact ready.views number positive counted

/-! ### Texts -/

/-- A sequence whose text is stored goes on. -/
theorem Ready.advanced_of_text {raw : String} {metrics : Metrics} {ds : List Descriptor}
    {stored : List Applied} {closed : Bool} :
    Advanced 0 sequence { sequence with
      builder := (sequence.builder.withMetrics metrics).withText raw ds stored, closed } := by
  have grounded : Builder.Grounded { sequence.builder with
      host := { sequence.builder.host with
        constraints := sequence.builder.host.constraints ++ stored } } :=
    ready.grounded.withTree rfl
  exact ⟨⟨⟨grounded.forest, grounded.created, grounded.parent⟩, ready.spelled, ready.short,
    ready.free, ready.views⟩, rfl, fun _ placeable => placeable.of_tree rfl rfl⟩

/-- A text that is written as a plain chain over views so far and metrics of margins is emitted. -/
theorem Ready.exists_emit_plain {plain : Plain} {raw : String}
    (written : raw.toList = Token.written plain.pieces)
    (numbered : ∀ key ∈ plain.keys, Numbered sequence.count key)
    (margins : ∀ metric ∈ plain.metrics, IsMargin metric) :
    ∃ next, sequence.emit raw = .ok next ∧ Advanced 0 sequence next := by
  have spelled : ∀ name ∈ plain.names, Token.WellSpelled (.ident name) := by
    intro name named
    rcases Plain.mem_names_iff.1 named with key | metric
    · obtain ⟨number, -, -, rfl⟩ := numbered name key
      exact wellSpelled_viewKey number
    · exact Margins.wellSpelled_keys (margins name metric)
  let measured := sequence.builder.withMetrics sequence.margins.metrics
  have finds : ∀ key ∈ measured.registry.parentKey :: plain.keys, measured.Finds key := by
    intro key listed
    rcases List.mem_cons.1 listed with rfl | view
    · exact ready.finds_parentKey
    · exact ready.finds_of_numbered (numbered key view)
  have bound : ∀ metric ∈ plain.metrics, ∃ distance, measured.metrics.get? metric = some distance :=
    fun metric listed => exists_get?_of_isMargin (margins metric listed) sequence.margins
  obtain ⟨ds, stored, applied⟩ := Builder.exists_addConstraint_plain spelled written finds bound
  exact ⟨_, bind_eq_ok_iff.2 ⟨_, applied, rfl⟩, ready.advanced_of_text⟩

/-- The text that places a view across the axis is emitted. -/
theorem Ready.exists_emit_crossText {key : String} (numbered : Numbered sequence.count key)
    (countable : sequence.count < 10 ^ 30) (centered : Bool) :
    ∃ next, sequence.emit (sequence.crossText key centered) = .ok next ∧
      Advanced 0 sequence next := by
  cases centered with
  | false =>
    refine ready.exists_emit_plain (sequence.toList_crossText key) ?_ ?_
    · intro other listed
      obtain rfl := List.mem_singleton.1 listed
      exact numbered
    · intro metric listed
      have sides : metric = Margins.sidesKey := by
        simpa [crossPlain, Plain.metrics] using listed
      exact .inr (.inl sides)
  | true =>
    have finds := ready.finds_of_numbered numbered
    obtain ⟨number, -, counted, rfl⟩ := numbered
    have short : (viewKey number).utf8ByteSize ≤ 31 :=
      viewKey_short (Nat.lt_of_le_of_lt counted countable)
    let measured := sequence.builder.withMetrics sequence.margins.metrics
    have both : measured.Finds measured.registry.parentKey ∧ measured.Finds (viewKey number) :=
      ⟨ready.finds_parentKey, finds⟩
    obtain ⟨ds, stored, applied⟩ := Builder.exists_addConstraint_equality
      (sequence.toList_crossText_centered (viewKey number))
      ⟨ready.spelled, wellSpelled_viewKey number⟩ ⟨ready.short, short⟩ both
    exact ⟨_, bind_eq_ok_iff.2 ⟨_, applied, rfl⟩, ready.advanced_of_text⟩

/-- The text that ties the last view to the trailing edge is emitted. -/
theorem Ready.exists_emit_closingText (begun : sequence.count ≠ 0) :
    ∃ next, sequence.emit (closingText sequence.axis sequence.count) = .ok next ∧
      Advanced 0 sequence next := by
  refine ready.exists_emit_plain (toList_closingText sequence.axis sequence.count) ?_ ?_
  · intro key listed
    obtain rfl := List.mem_singleton.1 listed
    exact ⟨sequence.count, Nat.pos_of_ne_zero begun, Nat.le_refl _, rfl⟩
  · intro metric listed
    have ends : metric = Margins.endsKey := by
      simpa [closingPlain, Plain.metrics] using listed
    exact .inl ends

/-- The text of a batch along an axis is emitted. -/
theorem Ready.exists_emit_chainText (axis : Axis) (before : Nat) (earlier : before ≤ sequence.count)
    {keys : List String} (filled : keys ≠ [])
    (numbered : ∀ key ∈ keys, Numbered sequence.count key) :
    ∃ next, sequence.emit (chainText axis before keys) = .ok next ∧
      Advanced 0 sequence next := by
  obtain ⟨first, rest, rfl⟩ := List.exists_cons_of_ne_nil filled
  have written := toList_chainText axis before first rest
  unfold chainPlain at written
  by_cases begun : before = 0
  · rw [if_pos begun] at written
    refine ready.exists_emit_plain written ?_ ?_
    · intro key listed
      have among : key = first ∨ key ∈ rest := by
        simpa [Plain.keys, List.map_map, Function.comp_def] using listed
      exact numbered key (List.mem_cons.2 among)
    · intro metric listed
      have among : metric = Margins.endsKey ∨ metric = Margins.betweenKey := by
        simp [Plain.metrics, Function.comp_def] at listed
        exact listed.imp id And.right
      exact among.imp id .inr
  · rw [if_neg begun] at written
    have last : Numbered sequence.count (viewKey before) :=
      ⟨before, Nat.pos_of_ne_zero begun, earlier, rfl⟩
    refine ready.exists_emit_plain written ?_ ?_
    · intro key listed
      have among : key = viewKey before ∨ key ∈ first :: rest := by
        simpa [Plain.keys, List.map_map, Function.comp_def] using listed
      rcases among with rfl | later
      · exact last
      · exact numbered key later
    · intro metric listed
      have between : metric = Margins.betweenKey := by
        simp [Plain.metrics, Function.comp_def] at listed
        tauto
      exact .inr (.inr between)

/-! ### Views -/

/-- A placeable view is registered and put into the container. -/
theorem Ready.exists_addNext {view : ViewId} (placeable : sequence.builder.Placeable view) :
    ∃ next, sequence.addNext view = .ok next ∧ Advanced 1 sequence next := by
  have grounded := ready.grounded
  have attached := placeable.attach grounded
  -- The key is not the parent key, so it can be registered.
  obtain ⟨registry, registered⟩ : ∃ registry, sequence.builder.registry.register
      (viewKey (sequence.count + 1)) (.view view) = .ok registry :=
    ⟨_, if_neg (ready.free (sequence.count + 1)).symm⟩
  obtain ⟨sameKey, -, here, others⟩ := Registry.resolve_of_register registered
  have nodes := Host.knows_of_inventory (Host.inventory_of_attach attached)
  let next : Sequence := { sequence with
    builder := { sequence.builder with
      registry, host := sequence.builder.host.reattached sequence.builder.container view }
    count := sequence.count + 1 }
  have added : sequence.addNext view = .ok next := by
    have placed := Builder.addView_eq_ok_iff.2 ⟨registry, _, registered, attached, rfl⟩
    exact bind_eq_ok_iff.2 ⟨_, placed, rfl⟩
  have ready : next.Ready := by
    constructor
    case grounded => exact Builder.kept_grounded.addNext grounded trivial added
    case spelled => exact sameKey ▸ ready.spelled
    case short => exact sameKey ▸ ready.short
    case free => exact sameKey ▸ ready.free
    case views =>
      intro number positive counted
      by_cases last : number = sequence.count + 1
      · exact ⟨.view view, last ▸ here, (nodes _).trans placeable.1⟩
      · have bound : number ≤ sequence.count + 1 := counted
        obtain ⟨node, found, there⟩ := ready.views number positive (by omega)
        have different : viewKey number ≠ viewKey (sequence.count + 1) := fun same =>
          last (viewKey_injective same)
        exact ⟨node, others _ _ different found, (nodes _).trans there⟩
  exact ⟨next, added, ready, rfl, fun other also => also.of_reattached placeable rfl attached rfl⟩

/-- Placeable views are registered and put into the container one after another. -/
theorem Ready.exists_foldlM_addNext {views : List ViewId}
    (placeable : ∀ view ∈ views, sequence.builder.Placeable view) :
    ∃ next, views.foldlM addNext sequence = .ok next ∧ Advanced views.length sequence next := by
  induction views generalizing sequence with
  | nil => exact ⟨sequence, rfl, .refl ready⟩
  | cons view views ih =>
    obtain ⟨middle, added, first⟩ := ready.exists_addNext (placeable view List.mem_cons_self)
    obtain ⟨next, rest, later⟩ := ih first.ready fun other listed =>
      first.placeable other (placeable other (List.mem_cons_of_mem _ listed))
    refine ⟨next, ?_, ?_⟩
    · rw [List.foldlM_cons, bind_eq_ok_iff]
      exact ⟨middle, added, rest⟩
    · rw [List.length_cons, Nat.add_comm]
      exact first.trans later

/-- The texts that place views across the axis are emitted one after another. -/
theorem Ready.exists_crossTexts {keys : List String}
    (numbered : ∀ key ∈ keys, Numbered sequence.count key)
    (countable : sequence.count < 10 ^ 30) (centered : Bool) :
    ∃ next, keys.foldlM (fun s key => s.emit (s.crossText key centered)) sequence = .ok next ∧
      Advanced 0 sequence next := by
  induction keys generalizing sequence with
  | nil => exact ⟨sequence, rfl, .refl ready⟩
  | cons key keys ih =>
    obtain ⟨middle, emitted, first⟩ :=
      ready.exists_emit_crossText (numbered key List.mem_cons_self) countable centered
    have same : middle.count = sequence.count := first.count
    rw [← same] at numbered countable
    obtain ⟨next, rest, later⟩ := ih first.ready
      (fun other listed => numbered other (List.mem_cons_of_mem _ listed)) countable
    refine ⟨next, ?_, first.trans later⟩
    rw [List.foldlM_cons, bind_eq_ok_iff]
    exact ⟨middle, emitted, rest⟩

/-- A batch of placeable views is appended. -/
theorem Ready.exists_addViews {views : List ViewId}
    (placeable : ∀ view ∈ views, sequence.builder.Placeable view)
    (countable : sequence.count + views.length < 10 ^ 30) (centered : Bool) :
    ∃ next, sequence.addViews views centered = .ok next ∧
      Advanced views.length sequence next := by
  by_cases empty : views.isEmpty
  · rw [addViews, if_pos empty, List.isEmpty_iff.1 empty]
    exact ⟨sequence, rfl, .refl ready⟩
  · obtain ⟨added, adds, first⟩ := ready.exists_foldlM_addNext placeable
    have total : added.count = sequence.count + views.length := first.count
    have numbered : ∀ key ∈ (List.range views.length).map fun i => viewKey (sequence.count + i + 1),
        Numbered added.count key := by
      intro key listed
      obtain ⟨i, inside, rfl⟩ := List.mem_map.1 listed
      have bound := List.mem_range.1 inside
      exact ⟨_, Nat.succ_pos _, by omega, rfl⟩
    obtain ⟨placed, places, second⟩ :=
      first.ready.exists_crossTexts numbered (total ▸ countable) centered
    have same : placed.count = added.count := second.count
    have filled : (List.range views.length).map (fun i => viewKey (sequence.count + i + 1)) ≠ [] := by
      rw [ne_eq, List.map_eq_nil_iff, List.range_eq_nil, List.length_eq_zero_iff]
      rwa [List.isEmpty_iff] at empty
    obtain ⟨chained, chains, third⟩ := second.ready.exists_emit_chainText sequence.axis
      sequence.count (by omega) filled (same ▸ numbered)
    have all := (first.trans second).trans third
    refine ⟨{ chained with closed := false }, ?_, ?_⟩
    · rw [addViews, if_neg empty]
      simp only [bind_eq_ok_iff]
      exact ⟨added, adds, placed, places, chained, chains, rfl⟩
    · obtain ⟨reopened, counted, still⟩ := all
      exact ⟨⟨reopened.grounded, reopened.spelled, reopened.short, reopened.free, reopened.views⟩,
        counted, still⟩

/-- A sequence with views is closed. -/
theorem Ready.exists_close (begun : sequence.count ≠ 0) :
    ∃ next, sequence.close = .ok next ∧ Advanced 0 sequence next := by
  by_cases closed : sequence.closed
  · rw [close, if_neg begun, if_pos closed]
    exact ⟨sequence, rfl, .refl ready⟩
  · obtain ⟨emitted, emits, advanced⟩ := ready.exists_emit_closingText begun
    refine ⟨{ emitted with closed := true }, ?_, ?_⟩
    · rw [close, if_neg begun, if_neg closed, bind_eq_ok_iff]
      exact ⟨emitted, emits, rfl⟩
    · obtain ⟨shut, counted, still⟩ := advanced
      exact ⟨⟨shut.grounded, shut.spelled, shut.short, shut.free, shut.views⟩, counted, still⟩

/-- Closing a sequence fails when it has no views, and with no other error. -/
theorem Ready.close_eq_error_iff {error : ConstraintError} :
    sequence.close = .error error ↔ error = .bare .emptySequence ∧ sequence.count = 0 := by
  by_cases begun : sequence.count = 0
  · rw [close, if_pos begun, Except.error.injEq, eq_comm, and_iff_left begun]
  · obtain ⟨next, closes, -⟩ := ready.exists_close begun
    rw [closes]
    simp only [reduceCtorEq, begun, and_false]

/-! ### Operations -/

/-- An operation fails only when it closes a sequence without views. -/
theorem Ready.perform_eq_error_iff {operation : Operation}
    (placeable : ∀ view ∈ operation.views, sequence.builder.Placeable view)
    (countable : sequence.count + operation.views.length < 10 ^ 30) {error : ConstraintError} :
    sequence.perform operation = .error error ↔
      error = .bare .emptySequence ∧ operation = .close ∧ sequence.count = 0 := by
  cases operation with
  | withMargins margins => simp only [perform, reduceCtorEq, false_and, and_false]
  | addViews views centered =>
    have fine : ∀ view ∈ views, sequence.builder.Placeable view := placeable
    obtain ⟨next, added, -⟩ := ready.exists_addViews fine countable centered
    simp only [perform, added, reduceCtorEq, false_and, and_false]
  | close => rw [perform, ready.close_eq_error_iff, eq_self_iff_true, true_and]

/-- An operation that goes through leaves a sequence that goes on. -/
theorem Ready.advanced_of_perform {operation : Operation}
    (placeable : ∀ view ∈ operation.views, sequence.builder.Placeable view)
    (countable : sequence.count + operation.views.length < 10 ^ 30) {next : Sequence}
    (done : sequence.perform operation = .ok next) :
    Advanced operation.views.length sequence next := by
  cases operation with
  | withMargins margins =>
    obtain rfl := Except.ok.inj done
    exact ⟨⟨ready.grounded, ready.spelled, ready.short, ready.free, ready.views⟩, rfl,
      fun _ still => still⟩
  | addViews views centered =>
    obtain ⟨reached, added, advanced⟩ := ready.exists_addViews placeable countable centered
    obtain rfl := Except.ok.inj (added.symm.trans done)
    exact advanced
  | close =>
    by_cases begun : sequence.count = 0
    · rw [perform, close, if_pos begun] at done
      contradiction
    · obtain ⟨reached, closes, advanced⟩ := ready.exists_close begun
      obtain rfl := Except.ok.inj (closes.symm.trans done)
      exact advanced

end Steps

/-! ## Runs -/

section Runs

variable {sequence : Sequence} (ready : sequence.Ready) {operations : List Operation}
  (placeable : ∀ view ∈ operations.flatMap Operation.views, sequence.builder.Placeable view)
  (countable : sequence.count + (operations.flatMap Operation.views).length < 10 ^ 30)

include ready placeable countable

/-- Operations that go through leave a sequence that goes on. -/
theorem Ready.advanced_of_run {final : Sequence} (ran : sequence.run operations = .ok final) :
    Advanced (operations.flatMap Operation.views).length sequence final := by
  induction operations generalizing sequence with
  | nil =>
    obtain rfl := Except.ok.inj ran
    exact .refl ready
  | cons operation operations ih =>
    rw [run, List.foldlM_cons, bind_eq_ok_iff] at ran
    obtain ⟨middle, performed, later⟩ := ran
    rw [List.flatMap_cons] at placeable countable ⊢
    rw [List.length_append] at countable ⊢
    have first := ready.advanced_of_perform
      (fun view listed => placeable view (List.mem_append_left _ listed)) (by omega) performed
    have rest := ih first.ready
      (fun view listed => first.placeable view (placeable view (List.mem_append_right _ listed)))
      (by rw [first.count]; omega) later
    exact first.trans rest

/-- Operations fail only where a sequence without views is closed. -/
theorem Ready.run_eq_error_iff {error : ConstraintError} :
    sequence.run operations = .error error ↔
      error = .bare .emptySequence ∧ sequence.count = 0 ∧ ∃ before after,
        operations = before ++ .close :: after ∧ before.flatMap Operation.views = [] := by
  induction operations generalizing sequence with
  | nil => simp [run, pure, Except.pure]
  | cons operation operations ih =>
    rw [List.flatMap_cons] at placeable countable
    rw [List.length_append] at countable
    have fine : ∀ view ∈ operation.views, sequence.builder.Placeable view :=
      fun view listed => placeable view (List.mem_append_left _ listed)
    have first : sequence.perform operation = .error error ↔ _ :=
      ready.perform_eq_error_iff fine (by omega)
    rw [run, List.foldlM_cons]
    cases performed : sequence.perform operation with
    | error fault =>
      -- The first operation fails: it closes a sequence without views.
      obtain ⟨rfl, rfl, empty⟩ := (ready.perform_eq_error_iff fine (by omega)).1 performed
      rw [performed] at first
      change Except.error (ConstraintError.bare .emptySequence) = Except.error error ↔ _
      rw [first]
      constructor
      · rintro ⟨rfl, -, -⟩
        exact ⟨rfl, empty, [], operations, rfl, rfl⟩
      · rintro ⟨rfl, -, -⟩
        exact ⟨rfl, rfl, empty⟩
    | ok middle =>
      have advanced := ready.advanced_of_perform fine (by omega) performed
      have later := ih advanced.ready
        (fun view listed => advanced.placeable view
          (placeable view (List.mem_append_right _ listed)))
        (by rw [advanced.count]; omega)
      change middle.run operations = .error error ↔ _
      rw [later, advanced.count]
      constructor
      · rintro ⟨rfl, empty, before, after, rfl, none⟩
        have noViews : operation.views = [] := List.length_eq_zero_iff.1 (by omega)
        refine ⟨rfl, by omega, operation :: before, after, rfl, ?_⟩
        rw [List.flatMap_cons, noViews, none, List.append_nil]
      · rintro ⟨rfl, empty, before, after, split, none⟩
        cases before with
        | nil =>
          -- The first operation would have failed.
          obtain ⟨rfl, rfl⟩ := List.cons.inj split
          rw [perform, ready.close_eq_error_iff.2 ⟨rfl, empty⟩] at performed
          contradiction
        | cons head before =>
          obtain ⟨rfl, rfl⟩ := List.cons.inj split
          rw [List.flatMap_cons, List.append_eq_nil_iff] at none
          rw [none.1, empty]
          exact ⟨rfl, rfl, before, after, rfl, none.2⟩

end Runs

/-- A new sequence is ready on a grounded builder whose parent key can be used in its texts. -/
theorem ready_new {axis : Axis} {builder : Builder} (grounded : builder.Grounded)
    (spelled : Token.WellSpelled (.ident builder.registry.parentKey))
    (short : builder.registry.parentKey.utf8ByteSize ≤ 31)
    (free : ∀ number, builder.registry.parentKey ≠ viewKey number) :
    Ready { axis, builder } := by
  refine ⟨grounded, spelled, short, free, fun number positive counted => ?_⟩
  have none : number = 0 := Nat.le_zero.1 counted
  omega

/-- A sequence never gets stuck on its own texts. It may begin with whatever a builder has become,
with any keys in use, and its views may be any that the host created, other than the container and
the views above it. Then appending a batch never fails, and closing fails exactly when no view was
appended before, with the error that says so. The keys of the views are counted with 64 bits. -/
theorem run_fails_iff_closed_empty {host : Host} {container : ViewId}
    {configuration : Configuration} {builder : Builder} {axis : Axis}
    {operations : List Operation} (forest : host.IsForest)
    (created : host.knows (.view container) = true)
    (reached : Relation.ReflTransGen Builder.Becomes (.ofHost host container configuration) builder)
    (spelled : Token.WellSpelled (.ident builder.registry.parentKey))
    (short : builder.registry.parentKey.utf8ByteSize ≤ 31)
    (free : ∀ number, builder.registry.parentKey ≠ viewKey number)
    (placeable : ∀ view ∈ operations.flatMap Operation.views, builder.Placeable view)
    (countable : (operations.flatMap Operation.views).length < 2 ^ 64) :
    (∀ error, run { axis, builder } operations = .error error ↔
      error = .bare .emptySequence ∧ ∃ before after,
        operations = before ++ .close :: after ∧ before.flatMap Operation.views = []) ∧
    ∀ sequence, run { axis, builder } operations = .ok sequence →
      (∀ views centered, (∀ view ∈ views, builder.Placeable view) →
        (operations.flatMap Operation.views).length + views.length < 2 ^ 64 →
          ∃ next, sequence.addViews views centered = .ok next) ∧
      ∀ error, sequence.close = .error error ↔
        error = .bare .emptySequence ∧ operations.flatMap Operation.views = [] := by
  have grounded := (Builder.grounded_ofHost configuration forest created).run reached
  have ready : Ready { axis, builder } := ready_new grounded spelled short free
  have total : 0 + (operations.flatMap Operation.views).length < 10 ^ 30 := by omega
  refine ⟨fun error => ?_, fun sequence ran => ?_⟩
  · rw [ready.run_eq_error_iff placeable total, eq_self_iff_true, true_and]
  · have advanced := ready.advanced_of_run placeable total ran
    have counted : sequence.count = 0 + (operations.flatMap Operation.views).length :=
      advanced.count
    constructor
    · intro views centered fine few
      obtain ⟨next, added, -⟩ := advanced.ready.exists_addViews
        (fun view listed => advanced.placeable view (fine view listed)) (by omega) centered
      exact ⟨next, added⟩
    · intro error
      rw [advanced.ready.close_eq_error_iff, counted, Nat.zero_add, List.length_eq_zero_iff]

/-- Two centered views are appended and tied to the trailing edge, where the key of the first was in
use for another view; closing first fails. -/
theorem run_fails_iff_closed_empty_two_views :
    let host := Host.grown {} [.create none, .create none, .create none]
    let start := Builder.ofHost host ⟨0⟩ {}
    let builder : Builder := { start with
      registry := { start.registry with entries := .ofList [("v1", .view ⟨2⟩)] } }
    let operations : List Operation := [.addViews [⟨1⟩, ⟨2⟩] true, .close]
    start.perform (.addUnattached "v1" ⟨2⟩) = .ok builder ∧
      (∃ final ∈ (run { axis := .vertical, builder } operations).toOption,
        final.builder.host.constraints.length = 5) ∧
      ((∀ error, run { axis := .vertical, builder } operations = .error error ↔
        error = .bare .emptySequence ∧ ∃ before after,
          operations = before ++ .close :: after ∧ before.flatMap Operation.views = []) ∧
      ∀ sequence, run { axis := .vertical, builder } operations = .ok sequence →
        (∀ views centered, (∀ view ∈ views, builder.Placeable view) →
          (operations.flatMap Operation.views).length + views.length < 2 ^ 64 →
            ∃ next, sequence.addViews views centered = .ok next) ∧
        ∀ error, sequence.close = .error error ↔
          error = .bare .emptySequence ∧ operations.flatMap Operation.views = []) := by
  intro host start builder operations
  have forest : host.IsForest := Host.isForest_grown {} _
  have reached : Relation.ReflTransGen Builder.Becomes start builder :=
    .single ⟨.addUnattached "v1" ⟨2⟩, rfl⟩
  have spelled : Token.WellSpelled (.ident builder.registry.parentKey) :=
    Token.wellSpelled_of_isIdent (by decide +kernel)
  have free (number : Nat) : builder.registry.parentKey ≠ viewKey number := by
    intro same
    have first : (viewKey number).toList.head? = some 'p' := by
      rw [← same]
      decide +kernel
    rw [toList_viewKey, List.head?_cons, Option.some.injEq] at first
    exact absurd first (by decide)
  have placeable : ∀ view ∈ operations.flatMap Operation.views, builder.Placeable view := by
    have alone (view : ViewId) (other : view ≠ ⟨0⟩) : ¬builder.host.AtOrAbove view ⟨0⟩ := by
      rw [Host.atOrAbove_iff]
      rintro (same | ⟨parent, above, -⟩)
      · exact other same.symm
      · contradiction
    intro view listed
    have among : view = ⟨1⟩ ∨ view = ⟨2⟩ := by simpa [operations, Operation.views] using listed
    rcases among with rfl | rfl
    · exact ⟨by decide, alone _ (by decide)⟩
    · exact ⟨by decide, alone _ (by decide)⟩
  refine ⟨rfl, by decide +kernel, ?_⟩
  exact run_fails_iff_closed_empty forest (by decide) reached spelled (by decide) free placeable
    (by decide)

end Sequence

end ViewLayout
