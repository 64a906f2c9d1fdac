import ViewLayout.Proofs.Builder.Priorities
import ViewLayout.Proofs.Builder.Ties
import ViewLayout.Proofs.Equation.Sides

/-!
# Pinned and centered batches

A batch places its views across the axis in one of two modes. The text that pins a view to both
edges names the container by a pipe, the one that centers it by the parent key. A pipe always stands
for the container, and the parent key does as long as it can be written in an equation: it has to be
an identifier of at most 31 bytes. So whatever is accepted centered is accepted pinned, and the
other way round for parent keys that can be written (`modes_agree`). What is not accepted fails for
the same reason in both modes, as the views are registered and chained in the same way.
-/

namespace ViewLayout

open ViewLayout.Chain ViewLayout.Outcome

namespace Builder

/-- A builder lays out a container, for which its parent key stands. -/
structure Anchored (builder : Builder) (container : ViewId) (parentKey : String) : Prop where
  /-- The key stands for the container. -/
  parent : builder.registry.container = some container
  /-- The builder lays out the container. -/
  container : builder.container = container
  /-- It has the parent key. -/
  parentKey : builder.registry.parentKey = parentKey

/-- Every change of an operation leaves the container and the parent key. -/
theorem kept_anchored (container : ViewId) (parentKey : String) :
    Kept (Anchored · container parentKey) fun _ => True where
  tree _ anchored _ := ⟨anchored.parent, anchored.container, anchored.parentKey⟩
  guide _ anchored _ := ⟨anchored.parent, anchored.container, anchored.parentKey⟩
  priorities _ anchored _ _ _ _ _ _ := ⟨anchored.parent, anchored.container, anchored.parentKey⟩
  register builder anchored key node _ next done := by
    obtain ⟨registry, registered, rfl⟩ := register_eq_ok_iff.1 done
    obtain ⟨sameKey, same, -, -⟩ := Registry.resolve_of_register registered
    exact ⟨same.trans anchored.parent, anchored.container, sameKey.trans anchored.parentKey⟩
  unregister builder anchored keys :=
    ⟨(Registry.container_unregister builder.registry keys).trans anchored.parent,
      anchored.container,
      (Registry.parentKey_unregister builder.registry keys).trans anchored.parentKey⟩
  options _ anchored _ _ := ⟨anchored.parent, anchored.container, anchored.parentKey⟩
  text builder anchored raw priority := by
    obtain ⟨constraints, applied, same⟩ := builder.exists_of_applyText raw priority
    rw [same]
    exact ⟨anchored.parent, anchored.container, anchored.parentKey⟩

/-- Whatever is done to a builder and to its host, its parent key stands for its container. -/
theorem anchored_of_evolves {host : Host} {container : ViewId} {configuration : Configuration}
    {builder : Builder}
    (reached : Relation.ReflTransGen Evolves (ofHost host container configuration) builder) :
    builder.Anchored container configuration.parentKey :=
  (kept_anchored container configuration.parentKey).evolve
    (fun _ _ anchored => ⟨anchored.parent, anchored.container, anchored.parentKey⟩)
    ⟨rfl, rfl, rfl⟩ reached

end Builder

namespace Sequence

variable {sequence next : Sequence} {views : List ViewId}

/-! ## The texts of a batch -/

/-- The keys of a number of views after those so far. -/
def nextKeys (sequence : Sequence) (size : Nat) : List String :=
  (List.range size).map fun i => viewKey (sequence.count + i + 1)

/-- The texts of a batch across the axis. -/
def acrossTexts (sequence : Sequence) (size : Nat) (centered : Bool) : List String :=
  (sequence.nextKeys size).map (sequence.crossText · centered)

/-- The text of a batch along the axis, if there are views in it. -/
def alongTexts (sequence : Sequence) (size : Nat) : List String :=
  if size = 0 then [] else [chainText sequence.axis sequence.count (sequence.nextKeys size)]

/-- Emitting texts applies them, while the margins are the metrics. -/
theorem foldlM_emit_of_measured {raws : List String}
    (measured : sequence.builder.metrics = sequence.margins.metrics) :
    raws.foldlM emit sequence = .ok next ↔
      ∃ builder, sequence.builder.addConstraints raws = .ok builder ∧
        next = { sequence with builder } := by
  induction raws generalizing sequence with
  | nil =>
    constructor
    · intro done
      obtain rfl := Except.ok.inj done
      exact ⟨_, rfl, rfl⟩
    · rintro ⟨builder, done, rfl⟩
      obtain rfl := Except.ok.inj done
      rfl
  | cons raw raws ih =>
    have same : sequence.builder.withMetrics sequence.margins.metrics = sequence.builder := by
      rw [← measured]
      rfl
    have later (stored : List Applied) :=
      @ih { sequence with
        builder := sequence.builder.withText raw (stored.map Applied.descriptor) stored } measured
    simp only [List.foldlM_cons, Builder.addConstraints, bind_eq_ok_iff, emit, same,
      Builder.addConstraint_eq_ok_iff]
    constructor
    · rintro ⟨middle, ⟨_, ⟨stored, found, rfl⟩, replaced⟩, rest⟩
      obtain rfl := Except.ok.inj replaced
      obtain ⟨builder, goes, rfl⟩ := (later stored).1 rest
      exact ⟨builder, ⟨_, ⟨stored, found, rfl⟩, goes⟩, rfl⟩
    · rintro ⟨builder, ⟨_, ⟨stored, found, rfl⟩, goes⟩, rfl⟩
      exact ⟨_, ⟨_, ⟨stored, found, rfl⟩, rfl⟩, (later stored).2 ⟨builder, goes, rfl⟩⟩

/-- Emitting texts applies them with the margins for metrics. -/
theorem foldlM_emit_eq_ok_iff {raws : List String} (filled : raws ≠ []) :
    raws.foldlM emit sequence = .ok next ↔
      ∃ builder, (sequence.builder.withMetrics sequence.margins.metrics).addConstraints raws =
          .ok builder ∧
        next = { sequence with builder } := by
  let measured : Sequence :=
    { sequence with builder := sequence.builder.withMetrics sequence.margins.metrics }
  -- The first text sets the metrics, whatever they were.
  have same : raws.foldlM emit sequence = raws.foldlM emit measured := by
    obtain ⟨raw, more, rfl⟩ := List.exists_cons_of_ne_nil filled
    rw [List.foldlM_cons, List.foldlM_cons]
    rfl
  have applies : raws.foldlM emit measured = .ok next ↔ _ := foldlM_emit_of_measured rfl
  rw [same, applies]

/-- The texts of a batch across the axis are emitted one after another. -/
theorem foldlM_crossTexts (sequence : Sequence) (keys : List String) (centered : Bool) :
    keys.foldlM (fun s key => s.emit (s.crossText key centered)) sequence =
      (keys.map (sequence.crossText · centered)).foldlM emit sequence := by
  induction keys generalizing sequence with
  | nil => rfl
  | cons key keys ih =>
    rw [List.foldlM_cons, List.map_cons, List.foldlM_cons]
    cases emits : sequence.emit (sequence.crossText key centered) with
    | error error => rfl
    | ok middle =>
      obtain ⟨builder, applied, replaced⟩ := bind_eq_ok_iff.1 emits
      obtain rfl := Except.ok.inj replaced
      obtain ⟨stored, -, rfl⟩ := Builder.addConstraint_eq_ok_iff.1 applied
      exact ih _

/-- The text across the axis is written with the axis and the parent key. -/
theorem Registered.crossText {after : Sequence} (registered : Registered sequence views after)
    (key : String) (centered : Bool) :
    after.crossText key centered = sequence.crossText key centered := by
  unfold Sequence.crossText
  rw [registered.axis, registered.parentKey]

/-- The texts of a batch are emitted one after another. -/
theorem Registered.foldlM_emit {added : Sequence} (registered : Registered sequence views added)
    (filled : views.length ≠ 0) (centered : Bool) :
    ((sequence.nextKeys views.length).foldlM
        (fun s key => s.emit (s.crossText key centered)) added >>= fun placed =>
      placed.emit (chainText sequence.axis sequence.count (sequence.nextKeys views.length))) =
    (sequence.acrossTexts views.length centered ++ sequence.alongTexts views.length).foldlM emit
      added := by
  rw [foldlM_crossTexts, alongTexts, if_neg filled, List.foldlM_append, acrossTexts]
  simp only [registered.crossText, List.foldlM_cons, List.foldlM_nil, bind_pure]

/-- A batch is appended by registering its views and applying its texts, with the margins for
metrics. -/
theorem addViews_eq_ok_iff (filled : views.length ≠ 0) {centered : Bool} :
    sequence.addViews views centered = .ok next ↔
      ∃ added, Registered sequence views added ∧ views.foldlM addNext sequence = .ok added ∧
        ∃ builder, (added.builder.withMetrics sequence.margins.metrics).addConstraints
            (sequence.acrossTexts views.length centered ++ sequence.alongTexts views.length) =
              .ok builder ∧
          next = { added with builder, closed := false } := by
  have texts :
      sequence.acrossTexts views.length centered ++ sequence.alongTexts views.length ≠ [] := by
    simp [alongTexts, filled]
  have unempty : ¬views.isEmpty = true := by
    rwa [List.isEmpty_iff, ← List.length_eq_zero_iff]
  rw [addViews, if_neg unempty]
  constructor
  · intro done
    obtain ⟨added, adds, rest⟩ := bind_eq_ok_iff.1 done
    obtain ⟨placed, places, rest⟩ := bind_eq_ok_iff.1 rest
    obtain ⟨chained, chains, replaced⟩ := bind_eq_ok_iff.1 rest
    have registered := registered_of_foldlM adds
    have emitted := (registered.foldlM_emit filled centered).symm.trans
      (bind_eq_ok_iff.2 ⟨placed, places, chains⟩)
    obtain ⟨builder, applied, rfl⟩ := (foldlM_emit_eq_ok_iff texts).1 emitted
    obtain rfl := Except.ok.inj replaced
    rw [registered.margins] at applied
    exact ⟨added, registered, adds, builder, applied, rfl⟩
  · rintro ⟨added, registered, adds, builder, applied, rfl⟩
    rw [← registered.margins] at applied
    have emitted := (registered.foldlM_emit filled centered).trans
      ((foldlM_emit_eq_ok_iff texts).2 ⟨builder, applied, rfl⟩)
    obtain ⟨placed, places, chains⟩ := bind_eq_ok_iff.1 emitted
    exact bind_eq_ok_iff.2 ⟨added, adds, bind_eq_ok_iff.2 ⟨placed, places,
      bind_eq_ok_iff.2 ⟨_, chains, rfl⟩⟩⟩

/-! ## The texts across the axis -/

/-- A key can be written in an equation. -/
structure Writable (key : String) : Prop where
  /-- It is an identifier. -/
  spelled : Token.WellSpelled (.ident key)
  /-- It is not too long. -/
  short : key.utf8ByteSize ≤ 31

/-- In a builder with the margins of a sequence for metrics, a key stands for a view and the parent
key for the container, both of which the host created. -/
structure Beside (sequence : Sequence) (builder : Builder) (key : String) (view : ViewId) :
    Prop where
  /-- The margins are the metrics. -/
  metrics : builder.metrics = sequence.margins.metrics
  /-- The parent key is that of the sequence. -/
  parentKey : builder.registry.parentKey = sequence.builder.registry.parentKey
  /-- It stands for the container. -/
  container : builder.registry.resolve builder.registry.parentKey =
    .ok (.view sequence.builder.container)
  /-- The host created the container. -/
  knowsContainer : builder.host.knows (.view sequence.builder.container) = true
  /-- The key can be written in an equation. -/
  writable : Writable key
  /-- It stands for the view. -/
  here : builder.registry.resolve key = .ok (.view view)
  /-- The host created the view. -/
  knowsView : builder.host.knows (.view view) = true

namespace Beside

variable {builder : Builder} {key : String} {view : ViewId}
  (beside : Beside sequence builder key view)

include beside

/-- The text that pins the view ties it to both edges of the container. -/
theorem tiesBy_pinned : builder.TiesBy (sequence.crossText key false)
    (crossTies sequence.axis sequence.builder.container ⟨view, sequence.margins, false⟩) := by
  have sides : builder.metrics.Names Margins.sidesKey sequence.margins.sides := by
    rw [beside.metrics]
    exact ⟨Margins.wellSpelled_keys (.inr (.inl rfl)), sequence.margins.get?_sidesKey⟩
  exact Builder.tiesBy_span beside.writable.spelled beside.container beside.here
    ⟨beside.knowsContainer, beside.knowsView⟩ sides sides (sequence.toList_crossText key)

/-- The text that centers the view ties it to the center of the container, when the parent key can
be written. -/
theorem tiesBy_centered (writable : Writable sequence.builder.registry.parentKey) :
    builder.TiesBy (sequence.crossText key true)
      (crossTies sequence.axis sequence.builder.container ⟨view, sequence.margins, true⟩) := by
  have container := beside.container
  rw [beside.parentKey] at container
  exact Builder.tiesBy_equality (sequence.toList_crossText_centered key)
    ⟨writable.spelled, beside.writable.spelled⟩ ⟨writable.short, beside.writable.short⟩ container
    beside.here ⟨beside.knowsContainer, beside.knowsView⟩

/-- The text across the axis ties the view to the container, when the parent key can be written or
need not be. -/
theorem tiesBy {centered : Bool}
    (writable : centered = true → Writable sequence.builder.registry.parentKey) :
    builder.TiesBy (sequence.crossText key centered)
      (crossTies sequence.axis sequence.builder.container ⟨view, sequence.margins, centered⟩) := by
  cases centered with
  | false => exact beside.tiesBy_pinned
  | true => exact beside.tiesBy_centered (writable rfl)

end Beside

/-- A text that centers a view is applied only when the parent key can be written, spaces before it
aside. -/
theorem writable_of_centered {builder : Builder} {key : String} {stored : List Applied}
    (spelled : Token.WellSpelled (.ident key))
    (tight : sequence.builder.registry.parentKey.toList.head? ≠ some ' ')
    (found : builder.storedFor (sequence.crossText key true) = .ok stored) :
    Writable sequence.builder.registry.parentKey := by
  obtain ⟨compiled, -⟩ := Builder.exists_compiled_of_storedFor found
  simp only [Host.compile, Constraint.compile, Constraint.descriptors,
    Constraint.isEquation_of_equality (sequence.toList_crossText_centered key), if_true,
    map_eq_ok_iff] at compiled
  obtain ⟨_, ⟨descriptor, compiled, -⟩, -⟩ := compiled
  obtain ⟨spaces, item, itemSpelled, given⟩ := Equation.exists_key_of_compile spelled compiled
  cases spaces with
  | succ spaces =>
    rw [given] at tight
    exact absurd rfl tight
  | zero =>
    obtain rfl : sequence.builder.registry.parentKey = item := String.toList_inj.1 given
    obtain ⟨⟨-, short⟩, -⟩ := Equation.Wording.known_of_compile
      (Equation.Wording.spells_equality itemSpelled spelled)
      (Equation.toList_equated_of_key given) compiled
    exact ⟨itemSpelled, short⟩

/-! ## Appending -/

/-- A batch is appended: for each of its views, in their order, a part is stored across the axis
that imposes the ties of the view to the container, and behind them is stored what the views are
chained with. -/
structure Appended (sequence : Sequence) (views : List ViewId) (centered : Bool)
    (across along : List (List Applied)) (next : Sequence) : Prop where
  /-- The parts are stored behind the older constraints. -/
  constraints : next.builder.host.constraints =
    sequence.builder.host.constraints ++ (across ++ along).flatten
  /-- The texts of the batch are applied as these parts. -/
  applied : ∃ texts, next.builder.applied = sequence.builder.applied ++ texts ∧
    texts.map AppliedText.raw =
      sequence.acrossTexts views.length centered ++ sequence.alongTexts views.length ∧
    texts.map AppliedText.descriptors = (across ++ along).map (·.map Applied.descriptor)
  /-- Across the axis, each view is tied to the container and to nothing else. -/
  ties : List.Forall₂ (fun view part => List.Forall₂ Tie.ImposedBy
    (crossTies sequence.axis sequence.builder.container ⟨view, sequence.margins, centered⟩) part)
    views across

section Appending

variable (parent : sequence.builder.registry.container = some sequence.builder.container)
  (countable : sequence.count + views.length < 2 ^ 64)

include parent countable

/-- Every view of a batch has its key next to the container. -/
theorem Registered.forall₂_beside {added : Sequence}
    (registered : Registered sequence views added) :
    List.Forall₂ (Beside sequence (added.builder.withMetrics sequence.margins.metrics))
      (sequence.nextKeys views.length) views := by
  rw [List.forall₂_iff_get]
  refine ⟨by simp [nextKeys], fun i inside here => ?_⟩
  simp only [nextKeys, List.get_eq_getElem, List.getElem_map, List.getElem_range]
  obtain ⟨view, container⟩ := registered.created _ (List.getElem_mem here)
  have resolved : added.builder.registry.resolve added.builder.registry.parentKey =
      .ok (.view sequence.builder.container) := by
    unfold Registry.resolve
    rw [if_pos rfl, registered.parent, parent]
  exact {
    metrics := rfl
    parentKey := registered.parentKey
    container := resolved
    knowsContainer := (registered.knows _).trans container
    writable := ⟨wellSpelled_viewKey _, viewKey_short (by omega)⟩
    here := registered.keys i _ (List.getElem?_eq_getElem here)
    knowsView := (registered.knows _).trans view }

/-- The texts of a batch across the axis tie its views to the container. -/
theorem Registered.tiesBy_acrossTexts {added : Sequence}
    (registered : Registered sequence views added) {centered : Bool}
    (writable : centered = true → Writable sequence.builder.registry.parentKey) :
    List.Forall₂ (added.builder.withMetrics sequence.margins.metrics).TiesBy
      (sequence.acrossTexts views.length centered)
      (views.map fun view => crossTies sequence.axis sequence.builder.container
        ⟨view, sequence.margins, centered⟩) := by
  refine List.forall₂_map_left_iff.2 (List.forall₂_map_right_iff.2 ?_)
  exact (registered.forall₂_beside parent countable).imp fun _ _ beside => beside.tiesBy writable

/-- A batch that is accepted is appended, in a mode in which the parent key can be written or need
not be. -/
theorem exists_appended {centered : Bool}
    (writable : centered = true → views ≠ [] → Writable sequence.builder.registry.parentKey)
    (done : sequence.addViews views centered = .ok next) :
    ∃ across along, Appended sequence views centered across along next := by
  by_cases filled : views.length = 0
  · obtain rfl := List.length_eq_zero_iff.1 filled
    obtain rfl := Except.ok.inj done
    exact ⟨[], [], (List.append_nil _).symm, ⟨[], (List.append_nil _).symm, rfl, rfl⟩, .nil⟩
  · obtain ⟨added, registered, -, builder, applied, rfl⟩ := (addViews_eq_ok_iff filled).1 done
    have some : views ≠ [] := fun empty => filled (by rw [empty]; rfl)
    have fine := registered.tiesBy_acrossTexts parent countable fun mode => writable mode some
    obtain ⟨parts, found, -, -, constraints, texts, appliedTexts, raws, descriptors, -⟩ :=
      Builder.exists_parts_of_addConstraints applied
    -- The first parts are those of the texts across the axis.
    have across := List.forall₂_take_append _ _ _ found.flip
    have whole := List.take_append_drop (sequence.acrossTexts views.length centered).length parts
    rw [← whole] at constraints descriptors
    refine ⟨_, _, ?_, ⟨texts, ?_, raws, descriptors⟩, ?_⟩
    · exact constraints.trans (congrArg (· ++ _) registered.constraints)
    · exact appliedTexts.trans (congrArg (· ++ _) registered.applied)
    · refine List.forall₂_map_left_iff.1 (forall₂_comp ?_ fine.flip across.flip)
      intro ties raw stored
      exact Builder.TiesBy.imposed

omit parent countable in
/-- A batch with views is accepted when its views can be registered and something is stored for each
of its texts. -/
theorem exists_addViews_iff (filled : views.length ≠ 0) {centered : Bool} :
    (∃ next, sequence.addViews views centered = .ok next) ↔
      ∃ added, Registered sequence views added ∧ views.foldlM addNext sequence = .ok added ∧
        (∀ raw ∈ sequence.acrossTexts views.length centered, ∃ stored,
          (added.builder.withMetrics sequence.margins.metrics).storedFor raw = .ok stored) ∧
        ∀ raw ∈ sequence.alongTexts views.length, ∃ stored,
          (added.builder.withMetrics sequence.margins.metrics).storedFor raw = .ok stored := by
  constructor
  · rintro ⟨next, done⟩
    obtain ⟨added, registered, adds, builder, applied, -⟩ := (addViews_eq_ok_iff filled).1 done
    have stored := Builder.exists_addConstraints_iff.1 ⟨builder, applied⟩
    exact ⟨added, registered, adds, List.forall_mem_append.1 stored⟩
  · rintro ⟨added, registered, adds, stored⟩
    obtain ⟨builder, applied⟩ :=
      Builder.exists_addConstraints_iff.2 (List.forall_mem_append.2 stored)
    exact ⟨_, (addViews_eq_ok_iff filled).2 ⟨added, registered, adds, builder, applied, rfl⟩⟩

/-- Something is stored for each text of a batch across the axis, in a mode in which the parent key
can be written or need not be. -/
theorem Registered.exists_storedFor {added : Sequence}
    (registered : Registered sequence views added) (centered : Bool)
    (writable : centered = true → Writable sequence.builder.registry.parentKey) :
    ∀ raw ∈ sequence.acrossTexts views.length centered, ∃ stored,
      (added.builder.withMetrics sequence.margins.metrics).storedFor raw = .ok stored := by
  intro raw listed
  obtain ⟨_, -, stored, found, -⟩ := exists_mem_of_forall₂
    (registered.tiesBy_acrossTexts parent countable writable).flip listed
  exact ⟨stored, found⟩

/-- What is accepted centered is accepted pinned. -/
theorem exists_addViews_pinned (filled : views.length ≠ 0)
    (accepted : ∃ next, sequence.addViews views true = .ok next) :
    ∃ next, sequence.addViews views false = .ok next := by
  obtain ⟨added, registered, adds, -, along⟩ := (exists_addViews_iff filled).1 accepted
  have across := registered.exists_storedFor parent countable false nofun
  exact (exists_addViews_iff filled).2 ⟨added, registered, adds, across, along⟩

/-- What is accepted pinned is accepted centered if the parent key can be written, and only then,
but for parent keys that begin with a space. -/
theorem exists_addViews_centered_iff (filled : views.length ≠ 0)
    (tight : sequence.builder.registry.parentKey.toList.head? ≠ some ' ') :
    (∃ next, sequence.addViews views true = .ok next) ↔
      (∃ next, sequence.addViews views false = .ok next) ∧
        Writable sequence.builder.registry.parentKey := by
  constructor
  · intro accepted
    refine ⟨exists_addViews_pinned parent countable filled accepted, ?_⟩
    obtain ⟨added, -, -, across, -⟩ := (exists_addViews_iff filled).1 accepted
    have first : viewKey (sequence.count + 0 + 1) ∈ sequence.nextKeys views.length :=
      List.mem_map_of_mem (List.mem_range.2 (Nat.pos_of_ne_zero filled))
    obtain ⟨stored, found⟩ := across _ (List.mem_map_of_mem first)
    exact writable_of_centered (wellSpelled_viewKey _) tight found
  · rintro ⟨accepted, writable⟩
    obtain ⟨added, registered, adds, -, along⟩ := (exists_addViews_iff filled).1 accepted
    have across := registered.exists_storedFor parent countable true fun _ => writable
    exact (exists_addViews_iff filled).2 ⟨added, registered, adds, across, along⟩

end Appending

/-- The two modes of a batch agree where the parent key can be written. Whatever was done to a
builder and its host and then to a sequence on it, and whatever the views: what is accepted centered
is accepted pinned, and a pinned batch ties its views in their order to the container and to no
other view. Unless the parent key begins with a space, what is accepted pinned is accepted centered
if the key is an identifier of at most 31 bytes, and otherwise only if there are no views; and what
is accepted centered ties its views in their order to the container and to no other view. -/
theorem modes_agree {host : Host} {container : ViewId} {configuration : Configuration}
    {builder : Builder} {axis : Axis} {operations : List Operation}
    (reached :
      Relation.ReflTransGen Builder.Evolves (.ofHost host container configuration) builder)
    (ran : run { axis, builder } operations = .ok sequence)
    (countable : sequence.count + views.length < 2 ^ 64) :
    sequence.builder.container = container ∧
      sequence.builder.registry.parentKey = configuration.parentKey ∧
      ((∃ next, sequence.addViews views true = .ok next) →
        ∃ next, sequence.addViews views false = .ok next) ∧
      (∀ next, sequence.addViews views false = .ok next →
        ∃ across along, Appended sequence views false across along next) ∧
      (configuration.parentKey.toList.head? ≠ some ' ' →
        ((∃ next, sequence.addViews views true = .ok next) ↔
          (∃ next, sequence.addViews views false = .ok next) ∧
            (views = [] ∨ Writable configuration.parentKey)) ∧
        ∀ next, sequence.addViews views true = .ok next →
          ∃ across along, Appended sequence views true across along next) := by
  have stacked : builder.perform (.stack axis operations) = .ok sequence.builder :=
    map_eq_ok_iff.2 ⟨sequence, ran, rfl⟩
  obtain ⟨parent, here, parentKey⟩ :=
    Builder.anchored_of_evolves (reached.tail (.inl ⟨_, stacked⟩))
  rw [← here] at parent
  rw [← parentKey]
  refine ⟨here, rfl, ?_, fun next done => exists_appended parent countable nofun done, ?_⟩
  · intro accepted
    by_cases filled : views.length = 0
    · obtain rfl := List.length_eq_zero_iff.1 filled
      exact ⟨sequence, rfl⟩
    · exact exists_addViews_pinned parent countable filled accepted
  · intro tight
    have agree : (∃ next, sequence.addViews views true = .ok next) ↔
        (∃ next, sequence.addViews views false = .ok next) ∧
          (views = [] ∨ Writable sequence.builder.registry.parentKey) := by
      by_cases filled : views.length = 0
      · obtain rfl := List.length_eq_zero_iff.1 filled
        exact ⟨fun _ => ⟨⟨sequence, rfl⟩, .inl rfl⟩, fun _ => ⟨sequence, rfl⟩⟩
      · rw [← List.length_eq_zero_iff, or_iff_right filled]
        exact exists_addViews_centered_iff parent countable filled tight
    refine ⟨agree, fun next done => exists_appended parent countable (fun _ some => ?_) done⟩
    exact (agree.1 ⟨next, done⟩).2.resolve_left some

/-- After a pinned batch with margins, two views are accepted pinned, and so they are centered and
tied to the container. -/
theorem modes_agree_after_batch :
    let builder := Builder.ofHost (Host.grown {} (List.replicate 4 (.create none))) ⟨0⟩ {}
    let operations : List Operation := [.withMargins ⟨20, 10, 5⟩, .addViews [⟨1⟩] false]
    ∃ sequence, run { axis := .vertical, builder } operations = .ok sequence ∧
      (∃ next, sequence.addViews [⟨2⟩, ⟨3⟩] false = .ok next ∧
        ∃ across along, Appended sequence [⟨2⟩, ⟨3⟩] false across along next) ∧
      ∃ next, sequence.addViews [⟨2⟩, ⟨3⟩] true = .ok next ∧
        ∃ across along, Appended sequence [⟨2⟩, ⟨3⟩] true across along next := by
  intro builder operations
  have checked : ∃ sequence ∈ (run { axis := .vertical, builder } operations).toOption,
      sequence.count = 1 ∧ (sequence.addViews [⟨2⟩, ⟨3⟩] false).toOption.isSome := by
    decide +kernel
  obtain ⟨sequence, found, count, accepted⟩ := checked
  have ran := eq_ok_of_toOption found
  obtain ⟨pinned, accepts⟩ := Option.isSome_iff_exists.1 accepted
  have appends := eq_ok_of_toOption accepts
  have countable : sequence.count + [ViewId.mk 2, ⟨3⟩].length < 2 ^ 64 := by
    rw [count]
    decide
  obtain ⟨-, -, -, pins, centers⟩ := modes_agree .refl ran countable
  obtain ⟨agree, ties⟩ := centers (by decide +kernel)
  obtain ⟨centered, goes⟩ := agree.2
    ⟨⟨pinned, appends⟩, .inr ⟨Token.wellSpelled_of_isIdent (by decide +kernel), by decide⟩⟩
  exact ⟨sequence, ran, ⟨pinned, appends, pins pinned appends⟩, centered, goes, ties centered goes⟩

/-- With a parent key that is no identifier, a view is accepted pinned and not centered. With one
that begins with a space, it is accepted centered and tied to another view, for which the rest of
the key stands. -/
theorem exists_modes_disagree :
    let host := Host.grown {} (List.replicate 3 (.create none))
    let spaced : Sequence :=
      { axis := .vertical, builder := .ofHost host ⟨0⟩ { parentKey := "the window" } }
    (∃ next, spaced.addViews [⟨1⟩] false = .ok next) ∧
    (¬∃ next, spaced.addViews [⟨1⟩] true = .ok next) ∧
    ∃ next, ((Builder.ofHost host ⟨0⟩ { parentKey := " box" }).perform (.addUnattached "box" ⟨2⟩) >>=
        fun builder => addViews { axis := .vertical, builder } [⟨1⟩] true) = .ok next ∧
      next.builder.host.constraints.head?.map (·.first) = some (.view ⟨2⟩) := by
  intro host spaced
  have pinned : (spaced.addViews [⟨1⟩] false).toOption.isSome := by decide +kernel
  have centered : (spaced.addViews [⟨1⟩] true).toOption.isNone := by decide +kernel
  refine ⟨?_, ?_, ?_⟩
  · obtain ⟨next, found⟩ := Option.isSome_iff_exists.1 pinned
    exact ⟨next, eq_ok_of_toOption found⟩
  · rintro ⟨next, accepted⟩
    rw [accepted] at centered
    contradiction
  · have checked : ∃ next ∈ ((Builder.ofHost host ⟨0⟩ { parentKey := " box" }).perform
          (.addUnattached "box" ⟨2⟩) >>=
        fun builder => addViews { axis := .vertical, builder } [⟨1⟩] true).toOption,
        next.builder.host.constraints.head?.map (·.first) = some (.view ⟨2⟩) := by
      decide +kernel
    obtain ⟨next, found, tied⟩ := checked
    exact ⟨next, eq_ok_of_toOption found, tied⟩

end Sequence

end ViewLayout
