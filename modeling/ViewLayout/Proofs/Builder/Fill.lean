import ViewLayout.Proofs.Builder.Priorities
import ViewLayout.Proofs.Builder.Ties

/-!
# A view that fills its container

Filling registers a view under the default key, puts it into the container and applies two chains,
one along each axis. The chains have the four insets for gaps, under the names of the edges, and run
from edge to edge of the container or, once guides are in use, from guide to guide along the
vertical axis.

The two chains tie the four edges of the view (`fillTies`), so frames that satisfy them put the view
where the insets say. Nothing else about the builder matters: the metrics are replaced, the default
key is bound anew, and what is stored already stays as it is.
-/

namespace ViewLayout

open ViewLayout.Number ViewLayout.Chain ViewLayout.Outcome

namespace Insets

/-- The insets are finite, with these values. -/
structure Reads (insets : Insets) (left right top bottom : Rat) : Prop where
  /-- The value of the left inset. -/
  left : insets.left.toRat? = some left
  /-- The value of the right inset. -/
  right : insets.right.toRat? = some right
  /-- The value of the top inset. -/
  top : insets.top.toRat? = some top
  /-- The value of the bottom inset. -/
  bottom : insets.bottom.toRat? = some bottom

variable (insets : Insets)

/-- The name of the left edge. -/
theorem names_left : insets.metrics.Names "left" insets.left :=
  ⟨Token.wellSpelled_of_isIdent (by decide), by simp [metrics, KeyMap.ofList, KeyMap.get?_insert]⟩

/-- The name of the right edge. -/
theorem names_right : insets.metrics.Names "right" insets.right :=
  ⟨Token.wellSpelled_of_isIdent (by decide), by simp [metrics, KeyMap.ofList, KeyMap.get?_insert]⟩

/-- The name of the top edge. -/
theorem names_top : insets.metrics.Names "top" insets.top :=
  ⟨Token.wellSpelled_of_isIdent (by decide), by simp [metrics, KeyMap.ofList, KeyMap.get?_insert]⟩

/-- The name of the bottom edge. -/
theorem names_bottom : insets.metrics.Names "bottom" insets.bottom :=
  ⟨Token.wellSpelled_of_isIdent (by decide), by simp [metrics, KeyMap.ofList, KeyMap.get?_insert]⟩

end Insets

namespace Builder

/-! ## The two chains -/

/-- The chain from guide to guide. -/
def guidePlain (key : String) : Plain :=
  ⟨.vertical, none, topGuideKey, [("top", key), ("bottom", bottomGuideKey)], none⟩

/-- The chains of filling. -/
def fillPlains (key : String) (hasGuides : Bool) : List Plain :=
  [spanPlain .horizontal "left" "right" key,
    if hasGuides then guidePlain key else spanPlain .vertical "top" "bottom" key]

/-- The texts of filling are written as its chains. -/
theorem written_fillTexts (key : String) (hasGuides : Bool) :
    List.Forall₂ (fun raw plain => raw.toList = Token.written plain.pieces)
      (fillTexts key hasGuides) (fillPlains key hasGuides) := by
  cases hasGuides <;>
    simp [fillTexts, fillPlains, spanPlain, guidePlain, topGuideKey, bottomGuideKey, Axis.tag,
      Plain.pieces, Plain.viewPieces, Plain.gapPieces, Plain.stepPieces, Token.written, Token.text,
      Mark.text]

/-- The ties of a view to the nodes between which it lies from the top to the bottom. -/
def guideTies (upper lower : Node) (view : ViewId) (before after : Binary64) : List Tie :=
  [⟨.view view, .top, upper, .bottom, before⟩, ⟨lower, .top, .view view, .bottom, after⟩]

/-- The ties of filling, those of each chain. -/
def fillTies (container view : ViewId) (upper lower : Node) (insets : Insets) (hasGuides : Bool) :
    List (List Tie) :=
  [spanTies .horizontal container view insets.left insets.right,
    if hasGuides then guideTies upper lower view insets.top insets.bottom
    else spanTies .vertical container view insets.top insets.bottom]

/-! ## Filling goes through -/

variable {builder next : Builder} {raw : String} {view : ViewId} {insets : Insets}

/-- Whatever is done to a grounded builder and to its host, it stays grounded. -/
theorem Grounded.evolve {later : Builder} (grounded : builder.Grounded)
    (reached : Relation.ReflTransGen Evolves builder later) : later.Grounded := by
  refine kept_grounded.evolve (fun builder call grounded => ?_) grounded reached
  cases call with
  | tree step => exact grounded.withStep step
  | createGuide frame => exact grounded.withTree rfl
  | setContentPriority view priority axis kind =>
    exact grounded.withTree (Host.tree_setContentPriority _ view priority axis kind)
  | apply registry descriptors =>
    exact grounded.withTree (Host.applySteps_keeps_tree registry descriptors _)

/-- The guide keys can be used to fill: they stand for two nodes that the host created, and the
default key is neither of them. -/
structure Guided (builder : Builder) (upper lower : Node) : Prop where
  /-- What the key of the guide at the top stands for. -/
  resolvesUpper : builder.registry.resolve topGuideKey = .ok upper
  /-- What the key of the guide at the bottom stands for. -/
  resolvesLower : builder.registry.resolve bottomGuideKey = .ok lower
  /-- The host created the first. -/
  knowsUpper : builder.host.knows upper = true
  /-- The host created the second. -/
  knowsLower : builder.host.knows lower = true
  /-- The default key is not the first key. -/
  apartUpper : builder.configuration.defaultKey ≠ topGuideKey
  /-- The default key is not the second key. -/
  apartLower : builder.configuration.defaultKey ≠ bottomGuideKey

/-- Once guides that the host created are in use, their keys can be used to fill. -/
theorem guided_of_useGuides {above below : GuideId}
    (used : builder.useGuides above below = .ok next)
    (knowsAbove : builder.host.knows (.guide above) = true)
    (knowsBelow : builder.host.knows (.guide below) = true)
    (apart : builder.configuration.defaultKey ∉ [topGuideKey, bottomGuideKey]) :
    next.Guided (.guide above) (.guide below) := by
  obtain ⟨first, begins, rest⟩ := bind_eq_ok_iff.1 used
  obtain ⟨second, ends, replaced⟩ := bind_eq_ok_iff.1 rest
  obtain rfl := Except.ok.inj replaced
  obtain ⟨registry, registered, rfl⟩ := register_eq_ok_iff.1 begins
  obtain ⟨later, registeredBelow, rfl⟩ := register_eq_ok_iff.1 ends
  obtain ⟨-, -, upper, -⟩ := Registry.resolve_of_register registered
  obtain ⟨-, -, lower, others⟩ := Registry.resolve_of_register registeredBelow
  simp only [List.mem_cons, List.not_mem_nil, or_false, not_or] at apart
  exact ⟨others _ _ (by decide) upper, lower, knowsAbove, knowsBelow, apart.1, apart.2⟩

/-- The builder has become one in which a view is registered under the default key and put into the
container, and in which constraints are stored behind the older ones, for the two texts of
filling. -/
structure Filled (builder : Builder) (view : ViewId) (stored : List Applied) (next : Builder) :
    Prop where
  /-- The default key stands for the view. -/
  key : next.registry.resolve builder.configuration.defaultKey = .ok (.view view)
  /-- The view is in the container. -/
  parent : next.host.parent? view = some builder.container
  /-- The older constraints keep their places and are as they were. -/
  constraints : next.host.constraints = builder.host.constraints ++ stored
  /-- The texts are applied behind the older ones, as what is stored and with its handles. -/
  applied : ∃ texts, next.applied = builder.applied ++ texts ∧
    texts.map AppliedText.raw = fillTexts builder.configuration.defaultKey builder.hasGuides ∧
    texts.flatMap AppliedText.descriptors = stored.map Applied.descriptor ∧
    texts.flatMap AppliedText.handles = builder.host.nextHandles stored.length

/-- A builder in which a view was added under the default key and the insets are the metrics. -/
structure Prepared (builder : Builder) (view : ViewId) (insets : Insets) (next : Builder) :
    Prop where
  /-- Filling goes on with the texts, whatever the metrics were. -/
  goesOn : ∀ metrics, (builder.withMetrics metrics).fill view insets =
    next.addConstraints (fillTexts builder.configuration.defaultKey builder.hasGuides)
  /-- The insets are the metrics. -/
  metrics : next.metrics = insets.metrics
  /-- The applied texts stay. -/
  applied : next.applied = builder.applied
  /-- The stored constraints stay. -/
  constraints : next.host.constraints = builder.host.constraints
  /-- The view is in the container. -/
  parent : next.host.parent? view = some builder.container
  /-- The host created the nodes it had created. -/
  knows : ∀ node, next.host.knows node = builder.host.knows node
  /-- The default key stands for the view. -/
  key : next.registry.resolve builder.configuration.defaultKey = .ok (.view view)
  /-- The parent key stands for the container. -/
  container : next.registry.resolve next.registry.parentKey = .ok (.view builder.container)
  /-- Any other key stands for what it stood for. -/
  others : ∀ other node, other ≠ builder.configuration.defaultKey →
    builder.registry.resolve other = .ok node → next.registry.resolve other = .ok node

/-- A placeable view can be added under a key that is not the parent key. -/
theorem Grounded.exists_prepared (grounded : builder.Grounded)
    (free : builder.configuration.defaultKey ≠ builder.registry.parentKey)
    (placeable : builder.Placeable view) (insets : Insets) :
    ∃ next, builder.Prepared view insets next := by
  obtain ⟨registry, registered⟩ : ∃ registry, builder.registry.register
      builder.configuration.defaultKey (.view view) = .ok registry :=
    ⟨_, Registry.register_eq_ok_iff.2 ⟨free, rfl⟩⟩
  have attached := placeable.attach grounded
  have inventory := Host.inventory_of_attach attached
  obtain ⟨parentKey, container, here, others⟩ := Registry.resolve_of_register registered
  let next : Builder := { builder with
    registry, host := builder.host.reattached builder.container view, metrics := insets.metrics }
  refine ⟨next, ?_, rfl, rfl, Host.constraints_of_inventory inventory, ?_,
    Host.knows_of_inventory inventory, here, ?_, others⟩
  · intro metrics
    have added : (builder.withMetrics metrics).addView builder.configuration.defaultKey view =
        .ok { builder.withMetrics metrics with
          registry, host := builder.host.reattached builder.container view } :=
      addView_eq_ok_iff.2 ⟨registry, _, registered, attached, rfl⟩
    calc (builder.withMetrics metrics).fill view insets
        = ((builder.withMetrics metrics).addView builder.configuration.defaultKey view >>=
            fun added => (added.withMetrics insets.metrics).addConstraints
              (fillTexts builder.configuration.defaultKey added.hasGuides)) := rfl
      _ = next.addConstraints (fillTexts builder.configuration.defaultKey builder.hasGuides) := by
        rw [added]
        rfl
  · rw [Host.parent?_reattached _ _ _ placeable.1, if_pos rfl]
  · unfold Registry.resolve
    rw [if_pos rfl, container, grounded.parent]

section Texts

variable {upper lower : Node} (prepared : builder.Prepared view insets next)
  (grounded : builder.Grounded) (placeable : builder.Placeable view)
  (spelled : Token.WellSpelled (.ident builder.configuration.defaultKey))

include prepared grounded placeable

/-- The parent key and the default key stand for nodes of the host. -/
theorem Prepared.finds : next.Finds next.registry.parentKey ∧
    next.Finds builder.configuration.defaultKey :=
  ⟨⟨_, prepared.container, (prepared.knows _).trans grounded.created⟩,
    ⟨_, prepared.key, (prepared.knows _).trans placeable.1⟩⟩

include spelled

/-- A text from edge to edge of the container ties the view to both edges. -/
theorem Prepared.tiesBy_span {axis : Axis} {first last : String} {before after : Binary64}
    (begins : insets.metrics.Names first before) (ends : insets.metrics.Names last after)
    (written : raw.toList =
      Token.written (spanPlain axis first last builder.configuration.defaultKey).pieces) :
    next.TiesBy raw (spanTies axis builder.container view before after) := by
  have known : next.host.knows (.view builder.container) = true ∧
      next.host.knows (.view view) = true :=
    ⟨(prepared.knows _).trans grounded.created, (prepared.knows _).trans placeable.1⟩
  rw [← prepared.metrics] at begins ends
  exact Builder.tiesBy_span spelled prepared.container prepared.key known begins ends written

/-- The text from guide to guide ties the view to both guides. -/
theorem Prepared.tiesBy_guides (guided : builder.Guided upper lower)
    (written : raw.toList = Token.written (guidePlain builder.configuration.defaultKey).pieces) :
    next.TiesBy raw (guideTies upper lower view insets.top insets.bottom) := by
  obtain ⟨parent, here⟩ := prepared.finds grounded placeable
  have above := prepared.others _ _ guided.apartUpper.symm guided.resolvesUpper
  have below := prepared.others _ _ guided.apartLower.symm guided.resolvesLower
  refine tiesBy_plain (fun name named => ?_) written (fun key listed => ?_)
    (fun metric listed => ?_) ?_
  · have among : name = topGuideKey ∨ name = "top" ∨ name = builder.configuration.defaultKey ∨
        name = "bottom" ∨ name = bottomGuideKey := by
      simpa [guidePlain, Plain.names] using named
    rcases among with rfl | rfl | rfl | rfl | rfl
    · exact Token.wellSpelled_of_isIdent (by decide)
    · exact insets.names_top.spelled
    · exact spelled
    · exact insets.names_bottom.spelled
    · exact Token.wellSpelled_of_isIdent (by decide)
  · have among : key = next.registry.parentKey ∨ key = topGuideKey ∨
        key = builder.configuration.defaultKey ∨ key = bottomGuideKey := by
      simpa [guidePlain, Plain.keys] using listed
    rcases among with rfl | rfl | rfl | rfl
    · exact parent
    · exact ⟨upper, above, (prepared.knows _).trans guided.knowsUpper⟩
    · exact here
    · exact ⟨lower, below, (prepared.knows _).trans guided.knowsLower⟩
  · have among : metric = "top" ∨ metric = "bottom" := by
      simpa [guidePlain, Plain.metrics] using listed
    rw [prepared.metrics]
    rcases among with rfl | rfl
    · exact ⟨_, insets.names_top.bound⟩
    · exact ⟨_, insets.names_bottom.bound⟩
  · rw [prepared.metrics]
    exact .cons ⟨prepared.key, rfl, above, rfl, insets.names_top.bound⟩
      (.cons ⟨below, rfl, prepared.key, rfl, insets.names_bottom.bound⟩ .nil)

/-- The texts of filling tie the view to the container, or to the guides. -/
theorem Prepared.tiesBy_fillTexts
    (guided : builder.hasGuides = true → builder.Guided upper lower) :
    List.Forall₂ next.TiesBy (fillTexts builder.configuration.defaultKey builder.hasGuides)
      (fillTies builder.container view upper lower insets builder.hasGuides) := by
  cases mode : builder.hasGuides with
  | false =>
    obtain _ | ⟨across, _ | ⟨down, -⟩⟩ := written_fillTexts builder.configuration.defaultKey false
    have left := prepared.tiesBy_span grounded placeable spelled insets.names_left
      insets.names_right across
    have top := prepared.tiesBy_span grounded placeable spelled insets.names_top
      insets.names_bottom down
    exact .cons left (.cons top .nil)
  | true =>
    obtain _ | ⟨across, _ | ⟨down, -⟩⟩ := written_fillTexts builder.configuration.defaultKey true
    have left := prepared.tiesBy_span grounded placeable spelled insets.names_left
      insets.names_right across
    have between := prepared.tiesBy_guides grounded placeable spelled (guided mode) down
    exact .cons left (.cons between .nil)

end Texts

/-- A placeable view fills the container of a grounded builder. -/
theorem Grounded.exists_filled {upper lower : Node} (grounded : builder.Grounded)
    (spelled : Token.WellSpelled (.ident builder.configuration.defaultKey))
    (free : builder.configuration.defaultKey ≠ builder.registry.parentKey)
    (guided : builder.hasGuides = true → builder.Guided upper lower)
    (placeable : builder.Placeable view) (insets : Insets) :
    ∃ next stored, (∀ metrics, (builder.withMetrics metrics).fill view insets = .ok next) ∧
      builder.Filled view stored next ∧
      List.Forall₂ Tie.ImposedBy
        (fillTies builder.container view upper lower insets builder.hasGuides).flatten stored := by
  obtain ⟨middle, prepared⟩ := grounded.exists_prepared free placeable insets
  have fine := prepared.tiesBy_fillTexts grounded placeable spelled guided
  obtain ⟨next, parts, went, extended, imposed⟩ := exists_addConstraints_of_ties fine
  obtain ⟨registry, tree, constraints, texts, applied, raws, descriptors, handles⟩ := extended
  refine ⟨next, parts.flatten, fun metrics => (prepared.goesOn metrics).trans went,
    ⟨?_, ?_, ?_, texts, ?_, raws, ?_, ?_⟩, List.rel_flatten imposed⟩
  · rw [registry, prepared.key]
  · rw [Host.parent?_of_tree tree, prepared.parent]
  · rw [constraints, prepared.constraints]
  · rw [applied, prepared.applied]
  · rw [List.flatMap_def, descriptors, List.map_flatten]
  · rw [handles, Host.nextHandles, Host.nextHandles, prepared.constraints]

/-! ## Where the view is -/

section Frames

variable {upper lower : Node} {container : ViewId} {frames : Node → Frame Rat}
  {left right top bottom width height : Rat}
  (reads : insets.Reads left right top bottom)
  (origin : frames (.view container) = ⟨0, 0, width, height⟩)

/-- A distance between edges is the value of the inset that ties them. -/
theorem edge_of_tie {tie : Tie} {distance : Rat} (finite : tie.distance.toRat? = some distance)
    (held : tie.Holds frames) :
    (frames tie.first).edge tie.firstEdge =
      (frames tie.second).edge tie.secondEdge + distance := by
  obtain ⟨value, read, equal⟩ := held
  obtain rfl := Option.some.inj (finite.symm.trans read)
  exact equal

/-- Frames that hold both ties to a container along an axis keep the view at the distances from its
edges. -/
theorem span_of_ties {axis : Axis} {before after : Binary64} {first last : Rat}
    (begins : before.toRat? = some first) (ends : after.toRat? = some last)
    (held : ∀ tie ∈ spanTies axis container view before after, tie.Holds frames) :
    (frames (.view view)).edge axis.leadingEdge =
        (frames (.view container)).edge axis.leadingEdge + first ∧
      (frames (.view view)).edge axis.trailingEdge =
        (frames (.view container)).edge axis.trailingEdge - last := by
  simp only [spanTies, List.forall_mem_cons] at held
  obtain ⟨leads, trails, -⟩ := held
  have trailing := edge_of_tie ends trails
  exact ⟨edge_of_tie begins leads, eq_sub_of_add_eq trailing.symm⟩

include reads in
/-- Frames that hold both ties to guides keep the view at the insets from them. -/
theorem between_of_ties
    (held : ∀ tie ∈ guideTies upper lower view insets.top insets.bottom, tie.Holds frames) :
    (frames (.view view)).y = (frames upper).bottom + top ∧
      (frames (.view view)).bottom = (frames lower).y - bottom := by
  simp only [guideTies, List.forall_mem_cons] at held
  obtain ⟨above, below, -⟩ := held
  have trailing := edge_of_tie reads.bottom below
  exact ⟨edge_of_tie reads.top above, eq_sub_of_add_eq trailing.symm⟩

include reads origin in
/-- Frames that satisfy what filling has stored, with the container at the origin, put the view
where the insets say. -/
theorem placed_of_fillTies {hasGuides : Bool}
    (held : ∀ tie ∈ (fillTies container view upper lower insets hasGuides).flatten,
      tie.Holds frames) :
    (frames (.view view)).x = left ∧ (frames (.view view)).right = width - right ∧
      (hasGuides = false →
        (frames (.view view)).y = top ∧ (frames (.view view)).bottom = height - bottom) ∧
      (hasGuides = true →
        (frames (.view view)).y = (frames upper).bottom + top ∧
        (frames (.view view)).bottom = (frames lower).y - bottom) := by
  simp only [fillTies, List.flatten_cons, List.flatten_nil, List.append_nil,
    List.forall_mem_append] at held
  obtain ⟨across, down⟩ := held
  obtain ⟨x, right⟩ := span_of_ties reads.left reads.right across
  simp only [origin, Frame.edge, Axis.leadingEdge, Axis.trailingEdge, zero_add] at x right
  refine ⟨x, right, ?_, ?_⟩
  · rintro rfl
    obtain ⟨y, below⟩ := span_of_ties reads.top reads.bottom down
    simp only [origin, Frame.edge, Axis.leadingEdge, Axis.trailingEdge, zero_add] at y below
    exact ⟨y, below⟩
  · rintro rfl
    exact between_of_ties reads down

end Frames

/-! ## Filling fills -/

/-- Filling fills. Whatever calls made a host, and whatever was done to a builder on it and to that
host since, a view that can be put into the container fills it: filling goes through, behind what is
stored already, and whatever the metrics were. Then frames that satisfy what the two new texts have
stored, with the container at the origin, keep the left and the right edge of the view at the insets
from those of the container. So they do with the top and the bottom edge or, with guides in use,
with the bottom edge of the upper guide and the top edge of the lower one. -/
theorem fill_fills_container {configuration options : Configuration} {calls : List Host.Call}
    {container : ViewId} {builder : Builder} {upper lower : Node} {view : ViewId} {insets : Insets}
    {left right top bottom : Rat}
    (created : (Host.reached configuration calls).knows (.view container) = true)
    (reached : Relation.ReflTransGen Evolves
      (ofHost (Host.reached configuration calls) container options) builder)
    (spelled : Token.WellSpelled (.ident builder.configuration.defaultKey))
    (free : builder.configuration.defaultKey ≠ builder.registry.parentKey)
    (guided : builder.hasGuides = true → builder.Guided upper lower)
    (placeable : builder.Placeable view) (reads : insets.Reads left right top bottom) :
    ∃ next stored, builder.fill view insets = .ok next ∧
      (∀ metrics, (builder.withMetrics metrics).fill view insets = .ok next) ∧
      builder.Filled view stored next ∧
      ∀ (frames : Node → Frame Rat) (width height : Rat),
        frames (.view builder.container) = ⟨0, 0, width, height⟩ →
        (∀ applied ∈ stored, applied.Holds frames) →
        (frames (.view view)).x = left ∧ (frames (.view view)).right = width - right ∧
        (builder.hasGuides = false →
          (frames (.view view)).y = top ∧ (frames (.view view)).bottom = height - bottom) ∧
        (builder.hasGuides = true →
          (frames (.view view)).y = (frames upper).bottom + top ∧
          (frames (.view view)).bottom = (frames lower).y - bottom) := by
  have forest := Host.isForest_reached configuration calls
  have grounded := (grounded_ofHost options forest created).evolve reached
  obtain ⟨next, stored, goes, filled, imposed⟩ :=
    grounded.exists_filled spelled free guided placeable insets
  refine ⟨next, stored, goes builder.metrics, goes, filled, ?_⟩
  intro frames width height origin held
  refine placed_of_fillTies reads origin fun tie made => ?_
  obtain ⟨applied, present, imposes⟩ := exists_mem_of_forall₂ imposed.flip made
  exact Tie.holds_of_imposed imposes (held applied present)

/-- A view lies between two guides, with a different inset on every side: in a container of
width 100 its left edge is at 2 and its right edge at 96, and it reaches from 20 + 1 to 180 - 3. -/
theorem fill_fills_container_guides :
    let host := Host.reached {} [.tree (.create none), .tree (.create none),
      .createGuide ⟨0, 0, 100, 20⟩, .createGuide ⟨0, 180, 100, 20⟩]
    let insets : Insets := { top := 1, left := 2, bottom := 3, right := 4 }
    let frames : Node → Frame Rat
      | .view ⟨0⟩ => ⟨0, 0, 100, 200⟩
      | .view _ => ⟨2, 21, 94, 156⟩
      | .guide ⟨0⟩ => ⟨0, 0, 100, 20⟩
      | .guide _ => ⟨0, 180, 100, 20⟩
    ∃ builder, (ofHost host ⟨0⟩ {}).perform (.useGuides ⟨0⟩ ⟨1⟩) = .ok builder ∧
      (∃ next ∈ (builder.fill ⟨1⟩ insets).toOption,
        ∀ applied ∈ next.host.constraints, applied.Holds frames) ∧
      ∃ next stored, builder.fill ⟨1⟩ insets = .ok next ∧
        (∀ metrics, (builder.withMetrics metrics).fill ⟨1⟩ insets = .ok next) ∧
        builder.Filled ⟨1⟩ stored next ∧
        ∀ (frames : Node → Frame Rat) (width height : Rat),
          frames (.view builder.container) = ⟨0, 0, width, height⟩ →
          (∀ applied ∈ stored, applied.Holds frames) →
          (frames (.view ⟨1⟩)).x = 2 ∧ (frames (.view ⟨1⟩)).right = width - 4 ∧
          (builder.hasGuides = false →
            (frames (.view ⟨1⟩)).y = 1 ∧ (frames (.view ⟨1⟩)).bottom = height - 3) ∧
          (builder.hasGuides = true →
            (frames (.view ⟨1⟩)).y = (frames (.guide ⟨0⟩)).bottom + 1 ∧
            (frames (.view ⟨1⟩)).bottom = (frames (.guide ⟨1⟩)).y - 3) := by
  intro host insets frames
  have step : (ofHost host ⟨0⟩ {}).perform (.useGuides ⟨0⟩ ⟨1⟩) = .ok _ := rfl
  refine ⟨_, step, by decide +kernel, ?_⟩
  have placeable : Placeable (ofHost host ⟨0⟩ {}) ⟨1⟩ := by
    refine ⟨by decide, ?_⟩
    rw [Host.atOrAbove_iff]
    rintro (same | ⟨parent, above, -⟩)
    · exact absurd same (by decide)
    · contradiction
  have reads : insets.Reads 2 4 1 3 :=
    ⟨by decide +kernel, by decide +kernel, by decide +kernel, by decide +kernel⟩
  exact fill_fills_container (by decide) (.single (.inl ⟨_, step⟩))
    (Token.wellSpelled_of_isIdent (by decide +kernel)) (by decide)
    (fun _ => guided_of_useGuides step (by decide) (by decide) (by decide)) placeable reads

end Builder

end ViewLayout
