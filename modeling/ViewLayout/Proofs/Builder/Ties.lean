import ViewLayout.Proofs.Sequence.Progress
import ViewLayout.Proofs.Sequence.Stack

/-!
# Texts that tie nodes

What the host stores for a text is decided by the keys, the metrics and the nodes of a builder. The
texts applied before have no say in it, so a list of texts is applied when something is stored for
each of them, and then it is stored part by part (`addConstraints_eq_ok_iff`).

A text of a builder's own making ties nodes: what is stored for it imposes ties that can be read off
its wording, one for each in their order.
-/

namespace ViewLayout

open ViewLayout.Number ViewLayout.Chain ViewLayout.Outcome

/-- A distance has a name that can be written in a gap. -/
structure Metrics.Names (metrics : Metrics) (name : String) (distance : Binary64) : Prop where
  /-- The name is an identifier. -/
  spelled : Token.WellSpelled (.ident name)
  /-- The name is bound to the distance. -/
  bound : metrics.get? name = some distance

namespace Builder

variable {builder next : Builder} {raw : String}

/-! ## What is stored -/

/-- What the host stores when a text is applied. -/
def storedFor (builder : Builder) (raw : String) : Except ConstraintError (List Applied) := do
  let descriptors ← builder.host.compile raw builder.registry builder.metrics none
  onHost (descriptors.mapM (builder.host.resolveDescriptor builder.registry))

/-- A constraint is stored for each descriptor that a text compiles to. -/
theorem exists_compiled_of_storedFor {stored : List Applied}
    (found : builder.storedFor raw = .ok stored) :
    builder.host.compile raw builder.registry builder.metrics none =
      .ok (stored.map Applied.descriptor) ∧
    List.Forall₂ (Host.Stores builder.registry) (stored.map Applied.descriptor) stored := by
  simp only [storedFor, onHost, bind_eq_ok_iff, mapError_eq_ok_iff] at found
  obtain ⟨descriptors, compiled, resolved⟩ := found
  have stores := (mapM_eq_ok_iff.1 resolved).imp fun _ _ => stores_of_resolveDescriptor
  obtain rfl := descriptors_of_stores stores
  exact ⟨compiled, stores⟩

/-- A text is applied when something is stored for it. -/
theorem addConstraint_eq_ok_iff : builder.addConstraint raw = .ok next ↔
    ∃ stored, builder.storedFor raw = .ok stored ∧
      next = builder.withText raw (stored.map Applied.descriptor) stored := by
  constructor
  · intro done
    simp only [addConstraint_eq, bind_eq_ok_iff, Except.ok.injEq] at done
    obtain ⟨descriptors, compiled, stored, resolved, rfl⟩ := done
    have found : builder.storedFor raw = .ok stored :=
      bind_eq_ok_iff.2 ⟨descriptors, compiled, resolved⟩
    obtain ⟨same, -⟩ := exists_compiled_of_storedFor found
    obtain rfl := Except.ok.inj (compiled.symm.trans same)
    exact ⟨stored, found, rfl⟩
  · rintro ⟨stored, found, rfl⟩
    obtain ⟨same, -⟩ := exists_compiled_of_storedFor found
    obtain ⟨descriptors, compiled, resolved⟩ := bind_eq_ok_iff.1 found
    obtain rfl := Except.ok.inj (compiled.symm.trans same)
    simp only [addConstraint_eq, bind_eq_ok_iff, Except.ok.injEq]
    exact ⟨_, compiled, stored, resolved, rfl⟩

/-- The builder has become another one by storing constraints behind the older ones, a part for each
of some texts, which are applied behind the older ones. -/
structure Extended (builder : Builder) (raws : List String) (parts : List (List Applied))
    (next : Builder) : Prop where
  /-- The keys stay. -/
  registry : next.registry = builder.registry
  /-- The tree stays. -/
  tree : next.host.tree = builder.host.tree
  /-- The older constraints keep their places and are as they were. -/
  constraints : next.host.constraints = builder.host.constraints ++ parts.flatten
  /-- Each text is applied as what is stored for it, and they have the handles of all of that. -/
  applied : ∃ texts, next.applied = builder.applied ++ texts ∧ texts.map AppliedText.raw = raws ∧
    texts.map AppliedText.descriptors = parts.map (·.map Applied.descriptor) ∧
    texts.flatMap AppliedText.handles = builder.host.nextHandles parts.flatten.length

/-- Applying no text stores nothing. -/
theorem Extended.refl (builder : Builder) : builder.Extended [] [] builder :=
  ⟨rfl, rfl, (List.append_nil _).symm, [], (List.append_nil _).symm, rfl, rfl, rfl⟩

/-- The handles of constraints that are stored in two parts are those of all of them. -/
theorem nextHandles_append (host : Host) (first : List Applied) (count : Nat) :
    host.nextHandles first.length ++
        Host.nextHandles { host with constraints := host.constraints ++ first } count =
      host.nextHandles (first.length + count) := by
  simp only [Host.nextHandles, List.range_add, List.map_append, List.map_map, List.length_append,
    Function.comp_def, Nat.add_assoc]

/-- One text is applied before others. -/
theorem Extended.cons {first : List Applied} {raws : List String} {parts : List (List Applied)}
    (extended : (builder.withText raw (first.map Applied.descriptor) first).Extended raws parts
      next) :
    builder.Extended (raw :: raws) (first :: parts) next := by
  obtain ⟨registry, tree, constraints, texts, applied, rfl, descriptors, handles⟩ := extended
  let text : AppliedText := ⟨raw, first.map Applied.descriptor,
    builder.host.nextHandles (first.map Applied.descriptor).length⟩
  refine ⟨registry, tree, ?_, text :: texts, ?_, rfl, ?_, ?_⟩
  · rw [constraints, withText, List.flatten_cons, List.append_assoc]
  · rw [applied, withText, List.append_assoc]
    rfl
  · rw [List.map_cons, descriptors, List.map_cons]
  · rw [List.flatMap_cons, handles, List.flatten_cons, List.length_append, ← nextHandles_append]
    simp only [text, List.length_map, withText]

/-- Texts that are applied one after another store a part for each of them. -/
theorem exists_parts_of_addConstraints {raws : List String}
    (done : builder.addConstraints raws = .ok next) :
    ∃ parts, List.Forall₂ (fun raw part => builder.storedFor raw = .ok part) raws parts ∧
      builder.Extended raws parts next := by
  induction raws generalizing builder with
  | nil =>
    obtain rfl := Except.ok.inj done
    exact ⟨[], .nil, .refl builder⟩
  | cons raw raws ih =>
    rw [addConstraints, List.foldlM_cons, bind_eq_ok_iff] at done
    obtain ⟨middle, went, later⟩ := done
    obtain ⟨first, found, rfl⟩ := addConstraint_eq_ok_iff.1 went
    obtain ⟨parts, others, extended⟩ := ih later
    exact ⟨first :: parts, .cons found others, extended.cons⟩

/-- Texts are applied one after another when something is stored for each of them. -/
theorem exists_addConstraints_iff {raws : List String} :
    (∃ next, builder.addConstraints raws = .ok next) ↔
      ∀ raw ∈ raws, ∃ stored, builder.storedFor raw = .ok stored := by
  induction raws generalizing builder with
  | nil => exact ⟨fun _ => nofun, fun _ => ⟨builder, rfl⟩⟩
  | cons raw raws ih =>
    replace ih (builder : Builder) := @ih builder
    simp only [addConstraints, List.foldlM_cons, bind_eq_ok_iff, List.forall_mem_cons]
    constructor
    · rintro ⟨next, middle, went, later⟩
      obtain ⟨first, found, rfl⟩ := addConstraint_eq_ok_iff.1 went
      have others :=
        (ih (builder.withText raw (first.map Applied.descriptor) first)).1 ⟨next, later⟩
      exact ⟨⟨first, found⟩, others⟩
    · rintro ⟨⟨first, found⟩, others⟩
      -- What is stored for the later texts does not depend on the first one.
      obtain ⟨next, later⟩ :=
        (ih (builder.withText raw (first.map Applied.descriptor) first)).2 others
      exact ⟨next, _, addConstraint_eq_ok_iff.2 ⟨first, found, rfl⟩, later⟩

/-! ## Ties -/

/-- A text ties nodes: what is stored for it imposes ties, one for each in their order. -/
def TiesBy (builder : Builder) (raw : String) (ties : List Tie) : Prop :=
  ∃ stored, builder.storedFor raw = .ok stored ∧ List.Forall₂ Tie.ImposedBy ties stored

/-- A text that is written as a plain chain ties what its gaps mean, when its keys stand for nodes
of the host. -/
theorem tiesBy_plain {plain : Plain} {ties : List Tie}
    (spelled : ∀ name ∈ plain.names, Token.WellSpelled (.ident name))
    (written : raw.toList = Token.written plain.pieces)
    (finds : ∀ key ∈ builder.registry.parentKey :: plain.keys, builder.Finds key)
    (bound : ∀ metric ∈ plain.metrics, ∃ distance, builder.metrics.get? metric = some distance)
    (means : List.Forall₂ (Gap.Means builder.registry builder.metrics)
      (plain.gaps builder.registry.parentKey) ties) :
    builder.TiesBy raw ties := by
  obtain ⟨ds, more, went⟩ := exists_addConstraint_plain spelled written finds bound
  obtain ⟨stored, found, -⟩ := addConstraint_eq_ok_iff.1 went
  obtain ⟨compiled, stores⟩ := exists_compiled_of_storedFor found
  have stated := Gap.stated_of_set means (Constraint.set_of_compile spelled written compiled)
  refine ⟨stored, found, forall₂_comp ?_ stated stores⟩
  intro tie descriptor applied
  exact Tie.imposed_of_stores

/-- The chain from edge to edge of the container along an axis, with names for its two gaps. -/
def spanPlain (axis : Axis) (before after key : String) : Plain :=
  ⟨axis, some before, key, [], some after⟩

/-- The ties of a view to both edges of the container along an axis. -/
def spanTies (axis : Axis) (container view : ViewId) (before after : Binary64) : List Tie :=
  [⟨.view view, axis.leadingEdge, .view container, axis.leadingEdge, before⟩,
    ⟨.view container, axis.trailingEdge, .view view, axis.trailingEdge, after⟩]

/-- A text from edge to edge of the container ties the view between them to both edges. -/
theorem tiesBy_span {axis : Axis} {first last key : String} {container view : ViewId}
    {before after : Binary64} (spelled : Token.WellSpelled (.ident key))
    (parent : builder.registry.resolve builder.registry.parentKey = .ok (.view container))
    (here : builder.registry.resolve key = .ok (.view view))
    (known : builder.host.knows (.view container) = true ∧ builder.host.knows (.view view) = true)
    (begins : builder.metrics.Names first before) (ends : builder.metrics.Names last after)
    (written : raw.toList = Token.written (spanPlain axis first last key).pieces) :
    builder.TiesBy raw (spanTies axis container view before after) := by
  refine tiesBy_plain (fun name named => ?_) written (fun other listed => ?_)
    (fun metric listed => ?_) ?_
  · have among : name = first ∨ name = key ∨ name = last := by
      simpa [spanPlain, Plain.names] using named
    rcases among with rfl | rfl | rfl
    · exact begins.spelled
    · exact spelled
    · exact ends.spelled
  · rcases List.mem_cons.1 listed with rfl | among
    · exact ⟨_, parent, known.1⟩
    · obtain rfl := List.mem_singleton.1 among
      exact ⟨_, here, known.2⟩
  · have among : metric = first ∨ metric = last := by
      simpa [spanPlain, Plain.metrics] using listed
    rcases among with rfl | rfl
    · exact ⟨_, begins.bound⟩
    · exact ⟨_, ends.bound⟩
  · exact .cons ⟨here, rfl, parent, rfl, begins.bound⟩
      (.cons ⟨parent, rfl, here, rfl, ends.bound⟩ .nil)

/-- A text that is written as the equality of two anchors ties their nodes, when their keys are
short enough and stand for nodes of the host. -/
theorem tiesBy_equality {first second : Anchor} {node other : Node}
    (written : raw.toList = Token.written (Equation.equalityPieces first second))
    (spelled : Token.WellSpelled (.ident first.key) ∧ Token.WellSpelled (.ident second.key))
    (short : first.key.utf8ByteSize ≤ 31 ∧ second.key.utf8ByteSize ≤ 31)
    (one : builder.registry.resolve first.key = .ok node)
    (two : builder.registry.resolve second.key = .ok other)
    (known : builder.host.knows node = true ∧ builder.host.knows other = true) :
    builder.TiesBy raw [⟨node, first.edge, other, second.edge, 0⟩] := by
  have finds : builder.Finds first.key ∧ builder.Finds second.key :=
    ⟨⟨node, one, known.1⟩, ⟨other, two, known.2⟩⟩
  obtain ⟨ds, more, went⟩ := exists_addConstraint_equality written spelled short finds
  obtain ⟨stored, found, -⟩ := addConstraint_eq_ok_iff.1 went
  obtain ⟨compiled, stores⟩ := exists_compiled_of_storedFor found
  have only := Constraint.eq_tie_of_compile spelled.1 spelled.2 written compiled
  rw [only] at stores
  have stated : List.Forall₂ (Tie.StatedBy builder.registry)
      [⟨node, first.edge, other, second.edge, 0⟩] [.tie first second 0] :=
    .cons ⟨first.key, second.key, one, two, rfl⟩ .nil
  refine ⟨stored, found, forall₂_comp ?_ stated stores⟩
  intro tie descriptor applied
  exact Tie.imposed_of_stores

/-- Whatever is stored for a text that ties nodes imposes the ties. -/
theorem TiesBy.imposed {ties : List Tie} {stored : List Applied} (fine : builder.TiesBy raw ties)
    (found : builder.storedFor raw = .ok stored) : List.Forall₂ Tie.ImposedBy ties stored := by
  obtain ⟨other, same, imposed⟩ := fine
  obtain rfl := Except.ok.inj (same.symm.trans found)
  exact imposed

/-- Texts that tie nodes are applied one after another, and all their ties are imposed. -/
theorem exists_addConstraints_of_ties {raws : List String} {ties : List (List Tie)}
    (fine : List.Forall₂ builder.TiesBy raws ties) :
    ∃ next parts, builder.addConstraints raws = .ok next ∧ builder.Extended raws parts next ∧
      List.Forall₂ (List.Forall₂ Tie.ImposedBy) ties parts := by
  obtain ⟨next, done⟩ : ∃ next, builder.addConstraints raws = .ok next := by
    refine exists_addConstraints_iff.2 fun raw listed => ?_
    obtain ⟨_, -, stored, found, -⟩ := exists_mem_of_forall₂ fine.flip listed
    exact ⟨stored, found⟩
  obtain ⟨parts, found, extended⟩ := exists_parts_of_addConstraints done
  refine ⟨next, parts, done, extended, forall₂_comp ?_ fine.flip found⟩
  intro ties raw stored
  exact TiesBy.imposed

end Builder

end ViewLayout
