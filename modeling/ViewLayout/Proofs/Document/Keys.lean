import ViewLayout.Document.Solve
import ViewLayout.Proofs.Builder.Applying
import ViewLayout.Proofs.Host.Layout
import ViewLayout.Proofs.KeyMap

/-!
# What the keys of a document stand for

Building a document registers its guides, then its views, and then the views of its sequence under
numbered keys, all in one registry. A key that is registered again stands for its last node
(`Registry.Logs`), so a declared key stands for the node of its last declaration, where views come
after guides. The numbered keys of the sequence are registered over declared ones.
-/

namespace ViewLayout

open ViewLayout.Number ViewLayout.Outcome

/-! ## Registrations in order -/

/-- A registry holds what was registered, in the order in which it was. -/
structure Registry.Logs (registry : Registry) (bindings : List (String × Node)) : Prop where
  /-- The entries are those that the bindings lead to. -/
  entries : registry.entries = .ofList bindings
  /-- The parent key was never registered. -/
  free : ∀ binding ∈ bindings, binding.1 ≠ registry.parentKey

namespace Registry.Logs

variable {registry after : Registry} {bindings : List (String × Node)}

/-- Registering a node adds a binding. -/
theorem register (logs : registry.Logs bindings) {key : String} {node : Node}
    (done : registry.register key node = .ok after) : after.Logs (bindings ++ [(key, node)]) := by
  obtain ⟨free, rfl⟩ := register_eq_ok_iff.1 done
  constructor
  case entries =>
    rw [KeyMap.ofList_concat, ← logs.entries]
  case free =>
    intro binding listed
    rcases List.mem_append.1 listed with earlier | last
    · exact logs.free binding earlier
    · obtain rfl := List.mem_singleton.1 last
      exact free

/-- A key stands for the node of its last binding. -/
theorem resolve_of_last {before later : List (String × Node)} {i : Nat} {key : String} {node : Node}
    (logs : registry.Logs (before ++ bindings ++ later)) (bound : bindings[i]? = some (key, node))
    (absent : key ∉ (bindings.map (·.1)).drop (i + 1)) (untouched : key ∉ later.map (·.1)) :
    key ≠ registry.parentKey ∧ registry.resolve key = .ok node := by
  have listed : (key, node) ∈ before ++ bindings ++ later :=
    List.mem_append_left _ (List.mem_append_right _ (List.mem_of_getElem? bound))
  have free := logs.free _ listed
  refine ⟨free, ?_⟩
  rw [resolve, if_neg free, logs.entries, KeyMap.get?_ofList_append _ untouched,
    KeyMap.get?_ofList_of_last _ bound absent]

end Registry.Logs

/-- Each bound key stands for its node. -/
def Registry.ResolvesAll (registry : Registry) (bindings : List (String × Node)) : Prop :=
  ∀ binding ∈ bindings, registry.resolve binding.1 = .ok binding.2

instance (registry : Registry) (bindings : List (String × Node)) :
    Decidable (registry.ResolvesAll bindings) :=
  inferInstanceAs (Decidable (∀ binding ∈ bindings, _))

/-- A key that stands for a view is among the keys of the views. -/
theorem Registry.mem_viewKeys_of_resolve (registry : Registry) {key : String} {view : ViewId}
    (free : key ≠ registry.parentKey) (stands : registry.resolve key = .ok (.view view)) :
    key ∈ registry.viewKeys := by
  rw [resolve, if_neg free] at stands
  split at stands
  · rename_i node bound
    obtain rfl := Except.ok.inj stands
    obtain ⟨entry, found, same⟩ := Option.map_eq_some_iff.1 bound
    refine List.mem_filterMap.2 ⟨entry, List.mem_of_find?_eq_some found, ?_⟩
    have here : entry.1 = key := by simpa using List.find?_some found
    rw [same, here]
    rfl
  · contradiction

/-! ## Steps of building -/

namespace Builder

variable {builder next : Builder} {bindings : List (String × Node)}

/-- Registering a node of a builder adds a binding. -/
theorem logs_of_register (logs : builder.registry.Logs bindings) {key : String} {node : Node}
    (done : builder.register key node = .ok next) :
    next.registry.Logs (bindings ++ [(key, node)]) := by
  obtain ⟨registry, registered, rfl⟩ := register_eq_ok_iff.1 done
  exact logs.register registered

/-- Adding a view adds a binding. -/
theorem logs_of_addView (logs : builder.registry.Logs bindings) {key : String} {view : ViewId}
    (done : builder.addView key view = .ok next) :
    next.registry.Logs (bindings ++ [(key, .view view)]) := by
  obtain ⟨registry, host, registered, -, rfl⟩ := addView_eq_ok_iff.1 done
  exact logs.register registered

/-- Applying a text registers nothing. -/
theorem registry_of_addConstraint {raw : String} {priority : Option Priority}
    (done : builder.addConstraint raw priority = .ok next) : next.registry = builder.registry := by
  obtain ⟨ds, stored, -, -, rfl⟩ := exists_stores_of_addConstraint done
  rfl

/-- Setting a content priority registers nothing. -/
theorem registry_of_setContentPriority {key : String} {priority : Priority} {axis : Axis}
    {kind : ContentPriority}
    (done : builder.setContentPriority key priority axis kind = .ok next) :
    next.registry = builder.registry := by
  obtain ⟨view, -, rest⟩ := bind_eq_ok_iff.1 done
  obtain ⟨host, -, replaced⟩ := bind_eq_ok_iff.1 rest
  obtain rfl := Except.ok.inj replaced
  rfl

end Builder

namespace Sequence

/-- The keys of the first views of a sequence. -/
def numberedKeys (count : Nat) : List String := (List.range count).map fun i => viewKey (i + 1)

/-- A sequence has registered a number of views under numbered keys, after what was registered
before it. -/
structure Numbers (earlier : List (String × Node)) (sequence : Sequence) (count : Nat) : Prop where
  /-- The views are counted. -/
  counted : sequence.count = count
  /-- The keys of the views were registered last. -/
  logs : ∃ numbered, numbered.map (·.1) = numberedKeys count ∧
    sequence.builder.registry.Logs (earlier ++ numbered)

namespace Numbers

variable {earlier : List (String × Node)} {sequence next : Sequence} {count : Nat}
  (numbers : Numbers earlier sequence count)

include numbers

/-- Adding a view registers the next numbered key. -/
theorem addNext {view : ViewId} (done : sequence.addNext view = .ok next) :
    Numbers earlier next (count + 1) := by
  obtain ⟨builder, added, replaced⟩ := bind_eq_ok_iff.1 done
  obtain rfl := Except.ok.inj replaced
  obtain ⟨rfl, numbered, keys, logs⟩ := numbers
  have more := Builder.logs_of_addView logs added
  rw [List.append_assoc] at more
  refine ⟨rfl, _, ?_, more⟩
  rw [List.map_append, keys, numberedKeys, numberedKeys, List.range_succ, List.map_append]
  rfl

/-- Emitting a text registers nothing. -/
theorem emit {raw : String} (done : sequence.emit raw = .ok next) : Numbers earlier next count := by
  obtain ⟨builder, applied, replaced⟩ := bind_eq_ok_iff.1 done
  obtain rfl := Except.ok.inj replaced
  obtain ⟨counted, numbered, keys, logs⟩ := numbers
  have still : builder.registry.Logs (earlier ++ numbered) := by
    rw [Builder.registry_of_addConstraint applied]
    exact logs
  exact ⟨counted, numbered, keys, still⟩

/-- A batch registers as many keys as it has views. -/
theorem addViews {views : List ViewId} {centered : Bool}
    (done : sequence.addViews views centered = .ok next) :
    Numbers earlier next (count + views.length) := by
  unfold Sequence.addViews at done
  split at done
  · rename_i empty
    obtain rfl := Except.ok.inj done
    rw [List.isEmpty_iff.1 empty]
    exact numbers
  · dsimp only at done
    obtain ⟨added, adds, rest⟩ := bind_eq_ok_iff.1 done
    obtain ⟨placed, crosses, rest⟩ := bind_eq_ok_iff.1 rest
    obtain ⟨chained, chains, replaced⟩ := bind_eq_ok_iff.1 rest
    obtain rfl := Except.ok.inj replaced
    have first : Numbers earlier added (count + views.length) :=
      foldlM_collects (fun passed sequence => Numbers earlier sequence (count + passed.length))
        (fun before state here view _ after stepped => by
          rw [List.length_append, ← Nat.add_assoc]
          exact here.addNext stepped)
        numbers adds
    have second : Numbers earlier placed (count + views.length) :=
      foldlM_keeps (fun sequence => Numbers earlier sequence (count + views.length))
        (fun _ here _ _ _ stepped => here.emit stepped) first crosses
    obtain ⟨counted, logs⟩ := second.emit chains
    exact ⟨counted, logs⟩

/-- Closing registers nothing. -/
theorem close (done : sequence.close = .ok next) : Numbers earlier next count := by
  unfold Sequence.close at done
  split at done
  · contradiction
  · split at done
    · obtain rfl := Except.ok.inj done
      exact numbers
    · obtain ⟨emitted, emits, replaced⟩ := bind_eq_ok_iff.1 done
      obtain rfl := Except.ok.inj replaced
      obtain ⟨counted, logs⟩ := numbers.emit emits
      exact ⟨counted, logs⟩

end Numbers

end Sequence

/-! ## The keys of a document -/

namespace Document

/-- The views that are created for the views of a document, in their order. -/
def createdViews (document : Document) : List ViewId :=
  let host := ((Host.ofConfiguration document.configuration).createView none).1
  (createEach (fun host view => host.createView view.size) host document.views).2

/-- The guides that are created for the guides of a document, in their order. -/
def createdGuides (document : Document) : List GuideId :=
  let host := ((Host.ofConfiguration document.configuration).createView none).1
  let (host, _) := createEach (fun host view => host.createView view.size) host document.views
  (createEach (fun host guide => host.createGuide guide.frame) host document.guides).2

/-- The keys that the sequence of a document gives to its views, one for each name in a batch. -/
def generatedKeys (document : Document) : List String :=
  match document.sequence with
  | some declaration => Sequence.numberedKeys (declaration.batches.flatMap Batch.keys).length
  | none => []

/-- The keys of declarations with the nodes that were created for them. -/
def bindings {α ι : Type} (key : α → String) (node : ι → Node) (declarations : List α)
    (created : List ι) : List (String × Node) :=
  (declarations.zip created).map fun entry => (key entry.1, node entry.2)

/-- The declared guides with their keys. -/
def guideBindings (document : Document) : List (String × Node) :=
  bindings GuideDeclaration.key .guide document.guides document.createdGuides

/-- The views of a document with those that were created for them. -/
def declared (document : Document) : List DeclaredView :=
  document.views.zip document.createdViews

/-- The declared views with their keys. -/
def viewBindings (document : Document) : List (String × Node) :=
  bindings ViewDeclaration.key .view document.views document.createdViews

/-- A view is the last declaration of its key. -/
def IsLastView (document : Document) (i : Nat) (declaration : ViewDeclaration) : Prop :=
  document.views[i]? = some declaration ∧
    ∀ later ∈ document.views.drop (i + 1), later.key ≠ declaration.key

/-- A guide is the last declaration of its key, and no view is declared with the key. -/
def IsLastGuide (document : Document) (i : Nat) (declaration : GuideDeclaration) : Prop :=
  document.guides[i]? = some declaration ∧
    (∀ later ∈ document.guides.drop (i + 1), later.key ≠ declaration.key) ∧
    ∀ view ∈ document.views, view.key ≠ declaration.key

/-! ### Building -/

/-- One node is created for each declaration. -/
theorem length_createEach {α ι : Type} (create : Host → α → Host × ι) (host : Host)
    (declarations : List α) :
    (createEach create host declarations).2.length = declarations.length := by
  induction declarations generalizing host with
  | nil => rfl
  | cons first rest ih => exact congrArg (· + 1) (ih (create host first).1)

/-- Placing a declared view adds its binding. -/
theorem logs_of_place {parentKey : String} {declared : List DeclaredView} {builder next : Builder}
    {bindings : List (String × Node)} (logs : builder.registry.Logs bindings)
    {entry : DeclaredView} (done : place parentKey declared builder entry = .ok next) :
    next.registry.Logs (bindings ++ [(entry.1.key, .view entry.2)]) := by
  obtain ⟨declaration, view⟩ := entry
  unfold place at done
  dsimp only at done
  split at done
  · exact Builder.logs_of_addView logs (mapError_eq_ok_iff.1 done)
  · split at done
    · contradiction
    · obtain ⟨registered, registers, rest⟩ := bind_eq_ok_iff.1 done
      obtain ⟨host, -, replaced⟩ := bind_eq_ok_iff.1 rest
      obtain rfl := Except.ok.inj replaced
      have first := Builder.logs_of_register logs (mapError_eq_ok_iff.1 registers)
      exact first

/-- Setting the content priorities of a view registers nothing. -/
theorem registry_of_prioritizeView {declaration : ViewDeclaration} {builder next : Builder}
    (done : prioritizeView builder declaration = .ok next) : next.registry = builder.registry := by
  have kind {kind : ContentPriority} {key : String} {priorities : PerAxis (Option Priority)}
      {before after : Builder} (set : prioritize kind key priorities before = .ok after) :
      after.registry = before.registry := by
    refine foldlM_keeps (fun builder => builder.registry = before.registry) ?_ rfl set
    intro state same axis _ next stepped
    split at stepped
    · exact (Builder.registry_of_setContentPriority stepped).trans same
    · obtain rfl := Except.ok.inj stepped
      exact same
  obtain ⟨hugged, hugs, resists⟩ := bind_eq_ok_iff.1 done
  exact (kind resists).trans (kind hugs)

/-- The sequence of a document registers its numbered keys. -/
theorem logs_of_buildSequence {parentKey : String} {declared : List DeclaredView}
    {declaration : SequenceDeclaration} {builder next : Builder} {bindings : List (String × Node)}
    (logs : builder.registry.Logs bindings)
    (done : buildSequence parentKey declared declaration builder = .ok next) :
    ∃ numbered, numbered.map (·.1) =
        Sequence.numberedKeys (declaration.batches.flatMap Batch.keys).length ∧
      next.registry.Logs (bindings ++ numbered) := by
  obtain ⟨stacked, appends, rest⟩ := bind_eq_ok_iff.1 done
  have begun : Sequence.Numbers bindings
      { axis := declaration.axis, builder, margins := declaration.margins } 0 :=
    ⟨rfl, [], rfl, by rwa [List.append_nil]⟩
  have batches :
      Sequence.Numbers bindings stacked (declaration.batches.flatMap Batch.keys).length := by
    refine foldlM_collects (fun passed sequence =>
      Sequence.Numbers bindings sequence (passed.flatMap Batch.keys).length) ?_ begun appends
    intro passed sequence numbers batch _ after stepped
    obtain ⟨views, found, added⟩ := bind_eq_ok_iff.1 stepped
    have size := (mapM_eq_ok_iff.1 found).length_eq
    rw [List.flatMap_append, List.length_append, List.flatMap_singleton, size]
    exact numbers.addViews (mapError_eq_ok_iff.1 added)
  dsimp only at rest
  split at rest
  · obtain ⟨ended, ends, replaced⟩ := bind_eq_ok_iff.1 rest
    obtain rfl := Except.ok.inj replaced
    exact (batches.close (mapError_eq_ok_iff.1 ends)).logs
  · obtain rfl := Except.ok.inj rest
    exact batches.logs

/-- A document is built in stages: guides, views, content priorities, texts and the sequence. -/
theorem stages_of_build {document : Document} {builder : Builder}
    (built : document.build = .ok builder) :
    ∃ empty guided placed weighted applied : Builder,
      empty.registry.Logs [] ∧
      empty.addGuides ((document.guides.map (·.key)).zip document.createdGuides) = .ok guided ∧
      document.declared.foldlM (place document.configuration.parentKey document.declared) guided =
        .ok placed ∧
      document.views.foldlM prioritizeView placed = .ok weighted ∧
      document.constraints.foldlM (fun builder text => builder.addConstraint text.raw text.priority)
        (weighted.withMetrics document.metrics) = .ok applied ∧
      match document.sequence with
      | some declaration =>
        buildSequence document.configuration.parentKey document.declared declaration applied =
          .ok builder
      | none => applied = builder := by
  obtain ⟨guided, guides, rest⟩ := bind_eq_ok_iff.1 built
  obtain ⟨placed, places, rest⟩ := bind_eq_ok_iff.1 rest
  obtain ⟨weighted, weighs, rest⟩ := bind_eq_ok_iff.1 rest
  obtain ⟨applied, applies, rest⟩ := bind_eq_ok_iff.1 rest
  refine ⟨_, guided, placed, weighted, applied, ⟨rfl, nofun⟩, mapError_eq_ok_iff.1 guides, places,
    mapError_eq_ok_iff.1 weighs, mapError_eq_ok_iff.1 applies, ?_⟩
  cases sequence : document.sequence with
  | some declaration =>
    rw [sequence] at rest
    exact rest
  | none =>
    rw [sequence] at rest
    exact Except.ok.inj rest

/-- A document that is built registers its guides, then its views, then the numbered keys of its
sequence. -/
theorem exists_logs_of_build {document : Document} {builder : Builder}
    (built : document.build = .ok builder) :
    ∃ numbered, numbered.map (·.1) = document.generatedKeys ∧
      builder.registry.Logs (document.guideBindings ++ document.viewBindings ++ numbered) := by
  obtain ⟨empty, guided, placed, weighted, applied, begun, guides, places, weighs, applies, rest⟩ :=
    stages_of_build built
  have afterGuides : guided.registry.Logs document.guideBindings := by
    have keyed : document.guideBindings =
        ((document.guides.map (·.key)).zip document.createdGuides).map
          fun entry => (entry.1, .guide entry.2) := by
      rw [List.zip_map_left, List.map_map]
      rfl
    rw [keyed]
    refine foldlM_collects (fun passed builder =>
      builder.registry.Logs (passed.map fun entry => (entry.1, .guide entry.2))) ?_ begun guides
    intro passed state logs entry _ next registers
    rw [List.map_append]
    exact Builder.logs_of_register logs registers
  have afterViews : placed.registry.Logs (document.guideBindings ++ document.viewBindings) := by
    rw [← List.append_nil document.guideBindings] at afterGuides
    refine foldlM_collects (fun passed builder =>
      builder.registry.Logs (document.guideBindings ++
        passed.map fun entry => (entry.1.key, .view entry.2))) ?_ afterGuides places
    intro passed state logs entry _ next stepped
    rw [List.map_append, ← List.append_assoc]
    exact logs_of_place logs stepped
  have sameWeighted : weighted.registry = placed.registry := by
    refine foldlM_keeps (fun builder => builder.registry = placed.registry) ?_ rfl weighs
    intro state same declaration _ next stepped
    exact (registry_of_prioritizeView stepped).trans same
  have sameApplied : applied.registry = placed.registry := by
    refine foldlM_keeps (fun builder => builder.registry = placed.registry) ?_ sameWeighted applies
    intro state same text _ next stepped
    exact (Builder.registry_of_addConstraint stepped).trans same
  have afterTexts : applied.registry.Logs (document.guideBindings ++ document.viewBindings) := by
    rw [sameApplied]
    exact afterViews
  unfold generatedKeys
  cases declared : document.sequence with
  | some declaration =>
    rw [declared] at rest
    exact logs_of_buildSequence afterTexts rest
  | none =>
    rw [declared] at rest
    obtain rfl := rest
    exact ⟨[], rfl, by rwa [List.append_nil]⟩

/-! ### Declared keys -/

variable {document : Document} {builder : Builder}

section Bindings

variable {α ι : Type} {key : α → String} {node : ι → Node} {declarations : List α}
  {created : List ι} (made : created.length = declarations.length)

include made

/-- Created nodes are bound to the declared keys. -/
theorem map_bindings :
    (bindings key node declarations created).map (·.1) = declarations.map key := by
  have paired : (declarations.zip created).map (·.1) = declarations :=
    List.map_fst_zip (Nat.le_of_eq made.symm)
  conv_rhs => rw [← paired]
  rw [bindings, List.map_map, List.map_map]
  rfl

/-- A node is created for each declaration and bound to its key. -/
theorem exists_binding {i : Nat} {declaration : α} (listed : declarations[i]? = some declaration) :
    ∃ own, created[i]? = some own ∧
      (bindings key node declarations created)[i]? = some (key declaration, node own) := by
  obtain ⟨inside, -⟩ := List.getElem?_eq_some_iff.1 listed
  have own := List.getElem?_eq_getElem (made.symm ▸ inside)
  have paired : (declarations.zip created)[i]? = some (declaration, _) :=
    List.getElem?_zip_eq_some.2 ⟨listed, own⟩
  refine ⟨_, own, ?_⟩
  rw [bindings, List.getElem?_map, paired, Option.map_some]

/-- A key that no later declaration has is bound by no later declaration. -/
theorem not_mem_drop_bindings {i : Nat} {word : String}
    (absent : ∀ later ∈ declarations.drop (i + 1), key later ≠ word) :
    word ∉ ((bindings key node declarations created).map (·.1)).drop (i + 1) := by
  rw [map_bindings made, ← List.map_drop, List.mem_map]
  rintro ⟨later, declaredLater, same⟩
  exact absent later declaredLater same

end Bindings

/-- A view is created for each declared view. -/
theorem length_createdViews (document : Document) :
    document.createdViews.length = document.views.length :=
  length_createEach _ _ _

/-- A guide is created for each declared guide. -/
theorem length_createdGuides (document : Document) :
    document.createdGuides.length = document.guides.length :=
  length_createEach _ _ _

/-- The key of the last declaration of a view stands for the view created for it. -/
theorem exists_resolve_of_lastView (built : document.build = .ok builder) {i : Nat}
    {declaration : ViewDeclaration} (last : document.IsLastView i declaration)
    (declaredOnly : declaration.key ∉ document.generatedKeys) :
    ∃ view, document.createdViews[i]? = some view ∧
      declaration.key ≠ builder.registry.parentKey ∧
      builder.registry.resolve declaration.key = .ok (.view view) := by
  obtain ⟨listed, absent⟩ := last
  have made := document.length_createdViews
  obtain ⟨numbered, keys, logs⟩ := exists_logs_of_build built
  obtain ⟨view, created, bound⟩ := exists_binding made listed
  rw [← keys] at declaredOnly
  exact ⟨view, created,
    logs.resolve_of_last bound (not_mem_drop_bindings made absent) declaredOnly⟩

/-- The key of the last declaration of a guide stands for the guide created for it, when no view is
declared with it. -/
theorem exists_resolve_of_lastGuide (built : document.build = .ok builder) {i : Nat}
    {declaration : GuideDeclaration} (last : document.IsLastGuide i declaration)
    (declaredOnly : declaration.key ∉ document.generatedKeys) :
    ∃ guide, document.createdGuides[i]? = some guide ∧
      builder.registry.resolve declaration.key = .ok (.guide guide) := by
  obtain ⟨listed, absent, noView⟩ := last
  have made := document.length_createdGuides
  obtain ⟨numbered, keys, logs⟩ := exists_logs_of_build built
  obtain ⟨guide, created, bound⟩ := exists_binding made listed
  have untouched : declaration.key ∉ (document.viewBindings ++ numbered).map (·.1) := by
    have viewKeys : document.viewBindings.map (·.1) = document.views.map (·.key) :=
      map_bindings document.length_createdViews
    rw [List.map_append, viewKeys, keys, List.mem_append, List.mem_map]
    rintro (⟨view, declaredView, same⟩ | generated)
    · exact noView view declaredView same
    · exact declaredOnly generated
  rw [List.append_assoc, ← List.nil_append document.guideBindings] at logs
  have stands := logs.resolve_of_last bound (not_mem_drop_bindings made absent) untouched
  exact ⟨guide, created, stands.2⟩

/-- A key that stands for a view is reported with the frame of the view. -/
theorem exists_layout_of_solveBy {Value : Type} [OfNat Value 0] {solver : Host.Solver Value}
    (built : document.build = .ok builder) {solution : Solution Value}
    (solved : document.solveBy solver = .ok solution) {key : String} {view : ViewId}
    (free : key ≠ builder.registry.parentKey)
    (stands : builder.registry.resolve key = .ok (.view view)) :
    ∃ frames,
      builder.host.layoutBy solver builder.container document.width document.height =
          .ok frames ∧
        ∀ frame, (key, frame) ∈ solution.frames ↔ (view, frame) ∈ frames := by
  obtain ⟨again, rebuilt, rest⟩ := bind_eq_ok_iff.1 solved
  obtain rfl := Except.ok.inj (rebuilt.symm.trans built)
  obtain ⟨frames, lays, reported⟩ := bind_eq_ok_iff.1 rest
  obtain rfl := Except.ok.inj reported
  have laid := mapError_eq_ok_iff.1 lays
  refine ⟨frames, laid, fun frame => ?_⟩
  rw [← Host.find?_eq_some_iff_of_layoutBy laid]
  have read : again.registry.resolveView key = .ok view := by
    rw [Registry.resolveView, stands]
  rw [List.mem_append, Option.mem_toList, List.mem_filterMap]
  constructor
  · rintro (container | ⟨other, -, reports⟩)
    · obtain ⟨own, -, same⟩ := Option.map_eq_some_iff.1 container
      exact absurd (congrArg Prod.fst same).symm free
    · obtain ⟨owner, owns, framed⟩ := Option.bind_eq_some_iff.1 reports
      obtain ⟨found, finds, same⟩ := Option.map_eq_some_iff.1 framed
      obtain ⟨rfl, rfl⟩ := Prod.mk.inj same
      rw [read] at owns
      obtain rfl := Option.some.inj owns
      exact finds
  · intro finds
    refine .inr ⟨key, again.registry.mem_viewKeys_of_resolve free stands, ?_⟩
    rw [read]
    exact Option.map_eq_some_iff.2 ⟨frame, finds, rfl⟩

/-- The last declaration of a view gives its key a meaning, and so does the last declaration of a
guide whose key no view has, as long as the sequence does not give the key to a view of its own. A
layout reports under the key of a view the frame of the view that its last declaration created,
whatever solver finds the frames. -/
theorem build_resolves_last_declared (built : document.build = .ok builder) :
    (∀ i declaration, document.IsLastView i declaration →
      declaration.key ∉ document.generatedKeys →
      ∃ view, document.createdViews[i]? = some view ∧
        builder.registry.resolve declaration.key = .ok (.view view) ∧
        ∀ {Value : Type} [OfNat Value 0] (solver : Host.Solver Value) (solution : Solution Value),
          document.solveBy solver = .ok solution →
          ∃ frames,
            builder.host.layoutBy solver builder.container document.width document.height =
                .ok frames ∧
              ∀ frame, (declaration.key, frame) ∈ solution.frames ↔ (view, frame) ∈ frames) ∧
    ∀ i declaration, document.IsLastGuide i declaration →
      declaration.key ∉ document.generatedKeys →
      ∃ guide, document.createdGuides[i]? = some guide ∧
        builder.registry.resolve declaration.key = .ok (.guide guide) := by
  constructor
  · intro i declaration last declaredOnly
    obtain ⟨view, created, free, stands⟩ := exists_resolve_of_lastView built last declaredOnly
    exact ⟨view, created, stands, fun solver solution solved =>
      exists_layout_of_solveBy built solved free stands⟩
  · intro i declaration last declaredOnly
    exact exists_resolve_of_lastGuide built last declaredOnly

/-- A document of guides and views with the given keys, some of which are in a sequence. -/
def ofKeys (guides views sequence : List String) : Document where
  configuration := {}
  width := 100
  height := 50
  metrics := .empty
  guides := guides.map fun key => ⟨key, ⟨0, 0, 5, 5⟩⟩
  views := views.map fun key => {
    key, size := none, parent := none, hugging := ⟨none, none⟩, resistance := ⟨none, none⟩ }
  constraints := []
  sequence := some {
    axis := .horizontal, margins := {}, batches := [⟨sequence, false⟩], close := false }

/-- The key of two views and a guide stands for the last view, and reports its frame. -/
theorem build_resolves_last_declared_of_repeated :
    let document := ofKeys ["a", "g"] ["a", "b", "a"] ["b"]
    ∃ builder solution, document.build = .ok builder ∧
      document.solveBy Host.simplex = .ok solution ∧
      builder.registry.resolve "a" = .ok (.view ⟨3⟩) ∧
      builder.registry.resolve "g" = .ok (.guide ⟨1⟩) ∧
      ∃ frames, builder.host.layoutBy Host.simplex builder.container 100 50 = .ok frames ∧
        ∀ frame, ("a", frame) ∈ solution.frames ↔ (⟨3⟩, frame) ∈ frames := by
  intro document
  have solves : (document.solveBy Host.simplex).toOption.isSome = true := by decide +kernel
  obtain ⟨solution, found⟩ := Option.isSome_iff_exists.1 solves
  have solved := eq_ok_of_toOption found
  obtain ⟨builder, built, -⟩ := bind_eq_ok_iff.1 solved
  obtain ⟨views, guides⟩ := build_resolves_last_declared built
  obtain ⟨view, created, resolved, reports⟩ :=
    views 2 _ ⟨rfl, by decide⟩ (by decide +kernel)
  obtain ⟨guide, createdGuide, resolvedGuide⟩ :=
    guides 1 _ ⟨rfl, by decide, by decide⟩ (by decide +kernel)
  have third : document.createdViews[2]? = some ⟨3⟩ := by decide +kernel
  have second : document.createdGuides[1]? = some ⟨1⟩ := by decide +kernel
  obtain rfl := Option.some.inj (created.symm.trans third)
  obtain rfl := Option.some.inj (createdGuide.symm.trans second)
  exact ⟨builder, solution, built, solved, resolved, resolvedGuide,
    reports Host.simplex solution solved⟩

/-- A view and a guide lose their key to a later view of the same key, and to a view of the sequence
that is numbered with it. -/
theorem exists_not_resolvesAll :
    let repeated := ofKeys ["a"] ["a", "a"] []
    let renumbered := ofKeys ["v3"] ["v1", "v2", "c"] ["v2", "v1", "c"]
    (∃ builder, repeated.build = .ok builder ∧
      ¬builder.registry.ResolvesAll repeated.viewBindings ∧
      ¬builder.registry.ResolvesAll repeated.guideBindings) ∧
    ∃ builder, renumbered.build = .ok builder ∧
      ¬builder.registry.ResolvesAll renumbered.viewBindings ∧
      ¬builder.registry.ResolvesAll renumbered.guideBindings := by
  have lost {document : Document}
      (found : ∃ builder ∈ document.build.toOption,
        ¬builder.registry.ResolvesAll document.viewBindings ∧
          ¬builder.registry.ResolvesAll document.guideBindings) :
      ∃ builder, document.build = .ok builder ∧
        ¬builder.registry.ResolvesAll document.viewBindings ∧
        ¬builder.registry.ResolvesAll document.guideBindings := by
    obtain ⟨builder, built, both⟩ := found
    exact ⟨builder, eq_ok_of_toOption built, both⟩
  exact ⟨lost (by decide +kernel), lost (by decide +kernel)⟩

end Document

end ViewLayout
