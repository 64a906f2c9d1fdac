import Mathlib.Logic.Relation
import ViewLayout.Proofs.Document.Keys
import ViewLayout.Proofs.Host.Tree
import ViewLayout.Proofs.Host.TreeRuns

/-!
# The view tree of a document

A document declares the parent of each view by key, and its views are attached one by one in the
order of declaration. A view may be declared before its parent, so that on the way the views form
several trees, and a cycle is found only by the attachment that would close it. What has been
attached so far is read off the declarations that were passed (`Placed`), so the whole tree is built
exactly when every declared parent is there and following declared parents leads to the container.
-/

namespace ViewLayout

open ViewLayout.Number ViewLayout.Outcome

namespace Host

/-- A climb over known views that does not go through has met the child. -/
theorem fault_of_checkNotAbove {host : Host} (forest : host.IsForest) {parent child : ViewId}
    {bound : Nat} {start : Option ViewId} {fault : HostFault}
    (known : ∀ node ∈ start, host.knows (.view node) = true)
    (failed : host.checkNotAbove parent child bound start = .error fault) :
    fault = .cycle parent.index child.index := by
  induction bound generalizing start with
  | zero =>
    cases start with
    | none => contradiction
    | some node => exact (Except.error.inj failed).symm
  | succ bound ih =>
    cases start with
    | none => contradiction
    | some node =>
      rw [checkNotAbove] at failed
      by_cases met : node = child
      · rw [if_pos met] at failed
        exact (Except.error.inj failed).symm
      · obtain ⟨data, found⟩ := knows_view_iff.1 (known node rfl)
        rw [if_neg met, view_eq_ok_iff.2 found] at failed
        refine ih (fun above up => forest.parents node above ?_) failed
        rw [parent?, found, Option.bind_some]
        exact up

namespace IsForest

variable {host : Host} (forest : host.IsForest) {parent child : ViewId}

include forest

/-- A view cannot be attached to itself or to a view that it lies above. -/
theorem attach_of_above (there : host.knows (.view parent) = true)
    (known : host.knows (.view child) = true) (above : host.AtOrAbove child parent) :
    host.attach parent child = .error (.cycle parent.index child.index) := by
  obtain ⟨data, found⟩ := knows_view_iff.1 known
  obtain ⟨fault, climbed⟩ : ∃ fault,
      host.checkNotAbove parent child (host.views.length + 1) (some parent) = .error fault := by
    cases climbed : host.checkNotAbove parent child (host.views.length + 1) (some parent) with
    | error fault => exact ⟨fault, rfl⟩
    | ok => exact absurd above (forest.checkNotAbove_iff.1 climbed).2
  obtain rfl := fault_of_checkNotAbove forest (by simpa using there) climbed
  have failed : attachSteps parent child host =
      .error (.cycle parent.index child.index) host :=
    calc attachSteps parent child host
        = _ := Steps.bind_of_ok (Steps.reading_of_ok (view_eq_ok_iff.2 found))
      _ = _ := Steps.bind_of_error (Steps.reading_of_error climbed)
  rw [attach, Steps.outcome, failed]
  rfl

end IsForest

end Host

/-- The key of the view that a view is declared in, which without one is the container's. -/
def ViewDeclaration.parentIn (declaration : ViewDeclaration) (container : String) : String :=
  declaration.parent.getD container

/-- A view is nested in no view when its parent is the container. -/
theorem ViewDeclaration.nestedIn?_eq_none_iff {declaration : ViewDeclaration} {container : String} :
    declaration.nestedIn? container = none ↔ declaration.parentIn container = container := by
  cases parent : declaration.parent with
  | none => simp [nestedIn?, parentIn, parent]
  | some key => simp [nestedIn?, parentIn, parent]

/-- A view is nested in its parent unless that is the container. -/
theorem ViewDeclaration.nestedIn?_eq_some {declaration : ViewDeclaration} {container : String}
    (nested : declaration.parentIn container ≠ container) :
    declaration.nestedIn? container = some (declaration.parentIn container) := by
  cases parent : declaration.parent with
  | none =>
    rw [parentIn, parent] at nested
    exact absurd rfl nested
  | some key =>
    rw [parentIn, parent, Option.getD_some] at nested ⊢
    simp [nestedIn?, parent, nested]

namespace Document

variable {document : Document}

/-! ## What a document declares -/

/-- A document declares guides and views, and nothing else. -/
structure DeclaresTree (document : Document) : Prop where
  /-- No two views have one key. -/
  distinct : (document.views.map (·.key)).Nodup
  /-- No view has the parent key. -/
  views : ∀ view ∈ document.views, view.key ≠ document.configuration.parentKey
  /-- No guide has the parent key. -/
  guides : ∀ guide ∈ document.guides, guide.key ≠ document.configuration.parentKey
  /-- No view has content priorities of its own. -/
  unweighted : ∀ view ∈ document.views, view.hugging = .both none ∧ view.resistance = .both none
  /-- There are no constraint texts. -/
  untexted : document.constraints = []
  /-- There is no sequence. -/
  unsequenced : document.sequence = none

/-- Every view of a document has a key of its own, and none of its nodes has the parent key. -/
structure DeclaresKeys (document : Document) : Prop where
  /-- No two views have one key. -/
  distinct : (document.views.map (·.key)).Nodup
  /-- No view has the parent key. -/
  views : ∀ view ∈ document.views, view.key ≠ document.configuration.parentKey
  /-- No guide has the parent key. -/
  guides : ∀ guide ∈ document.guides, guide.key ≠ document.configuration.parentKey

/-- A document of guides and views alone has such keys. -/
theorem DeclaresTree.declaresKeys (tree : document.DeclaresTree) : document.DeclaresKeys :=
  ⟨tree.distinct, tree.views, tree.guides⟩

/-- Following declared parents from a key leads to the container. -/
inductive Reaches (document : Document) : String → Prop
  /-- The container is there. -/
  | container : document.Reaches document.configuration.parentKey
  /-- A view leads to where its parent leads. -/
  | view {declaration : ViewDeclaration} : declaration ∈ document.views →
    document.Reaches (declaration.parentIn document.configuration.parentKey) →
      document.Reaches declaration.key

/-- Every declared parent is there, and following declared parents from any view leads to the
container. -/
structure WellNested (document : Document) : Prop where
  /-- A declared parent is the container or a declared view. -/
  known : ∀ view ∈ document.views, ∀ parent ∈ view.parent,
    parent = document.configuration.parentKey ∨ ∃ other ∈ document.views, other.key = parent
  /-- Every view leads to the container. -/
  reaches : ∀ view ∈ document.views, document.Reaches view.key

/-! ## The nodes of a document -/

/-- The layout of a document when all its nodes are created and none has a key. -/
def start (document : Document) : Builder :=
  let (host, container) := (Host.ofConfiguration document.configuration).createView none
  let (host, _) := createEach (fun host view => host.createView view.size) host document.views
  let (host, _) := createEach (fun host guide => host.createGuide guide.frame) host document.guides
  .ofHost host container document.configuration

/-- What creating one node keeps, creating a node for each declaration keeps. -/
theorem createEach_keeps {α ι : Type} (holds : Host → Prop) {create : Host → α → Host × ι}
    (kept : ∀ host declaration, holds host → holds (create host declaration).1) {host : Host}
    (declarations : List α) (begins : holds host) :
    holds (createEach create host declarations).1 := by
  induction declarations generalizing host with
  | nil => exact begins
  | cons first rest ih => exact ih (kept host first begins)

/-- Views are created with the next numbers. -/
theorem createEach_createView (host : Host) (declarations : List ViewDeclaration) :
    let created := createEach (fun host view => host.createView view.size) host declarations
    created.1.views.length = host.views.length + declarations.length ∧
      created.2 = (List.range declarations.length).map fun i => ⟨host.views.length + i⟩ := by
  induction declarations generalizing host with
  | nil => exact ⟨rfl, rfl⟩
  | cons first rest ih =>
    obtain ⟨size, made⟩ := ih (host.createView first.size).1
    have grown : (host.createView first.size).1.views.length = host.views.length + 1 := by
      simp [Host.createView]
    rw [grown] at size made
    constructor
    · rw [List.length_cons]
      exact size.trans (by omega)
    · rw [List.length_cons, List.range_succ_eq_map, List.map_cons, List.map_map]
      refine congrArg (List.cons _) (made.trans (List.map_congr_left fun i _ => ?_))
      exact congrArg ViewId.mk (Nat.succ_add_eq_add_succ _ _)

/-- The created views are numbered from one on; the container has number zero. -/
theorem createdViews_eq (document : Document) :
    document.createdViews = (List.range document.views.length).map fun i => ⟨1 + i⟩ :=
  (createEach_createView _ document.views).2

/-- Each created view is another one. -/
theorem nodup_createdViews (document : Document) : document.createdViews.Nodup := by
  rw [createdViews_eq]
  refine List.nodup_range.map fun i j same => ?_
  exact Nat.add_left_cancel (ViewId.mk.inj same)

/-- The container is none of the created views. -/
theorem container_not_mem_createdViews (document : Document) :
    document.start.container ∉ document.createdViews := by
  rw [createdViews_eq, List.mem_map]
  rintro ⟨i, -, same⟩
  have index : 1 + i = 0 := congrArg ViewId.index same
  omega

/-- Before any view is attached, the views form a forest in which no view has a parent. -/
theorem start_forest (document : Document) :
    document.start.host.IsForest ∧ ∀ view, document.start.host.parent? view = none := by
  let loose (host : Host) : Prop := host.IsForest ∧ ∀ view, host.parent? view = none
  have created (host : Host) (content : Option (PerAxis Binary64)) (held : loose host) :
      loose (host.createView content).1 := by
    refine ⟨held.1.createView content, fun view => ?_⟩
    rw [← held.2 view]
    exact Host.readView_createView host content view (·.bind View.parent) rfl
  have guided (host : Host) (frame : Frame Binary64) (held : loose host) :
      loose (host.createGuide frame).1 :=
    ⟨held.1.of_tree rfl, held.2⟩
  have empty : loose (Host.ofConfiguration document.configuration) :=
    ⟨Host.isForest_ofConfiguration document.configuration, fun _ => rfl⟩
  have viewed := createEach_keeps loose (fun host view => created host view.size)
    document.views (created _ none empty)
  exact createEach_keeps loose (fun host guide => guided host guide.frame) document.guides viewed

/-- The container and the created views are known from the start. -/
theorem start_knows {view : ViewId}
    (made : view = document.start.container ∨ view ∈ document.createdViews) :
    document.start.host.knows (.view view) = true := by
  let size := 1 + document.views.length
  have viewed : (createEach (fun host view => host.createView view.size)
      ((Host.ofConfiguration document.configuration).createView none).1
      document.views).1.views.length = size :=
    (createEach_createView _ document.views).1
  have guided : document.start.host.views.length = size :=
    createEach_keeps (fun host => host.views.length = size) (fun _ _ held => held) document.guides
      viewed
  rw [Host.knows, guided, decide_eq_true_eq]
  rcases made with rfl | created
  · exact Nat.lt_add_right _ Nat.zero_lt_one
  · rw [createdViews_eq, List.mem_map] at created
    obtain ⟨i, inside, rfl⟩ := created
    exact Nat.add_lt_add_left (List.mem_range.1 inside) 1

/-- The declarations are those of the document. -/
theorem map_fst_declared (document : Document) : document.declared.map (·.1) = document.views :=
  List.map_fst_zip (Nat.le_of_eq document.length_createdViews.symm)

/-- The declared views are the created ones. -/
theorem map_snd_declared (document : Document) :
    document.declared.map (·.2) = document.createdViews :=
  List.map_snd_zip (Nat.le_of_eq document.length_createdViews)

/-- A declared view is a declaration with a created view. -/
theorem mem_of_declared {entry : DeclaredView} (listed : entry ∈ document.declared) :
    entry.1 ∈ document.views ∧ entry.2 ∈ document.createdViews := by
  rw [← map_fst_declared, ← map_snd_declared]
  exact ⟨List.mem_map_of_mem listed, List.mem_map_of_mem listed⟩

/-- Every declaration has its created view. -/
theorem exists_declared {declaration : ViewDeclaration} (listed : declaration ∈ document.views) :
    ∃ view, (declaration, view) ∈ document.declared := by
  rw [← map_fst_declared] at listed
  obtain ⟨entry, present, rfl⟩ := List.mem_map.1 listed
  exact ⟨entry.2, present⟩

/-- A created view belongs to one declaration. -/
theorem eq_of_created {entry other : DeclaredView} (listed : entry ∈ document.declared)
    (among : other ∈ document.declared) (same : entry.2 = other.2) : entry = other := by
  have distinct := document.nodup_createdViews
  rw [← map_snd_declared] at distinct
  exact List.inj_on_of_nodup_map distinct listed among same

/-- The node of a key: the container or the view created for the declaration of the key. -/
def nodeOf? (document : Document) (key : String) : Option ViewId :=
  if key = document.configuration.parentKey then some document.start.container
  else (viewOf? document.declared key).map (·.2)

/-- The node that a declared view is to be attached to. -/
def parentOf? (document : Document) (entry : DeclaredView) : Option ViewId :=
  document.nodeOf? (entry.1.parentIn document.configuration.parentKey)

/-- The node of any key but the parent key was created for a declaration of the key. -/
theorem exists_of_nodeOf? {key : String} {node : ViewId}
    (free : key ≠ document.configuration.parentKey) (found : document.nodeOf? key = some node) :
    ∃ declaration, (declaration, node) ∈ document.declared ∧ declaration.key = key := by
  rw [nodeOf?, if_neg free] at found
  obtain ⟨entry, finds, rfl⟩ := Option.map_eq_some_iff.1 found
  exact ⟨entry.1, List.mem_of_find?_eq_some finds, by simpa using List.find?_some finds⟩

/-- The node of a key is the container or a created view. -/
theorem made_of_nodeOf? {key : String} {node : ViewId} (found : document.nodeOf? key = some node) :
    node = document.start.container ∨ node ∈ document.createdViews := by
  by_cases parent : key = document.configuration.parentKey
  · rw [nodeOf?, if_pos parent] at found
    exact .inl (Option.some.inj found).symm
  · obtain ⟨declaration, listed, -⟩ := exists_of_nodeOf? parent found
    exact .inr (mem_of_declared listed).2

/-- Different keys have different nodes. -/
theorem nodeOf?_injective {key other : String} {node : ViewId}
    (found : document.nodeOf? key = some node) (finds : document.nodeOf? other = some node) :
    key = other := by
  have contained {key : String} (parent : key = document.configuration.parentKey)
      (found : document.nodeOf? key = some node) : node = document.start.container := by
    rw [nodeOf?, if_pos parent] at found
    exact (Option.some.inj found).symm
  have created {key : String} (free : key ≠ document.configuration.parentKey)
      (found : document.nodeOf? key = some node) : node ≠ document.start.container := by
    obtain ⟨declaration, listed, -⟩ := exists_of_nodeOf? free found
    rintro rfl
    exact document.container_not_mem_createdViews (mem_of_declared listed).2
  by_cases parent : key = document.configuration.parentKey
  · by_cases also : other = document.configuration.parentKey
    · exact parent.trans also.symm
    · exact absurd (contained parent found) (created also finds)
  · by_cases only : other = document.configuration.parentKey
    · exact absurd (contained only finds) (created parent found)
    · obtain ⟨declaration, listed, rfl⟩ := exists_of_nodeOf? parent found
      obtain ⟨second, among, rfl⟩ := exists_of_nodeOf? only finds
      exact congrArg (fun entry => entry.1.key) (eq_of_created listed among rfl)

namespace DeclaresKeys

variable (keyed : document.DeclaresKeys)

include keyed

/-- A key belongs to one declaration. -/
theorem eq_of_key {entry other : DeclaredView} (listed : entry ∈ document.declared)
    (among : other ∈ document.declared) (same : entry.1.key = other.1.key) : entry = other := by
  have distinct := keyed.distinct
  rw [← map_fst_declared, List.map_map] at distinct
  exact List.inj_on_of_nodup_map distinct listed among same

/-- The node of a declared key is the view created for it. -/
theorem nodeOf?_key {entry : DeclaredView} (listed : entry ∈ document.declared) :
    document.nodeOf? entry.1.key = some entry.2 := by
  rw [nodeOf?, if_neg (keyed.views _ (mem_of_declared listed).1), Option.map_eq_some_iff]
  obtain ⟨found, finds⟩ : ∃ found, viewOf? document.declared entry.1.key = some found :=
    Option.isSome_iff_exists.1 (List.find?_isSome.2 ⟨entry, listed, by simp⟩)
  have same : found.1.key = entry.1.key := by simpa using List.find?_some finds
  obtain rfl := keyed.eq_of_key (List.mem_of_find?_eq_some finds) listed same
  exact ⟨found, finds, rfl⟩

/-- The node to attach a view to is there when its declared parent is. -/
theorem exists_parentOf? (nested : document.WellNested) {entry : DeclaredView}
    (listed : entry ∈ document.declared) : ∃ parent, document.parentOf? entry = some parent := by
  rw [parentOf?, ViewDeclaration.parentIn]
  cases declared : entry.1.parent with
  | none => exact ⟨_, if_pos rfl⟩
  | some key =>
    rcases nested.known _ (mem_of_declared listed).1 key declared with rfl | ⟨other, among, rfl⟩
    · exact ⟨_, if_pos rfl⟩
    · obtain ⟨view, made⟩ := exists_declared among
      exact ⟨view, keyed.nodeOf?_key made⟩

end DeclaresKeys

/-- A view is declared in another one, or in the container. -/
def ParentLink (document : Document) (child parent : ViewId) : Prop :=
  ∃ entry ∈ document.declared, entry.2 = child ∧ document.parentOf? entry = some parent

/-- The container is declared nowhere. -/
theorem ParentLink.ne_container {child parent : ViewId} (link : document.ParentLink child parent) :
    child ≠ document.start.container := by
  obtain ⟨entry, listed, rfl, -⟩ := link
  intro same
  exact document.container_not_mem_createdViews (same ▸ (mem_of_declared listed).2)

/-- A view that leads to the container is on no cycle of declared parents. -/
theorem DeclaresKeys.not_cyclic (keyed : document.DeclaresKeys) {key : String}
    (reaches : document.Reaches key) {entry : DeclaredView} (listed : entry ∈ document.declared)
    (named : entry.1.key = key) : ¬Relation.TransGen document.ParentLink entry.2 entry.2 := by
  induction reaches generalizing entry with
  | container => exact absurd named (keyed.views _ (mem_of_declared listed).1)
  | @view declaration present above ih =>
    obtain ⟨own, made⟩ := exists_declared present
    obtain rfl := keyed.eq_of_key listed made named
    intro cycle
    -- A cycle through the view goes on through its parent, which leads to the container as well.
    obtain ⟨parent, link, back⟩ := Relation.TransGen.head'_iff.1 cycle
    have around : Relation.TransGen document.ParentLink parent parent :=
      Relation.TransGen.tail' back link
    obtain ⟨entry, among, same, stands⟩ := id link
    obtain rfl := eq_of_created among listed same
    by_cases outer : declaration.parentIn document.configuration.parentKey =
        document.configuration.parentKey
    · rw [parentOf?, nodeOf?, if_pos outer, Option.some.injEq] at stands
      obtain ⟨_, next, -⟩ := Relation.TransGen.head'_iff.1 around
      exact next.ne_container stands.symm
    · obtain ⟨other, found, keyed⟩ := exists_of_nodeOf? outer stands
      exact ih found keyed around

/-! ## Attaching the views -/

/-- The keys and the view tree of a builder are those that the views passed so far declare. -/
structure Placed (document : Document) (passed : List DeclaredView) (builder : Builder) : Prop where
  /-- The views form a forest. -/
  forest : builder.host.IsForest
  /-- The views are those from the start. -/
  nodes : ∀ view, builder.host.knows (.view view) = document.start.host.knows (.view view)
  /-- The container is that from the start. -/
  container : builder.container = document.start.container
  /-- The parent key is that of the document. -/
  parentKey : builder.registry.parentKey = document.configuration.parentKey
  /-- The parent key stands for the container. -/
  parent : builder.registry.container = some document.start.container
  /-- The keys passed so far stand for their views. -/
  keys : ∀ entry ∈ passed, builder.registry.resolve entry.1.key = .ok (.view entry.2)
  /-- Every view lists the views that were declared in it so far, in their order. -/
  children : ∀ view, builder.host.children view =
    (passed.filter fun entry => document.parentOf? entry = some view).map (·.2)

/-- A view whose declared parent is missing is refused. -/
theorem place_of_unknown {entry : DeclaredView} (missing : document.parentOf? entry = none)
    (builder : Builder) :
    ∃ parent, place document.configuration.parentKey document.declared builder entry =
      .error (.unknownParent entry.1.key parent) := by
  rw [parentOf?, nodeOf?] at missing
  split at missing
  · contradiction
  · rename_i nested
    refine ⟨entry.1.parentIn document.configuration.parentKey, ?_⟩
    simp only [place, ViewDeclaration.nestedIn?_eq_some nested, Option.map_eq_none_iff.1 missing]

namespace Placed

variable {passed : List DeclaredView} {builder : Builder} (placed : document.Placed passed builder)

include placed

/-- A view has the parent it was declared in. -/
theorem parent?_eq_some_iff {view parent : ViewId} :
    builder.host.parent? view = some parent ↔
      ∃ entry ∈ passed, entry.2 = view ∧ document.parentOf? entry = some parent := by
  rw [← placed.forest.agree, placed.children, List.mem_map]
  simp only [List.mem_filter, decide_eq_true_eq]
  constructor
  · rintro ⟨entry, ⟨listed, stands⟩, same⟩
    exact ⟨entry, listed, same, stands⟩
  · rintro ⟨entry, listed, same, stands⟩
    exact ⟨entry, ⟨listed, stands⟩, same⟩

/-- What lies at or above a view is reached by following declared parents. -/
theorem links_of_atOrAbove (among : passed ⊆ document.declared) {upper lower : ViewId}
    (above : builder.host.AtOrAbove upper lower) :
    Relation.ReflTransGen document.ParentLink lower upper := by
  obtain ⟨steps, reached⟩ := above
  induction steps generalizing lower with
  | zero =>
    obtain rfl := Option.some.inj reached
    exact .refl
  | succ steps ih =>
    obtain ⟨parent, up, later⟩ := Option.bind_eq_some_iff.1 reached
    obtain ⟨entry, listed, same, stands⟩ := placed.parent?_eq_some_iff.1 up
    exact .head ⟨entry, among listed, same, stands⟩ (ih later)

/-- No view lies above the container. -/
theorem not_above_container (among : passed ⊆ document.declared) {view : ViewId}
    (created : view ∈ document.createdViews) :
    ¬builder.host.AtOrAbove view document.start.container := by
  intro above
  rcases (placed.links_of_atOrAbove among above).cases_head with same | ⟨_, link, -⟩
  · exact document.container_not_mem_createdViews (same ▸ created)
  · exact link.ne_container rfl

/-- Attaching one more view under its key places it. -/
theorem concat (keyed : document.DeclaresKeys) {entry : DeclaredView}
    (listed : entry ∈ document.declared) (among : passed ⊆ document.declared) (new : entry ∉ passed)
    {parent : ViewId} (stands : document.parentOf? entry = some parent)
    (clear : ¬builder.host.AtOrAbove entry.2 parent) {registry : Registry}
    (registered : builder.registry.register entry.1.key (.view entry.2) = .ok registry) :
    document.Placed (passed ++ [entry])
      { builder with registry, host := builder.host.reattached parent entry.2 } := by
  have there : builder.host.knows (.view parent) = true :=
    (placed.nodes parent).trans (start_knows (made_of_nodeOf? stands))
  have known : builder.host.knows (.view entry.2) = true :=
    (placed.nodes entry.2).trans (start_knows (.inr (mem_of_declared listed).2))
  obtain ⟨parentKey, container, here, others⟩ := Registry.resolve_of_register registered
  constructor
  case forest => exact placed.forest.reattached there known clear
  case nodes =>
    intro view
    rw [← placed.nodes]
    exact Host.knows_of_outsideTree (Host.outsideTree_reattached _ _ _) _
  case container => exact placed.container
  case parentKey => exact parentKey.trans placed.parentKey
  case parent => exact container.trans placed.parent
  case keys =>
    intro other present
    rcases List.mem_append.1 present with earlier | last
    · refine others _ _ (fun same => new ?_) (placed.keys other earlier)
      rwa [← keyed.eq_of_key (among earlier) listed same]
    · obtain rfl := List.mem_singleton.1 last
      exact here
  case children =>
    intro view
    let earlier := (passed.filter fun entry => document.parentOf? entry = some view).map (·.2)
    have others : earlier.filter (· ≠ entry.2) = earlier := by
      rw [List.filter_eq_self]
      intro child present
      obtain ⟨other, kept, rfl⟩ := List.mem_map.1 present
      have earlier := List.mem_of_mem_filter kept
      rw [decide_eq_true_eq]
      intro same
      exact new (eq_of_created (among earlier) listed same ▸ earlier)
    rw [placed.forest.children_reattached there, placed.children, List.filter_append,
      List.map_append]
    refine congrArg₂ _ others ?_
    by_cases own : view = parent
    · simp [own, stands]
    · simp [own, stands, Ne.symm own]

/-- A view is registered and then attached to the node it is declared in. -/
theorem place_of_attached {entry : DeclaredView} {parent : ViewId} {host : Host}
    (free : entry.1.key ≠ document.configuration.parentKey)
    (stands : document.parentOf? entry = some parent)
    (attached : builder.host.attach parent entry.2 = .ok host) :
    ∃ registry, builder.registry.register entry.1.key (.view entry.2) = .ok registry ∧
      place document.configuration.parentKey document.declared builder entry =
        .ok { builder with registry, host } := by
  obtain ⟨registry, registered⟩ : ∃ registry,
      builder.registry.register entry.1.key (.view entry.2) = .ok registry :=
    ⟨_, Registry.register_eq_ok_iff.2 ⟨placed.parentKey ▸ free, rfl⟩⟩
  refine ⟨registry, registered, ?_⟩
  rw [parentOf?, nodeOf?] at stands
  split at stands
  · rename_i outer
    obtain rfl := Option.some.inj stands
    have added : builder.addView entry.1.key entry.2 = .ok { builder with registry, host } :=
      Builder.addView_eq_ok_iff.2 ⟨registry, host, registered, placed.container ▸ attached, rfl⟩
    simp only [place, ViewDeclaration.nestedIn?_eq_none_iff.2 outer, added]
    rfl
  · rename_i nested
    obtain ⟨other, found, rfl⟩ := Option.map_eq_some_iff.1 stands
    have added : builder.addUnattached entry.1.key entry.2 = .ok { builder with registry } :=
      Builder.register_eq_ok_iff.2 ⟨registry, registered, rfl⟩
    simp only [place, ViewDeclaration.nestedIn?_eq_some nested, found, added, onBuilder]
    exact bind_eq_ok_iff.2 ⟨_, rfl, bind_eq_ok_iff.2 ⟨host, mapError_eq_ok_iff.2 attached, rfl⟩⟩

/-- A view that cannot be attached to the view it is nested in is refused for that reason. -/
theorem place_of_refused {entry : DeclaredView} {parent : ViewId} {fault : HostFault}
    (free : entry.1.key ≠ document.configuration.parentKey)
    (nested : parent ≠ document.start.container)
    (stands : document.parentOf? entry = some parent)
    (refused : builder.host.attach parent entry.2 = .error fault) :
    place document.configuration.parentKey document.declared builder entry =
      .error (.host fault) := by
  obtain ⟨registry, registered⟩ : ∃ registry,
      builder.registry.register entry.1.key (.view entry.2) = .ok registry :=
    ⟨_, Registry.register_eq_ok_iff.2 ⟨placed.parentKey ▸ free, rfl⟩⟩
  rw [parentOf?, nodeOf?] at stands
  split at stands
  · exact absurd (Option.some.inj stands).symm nested
  · rename_i inner
    obtain ⟨other, found, rfl⟩ := Option.map_eq_some_iff.1 stands
    have added : builder.addUnattached entry.1.key entry.2 = .ok { builder with registry } :=
      Builder.register_eq_ok_iff.2 ⟨registry, registered, rfl⟩
    simp only [place, ViewDeclaration.nestedIn?_eq_some inner, found, added, onBuilder,
      Except.mapError, bind, Except.bind, refused]

/-- One more view is placed, or it is refused because the document is not well nested. -/
theorem place_cases (keyed : document.DeclaresKeys) {entry : DeclaredView}
    (listed : entry ∈ document.declared) (among : passed ⊆ document.declared)
    (new : entry ∉ passed) :
    (∃ next, place document.configuration.parentKey document.declared builder entry = .ok next ∧
        document.Placed (passed ++ [entry]) next ∧
        ∃ parent, document.parentOf? entry = some parent) ∨
      ¬document.WellNested ∧
        ((∃ parent, place document.configuration.parentKey document.declared builder entry =
            .error (.unknownParent entry.1.key parent)) ∨
          ∃ parent child, place document.configuration.parentKey document.declared builder entry =
            .error (.host (.cycle parent child))) := by
  obtain ⟨declaration, created⟩ := mem_of_declared listed
  have free := keyed.views _ declaration
  cases stands : document.parentOf? entry with
  | none =>
    refine .inr ⟨fun nested => ?_, .inl (place_of_unknown stands builder)⟩
    obtain ⟨parent, found⟩ := keyed.exists_parentOf? nested listed
    exact absurd (found.symm.trans stands) nofun
  | some parent =>
    have there : builder.host.knows (.view parent) = true :=
      (placed.nodes parent).trans (start_knows (made_of_nodeOf? stands))
    have known : builder.host.knows (.view entry.2) = true :=
      (placed.nodes entry.2).trans (start_knows (.inr created))
    by_cases above : builder.host.AtOrAbove entry.2 parent
    · -- The view would lie above itself, so following declared parents from it comes back to it.
      have inner : parent ≠ document.start.container := by
        rintro rfl
        exact placed.not_above_container among created above
      refine .inr ⟨fun nested => ?_, .inr ⟨_, _, placed.place_of_refused free inner stands
        (placed.forest.attach_of_above there known above)⟩⟩
      have cycle : Relation.TransGen document.ParentLink entry.2 entry.2 :=
        .head' ⟨entry, listed, rfl, stands⟩ (placed.links_of_atOrAbove among above)
      exact keyed.not_cyclic (nested.reaches _ declaration) listed rfl cycle
    · obtain ⟨registry, registered, done⟩ := placed.place_of_attached free stands
        (placed.forest.attach_of_clear there known above)
      exact .inl ⟨_, done, placed.concat keyed listed among new stands above registered, _, rfl⟩

/-- A view from which following parents ends leads to the container. -/
theorem reaches_of_ended
    (attached : ∀ entry ∈ document.declared, ∃ parent, document.parentOf? entry = some parent)
    (all : document.declared ⊆ passed) {steps : Nat} {entry : DeclaredView}
    (listed : entry ∈ document.declared) (ended : builder.host.ancestor? steps entry.2 = none) :
    document.Reaches entry.1.key := by
  induction steps generalizing entry with
  | zero => contradiction
  | succ steps ih =>
    obtain ⟨parent, stands⟩ := attached entry listed
    have up := placed.parent?_eq_some_iff.2 ⟨entry, all listed, rfl, stands⟩
    rw [Host.ancestor?, up, Option.bind_some] at ended
    refine .view (mem_of_declared listed).1 ?_
    by_cases outer : entry.1.parentIn document.configuration.parentKey =
        document.configuration.parentKey
    · rw [outer]
      exact .container
    · obtain ⟨declaration, made, keyed⟩ := exists_of_nodeOf? outer stands
      rw [← keyed]
      exact ih made ended

/-- When all views are attached, the document is well nested. -/
theorem wellNested
    (attached : ∀ entry ∈ document.declared, ∃ parent, document.parentOf? entry = some parent)
    (all : document.declared ⊆ passed) : document.WellNested := by
  constructor
  case known =>
    intro view present parent declared
    obtain ⟨own, listed⟩ := exists_declared present
    obtain ⟨node, stands⟩ := attached _ listed
    rw [parentOf?, ViewDeclaration.parentIn, declared, Option.getD_some] at stands
    by_cases outer : parent = document.configuration.parentKey
    · exact .inl outer
    · obtain ⟨declaration, made, keyed⟩ := exists_of_nodeOf? outer stands
      exact .inr ⟨declaration, (mem_of_declared made).1, keyed⟩
  case reaches =>
    intro view present
    obtain ⟨own, listed⟩ := exists_declared present
    obtain ⟨steps, ended⟩ := placed.forest.rooted own
    exact placed.reaches_of_ended attached all listed ended

end Placed

/-! ## Building -/

/-- The layout of a document when its guides are registered and its first views are attached. -/
def placing (document : Document) (passed : List DeclaredView) : Except DocumentError Builder := do
  let guided ← onBuilder
    (document.start.addGuides ((document.guides.map (·.key)).zip document.createdGuides))
  passed.foldlM (place document.configuration.parentKey document.declared) guided

/-- What building does after the views are attached. -/
def finishing (document : Document) (placed : Builder) : Except DocumentError Builder := do
  let weighted ← onBuilder (document.views.foldlM prioritizeView placed)
  let applied ← onBuilder (document.constraints.foldlM
    (fun builder text => builder.addConstraint text.raw text.priority)
    (weighted.withMetrics document.metrics))
  match document.sequence with
  | some declaration =>
    buildSequence document.configuration.parentKey document.declared declaration applied
  | none => .ok applied

/-- Building attaches all views and goes on from there. -/
theorem build_eq_placing (document : Document) :
    document.build = document.placing document.declared >>= document.finishing := by
  rw [placing, bind_assoc]
  rfl

/-- One more view is attached behind those before it. -/
theorem placing_concat (document : Document) (passed : List DeclaredView) (entry : DeclaredView) :
    document.placing (passed ++ [entry]) = document.placing passed >>= fun builder =>
      place document.configuration.parentKey document.declared builder entry := by
  simp only [placing, List.foldlM_append, List.foldlM_cons, List.foldlM_nil, bind_pure, bind_assoc]

/-- Before anything is registered, nothing is placed. -/
theorem placed_start (document : Document) : document.Placed [] document.start := by
  obtain ⟨forest, loose⟩ := document.start_forest
  refine ⟨forest, fun _ => rfl, rfl, rfl, rfl, fun _ listed => absurd listed List.not_mem_nil,
    fun view => ?_⟩
  refine List.eq_nil_iff_forall_not_mem.2 fun child listed => ?_
  have up := (forest.agree view child).1 listed
  rw [loose] at up
  contradiction

/-- Guides are registered under any keys but the parent key, and nothing is placed by that. -/
theorem Placed.exists_addGuides {builder : Builder} (placed : document.Placed [] builder)
    {guides : List (String × GuideId)}
    (free : ∀ guide ∈ guides, guide.1 ≠ document.configuration.parentKey) :
    ∃ guided, builder.addGuides guides = .ok guided ∧ document.Placed [] guided := by
  induction guides generalizing builder with
  | nil => exact ⟨builder, rfl, placed⟩
  | cons guide guides ih =>
    have unreserved := free guide List.mem_cons_self
    rw [← placed.parentKey] at unreserved
    obtain ⟨registry, registered⟩ : ∃ registry,
        builder.registry.register guide.1 (.guide guide.2) = .ok registry :=
      ⟨_, Registry.register_eq_ok_iff.2 ⟨unreserved, rfl⟩⟩
    have added := Builder.register_eq_ok_iff.2 ⟨registry, registered, rfl⟩
    obtain ⟨parentKey, container, -⟩ := Registry.resolve_of_register registered
    have still : document.Placed [] { builder with registry } :=
      ⟨placed.forest, placed.nodes, placed.container, parentKey.trans placed.parentKey,
        container.trans placed.parent, fun _ listed => absurd listed List.not_mem_nil,
        placed.children⟩
    obtain ⟨guided, rest, more⟩ := ih still fun other listed =>
      free other (List.mem_cons_of_mem _ listed)
    exact ⟨guided, bind_eq_ok_iff.2 ⟨_, added, rest⟩, more⟩

namespace DeclaresKeys

variable (keyed : document.DeclaresKeys)

include keyed

/-- Before any view is attached, the guides are registered and nothing is placed. -/
theorem exists_placing_nil :
    ∃ guided, document.placing [] = .ok guided ∧ document.Placed [] guided := by
  have free : ∀ guide ∈ (document.guides.map (·.key)).zip document.createdGuides,
      guide.1 ≠ document.configuration.parentKey := by
    intro guide listed
    obtain ⟨declaration, present, same⟩ := List.mem_map.1 (List.of_mem_zip listed).1
    rw [← same]
    exact keyed.guides declaration present
  obtain ⟨guided, added, placed⟩ := document.placed_start.exists_addGuides free
  exact ⟨guided, bind_eq_ok_iff.2 ⟨guided, mapError_eq_ok_iff.2 added, rfl⟩, placed⟩

/-- Attaching the first views goes through, or the document is not well nested. -/
theorem placing_cases {passed : List DeclaredView} (first : passed <+: document.declared) :
    (∃ stage, document.placing passed = .ok stage ∧ document.Placed passed stage ∧
        ∀ entry ∈ passed, ∃ parent, document.parentOf? entry = some parent) ∨
      ¬document.WellNested ∧ ∃ error, document.placing passed = .error error ∧
        ((∃ key parent, error = .unknownParent key parent) ∨
          ∃ parent child, error = .host (.cycle parent child)) := by
  induction passed using List.reverseRecOn with
  | nil =>
    obtain ⟨guided, done, placed⟩ := keyed.exists_placing_nil
    exact .inl ⟨guided, done, placed, fun _ listed => absurd listed List.not_mem_nil⟩
  | append_singleton passed entry ih =>
    rw [placing_concat]
    have earlier := (List.prefix_append passed [entry]).trans first
    have listed := first.subset List.mem_concat_self
    have new : entry ∉ passed := by
      have distinct := document.nodup_createdViews
      rw [← map_snd_declared] at distinct
      have apart := List.disjoint_of_nodup_append (distinct.of_map.sublist first.sublist)
      exact fun earlier => apart earlier (List.mem_singleton_self entry)
    rcases ih earlier with ⟨stage, done, placed, attached⟩ | ⟨unnested, error, failed, kind⟩
    · rw [done]
      rcases placed.place_cases keyed listed earlier.subset new with
        ⟨next, goes, more, parent, stands⟩ |
          ⟨unnested, ⟨parent, refused⟩ | ⟨parent, child, refused⟩⟩
      · refine .inl ⟨next, goes, more, ?_⟩
        rw [List.forall_mem_append, List.forall_mem_singleton]
        exact ⟨attached, parent, stands⟩
      · exact .inr ⟨unnested, _, refused, .inl ⟨_, _, rfl⟩⟩
      · exact .inr ⟨unnested, _, refused, .inr ⟨_, _, rfl⟩⟩
    · rw [failed]
      exact .inr ⟨unnested, error, rfl, kind⟩

end DeclaresKeys

/-- After the views are attached, nothing is left but to set the metrics. -/
theorem DeclaresTree.finishing_eq (tree : document.DeclaresTree) (placed : Builder) :
    document.finishing placed = .ok (placed.withMetrics document.metrics) := by
  have each : ∀ view ∈ document.views, prioritizeView placed view = .ok placed := by
    intro view listed
    obtain ⟨hugging, resistance⟩ := tree.unweighted view listed
    rw [prioritizeView, hugging, resistance]
    rfl
  have weighted : document.views.foldlM prioritizeView placed = .ok placed := by
    generalize document.views = views at each
    induction views with
    | nil => rfl
    | cons view views ih =>
      rw [List.foldlM_cons, each view List.mem_cons_self]
      exact ih fun other listed => each other (List.mem_cons_of_mem _ listed)
  rw [finishing, weighted, tree.untexted, tree.unsequenced]
  rfl

/-! ## The whole tree -/

/-- A layout has the view tree that a document declares. -/
structure Nests (document : Document) (builder : Builder) : Prop where
  /-- The parent key stands for the container. -/
  container : builder.registry.resolve document.configuration.parentKey =
    .ok (.view builder.container)
  /-- The key of a declaration stands for the view created for it. -/
  keys : ∀ entry ∈ document.declared, builder.registry.resolve entry.1.key = .ok (.view entry.2)
  /-- The parent of a view is what the key of its declared parent stands for, and without one the
  container. -/
  parents : ∀ entry ∈ document.declared, ∃ parent,
    builder.registry.resolve (entry.1.parentIn document.configuration.parentKey) =
      .ok (.view parent) ∧ builder.host.parent? entry.2 = some parent
  /-- The children of the container and of each declared view are the views that were declared in
  it, in the order of declaration. -/
  children : ∀ key node,
    key = document.configuration.parentKey ∨ (∃ view ∈ document.views, view.key = key) →
    builder.registry.resolve key = .ok (.view node) →
    builder.host.children node = (document.declared.filter fun entry =>
      entry.1.parentIn document.configuration.parentKey = key).map (·.2)

/-- When all views are attached, the layout has the declared tree. -/
theorem Placed.nests {builder : Builder} (placed : document.Placed document.declared builder)
    (tree : document.DeclaresTree)
    (attached : ∀ entry ∈ document.declared, ∃ parent, document.parentOf? entry = some parent) :
    document.Nests builder := by
  have stands {key : String} {node : ViewId} (found : document.nodeOf? key = some node) :
      builder.registry.resolve key = .ok (.view node) := by
    by_cases outer : key = document.configuration.parentKey
    · rw [nodeOf?, if_pos outer] at found
      obtain rfl := Option.some.inj found
      rw [Registry.resolve, if_pos (outer.trans placed.parentKey.symm), placed.parent]
    · obtain ⟨declaration, listed, rfl⟩ := exists_of_nodeOf? outer found
      exact placed.keys _ listed
  constructor
  case container =>
    rw [placed.container]
    exact stands (if_pos rfl)
  case keys => exact placed.keys
  case parents =>
    intro entry listed
    obtain ⟨parent, found⟩ := attached entry listed
    exact ⟨parent, stands found, placed.parent?_eq_some_iff.2 ⟨entry, listed, rfl, found⟩⟩
  case children =>
    intro key node meant resolved
    obtain ⟨own, found⟩ : ∃ own, document.nodeOf? key = some own := by
      rcases meant with outer | ⟨view, present, rfl⟩
      · exact ⟨_, if_pos outer⟩
      · obtain ⟨own, listed⟩ := exists_declared present
        exact ⟨own, tree.declaresKeys.nodeOf?_key listed⟩
    obtain ⟨⟩ := (stands found).symm.trans resolved
    rw [placed.children]
    refine congrArg _ (List.filter_congr fun entry _ => ?_)
    rw [decide_eq_decide]
    constructor
    · intro within
      exact nodeOf?_injective within found
    · intro same
      rw [parentOf?, same, found]

/-- Of a document of guides and views alone, the views are built exactly when every declared parent
is there and following declared parents from any view leads to the container; then they have the
parents they were declared in and stand among their children in the order of declaration. Otherwise
a parent is unknown or an attachment would close a cycle. On the way, every attachment ends. -/
theorem build_nests_as_declared (tree : document.DeclaresTree) :
    ((∃ builder, document.build = .ok builder) ↔ document.WellNested) ∧
      (∀ builder, document.build = .ok builder → document.Nests builder) ∧
      (∀ error, document.build = .error error →
        (∃ key parent, error = .unknownParent key parent) ∨
          ∃ parent child, error = .host (.cycle parent child)) ∧
      ∀ passed stage, passed <+: document.declared → document.placing passed = .ok stage →
        ∀ parent child, stage.host.AttachLaw parent child := by
  have built : document.build = document.placing document.declared >>= fun placed =>
      .ok (placed.withMetrics document.metrics) := by
    rw [build_eq_placing]
    exact congrArg _ (funext tree.finishing_eq)
  have laws (passed : List DeclaredView) (stage : Builder) (first : passed <+: document.declared)
      (done : document.placing passed = .ok stage) (parent child : ViewId) :
      stage.host.AttachLaw parent child := by
    rcases tree.declaresKeys.placing_cases first with
      ⟨same, goes, placed, -⟩ | ⟨-, error, failed, -⟩
    · obtain rfl := Except.ok.inj (goes.symm.trans done)
      exact placed.forest.attachLaw parent child
    · exact absurd (failed.symm.trans done) nofun
  rcases tree.declaresKeys.placing_cases (List.prefix_refl document.declared) with
    ⟨stage, done, placed, attached⟩ | ⟨unnested, error, failed, kind⟩
  · rw [done] at built
    have nests := placed.nests tree attached
    refine ⟨⟨fun _ => placed.wellNested attached (List.Subset.refl _), fun _ => ⟨_, built⟩⟩, ?_, ?_,
      laws⟩
    · intro builder goes
      obtain rfl := Except.ok.inj (built.symm.trans goes)
      exact ⟨nests.container, nests.keys, nests.parents, nests.children⟩
    · intro error failed
      exact absurd (built.symm.trans failed) nofun
  · rw [failed] at built
    refine ⟨⟨?_, fun nested => absurd nested unnested⟩, ?_, ?_, laws⟩
    · rintro ⟨builder, goes⟩
      exact absurd (built.symm.trans goes) nofun
    · intro builder goes
      exact absurd (built.symm.trans goes) nofun
    · intro found fails
      obtain rfl := Except.error.inj (built.symm.trans fails)
      exact kind

/-- A document of views, each declared in the view of a key or in the container. -/
def ofParents (parents : List (String × Option String)) : Document where
  configuration := {}
  width := 100
  height := 50
  metrics := .empty
  guides := []
  views := parents.map fun entry =>
    { key := entry.1, size := none, parent := entry.2, hugging := .both none,
      resistance := .both none }
  constraints := []
  sequence := none

/-- A view may be declared before its parent, but two views cannot be declared in each other. -/
theorem build_nests_as_declared_of_late_parent :
    let nested := ofParents [("a", some "b"), ("b", some "parent"), ("c", some "b"), ("d", none)]
    let cyclic := ofParents [("a", some "b"), ("b", some "a")]
    (∃ builder, nested.build = .ok builder ∧ nested.Nests builder ∧ nested.WellNested) ∧
      cyclic.build = .error (.host (.cycle 1 2)) ∧ ¬cyclic.WellNested := by
  intro nested cyclic
  have tree : nested.DeclaresTree := ⟨by decide, by decide, nofun, by decide, rfl, rfl⟩
  have circle : cyclic.DeclaresTree := ⟨by decide, by decide, nofun, by decide, rfl, rfl⟩
  have nests := build_nests_as_declared tree
  have cycles := build_nests_as_declared circle
  have builds : nested.build.toOption.isSome = true := by decide +kernel
  obtain ⟨builder, found⟩ := Option.isSome_iff_exists.1 builds
  have built := eq_ok_of_toOption found
  have refused : cyclic.build = .error (.host (.cycle 1 2)) := by
    have fails : (match cyclic.build with
        | .error error => decide (error = .host (.cycle 1 2))
        | .ok _ => false) = true := by
      decide +kernel
    split at fails
    · rename_i error failed
      rw [failed, of_decide_eq_true fails]
    · contradiction
  refine ⟨⟨builder, built, nests.2.1 builder built, nests.1.1 ⟨builder, built⟩⟩, refused, ?_⟩
  intro wellNested
  obtain ⟨builder, built⟩ := cycles.1.2 wellNested
  exact absurd (built.symm.trans refused) nofun

end Document

end ViewLayout
