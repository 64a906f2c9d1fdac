import ViewLayout.Proofs.Builder.Priorities
import ViewLayout.Proofs.Document.Reporting
import ViewLayout.Proofs.Host.Liveness

/-!
# The content priorities of a document

A declared content priority is set for the declared view and for everything nested in it, and the
declarations are gone through in their order. So a view ends up with the priority that is declared
last among its own and those of the views it is nested in (`LastDeclared`). That is its own, or that
of the nearest view around it (`Inherited`), where every view is declared behind the view it is
nested in, but not where a view around it comes later.
-/

namespace ViewLayout

open ViewLayout.Number ViewLayout.Outcome

/-- The content priority that is declared for a view, if there is one. -/
def ViewDeclaration.priority? (declaration : ViewDeclaration) (kind : ContentPriority)
    (axis : Axis) : Option Priority :=
  match kind with
  | .hugging => declaration.hugging.get axis
  | .resistance => declaration.resistance.get axis

/-- The content priority of a view for which none is set. -/
def ContentPriority.initial : ContentPriority → Priority
  | .hugging => .low
  | .resistance => .high

/-- A view that is nested in another one is declared in it. -/
theorem ViewDeclaration.parentIn_of_nestedIn? {declaration : ViewDeclaration}
    {container parent : String} (nested : declaration.nestedIn? container = some parent) :
    declaration.parentIn container = parent := by
  rw [nestedIn?, Option.filter_eq_some_iff] at nested
  rw [parentIn, nested.1, Option.getD_some]

namespace Document

variable {document : Document}

/-! ## What a document declares -/

/-- A view has a key, or it is nested in the declared view of the key, directly or by way of
others. -/
inductive Within (document : Document) (upper : String) : ViewDeclaration → Prop
  /-- The view of the key itself. -/
  | self {declaration : ViewDeclaration} : declaration.key = upper →
      document.Within upper declaration
  /-- A view that is nested in such a view. -/
  | inside {declaration parent : ViewDeclaration} : parent ∈ document.views →
      declaration.nestedIn? document.configuration.parentKey = some parent.key →
      document.Within upper parent → document.Within upper declaration

/-- The priority that is declared last for a view, among its own and those of the views it is nested
in, in a list of declarations. -/
inductive LastDeclared (document : Document) (views : List ViewDeclaration)
    (kind : ContentPriority) (axis : Axis) (declaration : ViewDeclaration) : Priority → Prop
  /-- A declaration of the view or of a view around it, behind which there is no other. -/
  | declared {before after : List ViewDeclaration} {upper : ViewDeclaration} {priority : Priority} :
      views = before ++ upper :: after → document.Within upper.key declaration →
      upper.priority? kind axis = some priority →
      (∀ later ∈ after, document.Within later.key declaration →
        later.priority? kind axis = none) →
      document.LastDeclared views kind axis declaration priority
  /-- None is declared. -/
  | initial : (∀ upper ∈ views, document.Within upper.key declaration →
      upper.priority? kind axis = none) →
      document.LastDeclared views kind axis declaration kind.initial

/-- The priority that is declared for a view, or else for the nearest view around it. -/
inductive Inherited (document : Document) (kind : ContentPriority) (axis : Axis) :
    ViewDeclaration → Priority → Prop
  /-- The view has its own. -/
  | own {declaration : ViewDeclaration} {priority : Priority} :
      declaration.priority? kind axis = some priority →
      document.Inherited kind axis declaration priority
  /-- The view has that of the view it is nested in. -/
  | around {declaration parent : ViewDeclaration} {priority : Priority} :
      declaration.priority? kind axis = none → parent ∈ document.views →
      declaration.nestedIn? document.configuration.parentKey = some parent.key →
      document.Inherited kind axis parent priority →
      document.Inherited kind axis declaration priority
  /-- The view is directly in the container. -/
  | initial {declaration : ViewDeclaration} : declaration.priority? kind axis = none →
      declaration.nestedIn? document.configuration.parentKey = none →
      document.Inherited kind axis declaration kind.initial

/-- A declaration comes before another one. -/
def Precedes (views : List ViewDeclaration) (one other : ViewDeclaration) : Prop :=
  ∃ before after, views = before ++ one :: after ∧ other ∈ after

/-- Every view is declared behind the view it is nested in. -/
def ParentsFirst (document : Document) : Prop :=
  ∀ declaration ∈ document.views, ∀ parent ∈ document.views,
    declaration.nestedIn? document.configuration.parentKey = some parent.key →
    Precedes document.views parent declaration

/-- In another order of its views, a view and the views it is nested in come in the order they
had. -/
def KeepsOrder (document : Document) (views : List ViewDeclaration) : Prop :=
  ∀ one ∈ document.views, ∀ other ∈ document.views,
    document.Within one.key other ∨ document.Within other.key one →
    (Precedes document.views one other ↔ Precedes views one other)

/-! ## Nesting -/

/-- A view directly in the container is nested in no other. -/
theorem within_iff_of_outer {declaration : ViewDeclaration} {upper : String}
    (outer : declaration.nestedIn? document.configuration.parentKey = none) :
    document.Within upper declaration ↔ declaration.key = upper := by
  constructor
  · intro within
    cases within with
    | self same => exact same
    | inside _ nested _ => exact absurd (outer.symm.trans nested) nofun
  · exact .self

namespace DeclaresKeys

variable (keyed : document.DeclaresKeys)

include keyed

/-- A key belongs to one view. -/
theorem eq_of_view_key {one other : ViewDeclaration} (first : one ∈ document.views)
    (second : other ∈ document.views) (same : one.key = other.key) : one = other :=
  List.inj_on_of_nodup_map keyed.distinct first second same

/-- What a nested view is within is the view itself or what the view around it is within. -/
theorem within_iff_of_nested {declaration parent : ViewDeclaration} {upper : String}
    (present : parent ∈ document.views)
    (nested : declaration.nestedIn? document.configuration.parentKey = some parent.key) :
    document.Within upper declaration ↔
      declaration.key = upper ∨ document.Within upper parent := by
  constructor
  · intro within
    cases within with
    | self same => exact .inl same
    | inside listed around above =>
      have same := Option.some.inj (around.symm.trans nested)
      rw [keyed.eq_of_view_key listed present same] at above
      exact .inr above
  · rintro (same | above)
    · exact .self same
    · exact .inside present nested above

/-- Of two views that a view is nested in, one is nested in the other. -/
theorem within_total {one other : ViewDeclaration} (first : one ∈ document.views)
    (second : other ∈ document.views) {lower : ViewDeclaration} (listed : lower ∈ document.views)
    (within : document.Within one.key lower) (also : document.Within other.key lower) :
    document.Within one.key other ∨ document.Within other.key one := by
  induction within with
  | self same =>
    rw [keyed.eq_of_view_key listed first same] at also
    exact .inr also
  | inside present nested above ih =>
    obtain same | around := (keyed.within_iff_of_nested present nested).1 also
    · rw [← keyed.eq_of_view_key listed second same]
      exact .inl (.inside present nested above)
    · exact ih present around

end DeclaresKeys

/-- The views lie above each other as they are nested. -/
theorem Placed.atOrAbove_iff {builder : Builder}
    (placed : document.Placed document.declared builder) (keyed : document.DeclaresKeys)
    {upper lower : DeclaredView} (first : upper ∈ document.declared)
    (listed : lower ∈ document.declared) :
    builder.host.AtOrAbove upper.2 lower.2 ↔ document.Within upper.1.key lower.1 := by
  constructor
  · rintro ⟨steps, reached⟩
    induction steps generalizing lower with
    | zero =>
      rw [eq_of_created listed first (Option.some.inj reached)]
      exact .self rfl
    | succ steps ih =>
      obtain ⟨parent, up, later⟩ := Option.bind_eq_some_iff.1 reached
      obtain ⟨entry, among, same, stands⟩ := placed.parent?_eq_some_iff.1 up
      obtain rfl := eq_of_created among listed same
      by_cases outer : entry.1.parentIn document.configuration.parentKey =
          document.configuration.parentKey
      · rw [parentOf?, nodeOf?, if_pos outer] at stands
        obtain rfl := Option.some.inj stands
        have above : builder.host.AtOrAbove upper.2 document.start.container := ⟨steps, later⟩
        exact absurd above
          (placed.not_above_container (List.Subset.refl _) (mem_of_declared first).2)
      · obtain ⟨declaration, made, named⟩ := exists_of_nodeOf? outer stands
        have nested := ViewDeclaration.nestedIn?_eq_some outer
        rw [← named] at nested
        exact .inside (mem_of_declared made).1 nested (ih made later)
  · intro within
    obtain ⟨declaration, view⟩ := lower
    dsimp only at within ⊢
    induction within generalizing view with
    | self same =>
      obtain rfl := keyed.eq_of_key listed first same
      exact Host.atOrAbove_iff.2 (.inl rfl)
    | @inside declaration parent present nested above ih =>
      obtain ⟨node, made⟩ := exists_declared present
      have stands : document.parentOf? (declaration, view) = some node := by
        rw [parentOf?, ViewDeclaration.parentIn_of_nestedIn? nested]
        exact keyed.nodeOf?_key made
      have up := placed.parent?_eq_some_iff.2 ⟨_, listed, rfl, stands⟩
      exact Host.atOrAbove_iff.2 (.inr ⟨node, up, ih node made⟩)

/-! ## Setting the declared priorities -/

/-- Setting the declared priorities of one kind sets those that are declared. -/
theorem setsBelow_prioritize (kind : ContentPriority) (key : String)
    (priorities : PerAxis (Option Priority)) :
    Builder.SetsBelow (prioritize kind key priorities) key
      (fun axis which => if which = kind then priorities.get axis else none) := by
  have along {step : Builder → Except ConstraintError Builder} (axis : Axis)
      (goes : ∀ priority, priorities.get axis = some priority →
        step = (·.setContentPriority key priority axis kind))
      (rests : priorities.get axis = none → step = .ok) : Builder.SetsBelow step key
        (fun other which => if other = axis ∧ which = kind then priorities.get axis else none) := by
    cases declares : priorities.get axis with
    | some priority =>
      rw [goes priority declares]
      exact Builder.setsBelow_setContentPriority key priority axis kind
    | none =>
      rw [rests declares]
      intro builder view _ _ _
      refine ⟨builder.host, rfl, ?_⟩
      simp only [ite_self]
      exact .refl builder.host view
  have same : (fun axis which => if which = kind then priorities.get axis else none) =
      fun axis which =>
        (if axis = .vertical ∧ which = kind then priorities.get .vertical else none).or
          (if axis = .horizontal ∧ which = kind then priorities.get .horizontal else none) := by
    funext axis which
    cases axis <;> by_cases here : which = kind <;> simp [here]
  rw [same]
  change Builder.SetsBelow (fun builder => prioritize kind key priorities builder) key _
  simp only [prioritize, List.foldlM_cons, List.foldlM_nil, bind_pure]
  -- The axes are gone through one after the other, each with or without a declared priority.
  apply Builder.SetsBelow.bind
  all_goals
    apply along
    case goes =>
      intro priority declares
      simp only [declares]
    case rests =>
      intro declares
      simp only [declares]

/-- Setting the declared priorities of a view sets those that are declared. -/
theorem setsBelow_prioritizeView (declaration : ViewDeclaration) :
    Builder.SetsBelow (fun builder => prioritizeView builder declaration) declaration.key
      (fun axis kind => declaration.priority? kind axis) := by
  have both := (setsBelow_prioritize .hugging declaration.key declaration.hugging).bind
    (setsBelow_prioritize .resistance declaration.key declaration.resistance)
  have same : (fun axis kind => declaration.priority? kind axis) = fun axis kind =>
      (if kind = .resistance then declaration.resistance.get axis else none).or
        (if kind = .hugging then declaration.hugging.get axis else none) := by
    funext axis kind
    cases kind <;> simp [ViewDeclaration.priority?]
  rw [same]
  exact both

/-- One more declaration counts for the views it is about, and for no others. -/
theorem LastDeclared.concat {passed : List ViewDeclaration} {kind : ContentPriority} {axis : Axis}
    {declaration last : ViewDeclaration} {priority : Priority}
    (before : document.LastDeclared passed kind axis declaration priority)
    (spared : document.Within last.key declaration → last.priority? kind axis = none) :
    document.LastDeclared (passed ++ [last]) kind axis declaration priority := by
  cases before with
  | @declared before after upper _ split within set behind =>
    rw [split, List.append_assoc, List.cons_append]
    refine .declared rfl within set fun later listed meets => ?_
    obtain earlier | only := List.mem_append.1 listed
    · exact behind later earlier meets
    · rw [List.mem_singleton.1 only] at meets ⊢
      exact spared meets
  | initial clear =>
    refine .initial fun upper listed meets => ?_
    obtain earlier | only := List.mem_append.1 listed
    · exact clear upper earlier meets
    · rw [List.mem_singleton.1 only] at meets ⊢
      exact spared meets

/-- Every declared view has the priorities that the declarations passed so far give it, and nothing
else has changed since the views were attached. -/
structure Weighted (document : Document) (placed : Builder) (passed : List ViewDeclaration)
    (builder : Builder) : Prop where
  /-- Only content priorities changed. -/
  besides : ∃ host, builder = { placed with host } ∧
    host.withoutPriorities = placed.host.withoutPriorities
  /-- Every view has the priority that was declared last for it so far. -/
  priorities : ∀ entry ∈ document.declared, ∀ kind axis, ∃ priority,
    document.LastDeclared passed kind axis entry.1 priority ∧
      builder.host.contentPriority? entry.2 axis kind = some priority

/-- Setting the declared priorities of one more view. -/
theorem Weighted.concat {placed builder next : Builder} {passed : List ViewDeclaration}
    (weighted : document.Weighted placed passed builder)
    (nested : document.Placed document.declared placed) (keyed : document.DeclaresKeys)
    {declaration : ViewDeclaration} (present : declaration ∈ document.views)
    (done : prioritizeView builder declaration = .ok next) :
    document.Weighted placed (passed ++ [declaration]) next := by
  obtain ⟨⟨host, rfl, besides⟩, priorities⟩ := weighted
  obtain ⟨view, made⟩ := exists_declared present
  have tree := Host.tree_of_withoutPriorities besides
  have resolved : placed.registry.resolveView declaration.key = .ok view := by
    rw [Registry.resolveView, nested.keys _ made]
  have known : host.knows (.view view) = true := by
    rw [Host.knows_of_tree tree, nested.nodes]
    exact start_knows (.inr (mem_of_declared made).2)
  obtain ⟨after, goes, set⟩ := setsBelow_prioritizeView declaration { placed with host } view
    (nested.forest.of_tree tree) resolved known
  obtain rfl := Except.ok.inj (goes.symm.trans done)
  refine ⟨⟨after, rfl, set.besides.trans besides⟩, fun entry listed kind axis => ?_⟩
  have meets : host.AtOrAbove view entry.2 ↔ document.Within declaration.key entry.1 :=
    (Host.atOrAbove_of_tree tree).trans (nested.atOrAbove_iff keyed made listed)
  by_cases spared : document.Within declaration.key entry.1 → declaration.priority? kind axis = none
  · obtain ⟨priority, last, holds⟩ := priorities entry listed kind axis
    refine ⟨priority, last.concat spared, ?_⟩
    rw [← holds]
    exact set.outside entry.2 axis kind fun below => spared (meets.1 below)
  · obtain ⟨within, some⟩ := Classical.not_imp.1 spared
    obtain ⟨priority, chosen⟩ := Option.ne_none_iff_exists'.1 some
    have last : document.LastDeclared (passed ++ [declaration]) kind axis entry.1 priority :=
      .declared rfl within chosen fun later listed => absurd listed List.not_mem_nil
    exact ⟨priority, last, set.inside entry.2 axis kind priority (meets.2 within) chosen⟩

/-! ## Building -/

/-- Before any view is attached, no content priority has been set. -/
theorem start_priorities {view : ViewId} (known : document.start.host.knows (.view view) = true)
    (kind : ContentPriority) (axis : Axis) :
    document.start.host.contentPriority? view axis kind = some kind.initial := by
  let unset (host : Host) : Prop :=
    ∀ data ∈ host.views, ∀ kind axis, data.priority kind axis = kind.initial
  have created (host : Host) (content : Option (PerAxis Binary64)) (held : unset host) :
      unset (host.createView content).1 := by
    intro data listed kind axis
    obtain earlier | only := List.mem_append.1 listed
    · exact held data earlier kind axis
    · rw [List.mem_singleton.1 only]
      cases kind <;> cases axis <;> rfl
  have empty : unset (Host.ofConfiguration document.configuration) :=
    fun data listed => absurd listed List.not_mem_nil
  have viewed := createEach_keeps unset (fun host view => created host view.size)
    document.views (created _ none empty)
  have started : unset document.start.host :=
    createEach_keeps unset (fun _ _ held => held) document.guides viewed
  obtain ⟨data, found⟩ := Host.knows_view_iff.1 known
  rw [Host.contentPriority?, found, Option.map_some,
    started data (List.mem_of_getElem? found) kind axis]

/-- Attaching the views changes nothing outside the tree. -/
theorem outsideTree_of_placing {passed : List DeclaredView} {placed : Builder}
    (done : document.placing passed = .ok placed) :
    placed.host.outsideTree = document.start.host.outsideTree := by
  obtain ⟨guided, guides, places⟩ := bind_eq_ok_iff.1 done
  let still (builder : Builder) : Prop :=
    builder.host.outsideTree = document.start.host.outsideTree
  have afterGuides : still guided := by
    refine foldlM_keeps still ?_ rfl (mapError_eq_ok_iff.1 guides)
    intro state here guide _ next registered
    obtain ⟨registry, -, rfl⟩ := Builder.register_eq_ok_iff.1 registered
    exact here
  refine foldlM_keeps still ?_ afterGuides places
  intro state here entry _ next stepped
  unfold place at stepped
  dsimp only at stepped
  split at stepped
  · obtain ⟨registry, host, -, attached, rfl⟩ :=
      Builder.addView_eq_ok_iff.1 (mapError_eq_ok_iff.1 stepped)
    exact (Host.outsideTree_of_attach attached).trans here
  · split at stepped
    · contradiction
    · obtain ⟨registered, registers, rest⟩ := bind_eq_ok_iff.1 stepped
      obtain ⟨registry, -, rfl⟩ := Builder.register_eq_ok_iff.1 (mapError_eq_ok_iff.1 registers)
      obtain ⟨host, attached, replaced⟩ := bind_eq_ok_iff.1 rest
      obtain rfl := Except.ok.inj replaced
      exact (Host.outsideTree_of_attach (mapError_eq_ok_iff.1 attached)).trans here

/-- A document that is built has no view and no guide with the parent key. -/
theorem declaresKeys_of_build {builder : Builder} (built : document.build = .ok builder)
    (distinct : (document.views.map (·.key)).Nodup) : document.DeclaresKeys := by
  have reserved : builder.registry.parentKey = document.configuration.parentKey :=
    (shows_of_build built).lists.parentKey
  refine ⟨distinct, fun view listed => ?_, fun guide listed => ?_⟩
  · rw [← reserved]
    exact view_ne_parentKey_of_build built listed
  · rw [← reserved]
    exact guide_ne_parentKey_of_build built listed

/-- In a document without a sequence every key stands for its view, and every view has the priority
that is declared last for it. -/
theorem lastDeclared_of_build {builder : Builder} (built : document.build = .ok builder)
    (unsequenced : document.sequence = none) (keyed : document.DeclaresKeys) :
    document.WellNested ∧ ∀ entry ∈ document.declared,
      builder.registry.resolve entry.1.key = .ok (.view entry.2) ∧
      ∀ kind axis, ∃ priority,
        document.LastDeclared document.views kind axis entry.1 priority ∧
          builder.host.contentPriority? entry.2 axis kind = some priority := by
  rw [build_eq_placing] at built
  obtain ⟨stage, placing, finishes⟩ := bind_eq_ok_iff.1 built
  obtain ⟨weighted, weighs, rest⟩ := bind_eq_ok_iff.1 finishes
  obtain ⟨applied, applies, rest⟩ := bind_eq_ok_iff.1 rest
  rw [unsequenced] at rest
  obtain rfl := Except.ok.inj rest
  obtain ⟨placed, done, nested, attached⟩ | ⟨-, error, failed, -⟩ :=
    keyed.placing_cases (List.prefix_refl document.declared)
  case inr => exact absurd (failed.symm.trans placing) nofun
  obtain rfl := Except.ok.inj (done.symm.trans placing)
  have begins : document.Weighted placed [] placed := by
    refine ⟨⟨placed.host, rfl, rfl⟩, fun entry listed kind axis => ?_⟩
    refine ⟨kind.initial, .initial fun upper listed => absurd listed List.not_mem_nil, ?_⟩
    rw [Host.contentPriority?_of_outsideTree (outsideTree_of_placing placing)]
    exact start_priorities (start_knows (.inr (mem_of_declared listed).2)) kind axis
  have all : document.Weighted placed document.views weighted :=
    foldlM_collects (document.Weighted placed)
      (fun _ _ here _ present _ stepped => here.concat nested keyed present stepped)
      begins (mapError_eq_ok_iff.1 weighs)
  obtain ⟨⟨host, rfl, -⟩, priorities⟩ := all
  -- Constraint texts are stored, and leave the views and the keys as they are.
  let still (builder : Builder) : Prop :=
    builder.host.views = host.views ∧ builder.registry = placed.registry
  have measured : still (Builder.withMetrics { placed with host } document.metrics) := ⟨rfl, rfl⟩
  obtain ⟨views, registry⟩ : still applied := by
    refine foldlM_keeps still ?_ measured (mapError_eq_ok_iff.1 applies)
    intro state here text _ next stepped
    obtain ⟨descriptors, stored, -, -, rfl⟩ := Builder.exists_stores_of_addConstraint stepped
    exact here
  refine ⟨nested.wellNested attached (List.Subset.refl _), fun entry listed => ⟨?_, ?_⟩⟩
  · rw [registry]
    exact nested.keys entry listed
  · intro kind axis
    obtain ⟨priority, last, holds⟩ := priorities entry listed kind axis
    refine ⟨priority, last, ?_⟩
    rw [← holds, Host.contentPriority?, Host.contentPriority?, Host.view?, Host.view?, views]

/-! ## The order of declarations -/

/-- Of different declarations, what comes before another one leaves it behind. -/
theorem Precedes.mem_of_split {views before after : List ViewDeclaration}
    {one other : ViewDeclaration} (precedes : Precedes views one other) (distinct : views.Nodup)
    (split : views = before ++ one :: after) : other ∈ after := by
  obtain ⟨front, back, same, behind⟩ := precedes
  have alone : one ∉ front ∧ one ∉ back := by
    rw [same, List.nodup_middle, List.nodup_cons, List.mem_append] at distinct
    exact not_or.1 distinct.1
  have equal := same.symm.trans split
  rw [List.append_cons_inj_of_notMem alone.1 alone.2] at equal
  exact equal.2.2 ▸ behind

/-- Of different declarations, coming before is passed on. -/
theorem Precedes.trans {views : List ViewDeclaration} {one middle other : ViewDeclaration}
    (distinct : views.Nodup) (first : Precedes views one middle)
    (second : Precedes views middle other) : Precedes views one other := by
  obtain ⟨before, after, split, behind⟩ := first
  obtain ⟨front, back, rest⟩ := List.append_of_mem behind
  refine ⟨before, after, split, ?_⟩
  rw [rest, ← List.cons_append, ← List.append_assoc] at split
  rw [rest]
  exact List.mem_append_right _ (List.mem_cons_of_mem _ (second.mem_of_split distinct split))

namespace DeclaresKeys

variable (keyed : document.DeclaresKeys)

include keyed

/-- The declarations are different. -/
theorem nodup_views : document.views.Nodup := keyed.distinct.of_map

/-- Where views are declared behind those they are nested in, they are so at any depth. -/
theorem precedes_of_within (ordered : document.ParentsFirst) {upper lower : ViewDeclaration}
    (first : upper ∈ document.views) (listed : lower ∈ document.views)
    (within : document.Within upper.key lower) (differ : lower ≠ upper) :
    Precedes document.views upper lower := by
  induction within with
  | self same => exact absurd (keyed.eq_of_view_key listed first same) differ
  | @inside lower parent present nested above ih =>
    have behind := ordered lower listed parent present nested
    by_cases outer : parent = upper
    · exact outer ▸ behind
    · exact (ih present outer).trans keyed.nodup_views behind

variable {kind : ContentPriority} {axis : Axis}

/-- Where views are declared behind those they are nested in, a priority of a view's own is declared
last for it. -/
theorem eq_of_own (ordered : document.ParentsFirst) {declaration : ViewDeclaration}
    (listed : declaration ∈ document.views) {own priority : Priority}
    (declares : declaration.priority? kind axis = some own)
    (last : document.LastDeclared document.views kind axis declaration priority) :
    priority = own := by
  cases last with
  | initial clear => exact absurd ((clear declaration listed (.self rfl)).symm.trans declares) nofun
  | @declared before after upper _ split within set behind =>
    have present : upper ∈ document.views := split ▸ List.mem_append_cons_self
    by_cases same : declaration = upper
    · rw [← same, declares] at set
      exact (Option.some.inj set).symm
    · have precedes := keyed.precedes_of_within ordered present listed within same
      have later := precedes.mem_of_split keyed.nodup_views split
      exact absurd ((behind declaration later (.self rfl)).symm.trans declares) nofun

/-- What is declared last for a view without a priority of its own is declared last for the view
around it. -/
theorem lastDeclared_around {declaration parent : ViewDeclaration}
    (listed : declaration ∈ document.views) (present : parent ∈ document.views)
    (nested : declaration.nestedIn? document.configuration.parentKey = some parent.key)
    (lacks : declaration.priority? kind axis = none) {priority : Priority}
    (last : document.LastDeclared document.views kind axis declaration priority) :
    document.LastDeclared document.views kind axis parent priority := by
  have around {upper : ViewDeclaration} (above : document.Within upper.key parent) :
      document.Within upper.key declaration := .inside present nested above
  cases last with
  | initial clear => exact .initial fun upper among above => clear upper among (around above)
  | @declared before after upper _ split within set behind =>
    refine .declared split ?_ set fun later among above => behind later among (around above)
    obtain same | above := (keyed.within_iff_of_nested present nested).1 within
    · have among : upper ∈ document.views := split ▸ List.mem_append_cons_self
      rw [keyed.eq_of_view_key listed among same, set] at lacks
      contradiction
    · exact above

/-- Where views are declared behind those they are nested in, what is declared last for a view is
its own or that of the nearest view around it. -/
theorem inherited_of_lastDeclared (ordered : document.ParentsFirst)
    (wellNested : document.WellNested) {declaration : ViewDeclaration}
    (listed : declaration ∈ document.views) {priority : Priority}
    (last : document.LastDeclared document.views kind axis declaration priority) :
    document.Inherited kind axis declaration priority := by
  have reaches := wellNested.reaches declaration listed
  generalize named : declaration.key = key at reaches
  induction reaches generalizing declaration with
  | container => exact absurd named (keyed.views declaration listed)
  | @view found present above ih =>
    obtain rfl := keyed.eq_of_view_key listed present named
    cases declares : declaration.priority? kind axis with
    | some own =>
      rw [keyed.eq_of_own ordered listed declares last]
      exact .own declares
    | none =>
      cases nested : declaration.nestedIn? document.configuration.parentKey with
      | none =>
        have alone : priority = kind.initial := by
          cases last with
          | initial _ => rfl
          | @declared before after upper _ split within set _ =>
            have among : upper ∈ document.views := split ▸ List.mem_append_cons_self
            have same := (within_iff_of_outer nested).1 within
            rw [← keyed.eq_of_view_key listed among same, declares] at set
            contradiction
        rw [alone]
        exact .initial declares nested
      | some key =>
        obtain ⟨parent, among, rfl⟩ : ∃ parent ∈ document.views, parent.key = key := by
          rw [ViewDeclaration.nestedIn?, Option.filter_eq_some_iff] at nested
          obtain outer | inner := wellNested.known declaration listed key nested.1
          · exact absurd outer (of_decide_eq_true nested.2)
          · exact inner
        have later := keyed.lastDeclared_around listed among nested declares last
        refine .around declares among nested (ih among later ?_)
        exact (ViewDeclaration.parentIn_of_nestedIn? nested).symm

end DeclaresKeys

/-! ## Other orders of declarations -/

/-- Of two different declarations one comes before the other. -/
theorem precedes_total {views : List ViewDeclaration} {one other : ViewDeclaration}
    (first : one ∈ views) (second : other ∈ views) (differ : one ≠ other) :
    Precedes views one other ∨ Precedes views other one := by
  obtain ⟨before, after, split⟩ := List.append_of_mem first
  rw [split, List.mem_append, List.mem_cons] at second
  obtain earlier | same | later := second
  · obtain ⟨front, back, rest⟩ := List.append_of_mem earlier
    refine .inr ⟨front, back ++ one :: after, ?_, ?_⟩
    · rw [split, rest, List.append_assoc, List.cons_append]
    · exact List.mem_append_cons_self
  · exact absurd same.symm differ
  · exact .inl ⟨before, after, split, later⟩

/-- Nesting does not depend on the order of declarations. -/
theorem within_of_perm {views : List ViewDeclaration} (same : views.Perm document.views)
    {upper : String} {declaration : ViewDeclaration}
    (within : Within { document with views } upper declaration) :
    document.Within upper declaration := by
  induction within with
  | self named => exact .self named
  | inside present nested _ ih => exact .inside (same.mem_iff.1 present) nested ih

/-- In another order of declarations, what is declared last for a view is the same when the view and
the views it is nested in come in the order they had. -/
theorem DeclaresKeys.lastDeclared_of_keepsOrder (keyed : document.DeclaresKeys)
    {views : List ViewDeclaration} (same : views.Perm document.views)
    (keeps : document.KeepsOrder views) {declaration : ViewDeclaration}
    (listed : declaration ∈ document.views) {kind : ContentPriority} {axis : Axis}
    {priority found : Priority}
    (last : document.LastDeclared document.views kind axis declaration priority)
    (moved : LastDeclared { document with views } views kind axis declaration found) :
    found = priority := by
  have within {upper : ViewDeclaration} (above : document.Within upper.key declaration) :
      Within { document with views } upper.key declaration :=
    @within_of_perm { document with views } document.views same.symm _ _ above
  have clash {upper : ViewDeclaration} {some : Priority}
      (none : upper.priority? kind axis = none) (set : upper.priority? kind axis = .some some) :
      False := absurd (none.symm.trans set) nofun
  cases last with
  | initial clear =>
    cases moved with
    | initial _ => rfl
    | @declared front back other _ rest around set _ =>
      have among : other ∈ views := rest ▸ List.mem_append_cons_self
      exact (clash (clear other (same.mem_iff.1 among) (within_of_perm same around)) set).elim
  | @declared before after upper _ split above set behind =>
    have present : upper ∈ document.views := split ▸ List.mem_append_cons_self
    cases moved with
    | initial clear =>
      exact (clash (clear upper (same.mem_iff.2 present) (within above)) set).elim
    | @declared front back other _ rest around also behindOther =>
      have among : other ∈ views := rest ▸ List.mem_append_cons_self
      have inside := within_of_perm same around
      have there := same.mem_iff.1 among
      by_cases one : upper = other
      · rw [one, also] at set
        exact Option.some.inj set
      · obtain first | second := precedes_total present there one
        · have later := first.mem_of_split keyed.nodup_views split
          exact (clash (behind other later inside) also).elim
        · have nested := keyed.within_total there present listed inside above
          have still := (keeps other there upper present nested).1 second
          have later := still.mem_of_split (same.nodup_iff.2 keyed.nodup_views) rest
          exact (clash (behindOther upper later (within above)) set).elim

/-! ## The priorities of a layout -/

/-- A layout has the content priorities that a document declares. -/
structure PriorityLaw (document : Document) (builder : Builder) : Prop where
  /-- The key of a declaration stands for the view created for it. -/
  keys : ∀ entry ∈ document.declared, builder.registry.resolve entry.1.key = .ok (.view entry.2)
  /-- Every view has the priority that is declared last among its own and those of the views it is
  nested in. -/
  last : ∀ entry ∈ document.declared, ∀ kind axis, ∃ priority,
    document.LastDeclared document.views kind axis entry.1 priority ∧
      builder.host.contentPriority? entry.2 axis kind = some priority
  /-- Where every view is declared behind the view it is nested in, every view has its own priority,
  or else that of the nearest view around it. -/
  inherited : document.ParentsFirst → ∀ entry ∈ document.declared, ∀ kind axis, ∃ priority,
    document.Inherited kind axis entry.1 priority ∧
      builder.host.contentPriority? entry.2 axis kind = some priority
  /-- In another order of declarations, no priority changes when every view and the views it is
  nested in come in the order they had. -/
  reordered : ∀ (views : List ViewDeclaration) (rebuilt : Builder), views.Perm document.views →
    document.KeepsOrder views → build { document with views } = .ok rebuilt →
    ∀ entry ∈ document.declared, ∀ moved ∈ declared { document with views }, moved.1 = entry.1 →
      ∀ kind axis, rebuilt.host.contentPriority? moved.2 axis kind =
        builder.host.contentPriority? entry.2 axis kind

/-- Every document without a sequence whose views have different keys is built, if it is, with the
content priorities that it declares. -/
theorem build_obeys_priorityLaw {builder : Builder}
    (distinct : (document.views.map (·.key)).Nodup) (unsequenced : document.sequence = none)
    (built : document.build = .ok builder) : document.PriorityLaw builder := by
  have keyed := declaresKeys_of_build built distinct
  obtain ⟨wellNested, given⟩ := lastDeclared_of_build built unsequenced keyed
  constructor
  case keys => exact fun entry listed => (given entry listed).1
  case last => exact fun entry listed => (given entry listed).2
  case inherited =>
    intro ordered entry listed kind axis
    obtain ⟨priority, last, holds⟩ := (given entry listed).2 kind axis
    have present := (mem_of_declared listed).1
    exact ⟨priority, keyed.inherited_of_lastDeclared ordered wellNested present last, holds⟩
  case reordered =>
    intro views rebuilt same keeps builds entry listed moved among equal kind axis
    have distinctMoved : (views.map (·.key)).Nodup := (same.map _).nodup_iff.2 distinct
    have keyedMoved := declaresKeys_of_build builds distinctMoved
    obtain ⟨-, givenMoved⟩ := lastDeclared_of_build builds unsequenced keyedMoved
    obtain ⟨priority, last, holds⟩ := (given entry listed).2 kind axis
    obtain ⟨found, lastMoved, holdsMoved⟩ := (givenMoved moved among).2 kind axis
    rw [equal] at lastMoved
    have present := (mem_of_declared listed).1
    rw [holds, holdsMoved, keyed.lastDeclared_of_keepsOrder same keeps present last lastMoved]

/-- A document of views that share the width of the container, two of them beside each other. -/
def ofViews (views : List ViewDeclaration) : Document where
  configuration := {}
  width := 100
  height := 50
  metrics := .empty
  guides := []
  views
  constraints := [⟨"H:|[c][d]|", none⟩]
  sequence := none

/-- A view with a size, which is declared in the view of a key or in the container. -/
def ofSize (key : String) (parent : Option String) (hugging : Option Priority) :
    ViewDeclaration where
  key
  size := some ⟨30, 10⟩
  parent
  hugging := ⟨hugging, none⟩
  resistance := .both none

/-- A view that resists growing, in a view that does so less and is declared before it. -/
theorem build_obeys_priorityLaw_of_nested :
    let document := ofViews [ofSize "p" none (some ⟨100⟩), ofSize "c" (some "p") (some ⟨800⟩),
      ofSize "d" none none]
    (document.views.map (·.key)).Nodup ∧ document.sequence = none ∧
      ∃ builder, document.build = .ok builder ∧ document.PriorityLaw builder := by
  intro document
  have builds : document.build.toOption.isSome = true := by decide +kernel
  obtain ⟨builder, found⟩ := Option.isSome_iff_exists.1 builds
  have built := eq_ok_of_toOption found
  have distinct : (document.views.map (·.key)).Nodup := by decide
  exact ⟨distinct, rfl, builder, built, build_obeys_priorityLaw distinct rfl built⟩

/-- A view that is declared before the view it is nested in loses its own priority to the priority
of that view, and keeps it when it is declared after it. -/
theorem exists_own_priority_lost :
    let outer := ofSize "p" none (some ⟨100⟩)
    let inner := ofSize "c" (some "p") (some ⟨800⟩)
    let beside := ofSize "d" none none
    let early := ofViews [inner, outer, beside]
    let late := ofViews [outer, inner, beside]
    (early.views.map (·.key)).Nodup ∧ early.sequence = none ∧
      inner.priority? .hugging .horizontal = some ⟨800⟩ ∧
      (∃ builder view, early.build = .ok builder ∧ builder.registry.resolveView "c" = .ok view ∧
        builder.host.contentPriority? view .horizontal .hugging = some ⟨100⟩) ∧
      late.views.Perm early.views ∧
      ∃ builder view, late.build = .ok builder ∧ builder.registry.resolveView "c" = .ok view ∧
        builder.host.contentPriority? view .horizontal .hugging = some ⟨800⟩ := by
  have found {document : Document} {priority : Priority}
      (checked : ∃ builder ∈ document.build.toOption,
        ∃ view ∈ (builder.registry.resolveView "c").toOption,
          builder.host.contentPriority? view .horizontal .hugging = some priority) :
      ∃ builder view, document.build = .ok builder ∧
        builder.registry.resolveView "c" = .ok view ∧
        builder.host.contentPriority? view .horizontal .hugging = some priority := by
    obtain ⟨builder, built, view, resolved, holds⟩ := checked
    exact ⟨builder, view, eq_ok_of_toOption built, eq_ok_of_toOption resolved, holds⟩
  exact ⟨by decide, rfl, rfl, found (by decide +kernel), .swap _ _ _, found (by decide +kernel)⟩

end Document

end ViewLayout
