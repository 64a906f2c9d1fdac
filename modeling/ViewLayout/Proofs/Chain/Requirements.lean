import ViewLayout.Chain.Compile
import ViewLayout.Proofs.Number.Order
import ViewLayout.Proofs.Resolution

/-!
# What a chain requires

A chain is a list of requirements in text order: a gap of a known size, a gap that meets a
predicate, or a size that meets a predicate. `Chain.requirements` reads the list off the parts of
the chain and pairs each later view with the view listed before it; `Requirement.Met` says which
descriptor states a requirement, and `Chain.Resolvable` which chains have one for each.

The compiler instead carries the previous view through a recursion and stops at the first word
that does not resolve. `compile_lowers_requirements` says that the two agree on every text.
-/

namespace ViewLayout

open ViewLayout.Number ViewLayout.Text ViewLayout.Outcome

namespace Chain

/-- One requirement of a chain. Each becomes one descriptor. -/
inductive Requirement where
  /-- `first` lies a known distance after `second`. -/
  | gap (first second : Anchor) (size : Binary64)
  /-- The distance of `first` after `second` meets a predicate. -/
  | spaced (first second : Anchor) (predicate : Predicate)
  /-- The size of an item meets a predicate. -/
  | sized (item : Anchor) (predicate : Predicate)

/-- The predicates written in a connection. -/
def Connection.predicates : Connection → List Predicate
  | .flush => []
  | .standard => []
  | .explicit predicates => predicates

/-- What a connection requires of the two edges it lies between: no gap, the standard gap of its
place, or one requirement for each predicate. -/
def Connection.requirements (connection : Connection) (standard : Binary64)
    (first second : Anchor) : List Requirement :=
  match connection with
  | .flush => [.gap first second 0]
  | .standard => [.gap first second standard]
  | .explicit predicates => predicates.map (.spaced first second)

/-- What a view requires of its own size along the axis. -/
def Link.requirements (axis : Axis) (link : Link) : List Requirement :=
  link.predicates.map (.sized ⟨link.name.value, axis.size⟩)

/-- What a later view requires: the connection to the view before it, then its own size. -/
def joint (axis : Axis) (standard : Binary64) (previous : Link) (step : Connection × Link) :
    List Requirement :=
  step.1.requirements standard ⟨step.2.name.value, axis.leadingEdge⟩
      ⟨previous.name.value, axis.trailingEdge⟩
    ++ step.2.requirements axis

/-- What a chain requires, in text order. Each later view is paired with the view listed before
it; the connections to the container tie leading edge to leading edge and trailing edge to
trailing edge. -/
def requirements (chain : Chain) (spacing : Spacing) (parentKey : String) : List Requirement :=
  let axis := chain.axis.getD .horizontal
  (chain.leading.toList.flatMap fun connection =>
      connection.requirements spacing.superview ⟨chain.first.name.value, axis.leadingEdge⟩
        ⟨parentKey, axis.leadingEdge⟩)
    ++ chain.first.requirements axis
    ++ ((chain.links.zip chain.rest).flatMap fun pair =>
      joint axis spacing.sibling pair.1 pair.2)
    ++ chain.trailing.toList.flatMap fun connection =>
      connection.requirements spacing.superview ⟨parentKey, axis.trailingEdge⟩
        ⟨chain.last.name.value, axis.trailingEdge⟩

/-- The relation a predicate stands for: the one it writes, or equality. -/
def Predicate.Relates (predicate : Predicate) (relation : Relation) : Prop :=
  match predicate.relation with
  | some symbol => symbol.value = relation.symbol
  | none => relation = .equal

/-- A finite value from 0 to 1000. -/
def OnPriorityScale (value : Binary64) : Prop :=
  ∃ q, value.toRat? = some q ∧ 0 ≤ q ∧ q ≤ 1000

/-- The priority a predicate stands for: the value it writes, on the scale, or none. -/
def Predicate.Weighs (metrics : Metrics) (predicate : Predicate) (priority : Option Priority) :
    Prop :=
  match predicate.priority with
  | some object => ∃ value, metrics.value? object.value.text = some value ∧
      OnPriorityScale value ∧ priority = some ⟨value.convert Format.single⟩
  | none => priority = none

/-- Whether an object is a name that is in use as a key. -/
def Object.isKey (registry : Registry) : Object → Bool
  | .name key => registry.contains key
  | .number _ _ => false

/-- The descriptor that states a requirement. A size is compared with the size of another item
when the predicate names a key, and with a value otherwise. -/
inductive Requirement.Met (registry : Registry) (metrics : Metrics) :
    Requirement → Descriptor → Prop where
  | gap {first second : Anchor} {size : Binary64} :
      Met registry metrics (.gap first second size)
        { first, relation := .equal, second := some second, constant := size }
  | spaced {first second : Anchor} {predicate : Predicate} {relation : Relation}
      {constant : Binary64} {priority : Option Priority}
      (relates : predicate.Relates relation)
      (valued : metrics.value? predicate.object.value.text = some constant)
      (weighs : predicate.Weighs metrics priority) :
      Met registry metrics (.spaced first second predicate)
        { first, relation, second := some second, constant, priority }
  | likeItem {item : Anchor} {predicate : Predicate} {key : String} {relation : Relation}
      {priority : Option Priority}
      (relates : predicate.Relates relation)
      (named : predicate.object.value = .name key) (used : registry.contains key = true)
      (weighs : predicate.Weighs metrics priority) :
      Met registry metrics (.sized item predicate)
        { first := item, relation, second := some ⟨key, item.edge⟩, priority }
  | likeValue {item : Anchor} {predicate : Predicate} {relation : Relation}
      {constant : Binary64} {priority : Option Priority}
      (relates : predicate.Relates relation)
      (free : predicate.object.value.isKey registry = false)
      (valued : metrics.value? predicate.object.value.text = some constant)
      (weighs : predicate.Weighs metrics priority) :
      Met registry metrics (.sized item predicate)
        { first := item, relation, second := none, constant, priority }

/-- The connections of a chain, those to the container included. -/
def connections (chain : Chain) : List Connection :=
  chain.leading.toList ++ chain.rest.map (·.1) ++ chain.trailing.toList

/-- All predicates of a chain, on gaps and on sizes. -/
def predicates (chain : Chain) : List Predicate :=
  chain.connections.flatMap Connection.predicates ++ chain.links.flatMap Link.predicates

/-- Every word of a chain stands for something: views for nodes, relations for relations, objects
for numbers or, in a size, for items, and priorities for values on the scale. -/
structure Resolvable (chain : Chain) (registry : Registry) (metrics : Metrics) : Prop where
  /-- Every view in brackets is found. -/
  views : ∀ link ∈ chain.links, registry.Knows link.name.value
  /-- Every written relation is one of the three. -/
  relations : ∀ predicate ∈ chain.predicates, ∀ symbol ∈ predicate.relation,
    symbol.value ∈ ["==", ">=", "<="]
  /-- Every object of a gap is a metric or a literal. -/
  gaps : ∀ connection ∈ chain.connections, ∀ predicate ∈ connection.predicates,
    ∃ value, metrics.value? predicate.object.value.text = some value
  /-- Every object of a size is a key, a metric or a literal. -/
  sizes : ∀ link ∈ chain.links, ∀ predicate ∈ link.predicates,
    predicate.object.value.isKey registry = true ∨
      ∃ value, metrics.value? predicate.object.value.text = some value
  /-- Every priority is a metric or a literal from 0 to 1000. -/
  priorities : ∀ predicate ∈ chain.predicates, ∀ object ∈ predicate.priority,
    ∃ value, metrics.value? object.value.text = some value ∧ OnPriorityScale value

/-! ## Each step of the compiler states one requirement -/

/-- Looking the relation of a predicate up finds the one it stands for. -/
theorem Predicate.resolveRelation_eq_ok_iff {predicate : Predicate} {relation : Relation} :
    predicate.resolveRelation = .ok relation ↔ predicate.Relates relation := by
  unfold resolveRelation Relates
  cases predicate.relation with
  | none => simp [eq_comm]
  | some symbol => simp [placed, Relation.lookup_eq_ok_iff]

/-- Resolving an object gives the value its text stands for. -/
theorem Object.resolve_eq_ok_iff {metrics : Metrics} {object : Spanned Object}
    {value : Binary64} :
    Object.resolve metrics object = .ok value ↔
      metrics.value? object.value.text = some value := by
  unfold resolve placed
  rw [mapError_eq_ok_iff, Metrics.resolve_eq_ok_iff]

/-- The compiler's two comparisons find the values on the scale. -/
theorem onPriorityScale_iff {value : Binary64} :
    (Binary.atMost 0 value && value.atMost 1000) = true ↔ OnPriorityScale value := by
  have lowest : (0 : Binary64).toRat? = some 0 := by decide +kernel
  have highest : (1000 : Binary64).toRat? = some 1000 := by decide +kernel
  rw [Bool.and_eq_true]
  exact Binary.atMost_between_iff lowest highest

/-- Resolving the priority of a predicate gives the one it stands for. -/
theorem Predicate.resolvePriority_eq_ok_iff {metrics : Metrics} {predicate : Predicate}
    {priority : Option Priority} :
    predicate.resolvePriority metrics = .ok priority ↔ predicate.Weighs metrics priority := by
  unfold resolvePriority Weighs
  cases predicate.priority with
  | none => simp [eq_comm]
  | some object =>
    simp only [bind_eq_ok_iff, Object.resolve_eq_ok_iff, ← onPriorityScale_iff]
    constructor
    · rintro ⟨value, resolved, checked⟩
      split at checked
      · rename_i inside
        exact ⟨value, resolved, inside, (Except.ok.inj checked).symm⟩
      · contradiction
    · rintro ⟨value, resolved, inside, rfl⟩
      exact ⟨value, resolved, if_pos inside⟩

/-- A descriptor states a gap's predicate when its parts are what the predicate stands for. -/
theorem Requirement.met_spaced_iff {registry : Registry} {metrics : Metrics}
    {first second : Anchor} {predicate : Predicate} {descriptor : Descriptor} :
    Met registry metrics (.spaced first second predicate) descriptor ↔
      ∃ relation, predicate.Relates relation ∧
        ∃ constant, metrics.value? predicate.object.value.text = some constant ∧
          ∃ priority, predicate.Weighs metrics priority ∧
            { first, relation, second := some second, constant, priority } = descriptor := by
  constructor
  · intro met
    cases met with
    | spaced relates valued weighs => exact ⟨_, relates, _, valued, _, weighs, rfl⟩
  · rintro ⟨relation, relates, constant, valued, priority, weighs, rfl⟩
    exact .spaced relates valued weighs

/-- A descriptor states a size that is compared with another item's size. -/
theorem Requirement.met_sized_key_iff {registry : Registry} {metrics : Metrics} {item : Anchor}
    {predicate : Predicate} {descriptor : Descriptor} {key : String}
    (named : predicate.object.value = .name key) (used : registry.contains key = true) :
    Met registry metrics (.sized item predicate) descriptor ↔
      ∃ relation, predicate.Relates relation ∧
        ∃ priority, predicate.Weighs metrics priority ∧
          { first := item, relation, second := some ⟨key, item.edge⟩, priority }
            = descriptor := by
  constructor
  · intro met
    cases met with
    | likeItem relates otherNamed _ weighs =>
      obtain rfl := Object.name.inj (named.symm.trans otherNamed)
      exact ⟨_, relates, _, weighs, rfl⟩
    | likeValue _ free _ _ =>
      rw [named, Object.isKey, used] at free
      contradiction
  · rintro ⟨relation, relates, priority, weighs, rfl⟩
    exact .likeItem relates named used weighs

/-- A descriptor states a size that is compared with a value. -/
theorem Requirement.met_sized_value_iff {registry : Registry} {metrics : Metrics}
    {item : Anchor} {predicate : Predicate} {descriptor : Descriptor}
    (free : predicate.object.value.isKey registry = false) :
    Met registry metrics (.sized item predicate) descriptor ↔
      ∃ relation, predicate.Relates relation ∧
        ∃ constant, metrics.value? predicate.object.value.text = some constant ∧
          ∃ priority, predicate.Weighs metrics priority ∧
            { first := item, relation, second := none, constant, priority } = descriptor := by
  constructor
  · intro met
    cases met with
    | likeItem _ named used _ =>
      rw [named, Object.isKey, used] at free
      contradiction
    | likeValue relates _ valued weighs => exact ⟨_, relates, _, valued, _, weighs, rfl⟩
  · rintro ⟨relation, relates, constant, valued, priority, weighs, rfl⟩
    exact .likeValue relates free valued weighs

/-- The compiler states the requirements of a connection, in their order. -/
theorem Context.connect_eq_ok_iff {context : Context} {connection : Connection}
    {standard : Binary64} {first second : Anchor} {descriptors : List Descriptor} :
    context.connect connection standard first second = .ok descriptors ↔
      List.Forall₂ (Requirement.Met context.registry context.metrics)
        (connection.requirements standard first second) descriptors := by
  -- A flush connection and a bare dash differ only in the known size.
  have known (size : Binary64) :
      [({ first, relation := .equal, second := some second, constant := size } : Descriptor)]
          = descriptors ↔
        List.Forall₂ (Requirement.Met context.registry context.metrics)
          [.gap first second size] descriptors := by
    constructor
    · rintro rfl
      exact .cons .gap .nil
    · rintro (_ | ⟨⟨⟩, ⟨⟩⟩)
      rfl
  cases connection with
  | flush =>
    rw [connect, Except.ok.injEq]
    exact known 0
  | standard =>
    rw [connect, Except.ok.injEq]
    exact known standard
  | explicit predicates =>
    rw [connect, Connection.requirements, mapM_eq_ok_iff, List.forall₂_map_left_iff]
    simp only [Requirement.met_spaced_iff, bind_eq_ok_iff, Except.ok.injEq,
      Predicate.resolveRelation_eq_ok_iff, Object.resolve_eq_ok_iff,
      Predicate.resolvePriority_eq_ok_iff]

/-- The compiler states the requirement of a size predicate. -/
theorem Context.sizeOf_eq_ok_iff {context : Context} {link : Link} {predicate : Predicate}
    {descriptor : Descriptor} :
    context.sizeOf link predicate = .ok descriptor ↔
      Requirement.Met context.registry context.metrics
        (.sized ⟨link.name.value, context.axis.size⟩ predicate) descriptor := by
  unfold sizeOf
  -- Only a name can be a key, and only a name in use is one.
  cases named : predicate.object.value with
  | name key =>
    by_cases used : context.registry.contains key = true
    · rw [Requirement.met_sized_key_iff named used]
      simp only [used, if_true, bind_eq_ok_iff, Except.ok.injEq, exists_eq_left',
        Predicate.resolveRelation_eq_ok_iff, Predicate.resolvePriority_eq_ok_iff]
    · have free : predicate.object.value.isKey context.registry = false := by
        rw [named, Object.isKey]
        exact Bool.eq_false_iff.2 used
      rw [Requirement.met_sized_value_iff free]
      simp only [if_neg used, bind_eq_ok_iff, Except.ok.injEq, exists_eq_left',
        Predicate.resolveRelation_eq_ok_iff, Object.resolve_eq_ok_iff,
        Predicate.resolvePriority_eq_ok_iff]
  | number negative literal =>
    have free : predicate.object.value.isKey context.registry = false := by
      rw [named, Object.isKey]
    rw [Requirement.met_sized_value_iff free]
    simp only [bind_eq_ok_iff, Except.ok.injEq, exists_eq_left',
      Predicate.resolveRelation_eq_ok_iff, Object.resolve_eq_ok_iff,
      Predicate.resolvePriority_eq_ok_iff]

/-- The compiler states the requirements of a view's size, in their order. -/
theorem Context.sizes_eq_ok_iff {context : Context} {link : Link}
    {descriptors : List Descriptor} :
    context.sizes link = .ok descriptors ↔
      List.Forall₂ (Requirement.Met context.registry context.metrics)
        (link.requirements context.axis) descriptors := by
  rw [sizes, mapM_eq_ok_iff, Link.requirements, List.forall₂_map_left_iff]
  simp only [sizeOf_eq_ok_iff]

/-- The compiler states the requirements of a connection to the container, if there is one. -/
theorem Context.toEdge_eq_ok_iff {context : Context} {spacing : Spacing}
    {connection : Option Connection} {first second : Anchor} {descriptors : List Descriptor} :
    context.toEdge spacing connection first second = .ok descriptors ↔
      List.Forall₂ (Requirement.Met context.registry context.metrics)
        (connection.toList.flatMap fun written =>
          written.requirements spacing.superview first second) descriptors := by
  cases connection with
  | none => simp [toEdge, eq_comm]
  | some written => simp [toEdge, connect_eq_ok_iff]

/-- The compiler states the requirements of the views after one another, each joined to the view
listed before it. -/
theorem Context.follow_eq_ok_iff {context : Context} {spacing : Spacing} {previous : Link}
    {rest : List (Connection × Link)} {descriptors : List Descriptor} :
    context.follow spacing previous rest = .ok descriptors ↔
      List.Forall₂ (Requirement.Met context.registry context.metrics)
        (((previous :: rest.map (·.2)).zip rest).flatMap fun pair =>
          joint context.axis spacing.sibling pair.1 pair.2) descriptors := by
  induction rest generalizing previous descriptors with
  | nil => simp [follow, eq_comm]
  | cons step rest ih =>
    obtain ⟨connection, link⟩ := step
    rw [follow, List.map_cons, List.zip_cons_cons, List.flatMap_cons,
      forall₂_append_left_iff, joint]
    simp only [bind_eq_ok_iff, connect_eq_ok_iff, sizes_eq_ok_iff, ih,
      forall₂_append_left_iff, Except.ok.injEq]
    constructor
    · rintro ⟨gap, joined, sizes, sized, later, followed, rfl⟩
      exact ⟨_, ⟨gap, joined, sizes, sized, rfl⟩, later, followed, rfl⟩
    · rintro ⟨_, ⟨gap, joined, sizes, sized, rfl⟩, later, followed, rfl⟩
      exact ⟨gap, joined, sizes, sized, later, followed, rfl⟩

/-- Looking the views of a chain up succeeds when every one of them is found. -/
theorem resolveLinks_eq_ok_iff {registry : Registry} {links : List Link} :
    resolveLinks registry links = .ok () ↔
      ∀ link ∈ links, registry.Knows link.name.value := by
  induction links with
  | nil => simp [resolveLinks]
  | cons link links ih =>
    simp [resolveLinks, placed, ih, Registry.exists_resolve_iff]

/-- Lowering a chain whose views are all found states its requirements, in text order. -/
theorem lower_eq_ok_iff {chain : Chain} {spacing : Spacing} {registry : Registry}
    {metrics : Metrics} {descriptors : List Descriptor} :
    chain.lower spacing registry metrics = .ok descriptors ↔
      (∀ link ∈ chain.links, registry.Knows link.name.value) ∧
        List.Forall₂ (Requirement.Met registry metrics)
          (chain.requirements spacing registry.parentKey) descriptors := by
  unfold lower requirements
  simp only [bind_eq_ok_iff, Context.toEdge_eq_ok_iff, Context.sizes_eq_ok_iff,
    Context.follow_eq_ok_iff, Except.ok.injEq, forall₂_append_left_iff]
  constructor
  · rintro ⟨_, resolved, leading, led, sizes, sized, later, followed, trailing, trailed, rfl⟩
    refine ⟨resolveLinks_eq_ok_iff.1 resolved, _, ⟨_, ⟨leading, led, sizes, sized, rfl⟩,
      later, followed, rfl⟩, trailing, trailed, rfl⟩
  · rintro ⟨resolved, _, ⟨_, ⟨leading, led, sizes, sized, rfl⟩, later, followed, rfl⟩,
      trailing, trailed, rfl⟩
    exact ⟨(), resolveLinks_eq_ok_iff.2 resolved, leading, led, sizes, sized, later, followed,
      trailing, trailed, rfl⟩

/-- Compiling a text states the requirements of the chain it is read as. -/
theorem compile_eq_ok_iff {raw : String} {spacing : Spacing} {registry : Registry}
    {metrics : Metrics} {descriptors : List Descriptor} :
    compile raw spacing registry metrics = .ok descriptors ↔
      ∃ chain, parse raw = .ok chain ∧
        (∀ link ∈ chain.links, registry.Knows link.name.value) ∧
          List.Forall₂ (Requirement.Met registry metrics)
            (chain.requirements spacing registry.parentKey) descriptors := by
  unfold compile
  cases parse raw with
  | error error => simp
  | ok chain => simp [lower_eq_ok_iff]

/-! ## Which chains have a descriptor for each requirement -/

/-- A predicate stands for a relation when the relation it writes is one of the three. -/
theorem Predicate.exists_relates_iff {predicate : Predicate} :
    (∃ relation, predicate.Relates relation) ↔
      ∀ symbol ∈ predicate.relation, symbol.value ∈ ["==", ">=", "<="] := by
  unfold Relates
  cases predicate.relation with
  | none => simp
  | some symbol =>
    simp only [Option.mem_def, Option.some.injEq, forall_eq']
    exact Relation.exists_symbol_iff

/-- A predicate stands for a priority when the one it writes is a value on the scale. -/
theorem Predicate.exists_weighs_iff {metrics : Metrics} {predicate : Predicate} :
    (∃ priority, predicate.Weighs metrics priority) ↔
      ∀ object ∈ predicate.priority, ∃ value,
        metrics.value? object.value.text = some value ∧ OnPriorityScale value := by
  unfold Weighs
  cases predicate.priority with
  | none => simp
  | some object =>
    simp only [Option.mem_def, Option.some.injEq, forall_eq']
    constructor
    · rintro ⟨priority, value, resolved, inside, -⟩
      exact ⟨value, resolved, inside⟩
    · rintro ⟨value, resolved, inside⟩
      exact ⟨_, value, resolved, inside, rfl⟩

/-- The relation and the priority of a predicate stand for something. -/
def Predicate.Qualified (metrics : Metrics) (predicate : Predicate) : Prop :=
  (∃ relation, predicate.Relates relation) ∧ ∃ priority, predicate.Weighs metrics priority

/-- A predicate fixes a gap: all its words stand for something, the object for a number. -/
def Predicate.FixesGap (metrics : Metrics) (predicate : Predicate) : Prop :=
  predicate.Qualified metrics ∧
    ∃ value, metrics.value? predicate.object.value.text = some value

/-- A predicate fixes a size: all its words stand for something, the object for an item or a
number. -/
def Predicate.FixesSize (registry : Registry) (metrics : Metrics) (predicate : Predicate) : Prop :=
  predicate.Qualified metrics ∧
    (predicate.object.value.isKey registry = true ∨
      ∃ value, metrics.value? predicate.object.value.text = some value)

/-- The requirements of a connection have descriptors when its predicates do. -/
theorem Connection.exists_met_iff {registry : Registry} {metrics : Metrics}
    {connection : Connection} {standard : Binary64} {first second : Anchor} :
    (∀ requirement ∈ connection.requirements standard first second,
        ∃ descriptor, requirement.Met registry metrics descriptor) ↔
      ∀ predicate ∈ connection.predicates, predicate.FixesGap metrics := by
  cases connection with
  | flush => simpa [requirements, predicates] using ⟨_, Requirement.Met.gap⟩
  | standard => simpa [requirements, predicates] using ⟨_, Requirement.Met.gap⟩
  | explicit written =>
    simp only [requirements, predicates, List.forall_mem_map, Requirement.met_spaced_iff,
      Predicate.FixesGap, Predicate.Qualified]
    constructor
    · intro met predicate present
      obtain ⟨_, relation, relates, value, valued, priority, weighs, -⟩ := met predicate present
      exact ⟨⟨⟨relation, relates⟩, priority, weighs⟩, value, valued⟩
    · intro resolved predicate present
      obtain ⟨⟨⟨relation, relates⟩, priority, weighs⟩, value, valued⟩ :=
        resolved predicate present
      exact ⟨_, relation, relates, value, valued, priority, weighs, rfl⟩

/-- The requirements of a view's size have descriptors when its predicates do. -/
theorem Link.exists_met_iff {registry : Registry} {metrics : Metrics} {link : Link}
    {axis : Axis} :
    (∀ requirement ∈ link.requirements axis,
        ∃ descriptor, requirement.Met registry metrics descriptor) ↔
      ∀ predicate ∈ link.predicates, predicate.FixesSize registry metrics := by
  simp only [requirements, List.forall_mem_map, Predicate.FixesSize, Predicate.Qualified]
  constructor
  · intro met predicate present
    obtain ⟨descriptor, stated⟩ := met predicate present
    cases stated with
    | likeItem relates named used weighs =>
      refine ⟨⟨⟨_, relates⟩, _, weighs⟩, .inl ?_⟩
      rw [named, Object.isKey, used]
    | likeValue relates _ valued weighs =>
      exact ⟨⟨⟨_, relates⟩, _, weighs⟩, .inr ⟨_, valued⟩⟩
  · intro resolved predicate present
    obtain ⟨⟨⟨relation, relates⟩, priority, weighs⟩, object⟩ := resolved predicate present
    cases key : predicate.object.value.isKey registry with
    | true =>
      cases named : predicate.object.value with
      | name word =>
        rw [named, Object.isKey] at key
        exact ⟨_, .likeItem relates named key weighs⟩
      | number negative literal =>
        rw [named, Object.isKey] at key
        contradiction
    | false =>
      rw [key] at object
      obtain ⟨value, valued⟩ := object.resolve_left Bool.false_ne_true
      exact ⟨_, .likeValue relates key valued weighs⟩

/-- Every later view is paired with the view before it. -/
theorem map_snd_zip_links (chain : Chain) :
    (chain.links.zip chain.rest).map (·.2) = chain.rest := by
  apply List.map_snd_zip
  simp [links]

/-- What holds of every later view holds of the second view of every pair. -/
theorem forall_mem_zip_links {chain : Chain} {holds : Connection × Link → Prop} :
    (∀ pair ∈ chain.links.zip chain.rest, holds pair.2) ↔ ∀ step ∈ chain.rest, holds step := by
  conv_rhs => rw [← chain.map_snd_zip_links]
  rw [List.forall_mem_map]

/-- The last view is one of the views. -/
theorem last_mem_links (chain : Chain) : chain.last ∈ chain.links := by
  unfold last links
  cases found : chain.rest.getLast? with
  | none => exact List.mem_cons_self
  | some step =>
    exact List.mem_cons_of_mem _ (List.mem_map_of_mem (List.mem_of_getLast? found))

/-- A requirement of a chain is one of a connection, both ends of which are at a view of the chain
or at the parent, or one of a view's size. -/
theorem origin_of_requirement {chain : Chain} {spacing : Spacing} {parentKey : String}
    {requirement : Requirement} (present : requirement ∈ chain.requirements spacing parentKey) :
    (∃ connection ∈ chain.connections, ∃ standard before after,
        requirement ∈ connection.requirements standard before after ∧
          (before.key = parentKey ∨ ∃ link ∈ chain.links, before.key = link.name.value) ∧
          (after.key = parentKey ∨ ∃ link ∈ chain.links, after.key = link.name.value)) ∨
      ∃ link ∈ chain.links, requirement ∈ link.requirements (chain.axis.getD .horizontal) := by
  have first : chain.first ∈ chain.links := List.mem_cons_self
  simp only [requirements, joint, List.mem_append, List.mem_flatMap] at present
  rcases present with ((⟨connection, leading, gap⟩ | size) | ⟨pair, paired, joined⟩) |
    ⟨connection, trailing, gap⟩
  · exact .inl ⟨connection, by simp [connections, Option.mem_toList.1 leading], _, _, _, gap,
      .inr ⟨_, first, rfl⟩, .inl rfl⟩
  · exact .inr ⟨chain.first, first, size⟩
  · obtain ⟨previous, step⟩ := List.of_mem_zip paired
    have later : pair.2.2 ∈ chain.links := List.mem_cons_of_mem _ (List.mem_map_of_mem step)
    have between : pair.2.1 ∈ chain.rest.map (·.1) := List.mem_map_of_mem step
    rcases joined with gap | size
    · exact .inl ⟨pair.2.1, by simp [connections, between], _, _, _, gap,
        .inr ⟨_, later, rfl⟩, .inr ⟨_, previous, rfl⟩⟩
    · exact .inr ⟨pair.2.2, later, size⟩
  · exact .inl ⟨connection, by simp [connections, Option.mem_toList.1 trailing], _, _, _, gap,
      .inl rfl, .inr ⟨_, chain.last_mem_links, rfl⟩⟩

/-- The requirements of a chain have descriptors when those of its connections and of its views
do. -/
theorem exists_met_iff {chain : Chain} {spacing : Spacing} {registry : Registry}
    {metrics : Metrics} {parentKey : String} :
    (∀ requirement ∈ chain.requirements spacing parentKey,
        ∃ descriptor, requirement.Met registry metrics descriptor) ↔
      (∀ connection ∈ chain.connections, ∀ predicate ∈ connection.predicates,
          predicate.FixesGap metrics) ∧
        ∀ link ∈ chain.links, ∀ predicate ∈ link.predicates,
          predicate.FixesSize registry metrics := by
  have later := @forall_mem_zip_links chain fun step =>
    (∀ predicate ∈ step.1.predicates, predicate.FixesGap metrics) ∧
      ∀ predicate ∈ step.2.predicates, predicate.FixesSize registry metrics
  simp only [requirements, joint, List.forall_mem_append, List.forall_mem_flatMap,
    Connection.exists_met_iff, Link.exists_met_iff, later]
  simp only [connections, links, List.forall_mem_append, List.forall_mem_cons,
    List.forall_mem_map, forall_and]
  constructor
  · rintro ⟨⟨⟨leading, first⟩, gaps, sizes⟩, trailing⟩
    exact ⟨⟨⟨leading, gaps⟩, trailing⟩, first, sizes⟩
  · rintro ⟨⟨⟨leading, gaps⟩, trailing⟩, first, sizes⟩
    exact ⟨⟨⟨leading, first⟩, gaps, sizes⟩, trailing⟩

/-- A chain is resolvable when all its views are found and each of its requirements has a
descriptor. -/
theorem resolvable_iff {chain : Chain} {spacing : Spacing} {registry : Registry}
    {metrics : Metrics} {parentKey : String} :
    chain.Resolvable registry metrics ↔
      (∀ link ∈ chain.links, registry.Knows link.name.value) ∧
        ∃ descriptors, List.Forall₂ (Requirement.Met registry metrics)
          (chain.requirements spacing parentKey) descriptors := by
  rw [exists_forall₂_iff, exists_met_iff]
  simp only [Predicate.FixesGap, Predicate.FixesSize, Predicate.Qualified,
    Predicate.exists_relates_iff, Predicate.exists_weighs_iff]
  constructor
  · intro resolvable
    have relations := resolvable.relations
    have priorities := resolvable.priorities
    simp only [predicates, List.forall_mem_append, List.forall_mem_flatMap] at relations priorities
    refine ⟨resolvable.views, fun connection present predicate written => ?_,
      fun link present predicate written => ?_⟩
    · exact ⟨⟨relations.1 connection present predicate written,
        priorities.1 connection present predicate written⟩,
        resolvable.gaps connection present predicate written⟩
    · exact ⟨⟨relations.2 link present predicate written,
        priorities.2 link present predicate written⟩,
        resolvable.sizes link present predicate written⟩
  · rintro ⟨views, gaps, sizes⟩
    refine ⟨views, ?_, fun connection present predicate written =>
      (gaps connection present predicate written).2, fun link present predicate written =>
      (sizes link present predicate written).2, ?_⟩
    · simp only [predicates, List.forall_mem_append, List.forall_mem_flatMap]
      exact ⟨fun connection present predicate written =>
        (gaps connection present predicate written).1.1,
        fun link present predicate written => (sizes link present predicate written).1.1⟩
    · simp only [predicates, List.forall_mem_append, List.forall_mem_flatMap]
      exact ⟨fun connection present predicate written =>
        (gaps connection present predicate written).1.2,
        fun link present predicate written => (sizes link present predicate written).1.2⟩

/-- A text compiles exactly when it is a chain all of whose words stand for something, and its
descriptors are then exactly those that state the requirements of the chain, one for each, in
text order. -/
theorem compile_lowers_requirements (raw : String) (spacing : Spacing) (registry : Registry)
    (metrics : Metrics) :
    ((∃ descriptors, compile raw spacing registry metrics = .ok descriptors) ↔
        ∃ chain, parse raw = .ok chain ∧ chain.Resolvable registry metrics) ∧
      ∀ descriptors, compile raw spacing registry metrics = .ok descriptors ↔
        ∃ chain, parse raw = .ok chain ∧ chain.Resolvable registry metrics ∧
          List.Forall₂ (Requirement.Met registry metrics)
            (chain.requirements spacing registry.parentKey) descriptors := by
  have compiled (descriptors : List Descriptor) :
      compile raw spacing registry metrics = .ok descriptors ↔
        ∃ chain, parse raw = .ok chain ∧ chain.Resolvable registry metrics ∧
          List.Forall₂ (Requirement.Met registry metrics)
            (chain.requirements spacing registry.parentKey) descriptors := by
    rw [compile_eq_ok_iff]
    constructor
    · rintro ⟨chain, parsed, views, met⟩
      exact ⟨chain, parsed, resolvable_iff.2 ⟨views, _, met⟩, met⟩
    · rintro ⟨chain, parsed, resolvable, met⟩
      exact ⟨chain, parsed, resolvable.views, met⟩
  refine ⟨?_, compiled⟩
  constructor
  · rintro ⟨descriptors, compiles⟩
    obtain ⟨chain, parsed, resolvable, -⟩ := (compiled descriptors).1 compiles
    exact ⟨chain, parsed, resolvable⟩
  · rintro ⟨chain, parsed, resolvable⟩
    obtain ⟨-, descriptors, met⟩ := resolvable_iff.1 resolvable
    exact ⟨descriptors, (compiled descriptors).2 ⟨chain, parsed, resolvable, met⟩⟩

end Chain

end ViewLayout
