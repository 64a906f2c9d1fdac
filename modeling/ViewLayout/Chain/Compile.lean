import ViewLayout.Chain
import ViewLayout.ConstraintError
import ViewLayout.Descriptor
import ViewLayout.Registry

/-!
# Compiling chains

A chain becomes its descriptors in text order: the leading connection, the first view's sizes,
then for each later view its connection and its sizes, then the trailing connection. A connection
ties the leading edge of what follows to the trailing edge of what comes before; the connections
to the container's edges tie leading edge to leading edge and trailing edge to trailing edge.

All views are looked up before anything else is. Within a predicate the relation is looked up
first, then the value, then the priority.
-/

namespace ViewLayout

open ViewLayout.Number ViewLayout.Text

/-- The gaps of bare dashes. -/
structure Spacing where
  /-- Between two views. -/
  sibling : Binary64
  /-- Between a view and the container's edge. -/
  superview : Binary64
deriving DecidableEq, Repr

namespace Chain

/-- A fault of a chain and the place it is at. -/
structure Rejection where
  /-- What is wrong. -/
  fault : ChainFault
  /-- Where it is wrong. -/
  span : Span
deriving DecidableEq, Repr

/-- What a chain is compiled against. -/
structure Context where
  /-- The axis of the chain. -/
  axis : Axis
  /-- The keys in use. -/
  registry : Registry
  /-- The active metrics. -/
  metrics : Metrics

/-- Places the fault of a word at its span. -/
def placed {α : Type} (span : Span) (result : Except Fault α) : Except Rejection α :=
  result.mapError fun fault => ⟨.unresolved fault, span⟩

/-- The relation of a predicate; equality when none is written. -/
def Predicate.resolveRelation (predicate : Predicate) : Except Rejection Relation :=
  match predicate.relation with
  | some symbol => placed symbol.span (Relation.lookup symbol.value)
  | none => .ok .equal

/-- The number an object stands for. -/
def Object.resolve (metrics : Metrics) (object : Spanned Object) : Except Rejection Binary64 :=
  placed object.span (metrics.resolve object.value.text)

/-- The priority of a predicate, which has to lie on the scale. -/
def Predicate.resolvePriority (metrics : Metrics) (predicate : Predicate) :
    Except Rejection (Option Priority) :=
  match predicate.priority with
  | none => .ok none
  | some object => do
    let value ← Object.resolve metrics object
    if Binary.atMost 0 value && value.atMost 1000 then
      .ok (some ⟨value.convert Format.single⟩)
    else .error ⟨.priorityOutOfRange value, object.span⟩

/-- The descriptors of a connection between two edges, `first` being placed after `second`. -/
def Context.connect (context : Context) (connection : Connection) (standard : Binary64)
    (first second : Anchor) : Except Rejection (List Descriptor) :=
  match connection with
  | .flush => .ok [{ first, relation := .equal, second := some second }]
  | .standard => .ok [{ first, relation := .equal, second := some second, constant := standard }]
  | .explicit predicates =>
    predicates.mapM fun predicate => do
      let relation ← predicate.resolveRelation
      let constant ← Object.resolve context.metrics predicate.object
      let priority ← predicate.resolvePriority context.metrics
      .ok { first, relation, second := some second, constant, priority }

/-- The descriptor of one size predicate. A name that is a key compares with that item's size, any
other object with its value. -/
def Context.sizeOf (context : Context) (link : Link) (predicate : Predicate) :
    Except Rejection Descriptor := do
  let first : Anchor := ⟨link.name.value, context.axis.size⟩
  let relation ← predicate.resolveRelation
  let descriptor : Descriptor ←
    match predicate.object.value with
    | .name other =>
      if context.registry.contains other then
        .ok { first, relation, second := some ⟨other, context.axis.size⟩ }
      else do
        let constant ← Object.resolve context.metrics predicate.object
        .ok { first, relation, second := none, constant }
    | .number .. => do
      let constant ← Object.resolve context.metrics predicate.object
      .ok { first, relation, second := none, constant }
  let priority ← predicate.resolvePriority context.metrics
  .ok { descriptor with priority }

/-- The descriptors of a view's size predicates. -/
def Context.sizes (context : Context) (link : Link) : Except Rejection (List Descriptor) :=
  link.predicates.mapM (context.sizeOf link)

/-- The descriptors of the views after `previous`, each tied to the view before it. -/
def Context.follow (context : Context) (spacing : Spacing) (previous : Link) :
    List (Connection × Link) → Except Rejection (List Descriptor)
  | [] => .ok []
  | (connection, link) :: rest => do
    let gap ← context.connect connection spacing.sibling
      ⟨link.name.value, context.axis.leadingEdge⟩ ⟨previous.name.value, context.axis.trailingEdge⟩
    let sizes ← context.sizes link
    let later ← context.follow spacing link rest
    .ok (gap ++ sizes ++ later)

/-- The descriptors of a connection to the container's edge, if the chain has it. -/
def Context.toEdge (context : Context) (spacing : Spacing) (connection : Option Connection)
    (first second : Anchor) : Except Rejection (List Descriptor) :=
  match connection with
  | some connection => context.connect connection spacing.superview first second
  | none => .ok []

/-- Looks every view of a chain up. -/
def resolveLinks (registry : Registry) : List Link → Except Rejection Unit
  | [] => .ok ()
  | link :: links => do
    let _ ← placed link.name.span (registry.resolve link.name.value)
    resolveLinks registry links

/-- The descriptors of a chain. A chain without a tag runs along the horizontal axis. -/
def lower (chain : Chain) (spacing : Spacing) (registry : Registry) (metrics : Metrics) :
    Except Rejection (List Descriptor) := do
  resolveLinks registry chain.links
  let context : Context := ⟨chain.axis.getD .horizontal, registry, metrics⟩
  let lead := context.axis.leadingEdge
  let trail := context.axis.trailingEdge
  let parent := registry.parentKey
  let leading ← context.toEdge spacing chain.leading ⟨chain.first.name.value, lead⟩ ⟨parent, lead⟩
  let sizes ← context.sizes chain.first
  let later ← context.follow spacing chain.first chain.rest
  let trailing ←
    context.toEdge spacing chain.trailing ⟨parent, trail⟩ ⟨chain.last.name.value, trail⟩
  .ok (leading ++ sizes ++ later ++ trailing)

/-- Compiles a whole text as a chain. -/
def compile (raw : String) (spacing : Spacing) (registry : Registry) (metrics : Metrics) :
    Except Rejection (List Descriptor) :=
  match parse raw with
  | .error error => .error ⟨.malformed error.fault, error.span⟩
  | .ok chain => chain.lower spacing registry metrics

end Chain

end ViewLayout
