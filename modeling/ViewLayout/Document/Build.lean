import ViewLayout.Document

/-!
# Building the layout of a document

The views and guides of a document are created first, so that a view can be nested in one declared
after it. Then the guides and views get their keys, the views their content priorities in the order
of declaration, and the constraint texts are applied before the sequence.
-/

namespace ViewLayout

open ViewLayout.Number

/-- A declared view and the view that was created for it. -/
abbrev DeclaredView := ViewDeclaration × ViewId

namespace Document

/-- The outcome of a building step as an outcome for the document. -/
def onBuilder {α : Type} (outcome : Except ConstraintError α) : Except DocumentError α :=
  outcome.mapError .constraint

/-- Creates a node for each declaration. -/
def createEach {α ι : Type} (create : Host → α → Host × ι) : Host → List α → Host × List ι
  | host, [] => (host, [])
  | host, first :: rest =>
    let (host, made) := create host first
    let (host, others) := createEach create host rest
    (host, made :: others)

/-- The view created for the first declaration of a key. -/
def viewOf? (declared : List DeclaredView) (key : String) : Option DeclaredView :=
  declared.find? (·.1.key = key)

/-- Registers a declared view and puts it into the view that it is nested in. -/
def place (parentKey : String) (declared : List DeclaredView) (builder : Builder)
    (entry : DeclaredView) : Except DocumentError Builder :=
  let (declaration, view) := entry
  match declaration.nestedIn? parentKey with
  | none => onBuilder (builder.addView declaration.key view)
  | some parent =>
    match viewOf? declared parent with
    | none => .error (.unknownParent declaration.key parent)
    | some (_, parentView) => do
      let builder ← onBuilder (builder.addUnattached declaration.key view)
      let host ← (builder.host.attach parentView view).mapError .host
      .ok { builder with host }

/-- Sets the declared content priorities of one kind. -/
def prioritize (kind : ContentPriority) (key : String) (priorities : PerAxis (Option Priority))
    (builder : Builder) : Except ConstraintError Builder :=
  [Axis.horizontal, .vertical].foldlM (fun builder axis =>
    match priorities.get axis with
    | some priority => builder.setContentPriority key priority axis kind
    | none => .ok builder) builder

/-- Sets the declared content priorities of a view. -/
def prioritizeView (builder : Builder) (declaration : ViewDeclaration) :
    Except ConstraintError Builder := do
  let builder ← prioritize .hugging declaration.key declaration.hugging builder
  prioritize .resistance declaration.key declaration.resistance builder

/-- The view of a key in a batch, which must be declared directly in the container. -/
def batchView (parentKey : String) (declared : List DeclaredView) (key : String) :
    Except DocumentError ViewId :=
  match viewOf? declared key with
  | none => .error (.unknownView key)
  | some (declaration, view) =>
    match declaration.nestedIn? parentKey with
    | some parent => .error (.nestedInBatch key parent)
    | none => .ok view

/-- Builds the sequence of a document. -/
def buildSequence (parentKey : String) (declared : List DeclaredView)
    (declaration : SequenceDeclaration) (builder : Builder) : Except DocumentError Builder := do
  let start : Sequence := { axis := declaration.axis, builder, margins := declaration.margins }
  let stacked ← declaration.batches.foldlM (fun sequence batch => do
    let views ← batch.keys.mapM (batchView parentKey declared)
    onBuilder (sequence.addViews views batch.centered)) start
  let ended ← if declaration.close then onBuilder stacked.close else .ok stacked
  .ok ended.builder

/-- Builds the layout of a document. -/
def build (document : Document) : Except DocumentError Builder := do
  let parentKey := document.configuration.parentKey
  let (host, container) := (Host.ofConfiguration document.configuration).createView none
  let (host, views) := createEach (fun host view => host.createView view.size) host document.views
  let (host, guides) :=
    createEach (fun host guide => host.createGuide guide.frame) host document.guides
  let declared := document.views.zip views
  let empty := Builder.ofHost host container document.configuration
  let guided ← onBuilder (empty.addGuides ((document.guides.map (·.key)).zip guides))
  let placed ← declared.foldlM (place parentKey declared) guided
  let weighted ← onBuilder (document.views.foldlM prioritizeView placed)
  let applied ← onBuilder (document.constraints.foldlM
    (fun builder text => builder.addConstraint text.raw text.priority)
    (weighted.withMetrics document.metrics))
  match document.sequence with
  | some declaration => buildSequence parentKey declared declaration applied
  | none => .ok applied

end Document

end ViewLayout
