import ViewLayout.Host.Walk

/-!
# Building the layout of a container

A builder registers views and guides of one host under keys and applies constraint text that names
them. Every text is compiled against the keys and metrics of the moment and applied at once, and
the builder keeps what each text became.
-/

namespace ViewLayout

open ViewLayout.Number

/-- A constraint text and what it became. -/
structure AppliedText where
  /-- The text. -/
  raw : String
  /-- The constraints it was compiled to. -/
  descriptors : List Descriptor
  /-- The handles of the constraints. -/
  handles : List Host.Handle
deriving DecidableEq, Repr

/-- Distances kept from the four edges of a container. -/
structure Insets where
  top : Binary64 := 0
  left : Binary64 := 0
  bottom : Binary64 := 0
  right : Binary64 := 0
deriving DecidableEq, Repr

namespace Insets

/-- The same distance from every edge. -/
def uniform (inset : Binary64) : Insets := ⟨inset, inset, inset, inset⟩

/-- The insets as metrics, each under the name of its edge. -/
def metrics (insets : Insets) : Metrics :=
  .ofList [("top", insets.top), ("left", insets.left), ("bottom", insets.bottom),
    ("right", insets.right)]

/-- The insets as a record. -/
def describe (insets : Insets) : String :=
  "EdgeInsets \x7b top: " ++ insets.top.render ++ ", left: " ++ insets.left.render
    ++ ", bottom: " ++ insets.bottom.render ++ ", right: " ++ insets.right.render ++ " \x7d"

end Insets

/-- The layout of a container while it is built. -/
structure Builder where
  /-- The host of all nodes. -/
  host : Host
  /-- The view that is laid out. -/
  container : ViewId
  /-- The options of the layout. -/
  configuration : Configuration
  /-- The keys in use. -/
  registry : Registry
  /-- The active metrics. -/
  metrics : Metrics := .empty
  /-- Whether the guides at the top and the bottom are in use. -/
  hasGuides : Bool := false
  /-- The applied texts, in the order in which they were applied. -/
  applied : List AppliedText := []

namespace Builder

/-- The key of the guide at the top. -/
def topGuideKey : String := "TOP_GUIDE"

/-- The key of the guide at the bottom. -/
def bottomGuideKey : String := "BOTTOM_GUIDE"

/-- A builder before anything is registered. -/
def ofHost (host : Host) (container : ViewId) (configuration : Configuration) : Builder :=
  { host, container, configuration
    registry := .ofContainer configuration.parentKey container }

/-- The outcome of a step on the host as an outcome of building. -/
def onHost {α : Type} (outcome : Except HostFault α) : Except ConstraintError α :=
  outcome.mapError fun fault => .bare (.host fault)

/-- Registers a node under a key. -/
def register (builder : Builder) (key : String) (node : Node) : Except ConstraintError Builder :=
  match builder.registry.register key node with
  | .ok registry => .ok { builder with registry }
  | .error fault => .error (.bare fault)

/-- Registers the guides at the top and the bottom, between which a view that fills the container
then lies. -/
def useGuides (builder : Builder) (top bottom : GuideId) : Except ConstraintError Builder := do
  let builder ← builder.register topGuideKey (.guide top)
  let builder ← builder.register bottomGuideKey (.guide bottom)
  .ok { builder with hasGuides := true }

/-- Registers a view without attaching it. -/
def addUnattached (builder : Builder) (key : String) (view : ViewId) :
    Except ConstraintError Builder :=
  builder.register key (.view view)

/-- Puts a view into another view. -/
def attach (builder : Builder) (parent child : ViewId) : Except ConstraintError Builder := do
  let host ← onHost (builder.host.attach parent child)
  .ok { builder with host }

/-- Registers a view and puts it into the container. -/
def addView (builder : Builder) (key : String) (view : ViewId) :
    Except ConstraintError Builder := do
  let builder ← builder.addUnattached key view
  builder.attach builder.container view

/-- Registers views one after another and puts them into the container. -/
def addViews (builder : Builder) (views : List (String × ViewId)) :
    Except ConstraintError Builder :=
  views.foldlM (fun builder entry => builder.addView entry.1 entry.2) builder

/-- Registers guides one after another. -/
def addGuides (builder : Builder) (guides : List (String × GuideId)) :
    Except ConstraintError Builder :=
  guides.foldlM (fun builder entry => builder.register entry.1 (.guide entry.2)) builder

/-- Detaches views one after another. -/
def detachAll (host : Host) (views : List ViewId) : Except ConstraintError Host :=
  views.foldlM (fun host view => onHost (host.detach view)) host

/-- Unregisters the keys that are registered for views, and detaches those views. Any other key is
passed over. -/
def removeViews (builder : Builder) (keys : List String) : Except ConstraintError Builder := do
  let known := builder.registry.viewKeys
  let (registry, removed) := builder.registry.unregister (keys.filter known.contains)
  let host ← detachAll builder.host (removed.filterMap (·.2.view?))
  .ok { builder with registry, host }

/-- Unregisters and detaches every registered view. -/
def removeAllViews (builder : Builder) : Except ConstraintError Builder :=
  builder.removeViews builder.registry.viewKeys

/-- Replaces the active metrics. -/
def withMetrics (builder : Builder) (metrics : Metrics) : Builder :=
  { builder with metrics }

/-- The steps of compiling and applying a text, which give the handles of its constraints. A
priority given here replaces those written in the text. -/
def applyText (raw : String) (priority : Option Priority) :
    Steps Builder ConstraintError (List Host.Handle) := do
  let descriptors ← Steps.reading fun builder =>
    builder.host.compile raw builder.registry builder.metrics priority
  let builder ← get
  let handles ← Steps.onPart Builder.host (fun builder host => { builder with host })
    (fun fault => .bare (.host fault)) (Host.applySteps builder.registry descriptors)
  modify fun builder =>
    { builder with applied := builder.applied ++ [⟨raw, descriptors, handles⟩] }
  return handles

/-- Compiles and applies a text. -/
def addConstraint (builder : Builder) (raw : String) (priority : Option Priority := none) :
    Except ConstraintError Builder :=
  ((applyText raw priority).outcome builder).map (·.2)

/-- Compiles and applies texts one after another. -/
def addConstraints (builder : Builder) (raws : List String) (priority : Option Priority := none) :
    Except ConstraintError Builder :=
  raws.foldlM (fun builder raw => builder.addConstraint raw priority) builder

/-- The texts that make the view of a key fill the container, or the space between the guides. -/
def fillTexts (key : String) (hasGuides : Bool) : List String :=
  let (top, bottom) :=
    if hasGuides then ("[" ++ topGuideKey ++ "]", "[" ++ bottomGuideKey ++ "]") else ("|", "|")
  ["H:|-(left)-[" ++ key ++ "]-(right)-|",
    "V:" ++ top ++ "-(top)-[" ++ key ++ "]-(bottom)-" ++ bottom]

/-- Makes a view fill the container with insets on every side. The view is registered under the
default key, and the insets become the active metrics. -/
def fill (builder : Builder) (view : ViewId) (insets : Insets) :
    Except ConstraintError Builder := do
  let key := builder.configuration.defaultKey
  let builder ← builder.addView key view
  (builder.withMetrics insets.metrics).addConstraints (fillTexts key builder.hasGuides)

/-- Sets a content priority of the view of a key and of everything below it. -/
def setContentPriority (builder : Builder) (key : String) (priority : Priority) (axis : Axis)
    (kind : ContentPriority) : Except ConstraintError Builder := do
  let view ← (builder.registry.resolveView key).mapError .bare
  let host ← onHost (builder.host.setPriorityBelow view priority axis kind)
  .ok { builder with host }

/-- Keeps the view of a key and everything below it at the size of its content along an axis. -/
def wrapContent (builder : Builder) (key : String) (axis : Axis) :
    Except ConstraintError Builder := do
  let builder ← builder.setContentPriority key .high axis .hugging
  builder.setContentPriority key .required axis .resistance

end Builder

end ViewLayout
