import ViewLayout.Sequence

/-!
# Layout documents

A layout document declares a container, views, guides, metrics, constraint texts and at most one
sequence. This module holds what a document says and what can be wrong with one; `Document.read` and
`Document.solveBy` lead from the text of a document to its frames.
-/

namespace ViewLayout

open ViewLayout.Number

/-- A guide with its frame. -/
structure GuideDeclaration where
  /-- The key of the guide. -/
  key : String
  /-- Where the guide lies. -/
  frame : Frame Binary64
deriving DecidableEq, Repr

/-- A view. -/
structure ViewDeclaration where
  /-- The key of the view. -/
  key : String
  /-- The size its content wants. -/
  size : Option (PerAxis Binary64)
  /-- The key of the view it is in; without one it is in the container. -/
  parent : Option String
  /-- Its resistance to growing beyond its content, where that is declared. -/
  hugging : PerAxis (Option Priority)
  /-- Its resistance to shrinking below its content, where that is declared. -/
  resistance : PerAxis (Option Priority)
deriving DecidableEq, Repr

/-- The key of the view that a view is nested in; a view directly in the container is in none. -/
def ViewDeclaration.nestedIn? (declaration : ViewDeclaration) (parentKey : String) :
    Option String :=
  declaration.parent.filter (· ≠ parentKey)

/-- A constraint text with the priority that its constraints get, if not those of the text. -/
structure WeightedText where
  /-- The text. -/
  raw : String
  /-- The priority of all its constraints. -/
  priority : Option Priority
deriving DecidableEq, Repr

/-- Views that join a sequence together. -/
structure Batch where
  /-- The keys of the views. -/
  keys : List String
  /-- Whether the views are centered across the axis. -/
  centered : Bool
deriving DecidableEq, Repr

/-- A sequence of views of the container. -/
structure SequenceDeclaration where
  /-- The axis of the sequence. -/
  axis : Axis
  /-- The gaps of the sequence. -/
  margins : Margins
  /-- The batches of views in order. -/
  batches : List Batch
  /-- Whether the last view is tied to the trailing edge. -/
  close : Bool
deriving DecidableEq, Repr

/-- What a layout document says. -/
structure Document where
  /-- The keys and standard gaps. -/
  configuration : Configuration
  /-- The width of the container. -/
  width : Binary64
  /-- The height of the container. -/
  height : Binary64
  /-- The metrics of the constraint texts. -/
  metrics : Metrics
  /-- The guides in order. -/
  guides : List GuideDeclaration
  /-- The views in order. -/
  views : List ViewDeclaration
  /-- The constraint texts in order. -/
  constraints : List WeightedText
  /-- The sequence, if there is one. -/
  sequence : Option SequenceDeclaration

/-- Why the text of a document cannot be had. -/
inductive FileFault where
  | notFound
  | notADirectory
  | isADirectory
  /-- The content is no text. -/
  | notText
  /-- Any other failure, in the words of the system. -/
  | other (reason : String)
deriving DecidableEq, Repr

/-- The wording of a file's fault. -/
def FileFault.message : FileFault → String
  | notFound => "No such file or directory (os error 2)"
  | notADirectory => "Not a directory (os error 20)"
  | isADirectory => "Is a directory (os error 21)"
  | notText => "stream did not contain valid UTF-8"
  | other reason => reason

/-- Why a document has no layout. -/
inductive DocumentError where
  /-- The file of the document cannot be read. -/
  | unreadable (fault : FileFault)
  /-- The text is not TOML, or not a layout document. -/
  | malformed
  /-- A view is nested in a view that is not declared. -/
  | unknownParent (key parent : String)
  /-- A batch names a view that is not declared. -/
  | unknownView (key : String)
  /-- A batch names a view that is not directly in the container. -/
  | nestedInBatch (key parent : String)
  /-- A key cannot be registered, or a constraint text does not compile. -/
  | constraint (error : ConstraintError)
  /-- The host refuses the view tree or the layout. -/
  | host (fault : HostFault)
deriving DecidableEq, Repr

/-- The wording of a document's error. -/
def DocumentError.message : DocumentError → String
  | unreadable fault => "failed to read layout file: " ++ fault.message
  | malformed => "failed to parse layout TOML: the text does not declare a layout"
  | unknownParent key parent =>
    "view `" ++ key ++ "` is nested in unknown view `" ++ parent ++ "`"
  | unknownView key => "linear batch names undeclared view `" ++ key ++ "`"
  | nestedInBatch key parent =>
    "linear batch names `" ++ key ++ "`, which is nested in `" ++ parent
      ++ "`; batches stack direct children of the container"
  | constraint error => error.message
  | host fault => fault.message

end ViewLayout
