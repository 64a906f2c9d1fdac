import ViewLayout.Vocabulary

/-!
# Faults

What can be wrong with a word, a key, a number or a step of building a layout, apart from where it
is written. A fault is a cause; its wording is one function of the cause.
-/

namespace ViewLayout

/-- Why a host refuses a change of its view tree, a constraint or a layout. -/
inductive HostFault where
  /-- A node that the host did not create, or a key without a node. -/
  | unknownNode (name : String)
  /-- A required constraint that cannot hold together with those before it. -/
  | unsatisfiable (constraint : String)
  /-- A constraint that the solver has already. -/
  | duplicate (constraint : String)
  /-- A view was to be put under itself or under one of its descendants. -/
  | cycle (parent child : Nat)
  /-- Any other failure. -/
  | internal (reason : String)
deriving DecidableEq, Repr

/-- The wording of a host's refusal. -/
def HostFault.message : HostFault → String
  | unknownNode name => "unknown node " ++ name
  | unsatisfiable constraint =>
    "unsatisfiable constraint `" ++ constraint ++ "`: conflicts with existing constraints"
  | duplicate constraint => "duplicate constraint `" ++ constraint ++ "`"
  | cycle parent child =>
    "attaching view " ++ toString child ++ " under view " ++ toString parent
      ++ " would make it its own ancestor"
  | internal reason => "internal solver error: " ++ reason

/-- Why a word does not resolve or a step cannot be taken. -/
inductive Fault where
  /-- A metric that is not active. -/
  | unknownMetric (name : String)
  /-- A value that is neither a metric name nor a number. -/
  | malformedNumber (literal : String)
  /-- A word that is no attribute. -/
  | unknownAttribute (word : String)
  /-- A symbol that is no relation. -/
  | unknownRelation (symbol : String)
  /-- A key that is not registered, with registered keys that are close to it. -/
  | unknownKey (key : String) (suggestions : List String)
  /-- The parent key while there is no container. -/
  | parentUnresolved (key : String)
  /-- The parent key where another key is to be registered. -/
  | reservedKey (key : String)
  /-- A sequence that is closed before it has a view. -/
  | emptySequence
  /-- A refusal of the host. -/
  | host (fault : HostFault)
deriving DecidableEq, Repr

/-- The wording of a fault. -/
def Fault.message : Fault → String
  | unknownMetric name => "metric `" ++ name ++ "` was not provided"
  | malformedNumber literal => "`" ++ literal ++ "` is not a valid number"
  | unknownAttribute word =>
    "attribute `" ++ word ++ "` is not valid. Use one of: "
      ++ ", ".intercalate (Attribute.all.map Attribute.keyword)
  | unknownRelation symbol =>
    "relation `" ++ symbol ++ "` is not valid. Use one of: "
      ++ ", ".intercalate (Relation.all.map Relation.symbol)
  | unknownKey key _ => "no view was added with key `" ++ key ++ "`"
  | parentUnresolved key => "parent key `" ++ key ++ "` has no container view"
  | reservedKey key => "key `" ++ key ++ "` is reserved for the container view"
  | emptySequence => "sequence has no views yet"
  | host fault => "host rejected constraint: " ++ fault.message

/-- The attribute of a word, or the fault of naming none. -/
def Attribute.lookup (word : String) : Except Fault Attribute :=
  match Attribute.ofKeyword? word with
  | some found => .ok found
  | none => .error (.unknownAttribute word)

/-- The relation of a symbol, or the fault of naming none. -/
def Relation.lookup (symbol : String) : Except Fault Relation :=
  match Relation.ofSymbol? symbol with
  | some found => .ok found
  | none => .error (.unknownRelation symbol)

end ViewLayout
