import ViewLayout.EditDistance
import ViewLayout.Fault
import ViewLayout.KeyMap

/-!
# The registry of keys

Constraint text names views and guides by key. The parent key is reserved: it stands for the
container, when there is one, and no other node can be registered under it.
-/

namespace ViewLayout

/-- A view, by its number in the host that created it. -/
structure ViewId where
  /-- The number of the view. -/
  index : Nat
deriving DecidableEq, Repr, Inhabited

/-- A layout guide, by its number in the host that created it. -/
structure GuideId where
  /-- The number of the guide. -/
  index : Nat
deriving DecidableEq, Repr, Inhabited

/-- Anything a constraint can refer to. -/
inductive Node where
  | view (view : ViewId)
  | guide (guide : GuideId)
deriving DecidableEq, Repr

namespace Node

/-- How messages name a node. -/
def describe : Node → String
  | view v => "view#" ++ toString v.index
  | guide g => "guide#" ++ toString g.index

/-- The view of a node that is one. -/
def view? : Node → Option ViewId
  | view v => some v
  | guide _ => none

end Node

/-- The keys that constraint text can use. -/
structure Registry where
  /-- The key that is reserved for the container. -/
  parentKey : String
  /-- The container, when there is one. -/
  container : Option ViewId
  /-- The registered keys. -/
  entries : KeyMap Node

namespace Registry

/-- The registry of a container before anything is registered. -/
def ofContainer (parentKey : String) (container : ViewId) : Registry :=
  ⟨parentKey, some container, .empty⟩

/-- A registry whose parent key stands for nothing. -/
def withoutContainer (parentKey : String) : Registry :=
  ⟨parentKey, none, .empty⟩

/-- Registers a node under a key, in place of any node registered under it before. -/
def register (registry : Registry) (key : String) (node : Node) : Except Fault Registry :=
  if key = registry.parentKey then .error (.reservedKey key)
  else .ok { registry with entries := registry.entries.insert key node }

/-- Removes keys one after another, and gives the removed bindings in the order asked. -/
def unregister (registry : Registry) : List String → Registry × List (String × Node)
  | [] => (registry, [])
  | key :: keys =>
    match registry.entries.get? key with
    | none => registry.unregister keys
    | some node =>
      let (rest, removed) :=
        unregister { registry with entries := registry.entries.erase key } keys
      (rest, (key, node) :: removed)

/-- How many suggestions a missing key gets at most. -/
def suggestionLimit : Nat := 3

/-- How many edits away from a missing key its suggestions are at most. -/
def suggestionDistance : Nat := 2

/-- What similar keys are sorted by: the distance from the missing key, and then the key. -/
def notAfter (key first second : String) : Bool :=
  editDistance first key < editDistance second key ||
    (editDistance first key = editDistance second key && first ≤ second)

/-- The keys similar to a missing one, out of keys in any order, sorted. -/
def similarAmong (order : List String) (key : String) : List String :=
  let isSimilar (other : String) : Bool :=
    editDistance other key ≤ suggestionDistance && 0 < editDistance other key
  (order.filter isSimilar).mergeSort (notAfter key)

/-- The suggestions for a missing key out of keys in any order: the first of the similar ones. -/
def suggestionsAmong (order : List String) (key : String) : List String :=
  (similarAmong order key).take suggestionLimit

/-- The registered keys that are suggested for a missing one. -/
def suggestions (registry : Registry) (key : String) : List String :=
  suggestionsAmong registry.entries.keys key

/-- The node a key stands for. -/
def resolve (registry : Registry) (key : String) : Except Fault Node :=
  if key = registry.parentKey then
    match registry.container with
    | some view => .ok (.view view)
    | none => .error (.parentUnresolved key)
  else
    match registry.entries.get? key with
    | some node => .ok node
    | none => .error (.unknownKey key (registry.suggestions key))

/-- The view a key stands for; a guide's key is as unknown here as a missing one. -/
def resolveView (registry : Registry) (key : String) : Except Fault ViewId :=
  match registry.resolve key with
  | .error fault => .error fault
  | .ok (.view view) => .ok view
  | .ok (.guide _) => .error (.unknownKey key [])

/-- Whether a key is registered or reserved, with or without a container. -/
def contains (registry : Registry) (key : String) : Bool :=
  key = registry.parentKey || registry.entries.contains key

/-- The keys registered for views, in key order. -/
def viewKeys (registry : Registry) : List String :=
  registry.entries.entries.filterMap fun entry => entry.2.view?.map fun _ => entry.1

/-- A key that stands for a node: the parent key for the container, otherwise the first key in key
order. -/
def keyOf? (registry : Registry) (node : Node) : Option String :=
  if registry.container.map Node.view = some node then some registry.parentKey
  else (registry.entries.entries.find? (·.2 = node)).map (·.1)

end Registry

end ViewLayout
