import ViewLayout.Host

/-!
# Walking the view tree

A walk visits a view and everything below it, each view before the views in it. The children of a
view are read after it has been visited, so a visitor decides by what it does to a view what is
walked below it.
-/

namespace ViewLayout.Host

/-- What is done at each visited view: it changes the state of the walk, and it may stop the walk
with a fault. -/
abbrev Visitor (State : Type) := State → ViewId → State × Option HostFault

/-- Visits the views of a stack, the top first, each followed by the views in it. -/
def walkStack {State : Type} (children : State → ViewId → List ViewId) (visit : Visitor State) :
    Nat → List ViewId → State → State × Option HostFault
  | _, [], state => (state, none)
  | 0, _ :: _, state => (state, none)
  | visits + 1, view :: stack, state =>
    match visit state view with
    | (state, some fault) => (state, some fault)
    | (state, none) => walkStack children visit visits (children state view ++ stack) state

/-- Visits a view and everything below it, with a visitor that carries a value beside the host. A
visitor that attaches nothing sees no view twice, so there are at most as many visits as views,
and one visit when the root is unknown. -/
def walk {Extra : Type} (host : Host) (extra : Extra) (visit : Visitor (Host × Extra))
    (root : ViewId) : (Host × Extra) × Option HostFault :=
  walkStack (fun state view => state.1.children view) visit (host.views.length + 1) [root]
    (host, extra)

/-- Sets one content priority of a view and of everything below it. -/
def setPriorityBelow (host : Host) (root : ViewId) (priority : Priority) (axis : Axis)
    (kind : ContentPriority) : Except HostFault Host :=
  let visit : Visitor (Host × Unit) := fun state view =>
    match state.1.setContentPriority view priority axis kind with
    | .ok host => ((host, ()), none)
    | .error fault => (state, some fault)
  match host.walk () visit root with
  | ((host, _), none) => .ok host
  | (_, some fault) => .error fault

end ViewLayout.Host
