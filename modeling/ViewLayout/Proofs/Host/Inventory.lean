import ViewLayout.Host.Walk
import ViewLayout.Proofs.Host.Views
import ViewLayout.Proofs.Outcome

/-!
# What changes of views keep

Moving views and changing their priorities is done by changing views in place. None of it, however
it ends, creates or removes a node or touches an applied constraint: all of it keeps the inventory
of the host.
-/

namespace ViewLayout.Host

open ViewLayout.Number

/-- How many views and guides a host created, and its applied constraints. -/
def inventory (host : Host) : Nat × Nat × List Applied :=
  (host.views.length, host.guides.length, host.constraints)

/-- Hosts of one inventory created the same nodes. -/
theorem knows_of_inventory {host after : Host} (same : after.inventory = host.inventory)
    (node : Node) : after.knows node = host.knows node := by
  simp only [inventory, Prod.mk.injEq] at same
  cases node with
  | view view => simp only [knows, same.1]
  | guide guide => simp only [knows, same.2.1]

/-- Hosts of one inventory have the same constraints. -/
theorem constraints_of_inventory {host after : Host} (same : after.inventory = host.inventory) :
    after.constraints = host.constraints :=
  (Prod.mk.inj (Prod.mk.inj same).2).2

/-- Creating a view loses no node. -/
theorem knows_createView {host : Host} {node : Node} (known : host.knows node = true)
    (content : Option (PerAxis Binary64)) : (host.createView content).1.knows node = true := by
  cases node with
  | view view =>
    simp only [knows, createView, List.length_append, decide_eq_true_eq] at known ⊢
    omega
  | guide guide => exact known

/-- Creating a guide loses no node. -/
theorem knows_createGuide {host : Host} {node : Node} (known : host.knows node = true)
    (frame : Frame Binary64) : (host.createGuide frame).1.knows node = true := by
  cases node with
  | view view => exact known
  | guide guide =>
    simp only [knows, createGuide, List.length_append, decide_eq_true_eq] at known ⊢
    omega

/-- Changing a view keeps the inventory. -/
theorem inventory_modifyView (host : Host) (view : ViewId) (update : View → View) :
    (host.modifyView view update).inventory = host.inventory := by
  simp only [inventory, modifyView, List.length_modify]

/-! ### What moving views keeps -/

/-- Changing the place of a view in the tree keeps what is read off a host. -/
def KeptByMoves {Reading : Type} (read : Host → Reading) : Prop :=
  ∀ (host : Host) (view : ViewId) (update : View → View),
    (∀ data, (update data).outsideTree = data.outsideTree) →
    read (host.modifyView view update) = read host

namespace KeptByMoves

variable {Reading : Type} {read : Host → Reading} (kept : KeptByMoves read)

include kept

/-- Changing the place of a view that may be unknown. -/
theorem change_keeps (view : ViewId) {update : View → View}
    (inTree : ∀ data, (update data).outsideTree = data.outsideTree) :
    (change view update).Keeps read :=
  .bind (Steps.reading_keeps _) fun _ =>
    Steps.modify_keeps fun host => kept host view update inTree

/-- Taking a view out of its parent's children. -/
theorem removeChild_keeps (parent : Option ViewId) (child : ViewId) :
    (removeChild parent child).Keeps read := by
  cases parent with
  | none => exact Steps.pure_keeps ()
  | some parent => exact kept.change_keeps parent fun _ => rfl

/-- Attaching, whether or not it fails. -/
theorem attachSteps_keeps (parent child : ViewId) : (attachSteps parent child).Keeps read :=
  .bind (Steps.reading_keeps _) fun data =>
    .bind (Steps.reading_keeps _) fun _ =>
      .bind (kept.removeChild_keeps data.parent child) fun _ =>
        .bind (kept.change_keeps child fun _ => rfl) fun _ =>
          kept.change_keeps parent fun _ => rfl

/-- Detaching, whether or not it fails. -/
theorem detachSteps_keeps (view : ViewId) : (detachSteps view).Keeps read :=
  .bind (Steps.reading_keeps _) fun data =>
    .bind (kept.removeChild_keeps data.parent view) fun _ => kept.change_keeps view fun _ => rfl

/-- A host that attaching leads to. -/
theorem read_of_attach {host after : Host} {parent child : ViewId}
    (attached : host.attach parent child = .ok after) : read after = read host := by
  obtain ⟨⟨_, left⟩, went, rfl⟩ := Outcome.map_eq_ok_iff.1 attached
  rw [Steps.eq_left_of_outcome went]
  exact kept.attachSteps_keeps parent child host

/-- A host that detaching leads to. -/
theorem read_of_detach {host after : Host} {view : ViewId}
    (detached : host.detach view = .ok after) : read after = read host := by
  obtain ⟨⟨_, left⟩, went, rfl⟩ := Outcome.map_eq_ok_iff.1 detached
  rw [Steps.eq_left_of_outcome went]
  exact kept.detachSteps_keeps view host

end KeptByMoves

/-- Moving views keeps the inventory. -/
theorem inventory_keptByMoves : KeptByMoves inventory :=
  fun host view update _ => inventory_modifyView host view update

/-- Moving views keeps everything outside the tree. -/
theorem outsideTree_keptByMoves : KeptByMoves outsideTree :=
  fun host view _ inTree => outsideTree_modifyView host view inTree

/-- Attaching keeps the inventory. -/
theorem attachSteps_keeps (parent child : ViewId) : (attachSteps parent child).Keeps inventory :=
  inventory_keptByMoves.attachSteps_keeps parent child

/-- Detaching keeps the inventory. -/
theorem detachSteps_keeps (view : ViewId) : (detachSteps view).Keeps inventory :=
  inventory_keptByMoves.detachSteps_keeps view

/-- A host that attaching leads to is the same outside the tree. -/
theorem outsideTree_of_attach {host after : Host} {parent child : ViewId}
    (attached : host.attach parent child = .ok after) : after.outsideTree = host.outsideTree :=
  outsideTree_keptByMoves.read_of_attach attached

/-- A host that attaching leads to has the inventory from before. -/
theorem inventory_of_attach {host after : Host} {parent child : ViewId}
    (attached : host.attach parent child = .ok after) : after.inventory = host.inventory :=
  inventory_keptByMoves.read_of_attach attached

/-- A walk keeps what every visit keeps. -/
theorem walkStack_keeps {State Reading : Type} (read : State → Reading)
    {children : State → ViewId → List ViewId} {visit : Visitor State}
    (kept : ∀ state view, read (visit state view).1 = read state) (visits : Nat)
    (stack : List ViewId) (state : State) :
    read (walkStack children visit visits stack state).1 = read state := by
  induction visits generalizing stack state with
  | zero => cases stack <;> rfl
  | succ visits ih =>
    cases stack with
    | nil => rfl
    | cons view stack =>
      have here := kept state view
      unfold walkStack
      split
      · rename_i middle fault visited
        rw [visited] at here
        exact here
      · rename_i middle visited
        rw [visited] at here
        rw [ih, here]

/-- Setting a content priority of a view and of everything below it keeps what setting it on one view
keeps. -/
theorem read_of_setPriorityBelow {Reading : Type} {read : Host → Reading} {host after : Host}
    {root : ViewId} {priority : Priority} {axis : Axis} {kind : ContentPriority}
    (kept : ∀ (host : Host) (view : ViewId),
      read (host.modifyView view (·.setPriority kind axis priority)) = read host)
    (done : host.setPriorityBelow root priority axis kind = .ok after) :
    read after = read host := by
  unfold setPriorityBelow walk at done
  dsimp only at done
  split at done
  · rename_i left extra walked
    obtain rfl := Except.ok.inj done
    rw [← congrArg (fun result => read result.1.1) walked]
    refine walkStack_keeps (fun state : Host × Unit => read state.1) ?_ _ _ _
    intro state view
    split
    · rename_i changed
      obtain ⟨_, -, replaced⟩ := Outcome.bind_eq_ok_iff.1 changed
      obtain rfl := Except.ok.inj replaced
      exact kept state.1 view
    · rfl
  · contradiction

/-- Setting a content priority of a view and of everything below it keeps the inventory. -/
theorem inventory_of_setPriorityBelow {host after : Host} {root : ViewId} {priority : Priority}
    {axis : Axis} {kind : ContentPriority}
    (done : host.setPriorityBelow root priority axis kind = .ok after) :
    after.inventory = host.inventory :=
  read_of_setPriorityBelow (fun host view => inventory_modifyView host view _) done

end ViewLayout.Host
