import ViewLayout.Proofs.Builder.Applying
import ViewLayout.Proofs.Host.Inventory
import ViewLayout.Proofs.Host.Moving
import ViewLayout.Proofs.Sequence.Texts

/-!
# Registering the views of a sequence

Before a batch writes its texts, its views are registered one after another, each under the key of
the next number, and put into the container. This changes neither what a sequence is written with
nor what is stored, and every view of the sequence has a key of its own (`registered_of_foldlM`).
-/

namespace ViewLayout.Sequence

open ViewLayout.Outcome

variable {sequence next : Sequence} {views : List ViewId}

/-- Adding the next view registers it under its key and puts it into the container. -/
theorem exists_registry_of_addNext {view : ViewId} (done : sequence.addNext view = .ok next) :
    ∃ registry host,
      sequence.builder.registry.register (viewKey (sequence.count + 1)) (.view view) =
        .ok registry ∧
      sequence.builder.host.attach sequence.builder.container view = .ok host ∧
      next = { sequence with
        builder := { sequence.builder with registry, host }, count := sequence.count + 1 } := by
  obtain ⟨builder, added, replaced⟩ := bind_eq_ok_iff.1 done
  obtain rfl := Except.ok.inj replaced
  obtain ⟨registry, host, registered, attached, rfl⟩ := Builder.addView_eq_ok_iff.1 added
  exact ⟨registry, host, registered, attached, rfl⟩

/-- Views were registered under the next keys of a sequence and put into the container. -/
structure Registered (before : Sequence) (views : List ViewId) (after : Sequence) : Prop where
  /-- The axis stays. -/
  axis : after.axis = before.axis
  /-- The margins stay. -/
  margins : after.margins = before.margins
  /-- The sequence is closed if it was. -/
  closed : after.closed = before.closed
  /-- The views are counted. -/
  count : after.count = before.count + views.length
  /-- The container stays. -/
  container : after.builder.container = before.builder.container
  /-- The parent key stays. -/
  parentKey : after.builder.registry.parentKey = before.builder.registry.parentKey
  /-- It stands for what it stood for. -/
  parent : after.builder.registry.container = before.builder.registry.container
  /-- The applied texts stay. -/
  applied : after.builder.applied = before.builder.applied
  /-- The stored constraints stay. -/
  constraints : after.builder.host.constraints = before.builder.host.constraints
  /-- The host created the nodes it had created. -/
  knows : ∀ node, after.builder.host.knows node = before.builder.host.knows node
  /-- The host created the views and, if there are any, the container. -/
  created : ∀ view ∈ views, before.builder.host.knows (.view view) = true ∧
    before.builder.host.knows (.view before.builder.container) = true
  /-- The keys of earlier numbers stand for what they stood for. -/
  earlier : ∀ number node, number ≤ before.count →
    before.builder.registry.resolve (viewKey number) = .ok node →
    after.builder.registry.resolve (viewKey number) = .ok node
  /-- The key of every later number stands for the view with that number. -/
  keys : ∀ i view, views[i]? = some view →
    after.builder.registry.resolve (viewKey (before.count + i + 1)) = .ok (.view view)

/-- No view is registered by doing nothing. -/
theorem Registered.refl (sequence : Sequence) : Registered sequence [] sequence :=
  ⟨rfl, rfl, rfl, rfl, rfl, rfl, rfl, rfl, rfl, fun _ => rfl, nofun, fun _ _ _ same => same, nofun⟩

/-- One more view is registered. -/
theorem Registered.addNext {middle : Sequence} {view : ViewId}
    (registered : Registered sequence views middle) (done : middle.addNext view = .ok next) :
    Registered sequence (views ++ [view]) next := by
  obtain ⟨registry, host, registers, attached, rfl⟩ := exists_registry_of_addNext done
  obtain ⟨parentKey, parent, here, others⟩ := Registry.resolve_of_register registers
  have inventory := Host.inventory_of_attach attached
  have counted := registered.count
  -- An earlier view has another number, and so a key that still stands for it.
  have different {number : Nat} (smaller : number ≤ middle.count) :
      viewKey number ≠ viewKey (middle.count + 1) := by
    intro same
    have number := viewKey_injective same
    omega
  constructor
  case axis => exact registered.axis
  case margins => exact registered.margins
  case closed => exact registered.closed
  case count => rw [List.length_append, List.length_singleton, ← Nat.add_assoc, ← counted]
  case container => exact registered.container
  case parentKey => exact parentKey.trans registered.parentKey
  case parent => exact parent.trans registered.parent
  case applied => exact registered.applied
  case constraints =>
    exact (Host.constraints_of_inventory inventory).trans registered.constraints
  case knows =>
    intro node
    exact (Host.knows_of_inventory inventory node).trans (registered.knows node)
  case created =>
    intro other listed
    rcases List.mem_append.1 listed with before | last
    · exact registered.created other before
    · obtain rfl := List.mem_singleton.1 last
      obtain ⟨container, placed⟩ := Host.knows_of_attach attached
      rw [registered.knows, registered.container] at container
      rw [registered.knows] at placed
      exact ⟨placed, container⟩
  case earlier =>
    intro number node small found
    exact others _ _ (different (by omega)) (registered.earlier number node small found)
  case keys =>
    intro i other found
    rcases Nat.lt_or_ge i views.length with before | last
    · rw [List.getElem?_append_left before] at found
      exact others _ _ (different (by omega)) (registered.keys i other found)
    · rw [List.getElem?_append_right last, List.getElem?_singleton] at found
      split at found
      · obtain rfl := Option.some.inj found
        have number : sequence.count + i + 1 = middle.count + 1 := by omega
        rw [number]
        exact here
      · contradiction

/-- Views are registered one after another. -/
theorem registered_of_foldlM (done : views.foldlM addNext sequence = .ok next) :
    Registered sequence views next := by
  have run {middle : Sequence} {before later : List ViewId}
      (registered : Registered sequence before middle)
      (done : later.foldlM Sequence.addNext middle = .ok next) :
      Registered sequence (before ++ later) next := by
    induction later generalizing middle before with
    | nil =>
      obtain rfl := Except.ok.inj done
      rwa [List.append_nil]
    | cons view later ih =>
      rw [List.foldlM_cons, bind_eq_ok_iff] at done
      obtain ⟨after, adds, rest⟩ := done
      rw [← List.singleton_append, ← List.append_assoc]
      exact ih (registered.addNext adds) rest
  exact run (.refl sequence) done

end ViewLayout.Sequence
