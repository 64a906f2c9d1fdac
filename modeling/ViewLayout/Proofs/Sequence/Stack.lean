import ViewLayout.Proofs.Sequence.Registering

/-!
# Sequences stack their views

A sequence stores, batch by batch, constraints that impose the ties of its history. What one
operation adds is read off its texts, and a run keeps that all ties asked for so far are imposed
(`Follows`). So frames that satisfy what a run has stored are the stack that its operations ask for:
`stacked_of_run`.
-/

namespace ViewLayout

open ViewLayout.Outcome

/-- A constraint that is stored for a descriptor imposes the tie that the descriptor states. -/
theorem Tie.imposed_of_stores {registry : Registry} {tie : Tie} {descriptor : Descriptor}
    {applied : Applied} (stated : tie.StatedBy registry descriptor)
    (stores : Host.Stores registry descriptor applied) : tie.ImposedBy applied := by
  obtain ⟨firstKey, secondKey, first, second, rfl⟩ := stated
  obtain ⟨kept, firstNode, secondNode⟩ := stores
  obtain ⟨descriptor, node, other⟩ := applied
  obtain rfl : descriptor = _ := kept
  cases secondNode with
  | some found =>
    refine ⟨?_, ?_, firstKey, secondKey, rfl⟩
    · exact Except.ok.inj (firstNode.symm.trans first)
    · exact congrArg some (Except.ok.inj (found.symm.trans second))

namespace Sequence

/-- Constraints that are stored behind others impose ties. -/
def Imposed (ties : List Tie) (before after : List Applied) : Prop :=
  ∃ stored, after = before ++ stored ∧ ∀ tie ∈ ties, ∃ applied ∈ stored, tie.ImposedBy applied

namespace Imposed

variable {ties more : List Tie} {before middle after : List Applied}

/-- No ties are imposed by nothing. -/
theorem refl (constraints : List Applied) : Imposed [] constraints constraints :=
  ⟨[], (List.append_nil _).symm, nofun⟩

/-- Constraints behind each other impose the ties of all of them. -/
theorem trans (first : Imposed ties before middle) (second : Imposed more middle after) :
    Imposed (ties ++ more) before after := by
  obtain ⟨stored, rfl, imposed⟩ := first
  obtain ⟨others, rfl, imposes⟩ := second
  refine ⟨stored ++ others, List.append_assoc _ _ _, fun tie listed => ?_⟩
  rcases List.mem_append.1 listed with here | there
  · obtain ⟨applied, present, states⟩ := imposed tie here
    exact ⟨applied, List.mem_append_left _ present, states⟩
  · obtain ⟨applied, present, states⟩ := imposes tie there
    exact ⟨applied, List.mem_append_right _ present, states⟩

/-- Of imposed ties, some may be left out and the order does not matter. -/
theorem mono (imposed : Imposed ties before after) (fewer : more ⊆ ties) :
    Imposed more before after := by
  obtain ⟨stored, behind, imposes⟩ := imposed
  exact ⟨stored, behind, fun tie listed => imposes tie (fewer listed)⟩

end Imposed

/-! ## Emitting texts -/

/-- A sequence becomes another by emitting texts that impose ties. -/
structure Emitted (ties : List Tie) (before after : Sequence) : Prop where
  /-- The axis stays. -/
  axis : after.axis = before.axis
  /-- The margins stay. -/
  margins : after.margins = before.margins
  /-- The number of views stays. -/
  count : after.count = before.count
  /-- The keys stay. -/
  registry : after.builder.registry = before.builder.registry
  /-- The ties are imposed by what is stored. -/
  imposed : Imposed ties before.builder.host.constraints after.builder.host.constraints

/-- Emitting no text changes nothing. -/
theorem Emitted.refl (sequence : Sequence) : Emitted [] sequence sequence :=
  ⟨rfl, rfl, rfl, rfl, .refl _⟩

/-- Texts one after another impose the ties of all of them. -/
theorem Emitted.trans {ties more : List Tie} {before middle after : Sequence}
    (first : Emitted ties before middle) (second : Emitted more middle after) :
    Emitted (ties ++ more) before after :=
  ⟨second.axis.trans first.axis, second.margins.trans first.margins,
    second.count.trans first.count, second.registry.trans first.registry,
    first.imposed.trans second.imposed⟩

variable {sequence next : Sequence} {container : ViewId}

/-- Emitting a text imposes the ties that it states however it is compiled. -/
theorem emitted_of_emit {raw : String} {ties : List Tie}
    (states : ∀ spacing ds, Constraint.compile raw spacing sequence.builder.registry
      sequence.margins.metrics none = .ok ds →
        List.Forall₂ (Tie.StatedBy sequence.builder.registry) ties ds)
    (done : sequence.emit raw = .ok next) : Emitted ties sequence next := by
  obtain ⟨builder, applied, replaced⟩ := bind_eq_ok_iff.1 done
  obtain rfl := Except.ok.inj replaced
  obtain ⟨ds, stored, compiled, stores, rfl⟩ := Builder.exists_stores_of_addConstraint applied
  refine ⟨rfl, rfl, rfl, rfl, stored, rfl, fun tie listed => ?_⟩
  have imposes : List.Forall₂ Tie.ImposedBy ties stored := by
    refine forall₂_comp ?_ (states _ ds compiled) stores
    intro tie descriptor applied
    exact Tie.imposed_of_stores
  exact exists_mem_of_forall₂ imposes.flip listed

/-- Emitting the texts across the axis imposes their ties. -/
theorem emitted_of_crossTexts
    (parent : sequence.builder.registry.resolve sequence.builder.registry.parentKey =
      .ok (.view container))
    (parentKey : Token.WellSpelled (.ident sequence.builder.registry.parentKey))
    {keys : List String} {placements : List Placement} {centered : Bool}
    (keyed : List.Forall₂ (Keyed sequence.builder.registry sequence.margins) keys placements)
    (alike : ∀ placement ∈ placements, placement.centered = centered)
    (done : keys.foldlM (fun s key => s.emit (s.crossText key centered)) sequence = .ok next) :
    Emitted (placements.flatMap (crossTies sequence.axis container)) sequence next := by
  induction keys generalizing sequence placements with
  | nil =>
    cases keyed
    obtain rfl := Except.ok.inj done
    exact .refl sequence
  | cons key keys ih =>
    cases keyed with
    | @cons _ placement _ placements here keyed =>
      rw [List.foldlM_cons, bind_eq_ok_iff] at done
      obtain ⟨middle, emits, later⟩ := done
      obtain rfl := alike placement List.mem_cons_self
      have first : Emitted (crossTies sequence.axis container placement) sequence middle :=
        emitted_of_emit (fun _ _ => stated_of_crossText parent parentKey here) emits
      rw [← first.registry] at parent parentKey keyed
      rw [← first.margins] at keyed
      have second := ih parent parentKey keyed
        (fun other listed => alike other (List.mem_cons_of_mem _ listed)) later
      rw [first.axis] at second
      exact first.trans second

/-! ## Placing views -/

/-- The views of a sequence are placed: each has its key, next to the container's. -/
structure Places (container : ViewId) (sequence : Sequence) (placements : List Placement) :
    Prop where
  /-- The parent key is an identifier. -/
  parentKey : Token.WellSpelled (.ident sequence.builder.registry.parentKey)
  /-- It stands for the container. -/
  container : sequence.builder.registry.container = some container
  /-- Every view is counted. -/
  count : sequence.count = placements.length
  /-- The key of every number stands for the view with that number. -/
  keys : ∀ i placement, placements[i]? = some placement →
    sequence.builder.registry.resolve (viewKey (i + 1)) = .ok placement.node

namespace Places

variable {placements : List Placement}

/-- The parent key stands for the container. -/
theorem resolve_parentKey (places : Places container sequence placements) :
    sequence.builder.registry.resolve sequence.builder.registry.parentKey =
      .ok (.view container) := by
  unfold Registry.resolve
  rw [if_pos rfl, places.container]

/-- Emitting texts moves no view to another key. -/
theorem of_emitted {ties : List Tie} (places : Places container sequence placements)
    (emitted : Emitted ties sequence next) : Places container next placements := by
  obtain ⟨parentKey, parent, count, keys⟩ := places
  rw [← emitted.registry] at parentKey parent keys
  rw [← emitted.count] at count
  exact ⟨parentKey, parent, count, keys⟩

/-- Registering a batch of views places it behind the others. -/
theorem of_registered (places : Places container sequence placements) {views : List ViewId}
    (margins : Margins) (centered : Bool) (registered : Registered sequence views next) :
    Places container next (placements ++ views.map (⟨·, margins, centered⟩)) := by
  have counted := places.count
  refine ⟨registered.parentKey ▸ places.parentKey, registered.parent.trans places.container, ?_, ?_⟩
  · rw [registered.count, counted, List.length_append, List.length_map]
  · intro i placement placed
    rcases Nat.lt_or_ge i placements.length with earlier | later
    · rw [List.getElem?_append_left earlier] at placed
      exact registered.earlier _ _ (by omega) (places.keys i placement placed)
    · rw [List.getElem?_append_right later, List.getElem?_map, Option.map_eq_some_iff] at placed
      obtain ⟨view, found, rfl⟩ := placed
      have here := registered.keys _ view found
      rwa [counted, Nat.add_sub_cancel' later] at here

/-- The keys of the last views stand for them. -/
theorem keyed {batch : List Placement} {margins : Margins}
    (places : Places container sequence (placements ++ batch))
    (alike : ∀ placement ∈ batch, placement.margins = margins) :
    List.Forall₂ (Keyed sequence.builder.registry margins)
      ((List.range batch.length).map fun i => viewKey (placements.length + i + 1)) batch := by
  rw [List.forall₂_iff_get]
  refine ⟨by rw [List.length_map, List.length_range], fun i _ inside => ?_⟩
  simp only [List.get_eq_getElem, List.getElem_map, List.getElem_range]
  refine ⟨wellSpelled_viewKey _, places.keys _ _ ?_, alike _ (List.getElem_mem inside)⟩
  rw [List.getElem?_append_right (Nat.le_add_right _ _), Nat.add_sub_cancel_left,
    List.getElem?_eq_getElem inside]

/-- The key of the last view before a batch stands for it. -/
theorem resolve_last {batch : List Placement} {last : Placement}
    (places : Places container sequence (placements ++ batch))
    (final : placements.getLast? = some last) :
    sequence.builder.registry.resolve (viewKey placements.length) = .ok last.node := by
  rw [List.getLast?_eq_getElem?] at final
  obtain ⟨bound, -⟩ := List.getElem?_eq_some_iff.1 final
  have here := places.keys (placements.length - 1) last
    ((List.getElem?_append_left bound).trans final)
  rwa [Nat.sub_add_cancel (by omega)] at here

/-- Emitting the text of a batch along the axis imposes its ties. -/
theorem emitted_of_chainText {batch : List Placement}
    (places : Places container sequence (placements ++ batch))
    (alike : ∀ placement ∈ batch, placement.margins = sequence.margins) (filled : batch ≠ [])
    (done : sequence.emit (chainText sequence.axis placements.length
      ((List.range batch.length).map fun i => viewKey (placements.length + i + 1))) = .ok next) :
    Emitted (batchTies sequence.axis container placements batch) sequence next := by
  have keyed := places.keyed alike
  have named : (List.range batch.length).map (fun i => viewKey (placements.length + i + 1)) ≠ [] := by
    rwa [ne_eq, List.map_eq_nil_iff, List.range_eq_nil, List.length_eq_zero_iff]
  refine emitted_of_emit (fun spacing ds compiled => ?_) done
  unfold batchTies
  split
  · rename_i none
    obtain rfl := List.getLast?_eq_none_iff.1 none
    exact stated_of_chainText_first places.resolve_parentKey keyed named compiled
  · rename_i last final
    have begun : placements.length ≠ 0 := by
      rintro empty
      rw [List.length_eq_zero_iff.1 empty] at final
      contradiction
    exact stated_of_chainText begun (places.resolve_last final) keyed named compiled

end Places

/-! ## Following a history -/

/-- A sequence follows a history: its views are placed as the history says, and all ties of the
history are imposed by what was stored behind older constraints. -/
structure Follows (axis : Axis) (container : ViewId) (old : List Applied) (sequence : Sequence)
    (history : History) : Prop where
  /-- The axis is that of the history. -/
  aligned : sequence.axis = axis
  /-- The views are placed. -/
  places : Places container sequence history.placements
  /-- The margins are those in force. -/
  margins : sequence.margins = history.margins
  /-- The sequence is closed when the history is. -/
  closed : sequence.closed = history.closed
  /-- The ties are imposed. -/
  imposed : Imposed (history.ties axis container) old sequence.builder.host.constraints

namespace Follows

variable {axis : Axis} {old : List Applied} {history : History}

/-- Adding a batch of views, emitting their texts across the axis and emitting that along the
axis. -/
theorem append (follows : Follows axis container old sequence history) {views : List ViewId}
    {centered : Bool} (filled : views ≠ []) {added placed chained : Sequence} {keys : List String}
    (named : keys = (List.range views.length).map fun i => viewKey (sequence.count + i + 1))
    (adds : views.foldlM addNext sequence = .ok added)
    (crosses : keys.foldlM (fun s key => s.emit (s.crossText key centered)) added = .ok placed)
    (chains : placed.emit (chainText sequence.axis sequence.count keys) = .ok chained) :
    Follows axis container old { chained with closed := false } (history.append views centered) := by
  obtain ⟨rfl, places, margins, -, imposed⟩ := follows
  have registered := registered_of_foldlM adds
  have listed := places.of_registered history.margins centered registered
  change Places container added (history.placements ++ history.batch views centered) at listed
  have size : (history.batch views centered).length = views.length := List.length_map _
  have batch : history.batch views centered ≠ [] := by
    rwa [ne_eq, History.batch, List.map_eq_nil_iff]
  rw [places.count, ← size] at named
  rw [places.count] at chains
  subst named
  -- The texts across the axis, with the keys and margins of all views of the batch.
  have measured : added.margins = history.margins := registered.margins.trans margins
  have across := emitted_of_crossTexts listed.resolve_parentKey listed.parentKey
    (listed.keyed fun _ listed => (History.margins_of_mem_batch listed).trans measured.symm)
    (fun _ => History.centered_of_mem_batch) crosses
  -- The text along the axis, which finds the same keys and margins.
  have still : placed.margins = history.margins := across.margins.trans measured
  rw [← registered.axis, ← across.axis] at chains
  have along := (listed.of_emitted across).emitted_of_chainText
    (fun _ listed => (History.margins_of_mem_batch listed).trans still.symm) batch chains
  rw [across.axis, registered.axis] at along
  rw [registered.axis] at across
  have both := across.trans along
  have ends := listed.of_emitted both
  refine ⟨both.axis.trans registered.axis, ⟨ends.parentKey, ends.container, ends.count, ends.keys⟩,
    both.margins.trans measured, rfl, ?_⟩
  have emitted := both.imposed
  rw [registered.constraints] at emitted
  exact (imposed.trans emitted).mono (History.ties_append_subset _ _ _ _ _)

/-- Appending a batch of views. -/
theorem addViews (follows : Follows axis container old sequence history) {views : List ViewId}
    {centered : Bool} (done : sequence.addViews views centered = .ok next) :
    Follows axis container old next (history.record (.addViews views centered)) := by
  unfold Sequence.addViews at done
  split at done
  · rename_i empty
    obtain rfl := Except.ok.inj done
    rw [History.record, if_pos empty]
    exact follows
  · rename_i filled
    rw [History.record, if_neg filled]
    dsimp only at done
    obtain ⟨added, adds, rest⟩ := bind_eq_ok_iff.1 done
    obtain ⟨placed, crosses, rest⟩ := bind_eq_ok_iff.1 rest
    obtain ⟨chained, chains, replaced⟩ := bind_eq_ok_iff.1 rest
    obtain rfl := Except.ok.inj replaced
    rw [List.isEmpty_iff] at filled
    exact follows.append filled rfl adds crosses chains

/-- Closing. -/
theorem close (follows : Follows axis container old sequence history)
    (done : sequence.close = .ok next) :
    Follows axis container old next (history.record .close) := by
  unfold Sequence.close at done
  split at done
  · contradiction
  · rename_i begun
    split at done
    · rename_i closed
      obtain rfl := Except.ok.inj done
      rw [History.record, ← follows.closed, if_pos closed]
      exact follows
    · rename_i opened
      rw [History.record, ← follows.closed, if_neg opened]
      obtain ⟨emitted, emits, replaced⟩ := bind_eq_ok_iff.1 done
      obtain rfl := Except.ok.inj replaced
      obtain ⟨rfl, places, margins, -, imposed⟩ := follows
      rw [places.count] at begun emits
      obtain ⟨last, final⟩ : ∃ last, history.placements.getLast? = some last :=
        Option.isSome_iff_exists.1 (List.getLast?_isSome.2 fun empty => begun (by rw [empty]; rfl))
      have listed : Places container sequence (history.placements ++ []) := by
        rwa [List.append_nil]
      have here := listed.resolve_last final
      have closes : Emitted [endTie sequence.axis container ⟨last.view, sequence.margins⟩] sequence
          emitted :=
        emitted_of_emit (fun _ _ => stated_of_closingText places.resolve_parentKey here) emits
      have ends := places.of_emitted closes
      refine ⟨closes.axis, ⟨ends.parentKey, ends.container, ends.count, ends.keys⟩,
        closes.margins.trans margins, rfl, ?_⟩
      rw [History.ties_close, History.closing, final, ← margins]
      exact imposed.trans closes.imposed

/-- Any operation. -/
theorem perform (follows : Follows axis container old sequence history) {operation : Operation}
    (done : sequence.perform operation = .ok next) :
    Follows axis container old next (history.record operation) := by
  cases operation with
  | withMargins margins =>
    obtain rfl := Except.ok.inj done
    obtain ⟨aligned, places, -, closed, imposed⟩ := follows
    exact ⟨aligned, ⟨places.parentKey, places.container, places.count, places.keys⟩, rfl, closed,
      imposed⟩
  | addViews views centered => exact follows.addViews done
  | close => exact follows.close done

/-- Operations one after another. -/
theorem run (follows : Follows axis container old sequence history) {operations : List Operation}
    (done : sequence.run operations = .ok next) :
    Follows axis container old next (operations.foldl History.record history) := by
  induction operations generalizing sequence history with
  | nil =>
    obtain rfl := Except.ok.inj done
    exact follows
  | cons operation operations ih =>
    rw [Sequence.run, List.foldlM_cons, bind_eq_ok_iff] at done
    obtain ⟨middle, performed, later⟩ := done
    exact ih (follows.perform performed) later

end Follows

/-- A new sequence follows the history without operations. -/
theorem follows_new {axis : Axis} {builder : Builder}
    (parentKey : Token.WellSpelled (.ident builder.registry.parentKey))
    (parent : builder.registry.container = some builder.container) :
    Follows axis builder.container builder.host.constraints { axis, builder } {} where
  aligned := rfl
  places := ⟨parentKey, parent, rfl, nofun⟩
  margins := rfl
  closed := rfl
  imposed := .refl _

/-- Frames that satisfy the constraints that a run on a new sequence has stored, with the container
at the origin, are the stack that the operations ask for. The run begins with any builder that has
its container, as all builders do (`Builder.Consistent.parent`). -/
theorem stacked_of_run {axis : Axis} {builder : Builder} {operations : List Operation}
    {final : Sequence} {frames : Node → Frame Rat}
    (parentKey : Token.WellSpelled (.ident builder.registry.parentKey))
    (parent : builder.registry.container = some builder.container)
    (ran : run { axis, builder } operations = .ok final)
    (origin : (frames (.view builder.container)).x = 0 ∧ (frames (.view builder.container)).y = 0)
    (held : ∀ applied ∈ final.builder.host.constraints.drop builder.host.constraints.length,
      applied.Holds frames) :
    Stacked axis builder.container frames (history operations) := by
  obtain ⟨stored, behind, imposed⟩ := ((follows_new parentKey parent).run ran).imposed
  rw [behind, List.drop_left] at held
  have edges : ∀ axis : Axis, (frames (.view builder.container)).edge axis.leadingEdge = 0 := by
    intro axis
    cases axis with
    | horizontal => exact origin.1
    | vertical => exact origin.2
  refine stacked_of_ties edges fun tie made => ?_
  obtain ⟨applied, present, imposes⟩ := imposed tie made
  exact Tie.holds_of_imposed imposes (held applied present)

/-- A batch of two views, one centered view with other margins, and closing twice: the views begin
at 20, at 20 + 40 + 5 and at 65 + 30 + 9, and the container ends 7 after 104 + 50. -/
theorem stacked_of_run_two_batches :
    let builder := Builder.ofHost { spacing := ⟨8, 20⟩, views := List.replicate 4 {} } ⟨0⟩ {}
    let operations : List Operation :=
      [.withMargins ⟨20, 10, 5⟩, .addViews [⟨1⟩, ⟨2⟩] false, .withMargins ⟨7, 3, 9⟩,
        .addViews [] false, .addViews [⟨3⟩] true, .close, .close]
    let frames : Node → Frame Rat
      | .view ⟨0⟩ => ⟨0, 0, 161, 100⟩
      | .view ⟨1⟩ => ⟨20, 10, 40, 80⟩
      | .view ⟨2⟩ => ⟨65, 10, 30, 80⟩
      | _ => ⟨104, 30, 50, 40⟩
    ∃ final, run { axis := .horizontal, builder } operations = .ok final ∧
      (∀ applied ∈ final.builder.host.constraints.drop builder.host.constraints.length,
        applied.Holds frames) ∧
      Stacked .horizontal ⟨0⟩ frames (history operations) := by
  intro builder operations frames
  have checked : ∃ final ∈ (run { axis := .horizontal, builder } operations).toOption,
      ∀ applied ∈ final.builder.host.constraints.drop builder.host.constraints.length,
        applied.Holds frames := by
    decide +kernel
  obtain ⟨final, found, held⟩ := checked
  have ran := eq_ok_of_toOption found
  have parentKey : Token.WellSpelled (.ident builder.registry.parentKey) :=
    Token.wellSpelled_of_isIdent (by decide +kernel)
  exact ⟨final, ran, held, stacked_of_run parentKey rfl ran ⟨rfl, rfl⟩ held⟩

end Sequence

end ViewLayout
