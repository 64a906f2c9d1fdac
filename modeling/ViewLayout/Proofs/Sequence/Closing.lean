import ViewLayout.Proofs.Constraint.ReadBack
import ViewLayout.Proofs.Sequence.Progress
import ViewLayout.Proofs.Sequence.Stack

/-!
# Closing a sequence

Of all texts that a sequence writes, only the one that closes it relates the trailing edge of the
container along the axis: it sets that edge after the last view. What was applied is never taken
back, so a sequence that a later batch opens again keeps the constraint of its earlier closing. The
constraints that relate the edge are therefore one for each closing (`ended_of_run`), and those of a
closed sequence are exactly one since its last batch (`closed_once_since_batch`).
-/

namespace ViewLayout

open ViewLayout.Chain ViewLayout.Outcome

/-- A descriptor relates the anchors that it sets against each other. -/
def Descriptor.Relates (d : Descriptor) (anchor : Anchor) : Prop :=
  d.first = anchor ∨ d.second = some anchor

/-- Whether a descriptor relates an anchor is decided by comparing anchors. -/
instance (d : Descriptor) (anchor : Anchor) : Decidable (d.Relates anchor) :=
  inferInstanceAs (Decidable (_ ∨ _))

/-- The constraints that relate an anchor. -/
def relating (anchor : Anchor) (constraints : List Applied) : List Applied :=
  constraints.filter fun applied => applied.descriptor.Relates anchor

/-- No stored constraint relates an anchor that no descriptor relates. -/
theorem relating_eq_nil {anchor : Anchor} {registry : Registry} {ds : List Descriptor}
    {stored : List Applied} (stores : List.Forall₂ (Host.Stores registry) ds stored)
    (quiet : ∀ d ∈ ds, ¬d.Relates anchor) : relating anchor stored = [] := by
  rw [relating, List.filter_eq_nil_iff]
  intro applied present
  obtain ⟨d, listed, kept, -⟩ := exists_mem_of_forall₂ stores present
  rw [kept, decide_eq_true_eq]
  exact quiet d listed

namespace Chain

/-- A descriptor that sets a gap relates the anchors that the gap lies between. -/
theorem Gap.relates_iff {metrics : Metrics} {gap : Gap} {d : Descriptor} (set : gap.Set metrics d)
    {anchor : Anchor} : d.Relates anchor ↔ gap.first = anchor ∨ gap.second = anchor := by
  obtain ⟨distance, -, rfl⟩ := set
  rw [Descriptor.Relates, Descriptor.tie, Option.some.injEq]

/-- A chain whose end is free has no gap at the trailing edge of the container. -/
theorem Plain.gap_ne_trailingEdge {plain : Plain} {parentKey : String}
    (views : parentKey ∉ plain.keys) (free : plain.trailing = none) {gap : Gap}
    (present : gap ∈ plain.gaps parentKey) :
    ¬(gap.first = ⟨parentKey, plain.axis.trailingEdge⟩ ∨
      gap.second = ⟨parentKey, plain.axis.trailingEdge⟩) := by
  simp only [gaps, free, Option.toList_none, List.map_nil, List.append_nil, List.mem_append,
    List.mem_map] at present
  rcases present with ⟨metric, -, rfl⟩ | between
  · have different : plain.axis.leadingEdge ≠ plain.axis.trailingEdge := by
      cases plain.axis <;> decide
    simp [different]
  · obtain ⟨first, second⟩ := mem_keys_of_follow between
    rintro (same | same)
    · rw [same] at first
      exact views first
    · rw [same] at second
      exact views second

end Chain

namespace Sequence

/-! ## What the texts relate -/

/-- The names of a plain chain over numbered views and metrics of margins are identifiers. -/
theorem wellSpelled_of_numbered (plain : Plain) (count : Nat)
    (numbered : ∀ key ∈ plain.keys, Numbered count key)
    (margins : ∀ metric ∈ plain.metrics, IsMargin metric) :
    ∀ name ∈ plain.names, Token.WellSpelled (.ident name) := by
  intro name named
  rcases Plain.mem_names_iff.1 named with key | metric
  · obtain ⟨number, -, -, rfl⟩ := numbered name key
    exact wellSpelled_viewKey number
  · exact Margins.wellSpelled_keys (margins name metric)

/-- The chain of a batch names numbered views. -/
theorem numbered_of_chainPlain (axis : Axis) {before count : Nat} {first : String}
    {rest : List String} (earlier : before ≤ count)
    (numbered : ∀ key ∈ first :: rest, Numbered count key) :
    ∀ key ∈ (chainPlain axis before first rest).keys, Numbered count key := by
  intro key listed
  unfold chainPlain at listed
  split at listed
  · exact numbered key (by simpa [Plain.keys, Function.comp_def] using listed)
  · rename_i begun
    have among : key = viewKey before ∨ key ∈ first :: rest := by
      simpa [Plain.keys, Function.comp_def] using listed
    rcases among with rfl | later
    · exact ⟨before, Nat.pos_of_ne_zero begun, earlier, rfl⟩
    · exact numbered key later

/-- The chain of a batch measures its gaps by margins. -/
theorem isMargin_of_chainPlain (axis : Axis) (before : Nat) (first : String) (rest : List String) :
    ∀ metric ∈ (chainPlain axis before first rest).metrics, IsMargin metric := by
  intro metric listed
  have among : metric = Margins.endsKey ∨ metric = Margins.betweenKey := by
    unfold chainPlain at listed
    split at listed
    · simp [Plain.metrics, Function.comp_def] at listed
      exact listed.imp id And.right
    · simp [Plain.metrics, Function.comp_def] at listed
      tauto
  exact among.imp id .inr

section Texts

variable {spacing : Spacing} {margins : Margins} {ds : List Descriptor}

/-- The text that centers a view does not relate the trailing edge of the container along the axis.
With a parent key that is no identifier it may mean something else, but then it cannot name that
key. -/
theorem not_relates_of_centered {sequence : Sequence} {key : String}
    (spelled : Token.WellSpelled (.ident key))
    (compiled : Constraint.compile (sequence.crossText key true) spacing
      sequence.builder.registry margins.metrics none = .ok ds) :
    ∀ d ∈ ds, ¬d.Relates ⟨sequence.builder.registry.parentKey, sequence.axis.trailingEdge⟩ := by
  have written := toList_crossText_centered sequence key
  intro d present related
  have named : Token.WellSpelled (.ident sequence.builder.registry.parentKey) := by
    simp only [Constraint.compile, Constraint.descriptors,
      Constraint.isEquation_of_equality written, if_true, map_eq_ok_iff] at compiled
    obtain ⟨_, ⟨only, lowered, rfl⟩, rfl⟩ := compiled
    obtain rfl := List.mem_singleton.1 present
    obtain ⟨second, two, -, firstUsable, secondUsable⟩ := Equation.usable_of_compile lowered
    rcases related with same | same
    · rw [same] at firstUsable
      exact firstUsable.spelled
    · obtain rfl := Option.some.inj (two.symm.trans same)
      exact secondUsable.spelled
  obtain rfl := Constraint.eq_tie_of_compile named spelled written compiled
  obtain rfl := List.mem_singleton.1 present
  have different : sequence.axis.cross.center ≠ sequence.axis.trailingEdge := by
    cases sequence.axis <;> decide
  simp [Descriptor.Relates, Descriptor.tie, different] at related

/-- The text that keeps a view from both edges across the axis does not relate an edge along it. -/
theorem not_relates_of_pinned {sequence : Sequence} {count : Nat} {key : String}
    (numbered : Numbered count key)
    (compiled : Constraint.compile (sequence.crossText key false) spacing
      sequence.builder.registry margins.metrics none = .ok ds) :
    ∀ d ∈ ds, ¬d.Relates ⟨sequence.builder.registry.parentKey, sequence.axis.trailingEdge⟩ := by
  have spelled := wellSpelled_of_numbered (crossPlain sequence.axis key) count
    (by simpa [crossPlain, Plain.keys] using numbered)
    (by simp [crossPlain, Plain.metrics, IsMargin])
  intro d present
  have set := Constraint.set_of_compile spelled (toList_crossText sequence key) compiled
  obtain ⟨gap, listed, set⟩ := exists_mem_of_forall₂ set present
  rw [Gap.relates_iff set]
  have leading : sequence.axis.cross.leadingEdge ≠ sequence.axis.trailingEdge := by
    cases sequence.axis <;> decide
  have trailing : sequence.axis.cross.trailingEdge ≠ sequence.axis.trailingEdge := by
    cases sequence.axis <;> decide
  simp only [crossPlain, Plain.gaps, Plain.follow, Option.toList_some, List.map_cons, List.map_nil,
    List.append_nil, List.singleton_append, List.mem_cons, List.not_mem_nil, or_false] at listed
  rcases listed with rfl | rfl
  · simp [leading]
  · simp [trailing]

/-- The text of a view across the axis does not relate the trailing edge of the container along
it. -/
theorem not_relates_of_crossText {sequence : Sequence} {count : Nat} {key : String}
    {centered : Bool} (numbered : Numbered count key)
    (compiled : Constraint.compile (sequence.crossText key centered) spacing
      sequence.builder.registry margins.metrics none = .ok ds) :
    ∀ d ∈ ds, ¬d.Relates ⟨sequence.builder.registry.parentKey, sequence.axis.trailingEdge⟩ := by
  cases centered with
  | false => exact not_relates_of_pinned numbered compiled
  | true =>
    obtain ⟨number, -, -, rfl⟩ := numbered
    exact not_relates_of_centered (wellSpelled_viewKey number) compiled

variable {axis : Axis} {registry : Registry}

/-- The text of a batch along the axis does not relate the trailing edge of the container, if no
view has the parent key. -/
theorem not_relates_of_chainText {before count : Nat} {keys : List String} (filled : keys ≠ [])
    (earlier : before ≤ count) (numbered : ∀ key ∈ keys, Numbered count key)
    (free : ¬Numbered count registry.parentKey)
    (compiled : Constraint.compile (chainText axis before keys) spacing registry margins.metrics
      none = .ok ds) :
    ∀ d ∈ ds, ¬d.Relates ⟨registry.parentKey, axis.trailingEdge⟩ := by
  obtain ⟨first, rest, rfl⟩ := List.exists_cons_of_ne_nil filled
  have views := numbered_of_chainPlain axis earlier numbered
  have metrics := isMargin_of_chainPlain axis before first rest
  have written := toList_chainText axis before first rest
  have aligned : (chainPlain axis before first rest).axis = axis := by
    unfold chainPlain
    split <;> rfl
  have unended : (chainPlain axis before first rest).trailing = none := by
    unfold chainPlain
    split <;> rfl
  generalize chainPlain axis before first rest = plain at views metrics written aligned unended
  intro d present
  have set := Constraint.set_of_compile (wellSpelled_of_numbered plain count views metrics) written
    compiled
  obtain ⟨gap, listed, set⟩ := exists_mem_of_forall₂ set present
  rw [Gap.relates_iff set, ← aligned]
  exact Plain.gap_ne_trailingEdge (fun among => free (views _ among)) unended listed

/-- The closing text sets the trailing edge of the container after the last view. -/
theorem eq_tie_of_closingText {count : Nat} (begun : count ≠ 0)
    (compiled : Constraint.compile (closingText axis count) spacing registry margins.metrics none =
      .ok ds) :
    ds = [.tie ⟨registry.parentKey, axis.trailingEdge⟩ ⟨viewKey count, axis.trailingEdge⟩
      margins.ends] := by
  have last : Numbered count (viewKey count) :=
    ⟨count, Nat.pos_of_ne_zero begun, Nat.le_refl _, rfl⟩
  have spelled := wellSpelled_of_numbered (closingPlain axis count) count
    (by simpa [closingPlain, Plain.keys] using last)
    (by simp [closingPlain, Plain.metrics, IsMargin])
  have set := Constraint.set_of_compile spelled (toList_closingText axis count) compiled
  have only : (closingPlain axis count).gaps registry.parentKey =
      [⟨Margins.endsKey, ⟨registry.parentKey, axis.trailingEdge⟩,
        ⟨viewKey count, axis.trailingEdge⟩⟩] := rfl
  rw [only] at set
  obtain ⟨d, _, ⟨distance, bound, rfl⟩, none, rfl⟩ := List.forall₂_cons_left_iff.1 set
  obtain rfl := List.forall₂_nil_left_iff.1 none
  obtain rfl := Option.some.inj (margins.get?_endsKey.symm.trans bound)
  rfl

end Texts

/-! ## What is stored -/

/-- A constraint was applied by a closing: it sets an anchor of the container the margin at the ends
after the same edge of the view that was the last. -/
structure Closing.AppliedAs (anchor : Anchor) (closing : Closing) (applied : Applied) : Prop where
  /-- The descriptor sets the edges apart. -/
  descriptor : ∃ key, applied.descriptor = .tie anchor ⟨key, anchor.edge⟩ closing.margins.ends
  /-- The second item is the last view. -/
  second : applied.second = some (.view closing.last)

/-- Of the constraints stored behind others, those that relate an anchor were applied by closings:
one for each, in their order. -/
def Ended (anchor : Anchor) (closings : List Closing) (before after : List Applied) : Prop :=
  ∃ stored, after = before ++ stored ∧
    List.Forall₂ (Closing.AppliedAs anchor) closings (relating anchor stored)

namespace Ended

variable {anchor : Anchor} {closings more : List Closing} {before middle after : List Applied}

/-- Where nothing is stored, nothing was closed. -/
theorem refl (constraints : List Applied) : Ended anchor [] constraints constraints :=
  ⟨[], (List.append_nil _).symm, .nil⟩

/-- Closings go on behind those before them. -/
theorem trans (first : Ended anchor closings before middle)
    (second : Ended anchor more middle after) :
    Ended anchor (closings ++ more) before after := by
  obtain ⟨stored, rfl, ends⟩ := first
  obtain ⟨others, rfl, later⟩ := second
  refine ⟨stored ++ others, List.append_assoc _ _ _, ?_⟩
  rw [relating, List.filter_append]
  exact List.rel_append ends later

end Ended

/-- A sequence becomes another by emitting texts of which those that relate an anchor close it. -/
structure Closes (anchor : Anchor) (closings : List Closing) (before after : Sequence) : Prop where
  /-- The axis stays. -/
  axis : after.axis = before.axis
  /-- The margins stay. -/
  margins : after.margins = before.margins
  /-- The number of views stays. -/
  count : after.count = before.count
  /-- The keys stay. -/
  registry : after.builder.registry = before.builder.registry
  /-- What is stored relates the anchor once for each closing. -/
  ended : Ended anchor closings before.builder.host.constraints after.builder.host.constraints

/-- Emitting no text changes nothing. -/
theorem Closes.refl (anchor : Anchor) (sequence : Sequence) : Closes anchor [] sequence sequence :=
  ⟨rfl, rfl, rfl, rfl, .refl _⟩

/-- Texts one after another close as often as all of them. -/
theorem Closes.trans {anchor : Anchor} {closings more : List Closing}
    {before middle after : Sequence} (first : Closes anchor closings before middle)
    (second : Closes anchor more middle after) : Closes anchor (closings ++ more) before after :=
  ⟨second.axis.trans first.axis, second.margins.trans first.margins,
    second.count.trans first.count, second.registry.trans first.registry,
    first.ended.trans second.ended⟩

section Following

variable {anchor : Anchor} {sequence next : Sequence} {history : History}

/-- Emitting a text closes a sequence as often as what is stored for the text relates the anchor. -/
theorem closes_of_emit {raw : String} {closings : List Closing}
    (ends : ∀ spacing ds stored, Constraint.compile raw spacing sequence.builder.registry
      sequence.margins.metrics none = .ok ds →
        List.Forall₂ (Host.Stores sequence.builder.registry) ds stored →
          List.Forall₂ (Closing.AppliedAs anchor) closings (relating anchor stored))
    (done : sequence.emit raw = .ok next) : Closes anchor closings sequence next := by
  obtain ⟨builder, applied, replaced⟩ := bind_eq_ok_iff.1 done
  obtain rfl := Except.ok.inj replaced
  obtain ⟨ds, stored, compiled, stores, rfl⟩ := Builder.exists_stores_of_addConstraint applied
  exact ⟨rfl, rfl, rfl, rfl, stored, rfl, ends _ ds stored compiled stores⟩

/-- Emitting a text that does not relate the anchor does not close a sequence. -/
theorem closes_of_quiet {raw : String}
    (quiet : ∀ spacing ds, Constraint.compile raw spacing sequence.builder.registry
      sequence.margins.metrics none = .ok ds → ∀ d ∈ ds, ¬d.Relates anchor)
    (done : sequence.emit raw = .ok next) : Closes anchor [] sequence next := by
  refine closes_of_emit (fun spacing ds stored compiled stores => ?_) done
  rw [relating_eq_nil stores (quiet spacing ds compiled)]
  exact .nil

/-! ## Following a history -/

/-- A sequence agrees with a history, seen from the edge of the container at which it is closed. -/
structure Agrees (anchor : Anchor) (sequence : Sequence) (history : History) : Prop where
  /-- The anchor is the trailing edge of the container along the axis. -/
  trailing : anchor = ⟨sequence.builder.registry.parentKey, sequence.axis.trailingEdge⟩
  /-- The margins are those in force. -/
  margins : sequence.margins = history.margins
  /-- The sequence is closed when the history is. -/
  closed : sequence.closed = history.closed
  /-- Every view is counted. -/
  count : sequence.count = history.placements.length
  /-- The last number stands for the last view. -/
  last : ∀ placement ∈ history.placements.getLast?,
    sequence.builder.registry.resolve (viewKey sequence.count) = .ok placement.node
  /-- No view has the parent key. -/
  free : ¬Numbered sequence.count sequence.builder.registry.parentKey

/-- A sequence that follows a history has gone on with it: what it has stored relates the edge once
for each closing that the history has gained. -/
structure Advances (anchor : Anchor) (sequence : Sequence) (history : History) (next : Sequence)
    (later : History) : Prop where
  /-- The sequence agrees with the later history. -/
  agrees : Agrees anchor next later
  /-- What is stored are the closings that the history has gained. -/
  ended : ∃ gained, later.closings = history.closings ++ gained ∧
    Ended anchor gained sequence.builder.host.constraints next.builder.host.constraints

/-- Without an operation, a sequence stays where it is. -/
theorem Advances.refl (agrees : Agrees anchor sequence history) :
    Advances anchor sequence history sequence history :=
  ⟨agrees, [], (List.append_nil _).symm, .refl _⟩

/-- A sequence goes on from where it has come to. -/
theorem Advances.trans {middle : Sequence} {between later : History}
    (first : Advances anchor sequence history middle between)
    (second : Advances anchor middle between next later) :
    Advances anchor sequence history next later := by
  obtain ⟨-, gained, same, ended⟩ := first
  obtain ⟨agrees, more, further, ends⟩ := second
  refine ⟨agrees, gained ++ more, ?_, ended.trans ends⟩
  rw [further, same, List.append_assoc]

namespace Agrees

/-- Adding a view counts it. -/
theorem addNext (agrees : Agrees anchor sequence history) {view : ViewId} (centered : Bool)
    (done : sequence.addNext view = .ok next) :
    Advances anchor sequence history next
      { history with placements := history.placements ++ history.batch [view] centered } ∧
      next.axis = sequence.axis := by
  obtain ⟨registry, host, registered, attached, rfl⟩ := exists_registry_of_addNext done
  have constraints := Host.constraints_of_inventory (Host.inventory_of_attach attached)
  obtain ⟨parentKey, -, here, -⟩ := Registry.resolve_of_register registered
  have unreserved := (Registry.register_eq_ok_iff.1 registered).1
  have counted := agrees.count
  refine ⟨⟨⟨?_, agrees.margins, agrees.closed, ?_, ?_, ?_⟩, [], (List.append_nil _).symm, ?_⟩, rfl⟩
  · rw [agrees.trailing, parentKey]
  · rw [counted, List.length_append]
    rfl
  · intro placement final
    rw [History.batch, List.map_singleton, List.getLast?_concat, Option.mem_some_iff] at final
    rw [← final]
    exact here
  · rintro ⟨number, positive, bound, same⟩
    rw [parentKey] at same
    by_cases last : number = sequence.count + 1
    · exact unreserved (last ▸ same.symm)
    · have bound : number ≤ sequence.count + 1 := bound
      exact agrees.free ⟨number, positive, by omega, same⟩
  · rw [constraints]
    exact .refl _

/-- Adding views counts them. -/
theorem foldlM_addNext (agrees : Agrees anchor sequence history) {views : List ViewId}
    (centered : Bool) (done : views.foldlM Sequence.addNext sequence = .ok next) :
    Advances anchor sequence history next
      { history with placements := history.placements ++ history.batch views centered } ∧
      next.axis = sequence.axis := by
  induction views generalizing sequence history with
  | nil =>
    obtain rfl := Except.ok.inj done
    rw [History.batch, List.map_nil, List.append_nil]
    exact ⟨.refl agrees, rfl⟩
  | cons view views ih =>
    rw [List.foldlM_cons, bind_eq_ok_iff] at done
    obtain ⟨middle, adds, later⟩ := done
    obtain ⟨first, axis⟩ := agrees.addNext centered adds
    obtain ⟨others, otherAxis⟩ := ih first.agrees later
    have both := first.trans others
    simp only [History.batch, List.append_assoc, ← List.map_append, List.singleton_append] at both
    exact ⟨both, otherAxis.trans axis⟩

/-- Texts that were emitted close the sequence as often as they relate the edge. -/
theorem of_closes (agrees : Agrees anchor sequence history) {closings : List Closing}
    (closes : Closes anchor closings sequence next) (closed : Bool) :
    Advances anchor sequence history { next with closed }
      { history with closings := history.closings ++ closings, closed } := by
  obtain ⟨trailing, margins, -, count, last, free⟩ := agrees
  refine ⟨⟨?_, closes.margins.trans margins, rfl, closes.count.trans count, ?_, ?_⟩, closings, rfl,
    closes.ended⟩
  · rw [trailing, closes.registry, closes.axis]
  · intro placement final
    rw [closes.registry, closes.count]
    exact last placement final
  · rw [closes.registry, closes.count]
    exact free

/-- The texts of a batch do not close the sequence. -/
theorem closes_of_batch (agrees : Agrees anchor sequence history) {placed chained : Sequence}
    {before : Nat} {keys : List String} {centered : Bool} (filled : keys ≠ [])
    (earlier : before ≤ sequence.count) (numbered : ∀ key ∈ keys, Numbered sequence.count key)
    (crosses : keys.foldlM (fun s key => s.emit (s.crossText key centered)) sequence = .ok placed)
    (chains : placed.emit (chainText sequence.axis before keys) = .ok chained) :
    Closes anchor [] sequence chained := by
  have across : Closes anchor [] sequence placed := by
    refine foldlM_keeps (Closes anchor [] sequence) (fun state closes key listed other emits => ?_)
      (.refl anchor sequence) crosses
    refine closes.trans (closes_of_quiet (fun spacing ds compiled => ?_) emits)
    rw [agrees.trailing, ← closes.registry, ← closes.axis]
    exact not_relates_of_crossText (numbered key listed) compiled
  refine across.trans (closes_of_quiet (fun spacing ds compiled => ?_) chains)
  rw [across.registry] at compiled
  rw [agrees.trailing]
  exact not_relates_of_chainText filled earlier numbered agrees.free compiled

/-- Appending a batch of views opens the sequence again and keeps the closings from before. -/
theorem addViews (agrees : Agrees anchor sequence history) {views : List ViewId} {centered : Bool}
    (done : sequence.addViews views centered = .ok next) :
    Advances anchor sequence history next (history.record (.addViews views centered)) := by
  unfold Sequence.addViews at done
  split at done
  · rename_i empty
    obtain rfl := Except.ok.inj done
    rw [History.record, if_pos empty]
    exact .refl agrees
  · rename_i filled
    rw [History.record, if_neg filled]
    dsimp only at done
    obtain ⟨added, adds, rest⟩ := bind_eq_ok_iff.1 done
    obtain ⟨placed, crosses, rest⟩ := bind_eq_ok_iff.1 rest
    obtain ⟨chained, chains, replaced⟩ := bind_eq_ok_iff.1 rest
    obtain rfl := Except.ok.inj replaced
    obtain ⟨advances, axis⟩ := agrees.foldlM_addNext centered adds
    have counted : added.count = sequence.count + views.length := by
      rw [advances.agrees.count, agrees.count, List.length_append, History.batch, List.length_map]
    rw [← axis] at chains
    have quiet := advances.agrees.closes_of_batch ?_ (by omega) ?_ crosses chains
    · have opened := advances.trans (advances.agrees.of_closes quiet false)
      rw [List.append_nil] at opened
      exact opened
    · rwa [ne_eq, List.map_eq_nil_iff, List.range_eq_nil, List.length_eq_zero_iff,
        ← List.isEmpty_iff]
    · intro key listed
      obtain ⟨i, inside, rfl⟩ := List.mem_map.1 listed
      have bound := List.mem_range.1 inside
      exact ⟨sequence.count + i + 1, by omega, by omega, rfl⟩

/-- The closing text closes the sequence after its last view. -/
theorem closes_of_closingText (agrees : Agrees anchor sequence history) (begun : sequence.count ≠ 0)
    (done : sequence.emit (closingText sequence.axis sequence.count) = .ok next) :
    Closes anchor history.closing sequence next := by
  have filled : history.placements ≠ [] := by
    intro empty
    rw [agrees.count, empty] at begun
    exact begun rfl
  obtain ⟨last, final⟩ : ∃ last, history.placements.getLast? = some last :=
    Option.isSome_iff_exists.1 (List.getLast?_isSome.2 filled)
  have here := agrees.last last final
  rw [History.closing, final, agrees.trailing, ← agrees.margins]
  refine closes_of_emit (fun spacing ds stored compiled stores => ?_) done
  obtain rfl := eq_tie_of_closingText begun compiled
  obtain ⟨⟨descriptor, first, second⟩, _, ⟨kept, -, resolved⟩, others, rfl⟩ :=
    List.forall₂_cons_left_iff.1 stores
  obtain rfl := List.forall₂_nil_left_iff.1 others
  obtain rfl : descriptor = _ := kept
  cases resolved with
  | some found =>
    obtain rfl := Except.ok.inj (here.symm.trans found)
    have related (edge : Attribute) (other : Anchor) (distance : Number.Binary64) (node : Node) :
        relating ⟨sequence.builder.registry.parentKey, edge⟩
          [⟨.tie ⟨sequence.builder.registry.parentKey, edge⟩ other distance, first, some node⟩] =
        [⟨.tie ⟨sequence.builder.registry.parentKey, edge⟩ other distance, first, some node⟩] := by
      simp [relating, Descriptor.Relates, Descriptor.tie]
    rw [related]
    exact .cons ⟨⟨_, rfl⟩, rfl⟩ .nil

/-- Closing sets the trailing edge of the container after the last view, unless the sequence is
closed. -/
theorem close (agrees : Agrees anchor sequence history) (done : sequence.close = .ok next) :
    Advances anchor sequence history next (history.record .close) := by
  unfold Sequence.close at done
  split at done
  · contradiction
  · rename_i begun
    split at done
    · rename_i closed
      obtain rfl := Except.ok.inj done
      rw [History.record, ← agrees.closed, if_pos closed]
      exact .refl agrees
    · rename_i opened
      rw [History.record, ← agrees.closed, if_neg opened]
      obtain ⟨emitted, emits, replaced⟩ := bind_eq_ok_iff.1 done
      obtain rfl := Except.ok.inj replaced
      exact agrees.of_closes (agrees.closes_of_closingText begun emits) true

/-- Any operation. -/
theorem perform (agrees : Agrees anchor sequence history) {operation : Operation}
    (done : sequence.perform operation = .ok next) :
    Advances anchor sequence history next (history.record operation) := by
  cases operation with
  | withMargins margins =>
    obtain rfl := Except.ok.inj done
    obtain ⟨trailing, -, closed, count, last, free⟩ := agrees
    exact ⟨⟨trailing, rfl, closed, count, last, free⟩, [], (List.append_nil _).symm, .refl _⟩
  | addViews views centered => exact agrees.addViews done
  | close => exact agrees.close done

/-- Operations one after another. -/
theorem run (agrees : Agrees anchor sequence history) {operations : List Operation}
    (done : sequence.run operations = .ok next) :
    Advances anchor sequence history next (operations.foldl History.record history) := by
  induction operations generalizing sequence history with
  | nil =>
    obtain rfl := Except.ok.inj done
    exact .refl agrees
  | cons operation operations ih =>
    rw [Sequence.run, List.foldlM_cons, bind_eq_ok_iff] at done
    obtain ⟨middle, performed, later⟩ := done
    have first := agrees.perform performed
    exact first.trans (ih first.agrees later)

end Agrees

/-- A new sequence agrees with the history without operations. -/
theorem agrees_new (axis : Axis) (builder : Builder) :
    Agrees ⟨builder.registry.parentKey, axis.trailingEdge⟩ { axis, builder } {} where
  trailing := rfl
  margins := rfl
  closed := rfl
  count := rfl
  last := nofun
  free := by
    rintro ⟨number, positive, bound, -⟩
    exact absurd positive (Nat.not_lt.2 bound)

end Following

/-! ## The last batch -/

/-- Further operations are recorded behind those before them. -/
theorem history_append (before after : List Operation) :
    history (before ++ after) = after.foldl History.record (history before) :=
  List.foldl_append

/-- Operations have a last batch of views: those before it, the last view of the batch, and no more
views behind it. -/
def LastBatch (operations before : List Operation) (last : ViewId) : Prop :=
  ∃ views centered after, operations = before ++ .addViews views centered :: after ∧
    views.getLast? = some last ∧ ∀ operation ∈ after, operation.views = []

/-- An operation without views leaves the last batch the last one. -/
theorem LastBatch.concat {operations before : List Operation} {last : ViewId}
    (batch : LastBatch operations before last) {operation : Operation}
    (none : operation.views = []) : LastBatch (operations ++ [operation]) before last := by
  obtain ⟨views, centered, after, rfl, final, behind⟩ := batch
  refine ⟨views, centered, after ++ [operation], by simp, final, ?_⟩
  rw [List.forall_mem_append, List.forall_mem_singleton]
  exact ⟨behind, none⟩

/-- Operations that have placed views have a last batch. Since then, the history has gained the
closing of its last view if it is closed, and no closing otherwise. -/
theorem exists_lastBatch {operations : List Operation}
    (placed : (history operations).placements ≠ []) :
    ∃ before last margins, LastBatch operations before last ∧
      (history operations).placements.getLast?.map (·.view) = some last ∧
      (history operations).closings = (history before).closings ++
        if (history operations).closed then [⟨last, margins⟩] else [] := by
  induction operations using List.reverseRecOn with
  | nil => contradiction
  | append_singleton operations operation ih =>
    rw [history_append, List.foldl_cons, List.foldl_nil] at placed ⊢
    cases operation with
    | withMargins margins =>
      obtain ⟨before, last, inForce, batch, final, closings⟩ := ih placed
      exact ⟨before, last, inForce, batch.concat rfl, final, closings⟩
    | addViews views centered =>
      by_cases empty : views.isEmpty
      · rw [History.record, if_pos empty] at placed ⊢
        obtain ⟨before, last, inForce, batch, final, closings⟩ := ih placed
        exact ⟨before, last, inForce, batch.concat (List.isEmpty_iff.1 empty), final, closings⟩
      · rw [History.record, if_neg empty]
        rw [List.isEmpty_iff] at empty
        obtain ⟨last, final⟩ : ∃ last, views.getLast? = some last :=
          Option.isSome_iff_exists.1 (List.getLast?_isSome.2 empty)
        refine ⟨operations, last, {}, ⟨views, centered, [], rfl, final,
          fun _ listed => absurd listed List.not_mem_nil⟩, ?_, (List.append_nil _).symm⟩
        rw [History.append, List.getLast?_append, History.batch, List.getLast?_map, final]
        rfl
    | close =>
      by_cases closed : (history operations).closed
      · rw [History.record, if_pos closed] at placed ⊢
        obtain ⟨before, last, inForce, batch, final, closings⟩ := ih placed
        exact ⟨before, last, inForce, batch.concat rfl, final, closings⟩
      · rw [History.record, if_neg closed] at placed ⊢
        obtain ⟨before, last, _, batch, final, closings⟩ := ih placed
        refine ⟨before, last, (history operations).margins, batch.concat rfl, final, ?_⟩
        rw [if_neg closed, List.append_nil] at closings
        obtain ⟨placement, here, rfl⟩ := Option.map_eq_some_iff.1 final
        rw [History.close, History.closing, here, closings]
        rfl

/-- What a run on a new sequence has stored relates the trailing edge of the container along the
axis once for each closing, in their order. -/
theorem ended_of_run {axis : Axis} {builder : Builder} {operations : List Operation}
    {final : Sequence} (ran : run { axis, builder } operations = .ok final) :
    Ended ⟨builder.registry.parentKey, axis.trailingEdge⟩ (history operations).closings
      builder.host.constraints final.builder.host.constraints := by
  obtain ⟨-, gained, same, ended⟩ := (agrees_new axis builder).run ran
  rw [List.nil_append] at same
  rw [history, same]
  exact ended

/-- A closed sequence has views. -/
theorem count_ne_zero_of_closed {axis : Axis} {builder : Builder} {operations : List Operation}
    {final : Sequence} (ran : run { axis, builder } operations = .ok final)
    (closed : final.closed = true) : final.count ≠ 0 := by
  refine foldlM_keeps (fun sequence => sequence.closed = true → sequence.count ≠ 0)
    (fun sequence kept operation _ next performed => ?_) (fun new => absurd new Bool.false_ne_true)
    ran closed
  cases operation with
  | withMargins margins =>
    obtain rfl := Except.ok.inj performed
    exact kept
  | addViews views centered =>
    simp only [perform, addViews] at performed
    split at performed
    · obtain rfl := Except.ok.inj performed
      exact kept
    · obtain ⟨added, -, rest⟩ := bind_eq_ok_iff.1 performed
      obtain ⟨placed, -, rest⟩ := bind_eq_ok_iff.1 rest
      obtain ⟨chained, -, opened⟩ := bind_eq_ok_iff.1 rest
      obtain rfl := Except.ok.inj opened
      exact fun closed => absurd closed Bool.false_ne_true
  | close =>
    simp only [perform, close] at performed
    split at performed
    · contradiction
    · rename_i begun
      split at performed
      · obtain rfl := Except.ok.inj performed
        exact kept
      · obtain ⟨emitted, emits, ended⟩ := bind_eq_ok_iff.1 performed
        obtain rfl := Except.ok.inj ended
        obtain ⟨_, -, replaced⟩ := bind_eq_ok_iff.1 emits
        obtain rfl := Except.ok.inj replaced
        exact fun _ => begun

/-- A run that leaves a new sequence closed has a last batch of views. Of the constraints that were
stored since the sequence was as before that batch, exactly one relates the trailing edge of the
container along the axis, and its second item is the last view. The constraints that were stored
before relate that edge once for each closing that a later batch has opened again. -/
theorem closed_once_since_batch {axis : Axis} {builder : Builder} {operations : List Operation}
    {final : Sequence} (ran : run { axis, builder } operations = .ok final)
    (closed : final.closed = true) :
    ∃ before opened last margins, LastBatch operations before last ∧
      run { axis, builder } before = .ok opened ∧
      Ended ⟨builder.registry.parentKey, axis.trailingEdge⟩ (history before).closings
        builder.host.constraints opened.builder.host.constraints ∧
      Ended ⟨builder.registry.parentKey, axis.trailingEdge⟩ [⟨last, margins⟩]
        opened.builder.host.constraints final.builder.host.constraints := by
  have agrees := ((agrees_new axis builder).run ran).agrees
  have filled : (history operations).placements ≠ [] := by
    have begun := count_ne_zero_of_closed ran closed
    rwa [agrees.count, ne_eq, List.length_eq_zero_iff] at begun
  obtain ⟨before, last, margins, batch, -, closings⟩ := exists_lastBatch filled
  rw [if_pos (agrees.closed ▸ closed)] at closings
  -- The run goes through the sequence as before the batch.
  obtain ⟨views, centered, after, rfl, -, -⟩ := id batch
  rw [run, List.foldlM_append, bind_eq_ok_iff] at ran
  obtain ⟨opened, first, rest⟩ := ran
  have start := (agrees_new axis builder).run first
  refine ⟨before, opened, last, margins, batch, first, ended_of_run first, ?_⟩
  obtain ⟨-, gained, same, ended⟩ := start.agrees.run rest
  have whole : (history before).closings ++ gained =
      (history before).closings ++ [⟨last, margins⟩] := by
    rw [← closings, history_append]
    exact same.symm
  rwa [List.append_cancel_left whole] at ended

/-- A sequence that is closed, opened by a further batch and closed again. -/
theorem closed_once_since_batch_of_reopened :
    let builder := Builder.ofHost { spacing := ⟨8, 20⟩, views := List.replicate 3 {} } ⟨0⟩
      { parentKey := "the window" }
    let operations : List Operation :=
      [.withMargins ⟨20, 10, 5⟩, .addViews [⟨1⟩] false, .close, .addViews [⟨2⟩] false,
        .addViews [] true, .close, .close]
    ∃ final, run { axis := .vertical, builder } operations = .ok final ∧ final.closed = true ∧
      ∃ before opened last margins, LastBatch operations before last ∧
        run { axis := .vertical, builder } before = .ok opened ∧
        Ended ⟨"the window", .bottom⟩ (history before).closings
          builder.host.constraints opened.builder.host.constraints ∧
        Ended ⟨"the window", .bottom⟩ [⟨last, margins⟩]
          opened.builder.host.constraints final.builder.host.constraints := by
  intro builder operations
  have checked : ∃ final ∈ (run { axis := .vertical, builder } operations).toOption,
      final.closed = true := by
    decide +kernel
  obtain ⟨final, found, closed⟩ := checked
  have ran := eq_ok_of_toOption found
  exact ⟨final, ran, closed, closed_once_since_batch ran closed⟩

/-- A closed sequence may have set the trailing edge of its container more than once, and not only
after its last view. -/
theorem exists_closed_twice :
    let builder := Builder.ofHost { spacing := ⟨8, 20⟩, views := List.replicate 3 {} } ⟨0⟩ {}
    let operations : List Operation :=
      [.addViews [⟨1⟩] false, .close, .addViews [⟨2⟩] false, .close]
    ∃ final, run { axis := .vertical, builder } operations = .ok final ∧ final.closed = true ∧
      (relating ⟨"parent", .bottom⟩ final.builder.host.constraints).map Applied.second =
        [some (.view ⟨1⟩), some (.view ⟨2⟩)] := by
  intro builder operations
  have checked : ∃ final ∈ (run { axis := .vertical, builder } operations).toOption,
      final.closed = true ∧
        (relating ⟨"parent", .bottom⟩ final.builder.host.constraints).map Applied.second =
          [some (.view ⟨1⟩), some (.view ⟨2⟩)] := by
    decide +kernel
  obtain ⟨final, found, closed, twice⟩ := checked
  exact ⟨final, eq_ok_of_toOption found, closed, twice⟩

end Sequence

end ViewLayout
