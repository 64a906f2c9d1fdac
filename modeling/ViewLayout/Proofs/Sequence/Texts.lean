import ViewLayout.Proofs.Equation.Plain
import ViewLayout.Proofs.KeyMap
import ViewLayout.Proofs.Sequence.History

/-!
# The texts of a sequence

A sequence writes its own constraint texts. Each is a plain chain, or the equality of two centers,
over keys that are identifiers. So each compiles to descriptors that can be read off its parts: they
state the ties for which the text is written.
-/

namespace ViewLayout

open ViewLayout.Chain ViewLayout.Outcome

namespace Sequence

/-- The characters of a view's key. -/
theorem toList_viewKey (number : Nat) : (viewKey number).toList = 'v' :: Nat.toDigits 10 number := by
  unfold viewKey
  rw [String.toList_append, Nat.toString_eq_ofList_toDigits]
  simp

/-- The key of a view is an identifier. -/
theorem wellSpelled_viewKey (number : Nat) : Token.WellSpelled (.ident (viewKey number)) := by
  refine ⟨'v', _, toList_viewKey number, by decide, fun c present => ?_⟩
  have digit := Nat.isDigit_of_mem_toDigits (by decide) (by decide) present
  simp [Token.isIdentRest, Char.isAlphanum, digit]

/-- The key of a view is short, up to numbers far beyond those that a machine counts to. -/
theorem viewKey_short {number : Nat} (small : number < 10 ^ 30) :
    (viewKey number).utf8ByteSize ≤ 31 := by
  have digits : (Nat.toDigits 10 number).length ≤ 30 :=
    (Nat.length_toDigits_le_iff (by decide) (by decide)).2 small
  have narrow : ∀ c ∈ (viewKey number).toList, c.utf8Size = 1 := by
    rw [toList_viewKey]
    intro c present
    rcases List.mem_cons.1 present with rfl | listed
    · decide
    · have digit := Nat.isDigit_of_mem_toDigits (by decide) (by decide) listed
      rw [Char.isDigit, Bool.and_eq_true, decide_eq_true_eq, decide_eq_true_eq] at digit
      exact Char.utf8Size_eq_one_iff.2 (UInt32.le_trans digit.2 (by decide))
  rw [← Text.byteLength_toList, Text.byteLength_eq_length narrow, toList_viewKey, List.length_cons]
  omega

/-- Different views have different keys. -/
theorem viewKey_injective {number other : Nat} (same : viewKey number = viewKey other) :
    number = other := by
  have digits : Nat.toDigits 10 number = Nat.toDigits 10 other := by
    have characters := congrArg String.toList same
    rw [toList_viewKey, toList_viewKey] at characters
    exact List.tail_eq_of_cons_eq characters
  apply Nat.repr_injective
  rw [Nat.repr_eq_ofList_toDigits, Nat.repr_eq_ofList_toDigits, digits]

/-! ## How the texts are written -/

/-- The chain that keeps a view from both edges across the axis. -/
def crossPlain (axis : Axis) (key : String) : Plain :=
  ⟨axis.cross, some Margins.sidesKey, key, [], some Margins.sidesKey⟩

/-- The chain of new views after `count` views. -/
def chainPlain (axis : Axis) (count : Nat) (first : String) (rest : List String) : Plain :=
  if count = 0 then ⟨axis, some Margins.endsKey, first, rest.map (Margins.betweenKey, ·), none⟩
  else ⟨axis, none, viewKey count, (first :: rest).map (Margins.betweenKey, ·), none⟩

/-- The chain that ties the last view to the trailing edge. -/
def closingPlain (axis : Axis) (count : Nat) : Plain :=
  ⟨axis, none, viewKey count, [], some Margins.endsKey⟩

/-- The text across the axis is written as its chain. -/
theorem toList_crossText (sequence : Sequence) (key : String) :
    (sequence.crossText key false).toList =
      Token.written (crossPlain sequence.axis key).pieces := by
  cases sequence with
  | mk axis builder margins count closed =>
    cases axis <;>
      simp [crossText, crossPlain, Axis.cross, Axis.letter, Axis.tag, Margins.sidesKey,
        Plain.pieces, Plain.viewPieces, Plain.gapPieces, Plain.stepPieces, Token.written,
        Token.text, Mark.text]

/-- The closing text is written as its chain. -/
theorem toList_closingText (axis : Axis) (count : Nat) :
    (closingText axis count).toList = Token.written (closingPlain axis count).pieces := by
  cases axis <;>
    simp [closingText, closingPlain, Axis.letter, Axis.tag, Margins.endsKey, Plain.pieces,
      Plain.viewPieces, Plain.gapPieces, Plain.stepPieces, Token.written, Token.text, Mark.text]

/-- The keys of a batch, with what stands between them, are written as views after one another. -/
theorem toList_intercalate (first : String) (rest : List String) :
    '[' :: ((("]-(" ++ Margins.betweenKey ++ ")-[").intercalate (first :: rest)).toList ++ [']']) =
      Token.written (Plain.viewPieces first
        ++ Plain.stepPieces (rest.map (Margins.betweenKey, ·))) := by
  induction rest generalizing first with
  | nil =>
    rw [String.intercalate_singleton, List.map_nil, Token.written_append, Plain.written_viewPieces]
    exact (List.append_nil _).symm
  | cons second rest ih =>
    rw [String.intercalate_cons_cons, List.map_cons, Plain.stepPieces_cons, Token.written_append,
      Token.written_append, ← ih second, Plain.written_viewPieces, Plain.written_gapPieces]
    simp [Margins.betweenKey]

/-- A chain begins with the letter of its axis and a colon. -/
theorem written_tag (axis : Axis) (later : List (Option Token)) :
    Token.written (some (.mark axis.tag) :: later) =
      axis.letter.toList ++ ':' :: Token.written later := by
  cases axis <;> rfl

/-- The text of a batch along the axis is written as its chain. -/
theorem toList_chainText (axis : Axis) (count : Nat) (first : String) (rest : List String) :
    (chainText axis count (first :: rest)).toList =
      Token.written (chainPlain axis count first rest).pieces := by
  unfold chainText chainStart chainPlain
  by_cases begins : count = 0
  · rw [if_pos begins, if_pos begins, Plain.pieces, written_tag]
    simp only [Option.toList_some, Option.toList_none, List.flatMap_cons, List.flatMap_nil,
      List.append_nil]
    have edge : Token.written (some (.mark .pipe) :: Plain.gapPieces Margins.endsKey) =
        '|' :: Token.written (Plain.gapPieces Margins.endsKey) := rfl
    rw [Token.written_append, ← toList_intercalate, edge, Plain.written_gapPieces]
    simp [Margins.endsKey]
  · rw [if_neg begins, if_neg begins, Plain.pieces, written_tag, List.map_cons,
      Plain.stepPieces_cons]
    simp only [Option.toList_none, List.flatMap_nil, List.append_nil, List.nil_append]
    rw [Token.written_append, Token.written_append, ← toList_intercalate,
      Plain.written_viewPieces, Plain.written_gapPieces]
    simp [Margins.betweenKey]

/-- The text that centers a view is written as the equality of two centers. -/
theorem toList_crossText_centered (sequence : Sequence) (key : String) :
    (sequence.crossText key true).toList =
      Token.written (Equation.equalityPieces
        ⟨sequence.builder.registry.parentKey, sequence.axis.cross.center⟩
        ⟨key, sequence.axis.cross.center⟩) := by
  simp [crossText, Equation.equalityPieces, Equation.anchorPieces, Token.written, Token.text,
    Mark.text]

end Sequence

/-! ## What the texts compile to -/

namespace Constraint

/-- A text that is written as a plain chain is no equation. -/
theorem isEquation_of_plain {plain : Plain} {raw : String}
    (written : raw.toList = Token.written plain.pieces) : isEquation raw = false := by
  rw [isEquation, written]
  cases axis : plain.axis <;>
    simp [Plain.pieces, Token.written, Token.text, Axis.tag, Mark.text, axis]

/-- A text that is written as the equality of two anchors is an equation. -/
theorem isEquation_of_equality {first second : Anchor} {raw : String}
    (written : raw.toList = Token.written (Equation.equalityPieces first second)) :
    isEquation raw = true := by
  rw [isEquation, written]
  simp [Equation.equalityPieces, Token.written, Token.text, Mark.text]

/-- A text that is written as a plain chain compiles to the descriptors that set its gaps. -/
theorem set_of_compile {plain : Plain} {raw : String}
    (spelled : ∀ name ∈ plain.names, Token.WellSpelled (.ident name))
    (written : raw.toList = Token.written plain.pieces) {spacing : Spacing} {registry : Registry}
    {metrics : Metrics} {ds : List Descriptor}
    (compiled : compile raw spacing registry metrics none = .ok ds) :
    List.Forall₂ (Gap.Set metrics) (plain.gaps registry.parentKey) ds := by
  simp only [compile, descriptors, isEquation_of_plain written, map_eq_ok_iff, Bool.false_eq_true,
    if_false, mapError_eq_ok_iff] at compiled
  obtain ⟨found, compiled, rfl⟩ := compiled
  exact Plain.set_of_compile spelled written compiled

/-- A text that is written as a plain chain compiles when its views are known and its metrics
bound. -/
theorem exists_compile_plain {plain : Plain} {raw : String}
    (spelled : ∀ name ∈ plain.names, Token.WellSpelled (.ident name))
    (written : raw.toList = Token.written plain.pieces) (spacing : Spacing) {registry : Registry}
    {metrics : Metrics} (known : ∀ key ∈ plain.keys, registry.Knows key)
    (bound : ∀ metric ∈ plain.metrics, ∃ distance, metrics.get? metric = some distance) :
    ∃ ds, compile raw spacing registry metrics none = .ok ds := by
  obtain ⟨ds, compiled⟩ := Plain.exists_compile spelled written spacing known bound
  refine ⟨ds, ?_⟩
  simp only [compile, descriptors, isEquation_of_plain written, map_eq_ok_iff, Bool.false_eq_true,
    if_false, mapError_eq_ok_iff]
  exact ⟨ds, compiled, rfl⟩

/-- A text that is written as the equality of two anchors compiles to the descriptor that sets the
first to the second. -/
theorem eq_tie_of_compile {first second : Anchor} {raw : String}
    (firstKey : Token.WellSpelled (.ident first.key))
    (secondKey : Token.WellSpelled (.ident second.key))
    (written : raw.toList = Token.written (Equation.equalityPieces first second))
    {spacing : Spacing} {registry : Registry} {metrics : Metrics} {ds : List Descriptor}
    (compiled : compile raw spacing registry metrics none = .ok ds) :
    ds = [.tie first second 0] := by
  simp only [compile, descriptors, isEquation_of_equality written, map_eq_ok_iff, if_true]
    at compiled
  obtain ⟨_, ⟨d, compiled, rfl⟩, rfl⟩ := compiled
  rw [Equation.eq_tie_of_compile firstKey secondKey written compiled]

/-- A text that is written as the equality of two anchors compiles when their keys are known and
short enough. -/
theorem compile_equality {first second : Anchor} {raw : String}
    (firstKey : Token.WellSpelled (.ident first.key))
    (secondKey : Token.WellSpelled (.ident second.key))
    (written : raw.toList = Token.written (Equation.equalityPieces first second))
    (firstFits : first.key.utf8ByteSize ≤ 31) (secondFits : second.key.utf8ByteSize ≤ 31)
    (spacing : Spacing) {registry : Registry} (firstKnown : registry.Knows first.key)
    (secondKnown : registry.Knows second.key) (metrics : Metrics) :
    compile raw spacing registry metrics none = .ok [.tie first second 0] := by
  have compiled := Equation.compile_equality firstKey secondKey written firstFits secondFits
    firstKnown secondKnown metrics
  simp only [compile, descriptors, isEquation_of_equality written, if_true, compiled]
  rfl

end Constraint

/-- A gap means a tie if its keys stand for the nodes of the tie and its metric for the distance. -/
structure Chain.Gap.Means (registry : Registry) (metrics : Metrics) (gap : Gap) (tie : Tie) :
    Prop where
  /-- The node after the gap. -/
  first : registry.resolve gap.first.key = .ok tie.first
  /-- Its edge. -/
  firstEdge : gap.first.edge = tie.firstEdge
  /-- The node before the gap. -/
  second : registry.resolve gap.second.key = .ok tie.second
  /-- Its edge. -/
  secondEdge : gap.second.edge = tie.secondEdge
  /-- The distance. -/
  distance : metrics.get? gap.metric = some tie.distance

/-- Descriptors that set gaps state the ties that the gaps mean. -/
theorem Chain.Gap.stated_of_set {registry : Registry} {metrics : Metrics} {gaps : List Gap}
    {ties : List Tie} {ds : List Descriptor} (means : List.Forall₂ (Means registry metrics) gaps ties)
    (set : List.Forall₂ (Gap.Set metrics) gaps ds) :
    List.Forall₂ (Tie.StatedBy registry) ties ds := by
  refine forall₂_comp ?_ (List.Forall₂.flip means) set
  rintro tie ⟨metric, ⟨firstKey, firstEdge⟩, ⟨secondKey, secondEdge⟩⟩ d means
    ⟨distance, bound, rfl⟩
  obtain ⟨first, rfl, second, rfl, same⟩ := means
  obtain rfl := Option.some.inj (same.symm.trans bound)
  exact ⟨firstKey, secondKey, first, second, rfl⟩

namespace Margins

variable (margins : Margins)

/-- The metric of the gap at the ends is bound to that margin. -/
theorem get?_endsKey : margins.metrics.get? endsKey = some margins.ends := by
  simp [metrics, KeyMap.ofList, KeyMap.get?_insert, endsKey, sidesKey, betweenKey]

/-- The metric of the gap at the sides is bound to that margin. -/
theorem get?_sidesKey : margins.metrics.get? sidesKey = some margins.sides := by
  simp [metrics, KeyMap.ofList, KeyMap.get?_insert, endsKey, sidesKey, betweenKey]

/-- The metric of the gap between views is bound to that margin. -/
theorem get?_betweenKey : margins.metrics.get? betweenKey = some margins.between := by
  simp [metrics, KeyMap.ofList, KeyMap.get?_insert, endsKey, sidesKey, betweenKey]

/-- The metrics of margins are identifiers. -/
theorem wellSpelled_keys {key : String} (named : key = endsKey ∨ key = sidesKey ∨ key = betweenKey) :
    Token.WellSpelled (.ident key) := by
  apply Token.wellSpelled_of_isIdent
  obtain rfl | rfl | rfl := named <;> decide

end Margins

namespace Sequence

/-- A key stands for a view that is placed with the margins in force. -/
structure Keyed (registry : Registry) (margins : Margins) (key : String) (placement : Placement) :
    Prop where
  /-- The key is an identifier. -/
  spelled : Token.WellSpelled (.ident key)
  /-- It stands for the view. -/
  resolved : registry.resolve key = .ok placement.node
  /-- The margins are those in force. -/
  margins : placement.margins = margins

section Compiled

variable {sequence : Sequence} {axis : Axis} {container : ViewId} {spacing : Spacing}
  {registry : Registry} {margins : Margins} {ds : List Descriptor}

/-- The gaps between new views mean their ties. -/
theorem means_follow {key : String} {before : Placement}
    (here : registry.resolve key = .ok before.node) {keys : List String} {later : List Placement}
    (keyed : List.Forall₂ (Keyed registry margins) keys later) :
    List.Forall₂ (Gap.Means registry margins.metrics)
      (Plain.follow axis key (keys.map (Margins.betweenKey, ·))) (followTies axis before later) := by
  induction keyed generalizing key before with
  | nil => exact .nil
  | cons next _ ih =>
    refine .cons ⟨next.resolved, rfl, here, rfl, ?_⟩ (ih next.resolved)
    rw [betweenTie, next.margins]
    exact margins.get?_betweenKey

/-- The keys of new views are identifiers, and so are the metrics between them. -/
theorem wellSpelled_of_keyed {keys : List String} {placements : List Placement}
    (keyed : List.Forall₂ (Keyed registry margins) keys placements) {name : String}
    (named : name ∈ (keys.map (Margins.betweenKey, ·)).flatMap fun step => [step.1, step.2]) :
    Token.WellSpelled (.ident name) := by
  obtain ⟨_, listed, among⟩ := List.mem_flatMap.1 named
  obtain ⟨key, present, rfl⟩ := List.mem_map.1 listed
  obtain rfl | rfl : name = Margins.betweenKey ∨ name = key := by simpa using among
  · exact Margins.wellSpelled_keys (.inr (.inr rfl))
  · obtain ⟨_, -, keyed⟩ := exists_mem_of_forall₂ keyed.flip present
    exact keyed.spelled

/-- The text of a later batch states the ties of its views to each other and to the last view before
them. -/
theorem stated_of_chainText {count : Nat} (begun : count ≠ 0) {last : Placement}
    (before : registry.resolve (viewKey count) = .ok last.node) {keys : List String}
    {placements : List Placement} (keyed : List.Forall₂ (Keyed registry margins) keys placements)
    (filled : keys ≠ [])
    (compiled : Constraint.compile (chainText axis count keys) spacing registry margins.metrics
      none = .ok ds) :
    List.Forall₂ (Tie.StatedBy registry) (followTies axis last placements) ds := by
  obtain ⟨key, more, rfl⟩ := List.exists_cons_of_ne_nil filled
  have written := toList_chainText axis count key more
  rw [chainPlain, if_neg begun] at written
  refine Gap.stated_of_set ?_ (Constraint.set_of_compile ?_ written compiled)
  · simp only [Plain.gaps, Option.toList_none, List.map_nil, List.append_nil, List.nil_append]
    exact means_follow before keyed
  · intro name named
    simp only [Plain.names, Option.toList_none, List.append_nil, List.nil_append] at named
    rcases List.mem_cons.1 named with rfl | among
    · exact wellSpelled_viewKey count
    · exact wellSpelled_of_keyed keyed among

variable (parent : registry.resolve registry.parentKey = .ok (.view container))

include parent

/-- The text of the first batch states the ties of its views along the axis. -/
theorem stated_of_chainText_first {keys : List String} {placements : List Placement}
    (keyed : List.Forall₂ (Keyed registry margins) keys placements) (filled : keys ≠ [])
    (compiled : Constraint.compile (chainText axis 0 keys) spacing registry margins.metrics none =
      .ok ds) :
    List.Forall₂ (Tie.StatedBy registry) (alongTies axis container placements) ds := by
  cases keyed with
  | nil => contradiction
  | @cons key first keys later begins keyed =>
    have written := toList_chainText axis 0 key keys
    rw [chainPlain, if_pos rfl] at written
    refine Gap.stated_of_set ?_ (Constraint.set_of_compile ?_ written compiled)
    · simp only [Plain.gaps, Option.toList_none, Option.toList_some, List.map_nil, List.map_cons,
        List.append_nil, List.singleton_append]
      refine .cons ⟨begins.resolved, rfl, parent, rfl, ?_⟩ (means_follow begins.resolved keyed)
      rw [startTie, begins.margins]
      exact margins.get?_endsKey
    · intro name named
      simp only [Plain.names, Option.toList_some, Option.toList_none, List.append_nil,
        List.singleton_append, List.mem_cons] at named
      obtain rfl | rfl | among := named
      · exact Margins.wellSpelled_keys (.inl rfl)
      · exact begins.spelled
      · exact wellSpelled_of_keyed keyed among

/-- The closing text states the tie of the last view to the trailing edge. -/
theorem stated_of_closingText {count : Nat} {last : ViewId}
    (here : registry.resolve (viewKey count) = .ok (.view last))
    (compiled : Constraint.compile (closingText axis count) spacing registry margins.metrics none =
      .ok ds) :
    List.Forall₂ (Tie.StatedBy registry) [endTie axis container ⟨last, margins⟩] ds := by
  refine Gap.stated_of_set ?_ (Constraint.set_of_compile ?_ (toList_closingText axis count) compiled)
  · exact .cons ⟨parent, rfl, here, rfl, margins.get?_endsKey⟩ .nil
  · intro name named
    simp only [closingPlain, Plain.names, Option.toList_some, Option.toList_none,
      List.flatMap_nil, List.nil_append, List.singleton_append, List.mem_cons, List.not_mem_nil,
      or_false] at named
    obtain rfl | rfl := named
    · exact wellSpelled_viewKey count
    · exact Margins.wellSpelled_keys (.inl rfl)

end Compiled

/-- The text across the axis states the ties of its view. -/
theorem stated_of_crossText {sequence : Sequence} {container : ViewId} {spacing : Spacing}
    {margins : Margins} {ds : List Descriptor}
    (parent : sequence.builder.registry.resolve sequence.builder.registry.parentKey =
      .ok (.view container))
    (parentKey : Token.WellSpelled (.ident sequence.builder.registry.parentKey)) {key : String}
    {placement : Placement} (keyed : Keyed sequence.builder.registry margins key placement)
    (compiled : Constraint.compile (sequence.crossText key placement.centered) spacing
      sequence.builder.registry margins.metrics none = .ok ds) :
    List.Forall₂ (Tie.StatedBy sequence.builder.registry)
      (crossTies sequence.axis container placement) ds := by
  unfold crossTies
  split
  · rename_i centered
    rw [centered] at compiled
    obtain rfl := Constraint.eq_tie_of_compile parentKey keyed.spelled
      (toList_crossText_centered sequence key) compiled
    exact .cons ⟨_, _, parent, keyed.resolved, rfl⟩ .nil
  · rename_i pinned
    rw [Bool.not_eq_true] at pinned
    rw [pinned] at compiled
    refine Gap.stated_of_set ?_
      (Constraint.set_of_compile ?_ (toList_crossText sequence key) compiled)
    · rw [keyed.margins]
      exact .cons ⟨keyed.resolved, rfl, parent, rfl, margins.get?_sidesKey⟩
        (.cons ⟨parent, rfl, keyed.resolved, rfl, margins.get?_sidesKey⟩ .nil)
    · intro name named
      simp only [crossPlain, Plain.names, Option.toList_some, List.flatMap_nil,
        List.singleton_append, List.mem_append, List.mem_cons, List.not_mem_nil, or_false] at named
      obtain (rfl | rfl) | rfl := named
      · exact Margins.wellSpelled_keys (.inr (.inl rfl))
      · exact keyed.spelled
      · exact Margins.wellSpelled_keys (.inr (.inl rfl))

end Sequence

end ViewLayout
