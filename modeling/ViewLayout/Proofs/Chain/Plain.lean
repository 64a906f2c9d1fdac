import ViewLayout.Proofs.Chain.Requirements
import ViewLayout.Proofs.Chain.Spelling
import ViewLayout.Proofs.Token.Writing

/-!
# Chains of named gaps

A plain chain has views without sizes, and every gap in it is a metric in parentheses. It is written
in one way, and what it compiles to can be read off its parts: one equation for each gap, whose
constant is the value of the metric.
-/

namespace ViewLayout

open ViewLayout.Number ViewLayout.Text ViewLayout.Grammar ViewLayout.Outcome

/-- The descriptor that sets an anchor a distance after another one. -/
def Descriptor.tie (first second : Anchor) (distance : Binary64) : Descriptor :=
  { first, relation := .equal, second := some second, constant := distance }

/-- The tag of an axis. -/
def Axis.tag : Axis → Mark
  | .horizontal => .horizontalTag
  | .vertical => .verticalTag

namespace Chain

/-- A gap of a plain chain: a metric, and the anchors it lies between. -/
structure Gap where
  /-- The metric. -/
  metric : String
  /-- The anchor after the gap. -/
  first : Anchor
  /-- The anchor before the gap. -/
  second : Anchor

/-- A descriptor sets a gap to the value of its metric. -/
def Gap.Set (metrics : Metrics) (gap : Gap) (descriptor : Descriptor) : Prop :=
  ∃ distance, metrics.get? gap.metric = some distance ∧
    descriptor = .tie gap.first gap.second distance

/-- The parts of a plain chain: keys of views and metrics of gaps. -/
structure Plain where
  /-- The axis. -/
  axis : Axis
  /-- The gap at the leading edge of the container, if the chain begins there. -/
  leading : Option String
  /-- The first view. -/
  first : String
  /-- The later views, each with the gap before it. -/
  rest : List (String × String)
  /-- The gap at the trailing edge of the container, if the chain ends there. -/
  trailing : Option String

namespace Plain

/-- The last view of a plain chain. -/
def last (plain : Plain) : String :=
  (plain.rest.getLast?.map (·.2)).getD plain.first

/-- The gaps between a view and the views after it. -/
def follow (axis : Axis) (previous : String) : List (String × String) → List Gap
  | [] => []
  | (metric, key) :: rest =>
    ⟨metric, ⟨key, axis.leadingEdge⟩, ⟨previous, axis.trailingEdge⟩⟩ :: follow axis key rest

/-- The gaps of a plain chain, in text order. -/
def gaps (plain : Plain) (parentKey : String) : List Gap :=
  let lead := plain.axis.leadingEdge
  let trail := plain.axis.trailingEdge
  plain.leading.toList.map (⟨·, ⟨plain.first, lead⟩, ⟨parentKey, lead⟩⟩)
    ++ follow plain.axis plain.first plain.rest
    ++ plain.trailing.toList.map (⟨·, ⟨parentKey, trail⟩, ⟨plain.last, trail⟩⟩)

/-- The names in a plain chain. -/
def names (plain : Plain) : List String :=
  plain.leading.toList ++ plain.first :: plain.rest.flatMap (fun step => [step.1, step.2])
    ++ plain.trailing.toList

/-- The keys of the views of a plain chain. -/
def keys (plain : Plain) : List String :=
  plain.first :: plain.rest.map (·.2)

/-- The metrics of the gaps of a plain chain. -/
def metrics (plain : Plain) : List String :=
  plain.leading.toList ++ plain.rest.map (·.1) ++ plain.trailing.toList

/-- How a view is written. -/
def viewPieces (key : String) : List (Option Token) :=
  [some (.mark .bracketOpen), some (.ident key), some (.mark .bracketClose)]

/-- How a gap is written. -/
def gapPieces (metric : String) : List (Option Token) :=
  [some (.mark .minus), some (.mark .parenOpen), some (.ident metric), some (.mark .parenClose),
    some (.mark .minus)]

/-- How later views are written. -/
def stepPieces (rest : List (String × String)) : List (Option Token) :=
  rest.flatMap fun step => gapPieces step.1 ++ viewPieces step.2

/-- How a plain chain is written. -/
def pieces (plain : Plain) : List (Option Token) :=
  some (.mark plain.axis.tag) ::
    ((plain.leading.toList.flatMap fun metric => some (.mark .pipe) :: gapPieces metric)
      ++ (viewPieces plain.first ++ (stepPieces plain.rest
        ++ plain.trailing.toList.flatMap fun metric => gapPieces metric ++ [some (.mark .pipe)])))

/-! ## Writing -/

/-- A view is its key in brackets. -/
theorem written_viewPieces (key : String) :
    Token.written (viewPieces key) = '[' :: (key.toList ++ [']']) := by
  simp [viewPieces, Token.written, Token.text, Mark.text]

/-- A gap is its metric in parentheses between two dashes. -/
theorem written_gapPieces (metric : String) :
    Token.written (gapPieces metric) = '-' :: '(' :: (metric.toList ++ [')', '-']) := by
  simp [gapPieces, Token.written, Token.text, Mark.text]

/-- Later views are written one after another. -/
theorem stepPieces_cons (metric key : String) (rest : List (String × String)) :
    stepPieces ((metric, key) :: rest) = gapPieces metric ++ (viewPieces key ++ stepPieces rest) := by
  rw [stepPieces, List.flatMap_cons, List.append_assoc]
  rfl

/-- A view is apart from everything after it. -/
theorem apart_viewPieces {key : String} (spelled : Token.WellSpelled (.ident key))
    {later : List (Option Token)} (apart : Token.Apart later) :
    Token.Apart (viewPieces key ++ later) :=
  ⟨Token.longest?_mark .bracketOpen _,
    Token.longest?_ident spelled (Token.endsName_mark ']' rfl later),
    Token.longest?_mark .bracketClose _, apart⟩

/-- A gap is apart from everything after it. -/
theorem apart_gapPieces {metric : String} (spelled : Token.WellSpelled (.ident metric))
    {later : List (Option Token)} (apart : Token.Apart later) :
    Token.Apart (gapPieces metric ++ later) :=
  ⟨Token.longest?_mark .minus _, Token.longest?_mark .parenOpen _,
    Token.longest?_ident spelled (Token.endsName_mark ')' rfl _),
    Token.longest?_mark .parenClose _, Token.longest?_mark .minus _, apart⟩

/-- Later views are apart from everything after them. -/
theorem apart_stepPieces {rest : List (String × String)}
    (spelled : ∀ step ∈ rest, Token.WellSpelled (.ident step.1) ∧ Token.WellSpelled (.ident step.2))
    {later : List (Option Token)} (apart : Token.Apart later) :
    Token.Apart (stepPieces rest ++ later) := by
  induction rest with
  | nil => exact apart
  | cons step rest ih =>
    obtain ⟨metric, key⟩ := spelled step List.mem_cons_self
    have others := ih fun other listed => spelled other (List.mem_cons_of_mem _ listed)
    simp only [stepPieces, List.flatMap_cons, List.append_assoc] at others ⊢
    exact apart_gapPieces metric (apart_viewPieces key others)

/-- A plain chain is written apart when its names are identifiers. -/
theorem apart_pieces {plain : Plain}
    (spelled : ∀ name ∈ plain.names, Token.WellSpelled (.ident name)) :
    Token.Apart plain.pieces := by
  simp only [names, List.mem_append, List.mem_cons, List.mem_flatMap, Option.mem_toList]
    at spelled
  have first : Token.WellSpelled (.ident plain.first) := spelled _ (.inl (.inr (.inl rfl)))
  have steps : ∀ step ∈ plain.rest,
      Token.WellSpelled (.ident step.1) ∧ Token.WellSpelled (.ident step.2) := fun step listed =>
    ⟨spelled _ (.inl (.inr (.inr ⟨step, listed, by simp⟩))),
      spelled _ (.inl (.inr (.inr ⟨step, listed, by simp⟩)))⟩
  have final : Token.Apart (plain.trailing.toList.flatMap fun metric =>
      gapPieces metric ++ [some (.mark .pipe)]) := by
    cases trailing : plain.trailing with
    | none => trivial
    | some metric =>
      simp only [Option.toList_some, List.flatMap_cons, List.flatMap_nil, List.append_nil]
      exact apart_gapPieces (spelled metric (.inr trailing))
        ⟨Token.longest?_mark .pipe _, trivial⟩
  have views := apart_viewPieces first (apart_stepPieces steps final)
  refine ⟨Token.longest?_mark plain.axis.tag _, ?_⟩
  cases leading : plain.leading with
  | none => exact views
  | some metric =>
    simp only [Option.toList_some, List.flatMap_cons, List.flatMap_nil, List.append_nil,
      List.cons_append]
    exact ⟨Token.longest?_mark .pipe _,
      apart_gapPieces (spelled metric (.inl (.inl leading))) views⟩

/-! ## Reading -/

end Plain

/-- A connection is the gap of a metric. -/
def Connection.IsGap (connection : Connection) (metric : String) : Prop :=
  ∃ span, connection = .explicit [.simple ⟨.name metric, span⟩]

/-- A link is a view without sizes. -/
def Link.IsView (link : Link) (key : String) : Prop :=
  ∃ span, link = ⟨⟨key, span⟩, []⟩

/-- A step of a chain is a gap and a view. -/
def IsStep (step : Connection × Link) (plain : String × String) : Prop :=
  step.1.IsGap plain.1 ∧ step.2.IsView plain.2

namespace Plain

/-- A chain has the parts of a plain chain, wherever they are written. -/
structure Reads (plain : Plain) (chain : Chain) : Prop where
  /-- The axis is written. -/
  axis : chain.axis = some plain.axis
  /-- The gap at the leading edge. -/
  leading : Option.Rel Connection.IsGap chain.leading plain.leading
  /-- The first view. -/
  first : chain.first.IsView plain.first
  /-- The later views. -/
  rest : List.Forall₂ IsStep chain.rest plain.rest
  /-- The gap at the trailing edge. -/
  trailing : Option.Rel Connection.IsGap chain.trailing plain.trailing

/-- A view is spelled where it is written. -/
theorem exists_view (offset : Nat) (key : String) (later : List (Option Token)) :
    ∃ link word stop, Link.IsView link key ∧ link.Spelled word ∧
      Token.placed offset (viewPieces key ++ later) = word ++ Token.placed stop later :=
  ⟨_, _, _, ⟨_, rfl⟩, .plain ⟨key, _⟩ _ _, rfl⟩

/-- A gap is spelled where it is written. -/
theorem exists_gap (offset : Nat) (metric : String) (later : List (Option Token)) :
    ∃ connection word stop, Connection.IsGap connection metric ∧ connection.Spelled word ∧
      Token.placed offset (gapPieces metric ++ later) = word ++ Token.placed stop later :=
  ⟨_, _, _, ⟨_, rfl⟩,
    .explicit _ _ (.enclosed _ _ (.one (.parts (.unsigned rfl) .absent))), rfl⟩

/-- Later views are spelled where they are written. -/
theorem exists_steps (offset : Nat) (rest : List (String × String))
    (later : List (Option Token)) :
    ∃ steps word stop, List.Forall₂ IsStep steps rest ∧ StepsSpelled steps word ∧
      Token.placed offset (stepPieces rest ++ later) = word ++ Token.placed stop later := by
  induction rest generalizing offset with
  | nil => exact ⟨[], [], offset, .nil, .none, rfl⟩
  | cons step rest ih =>
    simp only [stepPieces, List.flatMap_cons, List.append_assoc]
    obtain ⟨connection, gap, afterGap, isGap, joined, gapPlaced⟩ :=
      exists_gap offset step.1 (viewPieces step.2 ++ (stepPieces rest ++ later))
    obtain ⟨link, view, afterView, isView, linked, viewPlaced⟩ :=
      exists_view afterGap step.2 (stepPieces rest ++ later)
    obtain ⟨steps, others, stop, areSteps, followed, othersPlaced⟩ := ih afterView
    refine ⟨(connection, link) :: steps, gap ++ (view ++ others), stop,
      .cons ⟨isGap, isView⟩ areSteps, .more joined linked followed, ?_⟩
    rw [stepPieces] at gapPlaced viewPlaced othersPlaced
    rw [gapPlaced, viewPlaced, othersPlaced, List.append_assoc, List.append_assoc]

/-- The beginning at the leading edge is spelled where it is written. -/
theorem exists_leading (offset : Nat) (leading : Option String) (later : List (Option Token)) :
    ∃ connection word stop, Option.Rel Connection.IsGap connection leading ∧
      LeadingSpelled connection word ∧
      Token.placed offset ((leading.toList.flatMap fun metric =>
        some (.mark .pipe) :: gapPieces metric) ++ later) = word ++ Token.placed stop later := by
  cases leading with
  | none => exact ⟨none, [], offset, .none, .absent, rfl⟩
  | some metric =>
    obtain ⟨connection, gap, stop, isGap, joined, placed⟩ :=
      exists_gap (offset + Mark.pipe.text.utf8ByteSize) metric later
    refine ⟨some connection, _, stop, .some isGap,
      .edge ⟨offset, offset + Mark.pipe.text.utf8ByteSize⟩ joined, ?_⟩
    simp only [Option.toList_some, List.flatMap_cons, List.flatMap_nil, List.append_nil,
      List.cons_append]
    rw [← placed]
    rfl

/-- The end at the trailing edge is spelled where it is written. -/
theorem exists_trailing (offset : Nat) (trailing : Option String) :
    ∃ connection word, Option.Rel Connection.IsGap connection trailing ∧
      TrailingSpelled connection word ∧
      Token.placed offset (trailing.toList.flatMap fun metric =>
        gapPieces metric ++ [some (.mark .pipe)]) = word := by
  cases trailing with
  | none => exact ⟨none, [], .none, .absent, rfl⟩
  | some metric =>
    obtain ⟨connection, gap, stop, isGap, joined, placed⟩ :=
      exists_gap offset metric [some (.mark .pipe)]
    refine ⟨some connection, _, .some isGap,
      .edge ⟨stop, stop + Mark.pipe.text.utf8ByteSize⟩ joined, ?_⟩
    simp only [Option.toList_some, List.flatMap_cons, List.flatMap_nil, List.append_nil]
    rw [placed]
    rfl

/-- A text that is written as a plain chain is read as that chain. -/
theorem exists_reads {plain : Plain} {raw : String}
    (spelled : ∀ name ∈ plain.names, Token.WellSpelled (.ident name))
    (written : raw.toList = Token.written plain.pieces) :
    ∃ chain, parse raw = .ok chain ∧ plain.Reads chain := by
  have scanned := Token.scan_of_apart written (apart_pieces spelled)
  obtain ⟨leading, edge, afterEdge, leads, led, edgePlaced⟩ :=
    exists_leading (0 + plain.axis.tag.text.utf8ByteSize) plain.leading (viewPieces plain.first ++
      (stepPieces plain.rest ++ plain.trailing.toList.flatMap fun metric =>
        gapPieces metric ++ [some (.mark .pipe)]))
  obtain ⟨first, view, afterView, begins, linked, viewPlaced⟩ :=
    exists_view afterEdge plain.first (stepPieces plain.rest ++
      plain.trailing.toList.flatMap fun metric => gapPieces metric ++ [some (.mark .pipe)])
  obtain ⟨rest, later, afterSteps, follows, followed, laterPlaced⟩ :=
    exists_steps afterView plain.rest
      (plain.trailing.toList.flatMap fun metric => gapPieces metric ++ [some (.mark .pipe)])
  obtain ⟨trailing, final, trails, trailed, finalPlaced⟩ :=
    exists_trailing afterSteps plain.trailing
  refine ⟨⟨some plain.axis, leading, first, rest, trailing⟩, parse_eq_ok_iff.2 ⟨_, scanned, ?_⟩,
    rfl, leads, begins, follows, trails⟩
  have tagged : AxisSpelled (some plain.axis)
      [⟨.mark plain.axis.tag, ⟨0, 0 + plain.axis.tag.text.utf8ByteSize⟩⟩] := by
    cases plain.axis with
    | horizontal => exact .horizontal _
    | vertical => exact .vertical _
  have tokens := Spelled.parts tagged led linked followed trailed
  rw [← finalPlaced, ← laterPlaced, ← viewPlaced, ← edgePlaced] at tokens
  exact tokens

/-! ## Compiling -/

/-- A gap compiles to one descriptor, which sets it. -/
theorem set_of_connect {context : Context} {connection : Connection} {metric : String}
    (isGap : connection.IsGap metric) (spelled : Token.WellSpelled (.ident metric))
    {standard : Binary64} {first second : Anchor} {descriptors : List Descriptor}
    (connected : context.connect connection standard first second = .ok descriptors) :
    List.Forall₂ (Gap.Set context.metrics) [⟨metric, first, second⟩] descriptors := by
  obtain ⟨span, rfl⟩ := isGap
  have met := Context.connect_eq_ok_iff.1 connected
  cases met with
  | cons stated rest =>
    cases rest
    refine .cons ?_ .nil
    cases stated with
    | spaced relates valued weighs =>
      obtain rfl := relates
      obtain rfl := weighs
      have named : Metrics.isName metric = true := Token.isName_of_ident spelled
      have bound : context.metrics.value? metric = some _ := valued
      rw [Metrics.value?, if_pos named] at bound
      exact ⟨_, bound, rfl⟩

/-- A gap at an edge of the container, if there is one, compiles to the descriptor that sets it. -/
theorem set_of_toEdge {context : Context} {spacing : Spacing} {connection : Option Connection}
    {metric : Option String} (isGap : Option.Rel Connection.IsGap connection metric)
    (spelled : ∀ name ∈ metric, Token.WellSpelled (.ident name)) {first second : Anchor}
    {descriptors : List Descriptor}
    (connected : context.toEdge spacing connection first second = .ok descriptors) :
    List.Forall₂ (Gap.Set context.metrics) (metric.toList.map (⟨·, first, second⟩)) descriptors := by
  cases isGap with
  | none =>
    obtain rfl := Except.ok.inj connected
    exact .nil
  | some isGap => exact set_of_connect isGap (spelled _ rfl) connected

/-- A view without sizes compiles to nothing. -/
theorem eq_nil_of_sizes {context : Context} {link : Link} {key : String} (isView : link.IsView key)
    {descriptors : List Descriptor} (sized : context.sizes link = .ok descriptors) :
    descriptors = [] := by
  obtain ⟨span, rfl⟩ := isView
  exact (Except.ok.inj sized).symm

/-- Later views compile to descriptors that set the gaps before them. -/
theorem set_of_follow {context : Context} {spacing : Spacing} {previous : Link} {key : String}
    (before : previous.IsView key) {steps : List (Connection × Link)}
    {rest : List (String × String)} (areSteps : List.Forall₂ IsStep steps rest)
    (spelled : ∀ step ∈ rest, Token.WellSpelled (.ident step.1)) {descriptors : List Descriptor}
    (followed : context.follow spacing previous steps = .ok descriptors) :
    List.Forall₂ (Gap.Set context.metrics) (follow context.axis key rest) descriptors := by
  induction areSteps generalizing previous key descriptors with
  | nil =>
    obtain rfl := Except.ok.inj followed
    exact .nil
  | @cons step plain steps rest isStep _ ih =>
    obtain ⟨connection, link⟩ := step
    obtain ⟨isGap, isView⟩ := isStep
    simp only [Context.follow, bind_eq_ok_iff, Except.ok.injEq] at followed
    obtain ⟨gap, joined, sizes, sized, later, others, rfl⟩ := followed
    obtain rfl := eq_nil_of_sizes isView sized
    have here := set_of_connect isGap (spelled plain List.mem_cons_self) joined
    have there := ih isView (fun step listed => spelled step (List.mem_cons_of_mem _ listed)) others
    obtain ⟨span, rfl⟩ := isView
    obtain ⟨place, rfl⟩ := before
    rw [List.append_nil]
    exact List.rel_append here there

/-- The last view of a chain is that of its plain chain. -/
theorem Reads.last {plain : Plain} {chain : Chain} (reads : plain.Reads chain) :
    chain.last.IsView plain.last := by
  unfold Chain.last Plain.last
  have final := rel_getLast? reads.rest
  generalize chain.rest.getLast? = step, plain.rest.getLast? = written at final
  cases final with
  | none => exact reads.first
  | some isStep => exact isStep.2

/-- A plain chain compiles to the descriptors that set its gaps to their metrics, in text order. -/
theorem set_of_compile {plain : Plain} {raw : String}
    (spelled : ∀ name ∈ plain.names, Token.WellSpelled (.ident name))
    (written : raw.toList = Token.written plain.pieces) {spacing : Spacing} {registry : Registry}
    {metrics : Metrics} {descriptors : List Descriptor}
    (compiled : compile raw spacing registry metrics = .ok descriptors) :
    List.Forall₂ (Gap.Set metrics) (plain.gaps registry.parentKey) descriptors := by
  obtain ⟨chain, parsed, reads⟩ := exists_reads spelled written
  simp only [compile, parsed, lower, bind_eq_ok_iff, Except.ok.injEq] at compiled
  obtain ⟨_, -, leading, leads, sizes, sized, later, follows, trailing, trails, rfl⟩ := compiled
  obtain rfl := eq_nil_of_sizes reads.first sized
  simp only [names, List.mem_append, List.mem_cons, List.mem_flatMap, Option.mem_toList] at spelled
  have metrics : ∀ step ∈ plain.rest, Token.WellSpelled (.ident step.1) := fun step listed =>
    spelled _ (.inl (.inr (.inr ⟨step, listed, by simp⟩)))
  obtain ⟨last, lastView⟩ := reads.last
  obtain ⟨first, firstView⟩ := reads.first
  have before := set_of_toEdge reads.leading (fun name led => spelled _ (.inl (.inl led))) leads
  have middle := set_of_follow reads.first reads.rest metrics follows
  have after := set_of_toEdge reads.trailing (fun name ended => spelled _ (.inr ended)) trails
  rw [reads.axis, firstView] at before
  rw [reads.axis] at middle
  rw [reads.axis, lastView] at after
  rw [List.append_nil]
  exact List.rel_append (List.rel_append before middle) after

/-- The views of a chain are those of its plain chain. -/
theorem Reads.links {plain : Plain} {chain : Chain} (reads : plain.Reads chain) :
    List.Forall₂ Link.IsView chain.links plain.keys := by
  refine .cons reads.first ?_
  rw [List.forall₂_map_left_iff, List.forall₂_map_right_iff]
  exact reads.rest.imp fun _ _ isStep => isStep.2

/-- The connections of a chain are the gaps of its plain chain. -/
theorem Reads.connections {plain : Plain} {chain : Chain} (reads : plain.Reads chain) :
    List.Forall₂ Connection.IsGap chain.connections plain.metrics := by
  have edge {connection : Option Connection} {metric : Option String}
      (isGap : Option.Rel Connection.IsGap connection metric) :
      List.Forall₂ Connection.IsGap connection.toList metric.toList := by
    cases isGap with
    | none => exact .nil
    | some isGap => exact .cons isGap .nil
  have steps : List.Forall₂ Connection.IsGap (chain.rest.map (·.1)) (plain.rest.map (·.1)) := by
    rw [List.forall₂_map_left_iff, List.forall₂_map_right_iff]
    exact reads.rest.imp fun _ _ isStep => isStep.1
  exact List.rel_append (List.rel_append (edge reads.leading) steps) (edge reads.trailing)

/-- The names in a plain chain are its keys and its metrics. -/
theorem mem_names_iff {plain : Plain} {name : String} :
    name ∈ plain.names ↔ name ∈ plain.keys ∨ name ∈ plain.metrics := by
  simp only [names, keys, metrics, List.mem_append, List.mem_cons, List.mem_flatMap, List.mem_map,
    List.not_mem_nil, or_false]
  constructor
  · rintro ((leading | rfl | ⟨step, listed, rfl | rfl⟩) | trailing)
    · exact .inr (.inl (.inl leading))
    · exact .inl (.inl rfl)
    · exact .inr (.inl (.inr ⟨step, listed, rfl⟩))
    · exact .inl (.inr ⟨step, listed, rfl⟩)
    · exact .inr (.inr trailing)
  · rintro ((rfl | ⟨step, listed, rfl⟩) | ((leading | ⟨step, listed, rfl⟩) | trailing))
    · exact .inl (.inr (.inl rfl))
    · exact .inl (.inr (.inr ⟨step, listed, .inr rfl⟩))
    · exact .inl (.inl leading)
    · exact .inl (.inr (.inr ⟨step, listed, .inl rfl⟩))
    · exact .inr trailing

/-- A plain chain compiles when its views are known and its metrics bound. -/
theorem exists_compile {plain : Plain} {raw : String}
    (spelled : ∀ name ∈ plain.names, Token.WellSpelled (.ident name))
    (written : raw.toList = Token.written plain.pieces) (spacing : Spacing) {registry : Registry}
    {metrics : Metrics} (known : ∀ key ∈ plain.keys, registry.Knows key)
    (bound : ∀ metric ∈ plain.metrics, ∃ distance, metrics.get? metric = some distance) :
    ∃ descriptors, compile raw spacing registry metrics = .ok descriptors := by
  obtain ⟨chain, parsed, reads⟩ := exists_reads spelled written
  have views : ∀ link ∈ chain.links, registry.Knows link.name.value := by
    intro link present
    obtain ⟨key, listed, span, rfl⟩ := exists_mem_of_forall₂ reads.links.flip present
    exact known key listed
  have gaps : ∀ connection ∈ chain.connections, ∀ predicate ∈ connection.predicates,
      predicate.FixesGap metrics := by
    intro connection present predicate stated
    obtain ⟨metric, listed, span, rfl⟩ := exists_mem_of_forall₂ reads.connections.flip present
    obtain rfl := List.mem_singleton.1 stated
    obtain ⟨distance, found⟩ := bound metric listed
    have named : Metrics.isName metric = true :=
      Token.isName_of_ident (spelled metric (mem_names_iff.2 (.inr listed)))
    have value : metrics.value? metric = some distance := by
      rw [Metrics.value?, if_pos named, found]
    exact ⟨⟨⟨.equal, rfl⟩, none, rfl⟩, distance, value⟩
  have sizes : ∀ link ∈ chain.links, ∀ predicate ∈ link.predicates,
      predicate.FixesSize registry metrics := by
    intro link present predicate stated
    obtain ⟨key, -, span, rfl⟩ := exists_mem_of_forall₂ reads.links.flip present
    contradiction
  have each : ∀ requirement ∈ chain.requirements spacing registry.parentKey,
      ∃ descriptor, requirement.Met registry metrics descriptor :=
    exists_met_iff.2 ⟨gaps, sizes⟩
  obtain ⟨descriptors, met⟩ := exists_forall₂_iff.2 each
  exact ⟨descriptors, compile_eq_ok_iff.2 ⟨chain, parsed, views, met⟩⟩

/-- The gaps after a view lie between that view and the later ones. -/
theorem mem_keys_of_follow {axis : Axis} {previous : String} {rest : List (String × String)}
    {gap : Gap} (present : gap ∈ follow axis previous rest) :
    gap.first.key ∈ previous :: rest.map (·.2) ∧ gap.second.key ∈ previous :: rest.map (·.2) := by
  induction rest generalizing previous with
  | nil => contradiction
  | cons step rest ih =>
    rcases List.mem_cons.1 present with rfl | later
    · exact ⟨List.mem_cons_of_mem _ List.mem_cons_self, List.mem_cons_self⟩
    · obtain ⟨first, second⟩ := ih later
      exact ⟨List.mem_cons_of_mem _ first, List.mem_cons_of_mem _ second⟩

/-- The last view is one of the views. -/
theorem last_mem_keys (plain : Plain) : plain.last ∈ plain.keys := by
  unfold last keys
  cases found : plain.rest.getLast? with
  | none => exact List.mem_cons_self
  | some step =>
    exact List.mem_cons_of_mem _ (List.mem_map_of_mem (List.mem_of_getLast? found))

/-- The gaps of a plain chain lie between its views and the container. -/
theorem mem_keys_of_gaps {plain : Plain} {parentKey : String} {gap : Gap}
    (present : gap ∈ plain.gaps parentKey) :
    gap.first.key ∈ parentKey :: plain.keys ∧ gap.second.key ∈ parentKey :: plain.keys := by
  have parent : parentKey ∈ parentKey :: plain.keys := List.mem_cons_self
  have view {key : String} (listed : key ∈ plain.keys) : key ∈ parentKey :: plain.keys :=
    List.mem_cons_of_mem _ listed
  simp only [gaps, List.mem_append, List.mem_map] at present
  obtain (⟨_, -, rfl⟩ | middle) | ⟨_, -, rfl⟩ := present
  · exact ⟨view List.mem_cons_self, parent⟩
  · obtain ⟨first, second⟩ := mem_keys_of_follow middle
    exact ⟨view first, view second⟩
  · exact ⟨parent, view plain.last_mem_keys⟩

end Plain

end Chain

end ViewLayout
