import ViewLayout.Proofs.Chain.Parts
import ViewLayout.Proofs.Number.ReadBack

/-!
# What a chain is refused for

A chain that was read but not lowered is refused for one of its items: a view that is not found, a
relation outside the vocabulary, a metric that is not active, or a priority off the scale. The
rejection has the place of that item, and the item stands in the text at that place.

A number is never the item, since every number token can be read, with a minus in front of it or
without.
-/

namespace ViewLayout

open ViewLayout.Number ViewLayout.Text ViewLayout.Grammar ViewLayout.Outcome

/-- The word that a fault of looking a word up carries. -/
def Fault.word? : Fault → Option String
  | unknownMetric name => some name
  | unknownAttribute word => some word
  | unknownRelation symbol => some symbol
  | unknownKey key _ => some key
  | parentUnresolved key => some key
  | _ => none

/-- What is wrong with a key carries the key. -/
theorem Registry.word?_of_fault? {registry : Registry} {key : String} {fault : Fault}
    (wrong : registry.fault? key = some fault) : fault.word? = some key := by
  unfold Registry.fault? at wrong
  split_ifs at wrong
  · obtain rfl := Option.some.inj wrong
    rfl
  · obtain rfl := Option.some.inj wrong
    rfl

/-- What is wrong with the symbol of a relation carries the symbol. -/
theorem Relation.word?_of_fault? {word : String} {fault : Fault}
    (wrong : Relation.fault? word = some fault) : fault.word? = some word := by
  unfold Relation.fault? at wrong
  split_ifs at wrong
  obtain rfl := Option.some.inj wrong
  rfl

/-- What is wrong with the word of an attribute carries the word. -/
theorem Attribute.word?_of_fault? {word : String} {fault : Fault}
    (wrong : Attribute.fault? word = some fault) : fault.word? = some word := by
  unfold Attribute.fault? at wrong
  split_ifs at wrong
  obtain rfl := Option.some.inj wrong
  rfl

namespace Metrics

/-- What is wrong with a metric name carries the name. -/
theorem word?_of_fault? {metrics : Metrics} {name : String} {fault : Fault}
    (named : isName name = true) (wrong : metrics.fault? name = some fault) :
    fault.word? = some name := by
  unfold Metrics.fault? at wrong
  rw [if_pos named] at wrong
  split_ifs at wrong
  obtain rfl := Option.some.inj wrong
  rfl

/-- Nothing is wrong with a value that stands for a number. -/
theorem fault?_of_value? {metrics : Metrics} {text : String} {number : Binary64}
    (stands : metrics.value? text = some number) : metrics.fault? text = none := by
  rw [Metrics.fault?, stands]
  exact if_neg nofun

/-- A number with a minus in front of it is no name. -/
theorem isName_minus (literal : String) : isName ("-" ++ literal) = false := by
  have characters : ("-" ++ literal).toList = '-' :: literal.toList := String.toList_append
  rw [isName, characters]
  rfl

/-- Nothing is wrong with a number token, nor with a minus in front of one. -/
theorem fault?_of_number (metrics : Metrics) {literal : String}
    (spelled : Token.WellSpelled (.number literal)) :
    metrics.fault? literal = none ∧ metrics.fault? ("-" ++ literal) = none := by
  have unnamed : isName literal = false := Token.isName_eq_false_of_number spelled
  obtain ⟨⟨number, read⟩, ⟨opposite, readNegative⟩⟩ :=
    Binary.exists_read?_of_number (f := Format.double) spelled
  constructor
  · have stands : metrics.value? literal = some number := by
      rw [value?, unnamed]
      exact read
    exact fault?_of_value? stands
  · have stands : metrics.value? ("-" ++ literal) = some opposite := by
      rw [value?, isName_minus]
      exact readNegative
    exact fault?_of_value? stands

end Metrics

namespace Chain

/-- The text of the item that a predicate is refused for, and the rejection. -/
inductive Predicate.Blames (metrics : Metrics) (predicate : Predicate) :
    String → Rejection → Prop where
  | relation {symbol : Spanned String} {fault : Fault}
      (written : predicate.relation = some symbol)
      (wrong : Relation.fault? symbol.value = some fault) :
      Blames metrics predicate symbol.value ⟨.unresolved fault, symbol.span⟩
  | object {fault : Fault} (wrong : metrics.fault? predicate.object.value.text = some fault) :
      Blames metrics predicate predicate.object.value.text
        ⟨.unresolved fault, predicate.object.span⟩
  | priority {object : Spanned Object} {fault : Fault}
      (written : predicate.priority = some object)
      (wrong : metrics.fault? object.value.text = some fault) :
      Blames metrics predicate object.value.text ⟨.unresolved fault, object.span⟩
  | outside {object : Spanned Object} {value : Binary64}
      (written : predicate.priority = some object)
      (stands : metrics.value? object.value.text = some value)
      (off : ¬OnPriorityScale value) :
      Blames metrics predicate object.value.text ⟨.priorityOutOfRange value, object.span⟩

/-- The text of the item that a chain is refused for, and the rejection. -/
inductive Blames (registry : Registry) (metrics : Metrics) (chain : Chain) :
    String → Rejection → Prop where
  | view {link : Link} {fault : Fault} (listed : link ∈ chain.links)
      (wrong : registry.fault? link.name.value = some fault) :
      Blames registry metrics chain link.name.value ⟨.unresolved fault, link.name.span⟩
  | predicate {predicate : Predicate} {item : String} {rejection : Rejection}
      (listed : predicate ∈ chain.predicates) (blamed : predicate.Blames metrics item rejection) :
      Blames registry metrics chain item rejection

/-- A rejection blames an item of one of several predicates. -/
def Blamed (metrics : Metrics) (predicates : List Predicate) (rejection : Rejection) : Prop :=
  ∃ predicate ∈ predicates, ∃ item, predicate.Blames metrics item rejection

/-! ## Each step of the compiler blames an item -/

/-- A word that is not found is refused with its fault, at its place. -/
theorem exists_fault_of_placed {α : Type} {span : Span} {result : Except Fault α}
    {fault : Option Fault} {rejection : Rejection} (reports : Reports result fault)
    (failed : placed span result = .error rejection) :
    ∃ found, fault = some found ∧ rejection = ⟨.unresolved found, span⟩ := by
  obtain ⟨found, wrong, rfl⟩ := mapError_eq_error_iff.1 failed
  exact ⟨found, (reports found).1 wrong, rfl⟩

/-- A predicate whose relation is not found is refused for it. -/
theorem Predicate.blames_of_resolveRelation {predicate : Predicate} {metrics : Metrics}
    {rejection : Rejection} (failed : predicate.resolveRelation = .error rejection) :
    ∃ item, predicate.Blames metrics item rejection := by
  unfold resolveRelation at failed
  split at failed
  · rename_i symbol written
    obtain ⟨fault, wrong, rfl⟩ := exists_fault_of_placed (Relation.lookup_reports _) failed
    exact ⟨_, .relation written wrong⟩
  · contradiction

/-- A predicate whose object stands for no number is refused for it. -/
theorem Predicate.blames_of_resolve {predicate : Predicate} {metrics : Metrics}
    {rejection : Rejection}
    (failed : Object.resolve metrics predicate.object = .error rejection) :
    ∃ item, predicate.Blames metrics item rejection := by
  obtain ⟨fault, wrong, rfl⟩ := exists_fault_of_placed (metrics.resolve_reports _) failed
  exact ⟨_, .object wrong⟩

/-- A predicate whose priority stands for no place on the scale is refused for it. -/
theorem Predicate.blames_of_resolvePriority {predicate : Predicate} {metrics : Metrics}
    {rejection : Rejection} (failed : predicate.resolvePriority metrics = .error rejection) :
    ∃ item, predicate.Blames metrics item rejection := by
  unfold resolvePriority at failed
  split at failed
  · contradiction
  · rename_i object written
    rcases bind_eq_error_iff.1 failed with unresolved | ⟨value, resolved, checked⟩
    · obtain ⟨fault, wrong, rfl⟩ := exists_fault_of_placed (metrics.resolve_reports _) unresolved
      exact ⟨_, .priority written wrong⟩
    · split at checked
      · contradiction
      · rename_i off
        obtain rfl := Except.error.inj checked
        exact ⟨_, .outside written (Object.resolve_eq_ok_iff.1 resolved)
          fun on => off (onPriorityScale_iff.2 on)⟩

/-- A connection that is refused is refused for one of its predicates. -/
theorem Context.blamed_of_connect {context : Context} {connection : Connection}
    {standard : Binary64} {first second : Anchor} {rejection : Rejection}
    (failed : context.connect connection standard first second = .error rejection) :
    Blamed context.metrics connection.predicates rejection := by
  cases connection with
  | flush => contradiction
  | standard => contradiction
  | explicit predicates =>
    obtain ⟨predicate, present, wrong⟩ := exists_error_of_mapM failed
    refine ⟨predicate, present, ?_⟩
    rcases bind_eq_error_iff.1 wrong with relation | ⟨_, -, later⟩
    · exact predicate.blames_of_resolveRelation relation
    · rcases bind_eq_error_iff.1 later with object | ⟨_, -, last⟩
      · exact predicate.blames_of_resolve object
      · rcases bind_eq_error_iff.1 last with priority | ⟨_, -, stated⟩
        · exact predicate.blames_of_resolvePriority priority
        · contradiction

/-- A predicate on a size that is refused is refused for one of its items. -/
theorem Context.blames_of_sizeOf {context : Context} {link : Link} {predicate : Predicate}
    {rejection : Rejection} (failed : context.sizeOf link predicate = .error rejection) :
    ∃ item, predicate.Blames context.metrics item rejection := by
  -- After the object has been looked up, only the priority is left to fail.
  have stated {descriptor : Descriptor}
      (last : (do let priority ← predicate.resolvePriority context.metrics
                  .ok { descriptor with priority } : Except Rejection Descriptor) =
        .error rejection) : ∃ item, predicate.Blames context.metrics item rejection := by
    rcases bind_eq_error_iff.1 last with priority | ⟨_, -, done⟩
    · exact predicate.blames_of_resolvePriority priority
    · contradiction
  have valued {next : Binary64 → Except Rejection Descriptor}
      (looked : Object.resolve context.metrics predicate.object >>= next = .error rejection)
      (later : ∀ constant, next constant = .error rejection →
        ∃ item, predicate.Blames context.metrics item rejection) :
      ∃ item, predicate.Blames context.metrics item rejection := by
    rcases bind_eq_error_iff.1 looked with unresolved | ⟨constant, -, last⟩
    · exact predicate.blames_of_resolve unresolved
    · exact later constant last
  unfold sizeOf at failed
  rcases bind_eq_error_iff.1 failed with relation | ⟨relation, -, looked⟩
  · exact predicate.blames_of_resolveRelation relation
  · cases named : predicate.object.value with
    | name key =>
      rw [named] at looked
      by_cases used : context.registry.contains key = true
      · simp only [used, if_true] at looked
        exact stated looked
      · simp only [if_neg used] at looked
        exact valued looked fun constant last => stated last
    | number negative literal =>
      rw [named] at looked
      exact valued looked fun constant last => stated last

/-- The sizes of a view that are refused are refused for one of its predicates. -/
theorem Context.blamed_of_sizes {context : Context} {link : Link} {rejection : Rejection}
    (failed : context.sizes link = .error rejection) :
    Blamed context.metrics link.predicates rejection := by
  obtain ⟨predicate, present, wrong⟩ := exists_error_of_mapM failed
  exact ⟨predicate, present, context.blames_of_sizeOf wrong⟩

/-- A connection to the container that is refused is refused for one of its predicates. -/
theorem Context.blamed_of_toEdge {context : Context} {spacing : Spacing}
    {connection : Option Connection} {first second : Anchor} {rejection : Rejection}
    (failed : context.toEdge spacing connection first second = .error rejection) :
    Blamed context.metrics (connection.toList.flatMap Connection.predicates) rejection := by
  cases connection with
  | none => contradiction
  | some written =>
    simpa only [Option.toList_some, List.flatMap_singleton] using
      context.blamed_of_connect failed

/-- The later views of a chain that are refused are refused for a predicate of one of them or of
its connection. -/
theorem Context.blamed_of_follow {context : Context} {spacing : Spacing} {previous : Link}
    {rest : List (Connection × Link)} {rejection : Rejection}
    (failed : context.follow spacing previous rest = .error rejection) :
    Blamed context.metrics
      (rest.flatMap fun step => step.1.predicates ++ step.2.predicates) rejection := by
  induction rest generalizing previous with
  | nil => contradiction
  | cons step rest ih =>
    have here {predicates : List Predicate} (blamed : Blamed context.metrics predicates rejection)
        (among : predicates ⊆ step.1.predicates ++ step.2.predicates) :
        Blamed context.metrics ((step :: rest).flatMap fun step =>
          step.1.predicates ++ step.2.predicates) rejection := by
      obtain ⟨predicate, present, item, wrong⟩ := blamed
      exact ⟨predicate, List.mem_flatMap.2 ⟨step, List.mem_cons_self, among present⟩, item, wrong⟩
    obtain ⟨connection, link⟩ := step
    rw [follow] at failed
    rcases bind_eq_error_iff.1 failed with gap | ⟨_, -, later⟩
    · exact here (context.blamed_of_connect gap) (List.subset_append_left _ _)
    · rcases bind_eq_error_iff.1 later with sizes | ⟨_, -, last⟩
      · exact here (context.blamed_of_sizes sizes) (List.subset_append_right _ _)
      · rcases bind_eq_error_iff.1 last with others | ⟨_, -, stated⟩
        · obtain ⟨predicate, present, blamed⟩ := ih others
          exact ⟨predicate, List.mem_append_right _ present, blamed⟩
        · contradiction

/-- Looking views up fails at a view that is not found. -/
theorem exists_link_of_resolveLinks {registry : Registry} {links : List Link}
    {rejection : Rejection} (failed : resolveLinks registry links = .error rejection) :
    ∃ link ∈ links, ∃ fault, registry.fault? link.name.value = some fault ∧
      rejection = ⟨.unresolved fault, link.name.span⟩ := by
  induction links with
  | nil => contradiction
  | cons link links ih =>
    rcases bind_eq_error_iff.1 failed with here | ⟨_, -, later⟩
    · exact ⟨link, List.mem_cons_self,
        exists_fault_of_placed (registry.resolve_reports _) here⟩
    · obtain ⟨other, listed, wrong⟩ := ih later
      exact ⟨other, List.mem_cons_of_mem _ listed, wrong⟩

/-- A chain that is refused is refused for one of its items. -/
theorem blames_of_lower {chain : Chain} {spacing : Spacing} {registry : Registry}
    {metrics : Metrics} {rejection : Rejection}
    (failed : chain.lower spacing registry metrics = .error rejection) :
    ∃ item, chain.Blames registry metrics item rejection := by
  have own {predicates : List Predicate} (blamed : Blamed metrics predicates rejection)
      (among : predicates ⊆ chain.predicates) :
      ∃ item, chain.Blames registry metrics item rejection := by
    obtain ⟨predicate, present, item, wrong⟩ := blamed
    exact ⟨item, .predicate (among present) wrong⟩
  unfold lower at failed
  rcases bind_eq_error_iff.1 failed with views | ⟨_, -, found⟩
  · obtain ⟨link, listed, fault, wrong, rfl⟩ := exists_link_of_resolveLinks views
    exact ⟨_, .view listed wrong⟩
  · rcases bind_eq_error_iff.1 found with leading | ⟨_, -, led⟩
    · refine own (Context.blamed_of_toEdge leading) fun predicate present => ?_
      simp only [predicates, connections, List.flatMap_append, List.mem_append]
      exact .inl (.inl (.inl present))
    · rcases bind_eq_error_iff.1 led with sizes | ⟨_, -, sized⟩
      · refine own (Context.blamed_of_sizes sizes) fun predicate present => ?_
        simp only [predicates, links, List.flatMap_cons, List.mem_append]
        exact .inr (.inl present)
      · rcases bind_eq_error_iff.1 sized with later | ⟨_, -, followed⟩
        · refine own (Context.blamed_of_follow later) fun predicate present => ?_
          obtain ⟨step, listed, among⟩ := List.mem_flatMap.1 present
          simp only [predicates, connections, links, List.mem_append, List.mem_flatMap,
            List.mem_cons, List.mem_map]
          rcases List.mem_append.1 among with gap | size
          · exact .inl ⟨step.1, .inl (.inr ⟨step, listed, rfl⟩), gap⟩
          · exact .inr ⟨step.2, .inr ⟨step, listed, rfl⟩, size⟩
        · rcases bind_eq_error_iff.1 followed with trailing | ⟨_, -, stated⟩
          · refine own (Context.blamed_of_toEdge trailing) fun predicate present => ?_
            simp only [predicates, connections, List.flatMap_append, List.mem_append]
            exact .inl (.inr present)
          · contradiction

/-! ## The item stands at the place of the rejection -/

/-- An object without a sign that stands for no number is the metric that its fault carries. -/
theorem Object.word?_of_fault? {object : Spanned Object} {token : Spanned Token}
    {metrics : Metrics} {fault : Fault} (one : Object.token? object = some token)
    (kind : token.value.WellSpelled) (wrong : metrics.fault? object.value.text = some fault) :
    fault.word? = some object.value.text := by
  obtain ⟨text, -⟩ := Object.text_of_token? one
  rw [← text] at wrong ⊢
  rcases Object.kind_of_token? one with ⟨name, ident⟩ | ⟨literal, number⟩
  · rw [ident] at kind wrong ⊢
    exact Metrics.word?_of_fault? (Token.isName_of_ident kind) wrong
  · rw [number] at kind wrong
    exact absurd ((metrics.fault?_of_number kind).1.symm.trans wrong) nofun

/-- The item that a predicate is refused for stands in the text at the place of the rejection, and
a word that is not found is the item. -/
theorem Predicate.Blames.located {raw : String} {tokens part : Tokens} {metrics : Metrics}
    {predicate : Predicate} {item : String} {rejection : Rejection}
    (blamed : predicate.Blames metrics item rejection) (scanned : Token.scan raw = .ok tokens)
    (spelled : predicate.Spelled part) (inside : part ⊆ tokens) :
    rejection.span.Cuts raw item ∧
      ∀ fault, rejection.fault = .unresolved fault → fault.word? = some item := by
  have cuts : ∀ token ∈ part, token.span.Cuts raw token.value.text :=
    fun token among => Token.cuts_of_scan scanned token (inside among)
  have wellSpelled : ∀ token ∈ part, token.value.WellSpelled :=
    fun token among => (Token.scanFrom_eq_ok_iff.1 scanned).wellSpelled token (inside among)
  have placedAt {object : Spanned Object} {token : Spanned Token} (among : token ∈ part)
      (one : Object.token? object = some token) : object.span.Cuts raw object.value.text := by
    obtain ⟨text, span⟩ := Object.text_of_token? one
    rw [← text, ← span]
    exact cuts token among
  cases blamed with
  | relation written wrong =>
    refine ⟨cuts _ (spelled.mem_relation written), fun fault same => ?_⟩
    obtain rfl := ChainFault.unresolved.inj same
    exact Relation.word?_of_fault? wrong
  | object wrong =>
    cases spelled with
    | @parts relation object priority middle last spelled weighted =>
      cases spelled with
      | @unsigned object token one =>
        have among : token ∈ relationTokens relation ++ ([token] ++ last) := by simp
        refine ⟨placedAt among one, fun fault same => ?_⟩
        obtain rfl := ChainFault.unresolved.inj same
        exact Object.word?_of_fault? one (wellSpelled token among) wrong
      | negative literal sign span =>
        have kind := wellSpelled ⟨.number literal, span⟩ (by simp)
        exact absurd ((metrics.fault?_of_number kind).2.symm.trans wrong) nofun
  | priority written wrong =>
    obtain ⟨token, among, one⟩ := spelled.exists_priority written
    refine ⟨placedAt among one, fun fault same => ?_⟩
    obtain rfl := ChainFault.unresolved.inj same
    exact Object.word?_of_fault? one (wellSpelled token among) wrong
  | outside written stands off =>
    obtain ⟨token, among, one⟩ := spelled.exists_priority written
    exact ⟨placedAt among one, fun fault same => nomatch same⟩

/-- The item that a chain is refused for stands in the text at the place of the rejection, and a
word that is not found is the item. -/
theorem Blames.located {raw : String} {chain : Chain} {registry : Registry} {metrics : Metrics}
    {item : String} {rejection : Rejection} (blamed : chain.Blames registry metrics item rejection)
    (parsed : parse raw = .ok chain) :
    rejection.span.Cuts raw item ∧
      ∀ fault, rejection.fault = .unresolved fault → fault.word? = some item := by
  obtain ⟨tokens, scanned, spelled⟩ := parse_eq_ok_iff.1 parsed
  cases blamed with
  | view listed wrong =>
    obtain ⟨view, linked, inside⟩ := spelled.exists_link listed
    refine ⟨Token.cuts_of_scan scanned _ (inside linked.mem_name), fun fault same => ?_⟩
    obtain rfl := ChainFault.unresolved.inj same
    exact Registry.word?_of_fault? wrong
  | predicate listed blamed =>
    obtain ⟨part, written, inside⟩ := spelled.exists_predicate listed
    exact blamed.located scanned written inside

/-- A text that is refused as a chain is no chain, or is refused for one of its items, which stands
in the text at the place of the rejection. -/
theorem malformed_or_blames_of_compile {raw : String} {spacing : Spacing} {registry : Registry}
    {metrics : Metrics} {rejection : Rejection}
    (failed : compile raw spacing registry metrics = .error rejection) :
    (∃ fault, parse raw = .error ⟨fault, rejection.span⟩ ∧ rejection.fault = .malformed fault) ∨
      ∃ chain item, parse raw = .ok chain ∧ chain.Blames registry metrics item rejection ∧
        rejection.span.Cuts raw item ∧
        ∀ fault, rejection.fault = .unresolved fault → fault.word? = some item := by
  unfold compile at failed
  cases parsed : parse raw with
  | error error =>
    rw [parsed] at failed
    obtain rfl := Except.error.inj failed
    exact .inl ⟨error.fault, rfl, rfl⟩
  | ok chain =>
    rw [parsed] at failed
    obtain ⟨item, blamed⟩ := blames_of_lower failed
    exact .inr ⟨chain, item, rfl, blamed, blamed.located parsed⟩

end Chain

end ViewLayout
