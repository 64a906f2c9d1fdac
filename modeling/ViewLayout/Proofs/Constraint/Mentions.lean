import ViewLayout.Proofs.Constraint.Attribution
import ViewLayout.Proofs.Constraint.Keys
import ViewLayout.Proofs.Constraint.ReadBack

/-!
# What compiled constraints depend on

The identifiers of a text are its mentions. What a text compiles to is decided by which of its
mentions stand for a node, by the metrics they are bound to, and by the parent key: two registries
and two sets of metrics that agree on the mentions compile the text to the same descriptors, or
both refuse it. To which node a key is bound, and whatever else is bound, plays no part.

Only a mention can be looked up. A number is never a name, and the parent key, which the edges of
the container bring in, is written into the descriptors without being looked up.
-/

namespace ViewLayout

open ViewLayout.Number ViewLayout.Text ViewLayout.Grammar ViewLayout.Outcome

/-- The name of a token that is an identifier. -/
def Token.name? : Token → Option String
  | .ident name => some name
  | _ => none

/-- The identifiers of a text, in text order; a text that cannot be scanned has none. -/
def Constraint.mentions (raw : String) : List String :=
  match Token.scan raw with
  | .ok tokens => tokens.filterMap (·.value.name?)
  | .error _ => []

/-- Every identifier token of a text is a mention. -/
theorem Constraint.mem_mentions {raw : String} {tokens : Tokens} {name : String} {span : Span}
    (scanned : Token.scan raw = .ok tokens) (written : ⟨.ident name, span⟩ ∈ tokens) :
    name ∈ mentions raw := by
  rw [mentions, scanned]
  exact List.mem_filterMap.2 ⟨_, written, rfl⟩

/-! ## Agreement on some names -/

/-- Two registries have the same parent key, and the same ones of some names stand for a node in
them, whichever node that is. -/
structure Registry.Agree (names : List String) (first second : Registry) : Prop where
  /-- The parent key is the same. -/
  parentKey : first.parentKey = second.parentKey
  /-- A name that resolves in one registry resolves in the other. -/
  resolves : ∀ name ∈ names,
    (∃ node, first.resolve name = .ok node) ↔ ∃ node, second.resolve name = .ok node

/-- Some names are bound to the same numbers, or to none, in two sets of metrics. -/
def Metrics.Agree (names : List String) (first second : Metrics) : Prop :=
  ∀ name ∈ names, first.get? name = second.get? name

variable {names : List String} {first second : Registry} {metrics other : Metrics}

/-- Agreement of registries has no direction. -/
theorem Registry.Agree.symm (agree : Registry.Agree names first second) :
    Registry.Agree names second first :=
  ⟨agree.parentKey.symm, fun name among => (agree.resolves name among).symm⟩

/-- Agreement of metrics has no direction. -/
theorem Metrics.Agree.symm (agree : Metrics.Agree names metrics other) :
    Metrics.Agree names other metrics :=
  fun name among => (agree name among).symm

/-- Registries that agree know the same ones of the names. -/
theorem Registry.Agree.knows (agree : Registry.Agree names first second) {name : String}
    (among : name ∈ names) (known : first.Knows name) : second.Knows name :=
  exists_resolve_iff.1 ((agree.resolves name among).1 (exists_resolve_iff.2 known))

/-- Registries that agree use the same ones of the names as keys. The parent key is in use in
both, with or without a container. -/
theorem Registry.Agree.contains_eq (agree : Registry.Agree names first second) {name : String}
    (among : name ∈ names) : first.contains name = second.contains name := by
  by_cases parent : name = first.parentKey
  · rw [contains, contains, decide_eq_true parent, decide_eq_true (parent.trans agree.parentKey),
      Bool.true_or, Bool.true_or]
  · have elsewhere : name ≠ second.parentKey := agree.parentKey ▸ parent
    rw [Bool.eq_iff_iff, contains_iff, contains_iff]
    simp only [parent, elsewhere, false_and, or_false]
    exact ⟨agree.knows among, agree.symm.knows among⟩

/-- A value that is one of the names, or no name at all, stands for the same number in metrics that
agree. -/
theorem Metrics.Agree.value?_eq (agree : Metrics.Agree names metrics other) {text : String}
    (among : isName text = true → text ∈ names) : metrics.value? text = other.value? text := by
  unfold value?
  by_cases named : isName text = true
  · rw [if_pos named, if_pos named, agree text (among named)]
  · rw [if_neg named, if_neg named]

/-! ## The words of a chain are mentions -/

namespace Chain

/-- An object is one of some names, or a number whose text is no name. -/
def Object.Within (names : List String) (object : Object) : Prop :=
  match object with
  | .name word => word ∈ names
  | .number .. => Metrics.isName object.text = false

/-- The object and the priority of a predicate are written with some names and numbers. -/
structure Predicate.Within (names : List String) (predicate : Predicate) : Prop where
  /-- The object is one of the names or a number. -/
  object : predicate.object.value.Within names
  /-- The priority is one of the names or a number. -/
  priority : ∀ object ∈ predicate.priority, object.value.Within names

/-- The text of an object that is a name is one of the names. -/
theorem Object.Within.mem_text {object : Object} (within : object.Within names)
    (named : Metrics.isName object.text = true) : object.text ∈ names := by
  cases object with
  | name name => exact within
  | number negative literal =>
    have unnamed : Metrics.isName (Object.number negative literal).text = false := within
    exact absurd (unnamed.symm.trans named) Bool.false_ne_true

/-- An object that is written as one token is a mention or a number. -/
theorem Object.within_of_token? {raw : String} {tokens : Tokens} {object : Spanned Object}
    {token : Spanned Token} (scanned : Token.scan raw = .ok tokens) (among : token ∈ tokens)
    (one : Object.token? object = some token) :
    object.value.Within (Constraint.mentions raw) := by
  have kind := (Token.scanFrom_eq_ok_iff.1 scanned).wellSpelled token among
  unfold Object.token? at one
  split at one
  · obtain rfl := Option.some.inj one
    exact Constraint.mem_mentions scanned among
  · obtain rfl := Option.some.inj one
    exact Token.isName_eq_false_of_number kind
  · contradiction

/-- A predicate of a text is written with mentions and numbers. -/
theorem Predicate.within_of_spelled {raw : String} {tokens part : Tokens} {predicate : Predicate}
    (scanned : Token.scan raw = .ok tokens) (spelled : predicate.Spelled part)
    (inside : part ⊆ tokens) : predicate.Within (Constraint.mentions raw) := by
  constructor
  case object =>
    cases spelled with
    | @parts relation object priority middle last spelled weighted =>
      cases spelled with
      | unsigned one => exact Object.within_of_token? scanned (inside (by simp)) one
      | negative literal sign span => exact Metrics.isName_minus literal
  case priority =>
    intro object written
    obtain ⟨token, among, one⟩ := spelled.exists_priority written
    exact Object.within_of_token? scanned (inside among) one

/-- The views and the predicates of a chain are written with some names and numbers. -/
structure Within (names : List String) (chain : Chain) : Prop where
  /-- Every view is one of the names. -/
  views : ∀ link ∈ chain.links, link.name.value ∈ names
  /-- Every predicate is written with the names and numbers. -/
  predicates : ∀ predicate ∈ chain.predicates, predicate.Within names

/-- A chain that is read is written with mentions and numbers. -/
theorem within_of_parse {raw : String} {chain : Chain} (parsed : parse raw = .ok chain) :
    chain.Within (Constraint.mentions raw) := by
  obtain ⟨tokens, scanned, spelled⟩ := parse_eq_ok_iff.1 parsed
  constructor
  case views =>
    intro link listed
    obtain ⟨view, linked, inside⟩ := spelled.exists_link listed
    exact Constraint.mem_mentions scanned (inside linked.mem_name)
  case predicates =>
    intro predicate listed
    obtain ⟨part, written, inside⟩ := spelled.exists_predicate listed
    exact Predicate.within_of_spelled scanned written inside

/-! ## A chain is compiled alike -/

/-- The predicate that a requirement is about, if it is about one. -/
def Requirement.predicate? : Requirement → Option Predicate
  | .gap _ _ _ => none
  | .spaced _ _ predicate => some predicate
  | .sized _ predicate => some predicate

/-- The requirements of a connection are about its predicates. -/
theorem Connection.mem_predicates {connection : Connection} {standard : Binary64}
    {before after : Anchor} {requirement : Requirement} {predicate : Predicate}
    (present : requirement ∈ connection.requirements standard before after)
    (about : requirement.predicate? = some predicate) : predicate ∈ connection.predicates := by
  cases connection with
  | flush =>
    obtain rfl := List.mem_singleton.1 present
    contradiction
  | standard =>
    obtain rfl := List.mem_singleton.1 present
    contradiction
  | explicit predicates =>
    obtain ⟨written, listed, rfl⟩ := List.mem_map.1 present
    obtain rfl := Option.some.inj about
    exact listed

/-- The requirements of a view's size are about its predicates. -/
theorem Link.mem_predicates {link : Link} {axis : Axis} {requirement : Requirement}
    {predicate : Predicate} (present : requirement ∈ link.requirements axis)
    (about : requirement.predicate? = some predicate) : predicate ∈ link.predicates := by
  obtain ⟨written, listed, rfl⟩ := List.mem_map.1 present
  obtain rfl := Option.some.inj about
  exact listed

/-- The requirements of a chain are about its predicates. -/
theorem mem_predicates_of_requirements {chain : Chain} {spacing : Spacing} {parentKey : String}
    {requirement : Requirement} {predicate : Predicate}
    (present : requirement ∈ chain.requirements spacing parentKey)
    (about : requirement.predicate? = some predicate) : predicate ∈ chain.predicates := by
  rcases origin_of_requirement present with
    ⟨connection, joined, _, _, _, gap, -⟩ | ⟨link, listed, size⟩
  · have written := Connection.mem_predicates gap about
    exact List.mem_append_left _ (List.mem_flatMap.2 ⟨connection, joined, written⟩)
  · have written := Link.mem_predicates size about
    exact List.mem_append_right _ (List.mem_flatMap.2 ⟨link, listed, written⟩)

/-- A predicate stands for the same priority with metrics that agree on its names. -/
theorem Predicate.Weighs.of_agree {predicate : Predicate} {priority : Option Priority}
    (weighs : predicate.Weighs metrics priority) (within : predicate.Within names)
    (agree : Metrics.Agree names metrics other) : predicate.Weighs other priority := by
  unfold Predicate.Weighs at weighs ⊢
  cases written : predicate.priority with
  | none =>
    rw [written] at weighs
    exact weighs
  | some object =>
    rw [written] at weighs
    obtain ⟨value, stands, inside, rfl⟩ := weighs
    refine ⟨value, ?_, inside, rfl⟩
    rw [← agree.value?_eq (within.priority object written).mem_text]
    exact stands

/-- An object is a key in both of two registries that agree on its name, or in neither. -/
theorem Object.Within.isKey_eq {object : Object} (within : object.Within names)
    (agree : Registry.Agree names first second) : object.isKey first = object.isKey second := by
  cases object with
  | name name => exact agree.contains_eq within
  | number => rfl

/-- A requirement is met by the same descriptors for registries and metrics that agree on the names
of its predicate. -/
theorem Requirement.Met.of_agree {requirement : Requirement} {descriptor : Descriptor}
    (met : requirement.Met first metrics descriptor)
    (within : ∀ predicate, requirement.predicate? = some predicate → predicate.Within names)
    (registries : Registry.Agree names first second)
    (values : Metrics.Agree names metrics other) : requirement.Met second other descriptor := by
  cases met with
  | gap => exact .gap
  | spaced relates valued weighs =>
    have words := within _ rfl
    refine .spaced relates ?_ (weighs.of_agree words values)
    rw [← values.value?_eq words.object.mem_text]
    exact valued
  | likeItem relates named used weighs =>
    have words := within _ rfl
    have listed := words.object
    rw [named] at listed
    refine .likeItem relates named ?_ (weighs.of_agree words values)
    rw [← registries.contains_eq listed]
    exact used
  | likeValue relates free valued weighs =>
    have words := within _ rfl
    refine .likeValue relates ?_ ?_ (weighs.of_agree words values)
    · rw [← words.object.isKey_eq registries]
      exact free
    · rw [← values.value?_eq words.object.mem_text]
      exact valued

/-- What a text compiles to as a chain, it compiles to for registries and metrics that agree on its
mentions. -/
theorem compile_of_agree {raw : String} {spacing : Spacing} {descriptors : List Descriptor}
    (compiled : compile raw spacing first metrics = .ok descriptors)
    (registries : Registry.Agree (Constraint.mentions raw) first second)
    (values : Metrics.Agree (Constraint.mentions raw) metrics other) :
    compile raw spacing second other = .ok descriptors := by
  obtain ⟨chain, parsed, views, stated⟩ := compile_eq_ok_iff.1 compiled
  have within := within_of_parse parsed
  refine compile_eq_ok_iff.2 ⟨chain, parsed, fun link listed => ?_, ?_⟩
  · exact registries.knows (within.views link listed) (views link listed)
  · rw [← registries.parentKey]
    have listed := (List.forall₂_and_left _ _).2 ⟨fun _ present => present, stated⟩
    refine listed.imp fun requirement descriptor ⟨present, met⟩ => ?_
    refine met.of_agree (fun predicate about => ?_) registries values
    exact within.predicates predicate (mem_predicates_of_requirements present about)

end Chain

/-! ## An equation is compiled alike -/

namespace Equation

/-- The keys and the values of an equation are some names and numbers. -/
structure Within (names : List String) (e : Equation) : Prop where
  /-- The first key is one of the names. -/
  first : e.first.key.value ∈ names
  /-- The second key is one of the names. -/
  second : e.second.key.value ∈ names
  /-- The value of the factor is one of the names or a number. -/
  factor : ∀ clause ∈ e.factor,
    Metrics.isName clause.value.value = true → clause.value.value ∈ names
  /-- The value of the term is one of the names or a number. -/
  term : ∀ clause ∈ e.term, Metrics.isName clause.value.value = true → clause.value.value ∈ names

/-- An equation that is read is written with mentions and numbers. -/
theorem within_of_parse {raw : String} {e : Equation} (parsed : parse raw = .ok e) :
    e.Within (Constraint.mentions raw) := by
  obtain ⟨⟨tokens, scanned, spelled⟩, -⟩ := parse_eq_ok_iff.1 parsed
  have keys := mem_of_spelled spelled
  have value {word : Spanned String}
      (written : e.factor.map (·.value) = some word ∨ e.term.map (·.value) = some word)
      (named : Metrics.isName word.value = true) : word.value ∈ Constraint.mentions raw := by
    obtain ⟨token, among, kind⟩ := spelled.exists_value written
    cases kind with
    | name name span => exact Constraint.mem_mentions scanned among
    | number literal span =>
      have number := (Token.scanFrom_eq_ok_iff.1 scanned).wellSpelled _ among
      exact absurd ((Token.isName_eq_false_of_number number).symm.trans named)
        Bool.false_ne_true
  constructor
  case first => exact Constraint.mem_mentions scanned (keys _ (by simp))
  case second => exact Constraint.mem_mentions scanned (keys _ (by simp))
  case factor =>
    intro clause written
    exact value (.inl (Option.map_eq_some_iff.2 ⟨clause, written, rfl⟩))
  case term =>
    intro clause written
    exact value (.inr (Option.map_eq_some_iff.2 ⟨clause, written, rfl⟩))

/-- A resolvable equation is resolvable for a registry and metrics that agree on its names. -/
theorem Resolvable.of_agree {e : Equation} (resolvable : e.Resolvable first metrics)
    (within : e.Within names) (registries : Registry.Agree names first second)
    (values : Metrics.Agree names metrics other) : e.Resolvable second other := by
  constructor
  case firstKey => exact registries.knows within.first resolvable.firstKey
  case secondKey => exact registries.knows within.second resolvable.secondKey
  case firstEdge => exact resolvable.firstEdge
  case secondEdge => exact resolvable.secondEdge
  case relation => exact resolvable.relation
  case factor =>
    intro clause written
    rw [← values.value?_eq (within.factor clause written)]
    exact resolvable.factor clause written
  case term =>
    intro clause written
    rw [← values.value?_eq (within.term clause written)]
    exact resolvable.term clause written

/-- A factor stands for the same multiplier when its value stands for the same number. -/
theorem Scales.of_agree {factor : Option (Clause FactorOperator)} {multiplier : Binary64}
    (scales : Scales metrics factor multiplier)
    (same : ∀ clause ∈ factor,
      metrics.value? clause.value.value = other.value? clause.value.value) :
    Scales other factor multiplier := by
  cases scales with
  | absent => exact .absent
  | times stands => exact .times ((same _ rfl).symm.trans stands)
  | divided stands nonzero => exact .divided ((same _ rfl).symm.trans stands) nonzero

/-- A term stands for the same constant when its value stands for the same number. -/
theorem Shifts.of_agree {term : Option (Clause TermOperator)} {constant : Binary64}
    (shifts : Shifts metrics term constant)
    (same : ∀ clause ∈ term,
      metrics.value? clause.value.value = other.value? clause.value.value) :
    Shifts other term constant := by
  cases shifts with
  | absent => exact .absent
  | plus stands => exact .plus ((same _ rfl).symm.trans stands)
  | minus stands => exact .minus ((same _ rfl).symm.trans stands)

/-- What a text compiles to as an equation, it compiles to for registries and metrics that agree on
its mentions. -/
theorem compile_of_agree {raw : String} {descriptor : Descriptor}
    (compiled : compile raw first metrics = .ok descriptor)
    (registries : Registry.Agree (Constraint.mentions raw) first second)
    (values : Metrics.Agree (Constraint.mentions raw) metrics other) :
    compile raw second other = .ok descriptor := by
  obtain ⟨e, parsed, resolvable, describes⟩ := compile_eq_ok_iff.1 compiled
  have within := within_of_parse parsed
  refine compile_eq_ok_iff.2 ⟨e, parsed, resolvable.of_agree within registries values, ?_⟩
  exact { describes with
    multiplier := describes.multiplier.of_agree fun clause written =>
      values.value?_eq (within.factor clause written)
    constant := describes.constant.of_agree fun clause written =>
      values.value?_eq (within.term clause written) }

end Equation

/-! ## Constraint text is compiled alike -/

/-- A registration of an unmentioned key or of a key that was bound changes no agreement. -/
theorem Registry.agree_of_register {registry after : Registry} {key : String} {node : Node}
    (done : registry.register key node = .ok after)
    (unrelated : key ∉ names ∨ ∃ bound, registry.resolve key = .ok bound) :
    Registry.Agree names after registry := by
  obtain ⟨sameKey, sameContainer, resolves, kept⟩ := resolve_of_register done
  refine ⟨sameKey, fun name among => ?_⟩
  by_cases same : name = key
  · obtain rfl := same
    exact iff_of_true ⟨node, resolves⟩ (unrelated.resolve_left (not_not_intro among))
  · obtain ⟨free, rfl⟩ := register_eq_ok_iff.1 done
    rw [exists_resolve_iff, exists_resolve_iff, Knows, Knows]
    simp only [KeyMap.get?_insert, if_neg same]

/-- A metric that is not among some names changes nothing for them. -/
theorem Metrics.agree_of_insert {name : String} (unrelated : name ∉ names) (value : Binary64) :
    Metrics.Agree names (metrics.insert name value) metrics := by
  intro mention among
  have different : mention ≠ name := fun same => unrelated (same ▸ among)
  rw [KeyMap.get?_insert, if_neg different]

namespace Constraint

/-- What a text compiles to, it compiles to for registries and metrics that agree on its
mentions. -/
theorem compile_of_agree {raw : String} {spacing : Spacing} {priority : Option Priority}
    {compiled : List Descriptor}
    (success : compile raw spacing first metrics priority = .ok compiled)
    (registries : Registry.Agree (mentions raw) first second)
    (values : Metrics.Agree (mentions raw) metrics other) :
    compile raw spacing second other priority = .ok compiled := by
  obtain ⟨written, lowered, rfl⟩ := map_eq_ok_iff.1 success
  refine map_eq_ok_iff.2 ⟨written, ?_, rfl⟩
  unfold descriptors at lowered ⊢
  split
  · rename_i equation
    rw [if_pos equation] at lowered
    obtain ⟨single, found, rfl⟩ := map_eq_ok_iff.1 lowered
    exact map_eq_ok_iff.2 ⟨single, Equation.compile_of_agree found registries values, rfl⟩
  · rename_i chain
    rw [if_neg chain, mapError_eq_ok_iff] at lowered
    exact mapError_eq_ok_iff.2 (Chain.compile_of_agree lowered registries values)

/-- Registries and metrics that agree on the mentions of a text compile it to the same descriptors,
or both refuse it. -/
theorem toOption_compile_of_agree (raw : String) (spacing : Spacing) (priority : Option Priority)
    (registries : Registry.Agree (mentions raw) first second)
    (values : Metrics.Agree (mentions raw) metrics other) :
    (compile raw spacing first metrics priority).toOption =
      (compile raw spacing second other priority).toOption :=
  toOption_eq_of_ok_iff fun _ => ⟨(compile_of_agree · registries values),
    (compile_of_agree · registries.symm values.symm)⟩

/-- Compiling depends only on what a text mentions. Whatever the text and the priority, registries
with the same parent key in which the same mentions stand for a node, and metrics that agree on the
mentions, compile it to the same descriptors, or both refuse it. The parent key may even stand for a
container in only one of them, unless it is mentioned.

So a view or guide under a key that is not mentioned, another node under a key that was bound, and a
metric that is not mentioned never change the compiled constraints. -/
theorem compile_depends_on_mentions (raw : String) (spacing : Spacing)
    (priority : Option Priority) :
    (∀ (first second : Registry) (metrics other : Metrics),
      Registry.Agree (mentions raw) first second →
      Metrics.Agree (mentions raw) metrics other →
      (compile raw spacing first metrics priority).toOption =
        (compile raw spacing second other priority).toOption) ∧
    (∀ (registry after : Registry) (metrics : Metrics) (key : String) (node : Node),
      registry.register key node = .ok after →
      (key ∉ mentions raw ∨ ∃ bound, registry.resolve key = .ok bound) →
      (compile raw spacing after metrics priority).toOption =
        (compile raw spacing registry metrics priority).toOption) ∧
    ∀ (registry : Registry) (metrics : Metrics) (name : String) (value : Binary64),
      name ∉ mentions raw →
      (compile raw spacing registry (metrics.insert name value) priority).toOption =
        (compile raw spacing registry metrics priority).toOption := by
  refine ⟨fun first second metrics other registries values => ?_,
    fun registry after metrics key node done unrelated => ?_,
    fun registry metrics name value unrelated => ?_⟩
  · exact toOption_compile_of_agree raw spacing priority registries values
  · exact toOption_compile_of_agree raw spacing priority
      (Registry.agree_of_register done unrelated) fun _ _ => rfl
  · exact toOption_compile_of_agree raw spacing priority
      ⟨rfl, fun _ _ => .rfl⟩ (Metrics.agree_of_insert unrelated value)

/-- A container appears, a view becomes a guide, and a key and a metric that are not mentioned are
bound. A chain still compares its size with the metric it mentions and starts at the edge of the
parent key. -/
theorem compile_depends_on_mentions_of_rebound :
    let raw := "H:|-[a(gap)]-[b]"
    let registry : Registry := ⟨"parent", none, .ofList [("a", .view ⟨1⟩), ("b", .view ⟨2⟩)]⟩
    let rebound : Registry := ⟨"parent", some ⟨0⟩,
      .ofList [("a", .guide ⟨7⟩), ("b", .view ⟨1⟩), ("margin", .view ⟨4⟩)]⟩
    let registered : Registry := ⟨"parent", none,
      .ofList [("a", .view ⟨1⟩), ("b", .view ⟨2⟩), ("margin", .guide ⟨0⟩)]⟩
    let metrics : Metrics := .ofList [("gap", 30)]
    let compiled : List Descriptor := [
      { first := ⟨"a", .leading⟩, relation := .equal, second := some ⟨"parent", .leading⟩,
        constant := 20 },
      { first := ⟨"a", .width⟩, relation := .equal, second := none, constant := 30 },
      { first := ⟨"b", .leading⟩, relation := .equal, second := some ⟨"a", .trailing⟩,
        constant := 8 }]
    mentions raw = ["a", "gap", "b"] ∧
      (compile raw ⟨8, 20⟩ registry metrics none).toOption = some compiled ∧
      (compile raw ⟨8, 20⟩ rebound metrics none).toOption = some compiled ∧
      registry.register "margin" (.guide ⟨0⟩) = .ok registered ∧
      (compile raw ⟨8, 20⟩ registered metrics none).toOption = some compiled ∧
      (compile raw ⟨8, 20⟩ registry (metrics.insert "margin" 5) none).toOption =
        some compiled := by
  intro raw registry rebound registered metrics compiled
  have mentioned : mentions raw = ["a", "gap", "b"] := by decide +kernel
  have here : (compile raw ⟨8, 20⟩ registry metrics none).toOption = some compiled := by
    decide +kernel
  have unrelated : "margin" ∉ mentions raw := by
    rw [mentioned]
    decide
  have agree : Registry.Agree (mentions raw) registry rebound := by
    refine ⟨rfl, ?_⟩
    simp only [mentioned, List.forall_mem_cons]
    refine ⟨iff_of_true ⟨_, rfl⟩ ⟨_, rfl⟩, ?_, iff_of_true ⟨_, rfl⟩ ⟨_, rfl⟩, nofun⟩
    exact iff_of_false (fun ⟨_, found⟩ => nomatch found) (fun ⟨_, found⟩ => nomatch found)
  have done : registry.register "margin" (.guide ⟨0⟩) = .ok registered := rfl
  obtain ⟨agreeing, registering, inserting⟩ := compile_depends_on_mentions raw ⟨8, 20⟩ none
  refine ⟨mentioned, here, ?_, done, ?_, ?_⟩
  · rw [← agreeing registry rebound metrics metrics agree fun _ _ => rfl]
    exact here
  · rw [registering registry registered metrics "margin" (.guide ⟨0⟩) done (.inl unrelated)]
    exact here
  · rw [inserting registry metrics "margin" 5 unrelated]
    exact here

end Constraint

end ViewLayout
