import ViewLayout.Proofs.Chain.Requirements
import ViewLayout.Proofs.Chain.Spelling
import ViewLayout.Proofs.Token.Alike

/-!
# Chains up to the places of their parts

Tokens that are alike spell the same chain, but for the places of its parts; and what a chain is
compiled to does not depend on places. `unplaced` forgets them: two parts are the same up to their
places when they are equal without them.
-/

namespace ViewLayout.Chain

open ViewLayout.Number ViewLayout.Text ViewLayout.Grammar

/-- A predicate without the places of its parts. -/
def Predicate.unplaced (predicate : Predicate) : Predicate :=
  ⟨predicate.relation.map Spanned.unplaced, predicate.object.unplaced,
    predicate.priority.map Spanned.unplaced⟩

/-- A connection without the places of its parts. -/
def Connection.unplaced : Connection → Connection
  | .flush => .flush
  | .standard => .standard
  | .explicit predicates => .explicit (predicates.map Predicate.unplaced)

/-- A view without the places of its parts. -/
def Link.unplaced (link : Link) : Link :=
  ⟨link.name.unplaced, link.predicates.map Predicate.unplaced⟩

/-- A connection and the view after it, without the places of their parts. -/
def unplacedStep (step : Connection × Link) : Connection × Link :=
  (step.1.unplaced, step.2.unplaced)

/-- A chain without the places of its parts. -/
def unplaced (chain : Chain) : Chain :=
  ⟨chain.axis, chain.leading.map Connection.unplaced, chain.first.unplaced,
    chain.rest.map unplacedStep, chain.trailing.map Connection.unplaced⟩

/-! ## Tokens that are alike spell the same parts -/

/-- The same token elsewhere is that of the same object elsewhere. -/
theorem Object.exists_token? {object : Spanned Object} {token other : Spanned Token}
    (one : Object.token? object = some token) (same : token.value = other.value) :
    ∃ moved, Object.token? moved = some other ∧ moved.unplaced = object.unplaced := by
  obtain ⟨kind, place⟩ := other
  unfold Object.token? at one
  split at one
  · rename_i word span
    obtain rfl := Option.some.inj one
    obtain rfl : .ident word = kind := same
    exact ⟨⟨.name word, place⟩, rfl, rfl⟩
  · rename_i literal span
    obtain rfl := Option.some.inj one
    obtain rfl : .number literal = kind := same
    exact ⟨⟨.number false literal, place⟩, rfl, rfl⟩
  · contradiction

/-- Tokens that are alike spell the same object. -/
theorem Object.Spelled.exists_moved {object : Spanned Object} {word other : Tokens}
    (spelled : Object.Spelled object word) (alike : Alike word other) :
    ∃ moved, Object.Spelled moved other ∧ moved.unplaced = object.unplaced := by
  cases spelled with
  | unsigned one =>
    obtain ⟨token, rest, same, ended, rfl⟩ := List.forall₂_cons_left_iff.1 alike
    obtain rfl := Alike.of_nil ended
    obtain ⟨moved, spelled, equal⟩ := Object.exists_token? one same
    exact ⟨moved, .unsigned spelled, equal⟩
  | negative literal sign span =>
    obtain ⟨newSign, rest, rfl, later⟩ := alike.of_cons
    obtain ⟨newSpan, none, rfl, ended⟩ := later.of_cons
    obtain rfl := ended.of_nil
    exact ⟨_, .negative literal newSign newSpan, rfl⟩

/-- Tokens that are alike spell the same relation, if any. -/
theorem exists_relationTokens {relation : Option (Spanned String)} {other : Tokens}
    (alike : Alike (relationTokens relation) other) :
    ∃ moved, other = relationTokens moved ∧
      moved.map Spanned.unplaced = relation.map Spanned.unplaced := by
  cases relation with
  | none =>
    obtain rfl := alike.of_nil
    exact ⟨none, rfl, rfl⟩
  | some symbol =>
    obtain ⟨place, rest, rfl, later⟩ := alike.of_cons
    obtain rfl := later.of_nil
    exact ⟨some ⟨symbol.value, place⟩, rfl, rfl⟩

/-- Tokens that are alike spell the same priority, if any. -/
theorem PrioritySpelled.exists_moved {priority : Option (Spanned Object)} {word other : Tokens}
    (spelled : PrioritySpelled priority word) (alike : Alike word other) :
    ∃ moved, PrioritySpelled moved other ∧
      moved.map Spanned.unplaced = priority.map Spanned.unplaced := by
  cases spelled with
  | absent =>
    obtain rfl := alike.of_nil
    exact ⟨none, .absent, rfl⟩
  | written sign one =>
    obtain ⟨newSign, rest, rfl, later⟩ := alike.of_cons
    obtain ⟨token, none, same, ended, rfl⟩ := List.forall₂_cons_left_iff.1 later
    obtain rfl := Alike.of_nil ended
    obtain ⟨moved, spelled, equal⟩ := Object.exists_token? one same
    exact ⟨some moved, .written newSign spelled, congrArg some equal⟩

/-- Tokens that are alike spell the same predicate. -/
theorem Predicate.Spelled.exists_moved {predicate : Predicate} {word other : Tokens}
    (spelled : predicate.Spelled word) (alike : Alike word other) :
    ∃ moved : Predicate, moved.Spelled other ∧ moved.unplaced = predicate.unplaced := by
  cases spelled with
  | parts spelled weighted =>
    obtain ⟨_, rest, rfl, related, later⟩ := alike.of_append
    obtain ⟨_, _, rfl, objects, weights⟩ := later.of_append
    obtain ⟨relation, rfl, sameRelation⟩ := exists_relationTokens related
    obtain ⟨object, objectSpelled, sameObject⟩ := spelled.exists_moved objects
    obtain ⟨priority, prioritySpelled, samePriority⟩ := weighted.exists_moved weights
    refine ⟨_, .parts objectSpelled prioritySpelled, ?_⟩
    rw [unplaced, sameRelation, sameObject, samePriority, unplaced]

/-- Tokens that are alike spell the same predicates. -/
theorem ListSpelled.exists_moved {predicates : List Predicate} {word other : Tokens}
    (spelled : ListSpelled predicates word) (alike : Alike word other) :
    ∃ moved, ListSpelled moved other ∧
      moved.map Predicate.unplaced = predicates.map Predicate.unplaced := by
  induction spelled generalizing other with
  | one spelled =>
    obtain ⟨moved, written, same⟩ := spelled.exists_moved alike
    exact ⟨[moved], .one written, congrArg ([·]) same⟩
  | more spelled comma others ih =>
    obtain ⟨_, _, rfl, here, later⟩ := alike.of_append
    obtain ⟨newComma, _, rfl, rest⟩ := later.of_cons
    obtain ⟨moved, written, same⟩ := spelled.exists_moved here
    obtain ⟨more, listed, equal⟩ := ih rest
    refine ⟨_, .more written newComma listed, ?_⟩
    rw [List.map_cons, same, equal, List.map_cons]

/-- Tokens that are alike spell the same predicates in parentheses. -/
theorem GroupSpelled.exists_moved {predicates : List Predicate} {word other : Tokens}
    (spelled : GroupSpelled predicates word) (alike : Alike word other) :
    ∃ moved, GroupSpelled moved other ∧
      moved.map Predicate.unplaced = predicates.map Predicate.unplaced := by
  cases spelled with
  | enclosed opening closing spelled =>
    obtain ⟨newOpening, _, rfl, later⟩ := alike.of_cons
    obtain ⟨inside, newClosing, rfl, listed⟩ := later.of_concat
    obtain ⟨moved, written, same⟩ := spelled.exists_moved listed
    exact ⟨moved, .enclosed newOpening newClosing written, same⟩

/-- Tokens that are alike spell the same connection. -/
theorem Connection.Spelled.exists_moved {connection : Connection} {word other : Tokens}
    (spelled : connection.Spelled word) (alike : Alike word other) :
    ∃ moved : Connection, moved.Spelled other ∧ moved.unplaced = connection.unplaced := by
  cases spelled with
  | flush =>
    obtain rfl := alike.of_nil
    exact ⟨.flush, .flush, rfl⟩
  | standard dash =>
    obtain ⟨newDash, _, rfl, ended⟩ := alike.of_cons
    obtain rfl := ended.of_nil
    exact ⟨.standard, .standard newDash, rfl⟩
  | explicit before after group =>
    obtain ⟨newBefore, _, rfl, later⟩ := alike.of_cons
    obtain ⟨inside, newAfter, rfl, grouped⟩ := later.of_concat
    obtain ⟨moved, written, same⟩ := group.exists_moved grouped
    exact ⟨_, .explicit newBefore newAfter written, congrArg Connection.explicit same⟩
  | bare before after one =>
    obtain ⟨newBefore, _, rfl, later⟩ := alike.of_cons
    obtain ⟨token, _, same, last, rfl⟩ := List.forall₂_cons_left_iff.1 later
    obtain ⟨newAfter, _, rfl, ended⟩ := Alike.of_cons last
    obtain rfl := ended.of_nil
    obtain ⟨moved, spelled, equal⟩ := Object.exists_token? one same
    refine ⟨_, .bare newBefore newAfter spelled, ?_⟩
    simp only [unplaced, Predicate.simple, Predicate.unplaced, List.map_cons, List.map_nil, equal]

/-- Tokens that are alike spell the same view. -/
theorem Link.Spelled.exists_moved {link : Link} {word other : Tokens}
    (spelled : link.Spelled word) (alike : Alike word other) :
    ∃ moved : Link, moved.Spelled other ∧ moved.unplaced = link.unplaced := by
  cases spelled with
  | plain name opening closing =>
    obtain ⟨newOpening, _, rfl, later⟩ := alike.of_cons
    obtain ⟨place, _, rfl, last⟩ := later.of_cons
    obtain ⟨newClosing, _, rfl, ended⟩ := last.of_cons
    obtain rfl := ended.of_nil
    exact ⟨_, .plain ⟨name.value, place⟩ newOpening newClosing, rfl⟩
  | sized name opening closing group =>
    obtain ⟨newOpening, _, rfl, later⟩ := alike.of_cons
    obtain ⟨place, _, rfl, last⟩ := later.of_cons
    obtain ⟨inside, newClosing, rfl, grouped⟩ := last.of_concat
    obtain ⟨moved, written, same⟩ := group.exists_moved grouped
    refine ⟨_, .sized ⟨name.value, place⟩ newOpening newClosing written, ?_⟩
    rw [unplaced, same]
    rfl

/-- Tokens that are alike spell the same later views. -/
theorem StepsSpelled.exists_moved {steps : List (Connection × Link)} {word other : Tokens}
    (spelled : StepsSpelled steps word) (alike : Alike word other) :
    ∃ moved, StepsSpelled moved other ∧ moved.map unplacedStep = steps.map unplacedStep := by
  induction spelled generalizing other with
  | none =>
    obtain rfl := alike.of_nil
    exact ⟨[], .none, rfl⟩
  | more joined linked others ih =>
    obtain ⟨_, _, rfl, gaps, later⟩ := alike.of_append
    obtain ⟨_, _, rfl, views, rest⟩ := later.of_append
    obtain ⟨connection, connected, sameGap⟩ := joined.exists_moved gaps
    obtain ⟨link, bracketed, sameView⟩ := linked.exists_moved views
    obtain ⟨steps, followed, sameSteps⟩ := ih rest
    refine ⟨_, .more connected bracketed followed, ?_⟩
    rw [List.map_cons, List.map_cons, unplacedStep, unplacedStep, sameGap, sameView, sameSteps]

/-- Tokens that are alike spell the same axis, if any. -/
theorem AxisSpelled.of_alike {axis : Option Axis} {word other : Tokens}
    (spelled : AxisSpelled axis word) (alike : Alike word other) : AxisSpelled axis other := by
  cases spelled with
  | absent =>
    obtain rfl := alike.of_nil
    exact .absent
  | horizontal tag =>
    obtain ⟨newTag, _, rfl, ended⟩ := alike.of_cons
    obtain rfl := ended.of_nil
    exact .horizontal newTag
  | vertical tag =>
    obtain ⟨newTag, _, rfl, ended⟩ := alike.of_cons
    obtain rfl := ended.of_nil
    exact .vertical newTag

/-- Tokens that are alike spell the same leading edge, if any. -/
theorem LeadingSpelled.exists_moved {leading : Option Connection} {word other : Tokens}
    (spelled : LeadingSpelled leading word) (alike : Alike word other) :
    ∃ moved, LeadingSpelled moved other ∧
      moved.map Connection.unplaced = leading.map Connection.unplaced := by
  cases spelled with
  | absent =>
    obtain rfl := alike.of_nil
    exact ⟨none, .absent, rfl⟩
  | edge pipe joined =>
    obtain ⟨newPipe, _, rfl, gaps⟩ := alike.of_cons
    obtain ⟨connection, connected, same⟩ := joined.exists_moved gaps
    exact ⟨_, .edge newPipe connected, congrArg some same⟩

/-- Tokens that are alike spell the same trailing edge, if any. -/
theorem TrailingSpelled.exists_moved {trailing : Option Connection} {word other : Tokens}
    (spelled : TrailingSpelled trailing word) (alike : Alike word other) :
    ∃ moved, TrailingSpelled moved other ∧
      moved.map Connection.unplaced = trailing.map Connection.unplaced := by
  cases spelled with
  | absent =>
    obtain rfl := alike.of_nil
    exact ⟨none, .absent, rfl⟩
  | edge pipe joined =>
    obtain ⟨gap, newPipe, rfl, gaps⟩ := alike.of_concat
    obtain ⟨connection, connected, same⟩ := joined.exists_moved gaps
    exact ⟨_, .edge newPipe connected, congrArg some same⟩

/-- Tokens that are alike spell the same chain. -/
theorem Spelled.exists_moved {chain : Chain} {word other : Tokens} (spelled : chain.Spelled word)
    (alike : Alike word other) :
    ∃ moved : Chain, moved.Spelled other ∧ moved.unplaced = chain.unplaced := by
  cases spelled with
  | parts tagged led linked followed trailed =>
    obtain ⟨_, _, rfl, tags, afterTag⟩ := alike.of_append
    obtain ⟨_, _, rfl, edges, afterEdge⟩ := afterTag.of_append
    obtain ⟨_, _, rfl, views, afterView⟩ := afterEdge.of_append
    obtain ⟨_, _, rfl, later, last⟩ := afterView.of_append
    obtain ⟨leading, newLed, sameLeading⟩ := led.exists_moved edges
    obtain ⟨first, newLinked, sameFirst⟩ := linked.exists_moved views
    obtain ⟨rest, newFollowed, sameRest⟩ := followed.exists_moved later
    obtain ⟨trailing, newTrailed, sameTrailing⟩ := trailed.exists_moved last
    refine ⟨_, .parts (tagged.of_alike tags) newLed newLinked newFollowed newTrailed, ?_⟩
    rw [unplaced, sameLeading, sameFirst, sameRest, sameTrailing, unplaced]

/-! ## Descriptors do not depend on places -/

/-- A requirement without the places of its parts. -/
def Requirement.unplaced : Requirement → Requirement
  | .gap first second size => .gap first second size
  | .spaced first second predicate => .spaced first second predicate.unplaced
  | .sized item predicate => .sized item predicate.unplaced

/-- The relation a predicate stands for does not depend on places. -/
theorem Predicate.relates_unplaced_iff {predicate : Predicate} {relation : Relation} :
    predicate.unplaced.Relates relation ↔ predicate.Relates relation := by
  unfold Relates Predicate.unplaced
  cases predicate.relation with
  | none => rfl
  | some symbol => rfl

/-- The priority a predicate stands for does not depend on places. -/
theorem Predicate.weighs_unplaced_iff {metrics : Metrics} {predicate : Predicate}
    {priority : Option Priority} :
    predicate.unplaced.Weighs metrics priority ↔ predicate.Weighs metrics priority := by
  unfold Weighs Predicate.unplaced
  cases predicate.priority with
  | none => rfl
  | some object => rfl

/-- The descriptor that states a requirement does not depend on places. -/
theorem Requirement.met_unplaced_iff {registry : Registry} {metrics : Metrics}
    {requirement : Requirement} {descriptor : Descriptor} :
    requirement.unplaced.Met registry metrics descriptor ↔
      requirement.Met registry metrics descriptor := by
  cases requirement with
  | gap first second size => rfl
  | spaced first second predicate =>
    simp only [Requirement.unplaced, met_spaced_iff, Predicate.relates_unplaced_iff,
      Predicate.weighs_unplaced_iff]
    rfl
  | sized item predicate =>
    constructor
    · intro met
      cases met with
      | likeItem relates named used weighs =>
        exact .likeItem (Predicate.relates_unplaced_iff.1 relates) named used
          (Predicate.weighs_unplaced_iff.1 weighs)
      | likeValue relates free valued weighs =>
        exact .likeValue (Predicate.relates_unplaced_iff.1 relates) free valued
          (Predicate.weighs_unplaced_iff.1 weighs)
    · intro met
      cases met with
      | likeItem relates named used weighs =>
        exact .likeItem (Predicate.relates_unplaced_iff.2 relates) named used
          (Predicate.weighs_unplaced_iff.2 weighs)
      | likeValue relates free valued weighs =>
        exact .likeValue (Predicate.relates_unplaced_iff.2 relates) free valued
          (Predicate.weighs_unplaced_iff.2 weighs)

/-- What a connection requires, without places, is what it requires without its places. -/
theorem Connection.requirements_unplaced (connection : Connection) (standard : Binary64)
    (first second : Anchor) :
    connection.unplaced.requirements standard first second =
      (connection.requirements standard first second).map Requirement.unplaced := by
  cases connection with
  | flush => rfl
  | standard => rfl
  | explicit predicates =>
    simp only [unplaced, requirements, List.map_map]
    rfl

/-- What a view requires, without places, is what it requires without its places. -/
theorem Link.requirements_unplaced (link : Link) (axis : Axis) :
    link.unplaced.requirements axis = (link.requirements axis).map Requirement.unplaced := by
  simp only [unplaced, requirements, List.map_map]
  rfl

/-- What a later view requires, without places, is what it requires without its places. -/
theorem joint_unplaced (axis : Axis) (standard : Binary64) (previous : Link)
    (step : Connection × Link) :
    joint axis standard previous.unplaced (unplacedStep step) =
      (joint axis standard previous step).map Requirement.unplaced := by
  rw [joint, unplacedStep, Connection.requirements_unplaced, Link.requirements_unplaced, joint,
    List.map_append]
  rfl

/-- The views of a chain without places. -/
theorem links_unplaced (chain : Chain) : chain.unplaced.links = chain.links.map Link.unplaced := by
  simp only [links, unplaced, List.map_cons, List.map_map]
  rfl

/-- The last view of a chain without places. -/
theorem last_unplaced (chain : Chain) : chain.unplaced.last = chain.last.unplaced := by
  simp only [last, unplaced, List.getLast?_map, Option.map_map]
  cases chain.rest.getLast? with
  | none => rfl
  | some step => rfl

/-- What a chain requires, without places, is what it requires without its places. -/
theorem requirements_unplaced (chain : Chain) (spacing : Spacing) (parentKey : String) :
    chain.unplaced.requirements spacing parentKey =
      (chain.requirements spacing parentKey).map Requirement.unplaced := by
  have toEdge (connection : Option Connection) (first second : Anchor) :
      ((connection.map Connection.unplaced).toList.flatMap fun written =>
          written.requirements spacing.superview first second) =
        (connection.toList.flatMap fun written =>
          written.requirements spacing.superview first second).map Requirement.unplaced := by
    cases connection with
    | none => rfl
    | some written =>
      simp only [Option.map_some, Option.toList_some, List.flatMap_singleton,
        Connection.requirements_unplaced]
  have later (axis : Axis) :
      ((chain.links.map Link.unplaced).zip (chain.rest.map unplacedStep)).flatMap
          (fun pair => joint axis spacing.sibling pair.1 pair.2) =
        ((chain.links.zip chain.rest).flatMap fun pair =>
          joint axis spacing.sibling pair.1 pair.2).map Requirement.unplaced := by
    rw [List.zip_map, List.flatMap_map, List.map_flatMap]
    exact List.flatMap_congr fun pair _ => joint_unplaced axis spacing.sibling pair.1 pair.2
  simp only [requirements, List.map_append, links_unplaced, last_unplaced, ← toEdge, ← later,
    ← Link.requirements_unplaced]
  rfl

/-- A chain is lowered to the same descriptors wherever its parts stand. -/
theorem lower_unplaced_eq_ok_iff {chain : Chain} {spacing : Spacing} {registry : Registry}
    {metrics : Metrics} {descriptors : List Descriptor} :
    chain.unplaced.lower spacing registry metrics = .ok descriptors ↔
      chain.lower spacing registry metrics = .ok descriptors := by
  rw [lower_eq_ok_iff, lower_eq_ok_iff, links_unplaced, List.forall_mem_map,
    requirements_unplaced, List.forall₂_map_left_iff]
  simp only [Requirement.met_unplaced_iff]
  rfl

/-- Texts with tokens that are alike are compiled to the same descriptors as chains. -/
theorem compile_of_alike {first second : String} {spacing : Spacing} {registry : Registry}
    {metrics : Metrics} {tokens others : Tokens} {descriptors : List Descriptor}
    (scanned : Token.scan first = .ok tokens) (moved : Token.scan second = .ok others)
    (alike : Alike tokens others)
    (compiled : compile first spacing registry metrics = .ok descriptors) :
    compile second spacing registry metrics = .ok descriptors := by
  unfold compile at compiled ⊢
  split at compiled
  · contradiction
  · rename_i chain parsed
    obtain ⟨word, found, spelled⟩ := parse_eq_ok_iff.1 parsed
    obtain rfl := Except.ok.inj (scanned.symm.trans found)
    obtain ⟨other, respelled, same⟩ := spelled.exists_moved alike
    have reparsed : parse second = .ok other := parse_eq_ok_iff.2 ⟨others, moved, respelled⟩
    rw [reparsed]
    rw [← lower_unplaced_eq_ok_iff, ← same, lower_unplaced_eq_ok_iff] at compiled
    exact compiled

end ViewLayout.Chain
