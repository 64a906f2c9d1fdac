import ViewLayout.Chain
import ViewLayout.Proofs.Phrases

/-!
# How a chain is spelled

`Chain.Spelled` lists the tokens a chain is written with, part by part in text order and with
their places. A gap of one object without a sign has two spellings, with parentheses and without;
every other part has one. A chain is read from a text exactly when the tokens of the text spell
it: nothing written is lost, and nothing is read that was not written.

For each reader two lemmas lead there. What it takes spells what it gives, and it takes every
spelling that is followed by something the spelling cannot go on with.
-/

namespace ViewLayout.Chain

open ViewLayout.Text ViewLayout.Grammar ViewLayout.Outcome

/-- The token that spells an object without a sign. -/
def Object.token? : Spanned Object → Option (Spanned Token)
  | ⟨.name word, span⟩ => some ⟨.ident word, span⟩
  | ⟨.number false literal, span⟩ => some ⟨.number literal, span⟩
  | ⟨.number true _, _⟩ => none

/-- The tokens of an object: one, or a minus and a number. -/
inductive Object.Spelled : Spanned Object → Tokens → Prop where
  | unsigned {object : Spanned Object} {token : Spanned Token}
      (spelled : Object.token? object = some token) : Spelled object [token]
  | negative (literal : String) (sign span : Span) :
      Spelled ⟨.number true literal, sign.through span⟩
        [⟨.mark .minus, sign⟩, ⟨.number literal, span⟩]

/-- The token of a relation, if one is written. -/
def relationTokens (relation : Option (Spanned String)) : Tokens :=
  relation.toList.map fun symbol => ⟨.relation symbol.value, symbol.span⟩

/-- The tokens of a priority, if one is written. -/
inductive PrioritySpelled : Option (Spanned Object) → Tokens → Prop where
  | absent : PrioritySpelled none []
  | written {object : Spanned Object} {token : Spanned Token} (sign : Span)
      (spelled : Object.token? object = some token) :
      PrioritySpelled (some object) [⟨.mark .atSign, sign⟩, token]

/-- The tokens of a predicate: its relation, its object, its priority. -/
inductive Predicate.Spelled : Predicate → Tokens → Prop where
  | parts {relation : Option (Spanned String)} {object : Spanned Object}
      {priority : Option (Spanned Object)} {middle last : Tokens}
      (spelled : Object.Spelled object middle) (weighted : PrioritySpelled priority last) :
      Spelled ⟨relation, object, priority⟩ (relationTokens relation ++ (middle ++ last))

/-- The tokens of one or more predicates with commas between them. -/
inductive ListSpelled : List Predicate → Tokens → Prop where
  | one {predicate : Predicate} {word : Tokens} (spelled : predicate.Spelled word) :
      ListSpelled [predicate] word
  | more {predicate : Predicate} {predicates : List Predicate} {word later : Tokens}
      (spelled : predicate.Spelled word) (comma : Span)
      (others : ListSpelled predicates later) :
      ListSpelled (predicate :: predicates) (word ++ ⟨.mark .comma, comma⟩ :: later)

/-- The tokens of predicates in parentheses. -/
inductive GroupSpelled : List Predicate → Tokens → Prop where
  | enclosed {predicates : List Predicate} {word : Tokens} (opening closing : Span)
      (spelled : ListSpelled predicates word) :
      GroupSpelled predicates
        (⟨.mark .parenOpen, opening⟩ :: (word ++ [⟨.mark .parenClose, closing⟩]))

/-- The tokens of a connection. A gap of one object without a sign may leave its parentheses
out. -/
inductive Connection.Spelled : Connection → Tokens → Prop where
  | flush : Spelled .flush []
  | standard (dash : Span) : Spelled .standard [⟨.mark .minus, dash⟩]
  | explicit {predicates : List Predicate} {word : Tokens} (before after : Span)
      (group : GroupSpelled predicates word) :
      Spelled (.explicit predicates)
        (⟨.mark .minus, before⟩ :: (word ++ [⟨.mark .minus, after⟩]))
  | bare {object : Spanned Object} {token : Spanned Token} (before after : Span)
      (spelled : Object.token? object = some token) :
      Spelled (.explicit [.simple object])
        [⟨.mark .minus, before⟩, token, ⟨.mark .minus, after⟩]

/-- The tokens of a view in brackets. -/
inductive Link.Spelled : Link → Tokens → Prop where
  | plain (name : Spanned String) (opening closing : Span) :
      Spelled ⟨name, []⟩ [⟨.mark .bracketOpen, opening⟩, ⟨.ident name.value, name.span⟩,
        ⟨.mark .bracketClose, closing⟩]
  | sized {predicates : List Predicate} {word : Tokens} (name : Spanned String)
      (opening closing : Span) (group : GroupSpelled predicates word) :
      Spelled ⟨name, predicates⟩ (⟨.mark .bracketOpen, opening⟩ ::
        ⟨.ident name.value, name.span⟩ :: (word ++ [⟨.mark .bracketClose, closing⟩]))

/-- The tokens of the later views, each after its connection. -/
inductive StepsSpelled : List (Connection × Link) → Tokens → Prop where
  | none : StepsSpelled [] []
  | more {connection : Connection} {link : Link} {steps : List (Connection × Link)}
      {gap view later : Tokens} (joined : connection.Spelled gap) (linked : link.Spelled view)
      (others : StepsSpelled steps later) :
      StepsSpelled ((connection, link) :: steps) (gap ++ (view ++ later))

/-- The tag of an axis, if one is written. -/
inductive AxisSpelled : Option Axis → Tokens → Prop where
  | absent : AxisSpelled none []
  | horizontal (tag : Span) : AxisSpelled (some .horizontal) [⟨.mark .horizontalTag, tag⟩]
  | vertical (tag : Span) : AxisSpelled (some .vertical) [⟨.mark .verticalTag, tag⟩]

/-- The container's edge and the connection after it, if they are written. -/
inductive LeadingSpelled : Option Connection → Tokens → Prop where
  | absent : LeadingSpelled none []
  | edge {connection : Connection} {gap : Tokens} (pipe : Span)
      (joined : connection.Spelled gap) :
      LeadingSpelled (some connection) (⟨.mark .pipe, pipe⟩ :: gap)

/-- The connection to the container's edge and the edge, if they are written. -/
inductive TrailingSpelled : Option Connection → Tokens → Prop where
  | absent : TrailingSpelled none []
  | edge {connection : Connection} {gap : Tokens} (pipe : Span)
      (joined : connection.Spelled gap) :
      TrailingSpelled (some connection) (gap ++ [⟨.mark .pipe, pipe⟩])

/-- The tokens of a chain: axis, leading edge, first view, later views, trailing edge. -/
inductive Spelled : Chain → Tokens → Prop where
  | parts {axis : Option Axis} {leading : Option Connection} {first : Link}
      {rest : List (Connection × Link)} {trailing : Option Connection}
      {tag edge view later final : Tokens}
      (tagged : AxisSpelled axis tag) (led : LeadingSpelled leading edge)
      (linked : first.Spelled view) (followed : StepsSpelled rest later)
      (trailed : TrailingSpelled trailing final) :
      Spelled ⟨axis, leading, first, rest, trailing⟩
        (tag ++ (edge ++ (view ++ (later ++ final))))

/-! ## Objects, priorities and predicates -/

/-- An object without a sign is taken by its one token. -/
theorem takeSimple_eq_ok_iff {tokens rest : Tokens} {object : Spanned Object} :
    takeSimple tokens = .ok (object, rest) ↔
      ∃ token, Object.token? object = some token ∧ tokens = token :: rest := by
  constructor
  · intro taken
    unfold takeSimple at taken
    split at taken
    · obtain ⟨rfl, rfl⟩ := Prod.mk.inj (Except.ok.inj taken)
      exact ⟨_, rfl, rfl⟩
    · obtain ⟨rfl, rfl⟩ := Prod.mk.inj (Except.ok.inj taken)
      exact ⟨_, rfl, rfl⟩
    · contradiction
  · rintro ⟨token, spelled, rfl⟩
    unfold Object.token? at spelled
    split at spelled
    · obtain rfl := Option.some.inj spelled
      rfl
    · obtain rfl := Option.some.inj spelled
      rfl
    · contradiction

/-- The token of an object without a sign is an identifier or a number. -/
theorem Object.kind_of_token? {object : Spanned Object} {token : Spanned Token}
    (spelled : Object.token? object = some token) :
    (∃ name, token.value = .ident name) ∨ ∃ literal, token.value = .number literal := by
  unfold Object.token? at spelled
  split at spelled
  · obtain rfl := Option.some.inj spelled
    exact .inl ⟨_, rfl⟩
  · obtain rfl := Option.some.inj spelled
    exact .inr ⟨_, rfl⟩
  · contradiction

/-- What is taken for an object spells it. -/
theorem spelled_of_takeObject {tokens rest : Tokens} {object : Spanned Object}
    (taken : takeObject tokens = .ok (object, rest)) :
    ∃ word, Object.Spelled object word ∧ tokens = word ++ rest := by
  unfold takeObject at taken
  split at taken
  · rename_i sign literal span after
    obtain ⟨rfl, rfl⟩ := Prod.mk.inj (Except.ok.inj taken)
    exact ⟨_, .negative literal sign span, rfl⟩
  · contradiction
  · obtain ⟨token, spelled, rfl⟩ := takeSimple_eq_ok_iff.1 taken
    exact ⟨_, .unsigned spelled, rfl⟩

/-- Every spelling of an object is taken. -/
theorem takeObject_append {object : Spanned Object} {word rest : Tokens}
    (spelled : Object.Spelled object word) :
    takeObject (word ++ rest) = .ok (object, rest) := by
  cases spelled with
  | @unsigned object token spelled =>
    have simple : takeSimple (token :: rest) = .ok (object, rest) :=
      takeSimple_eq_ok_iff.2 ⟨token, spelled, rfl⟩
    obtain ⟨kind, place⟩ := token
    -- Neither kind of token is the minus that would begin a number.
    rcases Object.kind_of_token? spelled with ⟨name, rfl⟩ | ⟨literal, rfl⟩
    · exact simple
    · exact simple
  | negative literal sign span => rfl

/-- The token of a relation is taken, if there is one before an object. -/
theorem takeOptionalRelation_append {relation : Option (Spanned String)}
    {object : Spanned Object} {word rest : Tokens} (spelled : Object.Spelled object word) :
    takeOptionalRelation (relationTokens relation ++ (word ++ rest)) = (relation, word ++ rest) := by
  cases relation with
  | some symbol => rfl
  | none =>
    cases spelled with
    | @unsigned object token spelled =>
      obtain ⟨kind, place⟩ := token
      rcases Object.kind_of_token? spelled with ⟨name, rfl⟩ | ⟨literal, rfl⟩
      · rfl
      · rfl
    | negative literal sign span => rfl

/-- Taking a relation, if there is one, leaves what follows its token. -/
theorem relationTokens_append_of_take {tokens rest : Tokens} {relation : Option (Spanned String)}
    (taken : takeOptionalRelation tokens = (relation, rest)) :
    tokens = relationTokens relation ++ rest := by
  unfold takeOptionalRelation at taken
  split at taken
  · obtain ⟨rfl, rfl⟩ := Prod.mk.inj taken
    rfl
  · obtain ⟨rfl, rfl⟩ := Prod.mk.inj taken
    rfl

/-- What is taken for a priority spells it. -/
theorem spelled_of_takePriority {tokens rest : Tokens} {priority : Option (Spanned Object)}
    (taken : takePriority tokens = .ok (priority, rest)) :
    ∃ word, PrioritySpelled priority word ∧ tokens = word ++ rest := by
  unfold takePriority at taken
  split at taken
  · rename_i sign after
    simp only [bind_eq_ok_iff, Except.ok.injEq, Prod.mk.injEq, Prod.exists] at taken
    obtain ⟨object, later, simple, rfl, rfl⟩ := taken
    obtain ⟨token, spelled, rfl⟩ := takeSimple_eq_ok_iff.1 simple
    exact ⟨_, .written sign spelled, rfl⟩
  · obtain ⟨rfl, rfl⟩ := Prod.mk.inj (Except.ok.inj taken)
    exact ⟨[], .absent, rfl⟩

/-- Every spelling of a priority is taken, where no other priority follows. -/
theorem takePriority_append {priority : Option (Spanned Object)} {word rest : Tokens}
    (spelled : PrioritySpelled priority word) (settled : takePriority rest = .ok (none, rest)) :
    takePriority (word ++ rest) = .ok (priority, rest) := by
  cases spelled with
  | absent => exact settled
  | @written object token sign spelled =>
    have simple : takeSimple (token :: rest) = .ok (object, rest) :=
      takeSimple_eq_ok_iff.2 ⟨token, spelled, rfl⟩
    simp only [List.cons_append, List.nil_append, takePriority, simple]
    rfl

/-- What is taken for a predicate spells it. -/
theorem spelled_of_takePredicate {tokens rest : Tokens} {predicate : Predicate}
    (taken : takePredicate tokens = .ok (predicate, rest)) :
    ∃ word, predicate.Spelled word ∧ tokens = word ++ rest := by
  unfold takePredicate at taken
  cases related : takeOptionalRelation tokens with
  | mk relation afterRelation =>
    simp only [related, bind_eq_ok_iff, Except.ok.injEq, Prod.mk.injEq, Prod.exists] at taken
    obtain ⟨object, afterObject, objectTaken, priority, last, priorityTaken, rfl, rfl⟩ := taken
    obtain ⟨middle, spelled, rfl⟩ := spelled_of_takeObject objectTaken
    obtain ⟨final, weighted, rfl⟩ := spelled_of_takePriority priorityTaken
    refine ⟨_, .parts spelled weighted, ?_⟩
    rw [relationTokens_append_of_take related]
    simp only [List.append_assoc]

/-- Every spelling of a predicate is taken, where no other priority follows. -/
theorem takePredicate_append {predicate : Predicate} {word rest : Tokens}
    (spelled : predicate.Spelled word) (settled : takePriority rest = .ok (none, rest)) :
    takePredicate (word ++ rest) = .ok (predicate, rest) := by
  cases spelled with
  | parts spelled weighted =>
    simp only [takePredicate, List.append_assoc, takeOptionalRelation_append spelled,
      takeObject_append spelled, takePriority_append weighted settled, bind, Except.bind]

/-! ## Predicates in parentheses -/

/-- What is taken up to the closing parenthesis spells the predicates before it. -/
theorem spelled_of_takePredicates {tokens rest : Tokens} {predicates : List Predicate}
    (taken : takePredicates tokens = .ok (predicates, rest)) :
    ∃ word closing, ListSpelled predicates word ∧
      tokens = word ++ ⟨.mark .parenClose, closing⟩ :: rest := by
  fun_induction takePredicates tokens generalizing predicates rest with
  | case1 => contradiction
  | case2 => contradiction
  | case3 tokens predicate comma after first others final later ih =>
    obtain ⟨rfl, rfl⟩ := Prod.mk.inj (Except.ok.inj taken)
    obtain ⟨word, spelled, rfl⟩ := spelled_of_takePredicate first
    obtain ⟨more, closing, listed, rfl⟩ := ih later
    refine ⟨_, closing, .more spelled comma listed, ?_⟩
    simp only [List.append_assoc, List.cons_append]
  | case4 tokens predicate closing after first =>
    obtain ⟨rfl, rfl⟩ := Prod.mk.inj (Except.ok.inj taken)
    obtain ⟨word, spelled, rfl⟩ := spelled_of_takePredicate first
    exact ⟨word, closing, .one spelled, rfl⟩
  | case5 => contradiction

/-- Every spelling of predicates is taken, up to the closing parenthesis. -/
theorem takePredicates_append {predicates : List Predicate} {word rest : Tokens} {closing : Span}
    (spelled : ListSpelled predicates word) :
    takePredicates (word ++ ⟨.mark .parenClose, closing⟩ :: rest) = .ok (predicates, rest) := by
  induction spelled with
  | one spelled =>
    have first := takePredicate_append spelled (show takePriority
      (⟨.mark .parenClose, closing⟩ :: rest) = .ok (none, _) from rfl)
    rw [takePredicates, first]
  | @more predicate predicates word later spelled comma others ih =>
    have first := takePredicate_append spelled (show takePriority
      (⟨.mark .comma, comma⟩ :: (later ++ ⟨.mark .parenClose, closing⟩ :: rest)) =
        .ok (none, _) from rfl)
    rw [List.append_assoc, List.cons_append, takePredicates, first]
    simp only [ih]

/-- What is taken for predicates in parentheses spells them; without parentheses there are
none. -/
theorem spelled_of_takeGroup {tokens rest : Tokens} {predicates : Option (List Predicate)}
    (taken : takeGroup tokens = .ok (predicates, rest)) :
    (predicates = none ∧ tokens = rest) ∨
      ∃ written word, predicates = some written ∧ GroupSpelled written word ∧
        tokens = word ++ rest := by
  unfold takeGroup at taken
  split at taken
  · rename_i opening after
    simp only [bind_eq_ok_iff, Except.ok.injEq, Prod.mk.injEq, Prod.exists] at taken
    obtain ⟨written, last, group, rfl, rfl⟩ := taken
    obtain ⟨word, closing, listed, rfl⟩ := spelled_of_takePredicates group
    refine .inr ⟨written, _, rfl, .enclosed opening closing listed, ?_⟩
    simp only [List.cons_append, List.append_assoc, List.nil_append]
  · obtain ⟨rfl, rfl⟩ := Prod.mk.inj (Except.ok.inj taken)
    exact .inl ⟨rfl, rfl⟩

/-- Every spelling of predicates in parentheses is taken. -/
theorem takeGroup_append {predicates : List Predicate} {word rest : Tokens}
    (spelled : GroupSpelled predicates word) :
    takeGroup (word ++ rest) = .ok (some predicates, rest) := by
  cases spelled with
  | @enclosed word opening closing listed =>
    have inside : takePredicates (word ++ ⟨.mark .parenClose, closing⟩ :: rest) =
        .ok (predicates, rest) := takePredicates_append listed
    simp only [List.cons_append, List.append_assoc, List.nil_append, takeGroup, inside]
    rfl

/-! ## Connections and views -/

/-- What is taken for a connection spells it. -/
theorem spelled_of_takeConnection {tokens rest : Tokens} {connection : Connection}
    (taken : takeConnection tokens = .ok (connection, rest)) :
    ∃ word, connection.Spelled word ∧ tokens = word ++ rest := by
  unfold takeConnection at taken
  split at taken
  · rename_i before opening after
    simp only [bind_eq_ok_iff, Except.ok.injEq, Prod.mk.injEq, Prod.exists] at taken
    obtain ⟨predicates, middle, group, dash, last, dashTaken, rfl, rfl⟩ := taken
    obtain ⟨word, closing, listed, rfl⟩ := spelled_of_takePredicates group
    obtain rfl := takeMark_eq_ok_iff.1 dashTaken
    refine ⟨_, .explicit before dash (.enclosed opening closing listed), ?_⟩
    simp only [List.cons_append, List.append_assoc, List.nil_append]
  · rename_i before name span after
    simp only [bind_eq_ok_iff, Except.ok.injEq, Prod.mk.injEq, Prod.exists] at taken
    obtain ⟨dash, last, dashTaken, rfl, rfl⟩ := taken
    obtain rfl := takeMark_eq_ok_iff.1 dashTaken
    exact ⟨_, .bare before dash rfl, rfl⟩
  · rename_i before literal span after
    simp only [bind_eq_ok_iff, Except.ok.injEq, Prod.mk.injEq, Prod.exists] at taken
    obtain ⟨dash, last, dashTaken, rfl, rfl⟩ := taken
    obtain rfl := takeMark_eq_ok_iff.1 dashTaken
    exact ⟨_, .bare before dash rfl, rfl⟩
  · rename_i dash after _ _ _
    obtain ⟨rfl, rfl⟩ := Prod.mk.inj (Except.ok.inj taken)
    exact ⟨_, .standard dash, rfl⟩
  · obtain ⟨rfl, rfl⟩ := Prod.mk.inj (Except.ok.inj taken)
    exact ⟨[], .flush, rfl⟩

/-- Every spelling of a connection is taken before a bracket or an edge. A bare dash would
otherwise read on, and nothing at all would read a dash. -/
theorem takeConnection_append {connection : Connection} {word rest : Tokens} {mark : Mark}
    {span : Span} (spelled : connection.Spelled word)
    (boundary : mark = .bracketOpen ∨ mark = .pipe) :
    takeConnection (word ++ ⟨.mark mark, span⟩ :: rest) =
      .ok (connection, ⟨.mark mark, span⟩ :: rest) := by
  cases spelled with
  | flush => rcases boundary with rfl | rfl <;> rfl
  | standard dash => rcases boundary with rfl | rfl <;> rfl
  | @explicit predicates word before after group =>
    cases group with
    | @enclosed word opening closing listed =>
      have inside : takePredicates (word ++ ⟨.mark .parenClose, closing⟩ ::
          ⟨.mark .minus, after⟩ :: ⟨.mark mark, span⟩ :: rest) = .ok (predicates, _) :=
        takePredicates_append listed
      simp only [List.cons_append, List.append_assoc, List.nil_append, takeConnection, inside]
      rfl
  | @bare object token before after spelled =>
    obtain ⟨kind, place⟩ := token
    unfold Object.token? at spelled
    split at spelled
    · obtain ⟨rfl, rfl⟩ := Spanned.mk.inj (Option.some.inj spelled)
      rfl
    · obtain ⟨rfl, rfl⟩ := Spanned.mk.inj (Option.some.inj spelled)
      rfl
    · contradiction

/-- What is taken for a view spells it. -/
theorem spelled_of_takeLink {tokens rest : Tokens} {link : Link}
    (taken : takeLink tokens = .ok (link, rest)) :
    ∃ word, link.Spelled word ∧ tokens = word ++ rest := by
  simp only [takeLink, bind_eq_ok_iff, Except.ok.injEq, Prod.mk.injEq, Prod.exists,
    takeMark_eq_ok_iff, takeIdent_eq_ok_iff] at taken
  obtain ⟨opening, _, rfl, name, afterName, rfl, predicates, afterGroup, grouped, closing, _,
    rfl, rfl, rfl⟩ := taken
  rcases spelled_of_takeGroup grouped with ⟨rfl, rfl⟩ | ⟨written, word, rfl, group, rfl⟩
  · exact ⟨_, .plain name opening closing, rfl⟩
  · refine ⟨_, .sized name opening closing group, ?_⟩
    simp only [List.cons_append, List.append_assoc, List.nil_append]

/-- Every spelling of a view is taken. -/
theorem takeLink_append {link : Link} {word rest : Tokens} (spelled : link.Spelled word) :
    takeLink (word ++ rest) = .ok (link, rest) := by
  cases spelled with
  | plain name opening closing => rfl
  | @sized predicates word name opening closing group =>
    have inside : takeGroup (word ++ ⟨.mark .bracketClose, closing⟩ :: rest) =
        .ok (some predicates, _) := takeGroup_append group
    simp only [takeLink, List.cons_append, List.append_assoc, List.nil_append,
      takeMark, if_true, takeIdent, inside, bind, Except.bind, Option.getD_some]

/-- A view begins with a bracket. -/
theorem Link.Spelled.opens {link : Link} {word : Tokens} (spelled : link.Spelled word) :
    ∃ span inside, word = ⟨.mark .bracketOpen, span⟩ :: inside := by
  cases spelled with
  | plain name opening closing => exact ⟨opening, _, rfl⟩
  | sized name opening closing group => exact ⟨opening, _, rfl⟩

/-! ## Whole chains -/

/-- What is taken after a view spells the later views and the edge. -/
theorem spelled_of_takeTail {tokens : Tokens} {steps : List (Connection × Link)}
    {trailing : Option Connection} (taken : takeTail tokens = .ok (steps, trailing)) :
    ∃ later final, StepsSpelled steps later ∧ TrailingSpelled trailing final ∧
      tokens = later ++ final := by
  fun_induction takeTail tokens generalizing steps trailing with
  | case1 => contradiction
  | case2 => contradiction
  | case3 => contradiction
  | case4 tokens connection span inside joined link after linked steps trailing tail _ ih =>
    obtain ⟨rfl, rfl⟩ := Prod.mk.inj (Except.ok.inj taken)
    obtain ⟨gap, connected, rfl⟩ := spelled_of_takeConnection joined
    obtain ⟨view, bracketed, same⟩ := spelled_of_takeLink linked
    obtain ⟨later, final, followed, trailed, rfl⟩ := ih tail
    refine ⟨_, final, .more connected bracketed followed, trailed, ?_⟩
    rw [same]
    simp only [List.append_assoc]
  | case5 tokens connection pipe after joined =>
    rw [map_eq_ok_iff] at taken
    obtain ⟨_, ended, same⟩ := taken
    obtain ⟨rfl, rfl⟩ := Prod.mk.inj same
    obtain rfl := takeEnd_eq_ok_iff.1 ended
    obtain ⟨gap, connected, rfl⟩ := spelled_of_takeConnection joined
    exact ⟨[], _, .none, .edge pipe connected, rfl⟩
  | case6 tokens joined =>
    obtain ⟨rfl, rfl⟩ := Prod.mk.inj (Except.ok.inj taken)
    obtain ⟨gap, connected, rfl⟩ := spelled_of_takeConnection joined
    cases connected with
    | flush => exact ⟨[], [], .none, .absent, rfl⟩
  | case7 => contradiction
  | case8 => contradiction

/-- A connection before a bracket belongs to the next view. -/
theorem takeTail_of_view {tokens inside rest : Tokens} {connection : Connection} {link : Link}
    {span : Span} {steps : List (Connection × Link)} {trailing : Option Connection}
    (joined : takeConnection tokens = .ok (connection, ⟨.mark .bracketOpen, span⟩ :: inside))
    (linked : takeLink (⟨.mark .bracketOpen, span⟩ :: inside) = .ok (link, rest))
    (tail : takeTail rest = .ok (steps, trailing)) :
    takeTail tokens = .ok ((connection, link) :: steps, trailing) := by
  rw [takeTail]
  split
  · rename_i failed
    rw [joined] at failed
    contradiction
  · rename_i found
    obtain ⟨rfl, rfl⟩ := Prod.mk.inj (Except.ok.inj (joined.symm.trans found))
    dsimp only
    rw [linked]
    simp only [tail]

/-- A connection before a pipe belongs to the container's edge. -/
theorem takeTail_of_edge {tokens : Tokens} {connection : Connection} {span : Span}
    (joined : takeConnection tokens = .ok (connection, [⟨.mark .pipe, span⟩])) :
    takeTail tokens = .ok ([], some connection) := by
  rw [takeTail]
  split
  · rename_i failed
    rw [joined] at failed
    contradiction
  · rename_i found
    obtain ⟨rfl, rfl⟩ := Prod.mk.inj (Except.ok.inj (joined.symm.trans found))
    rfl

/-- Every spelling of the later views and the edge is taken, up to the end. -/
theorem takeTail_append {steps : List (Connection × Link)} {trailing : Option Connection}
    {later final : Tokens} (followed : StepsSpelled steps later)
    (trailed : TrailingSpelled trailing final) :
    takeTail (later ++ final) = .ok (steps, trailing) := by
  induction followed with
  | none =>
    cases trailed with
    | absent =>
      rw [List.append_nil, takeTail]
      rfl
    | @edge connection gap pipe connected =>
      exact takeTail_of_edge (takeConnection_append connected (.inr rfl))
  | @more connection link steps gap view later connected bracketed followed ih =>
    obtain ⟨span, inside, rfl⟩ := bracketed.opens
    have joined : takeConnection (gap ++ ⟨.mark .bracketOpen, span⟩ ::
        (inside ++ (later ++ final))) = .ok (connection, _) :=
      takeConnection_append connected (.inl rfl)
    have linked : takeLink (⟨.mark .bracketOpen, span⟩ :: (inside ++ (later ++ final))) =
        .ok (link, later ++ final) := takeLink_append bracketed
    rw [List.append_assoc, List.append_assoc, List.cons_append]
    exact takeTail_of_view joined linked ih

/-- The tag of an axis is taken, if there is one before the edge or the first view. -/
theorem takeAxis_append {axis : Option Axis} {tag rest : Tokens} {mark : Mark} {span : Span}
    (tagged : AxisSpelled axis tag) (boundary : mark = .bracketOpen ∨ mark = .pipe) :
    takeAxis (tag ++ ⟨.mark mark, span⟩ :: rest) = (axis, ⟨.mark mark, span⟩ :: rest) := by
  cases tagged with
  | absent => rcases boundary with rfl | rfl <;> rfl
  | horizontal tag => rfl
  | vertical tag => rfl

/-- What is taken for the tag of an axis spells it. -/
theorem spelled_of_takeAxis {tokens rest : Tokens} {axis : Option Axis}
    (taken : takeAxis tokens = (axis, rest)) :
    ∃ tag, AxisSpelled axis tag ∧ tokens = tag ++ rest := by
  unfold takeAxis at taken
  split at taken
  · obtain ⟨rfl, rfl⟩ := Prod.mk.inj taken
    exact ⟨_, .horizontal _, rfl⟩
  · obtain ⟨rfl, rfl⟩ := Prod.mk.inj taken
    exact ⟨_, .vertical _, rfl⟩
  · obtain ⟨rfl, rfl⟩ := Prod.mk.inj taken
    exact ⟨[], .absent, rfl⟩

/-- What is taken for the leading edge spells it. -/
theorem spelled_of_takeLeading {tokens rest : Tokens} {leading : Option Connection}
    (taken : takeLeading tokens = .ok (leading, rest)) :
    ∃ edge, LeadingSpelled leading edge ∧ tokens = edge ++ rest := by
  unfold takeLeading at taken
  split at taken
  · rename_i pipe after
    simp only [bind_eq_ok_iff, Except.ok.injEq, Prod.mk.injEq, Prod.exists] at taken
    obtain ⟨connection, last, joined, rfl, rfl⟩ := taken
    obtain ⟨gap, connected, rfl⟩ := spelled_of_takeConnection joined
    exact ⟨_, .edge pipe connected, rfl⟩
  · obtain ⟨rfl, rfl⟩ := Prod.mk.inj (Except.ok.inj taken)
    exact ⟨[], .absent, rfl⟩

/-- Every spelling of the leading edge is taken before a view. -/
theorem takeLeading_append {leading : Option Connection} {edge rest : Tokens} {span : Span}
    (led : LeadingSpelled leading edge) :
    takeLeading (edge ++ ⟨.mark .bracketOpen, span⟩ :: rest) =
      .ok (leading, ⟨.mark .bracketOpen, span⟩ :: rest) := by
  cases led with
  | absent => rfl
  | @edge connection gap pipe connected =>
    have joined : takeConnection (gap ++ ⟨.mark .bracketOpen, span⟩ :: rest) =
        .ok (connection, _) := takeConnection_append connected (.inl rfl)
    simp only [List.cons_append, takeLeading, joined]
    rfl

/-- The leading edge and the first view begin with a pipe or a bracket. -/
theorem LeadingSpelled.opens {leading : Option Connection} {link : Link} {edge view : Tokens}
    (led : LeadingSpelled leading edge) (linked : link.Spelled view) :
    ∃ mark span inside, (mark = .bracketOpen ∨ mark = .pipe) ∧
      ∀ rest, edge ++ (view ++ rest) = ⟨.mark mark, span⟩ :: (inside ++ rest) := by
  cases led with
  | absent =>
    obtain ⟨span, inside, rfl⟩ := linked.opens
    exact ⟨_, span, inside, .inl rfl, fun rest => rfl⟩
  | @edge connection gap pipe connected =>
    refine ⟨_, pipe, gap ++ view, .inr rfl, fun rest => ?_⟩
    simp only [List.cons_append, List.append_assoc]

/-- Reading tokens as a chain gives the chain they spell, and only then. -/
theorem ofTokens_eq_ok_iff {tokens : Tokens} {chain : Chain} :
    ofTokens tokens = .ok chain ↔ chain.Spelled tokens := by
  constructor
  · intro taken
    unfold ofTokens at taken
    cases axisTaken : takeAxis tokens with
    | mk axis afterAxis =>
      simp only [axisTaken, bind_eq_ok_iff, Except.ok.injEq, Prod.exists] at taken
      obtain ⟨leading, afterLeading, leadingTaken, first, afterFirst, firstTaken, steps, trailing,
        tail, rfl⟩ := taken
      obtain ⟨tag, tagged, rfl⟩ := spelled_of_takeAxis axisTaken
      obtain ⟨edge, led, rfl⟩ := spelled_of_takeLeading leadingTaken
      obtain ⟨view, linked, rfl⟩ := spelled_of_takeLink firstTaken
      obtain ⟨later, final, followed, trailed, rfl⟩ := spelled_of_takeTail tail
      exact .parts tagged led linked followed trailed
  · rintro ⟨tagged, led, linked, followed, trailed⟩
    rename_i axis leading first rest trailing tag edge view later final
    obtain ⟨mark, span, inside, boundary, opened⟩ := led.opens linked
    have axisTaken : takeAxis (tag ++ (edge ++ (view ++ (later ++ final)))) =
        (axis, edge ++ (view ++ (later ++ final))) := by
      rw [opened]
      exact takeAxis_append tagged boundary
    have leadingTaken : takeLeading (edge ++ (view ++ (later ++ final))) =
        .ok (leading, view ++ (later ++ final)) := by
      obtain ⟨bracket, after, rfl⟩ := linked.opens
      exact takeLeading_append led
    simp only [ofTokens, axisTaken, leadingTaken, takeLink_append linked,
      takeTail_append followed trailed, bind, Except.bind]

/-- A text is read as a chain exactly when its tokens spell that chain. -/
theorem parse_eq_ok_iff {raw : String} {chain : Chain} :
    parse raw = .ok chain ↔ ∃ tokens, Token.scan raw = .ok tokens ∧ chain.Spelled tokens := by
  rw [parse, read_eq_ok_iff]
  simp only [ofTokens_eq_ok_iff]

end ViewLayout.Chain
