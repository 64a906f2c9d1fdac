import ViewLayout.Proofs.Chain.Requirements
import ViewLayout.Proofs.Chain.Spelling

/-!
# The parts of a chain among its tokens

Whatever is read from a chain was written in it: every connection and every view has tokens of its
own among those of the chain, and every predicate has its tokens among theirs. What holds of all
tokens of a text, such as how they are spelled and where they stand, therefore holds of every name,
relation, object and priority of the chain.
-/

namespace ViewLayout.Chain

open ViewLayout.Text ViewLayout.Grammar

/-! ## The words of a predicate -/

/-- An object that is a name is written as an identifier. -/
theorem Object.Spelled.mem_ident {object : Spanned Object} {word : Tokens} {name : String}
    (spelled : Object.Spelled object word) (named : object.value = .name name) :
    ⟨.ident name, object.span⟩ ∈ word := by
  cases spelled with
  | unsigned spelled =>
    obtain ⟨value, span⟩ := object
    obtain rfl : value = .name name := named
    obtain rfl := Option.some.inj spelled
    exact List.mem_cons_self
  | negative => contradiction

/-- The one token of an object has its text and its place. -/
theorem Object.text_of_token? {object : Spanned Object} {token : Spanned Token}
    (spelled : Object.token? object = some token) :
    token.value.text = object.value.text ∧ token.span = object.span := by
  unfold Object.token? at spelled
  split at spelled
  · obtain rfl := Option.some.inj spelled
    exact ⟨rfl, rfl⟩
  · obtain rfl := Option.some.inj spelled
    exact ⟨rfl, rfl⟩
  · contradiction

/-- A predicate whose object is a name is written with that identifier. -/
theorem Predicate.Spelled.mem_ident {predicate : Predicate} {word : Tokens} {name : String}
    (spelled : predicate.Spelled word) (named : predicate.object.value = .name name) :
    ⟨.ident name, predicate.object.span⟩ ∈ word := by
  cases spelled with
  | parts spelled _ =>
    exact List.mem_append_right _ (List.mem_append_left _ (spelled.mem_ident named))

/-- A predicate is written with its relation, if it has one. -/
theorem Predicate.Spelled.mem_relation {predicate : Predicate} {word : Tokens}
    {symbol : Spanned String} (spelled : predicate.Spelled word)
    (written : predicate.relation = some symbol) :
    ⟨.relation symbol.value, symbol.span⟩ ∈ word := by
  cases spelled with
  | parts _ _ =>
    obtain rfl := written
    exact List.mem_append_left _ List.mem_cons_self

/-- A predicate is written with the one token of its priority, if it has one. -/
theorem Predicate.Spelled.exists_priority {predicate : Predicate} {word : Tokens}
    {object : Spanned Object} (spelled : predicate.Spelled word)
    (written : predicate.priority = some object) :
    ∃ token ∈ word, Object.token? object = some token := by
  cases spelled with
  | parts _ weighted =>
    obtain rfl := written
    cases weighted with
    | written sign spelled => exact ⟨_, by simp, spelled⟩

/-! ## The predicates of connections and views -/

/-- Each of several predicates is written among their tokens. -/
theorem ListSpelled.exists_predicate {predicates : List Predicate} {word : Tokens}
    (spelled : ListSpelled predicates word) {predicate : Predicate}
    (present : predicate ∈ predicates) : ∃ part, predicate.Spelled part ∧ part ⊆ word := by
  induction spelled with
  | one spelled =>
    obtain rfl := List.mem_singleton.1 present
    exact ⟨_, spelled, List.Subset.refl _⟩
  | more spelled comma others ih =>
    rcases List.mem_cons.1 present with rfl | later
    · exact ⟨_, spelled, List.subset_append_left _ _⟩
    · obtain ⟨part, written, inside⟩ := ih later
      refine ⟨part, written, fun token among => ?_⟩
      exact List.mem_append_right _ (List.mem_cons_of_mem _ (inside among))

/-- Each predicate in parentheses is written between them. -/
theorem GroupSpelled.exists_predicate {predicates : List Predicate} {word : Tokens}
    (spelled : GroupSpelled predicates word) {predicate : Predicate}
    (present : predicate ∈ predicates) : ∃ part, predicate.Spelled part ∧ part ⊆ word := by
  cases spelled with
  | enclosed opening closing spelled =>
    obtain ⟨part, written, inside⟩ := spelled.exists_predicate present
    refine ⟨part, written, fun token among => ?_⟩
    exact List.mem_cons_of_mem _ (List.mem_append_left _ (inside among))

/-- Each predicate of a connection is written among its tokens, with or without parentheses. -/
theorem Connection.Spelled.exists_predicate {connection : Connection} {word : Tokens}
    (spelled : connection.Spelled word) {predicate : Predicate}
    (present : predicate ∈ connection.predicates) :
    ∃ part, predicate.Spelled part ∧ part ⊆ word := by
  cases spelled with
  | flush => contradiction
  | standard => contradiction
  | explicit before after group =>
    obtain ⟨part, written, inside⟩ := group.exists_predicate present
    refine ⟨part, written, fun token among => ?_⟩
    exact List.mem_cons_of_mem _ (List.mem_append_left _ (inside among))
  | @bare object token before after spelled =>
    obtain rfl := List.mem_singleton.1 present
    have written : (Predicate.simple object).Spelled [token] := .parts (.unsigned spelled) .absent
    exact ⟨_, written, by simp⟩

/-- Each predicate of a view is written among its tokens. -/
theorem Link.Spelled.exists_predicate {link : Link} {word : Tokens} (spelled : link.Spelled word)
    {predicate : Predicate} (present : predicate ∈ link.predicates) :
    ∃ part, predicate.Spelled part ∧ part ⊆ word := by
  cases spelled with
  | plain => contradiction
  | sized name opening closing group =>
    obtain ⟨part, written, inside⟩ := group.exists_predicate present
    refine ⟨part, written, fun token among => ?_⟩
    exact List.mem_cons_of_mem _ (List.mem_cons_of_mem _ (List.mem_append_left _ (inside among)))

/-- A view is written with its name. -/
theorem Link.Spelled.mem_name {link : Link} {word : Tokens} (spelled : link.Spelled word) :
    ⟨.ident link.name.value, link.name.span⟩ ∈ word := by
  cases spelled with
  | plain => exact List.mem_cons_of_mem _ List.mem_cons_self
  | sized => exact List.mem_cons_of_mem _ List.mem_cons_self

/-! ## The connections and views of a chain -/

/-- The later views of a chain, with their connections, are written among its tokens. -/
theorem StepsSpelled.exists_step {steps : List (Connection × Link)} {word : Tokens}
    (spelled : StepsSpelled steps word) {step : Connection × Link} (present : step ∈ steps) :
    (∃ gap, step.1.Spelled gap ∧ gap ⊆ word) ∧ ∃ view, step.2.Spelled view ∧ view ⊆ word := by
  induction spelled with
  | none => contradiction
  | @more connection link steps gap view later joined linked others ih =>
    rcases List.mem_cons.1 present with rfl | further
    · exact ⟨⟨gap, joined, by simp⟩, view, linked, fun token among => by simp [among]⟩
    · obtain ⟨⟨gap, joined, inside⟩, view, linked, within⟩ := ih further
      exact ⟨⟨gap, joined, fun token among => by simp [inside among]⟩,
        view, linked, fun token among => by simp [within among]⟩

/-- Every view of a chain is written among its tokens. -/
theorem Spelled.exists_link {chain : Chain} {tokens : Tokens} (spelled : chain.Spelled tokens)
    {link : Link} (listed : link ∈ chain.links) : ∃ view, link.Spelled view ∧ view ⊆ tokens := by
  cases spelled with
  | @parts axis leading first rest trailing tag edge view later final tagged led linked followed
      trailed =>
    rcases List.mem_cons.1 listed with rfl | further
    · exact ⟨view, linked, fun token among => by simp [among]⟩
    · obtain ⟨step, present, rfl⟩ := List.mem_map.1 further
      obtain ⟨-, found, spelled, inside⟩ := followed.exists_step present
      exact ⟨found, spelled, fun token among => by simp [inside among]⟩

/-- Every connection of a chain, those to the container included, is written among its tokens. -/
theorem Spelled.exists_connection {chain : Chain} {tokens : Tokens}
    (spelled : chain.Spelled tokens) {connection : Connection}
    (listed : connection ∈ chain.connections) : ∃ gap, connection.Spelled gap ∧ gap ⊆ tokens := by
  cases spelled with
  | @parts axis leading first rest trailing tag edge view later final tagged led linked followed
      trailed =>
    simp only [connections, List.mem_append, List.mem_map, Option.mem_toList] at listed
    rcases listed with (here | ⟨step, present, rfl⟩) | there
    · obtain rfl := here
      cases led with
      | edge pipe joined => exact ⟨_, joined, fun token among => by simp [among]⟩
    · obtain ⟨⟨gap, joined, inside⟩, -⟩ := followed.exists_step present
      exact ⟨gap, joined, fun token among => by simp [inside among]⟩
    · obtain rfl := there
      cases trailed with
      | edge pipe joined => exact ⟨_, joined, fun token among => by simp [among]⟩

/-- Every predicate of a chain is written among its tokens. -/
theorem Spelled.exists_predicate {chain : Chain} {tokens : Tokens}
    (spelled : chain.Spelled tokens) {predicate : Predicate}
    (listed : predicate ∈ chain.predicates) :
    ∃ part, predicate.Spelled part ∧ part ⊆ tokens := by
  rw [predicates, List.mem_append, List.mem_flatMap, List.mem_flatMap] at listed
  rcases listed with ⟨connection, joined, present⟩ | ⟨link, linked, present⟩
  · obtain ⟨gap, written, outer⟩ := spelled.exists_connection joined
    obtain ⟨part, found, inner⟩ := written.exists_predicate present
    exact ⟨part, found, List.Subset.trans inner outer⟩
  · obtain ⟨view, written, outer⟩ := spelled.exists_link linked
    obtain ⟨part, found, inner⟩ := written.exists_predicate present
    exact ⟨part, found, List.Subset.trans inner outer⟩

end ViewLayout.Chain
