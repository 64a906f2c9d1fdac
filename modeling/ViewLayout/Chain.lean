import ViewLayout.Grammar

/-!
# Chains

A chain is constraint text that lays views out one after another along an axis, and may run from
edge to edge of the container:

`(H:|V:)? (| connection)? [view] (connection [view])* (connection |)?`

A connection is nothing at all, a bare dash for a standard gap, or explicit predicates between two
dashes. A predicate is an optional relation, a metric, key or number, and an optional `@priority`.

Reading takes no choice back. After a view, a connection belongs to the next view if a bracket
follows it and to the container's edge if a pipe follows it; a dash is a gap of its own unless
predicates or a single object follow it. `run_chain` compares this with a grammar of ordered choice.
-/

namespace ViewLayout

open ViewLayout.Text

namespace Chain

/-- The object of a predicate. -/
inductive Object where
  /-- A metric, or in a size predicate a key. -/
  | name (name : String)
  /-- A number with an optional minus. -/
  | number (negative : Bool) (literal : String)
deriving DecidableEq, Repr

/-- The text of an object. -/
def Object.text : Object → String
  | .name word => word
  | .number negative literal => if negative then "-" ++ literal else literal

/-- One condition on a gap or on the size of a view. -/
structure Predicate where
  /-- The relation, in the vocabulary or not; equality when it is not written. -/
  relation : Option (Spanned String)
  /-- What the gap or size is compared with. -/
  object : Spanned Object
  /-- The priority. -/
  priority : Option (Spanned Object)
deriving DecidableEq, Repr

/-- A predicate that is nothing but an object. -/
def Predicate.simple (object : Spanned Object) : Predicate := ⟨none, object, none⟩

/-- What stands between two neighbours of a chain. -/
inductive Connection where
  /-- Nothing: no gap. -/
  | flush
  /-- A bare dash: the standard gap. -/
  | standard
  /-- A gap that meets every predicate. -/
  | explicit (predicates : List Predicate)
deriving DecidableEq, Repr

/-- A view of a chain, with the conditions on its size. -/
structure Link where
  /-- The key of the view. -/
  name : Spanned String
  /-- The conditions on its size along the axis. -/
  predicates : List Predicate
deriving DecidableEq, Repr

end Chain

open Chain in
/-- The parts of a chain. -/
structure Chain where
  /-- The axis, when it is written. -/
  axis : Option Axis
  /-- The connection from the container's edge to the first view. -/
  leading : Option Connection
  /-- The first view. -/
  first : Link
  /-- The later views, each with the connection before it. -/
  rest : List (Connection × Link)
  /-- The connection from the last view to the container's edge. -/
  trailing : Option Connection
deriving DecidableEq, Repr

namespace Chain

/-- The views of a chain from first to last. -/
def links (chain : Chain) : List Link :=
  chain.first :: chain.rest.map (·.2)

/-- The last view of a chain. -/
def last (chain : Chain) : Link :=
  (chain.rest.getLast?.map (·.2)).getD chain.first

open Grammar

/-- Takes a metric name or a number without a sign. -/
def takeSimple : Reader (Spanned Object)
  | ⟨.ident name, span⟩ :: rest => .ok (⟨.name name, span⟩, rest)
  | ⟨.number literal, span⟩ :: rest => .ok (⟨.number false literal, span⟩, rest)
  | tokens => .error (stopAt tokens)

/-- Takes a metric name or a number, which may have a minus. -/
def takeObject : Reader (Spanned Object)
  | ⟨.mark .minus, sign⟩ :: ⟨.number literal, span⟩ :: rest =>
    .ok (⟨.number true literal, sign.through span⟩, rest)
  | ⟨.mark .minus, _⟩ :: rest => .error (stopAt rest)
  | tokens => takeSimple tokens

/-- Takes a relation, if the next token is one. -/
def takeOptionalRelation : Tokens → Option (Spanned String) × Tokens
  | ⟨.relation symbol, span⟩ :: rest => (some ⟨symbol, span⟩, rest)
  | tokens => (none, tokens)

/-- Takes a priority, if the next token is an at sign. -/
def takePriority : Reader (Option (Spanned Object))
  | ⟨.mark .atSign, _⟩ :: rest => do
    let (object, rest) ← takeSimple rest
    .ok (some object, rest)
  | tokens => .ok (none, tokens)

/-- Takes one predicate. -/
def takePredicate : Reader Predicate := fun tokens => do
  let (relation, rest) := takeOptionalRelation tokens
  let (object, rest) ← takeObject rest
  let (priority, rest) ← takePriority rest
  .ok (⟨relation, object, priority⟩, rest)

theorem takeSimple_shorter {tokens rest : Tokens} {object : Spanned Object}
    (taken : takeSimple tokens = .ok (object, rest)) : rest.length < tokens.length := by
  unfold takeSimple at taken
  split at taken <;> simp at taken <;> simp [← taken.2]

theorem takeObject_shorter {tokens rest : Tokens} {object : Spanned Object}
    (taken : takeObject tokens = .ok (object, rest)) : rest.length < tokens.length := by
  unfold takeObject at taken
  split at taken
  · simp at taken
    simp only [← taken.2, List.length_cons]
    omega
  · simp at taken
  · exact takeSimple_shorter taken

theorem takeOptionalRelation_length_le (tokens : Tokens) :
    (takeOptionalRelation tokens).2.length ≤ tokens.length := by
  unfold takeOptionalRelation
  split <;> simp

theorem takePriority_length_le {tokens rest : Tokens} {priority : Option (Spanned Object)}
    (taken : takePriority tokens = .ok (priority, rest)) : rest.length ≤ tokens.length := by
  unfold takePriority at taken
  split at taken
  · rename_i after
    cases simple : takeSimple after with
    | error => simp [simple, bind, Except.bind] at taken
    | ok result =>
      simp [simple, bind, Except.bind] at taken
      have := takeSimple_shorter simple
      simp only [← taken.2, List.length_cons]
      omega
  · simp at taken
    simp [taken.2]

theorem takePredicate_shorter {tokens rest : Tokens} {predicate : Predicate}
    (taken : takePredicate tokens = .ok (predicate, rest)) : rest.length < tokens.length := by
  unfold takePredicate at taken
  have relation := takeOptionalRelation_length_le tokens
  cases object : takeObject (takeOptionalRelation tokens).2 with
  | error => simp [object, bind, Except.bind] at taken
  | ok result =>
    have objectShorter := takeObject_shorter object
    cases priority : takePriority result.2 with
    | error => simp [object, priority, bind, Except.bind] at taken
    | ok final =>
      have priorityShorter := takePriority_length_le priority
      simp [object, priority, bind, Except.bind] at taken
      simp only [← taken.2]
      omega

/-- Takes the predicates of a parenthesis that is open already, up to its end. -/
def takePredicates (tokens : Tokens) : Except Stop (List Predicate × Tokens) :=
  match _taken : takePredicate tokens with
  | .error stop => .error stop
  | .ok (predicate, ⟨.mark .comma, _⟩ :: rest) =>
    match takePredicates rest with
    | .error stop => .error stop
    | .ok (predicates, rest) => .ok (predicate :: predicates, rest)
  | .ok (predicate, ⟨.mark .parenClose, _⟩ :: rest) => .ok ([predicate], rest)
  | .ok (_, rest) => .error (stopAt rest)
termination_by tokens.length
decreasing_by
  have := takePredicate_shorter _taken
  simp only [List.length_cons] at this
  omega

/-- Takes predicates in parentheses, if the next token opens them. -/
def takeGroup : Reader (Option (List Predicate))
  | ⟨.mark .parenOpen, _⟩ :: rest => do
    let (predicates, rest) ← takePredicates rest
    .ok (some predicates, rest)
  | tokens => .ok (none, tokens)

/-- Takes a connection, which may be nothing at all. -/
def takeConnection : Reader Connection
  | ⟨.mark .minus, _⟩ :: ⟨.mark .parenOpen, _⟩ :: rest => do
    let (predicates, rest) ← takePredicates rest
    let (_, rest) ← takeMark .minus rest
    .ok (.explicit predicates, rest)
  | ⟨.mark .minus, _⟩ :: ⟨.ident name, span⟩ :: rest => do
    let (_, rest) ← takeMark .minus rest
    .ok (.explicit [.simple ⟨.name name, span⟩], rest)
  | ⟨.mark .minus, _⟩ :: ⟨.number literal, span⟩ :: rest => do
    let (_, rest) ← takeMark .minus rest
    .ok (.explicit [.simple ⟨.number false literal, span⟩], rest)
  | ⟨.mark .minus, _⟩ :: rest => .ok (.standard, rest)
  | tokens => .ok (.flush, tokens)

/-- Takes a view in brackets. -/
def takeLink : Reader Link := fun tokens => do
  let (_, rest) ← takeMark .bracketOpen tokens
  let (name, rest) ← takeIdent rest
  let (predicates, rest) ← takeGroup rest
  let (_, rest) ← takeMark .bracketClose rest
  .ok (⟨name, predicates.getD []⟩, rest)

theorem takeMark_shorter {mark : Mark} {tokens rest : Tokens} {span : Span}
    (taken : takeMark mark tokens = .ok (span, rest)) : rest.length < tokens.length := by
  unfold takeMark at taken
  split at taken
  · split at taken
    · simp at taken
      simp [← taken.2]
    · simp at taken
  · simp at taken

theorem takeIdent_shorter {tokens rest : Tokens} {name : Spanned String}
    (taken : takeIdent tokens = .ok (name, rest)) : rest.length < tokens.length := by
  unfold takeIdent at taken
  split at taken <;> simp at taken
  simp [← taken.2]

theorem takePredicates_shorter {tokens rest : Tokens} {predicates : List Predicate}
    (taken : takePredicates tokens = .ok (predicates, rest)) : rest.length < tokens.length := by
  fun_induction takePredicates tokens generalizing predicates rest with
  | case1 => simp at taken
  | case2 => simp at taken
  | case3 tokens predicate span after first more final later ih =>
    simp at taken
    have one := takePredicate_shorter first
    have others := ih later
    simp only [List.length_cons] at one
    rw [← taken.2]
    omega
  | case4 tokens predicate span after first =>
    simp at taken
    have one := takePredicate_shorter first
    simp only [List.length_cons] at one
    rw [← taken.2]
    omega
  | case5 => simp at taken

theorem takeGroup_length_le {tokens rest : Tokens} {predicates : Option (List Predicate)}
    (taken : takeGroup tokens = .ok (predicates, rest)) : rest.length ≤ tokens.length := by
  unfold takeGroup at taken
  split at taken
  · rename_i after
    cases group : takePredicates after with
    | error => simp [group, bind, Except.bind] at taken
    | ok result =>
      simp [group, bind, Except.bind] at taken
      have := takePredicates_shorter group
      simp only [← taken.2, List.length_cons]
      omega
  · simp at taken
    simp [taken.2]

theorem takeConnection_length_le {tokens rest : Tokens} {connection : Connection}
    (taken : takeConnection tokens = .ok (connection, rest)) : rest.length ≤ tokens.length := by
  unfold takeConnection at taken
  split at taken
  · rename_i after
    cases group : takePredicates after with
    | error => simp [group, bind, Except.bind] at taken
    | ok result =>
      cases dash : takeMark .minus result.2 with
      | error => simp [group, dash, bind, Except.bind] at taken
      | ok final =>
        simp [group, dash, bind, Except.bind] at taken
        have := takePredicates_shorter group
        have := takeMark_shorter dash
        simp only [← taken.2, List.length_cons]
        omega
  · rename_i after
    cases dash : takeMark .minus after with
    | error => simp [dash, bind, Except.bind] at taken
    | ok final =>
      simp [dash, bind, Except.bind] at taken
      have := takeMark_shorter dash
      simp only [← taken.2, List.length_cons]
      omega
  · rename_i after
    cases dash : takeMark .minus after with
    | error => simp [dash, bind, Except.bind] at taken
    | ok final =>
      simp [dash, bind, Except.bind] at taken
      have := takeMark_shorter dash
      simp only [← taken.2, List.length_cons]
      omega
  · simp at taken
    simp [← taken.2]
  · simp at taken
    simp [taken.2]

theorem takeLink_shorter {tokens rest : Tokens} {link : Link}
    (taken : takeLink tokens = .ok (link, rest)) : rest.length < tokens.length := by
  unfold takeLink at taken
  cases opening : takeMark .bracketOpen tokens with
  | error => simp [opening, bind, Except.bind] at taken
  | ok opened =>
    cases name : takeIdent opened.2 with
    | error => simp [opening, name, bind, Except.bind] at taken
    | ok named =>
      cases group : takeGroup named.2 with
      | error => simp [opening, name, group, bind, Except.bind] at taken
      | ok grouped =>
        cases closing : takeMark .bracketClose grouped.2 with
        | error => simp [opening, name, group, closing, bind, Except.bind] at taken
        | ok closed =>
          simp [opening, name, group, closing, bind, Except.bind] at taken
          have := takeMark_shorter opening
          have := takeIdent_shorter name
          have := takeGroup_length_le group
          have := takeMark_shorter closing
          simp only [← taken.2]
          omega

/-- Takes everything after a view: later views, the container's edge and the end. -/
def takeTail (tokens : Tokens) : Except Stop (List (Connection × Link) × Option Connection) :=
  match _joined : takeConnection tokens with
  | .error stop => .error stop
  | .ok (connection, rest) =>
    match rest with
    | ⟨.mark .bracketOpen, span⟩ :: inside =>
      match _linked : takeLink (⟨.mark .bracketOpen, span⟩ :: inside) with
      | .error stop => .error stop
      | .ok (link, rest) =>
        match takeTail rest with
        | .error stop => .error stop
        | .ok (links, trailing) => .ok ((connection, link) :: links, trailing)
    | ⟨.mark .pipe, _⟩ :: rest => (takeEnd rest).map fun _ => ([], some connection)
    | [] => if connection = .flush then .ok ([], none) else .error .ended
    | token :: _ => .error (.unexpected token)
termination_by tokens.length
decreasing_by
  have := takeConnection_length_le _joined
  have := takeLink_shorter _linked
  omega

/-- Takes the tag of an axis, if the next token is one. -/
def takeAxis : Tokens → Option Axis × Tokens
  | ⟨.mark .horizontalTag, _⟩ :: rest => (some .horizontal, rest)
  | ⟨.mark .verticalTag, _⟩ :: rest => (some .vertical, rest)
  | tokens => (none, tokens)

/-- Takes the container's edge and the connection to the first view, if the next token is the
edge. -/
def takeLeading : Reader (Option Connection)
  | ⟨.mark .pipe, _⟩ :: rest => do
    let (connection, rest) ← takeConnection rest
    .ok (some connection, rest)
  | tokens => .ok (none, tokens)

/-- Takes a whole chain and the end of the tokens. -/
def ofTokens (tokens : Tokens) : Except Stop Chain := do
  let (axis, rest) := takeAxis tokens
  let (leading, rest) ← takeLeading rest
  let (first, rest) ← takeLink rest
  let (links, trailing) ← takeTail rest
  .ok ⟨axis, leading, first, links, trailing⟩

/-- Reads a whole text as a chain. -/
def parse (raw : String) : Except SyntaxError Chain :=
  read raw ofTokens

end Chain

end ViewLayout
