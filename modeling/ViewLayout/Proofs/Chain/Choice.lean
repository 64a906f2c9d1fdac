import ViewLayout.Proofs.Chain.Spelling
import ViewLayout.Proofs.Choice

/-!
# Chains by ordered choice

The grammar of chains, put together from parsers that try one alternative after another and give
back what they took when they fail. A connection is where this matters: predicates between two
dashes are tried first, then a bare dash, then nothing at all; and the connection before the
container's edge is tried again after it was given back as the connection to a next view.

The reader of chains looks one token ahead and never gives anything back. It gives the same chain,
and stops where the parser is refused furthest on (`run_chain`).
-/

namespace ViewLayout.Chain

open ViewLayout.Text ViewLayout.Grammar

namespace Choice

/-- A metric name or a number without a sign, as an object. -/
def asSimple : Spanned Token → Option (Spanned Object)
  | ⟨.ident name, span⟩ => some ⟨.name name, span⟩
  | ⟨.number literal, span⟩ => some ⟨.number false literal, span⟩
  | _ => none

/-- A metric name or a number without a sign. -/
def simple : Parser (Spanned Object) := .token asSimple

/-- A number that may have a minus. -/
def signedNumber : Parser (Spanned Object) := do
  let sign ← (Parser.mark .minus).optional
  let literal ← Parser.number
  return match sign with
    | some sign => ⟨.number true literal.value, sign.through literal.span⟩
    | none => ⟨.number false literal.value, literal.span⟩

/-- The object of a predicate. -/
def object : Parser (Spanned Object) := simple.orElse signedNumber

/-- A priority behind an at sign. -/
def priority : Parser (Spanned Object) := do
  let _ ← Parser.mark .atSign
  simple

/-- One predicate. -/
def predicate : Parser Predicate := do
  let relation ← Parser.relation.optional
  let object ← object
  let priority ← priority.optional
  return ⟨relation, object, priority⟩

/-- The predicates of a parenthesis that is open, with its end. -/
def predicates : Parser (List Predicate) := do
  let found ← predicate.separatedBy (Parser.mark .comma)
  let _ ← Parser.mark .parenClose
  return found

/-- Predicates in parentheses. -/
def group : Parser (List Predicate) := do
  let _ ← Parser.mark .parenOpen
  predicates

/-- What stands between two dashes: predicates in parentheses, or a single object. -/
def gap : Parser (List Predicate) :=
  group.orElse do
    let object ← simple
    return [.simple object]

/-- A gap and the second dash. -/
def gapAndDash : Parser Connection := do
  let predicates ← gap
  let _ ← Parser.mark .minus
  return .explicit predicates

/-- Predicates between two dashes, or else a bare dash. -/
def dashed : Parser Connection :=
  Parser.orElse
    (do
      let _ ← Parser.mark .minus
      gapAndDash)
    (do
      let _ ← Parser.mark .minus
      return .standard)

/-- A connection, which may be nothing at all. -/
def connection : Parser Connection := do
  let found ← dashed.optional
  return found.getD .flush

/-- A view behind its opening bracket. -/
def bracketed : Parser Link := do
  let name ← Parser.ident
  let predicates ← group.optional
  let _ ← Parser.mark .bracketClose
  return ⟨name, predicates.getD []⟩

/-- A view in brackets. -/
def link : Parser Link := do
  let _ ← Parser.mark .bracketOpen
  bracketed

/-- A later view with the connection before it. -/
def step : Parser (Connection × Link) := do
  let connection ← connection
  let link ← link
  return (connection, link)

/-- The connection to the container's edge behind the last view. -/
def trailing : Parser Connection := do
  let connection ← connection
  let _ ← Parser.mark .pipe
  return connection

/-- What comes behind the later views: the container's edge, or nothing, and the end. -/
def close (rest : List (Connection × Link)) :
    Parser (List (Connection × Link) × Option Connection) := do
  let trailing ← trailing.optional
  let _ ← Parser.ending
  return (rest, trailing)

/-- Everything behind the first view. -/
def tail : Parser (List (Connection × Link) × Option Connection) := step.many >>= close

/-- The tag of an axis. -/
def asAxis : Spanned Token → Option Axis
  | ⟨.mark .horizontalTag, _⟩ => some .horizontal
  | ⟨.mark .verticalTag, _⟩ => some .vertical
  | _ => none

/-- The container's edge and the connection to the first view. -/
def leading : Parser Connection := do
  let _ ← Parser.mark .pipe
  connection

/-- A whole chain and the end of the tokens. -/
def chain : Parser Chain := do
  let axis ← (Parser.token asAxis).optional
  let leading ← leading.optional
  let first ← link
  let (rest, trailing) ← tail
  return ⟨axis, leading, first, rest, trailing⟩

/-! ## Predicates -/

section Predicates

variable {held : Tokens → Prop}

theorem takeSimple_eq : takeSimple = takeToken asSimple := by
  funext tokens
  rcases tokens with _ | ⟨⟨kind, span⟩, rest⟩
  · rfl
  · cases kind <;> rfl

theorem agrees_simple (tokens : Tokens) :
    Agrees held tokens (takeSimple tokens) (simple tokens) :=
  takeSimple_eq ▸ agrees_token _ tokens

/-- A number behind a minus is taken, and any other token refused. -/
theorem agrees_negative (sign : Span) (rest : Tokens) :
    Agrees held rest (takeObject (⟨.mark .minus, sign⟩ :: rest))
      (signedNumber (⟨.mark .minus, sign⟩ :: rest)) := by
  have behind : signedNumber (⟨.mark .minus, sign⟩ :: rest) = (Parser.number >>= fun literal =>
      pure ⟨.number true literal.value, sign.through literal.span⟩ : Parser _) rest :=
    Parser.optional_token_bind (asMark_self .minus sign) _ rest
  rw [behind]
  rcases rest with _ | ⟨⟨kind, span⟩, rest⟩
  · exact (Parser.Refuses.ended.bind _).agrees
  · cases kind with
    | number literal =>
      have accepted : asNumber ⟨.number literal, span⟩ = some ⟨literal, span⟩ := rfl
      rw [Parser.number, Parser.token_bind accepted]
      exact .took (Nat.le_succ _) behind_none
    | _ =>
      exact ((Parser.Refuses.unaccepted rfl).bind _).agrees

theorem agrees_object (tokens : Tokens) :
    Agrees held tokens (takeObject tokens) (object tokens) := by
  -- Without a minus, a signed number is looked for where no simple object was found.
  have unsigned (simply : simple.Refuses tokens)
      (noMinus : (Parser.mark .minus).Refuses tokens) (noNumber : Parser.number.Refuses tokens) :
      object.Refuses tokens := simply.orElse (noMinus.optional_bind (noNumber.bind _))
  rcases tokens with _ | ⟨⟨kind, span⟩, rest⟩
  · exact (unsigned .ended .ended .ended).agrees
  · cases kind with
    | ident name =>
      rw [object, Parser.orElse_of_taken rfl]
      exact agrees_simple _
    | number literal =>
      rw [object, Parser.orElse_of_taken rfl]
      exact agrees_simple _
    | relation symbol =>
      exact (unsigned (.unaccepted rfl) (.unaccepted rfl) (.unaccepted rfl)).agrees
    | mark mark =>
      by_cases minus : mark = .minus
      · subst minus
        have negative : Agrees held rest _ _ := agrees_negative span rest
        exact .orElse (.unaccepted rfl) (negative.weaken (Nat.le_succ _) fun _ => id)
      · have stopped : takeObject (⟨.mark mark, span⟩ :: rest) =
            .error (stopAt (⟨.mark mark, span⟩ :: rest)) := by
          cases mark <;> first | rfl | contradiction
        rw [stopped]
        exact (unsigned (.unaccepted rfl) (.unaccepted (if_neg minus)) (.unaccepted rfl)).agrees

theorem takeOptionalRelation_eq : takeOptionalRelation = takeOptional asRelation := by
  funext tokens
  rcases tokens with _ | ⟨⟨kind, span⟩, rest⟩
  · rfl
  · cases kind <;> rfl

theorem takePriority_eq : takePriority = takeBehind (asMark .atSign) fun _ => takeSimple := by
  funext tokens
  rcases tokens with _ | ⟨⟨kind, span⟩, rest⟩
  · rfl
  cases kind with
  | mark mark =>
    cases mark with
    | atSign =>
      show (takeSimple rest >>= _) = (takeSimple rest).map _
      cases takeSimple rest <;> rfl
    | _ => rfl
  | _ => rfl

/-- A priority that stops behind its at sign is given back. -/
theorem agrees_priority (tokens : Tokens) :
    Agrees (Lacks [.comma, .parenClose]) tokens (takePriority tokens)
      (priority.optional tokens) := by
  have object (rest : Tokens) : Agrees Nowhere rest (takeSimple rest) (simple rest) :=
    agrees_simple rest
  rw [takePriority_eq]
  exact agrees_behindMark object (fun _ back => back.elim) (by decide) tokens

/-- A predicate is read part by part. -/
theorem takePredicate_eq (tokens : Tokens) :
    takePredicate tokens = (Except.ok (takeOptionalRelation tokens) >>= fun related =>
      takeObject related.2 >>= fun compared => takePriority compared.2 >>= fun weighted =>
        .ok ((⟨related.1, compared.1, weighted.1⟩ : Predicate), weighted.2)) := rfl

theorem agrees_predicate (tokens : Tokens) :
    Agrees (Lacks [.comma, .parenClose]) tokens (takePredicate tokens) (predicate tokens) := by
  have relation : Agrees Nowhere tokens _ _ := agrees_optional asRelation tokens
  rw [takePredicate_eq, takeOptionalRelation_eq]
  refine relation.andThen fun _ rest _ => ?_
  have object : Agrees Nowhere rest (takeObject rest) (object rest) := agrees_object rest
  refine object.andThen fun _ rest _ => ?_
  refine (agrees_priority rest).bind (fun _ rest _ => ?_) fun _ _ back => blocked_pure _ back
  exact .took (Nat.le_refl _) behind_none

/-- Reads the later predicates of a parenthesis, up to its end. -/
def takeMore : Reader (List Predicate)
  | ⟨.mark .comma, _⟩ :: rest => takePredicates rest
  | ⟨.mark .parenClose, _⟩ :: rest => .ok ([], rest)
  | tokens => .error (stopAt tokens)

/-- The predicates of a parenthesis are a first one and the later ones. -/
theorem takePredicates_eq (tokens : Tokens) :
    takePredicates tokens = (takePredicate tokens >>= fun first =>
      (takeMore first.2).map fun others => (first.1 :: others.1, others.2)) := by
  rw [takePredicates]
  split
  · rename_i stop taken
    rw [taken]
    rfl
  · rename_i first span rest taken
    rw [taken]
    show _ = (takePredicates rest).map _
    cases takePredicates rest <;> rfl
  · rename_i first span rest taken
    rw [taken]
    rfl
  · rename_i first rest noComma noEnd taken
    rw [taken]
    show _ = (takeMore rest).map _
    rw [takeMore.eq_def]
    split
    · exact absurd rfl (noComma _ _)
    · exact absurd rfl (noEnd _ _)
    · rfl

/-- A predicate behind a comma. -/
def another : Parser Predicate := do
  let _ ← Parser.mark .comma
  predicate

/-- The end of a parenthesis. -/
def closing (found : List Predicate) : Parser (List Predicate) := do
  let _ ← Parser.mark .parenClose
  return found

/-- The first predicate is taken, and then the later ones up to the end. -/
theorem predicates_eq :
    predicates = predicate >>= fun first => another.many >>= fun others =>
      closing (first :: others) := by
  show ((predicate >>= fun first => another.many >>= fun others => pure (first :: others)) >>=
    closing) = _
  simp only [Parser.bind_assoc, Parser.pure_bind]

/-- Where a token is neither a comma nor the end, a parenthesis gets no further. -/
theorem blocked_more {tokens : Tokens} (lacks : Lacks [.comma, .parenClose] tokens)
    (found : List Predicate → List Predicate) :
    Blocked held tokens ((another.many >>= fun others => closing (found others)) tokens) := by
  have noComma : another.Refuses tokens := (lacks.refuses (by decide)).bind _
  have noEnd : (closing (found [])).Refuses tokens := (lacks.refuses (by decide)).bind _
  exact noComma.blocked_many _ noEnd.blocked

/-- The later predicates of a parenthesis. -/
theorem agrees_more (found : List Predicate → List Predicate) (tokens : Tokens) :
    Agrees held tokens ((takeMore tokens).map fun others => (found others.1, others.2))
      ((another.many >>= fun others => closing (found others)) tokens) := by
  induction size : tokens.length using Nat.strongRecOn generalizing tokens found with
  | ind size ih =>
  subst size
  rcases tokens with _ | ⟨⟨kind, span⟩, rest⟩
  · have noComma : another.Refuses [] := Parser.Refuses.ended.bind _
    have noEnd : (closing (found [])).Refuses [] := Parser.Refuses.ended.bind _
    exact noComma.agrees_many _ noEnd.agrees
  by_cases comma : kind = .mark .comma
  · subst comma
    have read : ((takeMore (⟨.mark .comma, span⟩ :: rest)).map fun others =>
        (found others.1, others.2)) = (takePredicate rest >>= fun first =>
          (takeMore first.2).map fun others => (found (first.1 :: others.1), others.2)) := by
      rw [takeMore, takePredicates_eq]
      cases takePredicate rest with
      | error => rfl
      | ok first =>
        show ((takeMore first.2).map _).map _ = (takeMore first.2).map _
        cases takeMore first.2 <;> rfl
    have noEnd : (closing (found [])).Refuses (⟨.mark .comma, span⟩ :: rest) :=
      (refuses_mark (by simp)).bind _
    rw [read]
    refine (agrees_predicate rest).many_behind _ span noEnd (fun first later taken => ?_)
      fun first later lacks => blocked_more lacks fun others => found (first :: others)
    have fewer : later.length < (⟨.mark .comma, span⟩ :: rest : Tokens).length :=
      Nat.lt_succ_of_lt (takePredicate_shorter taken)
    exact ih later.length fewer (fun others => found (first :: others)) later rfl
  · have noComma : another.Refuses (⟨kind, span⟩ :: rest) :=
      (refuses_mark comma).bind _
    refine noComma.agrees_many _ ?_
    by_cases close : kind = .mark .parenClose
    · subst close
      rw [closing, Parser.mark, Parser.token_bind (asMark_self .parenClose span)]
      exact .took (Nat.le_succ _) behind_none
    · have stopped : takeMore (⟨kind, span⟩ :: rest) =
          .error (stopAt (⟨kind, span⟩ :: rest)) := by
        cases kind with
        | mark mark => cases mark <;> first | rfl | contradiction
        | _ => rfl
      rw [stopped]
      have noEnd : (closing (found [])).Refuses (⟨kind, span⟩ :: rest) :=
        (refuses_mark close).bind _
      exact noEnd.agrees

/-- The predicates of a parenthesis are taken up to its end. -/
theorem agrees_predicates (tokens : Tokens) :
    Agrees held tokens (takePredicates tokens) (predicates tokens) := by
  rw [takePredicates_eq, predicates_eq]
  refine (agrees_predicate tokens).bind (fun first rest _ => ?_) fun first rest lacks =>
    blocked_more lacks _
  exact agrees_more (fun others => first :: others) rest

end Predicates

/-! ## Views -/

theorem takeGroup_eq : takeGroup = takeBehind (asMark .parenOpen) fun _ => takePredicates := by
  funext tokens
  rcases tokens with _ | ⟨⟨kind, span⟩, rest⟩
  · rfl
  cases kind with
  | mark mark =>
    cases mark with
    | parenOpen =>
      show (takePredicates rest >>= _) = (takePredicates rest).map _
      cases takePredicates rest <;> rfl
    | _ => rfl
  | _ => rfl

/-- A parenthesis with predicates that do not end well is given back. -/
theorem agrees_group (tokens : Tokens) :
    Agrees (Lacks [.bracketClose]) tokens (takeGroup tokens) (group.optional tokens) := by
  have inside (rest : Tokens) : Agrees Nowhere rest (takePredicates rest) (predicates rest) :=
    agrees_predicates rest
  rw [takeGroup_eq]
  exact agrees_behindMark inside (fun _ back => back.elim) (by decide) tokens

/-- A view behind its opening bracket is taken. -/
theorem agrees_bracketed (opening : Span) (inside : Tokens) :
    Agrees Nowhere inside (takeLink (⟨.mark .bracketOpen, opening⟩ :: inside))
      (link (⟨.mark .bracketOpen, opening⟩ :: inside)) := by
  have read : takeLink (⟨.mark .bracketOpen, opening⟩ :: inside) =
      (takeIdent inside >>= fun named => takeGroup named.2 >>= fun sized =>
        takeMark .bracketClose sized.2 >>= fun closed =>
          .ok ((⟨named.1, sized.1.getD []⟩ : Link), closed.2)) := rfl
  rw [read, link, Parser.mark, Parser.token_bind (asMark_self .bracketOpen opening)]
  have name : Agrees Nowhere inside (takeIdent inside) (Parser.ident inside) := agrees_ident inside
  refine name.andThen fun _ rest _ => ?_
  refine (agrees_group rest).bind (fun _ rest _ => ?_) fun _ _ lacks =>
    ((lacks.refuses (by decide)).bind _).blocked
  have close : Agrees Nowhere rest (takeMark .bracketClose rest)
    (Parser.mark .bracketClose rest) := agrees_mark .bracketClose rest
  refine close.andThen fun _ rest _ => ?_
  exact .took (Nat.le_refl _) behind_none

/-- A view is taken, and any token but an opening bracket refused. -/
theorem agrees_link (tokens : Tokens) :
    Agrees Nowhere tokens (takeLink tokens) (link tokens) := by
  rcases tokens with _ | ⟨⟨kind, span⟩, rest⟩
  · exact (Parser.Refuses.ended.bind _).agrees
  by_cases opening : kind = .mark .bracketOpen
  · subst opening
    exact (agrees_bracketed span rest).weaken (Nat.le_succ _) fun _ => id
  · have stopped : takeLink (⟨kind, span⟩ :: rest) =
        .error (stopAt (⟨kind, span⟩ :: rest)) := by
      cases kind with
      | mark mark => cases mark <;> first | rfl | contradiction
      | _ => rfl
    rw [stopped]
    exact ((refuses_mark opening).bind _).agrees

/-! ## Connections -/

/-- Between two dashes stands what is in parentheses, or a single object; after a dash alone the
parser goes on with the token that was refused there. -/
theorem connection_of_dash (dash : Span) (rest : Tokens) :
    connection (⟨.mark .minus, dash⟩ :: rest) =
      ⟨some ((gapAndDash rest).result.getD (.standard, rest)), (gapAndDash rest).refused⟩ := by
  have explicit : (Parser.mark .minus >>= fun _ => gapAndDash : Parser Connection)
      (⟨.mark .minus, dash⟩ :: rest) = gapAndDash rest :=
    Parser.token_bind (asMark_self .minus dash) _ rest
  have standard : (Parser.mark .minus >>= fun _ => pure .standard : Parser Connection)
      (⟨.mark .minus, dash⟩ :: rest) = ⟨some (.standard, rest), none⟩ :=
    Parser.token_bind (asMark_self .minus dash) _ rest
  have found : dashed (⟨.mark .minus, dash⟩ :: rest) =
      ⟨some ((gapAndDash rest).result.getD (.standard, rest)), (gapAndDash rest).refused⟩ := by
    unfold dashed Parser.orElse
    rw [explicit, standard]
    generalize gapAndDash rest = attempt
    obtain ⟨result, refused⟩ := attempt
    cases result with
    | none => exact congrArg _ furthest_none
    | some found => rfl
  show dashed.optional.andThen (fun found => .done (found.getD .flush)) _ = _
  rw [Parser.andThen, Parser.optional_eq, found]
  exact congrArg _ furthest_none

/-- The dash before something that does not go on to a second dash is a standard gap. -/
theorem agrees_of_gap {held : Tokens → Prop} {token : Spanned Token} {rest : Tokens} (dash : Span)
    (gap : Agrees Nowhere rest (takeConnection (⟨.mark .minus, dash⟩ :: token :: rest))
      (gapAndDash (token :: rest))) (back : held (token :: rest)) :
    Agrees held (⟨.mark .minus, dash⟩ :: token :: rest)
      (takeConnection (⟨.mark .minus, dash⟩ :: token :: rest))
      (connection (⟨.mark .minus, dash⟩ :: token :: rest)) := by
  rw [connection_of_dash]
  generalize takeConnection (⟨.mark .minus, dash⟩ :: token :: rest) = read at gap
  generalize gapAndDash (token :: rest) = attempt at gap
  cases gap with
  | took within behind =>
    exact .took (Nat.le_succ_of_le (Nat.le_succ_of_le within)) behind
  | failed inside => exact .gaveUp (Nat.le_succ _) (Nat.lt_succ_of_le inside) back
  | gaveUp _ _ impossible => exact impossible.elim

/-- A dash behind which no gap begins is a standard gap. -/
theorem agrees_standard {held : Tokens → Prop} {rest : Tokens} (dash : Span)
    (refuses : gap.Refuses rest) :
    Agrees held (⟨.mark .minus, dash⟩ :: rest) (.ok (.standard, rest))
      (connection (⟨.mark .minus, dash⟩ :: rest)) := by
  have refused : gapAndDash.Refuses rest := refuses.bind _
  rw [connection_of_dash, refused]
  exact .took (Nat.le_succ _) (behind_some (Nat.le_refl _))

/-- What a gap is read as is read with the second dash. -/
theorem agrees_gapAndDash {tokens rest : Tokens}
    {read : Except Stop (List Predicate × Tokens)} (first : Agrees Nowhere rest read (gap tokens)) :
    Agrees Nowhere rest
      (read >>= fun found => takeMark .minus found.2 >>= fun closed =>
        .ok (.explicit found.1, closed.2))
      (gapAndDash tokens) := by
  refine first.andThen fun found later _ => ?_
  have dash : Agrees Nowhere later (takeMark .minus later) (Parser.mark .minus later) :=
    agrees_mark .minus later
  refine dash.andThen fun _ rest _ => ?_
  exact .took (Nat.le_refl _) behind_none

/-- Predicates in parentheses and the second dash. -/
theorem agrees_groupAndDash (dash opening : Span) (rest : Tokens) :
    Agrees Nowhere rest
      (takeConnection (⟨.mark .minus, dash⟩ :: ⟨.mark .parenOpen, opening⟩ :: rest))
      (gapAndDash (⟨.mark .parenOpen, opening⟩ :: rest)) := by
  have inside : group (⟨.mark .parenOpen, opening⟩ :: rest) = predicates rest :=
    Parser.token_bind (asMark_self .parenOpen opening) (fun _ => predicates) rest
  have noObject : simple.Refuses (⟨.mark .parenOpen, opening⟩ :: rest) := .unaccepted rfl
  have first : Agrees Nowhere rest (takePredicates rest)
      (gap (⟨.mark .parenOpen, opening⟩ :: rest)) := by
    refine Agrees.orElse_refused ?_ (noObject.bind _) (Nat.lt_succ_self _)
    rw [inside]
    exact agrees_predicates rest
  exact agrees_gapAndDash first

/-- A single object and the second dash. -/
theorem agrees_objectAndDash {token : Spanned Token} {object : Spanned Object}
    (accepted : asSimple token = some object) (rest : Tokens) :
    Agrees Nowhere rest
      (takeMark .minus rest >>= fun closed => .ok (.explicit [.simple object], closed.2))
      (gapAndDash (token :: rest)) := by
  have noGroup : group.Refuses (token :: rest) := by
    refine (refuses_mark fun opening => ?_).bind _
    obtain ⟨kind, span⟩ := token
    cases opening
    contradiction
  have taken : gap (token :: rest) =
      ⟨some ([.simple object], rest), some ⟨rest.length + 1, .unexpected token⟩⟩ := by
    unfold gap Parser.orElse
    rw [noGroup, simple, Parser.token_bind accepted]
    rfl
  have one : Agrees Nowhere rest (.ok ([.simple object], rest)) (gap (token :: rest)) := by
    rw [taken]
    exact .took (Nat.le_refl _) (behind_some (Nat.le_succ _))
  exact agrees_gapAndDash one

/-- A connection that was given back ends before a token that is neither a view's bracket nor the
edge. -/
theorem agrees_connection (tokens : Tokens) :
    Agrees (Lacks [.bracketOpen, .pipe]) tokens (takeConnection tokens) (connection tokens) := by
  have flush {tokens : Tokens} (refuses : (Parser.mark .minus).Refuses tokens) :
      Agrees (Lacks [.bracketOpen, .pipe]) tokens (.ok (.flush, tokens)) (connection tokens) := by
    have nothing : dashed.Refuses tokens := (refuses.bind _).orElse (refuses.bind _)
    have left : connection tokens =
        ⟨some (.flush, tokens), some ⟨tokens.length, stopAt tokens⟩⟩ := by
      rw [connection, Parser.bind_of_taken (by rw [Parser.optional_eq, nothing])]
      rfl
    rw [left]
    exact .took (Nat.le_refl _) (behind_some (Nat.le_refl _))
  rcases tokens with _ | ⟨⟨kind, dash⟩, rest⟩
  · exact flush .ended
  by_cases minus : kind = .mark .minus
  · subst minus
    -- Behind the dash a gap begins with a parenthesis, a name or a number.
    have standard (noGroup : (Parser.mark .parenOpen).Refuses rest)
        (noObject : simple.Refuses rest) :
        Agrees (Lacks [.bracketOpen, .pipe]) (⟨.mark .minus, dash⟩ :: rest) (.ok (.standard, rest))
          (connection (⟨.mark .minus, dash⟩ :: rest)) :=
      agrees_standard dash ((noGroup.bind _).orElse (noObject.bind _))
    rcases rest with _ | ⟨⟨kind, span⟩, rest⟩
    · exact standard .ended .ended
    cases kind with
    | ident name =>
      exact agrees_of_gap dash (agrees_objectAndDash rfl rest) ⟨_, _, rfl, by simp⟩
    | number literal =>
      exact agrees_of_gap dash (agrees_objectAndDash rfl rest) ⟨_, _, rfl, by simp⟩
    | relation symbol => exact standard (.unaccepted rfl) (.unaccepted rfl)
    | mark mark =>
      by_cases opening : mark = .parenOpen
      · subst opening
        exact agrees_of_gap dash (agrees_groupAndDash dash span rest) ⟨_, _, rfl, by simp⟩
      · have read : takeConnection (⟨.mark .minus, dash⟩ :: ⟨.mark mark, span⟩ :: rest) =
            .ok (.standard, ⟨.mark mark, span⟩ :: rest) := by
          cases mark <;> first | rfl | contradiction
        rw [read]
        exact standard (.unaccepted (if_neg opening)) (.unaccepted rfl)
  · have read : takeConnection (⟨kind, dash⟩ :: rest) = .ok (.flush, ⟨kind, dash⟩ :: rest) := by
      cases kind with
      | mark mark => cases mark <;> first | rfl | contradiction
      | _ => rfl
    rw [read]
    exact flush (refuses_mark minus)

/-- A connection that is read is parsed, and nothing is refused beyond it. -/
theorem exists_parsed_of_takeConnection {tokens rest : Tokens} {connection : Connection}
    (joined : takeConnection tokens = .ok (connection, rest)) :
    ∃ refused, Choice.connection tokens = ⟨some (connection, rest), refused⟩ ∧
      rest.length ≤ tokens.length ∧ Behind rest.length refused := by
  have connected := agrees_connection tokens
  rw [joined] at connected
  exact connected.exists_taken

/-- A connection may be nothing at all, so there always is one. -/
theorem connection_result_ne_none (tokens : Tokens) : (connection tokens).result ≠ none := by
  show (dashed.optional.andThen (fun found => .done (found.getD .flush)) tokens).result ≠ none
  rw [Parser.andThen, Parser.optional_eq]
  exact Option.some_ne_none _

/-- A connection is nothing at all, or takes something. -/
theorem eq_or_shorter_of_takeConnection {tokens rest : Tokens} {connection : Connection}
    (taken : takeConnection tokens = .ok (connection, rest)) :
    rest = tokens ∧ connection = .flush ∨
      rest.length < tokens.length ∧ connection ≠ .flush := by
  obtain ⟨word, spelled, rfl⟩ := spelled_of_takeConnection taken
  cases spelled with
  | flush => exact .inl ⟨rfl, rfl⟩
  | _ =>
    refine .inr ⟨?_, nofun⟩
    simp only [List.length_append, List.length_cons]
    omega

/-! ## Behind a view -/

section Tail

variable {tokens rest : Tokens} (found : List (Connection × Link) → List (Connection × Link))

/-- Where neither a view nor the edge comes behind a connection, and the tokens do not end, the
parser fails where the view was refused. -/
theorem agrees_of_failed {refusal : Refusal} {later : Option Refusal}
    (noView : step tokens = ⟨none, some refusal⟩) (noEdge : trailing tokens = ⟨none, later⟩)
    (settled : Settled refusal later) (more : 0 < tokens.length)
    (start : Settled refusal (some ⟨tokens.length, stopAt tokens⟩)) :
    Agrees Nowhere tokens (.error refusal.stop)
      ((step.many >>= fun others => close (found others)) tokens) := by
  have inside : refusal.left ≤ tokens.length := by
    rcases start _ rfl with before | same
    · exact Nat.le_of_lt before
    · exact Nat.le_of_eq (congrArg Refusal.left same).symm
  have noEnd : Parser.ending.Refuses tokens := by
    cases tokens with
    | nil => exact absurd more (Nat.lt_irrefl 0)
    | cons token rest => exact Parser.ending_refuses token rest
  have closed : close (found []) tokens =
      ⟨none, furthest later (some ⟨tokens.length, stopAt tokens⟩)⟩ :=
    Parser.bind_of_refused (by rw [Parser.optional_eq, noEdge]) (noEnd.bind _)
  have failed : (step tokens).result = none := by rw [noView]
  rw [Parser.many_bind_of_failed _ failed, noView, closed]
  dsimp only
  rw [(settled.furthest start).furthest_eq]
  exact .failed inside

/-- Where both a view and the edge are refused behind a connection, the parser fails there, or where
it was refused further on before. -/
theorem agrees_of_refused {connection : Connection} {refused : Option Refusal} {refusal : Refusal}
    (parsed : Choice.connection tokens = ⟨some (connection, rest), refused⟩)
    (noLink : link.Refuses rest) (noEdge : (Parser.mark .pipe).Refuses rest)
    (further : furthest refused (some ⟨rest.length, stopAt rest⟩) = some refusal)
    (more : 0 < tokens.length) (start : Settled refusal (some ⟨tokens.length, stopAt tokens⟩)) :
    Agrees Nowhere tokens (.error refusal.stop)
      ((step.many >>= fun others => close (found others)) tokens) := by
  have noView : step tokens = ⟨none, some refusal⟩ := by
    rw [step, Parser.bind_of_refused parsed (noLink.bind _), further]
  have edgeless : trailing tokens = ⟨none, some refusal⟩ := by
    rw [trailing, Parser.bind_of_refused parsed (noEdge.bind _), further]
  exact agrees_of_failed found noView edgeless (fun _ same => .inr (Option.some.inj same).symm)
    more start

/-- Where a view stops behind its bracket, the parser fails there. -/
theorem agrees_of_broken {connection : Connection} {opening : Span} {inside : Tokens} {stop : Stop}
    (joined : takeConnection tokens = .ok (connection, ⟨.mark .bracketOpen, opening⟩ :: inside))
    (broken : takeLink (⟨.mark .bracketOpen, opening⟩ :: inside) = .error stop) :
    Agrees Nowhere tokens (.error stop)
      ((step.many >>= fun others => close (found others)) tokens) := by
  obtain ⟨before, parsed, within, behind⟩ := exists_parsed_of_takeConnection joined
  have bracketed := agrees_bracketed opening inside
  rw [broken] at bracketed
  obtain ⟨left, failed, shorter⟩ := bracketed.exists_failed
  have below : left < tokens.length := Nat.lt_of_le_of_lt shorter within
  have noView : step tokens = ⟨none, some ⟨left, stop⟩⟩ := by
    rw [step, Parser.bind_of_taken parsed, Parser.bind_of_failed failed,
      behind.furthest_some (Nat.le_succ_of_le shorter)]
  have noEdge : trailing tokens = _ :=
    Parser.bind_of_refused parsed ((Parser.Refuses.unaccepted rfl).bind _)
  -- The edge is refused at the bracket, which is before the place where the view stops.
  refine agrees_of_failed found noView noEdge ?_ (Nat.zero_lt_of_lt below) (settled_some below)
  exact (behind.furthest (behind_some (Nat.le_refl _))).settled (Nat.lt_succ_of_le shorter)

/-- A view that is taken is a step of the chain. -/
theorem agrees_of_view {connection : Connection} {link : Link} {opening : Span} {inside : Tokens}
    (joined : takeConnection tokens = .ok (connection, ⟨.mark .bracketOpen, opening⟩ :: inside))
    (linked : takeLink (⟨.mark .bracketOpen, opening⟩ :: inside) = .ok (link, rest))
    (others : Agrees Nowhere rest
      ((takeTail rest).map fun read => ((found ((connection, link) :: read.1), read.2), []))
      ((step.many >>= fun others => close (found ((connection, link) :: others))) rest)) :
    Agrees Nowhere tokens
      ((takeTail rest).map fun read => ((found ((connection, link) :: read.1), read.2), []))
      ((step.many >>= fun others => close (found others)) tokens) := by
  obtain ⟨before, parsed, within, behind⟩ := exists_parsed_of_takeConnection joined
  have bracketed := agrees_bracketed opening inside
  rw [linked] at bracketed
  obtain ⟨after, viewed, shorter, further⟩ := bracketed.exists_taken
  have stepped : step tokens =
      ⟨some ((connection, link), rest), furthest before (furthest after none)⟩ := by
    rw [step, Parser.bind_of_taken parsed, Parser.bind_of_taken viewed]
    rfl
  have fewer : rest.length < tokens.length := Nat.lt_of_le_of_lt shorter within
  have behindStep : Behind rest.length (furthest before (furthest after none)) :=
    (behind.le (Nat.le_succ_of_le shorter)).furthest (further.furthest behind_none)
  rw [Parser.many_bind_of_taken _ (by rw [stepped]) fewer, Parser.bind_of_taken stepped]
  exact (others.refused_before behindStep).weaken (Nat.le_of_lt fewer) fun _ => id

/-- The edge that is taken ends the chain. -/
theorem agrees_of_edge {connection : Connection} {edge : Span}
    (joined : takeConnection tokens = .ok (connection, ⟨.mark .pipe, edge⟩ :: rest)) :
    Agrees Nowhere tokens ((takeEnd rest).map fun _ => ((found [], some connection), []))
      ((step.many >>= fun others => close (found others)) tokens) := by
  obtain ⟨before, parsed, within, behind⟩ := exists_parsed_of_takeConnection joined
  have noLink : link.Refuses (⟨.mark .pipe, edge⟩ :: rest) := (Parser.Refuses.unaccepted rfl).bind _
  have noView : step tokens = ⟨none, _⟩ := Parser.bind_of_refused parsed (noLink.bind _)
  have edged : trailing tokens = ⟨some (connection, rest), furthest before none⟩ := by
    rw [trailing, Parser.bind_of_taken parsed, Parser.mark,
      Parser.token_bind (asMark_self .pipe edge)]
    rfl
  have ended : Agrees Nowhere rest _ _ := agrees_ending (found [], some connection) rest
  have closed : close (found []) tokens = _ :=
    Parser.bind_of_taken (by rw [Parser.optional_eq, edged])
  have behindEdge : Behind rest.length before := behind.le (Nat.le_succ _)
  have behindView : Behind rest.length (step tokens).refused := by
    rw [noView]
    exact behindEdge.furthest (behind_some (Nat.le_succ _))
  rw [Parser.many_bind_of_failed _ (by rw [noView]), closed]
  have edgeBefore := ended.refused_before (behindEdge.furthest behind_none)
  exact (edgeBefore.refused_before behindView).weaken (Nat.le_of_lt within) fun _ => id

/-- Everything behind a view is read alike. -/
theorem agrees_tail (tokens : Tokens) :
    Agrees Nowhere tokens ((takeTail tokens).map fun read => ((found read.1, read.2), []))
      ((step.many >>= fun others => close (found others)) tokens) := by
  fun_induction takeTail tokens generalizing found with
  | case1 tokens stop joined =>
    have connected := agrees_connection tokens
    rw [joined] at connected
    generalize parsed : connection tokens = attempt at connected
    cases connected with
    | failed inside => exact absurd (congrArg Attempt.result parsed) (connection_result_ne_none _)
    | @gaveUp _ rest left _ within beyond lacks =>
      have below : left < tokens.length := Nat.lt_of_lt_of_le beyond within
      have further : furthest (some ⟨left, stop⟩) (some ⟨rest.length, stopAt rest⟩) =
          some ⟨left, stop⟩ := (settled_some beyond).furthest_eq
      exact agrees_of_refused found parsed ((lacks.refuses (by decide)).bind _)
        (lacks.refuses (by decide)) further (Nat.zero_lt_of_lt below)
        (settled_some below)
  | case2 tokens connection span inside joined stop linked =>
    exact agrees_of_broken found joined linked
  | case3 tokens connection span inside joined link rest linked stop failed _ ih =>
    have others := ih fun others => found ((connection, link) :: others)
    have whole := agrees_of_view found joined linked others
    rw [failed] at whole
    exact whole
  | case4 tokens connection span inside joined link rest linked links trailing tail _ ih =>
    have others := ih fun others => found ((connection, link) :: others)
    have whole := agrees_of_view found joined linked others
    rw [tail] at whole
    exact whole
  | case5 tokens connection span rest joined =>
    have whole := agrees_of_edge found joined
    cases ended : takeEnd rest <;> (rw [ended] at whole; exact whole)
  | case6 tokens joined =>
    rcases eq_or_shorter_of_takeConnection joined with ⟨rfl, -⟩ | ⟨-, notFlush⟩
    · rw [Parser.many_bind_of_failed _ rfl]
      exact .took (Nat.le_refl _) fun _ _ => Nat.zero_le _
    · exact absurd rfl notFlush
  | case7 tokens connection joined notFlush =>
    rcases eq_or_shorter_of_takeConnection joined with ⟨-, flush⟩ | ⟨shorter, -⟩
    · exact absurd flush notFlush
    obtain ⟨before, parsed, within, behind⟩ := exists_parsed_of_takeConnection joined
    exact agrees_of_refused found parsed (Parser.Refuses.ended.bind _) .ended
      (behind.furthest_some (Nat.le_refl _))
      (Nat.zero_lt_of_lt shorter) (settled_some shorter)
  | case8 tokens connection token rest joined noView noEdge =>
    obtain ⟨before, parsed, within, behind⟩ := exists_parsed_of_takeConnection joined
    have start : Settled ⟨rest.length + 1, .unexpected token⟩
        (some ⟨tokens.length, stopAt tokens⟩) := by
      rcases eq_or_shorter_of_takeConnection joined with ⟨rfl, -⟩ | ⟨shorter, -⟩
      · exact fun _ same => .inr (Option.some.inj same).symm
      · exact settled_some shorter
    have noLink : link.Refuses (token :: rest) := by
      refine (refuses_mark fun opening => ?_).bind _
      obtain ⟨kind, span⟩ := token
      cases opening
      exact noView span joined rfl HEq.rfl
    have noPipe : (Parser.mark .pipe).Refuses (token :: rest) := by
      refine refuses_mark fun edge => ?_
      obtain ⟨kind, span⟩ := token
      cases edge
      exact noEdge span joined rfl HEq.rfl
    exact agrees_of_refused found parsed noLink noPipe (behind.furthest_some (Nat.le_refl _))
      (Nat.zero_lt_of_lt within) start

end Tail

/-! ## Whole chains -/

theorem takeLeading_eq : takeLeading = takeBehind (asMark .pipe) fun _ => takeConnection := by
  funext tokens
  rcases tokens with _ | ⟨⟨kind, span⟩, rest⟩
  · rfl
  cases kind with
  | mark mark =>
    cases mark with
    | pipe =>
      show (takeConnection rest >>= _) = (takeConnection rest).map _
      cases takeConnection rest <;> rfl
    | _ => rfl
  | _ => rfl

/-- The edge before the first view is given back with its connection, when that stops. -/
theorem agrees_leading (tokens : Tokens) :
    Agrees (Lacks [.bracketOpen]) tokens (takeLeading tokens) (leading.optional tokens) := by
  rw [takeLeading_eq]
  exact agrees_behindMark agrees_connection (fun _ lacks => lacks.fewer (by decide)) (by decide)
    tokens

theorem takeAxis_eq : takeAxis = takeOptional asAxis := by
  funext tokens
  rcases tokens with _ | ⟨⟨kind, span⟩, rest⟩
  · rfl
  cases kind with
  | mark mark => cases mark <;> rfl
  | _ => rfl

/-- A chain is read part by part, up to the end. -/
theorem ofTokens_eq (tokens : Tokens) :
    (ofTokens tokens).map (fun chain => (chain, ([] : Tokens))) =
      (Except.ok (takeAxis tokens) >>= fun tagged => takeLeading tagged.2 >>= fun led =>
        takeLink led.2 >>= fun linked =>
          (fun read => ((id read.1, read.2), ([] : Tokens))) <$> takeTail linked.2 >>= fun tail =>
            .ok ((⟨tagged.1, led.1, linked.1, tail.1.1, tail.1.2⟩ : Chain), tail.2)) := by
  show (fun chain => (chain, ([] : Tokens))) <$> ofTokens tokens = _
  simp only [ofTokens, map_bind, bind_map_left]
  rfl

/-- Every part of a chain is read alike. -/
theorem agrees_chain (tokens : Tokens) :
    Agrees Nowhere tokens ((ofTokens tokens).map fun chain => (chain, [])) (chain tokens) := by
  have tag : Agrees Nowhere tokens _ _ := agrees_optional asAxis tokens
  rw [ofTokens_eq, takeAxis_eq]
  refine tag.andThen fun _ rest _ => ?_
  refine (agrees_leading rest).bind (fun _ rest _ => ?_) fun _ _ lacks =>
    (((lacks.refuses (by decide)).bind _).bind _).blocked
  refine (agrees_link rest).andThen fun _ rest _ => ?_
  refine (agrees_tail id rest).andThen fun _ rest _ => ?_
  exact .took (Nat.le_refl _) behind_none

end Choice

open Choice in
/-- Reading one token ahead gives what ordered choice gives: the same chain, or the place where a
token was refused furthest on. -/
theorem run_chain (tokens : Tokens) : chain.run tokens = ofTokens tokens := by
  rw [(agrees_chain tokens).run_eq]
  cases ofTokens tokens <;> rfl

end ViewLayout.Chain
