import ViewLayout.Grammar

/-!
# Ordered choice

The grammar of a format can be put together from parsers that know nothing of what comes next. An
ordered choice tries one parser and, when that fails, another one at the same place; what a parser
took is given back when it fails. A parser that is repeated, or may be left out, is tried and given
back in the same way.

Of a text that is refused only the place is reported where a token was refused furthest on, in
whatever branch. So every attempt carries this place along, also when it succeeds.

A reader that looks one token ahead and never takes anything back agrees with such a parser
(`Agrees`) when it finds the same value, or stops where the parser is refused furthest on. Until the
parser fails for good it may give something back and go on; it is then at a place where it does not
get any further (`Agrees.gaveUp`, `Blocked`).
-/

namespace ViewLayout.Grammar

open ViewLayout.Text

/-! ## Parsers -/

/-- A token that was refused, or another reason to fail. -/
structure Refusal where
  /-- How many tokens are left at the place of the refusal. -/
  left : Nat
  /-- The stop of a reader at this place. -/
  stop : Stop
deriving DecidableEq, Repr

/-- The refusal that is furthest on, and the later one of two at the same place. -/
def furthest : Option Refusal → Option Refusal → Option Refusal
  | none, later => later
  | earlier, none => earlier
  | some earlier, some later =>
    if later.left ≤ earlier.left then some later else some earlier

/-- What a parser makes of some tokens. -/
structure Attempt (α : Type) where
  /-- What it read, with the tokens after that; none if it failed. -/
  result : Option (α × Tokens)
  /-- Where a token was refused furthest on, if one was. -/
  refused : Option Refusal

/-- A parser of `α`. -/
def Parser (α : Type) := Tokens → Attempt α

namespace Parser

variable {α β : Type}

/-- Takes nothing. -/
def done (value : α) : Parser α := fun tokens => ⟨some (value, tokens), none⟩

/-- Takes one token that is accepted. -/
def token (accept : Spanned Token → Option α) : Parser α
  | [] => ⟨none, some ⟨0, .ended⟩⟩
  | token :: rest =>
    match accept token with
    | some value => ⟨some (value, rest), none⟩
    | none => ⟨none, some ⟨rest.length + 1, .unexpected token⟩⟩

/-- Takes the end of the tokens. -/
def ending : Parser Unit
  | [] => ⟨some ((), []), none⟩
  | token :: rest => ⟨none, some ⟨rest.length + 1, .unexpected token⟩⟩

/-- Takes one thing and then another. -/
def andThen (first : Parser α) (next : α → Parser β) : Parser β := fun tokens =>
  let attempt := first tokens
  match attempt.result with
  | none => ⟨none, attempt.refused⟩
  | some (value, rest) =>
    let second := next value rest
    ⟨second.result, furthest attempt.refused second.refused⟩

instance : Monad Parser where
  pure := done
  bind := andThen

/-- Takes the one, or else the other. -/
def orElse (first second : Parser α) : Parser α := fun tokens =>
  let attempt := first tokens
  match attempt.result with
  | some _ => attempt
  | none =>
    let other := second tokens
    ⟨other.result, furthest attempt.refused other.refused⟩

/-- Takes something, or else nothing. -/
def optional (parser : Parser α) : Parser (Option α) :=
  orElse (do return some (← parser)) (done none)

/-- Takes something that passes a check, or fails where it began. -/
def check (parser : Parser α) (fault? : α → Option Stop) : Parser α := fun tokens =>
  let attempt := parser tokens
  match attempt.result.bind fun found => fault? found.1 with
  | none => attempt
  | some stop => ⟨none, furthest attempt.refused (some ⟨tokens.length, stop⟩)⟩

/-- Takes something as often as it can be taken, as long as there is something to it. -/
def many (parser : Parser α) : Parser (List α) := fun tokens =>
  match (parser tokens).result with
  | none => ⟨some ([], tokens), (parser tokens).refused⟩
  | some (value, rest) =>
    if rest.length < tokens.length then
      let others := many parser rest
      ⟨others.result.map fun (values, rest) => (value :: values, rest),
        furthest (parser tokens).refused others.refused⟩
    else ⟨some ([], tokens), (parser tokens).refused⟩
termination_by tokens => tokens.length

/-- Takes one or more things with separators between them. -/
def separatedBy {Separator : Type} (parser : Parser α) (separator : Parser Separator) :
    Parser (List α) := do
  let first ← parser
  let others ← many do
    let _ ← separator
    parser
  return first :: others

/-- Runs a parser on all tokens. The stop is where a token was refused furthest on. -/
def run (parser : Parser α) (tokens : Tokens) : Except Stop α :=
  let attempt := parser tokens
  match attempt.result with
  | some (value, _) => .ok value
  | none => .error ((attempt.refused.map (·.stop)).getD (stopAt tokens))

end Parser

/-! ## Parsers of single tokens -/

/-- The place of a token that is a given mark. -/
def asMark (mark : Mark) : Spanned Token → Option Span
  | ⟨.mark found, span⟩ => if found = mark then some span else none
  | _ => none

/-- The name of a token that is an identifier. -/
def asIdent : Spanned Token → Option (Spanned String)
  | ⟨.ident name, span⟩ => some ⟨name, span⟩
  | _ => none

/-- The literal of a token that is a number. -/
def asNumber : Spanned Token → Option (Spanned String)
  | ⟨.number literal, span⟩ => some ⟨literal, span⟩
  | _ => none

/-- The symbol of a token that is a relation. -/
def asRelation : Spanned Token → Option (Spanned String)
  | ⟨.relation symbol, span⟩ => some ⟨symbol, span⟩
  | _ => none

namespace Parser

/-- Takes one given mark. -/
def mark (mark : Mark) : Parser Span := token (asMark mark)

/-- Takes an identifier. -/
def ident : Parser (Spanned String) := token asIdent

/-- Takes a number without a sign. -/
def number : Parser (Spanned String) := token asNumber

/-- Takes a run of relation characters. -/
def relation : Parser (Spanned String) := token asRelation

end Parser

/-- The mark that is looked for is accepted. -/
theorem asMark_self (mark : Mark) (span : Span) : asMark mark ⟨.mark mark, span⟩ = some span :=
  if_pos rfl

/-! ## Refusals -/

section Refusals

variable {earlier later : Option Refusal} {place left : Nat} {stop : Stop}

/-- All refusals are where the given number of tokens is left, or before. -/
def Behind (place : Nat) (refused : Option Refusal) : Prop :=
  ∀ refusal ∈ refused, place ≤ refusal.left

theorem behind_none : Behind place none := nofun

theorem behind_some (before : place ≤ left) : Behind place (some ⟨left, stop⟩) := by
  rintro refusal ⟨rfl⟩
  exact before

theorem Behind.le {other : Nat} (behind : Behind place earlier) (below : other ≤ place) :
    Behind other earlier := fun refusal listed => Nat.le_trans below (behind refusal listed)

/-- The furthest of refusals that are behind a place is behind it. -/
theorem Behind.furthest (first : Behind place earlier) (second : Behind place later) :
    Behind place (furthest earlier later) := by
  unfold Grammar.furthest
  split
  · exact second
  · exact first
  · split
    · exact second
    · exact first

/-- A refusal that is not behind the earlier ones is the furthest. -/
theorem Behind.furthest_some (behind : Behind place earlier) (on : left ≤ place) :
    Grammar.furthest earlier (some ⟨left, stop⟩) = some ⟨left, stop⟩ := by
  cases earlier with
  | none => rfl
  | some refusal => exact if_pos (Nat.le_trans on (behind refusal rfl))

/-- What is refused later is not as far on as a refusal, or is the same. -/
def Settled (refusal : Refusal) (later : Option Refusal) : Prop :=
  ∀ other ∈ later, refusal.left < other.left ∨ other = refusal

theorem Behind.settled {refusal : Refusal} (behind : Behind place later)
    (beyond : refusal.left < place) : Settled refusal later := fun other listed =>
  .inl (Nat.lt_of_lt_of_le beyond (behind other listed))

/-- What is refused before does not matter. -/
theorem settled_some {refusal : Refusal} (before : refusal.left < left) :
    Settled refusal (some ⟨left, stop⟩) := (behind_some (Nat.le_refl _)).settled before

/-- A refusal that is settled is the furthest. -/
theorem Settled.furthest_eq {refusal : Refusal} (settled : Settled refusal later) :
    Grammar.furthest (some refusal) later = some refusal := by
  cases later with
  | none => rfl
  | some other =>
    rcases settled other rfl with before | rfl
    · exact if_neg (Nat.not_le.2 before)
    · exact if_pos (Nat.le_refl _)

/-- What is settled for two refusals is so for the furthest of them. -/
theorem Settled.furthest {refusal : Refusal} (first : Settled refusal earlier)
    (second : Settled refusal later) : Settled refusal (furthest earlier later) := by
  unfold Grammar.furthest
  split
  · exact second
  · exact first
  · split
    · exact second
    · exact first

theorem none_furthest : furthest none later = later := by
  cases later <;> rfl

theorem furthest_none : furthest earlier none = earlier := by
  cases earlier <;> rfl

/-- It does not matter which refusals are compared first. -/
theorem furthest_assoc (first second third : Option Refusal) :
    furthest (furthest first second) third = furthest first (furthest second third) := by
  rcases first with _ | first
  · rw [none_furthest, none_furthest]
  rcases second with _ | second
  · rw [furthest_none, none_furthest]
  rcases third with _ | third
  · rw [furthest_none, furthest_none]
  by_cases low : second.left ≤ first.left
  · by_cases lower : third.left ≤ second.left
    · have lowest : third.left ≤ first.left := Nat.le_trans lower low
      simp only [furthest, if_pos low, if_pos lower, if_pos lowest]
    · simp only [furthest, if_pos low, if_neg lower]
  · by_cases lower : third.left ≤ second.left
    · simp only [furthest, if_neg low, if_pos lower]
    · have above : ¬third.left ≤ first.left := by omega
      simp only [furthest, if_neg low, if_neg lower, if_neg above]

end Refusals

/-! ## Sequences -/

namespace Parser

variable {α β γ : Type}

/-- What takes nothing leaves everything to what follows. -/
theorem pure_bind (value : α) (next : α → Parser β) : (pure value >>= next) = next value := by
  funext tokens
  exact congrArg (Attempt.mk _) none_furthest

/-- It does not matter which parts of a sequence are put together first. -/
theorem bind_assoc (first : Parser α) (next : α → Parser β) (last : β → Parser γ) :
    ((first >>= next) >>= last) = first >>= fun value => next value >>= last := by
  funext tokens
  show (first.andThen next).andThen last tokens =
    first.andThen (fun value => (next value).andThen last) tokens
  simp only [andThen]
  cases (first tokens).result with
  | none => rfl
  | some found =>
    dsimp only
    cases (next found.1 found.2).result with
    | none => rfl
    | some result => exact congrArg (Attempt.mk _) (furthest_assoc _ _ _)

end Parser

/-! ## Readers that agree with parsers -/

section Agreement

variable {α β : Type} {held stuck : Tokens → Prop} {tokens : Tokens}

/-- An attempt at a place gets no further: it fails, or takes nothing and leaves the tokens as they
are held. -/
structure Blocked (held : Tokens → Prop) (tokens : Tokens) (attempt : Attempt α) : Prop where
  /-- Nothing is refused beyond the place. -/
  behind : Behind tokens.length attempt.refused
  /-- What is left is what there was. -/
  stays : ∀ value rest, attempt.result = some (value, rest) → rest = tokens ∧ held tokens

/-- What may be left out is taken, or else nothing, with what was refused in either case. -/
theorem Parser.optional_eq (parser : Parser α) (tokens : Tokens) :
    parser.optional tokens =
      ⟨some (match (parser tokens).result with
        | some (value, rest) => (some value, rest)
        | none => (none, tokens)), (parser tokens).refused⟩ := by
  show Parser.orElse (parser.andThen fun value => .done (some value)) (.done none) tokens = _
  cases found : (parser tokens).result <;>
    simp only [Parser.orElse, Parser.andThen, found, Parser.done, furthest_none]

/-- A reader agrees with a parser about some tokens. Where the reader stops, the parser may have
given tokens back and go on with tokens that are held. -/
inductive Agrees (held : Tokens → Prop) (tokens : Tokens) :
    Except Stop (α × Tokens) → Attempt α → Prop where
  /-- The same was taken, and nothing was refused beyond it. -/
  | took {value : α} {rest : Tokens} {refused : Option Refusal}
      (within : rest.length ≤ tokens.length) (behind : Behind rest.length refused) :
      Agrees held tokens (.ok (value, rest)) ⟨some (value, rest), refused⟩
  /-- Both stopped at the same place. -/
  | failed {left : Nat} {stop : Stop} (inside : left ≤ tokens.length) :
      Agrees held tokens (.error stop) ⟨none, some ⟨left, stop⟩⟩
  /-- The reader stopped where the parser was refused before it gave tokens back. -/
  | gaveUp {value : α} {rest : Tokens} {left : Nat} {stop : Stop}
      (within : rest.length ≤ tokens.length) (beyond : left < rest.length) (back : held rest) :
      Agrees held tokens (.error stop) ⟨some (value, rest), some ⟨left, stop⟩⟩

/-- No tokens are held. -/
def Nowhere : Tokens → Prop := fun _ => False

/-- Agreement about tokens is agreement about more tokens, and with more ways to hold them. -/
theorem Agrees.weaken {others : Tokens} {read : Except Stop (α × Tokens)} {attempt : Attempt α}
    (agrees : Agrees held tokens read attempt) (longer : tokens.length ≤ others.length)
    (more : ∀ rest, held rest → stuck rest) : Agrees stuck others read attempt := by
  cases agrees with
  | took within behind => exact .took (Nat.le_trans within longer) behind
  | failed inside => exact .failed (Nat.le_trans inside longer)
  | gaveUp within beyond back =>
    exact .gaveUp (Nat.le_trans within longer) beyond (more _ back)

/-- What was refused before, and not beyond the tokens, does not matter to the agreement. -/
theorem Agrees.refused_before {read : Except Stop (α × Tokens)} {attempt : Attempt α}
    {refused : Option Refusal} (agrees : Agrees held tokens read attempt)
    (behind : Behind tokens.length refused) :
    Agrees held tokens read ⟨attempt.result, furthest refused attempt.refused⟩ := by
  cases agrees with
  | took within after => exact .took within ((behind.le within).furthest after)
  | failed inside =>
    dsimp only
    rw [behind.furthest_some inside]
    exact .failed inside
  | gaveUp within beyond back =>
    dsimp only
    rw [behind.furthest_some (Nat.le_trans (Nat.le_of_lt beyond) within)]
    exact .gaveUp within beyond back

/-- No tokens come back that were not there. -/
theorem Agrees.length_le {read : Except Stop (α × Tokens)} {attempt : Attempt α} {value : α}
    {rest : Tokens} (agrees : Agrees held tokens read attempt)
    (found : attempt.result = some (value, rest)) : rest.length ≤ tokens.length := by
  cases agrees with
  | took within => cases found; exact within
  | failed => contradiction
  | gaveUp within => cases found; exact within

/-- Where the reader takes something, so does the parser. -/
theorem Agrees.exists_taken {attempt : Attempt α} {value : α} {rest : Tokens}
    (agrees : Agrees held tokens (.ok (value, rest)) attempt) :
    ∃ refused, attempt = ⟨some (value, rest), refused⟩ ∧ rest.length ≤ tokens.length ∧
      Behind rest.length refused := by
  cases agrees with
  | @took _ _ refused within behind => exact ⟨refused, rfl, within, behind⟩

/-- Where the reader stops and no tokens are held, the parser fails. -/
theorem Agrees.exists_failed {attempt : Attempt α} {stop : Stop}
    (agrees : Agrees Nowhere tokens (.error stop) attempt) :
    ∃ left, attempt = ⟨none, some ⟨left, stop⟩⟩ ∧ left ≤ tokens.length := by
  cases agrees with
  | @failed left _ inside => exact ⟨left, rfl, inside⟩
  | gaveUp _ _ back => exact back.elim

/-- Where the parser fails, the reader stopped at the place of the refusal. -/
theorem Agrees.exists_stop {read : Except Stop (α × Tokens)} {attempt : Attempt α}
    (agrees : Agrees held tokens read attempt) (failed : attempt.result = none) :
    ∃ left stop, left ≤ tokens.length ∧ read = .error stop ∧
      attempt.refused = some ⟨left, stop⟩ := by
  cases agrees with
  | took => contradiction
  | @failed left stop inside => exact ⟨left, stop, inside, rfl, rfl⟩
  | gaveUp => contradiction

/-- A reader that agrees with a parser of all tokens gives what the parser is run for. -/
theorem Agrees.run_eq {read : Except Stop (α × Tokens)} {parser : Parser α}
    (agrees : Agrees Nowhere tokens read (parser tokens)) :
    parser.run tokens = read.map (·.1) := by
  unfold Parser.run
  generalize parser tokens = attempt at agrees
  cases agrees with
  | took => rfl
  | failed => rfl
  | gaveUp _ _ back => exact back.elim

/-- What takes nothing gets no further. -/
theorem blocked_pure (value : α) (back : held tokens) :
    Blocked held tokens ((pure value : Parser α) tokens) where
  behind := behind_none
  stays _ _ found := ⟨(Prod.mk.inj (Option.some.inj found)).2.symm, back⟩

/-- Two things one after the other get no further when neither does. -/
theorem Blocked.bind {parser : Parser α} {next : α → Parser β}
    (first : Blocked stuck tokens (parser tokens))
    (second : ∀ value, stuck tokens → Blocked held tokens (next value tokens)) :
    Blocked held tokens ((parser >>= next) tokens) := by
  show Blocked held tokens (parser.andThen next tokens)
  obtain ⟨behind, stays⟩ := first
  unfold Parser.andThen
  dsimp only
  split
  · exact ⟨behind, nofun⟩
  · rename_i value rest found
    obtain ⟨rfl, back⟩ := stays value rest found
    obtain ⟨later, remains⟩ := second value back
    exact ⟨behind.furthest later, remains⟩

/-- What may be left out gets no further when it fails without getting further. -/
theorem Blocked.optional {parser : Parser α} (fails : Blocked Nowhere tokens (parser tokens))
    (back : held tokens) : Blocked held tokens (parser.optional tokens) := by
  obtain ⟨behind, stays⟩ := fails
  rw [Parser.optional_eq]
  cases found : (parser tokens).result with
  | none => exact ⟨behind, fun _ _ same => ⟨(Prod.mk.inj (Option.some.inj same)).2.symm, back⟩⟩
  | some result => exact (stays result.1 result.2 found).2.elim

/-- A reader that takes two things one after the other agrees with a parser that does, when it does
so for each of them, and the parser gets no further behind the first where the reader stops in
it. -/
theorem Agrees.bind {start : Tokens} {read : Except Stop (α × Tokens)} {parser : Parser α}
    {reader : α × Tokens → Except Stop (β × Tokens)} {next : α → Parser β}
    (first : Agrees stuck tokens read (parser start))
    (second : ∀ value rest, read = .ok (value, rest) →
      Agrees held rest (reader (value, rest)) (next value rest))
    (blocked : ∀ value rest, stuck rest → Blocked held rest (next value rest)) :
    Agrees held tokens (read >>= reader) ((parser >>= next) start) := by
  show Agrees held tokens (read.bind reader) (parser.andThen next start)
  unfold Parser.andThen
  generalize parser start = attempt at first
  cases first with
  | @took value rest refused within behind =>
    have later := second value rest rfl
    dsimp only [Except.bind]
    generalize reader (value, rest) = result at later
    generalize next value rest = attempt at later
    cases later with
    | took inner after =>
      exact .took (Nat.le_trans inner within) ((behind.le inner).furthest after)
    | failed inside =>
      dsimp only
      rw [behind.furthest_some inside]
      exact .failed (Nat.le_trans inside within)
    | gaveUp inner beyond back =>
      dsimp only
      rw [behind.furthest_some (Nat.le_trans (Nat.le_of_lt beyond) inner)]
      exact .gaveUp (Nat.le_trans inner within) beyond back
  | failed inside => exact .failed inside
  | @gaveUp value rest left stop within beyond back =>
    obtain ⟨behind, stays⟩ := blocked value rest back
    dsimp only [Except.bind]
    rw [(behind.settled beyond).furthest_eq]
    cases found : (next value rest).result with
    | none => exact .failed (Nat.le_trans (Nat.le_of_lt beyond) within)
    | some result =>
      obtain ⟨same, back⟩ := stays result.1 result.2 found
      have there : result = (result.1, rest) := Prod.ext rfl same
      rw [there]
      exact .gaveUp within beyond back

/-- Where a parser stops with the reader, it only matters how things go on behind what both took. -/
theorem Agrees.andThen {start : Tokens} {read : Except Stop (α × Tokens)} {parser : Parser α}
    {reader : α × Tokens → Except Stop (β × Tokens)} {next : α → Parser β}
    (first : Agrees Nowhere tokens read (parser start))
    (second : ∀ value rest, read = .ok (value, rest) →
      Agrees held rest (reader (value, rest)) (next value rest)) :
    Agrees held tokens (read >>= reader) ((parser >>= next) start) :=
  first.bind second fun _ _ back => back.elim

/-! ### Tokens that are refused at once -/

/-- A parser refuses the next token. -/
def Parser.Refuses (parser : Parser α) (tokens : Tokens) : Prop :=
  parser tokens = ⟨none, some ⟨tokens.length, stopAt tokens⟩⟩

namespace Parser.Refuses

variable {parser other : Parser α}

/-- Where the tokens end, any token is refused. -/
theorem ended {accept : Spanned Token → Option α} : (token accept).Refuses [] := rfl

/-- A token that is not accepted is refused. -/
theorem unaccepted {accept : Spanned Token → Option α} {token : Spanned Token} {rest : Tokens}
    (none : accept token = none) : (Parser.token accept).Refuses (token :: rest) := by
  simp only [Refuses, Parser.token, none]
  rfl

/-- What begins with something that refuses the next token refuses it. -/
theorem bind (refuses : parser.Refuses tokens) (next : α → Parser β) :
    (parser >>= next).Refuses tokens := by
  show parser.andThen next tokens = _
  rw [andThen, refuses]

/-- An ordered choice refuses the next token when both of its parsers do. -/
theorem orElse (first : parser.Refuses tokens) (second : other.Refuses tokens) :
    (parser.orElse other).Refuses tokens := by
  unfold Refuses Parser.orElse
  rw [first, second]
  exact congrArg _ (if_pos (Nat.le_refl _))

/-- A parser that refuses the next token gets no further. -/
theorem blocked (refuses : parser.Refuses tokens) : Blocked held tokens (parser tokens) := by
  rw [refuses]
  exact ⟨behind_some (Nat.le_refl _), nofun⟩

/-- A reader that stops at the next token agrees with a parser that refuses it. -/
theorem agrees (refuses : parser.Refuses tokens) :
    Agrees held tokens (.error (stopAt tokens)) (parser tokens) := by
  rw [refuses]
  exact .failed (Nat.le_refl _)

/-- What may be left out is, when it refuses the next token. -/
theorem optional (refuses : parser.Refuses tokens) :
    Agrees held tokens (.ok (none, tokens)) (parser.optional tokens) := by
  rw [Parser.optional_eq, refuses]
  exact .took (Nat.le_refl _) (behind_some (Nat.le_refl _))

/-- What may be left out and refuses the next token leaves it to what follows. -/
theorem optional_bind {next : Option α → Parser β} (refuses : parser.Refuses tokens)
    (later : (next none).Refuses tokens) : (parser.optional >>= next).Refuses tokens := by
  show parser.optional.andThen next tokens = _
  rw [andThen, Parser.optional_eq, refuses]
  dsimp only
  rw [later]
  exact congrArg _ (if_pos (Nat.le_refl _))

end Parser.Refuses

/-! ### Tokens that are taken -/

/-- What comes behind something that was taken goes on from there. -/
theorem Parser.bind_of_taken {parser : Parser α} {next : α → Parser β} {value : α} {rest : Tokens}
    {refused : Option Refusal} (taken : parser tokens = ⟨some (value, rest), refused⟩) :
    (parser >>= next) tokens =
      ⟨(next value rest).result, furthest refused (next value rest).refused⟩ := by
  show parser.andThen next tokens = _
  rw [andThen, taken]

/-- Nothing comes behind something that failed. -/
theorem Parser.bind_of_failed {parser : Parser α} {next : α → Parser β}
    {refused : Option Refusal} (failed : parser tokens = ⟨none, refused⟩) :
    (parser >>= next) tokens = ⟨none, refused⟩ := by
  show parser.andThen next tokens = _
  rw [andThen, failed]

/-- Behind something that was taken the next token is refused. -/
theorem Parser.bind_of_refused {parser : Parser α} {next : α → Parser β} {value : α}
    {rest : Tokens} {refused : Option Refusal}
    (taken : parser tokens = ⟨some (value, rest), refused⟩) (refuses : (next value).Refuses rest) :
    (parser >>= next) tokens = ⟨none, furthest refused (some ⟨rest.length, stopAt rest⟩)⟩ := by
  rw [bind_of_taken taken, refuses]

/-- What begins with a token that is accepted goes on behind it. -/
theorem Parser.token_bind {accept : Spanned Token → Option α} {token : Spanned Token} {value : α}
    (accepted : accept token = some value) (next : α → Parser β) (rest : Tokens) :
    (Parser.token accept >>= next) (token :: rest) = next value rest := by
  show (Parser.token accept).andThen next (token :: rest) = _
  rw [Parser.andThen, Parser.token, accepted]
  dsimp only
  rw [none_furthest]

/-- What may be left out and is a token that is accepted is taken. -/
theorem Parser.optional_token_bind {accept : Spanned Token → Option α} {token : Spanned Token}
    {value : α} (accepted : accept token = some value) (next : Option α → Parser β)
    (rest : Tokens) :
    ((Parser.token accept).optional >>= next) (token :: rest) = next (some value) rest := by
  show (Parser.token accept).optional.andThen next (token :: rest) = _
  rw [Parser.andThen, Parser.optional_eq, Parser.token, accepted]
  dsimp only
  rw [none_furthest]

/-! ### Choices -/

section Choices

variable {first second : Parser α}

/-- Where the first of two parsers succeeds, their choice is the first. -/
theorem Parser.orElse_of_taken {found : α × Tokens} (taken : (first tokens).result = some found) :
    first.orElse second tokens = first tokens := by
  rw [orElse, taken]

/-- Where the first of two parsers refuses the next token, their choice is the second. -/
theorem Agrees.orElse {read : Except Stop (α × Tokens)} (refuses : first.Refuses tokens)
    (agrees : Agrees held tokens read (second tokens)) :
    Agrees held tokens read (first.orElse second tokens) := by
  unfold Parser.orElse
  rw [refuses]
  exact agrees.refused_before (behind_some (Nat.le_refl _))

/-- Where the second of two parsers refuses the next token, their choice is like the first, which is
read from a place further on. -/
theorem Agrees.orElse_refused {rest : Tokens} {read : Except Stop (α × Tokens)}
    (agrees : Agrees held rest read (first tokens)) (refuses : second.Refuses tokens)
    (shorter : rest.length < tokens.length) :
    Agrees held rest read (first.orElse second tokens) := by
  unfold Parser.orElse
  rw [refuses]
  have behind : Behind tokens.length (some ⟨tokens.length, stopAt tokens⟩) :=
    behind_some (Nat.le_refl _)
  generalize first tokens = attempt at agrees
  cases agrees with
  | took within after => exact .took within after
  | failed inside =>
    dsimp only
    rw [(behind.settled (Nat.lt_of_le_of_lt inside shorter)).furthest_eq]
    exact .failed inside
  | gaveUp within beyond back => exact .gaveUp within beyond back

end Choices

/-! ### Repetition -/

section Repetition

variable {parser : Parser α} (next : List α → Parser β)

/-- What can be taken once more is taken first. -/
theorem Parser.many_bind_of_taken {value : α} {rest : Tokens}
    (taken : (parser tokens).result = some (value, rest)) (on : rest.length < tokens.length) :
    (many parser >>= next) tokens = (parser >>= fun value =>
      many parser >>= fun values => next (value :: values)) tokens := by
  show (many parser).andThen next tokens = parser.andThen (fun value =>
    (many parser).andThen fun values => next (value :: values)) tokens
  rw [andThen, andThen, many, taken]
  dsimp only
  rw [if_pos on, andThen]
  cases found : (many parser rest).result with
  | none => rfl
  | some others => exact congrArg (Attempt.mk _) (furthest_assoc _ _ _)

/-- What cannot be taken once more is over. -/
theorem Parser.many_bind_of_failed (failed : (parser tokens).result = none) :
    (many parser >>= next) tokens =
      ⟨(next [] tokens).result, furthest (parser tokens).refused (next [] tokens).refused⟩ := by
  show (many parser).andThen next tokens = _
  rw [andThen, many, failed]

/-- What is repeated and refuses the next token leaves it to what follows. -/
theorem Parser.Refuses.agrees_many {read : Except Stop (β × Tokens)}
    (refuses : parser.Refuses tokens) (later : Agrees held tokens read (next [] tokens)) :
    Agrees held tokens read ((many parser >>= next) tokens) := by
  have failed : (parser tokens).result = none := by rw [refuses]
  rw [many_bind_of_failed next failed, refuses]
  exact later.refused_before (behind_some (Nat.le_refl _))

/-- What is repeated and refuses the next token gets no further, when what follows does not. -/
theorem Parser.Refuses.blocked_many (refuses : parser.Refuses tokens)
    (later : Blocked held tokens (next [] tokens)) :
    Blocked held tokens ((many parser >>= next) tokens) := by
  have failed : (parser tokens).result = none := by rw [refuses]
  rw [many_bind_of_failed next failed, refuses]
  exact ⟨(behind_some (Nat.le_refl _)).furthest later.behind, later.stays⟩

/-- Where something is repeated behind a mark, a mark with nothing behind it is given back, and what
comes behind the repetition does not take it. -/
theorem Agrees.many_behind {mark : Mark} {rest : Tokens} {read : Except Stop (α × Tokens)}
    {reader : α × Tokens → Except Stop (β × Tokens)} (span : Span)
    (one : Agrees stuck rest read (parser rest))
    (noEnd : (next []).Refuses (⟨.mark mark, span⟩ :: rest))
    (others : ∀ value later, read = .ok (value, later) → Agrees held later (reader (value, later))
      (((Parser.mark mark >>= fun _ => parser).many >>= fun values =>
        next (value :: values)) later))
    (blocked : ∀ value later, stuck later → Blocked held later
      (((Parser.mark mark >>= fun _ => parser).many >>= fun values =>
        next (value :: values)) later)) :
    Agrees held (⟨.mark mark, span⟩ :: rest) (read >>= reader)
      (((Parser.mark mark >>= fun _ => parser).many >>= next) (⟨.mark mark, span⟩ :: rest)) := by
  have behind : (Parser.mark mark >>= fun _ => parser) (⟨.mark mark, span⟩ :: rest) = parser rest :=
    Parser.token_bind (asMark_self mark span) (fun _ => parser) rest
  cases result : (parser rest).result with
  | none =>
    obtain ⟨left, stop, inside, stopped, refused⟩ := one.exists_stop result
    have settled : Settled ⟨left, stop⟩
        (some ⟨rest.length + 1, stopAt (⟨.mark mark, span⟩ :: rest)⟩) :=
      settled_some (Nat.lt_succ_of_le inside)
    rw [Parser.many_bind_of_failed _ (behind ▸ result), behind, refused, noEnd, stopped]
    dsimp only [List.length_cons]
    rw [settled.furthest_eq]
    exact .failed (Nat.le_succ_of_le inside)
  | some taken =>
    have shorter : taken.2.length < (⟨.mark mark, span⟩ :: rest : Tokens).length :=
      Nat.lt_succ_of_le (one.length_le result)
    rw [Parser.many_bind_of_taken _ (behind ▸ result) shorter, Parser.bind_assoc, Parser.mark,
      Parser.token_bind (asMark_self mark span)]
    exact (one.bind others blocked).weaken (Nat.le_succ _) fun _ => id

end Repetition

/-! ### Single tokens -/

section Accepting

variable (accept : Spanned Token → Option α)

/-- Takes one token that is accepted. -/
def takeToken : Reader α
  | [] => .error .ended
  | token :: rest =>
    match accept token with
    | some value => .ok (value, rest)
    | none => .error (.unexpected token)

/-- Takes one token, if it is accepted. -/
def takeOptional : Tokens → Option α × Tokens
  | [] => (none, [])
  | token :: rest =>
    match accept token with
    | some value => (some value, rest)
    | none => (none, token :: rest)

/-- Reads on behind one token, if it is accepted. -/
def takeBehind (next : α → Reader β) : Reader (Option β)
  | [] => .ok (none, [])
  | token :: rest =>
    match accept token with
    | some value => (next value rest).map fun (value, rest) => (some value, rest)
    | none => .ok (none, token :: rest)

/-- The next token is accepted. -/
def Accepts (tokens : Tokens) : Prop :=
  ∃ token rest, tokens = token :: rest ∧ accept token ≠ none

/-- A token that is accepted is taken, and any other one refused. -/
theorem agrees_token (tokens : Tokens) :
    Agrees held tokens (takeToken accept tokens) (Parser.token accept tokens) := by
  rcases tokens with _ | ⟨token, rest⟩
  · exact Parser.Refuses.ended.agrees
  cases accepted : accept token with
  | some value =>
    rw [takeToken, Parser.token, accepted]
    exact .took (Nat.le_succ _) behind_none
  | none =>
    rw [takeToken, accepted]
    exact (Parser.Refuses.unaccepted accepted).agrees

/-- A token that may be left out is taken if it is accepted. -/
theorem agrees_optional (tokens : Tokens) :
    Agrees held tokens (.ok (takeOptional accept tokens))
      ((Parser.token accept).optional tokens) := by
  rcases tokens with _ | ⟨token, rest⟩
  · exact Parser.Refuses.ended.optional
  cases accepted : accept token with
  | some value =>
    rw [takeOptional, Parser.optional_eq, Parser.token, accepted]
    exact .took (Nat.le_succ _) behind_none
  | none =>
    rw [takeOptional, accepted]
    exact (Parser.Refuses.unaccepted accepted).optional

/-- What may be left out and begins with a token that is accepted is read like what follows the
token, unless that fails: then the parser goes back to the token. -/
theorem agrees_behind {reader : α → Reader β} {next : α → Parser β}
    (agrees : ∀ value rest, Agrees stuck rest (reader value rest) (next value rest))
    (tokens : Tokens) :
    Agrees (fun back => stuck back ∨ Accepts accept back) tokens (takeBehind accept reader tokens)
      ((Parser.token accept >>= next).optional tokens) := by
  rcases tokens with _ | ⟨token, rest⟩
  · exact (Parser.Refuses.ended.bind _).optional
  cases accepted : accept token with
  | some value =>
    have back : Accepts accept (token :: rest) :=
      ⟨token, rest, rfl, accepted ▸ Option.some_ne_none value⟩
    have inner := agrees value rest
    rw [takeBehind, Parser.optional_eq, Parser.token_bind accepted next rest, accepted]
    dsimp only
    generalize reader value rest = read at inner
    generalize next value rest = attempt at inner
    cases inner with
    | took within behind => exact .took (Nat.le_succ_of_le within) behind
    | failed inside => exact .gaveUp (Nat.le_refl _) (Nat.lt_succ_of_le inside) (.inr back)
    | gaveUp within beyond held => exact .gaveUp (Nat.le_succ_of_le within) beyond (.inl held)
  | none =>
    rw [takeBehind, accepted]
    exact ((Parser.Refuses.unaccepted accepted).bind _).optional

end Accepting

theorem takeMark_eq (mark : Mark) : takeMark mark = takeToken (asMark mark) := by
  funext tokens
  rcases tokens with _ | ⟨⟨kind, span⟩, rest⟩
  · rfl
  cases kind with
  | mark found =>
    by_cases same : found = mark
    · simp only [takeMark, takeToken, asMark, if_pos same]
    · simp only [takeMark, takeToken, asMark, if_neg same]
  | _ => rfl

theorem takeIdent_eq : takeIdent = takeToken asIdent := by
  funext tokens
  rcases tokens with _ | ⟨⟨kind, span⟩, rest⟩
  · rfl
  · cases kind <;> rfl

theorem takeRelation_eq : takeRelation = takeToken asRelation := by
  funext tokens
  rcases tokens with _ | ⟨⟨kind, span⟩, rest⟩
  · rfl
  · cases kind <;> rfl

theorem agrees_mark (mark : Mark) (tokens : Tokens) :
    Agrees held tokens (takeMark mark tokens) (Parser.mark mark tokens) :=
  takeMark_eq mark ▸ agrees_token _ tokens

theorem agrees_ident (tokens : Tokens) :
    Agrees held tokens (takeIdent tokens) (Parser.ident tokens) :=
  takeIdent_eq ▸ agrees_token _ tokens

theorem agrees_relation (tokens : Tokens) :
    Agrees held tokens (takeRelation tokens) (Parser.relation tokens) :=
  takeRelation_eq ▸ agrees_token _ tokens

/-! ### Marks -/

/-- A mark is refused where another token comes next. -/
theorem refuses_mark {mark : Mark} {token : Spanned Token} {rest : Tokens}
    (other : token.value ≠ .mark mark) : (Parser.mark mark).Refuses (token :: rest) := by
  obtain ⟨kind, span⟩ := token
  refine .unaccepted ?_
  cases kind with
  | mark found => exact if_neg fun same => other (congrArg Token.mark same)
  | _ => rfl

/-- There is a next token, and it is none of some marks. -/
def Lacks (marks : List Mark) (tokens : Tokens) : Prop :=
  ∃ token rest, tokens = token :: rest ∧ ∀ mark ∈ marks, token.value ≠ .mark mark

/-- Where the next token is another one, a mark is refused. -/
theorem Lacks.refuses {marks : List Mark} {mark : Mark} (lacks : Lacks marks tokens)
    (listed : mark ∈ marks) : (Parser.mark mark).Refuses tokens := by
  obtain ⟨token, rest, rfl, other⟩ := lacks
  exact refuses_mark (other mark listed)

/-- What is none of some marks is none of fewer marks. -/
theorem Lacks.fewer {marks others : List Mark} (lacks : Lacks marks tokens)
    (listed : ∀ mark ∈ others, mark ∈ marks) : Lacks others tokens := by
  obtain ⟨token, rest, rfl, other⟩ := lacks
  exact ⟨token, rest, rfl, fun mark present => other mark (listed mark present)⟩

/-- The next token is a mark, and not one of some others. -/
theorem Accepts.lacks {marks : List Mark} {mark : Mark} (accepts : Accepts (asMark mark) tokens)
    (other : mark ∉ marks) : Lacks marks tokens := by
  obtain ⟨⟨kind, span⟩, rest, rfl, taken⟩ := accepts
  refine ⟨_, rest, rfl, fun listed present same => other ?_⟩
  obtain rfl : kind = .mark listed := same
  have found : listed = mark := Decidable.by_contra fun different => taken (if_neg different)
  exact found ▸ present

/-- What may be left out and stands behind a mark is given back with the mark, when the reader stops
in it. -/
theorem agrees_behindMark {mark : Mark} {marks : List Mark} {reader : Reader α}
    {parser : Parser α} (agrees : ∀ rest, Agrees stuck rest (reader rest) (parser rest))
    (more : ∀ rest, stuck rest → Lacks marks rest) (other : mark ∉ marks) (tokens : Tokens) :
    Agrees (Lacks marks) tokens (takeBehind (asMark mark) (fun _ => reader) tokens)
      ((Parser.mark mark >>= fun _ => parser).optional tokens) := by
  have behind := agrees_behind (asMark mark) (fun _ => agrees) tokens
  refine behind.weaken (Nat.le_refl _) ?_
  rintro back (held | accepted)
  · exact more back held
  · exact accepted.lacks other

/-! ### The end -/

/-- Where there is a next token, the end is refused. -/
theorem Parser.ending_refuses (token : Spanned Token) (rest : Tokens) :
    Parser.ending.Refuses (token :: rest) := rfl

/-- The end is taken, and any token refused. -/
theorem agrees_ending (value : α) (tokens : Tokens) :
    Agrees held tokens ((takeEnd tokens).map fun _ => (value, []))
      ((Parser.ending >>= fun _ => pure value) tokens) := by
  cases tokens with
  | nil => exact .took (Nat.le_refl _) behind_none
  | cons token rest => exact ((Parser.ending_refuses token rest).bind _).agrees

/-! ### Checks -/

/-- A parser without alternatives: of what it takes nothing was refused. -/
def Parser.Straight (parser : Parser α) : Prop :=
  ∀ tokens, (parser tokens).result ≠ none → (parser tokens).refused = none

theorem Parser.straight_token (accept : Spanned Token → Option α) :
    (Parser.token accept).Straight := by
  intro tokens taken
  rcases tokens with _ | ⟨token, rest⟩
  · contradiction
  · cases accepted : accept token with
    | some value => rw [Parser.token, accepted]
    | none =>
      rw [Parser.token, accepted] at taken
      contradiction

theorem Parser.Straight.bind {parser : Parser α} {next : α → Parser β} (first : parser.Straight)
    (second : ∀ value, (next value).Straight) : (parser >>= next).Straight := by
  intro tokens
  show (parser.andThen next tokens).result ≠ none → (parser.andThen next tokens).refused = none
  unfold Parser.andThen
  dsimp only
  split
  · exact fun taken => absurd rfl taken
  · rename_i value rest found
    intro taken
    dsimp only at taken ⊢
    rw [first tokens (found ▸ Option.some_ne_none _), second value rest taken]
    rfl

/-- What was read, if it passes a check. -/
def passed (fault? : α → Option Stop) (found : α × Tokens) : Except Stop (α × Tokens) :=
  match fault? found.1 with
  | none => .ok found
  | some stop => .error stop

/-- What does not pass a check is refused where it began. -/
theorem Agrees.check {read : Except Stop (α × Tokens)} {parser : Parser α}
    {fault? : α → Option Stop} (agrees : Agrees Nowhere tokens read (parser tokens))
    (straight : parser.Straight) :
    Agrees Nowhere tokens (read >>= passed fault?) (parser.check fault? tokens) := by
  have alone := straight tokens
  unfold Parser.check
  generalize parser tokens = attempt at agrees alone
  cases agrees with
  | @took value rest refused within behind =>
    obtain rfl : refused = none := alone (Option.some_ne_none _)
    show Agrees Nowhere tokens (passed fault? (value, rest)) _
    unfold passed
    cases fault : fault? value with
    | none =>
      simp only [Option.bind_some, fault]
      exact .took within behind_none
    | some stop =>
      simp only [Option.bind_some, fault, none_furthest]
      exact .failed (Nat.le_refl _)
  | failed inside => exact .failed inside
  | gaveUp _ _ back => exact back.elim

end Agreement

end ViewLayout.Grammar
