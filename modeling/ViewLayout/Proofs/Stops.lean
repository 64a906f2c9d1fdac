import ViewLayout.Proofs.Chain.Spelling
import ViewLayout.Proofs.Equation.Spelling

/-!
# Where readers stop

A reader that stops names a token that it was given, the end of the tokens, or the place of two
tokens that it was given with a dot set apart between them. Every reader of equations and of chains
keeps to this: what a step of it does not take is what the next step is given.
-/

namespace ViewLayout

open ViewLayout.Text ViewLayout.Outcome

namespace Grammar

/-- A stop is at a token among these, at their end, or from one of them through a later one. -/
def Stop.Among (tokens : Tokens) : Stop → Prop
  | .unexpected token => token ∈ tokens
  | .ended => True
  | .spacedDot span => ∃ first last, [first, last].Sublist tokens ∧
      span = first.span.through last.span

/-- A stop among tokens is among these and those before them. -/
theorem Stop.Among.append {stop : Stop} {rest : Tokens} (among : stop.Among rest) (word : Tokens) :
    stop.Among (word ++ rest) := by
  cases stop with
  | unexpected token => exact List.mem_append_right _ among
  | ended => trivial
  | spacedDot span =>
    obtain ⟨first, last, part, same⟩ := among
    exact ⟨first, last, part.trans (List.sublist_append_right _ _), same⟩

/-- A stop among the last of some tokens is among the tokens. -/
theorem Stop.Among.of_suffix {stop : Stop} {rest tokens : Tokens} (among : stop.Among rest)
    (last : rest <:+ tokens) : stop.Among tokens := by
  obtain ⟨word, rfl⟩ := last
  exact among.append word

/-- A stop among tokens is among these and one before them. -/
theorem Stop.Among.cons {stop : Stop} {rest : Tokens} (among : stop.Among rest)
    (token : Spanned Token) : stop.Among (token :: rest) :=
  among.append [token]

/-- A reader for which the next token is the wrong one stops there or at the end. -/
theorem among_stopAt (tokens : Tokens) : (stopAt tokens).Among tokens := by
  cases tokens with
  | nil => trivial
  | cons token rest => exact List.mem_cons_self

variable {tokens : Tokens} {stop : Stop}

/-- Readers one after the other stop among the tokens when the first does, and leaves the last of
them to the others, which stop among those. -/
theorem among_of_bind {α β : Type} {step : Except Stop (α × Tokens)}
    {next : α × Tokens → Except Stop β} (stopped : (step >>= next) = .error stop)
    (here : step = .error stop → stop.Among tokens)
    (leaves : ∀ value rest, step = .ok (value, rest) → rest <:+ tokens)
    (later : ∀ value rest, next (value, rest) = .error stop → stop.Among rest) :
    stop.Among tokens := by
  rcases bind_eq_error_iff.1 stopped with first | ⟨⟨value, rest⟩, taken, others⟩
  · exact here first
  · exact (later value rest others).of_suffix (leaves value rest taken)

/-- Taking a mark leaves what is after it. -/
theorem suffix_of_takeMark {mark : Mark} {rest : Tokens} {span : Span}
    (taken : takeMark mark tokens = .ok (span, rest)) : rest <:+ tokens :=
  ⟨[_], (takeMark_eq_ok_iff.1 taken).symm⟩

/-- Taking an identifier leaves what is after it. -/
theorem suffix_of_takeIdent {rest : Tokens} {name : Spanned String}
    (taken : takeIdent tokens = .ok (name, rest)) : rest <:+ tokens :=
  ⟨[_], (takeIdent_eq_ok_iff.1 taken).symm⟩

/-- Taking a relation leaves what is after it. -/
theorem suffix_of_takeRelation {rest : Tokens} {symbol : Spanned String}
    (taken : takeRelation tokens = .ok (symbol, rest)) : rest <:+ tokens :=
  ⟨[_], (takeRelation_eq_ok_iff.1 taken).symm⟩

/-- Where no mark can be taken. -/
theorem among_of_takeMark {mark : Mark} (stopped : takeMark mark tokens = .error stop) :
    stop.Among tokens := by
  unfold takeMark at stopped
  split at stopped
  · split at stopped
    · contradiction
    · obtain rfl := Except.error.inj stopped
      exact List.mem_cons_self
  · obtain rfl := Except.error.inj stopped
    exact among_stopAt _

/-- Where no identifier can be taken. -/
theorem among_of_takeIdent (stopped : takeIdent tokens = .error stop) : stop.Among tokens := by
  unfold takeIdent at stopped
  split at stopped
  · contradiction
  · obtain rfl := Except.error.inj stopped
    exact among_stopAt _

/-- Where no relation can be taken. -/
theorem among_of_takeRelation (stopped : takeRelation tokens = .error stop) :
    stop.Among tokens := by
  unfold takeRelation at stopped
  split at stopped
  · contradiction
  · obtain rfl := Except.error.inj stopped
    exact among_stopAt _

/-- Where no value can be taken. -/
theorem among_of_takeValue (stopped : takeValue tokens = .error stop) : stop.Among tokens := by
  unfold takeValue at stopped
  split at stopped
  · contradiction
  · contradiction
  · obtain rfl := Except.error.inj stopped
    exact among_stopAt _

/-- Where the tokens do not end. -/
theorem among_of_takeEnd (stopped : takeEnd tokens = .error stop) : stop.Among tokens := by
  cases tokens with
  | nil => contradiction
  | cons token rest =>
    obtain rfl := Except.error.inj stopped
    exact List.mem_cons_self

end Grammar

open Grammar

variable {tokens : Tokens} {stop : Stop}

/-! ## Equations -/

namespace Equation

/-- An operand is not taken at one of its tokens, or from its key through its attribute. -/
theorem among_of_takeOperand (stopped : takeOperand tokens = .error stop) : stop.Among tokens := by
  unfold takeOperand at stopped
  rcases bind_eq_error_iff.1 stopped with key | ⟨⟨key, second⟩, keyTaken, dotted⟩
  · exact among_of_takeIdent key
  rcases bind_eq_error_iff.1 dotted with dot | ⟨⟨dot, third⟩, dotTaken, edged⟩
  · exact (among_of_takeMark dot).of_suffix (suffix_of_takeIdent keyTaken)
  rcases bind_eq_error_iff.1 edged with edge | ⟨⟨edge, rest⟩, edgeTaken, apart⟩
  · exact ((among_of_takeIdent edge).of_suffix (suffix_of_takeMark dotTaken)).of_suffix
      (suffix_of_takeIdent keyTaken)
  obtain rfl := takeIdent_eq_ok_iff.1 keyTaken
  obtain rfl := takeMark_eq_ok_iff.1 dotTaken
  obtain rfl := takeIdent_eq_ok_iff.1 edgeTaken
  dsimp only at apart
  split at apart
  · contradiction
  · obtain rfl := Except.error.inj apart
    refine ⟨⟨.ident key.value, key.span⟩, ⟨.ident edge.value, edge.span⟩, ?_, rfl⟩
    exact .cons_cons _ (.cons _ (.cons_cons _ (List.nil_sublist _)))

/-- After the operator of a clause a value is missing. -/
theorem among_of_takeClause {Operator : Type} {operator : Spanned Operator}
    (stopped : (do let (value, rest) ← takeValue tokens
                   .ok (some (⟨operator, value⟩ : Clause Operator), rest)) = Except.error stop) :
    stop.Among tokens := by
  rcases bind_eq_error_iff.1 stopped with value | ⟨_, -, taken⟩
  · exact among_of_takeValue value
  · contradiction

/-- Where a factor cannot be taken. -/
theorem among_of_takeFactor (stopped : takeFactor tokens = .error stop) : stop.Among tokens := by
  unfold takeFactor at stopped
  split at stopped
  · exact (among_of_takeClause stopped).cons _
  · exact (among_of_takeClause stopped).cons _
  · contradiction

/-- Where a term cannot be taken. -/
theorem among_of_takeTerm (stopped : takeTerm tokens = .error stop) : stop.Among tokens := by
  unfold takeTerm at stopped
  split at stopped
  · exact (among_of_takeClause stopped).cons _
  · exact (among_of_takeClause stopped).cons _
  · contradiction

/-- Taking an operand leaves what is after it. -/
theorem suffix_of_takeOperand {rest : Tokens} {operand : Operand}
    (taken : takeOperand tokens = .ok (operand, rest)) : rest <:+ tokens := by
  obtain ⟨word, -, rfl⟩ := takeOperand_eq_ok_iff.1 taken
  exact List.suffix_append word rest

/-- Taking a factor leaves what is after it. -/
theorem suffix_of_takeFactor {rest : Tokens} {factor : Option (Clause FactorOperator)}
    (taken : takeFactor tokens = .ok (factor, rest)) : rest <:+ tokens := by
  obtain ⟨word, -, rfl⟩ := spelled_of_takeFactor taken
  exact List.suffix_append word rest

/-- Taking a term leaves what is after it. -/
theorem suffix_of_takeTerm {rest : Tokens} {term : Option (Clause TermOperator)}
    (taken : takeTerm tokens = .ok (term, rest)) : rest <:+ tokens := by
  obtain ⟨word, -, rfl⟩ := spelled_of_takeTerm taken
  exact List.suffix_append word rest

/-- The reader of equations stops among the tokens it is given. -/
theorem among_of_ofTokens (stopped : ofTokens tokens = .error stop) : stop.Among tokens := by
  unfold ofTokens at stopped
  refine among_of_bind stopped among_of_takeMark (fun _ _ => suffix_of_takeMark)
    fun _ rest stopped => ?_
  refine among_of_bind stopped among_of_takeOperand (fun _ _ => suffix_of_takeOperand)
    fun first rest stopped => ?_
  refine among_of_bind stopped among_of_takeRelation (fun _ _ => suffix_of_takeRelation)
    fun relation rest stopped => ?_
  refine among_of_bind stopped among_of_takeOperand (fun _ _ => suffix_of_takeOperand)
    fun second rest stopped => ?_
  refine among_of_bind stopped among_of_takeFactor (fun _ _ => suffix_of_takeFactor)
    fun factor rest stopped => ?_
  refine among_of_bind stopped among_of_takeTerm (fun _ _ => suffix_of_takeTerm)
    fun term rest stopped => ?_
  rcases bind_eq_error_iff.1 stopped with ending | ⟨_, -, done⟩
  · exact among_of_takeEnd ending
  · contradiction

end Equation

/-! ## Chains -/

namespace Chain

/-- Where no name or number can be taken. -/
theorem among_of_takeSimple (stopped : takeSimple tokens = .error stop) : stop.Among tokens := by
  unfold takeSimple at stopped
  split at stopped
  · contradiction
  · contradiction
  · obtain rfl := Except.error.inj stopped
    exact among_stopAt _

/-- Where no object can be taken. -/
theorem among_of_takeObject (stopped : takeObject tokens = .error stop) : stop.Among tokens := by
  unfold takeObject at stopped
  split at stopped
  · contradiction
  · obtain rfl := Except.error.inj stopped
    exact (among_stopAt _).cons _
  · exact among_of_takeSimple stopped

/-- Where a priority cannot be taken. -/
theorem among_of_takePriority (stopped : takePriority tokens = .error stop) :
    stop.Among tokens := by
  unfold takePriority at stopped
  split at stopped
  · rcases bind_eq_error_iff.1 stopped with value | ⟨_, -, taken⟩
    · exact (among_of_takeSimple value).cons _
    · contradiction
  · contradiction

/-- Taking an object leaves what is after it. -/
theorem suffix_of_takeObject {rest : Tokens} {object : Spanned Object}
    (taken : takeObject tokens = .ok (object, rest)) : rest <:+ tokens := by
  obtain ⟨word, -, rfl⟩ := spelled_of_takeObject taken
  exact List.suffix_append word rest

/-- Where no predicate can be taken. -/
theorem among_of_takePredicate (stopped : takePredicate tokens = .error stop) :
    stop.Among tokens := by
  unfold takePredicate at stopped
  cases related : takeOptionalRelation tokens with
  | mk relation rest =>
    rw [related] at stopped
    rw [relationTokens_append_of_take related]
    refine Stop.Among.append ?_ _
    refine among_of_bind stopped among_of_takeObject (fun _ _ => suffix_of_takeObject)
      fun object rest stopped => ?_
    rcases bind_eq_error_iff.1 stopped with priority | ⟨_, -, taken⟩
    · exact among_of_takePriority priority
    · contradiction

/-- Taking a predicate leaves what is after it. -/
theorem suffix_of_takePredicate {rest : Tokens} {predicate : Predicate}
    (taken : takePredicate tokens = .ok (predicate, rest)) : rest <:+ tokens := by
  obtain ⟨word, -, rfl⟩ := spelled_of_takePredicate taken
  exact List.suffix_append word rest

/-- Where predicates in a parenthesis cannot be taken. -/
theorem among_of_takePredicates (stopped : takePredicates tokens = .error stop) :
    stop.Among tokens := by
  fun_induction takePredicates tokens with
  | case1 tokens found wrong =>
    obtain rfl := Except.error.inj stopped
    exact among_of_takePredicate wrong
  | case2 tokens predicate comma rest taken found wrong ih =>
    obtain rfl := Except.error.inj stopped
    exact ((ih wrong).cons _).of_suffix (suffix_of_takePredicate taken)
  | case3 => contradiction
  | case4 => contradiction
  | case5 tokens predicate rest _ _ taken =>
    obtain rfl := Except.error.inj stopped
    exact (among_stopAt rest).of_suffix (suffix_of_takePredicate taken)

/-- Taking predicates in a parenthesis leaves what is after it. -/
theorem suffix_of_takePredicates {rest : Tokens} {predicates : List Predicate}
    (taken : takePredicates tokens = .ok (predicates, rest)) : rest <:+ tokens := by
  obtain ⟨word, closing, -, rfl⟩ := spelled_of_takePredicates taken
  exact (List.suffix_cons _ rest).trans (List.suffix_append word _)

/-- Where predicates in parentheses cannot be taken. -/
theorem among_of_takeGroup (stopped : takeGroup tokens = .error stop) : stop.Among tokens := by
  unfold takeGroup at stopped
  split at stopped
  · rcases bind_eq_error_iff.1 stopped with group | ⟨_, -, taken⟩
    · exact (among_of_takePredicates group).cons _
    · contradiction
  · contradiction

/-- After the inside of a connection its second dash is missing. -/
theorem among_of_closing {α : Type} {value : α}
    (stopped : (do let (_, rest) ← takeMark .minus tokens
                   .ok (value, rest)) = Except.error stop) : stop.Among tokens := by
  rcases bind_eq_error_iff.1 stopped with dash | ⟨_, -, taken⟩
  · exact among_of_takeMark dash
  · contradiction

/-- Where a connection cannot be taken. -/
theorem among_of_takeConnection (stopped : takeConnection tokens = .error stop) :
    stop.Among tokens := by
  unfold takeConnection at stopped
  split at stopped
  · refine Stop.Among.cons (Stop.Among.cons ?_ _) _
    exact among_of_bind stopped among_of_takePredicates (fun _ _ => suffix_of_takePredicates)
      fun predicates rest => among_of_closing
  · exact ((among_of_closing stopped).cons _).cons _
  · exact ((among_of_closing stopped).cons _).cons _
  · contradiction
  · contradiction

/-- Taking a connection leaves what is after it. -/
theorem suffix_of_takeConnection {rest : Tokens} {connection : Connection}
    (taken : takeConnection tokens = .ok (connection, rest)) : rest <:+ tokens := by
  obtain ⟨word, -, rfl⟩ := spelled_of_takeConnection taken
  exact List.suffix_append word rest

/-- Taking predicates in parentheses leaves what is after them. -/
theorem suffix_of_takeGroup {rest : Tokens} {predicates : Option (List Predicate)}
    (taken : takeGroup tokens = .ok (predicates, rest)) : rest <:+ tokens := by
  rcases spelled_of_takeGroup taken with ⟨-, rfl⟩ | ⟨_, word, -, -, rfl⟩
  · exact List.suffix_refl _
  · exact List.suffix_append word rest

/-- Where no view can be taken. -/
theorem among_of_takeLink (stopped : takeLink tokens = .error stop) : stop.Among tokens := by
  unfold takeLink at stopped
  refine among_of_bind stopped among_of_takeMark (fun _ _ => suffix_of_takeMark)
    fun _ rest stopped => ?_
  refine among_of_bind stopped among_of_takeIdent (fun _ _ => suffix_of_takeIdent)
    fun name rest stopped => ?_
  refine among_of_bind stopped among_of_takeGroup (fun _ _ => suffix_of_takeGroup)
    fun predicates rest stopped => ?_
  rcases bind_eq_error_iff.1 stopped with closing | ⟨_, -, taken⟩
  · exact among_of_takeMark closing
  · contradiction

/-- Taking a view leaves what is after it. -/
theorem suffix_of_takeLink {rest : Tokens} {link : Link}
    (taken : takeLink tokens = .ok (link, rest)) : rest <:+ tokens := by
  obtain ⟨word, -, rfl⟩ := spelled_of_takeLink taken
  exact List.suffix_append word rest

/-- Where what follows a view cannot be taken. -/
theorem among_of_takeTail (stopped : takeTail tokens = .error stop) : stop.Among tokens := by
  fun_induction takeTail tokens with
  | case1 tokens found wrong =>
    obtain rfl := Except.error.inj stopped
    exact among_of_takeConnection wrong
  | case2 tokens connection span inside joined found wrong =>
    obtain rfl := Except.error.inj stopped
    exact (among_of_takeLink wrong).of_suffix (suffix_of_takeConnection joined)
  | case3 tokens connection span inside joined link rest linked found wrong _ ih =>
    obtain rfl := Except.error.inj stopped
    exact ((ih wrong).of_suffix (suffix_of_takeLink linked)).of_suffix
      (suffix_of_takeConnection joined)
  | case4 => contradiction
  | case5 tokens connection span rest joined =>
    have ending := map_eq_error_iff.1 stopped
    exact ((among_of_takeEnd ending).cons _).of_suffix (suffix_of_takeConnection joined)
  | case6 => contradiction
  | case7 =>
    obtain rfl := Except.error.inj stopped
    trivial
  | case8 tokens connection token rest joined =>
    obtain rfl := Except.error.inj stopped
    exact (suffix_of_takeConnection joined).subset List.mem_cons_self

/-- Where the leading edge cannot be taken. -/
theorem among_of_takeLeading (stopped : takeLeading tokens = .error stop) : stop.Among tokens := by
  unfold takeLeading at stopped
  split at stopped
  · rcases bind_eq_error_iff.1 stopped with connection | ⟨_, -, taken⟩
    · exact (among_of_takeConnection connection).cons _
    · contradiction
  · contradiction

/-- Taking the leading edge leaves what is after it. -/
theorem suffix_of_takeLeading {rest : Tokens} {leading : Option Connection}
    (taken : takeLeading tokens = .ok (leading, rest)) : rest <:+ tokens := by
  obtain ⟨word, -, rfl⟩ := spelled_of_takeLeading taken
  exact List.suffix_append word rest

/-- The reader of chains stops among the tokens it is given. -/
theorem among_of_ofTokens (stopped : ofTokens tokens = .error stop) : stop.Among tokens := by
  unfold ofTokens at stopped
  cases tagged : takeAxis tokens with
  | mk axis rest =>
    rw [tagged] at stopped
    obtain ⟨tag, -, rfl⟩ := spelled_of_takeAxis tagged
    refine Stop.Among.append ?_ tag
    refine among_of_bind stopped among_of_takeLeading (fun _ _ => suffix_of_takeLeading)
      fun leading rest stopped => ?_
    refine among_of_bind stopped among_of_takeLink (fun _ _ => suffix_of_takeLink)
      fun first rest stopped => ?_
    rcases bind_eq_error_iff.1 stopped with tail | ⟨_, -, taken⟩
    · exact among_of_takeTail tail
    · contradiction

end Chain

end ViewLayout
