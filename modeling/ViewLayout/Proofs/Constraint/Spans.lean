import ViewLayout.Proofs.Constraint.Attribution
import ViewLayout.Proofs.Stops
import ViewLayout.Proofs.Token.Lossless

/-!
# Errors can be shown in their text

An error is shown by cutting the text at its span, so the span has to be a range of the text that
begins and ends between characters. Spans come from the scanner, from the tokens at which a reader
stops, from a dot that is set apart, and from the words of a constraint, and all of these are such
ranges.

There is one exception. A text that ends too early is reported between its end and the end of its
last token, which is the wrong way round when spaces come after that token.
-/

namespace ViewLayout

open ViewLayout.Text ViewLayout.Grammar ViewLayout.Outcome

namespace Text

/-- A place in a text is between two of its characters, or at one of its ends. -/
def IsBoundary (raw : String) (place : Nat) : Prop :=
  ∃ before after, raw = before ++ after ∧ place = before.utf8ByteSize

/-- A text can be cut at a span: it is a range of the text and does not divide a character. -/
structure Span.Sliceable (span : Span) (raw : String) : Prop where
  /-- The span does not end before it starts. -/
  forward : span.start ≤ span.stop
  /-- The span ends in the text. -/
  within : span.stop ≤ raw.utf8ByteSize
  /-- The span starts between characters. -/
  start : IsBoundary raw span.start
  /-- The span ends between characters. -/
  stop : IsBoundary raw span.stop

/-- A text ends in a space. -/
def EndsInSpace (raw : String) : Prop := raw.toList.getLast? = some ' '

/-- The place of a part of a text is a span at which the text can be cut. -/
theorem Span.Cuts.sliceable {span : Span} {raw part : String} (cuts : span.Cuts raw part) :
    span.Sliceable raw := by
  obtain ⟨before, after, rfl, start, stop⟩ := cuts
  refine ⟨?_, ?_, ⟨before, part ++ after, String.append_assoc, start⟩, ⟨_, after, rfl, stop⟩⟩
  · rw [start, stop, String.utf8ByteSize_append]
    exact Nat.le_add_right _ _
  · have later : (before ++ part ++ after).utf8ByteSize =
        (before ++ part).utf8ByteSize + after.utf8ByteSize := String.utf8ByteSize_append
    rw [stop, later]
    exact Nat.le_add_right _ _

/-- A text can be cut from the start of one part to the end of a later one. -/
theorem Span.Sliceable.through {first last : Span} {raw : String} (front : first.Sliceable raw)
    (back : last.Sliceable raw) (ordered : first.stop ≤ last.start) :
    (first.through last).Sliceable raw :=
  ⟨front.forward.trans (ordered.trans back.forward), back.within, front.start, back.stop⟩

/-- A text can be cut at its end. -/
theorem Span.sliceable_end (raw : String) :
    Span.Sliceable ⟨raw.utf8ByteSize, raw.utf8ByteSize⟩ raw :=
  ⟨Nat.le_refl _, Nat.le_refl _, ⟨raw, "", by simp, rfl⟩, ⟨raw, "", by simp, rfl⟩⟩

end Text

/-! ## The end of a text -/

namespace Token

/-- After the last token of a division there are only spaces. -/
theorem Divided.exists_trailing {offset : Nat} {text : List Char} {tokens : List (Spanned Token)}
    {last : Spanned Token} (divided : Divided offset text tokens)
    (final : tokens.getLast? = some last) :
    ∃ front spaces, text = front ++ List.replicate spaces ' ' ∧
      last.span.stop = offset + byteLength front := by
  induction divided with
  | done => contradiction
  | @space offset text tokens later ih =>
    obtain ⟨front, spaces, rfl, stop⟩ := ih final
    refine ⟨' ' :: front, spaces, rfl, ?_⟩
    have narrow : ' '.utf8Size = 1 := rfl
    rw [stop, byteLength_cons, narrow, Nat.add_assoc]
  | @token offset token text tokens longest later ih =>
    cases tokens with
    | nil =>
      rw [List.getLast?_singleton] at final
      obtain rfl := Option.some.inj final
      obtain ⟨spaces, rfl⟩ := later.exists_replicate
      exact ⟨token.text.toList, spaces, rfl, by rw [byteLength_toList]⟩
    | cons next tokens =>
      rw [List.getLast?_cons_cons] at final
      obtain ⟨front, spaces, rfl, stop⟩ := ih final
      refine ⟨token.text.toList ++ front, spaces, (List.append_assoc _ _ _).symm, ?_⟩
      rw [stop, byteLength_append, byteLength_toList, Nat.add_assoc]

end Token

/-- The place after the last token is a span at which the text can be cut, unless spaces come after
that token. -/
theorem Grammar.sliceable_endSpan {raw : String} {tokens : Tokens}
    (scanned : Token.scan raw = .ok tokens) :
    (endSpan raw tokens).Sliceable raw ∨ EndsInSpace raw := by
  unfold endSpan
  cases final : tokens.getLast? with
  | none => exact .inl (Span.sliceable_end raw)
  | some last =>
    obtain ⟨front, spaces, split, stop⟩ :=
      (Token.scanFrom_eq_ok_iff.1 scanned).exists_trailing final
    cases spaces with
    | zero =>
      rw [List.replicate_zero, List.append_nil] at split
      have atEnd : last.span.stop = raw.utf8ByteSize := by
        rw [stop, Nat.zero_add, ← split, byteLength_toList]
      have whole := Span.sliceable_end raw
      nth_rewrite 2 [← atEnd] at whole
      exact .inl whole
    | succ spaces =>
      refine .inr ?_
      rw [EndsInSpace, split, List.replicate_succ', ← List.append_assoc, List.getLast?_concat]

/-! ## Where each error is placed -/

/-- What the place of an error has to be: the text can be cut there, unless it ends too early and in
a space; and a token that is reported stands at that place. -/
structure Reportable (raw : String) (fault : Option SyntaxFault) (span : Span) : Prop where
  /-- The text can be cut at the span, or ends in spaces where something has to follow. -/
  sliceable : span.Sliceable raw ∨ fault = some .unexpectedEnd ∧ EndsInSpace raw
  /-- The place of an unexpected token is that of the token. -/
  token : ∀ token, fault = some (.unexpectedToken token) →
    ∃ tokens, Token.scan raw = .ok tokens ∧ ⟨token, span⟩ ∈ tokens

/-- A part of a text is a place where any error can be reported that names no token. -/
theorem Text.Span.Cuts.reportable {span : Span} {raw part : String} {fault : Option SyntaxFault}
    (cuts : span.Cuts raw part) (other : ∀ token, fault ≠ some (.unexpectedToken token)) :
    Reportable raw fault span :=
  ⟨.inl cuts.sliceable, fun token same => absurd same (other token)⟩

/-- The character at which a scan is stuck stands in the text at its span. -/
theorem Token.StuckAt.cuts {raw : String} {found : Spanned Char} (stuck : StuckAt raw found) :
    found.span.Cuts raw (String.singleton found.value) := by
  obtain ⟨before, tokens, after, split, -, span⟩ := stuck.reached
  have inside : raw.toList = before ++ ((String.singleton found.value).toList ++ after) := by
    rw [String.toList_singleton]
    exact split
  rw [span, ← String.utf8ByteSize_singleton]
  exact Span.cuts_of_toList inside

/-- A stop among the tokens of a text is reported where it can be. -/
theorem Grammar.Stop.Among.reportable {raw : String} {tokens : Tokens} {stop : Stop}
    (among : stop.Among tokens) (scanned : Token.scan raw = .ok tokens) :
    Reportable raw (some (errorOf raw tokens stop).fault) (errorOf raw tokens stop).span := by
  have sliceable (token : Spanned Token) (present : token ∈ tokens) : token.span.Sliceable raw :=
    (Token.cuts_of_scan scanned token present).sliceable
  cases stop with
  | unexpected token =>
    refine ⟨.inl (sliceable token among), fun named same => ?_⟩
    obtain rfl := SyntaxFault.unexpectedToken.inj (Option.some.inj same)
    exact ⟨tokens, scanned, among⟩
  | ended =>
    exact ⟨(sliceable_endSpan scanned).imp_right fun spaced => ⟨rfl, spaced⟩, nofun⟩
  | spacedDot span =>
    obtain ⟨first, last, part, rfl⟩ := among
    have apart := (Token.scanFrom_eq_ok_iff.1 scanned).pairwise.sublist part
    have ordered : first.span.stop ≤ last.span.start :=
      (List.pairwise_cons.1 apart).1 last List.mem_cons_self
    have front := sliceable first (part.subset (by simp))
    have back := sliceable last (part.subset (by simp))
    exact ⟨.inl (front.through back ordered), nofun⟩

/-- A reader that stops among the tokens it is given has its errors reported where they can be. -/
theorem Grammar.reportable_of_read {α : Type} {raw : String} {reader : Tokens → Except Stop α}
    {error : SyntaxError}
    (stops : ∀ tokens stop, reader tokens = .error stop → stop.Among tokens)
    (failed : read raw reader = .error error) : Reportable raw (some error.fault) error.span := by
  unfold read at failed
  cases scanned : Token.scan raw with
  | error found =>
    rw [scanned] at failed
    obtain rfl := Except.error.inj failed
    exact (Token.scan_eq_error_iff.1 scanned).cuts.reportable nofun
  | ok tokens =>
    rw [scanned] at failed
    dsimp only at failed
    split at failed
    · rename_i stop stopped
      obtain rfl := Except.error.inj failed
      exact (stops tokens stop stopped).reportable scanned
    · contradiction

/-- The error of a text that is no chain is reported where it can be. -/
theorem Chain.reportable_of_parse {raw : String} {error : SyntaxError}
    (failed : parse raw = .error error) : Reportable raw (some error.fault) error.span :=
  reportable_of_read (fun _ _ => among_of_ofTokens) failed

/-- The error of a text that is no equation is reported where it can be. -/
theorem Equation.reportable_of_parse {raw : String} {rejection : Rejection}
    (failed : parse raw = .error rejection) :
    Reportable raw (some rejection.error.fault) rejection.error.span := by
  unfold parse at failed
  cases taken : read raw ofTokens with
  | error error =>
    rw [taken] at failed
    obtain rfl := Except.error.inj failed
    exact reportable_of_read (fun _ _ => among_of_ofTokens) taken
  | ok e =>
    rw [taken] at failed
    dsimp only at failed
    split at failed
    · rename_i index part long
      obtain rfl := Except.error.inj failed
      obtain ⟨tokens, scanned, spelled⟩ := read_eq_ok_iff.1 taken
      -- The long identifier is one of the captured groups, and these stand in the text.
      have present : part ∈ presentParts (e.captures raw) :=
        List.mem_filterMap.2 ⟨_, List.mem_of_find?_eq_some long, rfl⟩
      have cuts := (faithful_captures scanned (ofTokens_eq_ok_iff.1 spelled)).cuts part present
      exact cuts.reportable nofun
    · contradiction

/-- The place of an error of compiling an equation is one where it can be reported. -/
theorem Equation.reportable_of_compile {raw : String} {registry : Registry} {metrics : Metrics}
    {error : ConstraintError} (failed : compile raw registry metrics = .error error) {span : Span}
    (placed : error.span? = some span) : Reportable raw error.syntaxFault? span := by
  cases parsed : parse raw with
  | error rejection =>
    rw [compile_of_rejected parsed] at failed
    obtain rfl := Except.error.inj failed
    obtain rfl := Option.some.inj placed
    exact reportable_of_parse parsed
  | ok e =>
    rw [compile_of_parse parsed] at failed
    rcases blames_of_lower failed with rfl | ⟨word, fault, blamed, rfl⟩
    · contradiction
    · obtain rfl := Option.some.inj placed
      exact (blamed.located parsed).1.reportable nofun

/-- The place of an error of compiling a chain is one where it can be reported. -/
theorem Chain.reportable_of_compile {raw : String} {spacing : Spacing} {registry : Registry}
    {metrics : Metrics} {rejection : Rejection}
    (failed : compile raw spacing registry metrics = .error rejection) :
    Reportable raw (ConstraintError.rejected raw rejection.fault rejection.span).syntaxFault?
      rejection.span := by
  rcases malformed_or_blames_of_compile failed with
    ⟨fault, parsed, wrong⟩ | ⟨chain, item, -, blamed, cuts, -⟩
  · rw [wrong]
    exact reportable_of_parse parsed
  · rw [blamed.syntaxFault?_eq_none]
    exact cuts.reportable nofun

/-- Every error of scanning, reading or compiling a text can be shown in it. The text can be cut at
the place of the error, unless the text ends too early and in a space. Where a token is reported as
unexpected, it stands in the text at the place of the error. -/
theorem error_spans_can_be_cut (raw : String) :
    (∀ found, Token.scan raw = .error found → found.span.Sliceable raw) ∧
    (∀ rejection, Equation.parse raw = .error rejection →
      Reportable raw (some rejection.error.fault) rejection.error.span) ∧
    (∀ error, Chain.parse raw = .error error → Reportable raw (some error.fault) error.span) ∧
    ∀ spacing registry metrics priority error,
      Constraint.compile raw spacing registry metrics priority = .error error →
      ∀ span, error.span? = some span → Reportable raw error.syntaxFault? span := by
  refine ⟨fun found failed => (Token.scan_eq_error_iff.1 failed).cuts.sliceable,
    fun _ => Equation.reportable_of_parse, fun _ => Chain.reportable_of_parse,
    fun spacing registry metrics priority error failed span placed => ?_⟩
  cases kind : Constraint.isEquation raw with
  | true =>
    exact Equation.reportable_of_compile (Constraint.equation_error_of_compile kind failed) placed
  | false =>
    obtain ⟨rejection, refused, rfl⟩ := Constraint.eq_rejected_of_compile kind failed
    obtain rfl := Option.some.inj placed
    exact Chain.reportable_of_compile refused

/-- The exception does occur: the place of this error starts after the space and ends before it. -/
example : Chain.parse "[a " = .error ⟨.unexpectedEnd, ⟨3, 2⟩⟩ := by decide +kernel

end ViewLayout
