import ViewLayout.Proofs.Chain.Spelling

/-!
# The grammar of chains

The grammar is written down as a language of placed tokens, one definition for each rule:

* `chain := axis? ('|' connection)? view (connection view)* (connection '|')?`
* `view := '[' name group? ']'` and `group := '(' predicate (',' predicate)* ')'`
* `connection := '-' (simple | group) '-' | '-' | nothing`
* `predicate := relation? object ('@' simple)?`
* `object := name | '-'? number` and `simple := name | number`

The language says nothing about the parts that are read. Each rule is shown to hold the spellings
of its parts and no others, so the reader, which looks one token ahead, accepts exactly the
language.
-/

namespace ViewLayout.Chain

open ViewLayout.Text ViewLayout.Grammar
open scoped Computability

/-- `simple := name | number` -/
def simplePhrase : Language (Spanned Token) := namePhrase + numberPhrase

/-- `object := name | '-'? number` -/
def objectPhrase : Language (Spanned Token) :=
  namePhrase + optionally (markPhrase .minus) * numberPhrase

/-- `predicate := relation? object ('@' simple)?` -/
def predicatePhrase : Language (Spanned Token) :=
  optionally relationPhrase * (objectPhrase * optionally (markPhrase .atSign * simplePhrase))

/-- `group := '(' predicate (',' predicate)* ')'` -/
def groupPhrase : Language (Spanned Token) :=
  markPhrase .parenOpen * (predicatePhrase * (markPhrase .comma * predicatePhrase)∗ *
    markPhrase .parenClose)

/-- `connection := '-' (simple | group) '-' | '-' | nothing` -/
def connectionPhrase : Language (Spanned Token) :=
  optionally (markPhrase .minus * ((simplePhrase + groupPhrase) * markPhrase .minus)
    + markPhrase .minus)

/-- `view := '[' name group? ']'` -/
def viewPhrase : Language (Spanned Token) :=
  markPhrase .bracketOpen * (namePhrase * (optionally groupPhrase * markPhrase .bracketClose))

/-- `axis := 'H:' | 'V:'` -/
def axisPhrase : Language (Spanned Token) :=
  markPhrase .horizontalTag + markPhrase .verticalTag

/-- `chain := axis? ('|' connection)? view (connection view)* (connection '|')?` -/
def chainPhrase : Language (Spanned Token) :=
  optionally axisPhrase * (optionally (markPhrase .pipe * connectionPhrase) *
    (viewPhrase * ((connectionPhrase * viewPhrase)∗ *
      optionally (connectionPhrase * markPhrase .pipe))))

/-- A name or a number is the one token of an object without a sign. -/
theorem mem_simplePhrase_iff {word : Tokens} :
    word ∈ simplePhrase ↔
      ∃ object token, Object.token? object = some token ∧ word = [token] := by
  simp only [simplePhrase, Language.mem_add, mem_namePhrase, mem_numberPhrase]
  constructor
  · rintro (⟨name, span, rfl⟩ | ⟨literal, span, rfl⟩)
    · exact ⟨⟨.name name, span⟩, _, rfl, rfl⟩
    · exact ⟨⟨.number false literal, span⟩, _, rfl, rfl⟩
  · rintro ⟨object, ⟨kind, span⟩, spelled, rfl⟩
    rcases Object.kind_of_token? spelled with ⟨name, rfl⟩ | ⟨literal, rfl⟩
    · exact .inl ⟨name, span, rfl⟩
    · exact .inr ⟨literal, span, rfl⟩

/-- The rule for objects holds their spellings. -/
theorem mem_objectPhrase_iff {word : Tokens} :
    word ∈ objectPhrase ↔ ∃ object, Object.Spelled object word := by
  simp only [objectPhrase, Language.mem_add, Language.mem_mul, mem_optionally, mem_markPhrase,
    mem_namePhrase, mem_numberPhrase]
  constructor
  · rintro (⟨name, span, rfl⟩ | ⟨_, rfl | ⟨sign, rfl⟩, _, ⟨literal, span, rfl⟩, rfl⟩)
    · exact ⟨⟨.name name, span⟩, .unsigned rfl⟩
    · exact ⟨⟨.number false literal, span⟩, .unsigned rfl⟩
    · exact ⟨_, .negative literal sign span⟩
  · rintro ⟨object, spelled⟩
    cases spelled with
    | @unsigned object token spelled =>
      obtain ⟨kind, span⟩ := token
      rcases Object.kind_of_token? spelled with ⟨name, rfl⟩ | ⟨literal, rfl⟩
      · exact .inl ⟨name, span, rfl⟩
      · exact .inr ⟨[], .inl rfl, _, ⟨literal, span, rfl⟩, rfl⟩
    | negative literal sign span =>
      exact .inr ⟨_, .inr ⟨sign, rfl⟩, _, ⟨literal, span, rfl⟩, rfl⟩

/-- The rule for predicates holds their spellings. -/
theorem mem_predicatePhrase_iff {word : Tokens} :
    word ∈ predicatePhrase ↔ ∃ predicate : Predicate, predicate.Spelled word := by
  simp only [predicatePhrase, Language.mem_mul, mem_optionally, mem_relationPhrase,
    mem_objectPhrase_iff, mem_markPhrase, mem_simplePhrase_iff]
  constructor
  · rintro ⟨first, related, _, ⟨middle, ⟨object, spelled⟩, last, weighted, rfl⟩, rfl⟩
    obtain ⟨relation, rfl⟩ : ∃ relation, first = relationTokens relation := by
      rcases related with rfl | ⟨symbol, span, rfl⟩
      · exact ⟨none, rfl⟩
      · exact ⟨some ⟨symbol, span⟩, rfl⟩
    obtain ⟨priority, written⟩ : ∃ priority, PrioritySpelled priority last := by
      rcases weighted with rfl | ⟨_, ⟨sign, rfl⟩, _, ⟨value, token, one, rfl⟩, rfl⟩
      · exact ⟨none, .absent⟩
      · exact ⟨some value, .written sign one⟩
    exact ⟨_, .parts spelled written⟩
  · rintro ⟨predicate, parts⟩
    cases parts with
    | @parts relation object priority middle last spelled weighted =>
      refine ⟨_, ?_, _, ⟨middle, ⟨object, spelled⟩, last, ?_, rfl⟩, rfl⟩
      · cases relation with
        | none => exact .inl rfl
        | some symbol => exact .inr ⟨symbol.value, symbol.span, rfl⟩
      · cases weighted with
        | absent => exact .inl rfl
        | written sign one => exact .inr ⟨_, ⟨sign, rfl⟩, _, ⟨_, _, one, rfl⟩, rfl⟩

/-- Predicates with commas between them are one predicate, and then any number with a comma
before each. -/
theorem exists_listSpelled_iff {word : Tokens} :
    (∃ predicates, ListSpelled predicates word) ↔
      word ∈ predicatePhrase * (markPhrase .comma * predicatePhrase)∗ := by
  constructor
  · rintro ⟨predicates, listed⟩
    induction listed with
    | @one predicate word spelled =>
      exact Language.mem_mul.2 ⟨word, mem_predicatePhrase_iff.2 ⟨_, spelled⟩, [],
        Language.nil_mem_kstar _, List.append_nil _⟩
    | @more predicate predicates word later spelled comma others ih =>
      obtain ⟨first, one, rest, repeated, rfl⟩ := Language.mem_mul.1 ih
      refine Language.mem_mul.2 ⟨word, mem_predicatePhrase_iff.2 ⟨_, spelled⟩, _,
        append_mem_kstar (Language.mem_mul.2 ⟨_, ⟨comma, rfl⟩, first, one, rfl⟩) repeated, rfl⟩
  · intro inside
    obtain ⟨first, one, _, ⟨words, rfl, others⟩, rfl⟩ := Language.mem_mul.1 inside
    -- Each further predicate becomes the first of a list with one comma less.
    induction words generalizing first with
    | nil =>
      obtain ⟨predicate, spelled⟩ := mem_predicatePhrase_iff.1 one
      rw [List.flatten_nil, List.append_nil]
      exact ⟨_, .one spelled⟩
    | cons word words ih =>
      obtain ⟨predicate, spelled⟩ := mem_predicatePhrase_iff.1 one
      obtain ⟨_, ⟨comma, rfl⟩, second, two, rfl⟩ :=
        Language.mem_mul.1 (others word List.mem_cons_self)
      have later (other : Tokens) (present : other ∈ words) :
          other ∈ markPhrase .comma * predicatePhrase :=
        others other (List.mem_cons_of_mem _ present)
      obtain ⟨predicates, listed⟩ := ih second two later (Language.mem_mul.2
        ⟨second, two, _, ⟨words, rfl, later⟩, rfl⟩)
      exact ⟨_, .more spelled comma listed⟩

/-- The rule for groups holds the spellings of predicates in parentheses. -/
theorem mem_groupPhrase_iff {word : Tokens} :
    word ∈ groupPhrase ↔ ∃ predicates, GroupSpelled predicates word := by
  rw [groupPhrase, Language.mem_mul]
  constructor
  · rintro ⟨_, ⟨opening, rfl⟩, _, inside, rfl⟩
    obtain ⟨list, listed, _, ⟨closing, rfl⟩, rfl⟩ := Language.mem_mul.1 inside
    obtain ⟨predicates, spelled⟩ := exists_listSpelled_iff.2 listed
    exact ⟨predicates, .enclosed opening closing spelled⟩
  · rintro ⟨predicates, group⟩
    cases group with
    | @enclosed word opening closing spelled =>
      exact ⟨_, ⟨opening, rfl⟩, _, Language.mem_mul.2
        ⟨word, exists_listSpelled_iff.1 ⟨_, spelled⟩, _, ⟨closing, rfl⟩, rfl⟩, rfl⟩

/-- The rule for connections holds their spellings. -/
theorem mem_connectionPhrase_iff {word : Tokens} :
    word ∈ connectionPhrase ↔ ∃ connection : Connection, connection.Spelled word := by
  simp only [connectionPhrase, mem_optionally, Language.mem_add, Language.mem_mul,
    mem_markPhrase, mem_simplePhrase_iff, mem_groupPhrase_iff]
  constructor
  · rintro (rfl | ⟨_, ⟨before, rfl⟩, _, ⟨inside, gap, _, ⟨after, rfl⟩, rfl⟩, rfl⟩ | ⟨dash, rfl⟩)
    · exact ⟨_, .flush⟩
    · rcases gap with ⟨object, token, one, rfl⟩ | ⟨predicates, group⟩
      · exact ⟨_, .bare before after one⟩
      · exact ⟨_, .explicit before after group⟩
    · exact ⟨_, .standard dash⟩
  · rintro ⟨connection, spelled⟩
    cases spelled with
    | flush => exact .inl rfl
    | standard dash => exact .inr (.inr ⟨dash, rfl⟩)
    | explicit before after group =>
      exact .inr (.inl ⟨_, ⟨before, rfl⟩, _, ⟨_, .inr ⟨_, group⟩, _, ⟨after, rfl⟩, rfl⟩, rfl⟩)
    | bare before after one =>
      exact .inr (.inl ⟨_, ⟨before, rfl⟩, _, ⟨_, .inl ⟨_, _, one, rfl⟩, _, ⟨after, rfl⟩, rfl⟩,
        rfl⟩)

/-- The rule for views holds their spellings. -/
theorem mem_viewPhrase_iff {word : Tokens} :
    word ∈ viewPhrase ↔ ∃ link : Link, link.Spelled word := by
  simp only [viewPhrase, Language.mem_mul, mem_optionally, mem_markPhrase, mem_namePhrase,
    mem_groupPhrase_iff]
  constructor
  · rintro ⟨_, ⟨opening, rfl⟩, _, ⟨_, ⟨name, span, rfl⟩, _, ⟨inside, sized, _, ⟨closing, rfl⟩,
      rfl⟩, rfl⟩, rfl⟩
    rcases sized with rfl | ⟨predicates, group⟩
    · exact ⟨_, .plain ⟨name, span⟩ opening closing⟩
    · exact ⟨_, .sized ⟨name, span⟩ opening closing group⟩
  · rintro ⟨link, spelled⟩
    cases spelled with
    | plain name opening closing =>
      exact ⟨_, ⟨opening, rfl⟩, _, ⟨_, ⟨_, _, rfl⟩, _, ⟨[], .inl rfl, _, ⟨closing, rfl⟩, rfl⟩,
        rfl⟩, rfl⟩
    | sized name opening closing group =>
      exact ⟨_, ⟨opening, rfl⟩, _, ⟨_, ⟨_, _, rfl⟩, _, ⟨_, .inr ⟨_, group⟩, _, ⟨closing, rfl⟩,
        rfl⟩, rfl⟩, rfl⟩

/-- Any number of views, each after a connection, are the spellings of later views. -/
theorem exists_stepsSpelled_iff {word : Tokens} :
    (∃ steps, StepsSpelled steps word) ↔ word ∈ (connectionPhrase * viewPhrase)∗ := by
  constructor
  · rintro ⟨steps, followed⟩
    induction followed with
    | none => exact Language.nil_mem_kstar _
    | @more connection link steps gap view later joined linked others ih =>
      rw [← List.append_assoc]
      exact append_mem_kstar (Language.mem_mul.2 ⟨gap, mem_connectionPhrase_iff.2 ⟨_, joined⟩,
        view, mem_viewPhrase_iff.2 ⟨_, linked⟩, rfl⟩) ih
  · rintro ⟨words, rfl, inside⟩
    induction words with
    | nil => exact ⟨[], .none⟩
    | cons word words ih =>
      obtain ⟨gap, joined, view, linked, rfl⟩ :=
        Language.mem_mul.1 (inside word List.mem_cons_self)
      obtain ⟨connection, connected⟩ := mem_connectionPhrase_iff.1 joined
      obtain ⟨link, bracketed⟩ := mem_viewPhrase_iff.1 linked
      obtain ⟨steps, followed⟩ := ih fun other present =>
        inside other (List.mem_cons_of_mem _ present)
      rw [List.flatten_cons, List.append_assoc]
      exact ⟨_, .more connected bracketed followed⟩

/-- The rule for chains holds their spellings. -/
theorem mem_chainPhrase_iff {word : Tokens} :
    word ∈ chainPhrase ↔ ∃ chain : Chain, chain.Spelled word := by
  simp only [chainPhrase, axisPhrase, Language.mem_mul, mem_optionally, Language.mem_add,
    mem_markPhrase, mem_connectionPhrase_iff, mem_viewPhrase_iff, ← exists_stepsSpelled_iff]
  constructor
  · rintro ⟨tag, tagged, _, ⟨edge, led, _, ⟨view, ⟨first, linked⟩, _, ⟨later, ⟨rest, followed⟩,
      final, trailed, rfl⟩, rfl⟩, rfl⟩, rfl⟩
    obtain ⟨axis, tagged⟩ : ∃ axis, AxisSpelled axis tag := by
      rcases tagged with rfl | ⟨span, rfl⟩ | ⟨span, rfl⟩
      · exact ⟨_, .absent⟩
      · exact ⟨_, .horizontal span⟩
      · exact ⟨_, .vertical span⟩
    obtain ⟨leading, led⟩ : ∃ leading, LeadingSpelled leading edge := by
      rcases led with rfl | ⟨_, ⟨pipe, rfl⟩, gap, ⟨connection, joined⟩, rfl⟩
      · exact ⟨_, .absent⟩
      · exact ⟨_, .edge pipe joined⟩
    obtain ⟨trailing, trailed⟩ : ∃ trailing, TrailingSpelled trailing final := by
      rcases trailed with rfl | ⟨gap, ⟨connection, joined⟩, _, ⟨pipe, rfl⟩, rfl⟩
      · exact ⟨_, .absent⟩
      · exact ⟨_, .edge pipe joined⟩
    exact ⟨_, .parts tagged led linked followed trailed⟩
  · rintro ⟨chain, parts⟩
    cases parts with
    | @parts axis leading first rest trailing tag edge view later final tagged led linked
        followed trailed =>
      refine ⟨tag, ?_, _, ⟨edge, ?_, _, ⟨view, ⟨_, linked⟩, _, ⟨later, ⟨_, followed⟩, final,
        ?_, rfl⟩, rfl⟩, rfl⟩, rfl⟩
      · cases tagged with
        | absent => exact .inl rfl
        | horizontal span => exact .inr (.inl ⟨span, rfl⟩)
        | vertical span => exact .inr (.inr ⟨span, rfl⟩)
      · cases led with
        | absent => exact .inl rfl
        | edge pipe joined => exact .inr ⟨_, ⟨pipe, rfl⟩, _, ⟨_, joined⟩, rfl⟩
      · cases trailed with
        | absent => exact .inl rfl
        | edge pipe joined => exact .inr ⟨_, ⟨_, joined⟩, _, ⟨pipe, rfl⟩, rfl⟩

/-- A text is a chain exactly when its tokens, all of them, belong to the grammar; and the chain
read from it is the one that its tokens spell. -/
theorem parse_accepts_chainPhrase (raw : String) :
    ((∃ chain, parse raw = .ok chain) ↔
        ∃ tokens, Token.scan raw = .ok tokens ∧ tokens ∈ chainPhrase) ∧
      ∀ chain, parse raw = .ok chain ↔
        ∃ tokens, Token.scan raw = .ok tokens ∧ chain.Spelled tokens := by
  refine ⟨?_, fun chain => parse_eq_ok_iff⟩
  simp only [parse_eq_ok_iff, mem_chainPhrase_iff]
  constructor
  · rintro ⟨chain, tokens, scanned, spelled⟩
    exact ⟨tokens, scanned, chain, spelled⟩
  · rintro ⟨tokens, scanned, chain, spelled⟩
    exact ⟨chain, tokens, scanned, spelled⟩

end ViewLayout.Chain
