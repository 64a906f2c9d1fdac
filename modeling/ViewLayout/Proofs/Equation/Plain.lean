import ViewLayout.Proofs.Chain.Plain
import ViewLayout.Proofs.Equation.Grammar
import ViewLayout.Proofs.Equation.Lowering

/-!
# Equations written apart

The parts of an equation are two anchors, their relation, and the values of a factor and a term. With
single spaces between the parts they are written in one way, and what such a text compiles to can be
read off the parts. An equation that says no more than that two anchors are equal sets the first
anchor to the second.
-/

namespace ViewLayout

open ViewLayout.Text ViewLayout.Grammar ViewLayout.Outcome

/-- The word of an attribute is an identifier. -/
theorem Attribute.wellSpelled_keyword (edge : Attribute) :
    Token.WellSpelled (.ident edge.keyword) := by
  apply Token.wellSpelled_of_isIdent
  cases edge <;> decide

/-- The word of an attribute is short enough for an equation. -/
theorem Attribute.keyword_short (edge : Attribute) : edge.keyword.utf8ByteSize ≤ 31 := by
  cases edge <;> decide

/-- Attributes with the same word are the same. -/
theorem Attribute.keyword_injective {edge other : Attribute} (same : edge.keyword = other.keyword) :
    edge = other := by
  have found := ofKeyword?_keyword edge
  rw [same, ofKeyword?_keyword] at found
  exact (Option.some.inj found).symm

/-- Anchors with the same key and attribute are the same. -/
theorem Anchor.ext {anchor other : Anchor} (key : anchor.key = other.key)
    (edge : anchor.edge = other.edge) : anchor = other := by
  cases anchor
  cases other
  exact congr (congrArg Anchor.mk key) edge

/-- Relations with the same symbol are the same. -/
theorem Relation.symbol_injective {relation other : Relation}
    (same : relation.symbol = other.symbol) : relation = other := by
  have found := ofSymbol?_symbol relation
  rw [same, ofSymbol?_symbol] at found
  exact (Option.some.inj found).symm

/-- The operator of a clause with the value it is written with. -/
def Clause.wording {Operator : Type} (clause : Clause Operator) : Operator × String :=
  (clause.operator.value, clause.value.value)

namespace Equation

/-- The parts of an equation, without their places. -/
structure Wording where
  /-- The left side. -/
  first : Anchor
  /-- The relation. -/
  relation : Relation
  /-- The right side. -/
  second : Anchor
  /-- The factor of the right side, with its written value. -/
  factor : Option (FactorOperator × String)
  /-- The term added to the right side, with its written value. -/
  term : Option (TermOperator × String)

/-- How an anchor is written. -/
def anchorPieces (anchor : Anchor) : List (Option Token) :=
  [some (.ident anchor.key), some (.mark .dot), some (.ident anchor.edge.keyword)]

/-- How a clause with a number is written after what comes before it. -/
def clausePieces {Operator : Type} (mark : Operator → Mark) :
    Option (Operator × String) → List (Option Token)
  | none => []
  | some (operator, literal) => [none, some (.mark (mark operator)), none, some (.number literal)]

/-- How an equality of two anchors is written. -/
def equalityPieces (first second : Anchor) : List (Option Token) :=
  some (.mark .equationTag) ::
    (anchorPieces first ++ none :: some (.relation "==") :: none :: anchorPieces second)

namespace Wording

/-- The clauses of an equation, one after the other. -/
def clauses (wording : Wording) : List (Option Token) :=
  clausePieces FactorOperator.mark wording.factor ++ clausePieces TermOperator.mark wording.term

/-- How an equation is written with a number of spaces after its tag. -/
def pieces (wording : Wording) (spaces : Nat) : List (Option Token) :=
  some (.mark .equationTag) :: (List.replicate spaces none ++ (anchorPieces wording.first ++
    none :: some (.relation wording.relation.symbol) :: none ::
      (anchorPieces wording.second ++ wording.clauses)))

/-- The wording of an equality of two anchors. -/
def equality (first second : Anchor) : Wording := ⟨first, .equal, second, none, none⟩

theorem pieces_equality (first second : Anchor) :
    (equality first second).pieces 0 = equalityPieces first second := rfl

/-- The keys of a wording are identifiers, and its values are numbers. -/
structure Spells (wording : Wording) : Prop where
  /-- The left side has an identifier for a key. -/
  first : Token.WellSpelled (.ident wording.first.key)
  /-- The right side has an identifier for a key. -/
  second : Token.WellSpelled (.ident wording.second.key)
  /-- The value of the factor is a number. -/
  factor : ∀ clause ∈ wording.factor, Token.WellSpelled (.number clause.2)
  /-- The value of the term is a number. -/
  term : ∀ clause ∈ wording.term, Token.WellSpelled (.number clause.2)

end Wording

/-! ## Writing -/

/-- An anchor is apart from what ends its attribute. -/
theorem apart_anchorPieces {anchor : Anchor} (spelled : Token.WellSpelled (.ident anchor.key))
    {later : List (Option Token)} (ends : Token.EndsName (Token.written later))
    (apart : Token.Apart later) : Token.Apart (anchorPieces anchor ++ later) :=
  ⟨Token.longest?_ident spelled (Token.endsName_mark '.' rfl _), Token.longest?_mark .dot _,
    Token.longest?_ident anchor.edge.wellSpelled_keyword ends, apart⟩

/-- A clause is apart from what ends its number. -/
theorem apart_clausePieces {Operator : Type} (mark : Operator → Mark)
    {clause : Option (Operator × String)}
    (spelled : ∀ written ∈ clause, Token.WellSpelled (.number written.2))
    {later : List (Option Token)} (ends : Token.EndsNumber (Token.written later))
    (apart : Token.Apart later) : Token.Apart (clausePieces mark clause ++ later) := by
  cases clause with
  | none => exact apart
  | some written =>
    exact ⟨Token.longest?_mark (mark written.1) _,
      Token.longest?_number (spelled written rfl) ends, apart⟩

/-- Spaces keep nothing from being apart. -/
theorem apart_replicate {spaces : Nat} {later : List (Option Token)} (apart : Token.Apart later) :
    Token.Apart (List.replicate spaces none ++ later) := by
  induction spaces with
  | zero => exact apart
  | succ spaces ih => exact ih

/-- Spaces move what is written after them. -/
theorem placed_replicate (offset spaces : Nat) (later : List (Option Token)) :
    Token.placed offset (List.replicate spaces none ++ later) =
      Token.placed (offset + spaces) later := by
  induction spaces generalizing offset with
  | zero => rfl
  | succ spaces ih =>
    have moved : offset + 1 + spaces = offset + (spaces + 1) := by omega
    rw [← moved]
    exact ih (offset + 1)

namespace Wording

variable {wording : Wording}

/-- A space comes before the clauses of an equation, if it has any. -/
theorem ends_clauses (wording : Wording) :
    Token.EndsName (Token.written wording.clauses) ∧
      Token.EndsNumber (Token.written (clausePieces TermOperator.mark wording.term)) := by
  unfold clauses
  cases wording.term with
  | none =>
    refine ⟨?_, Token.endsNumber_nil⟩
    cases wording.factor with
    | none => exact Token.endsName_nil
    | some factor => exact Token.endsName_space _
  | some term =>
    refine ⟨?_, Token.endsNumber_space _⟩
    cases wording.factor with
    | none => exact Token.endsName_space _
    | some factor => exact Token.endsName_space _

/-- An equation is written apart when its keys are identifiers and its values numbers. -/
theorem apart_pieces (spelled : wording.Spells) (spaces : Nat) :
    Token.Apart (wording.pieces spaces) := by
  obtain ⟨endsSecond, endsFactor⟩ := wording.ends_clauses
  have term := apart_clausePieces TermOperator.mark spelled.term Token.endsNumber_nil trivial
  rw [List.append_nil] at term
  have clauses : Token.Apart wording.clauses :=
    apart_clausePieces FactorOperator.mark spelled.factor endsFactor term
  have right := apart_anchorPieces spelled.second endsSecond clauses
  refine ⟨Token.longest?_mark .equationTag _, apart_replicate ?_⟩
  exact apart_anchorPieces spelled.first (Token.endsName_space _)
    ⟨Token.longest?_symbol wording.relation _, right⟩

/-! ## Reading -/

/-- The words of an equation are those of a wording. -/
structure Reads (wording : Wording) (e : Equation) : Prop where
  /-- The key of the left side. -/
  firstKey : e.first.key.value = wording.first.key
  /-- The attribute of the left side. -/
  firstEdge : e.first.edge.value = wording.first.edge.keyword
  /-- The relation. -/
  relation : e.relation.value = wording.relation.symbol
  /-- The key of the right side. -/
  secondKey : e.second.key.value = wording.second.key
  /-- The attribute of the right side. -/
  secondEdge : e.second.edge.value = wording.second.edge.keyword
  /-- The factor. -/
  factor : e.factor.map Clause.wording = wording.factor
  /-- The term. -/
  term : e.term.map Clause.wording = wording.term

/-- The tokens of a clause spell it. -/
theorem exists_clauseSpelled {Operator : Type} (mark : Operator → Mark)
    (clause : Option (Operator × String)) (offset : Nat) :
    ∃ written, ClauseSpelled mark written (Token.placed offset (clausePieces mark clause)) ∧
      written.map Clause.wording = clause := by
  cases clause with
  | none => exact ⟨none, .absent, rfl⟩
  | some clause => exact ⟨some ⟨⟨clause.1, _⟩, ⟨clause.2, _⟩⟩, .written _ (.number _ _), rfl⟩

/-- A text that is written as a wording is read as an equation with its words. -/
theorem exists_spelled (wording : Wording) (spaces : Nat) :
    ∃ e : Equation, e.Spelled (Token.placed 0 (wording.pieces spaces)) ∧ wording.Reads e := by
  let front := anchorPieces wording.first ++
    none :: some (.relation wording.relation.symbol) :: none :: anchorPieces wording.second
  let start := 0 + Mark.equationTag.text.utf8ByteSize
  obtain ⟨next, operands⟩ := Token.exists_placed_append (start + spaces) front wording.clauses
  obtain ⟨last, (clauses : Token.placed next wording.clauses = _)⟩ :=
    Token.exists_placed_append next (clausePieces FactorOperator.mark wording.factor)
      (clausePieces TermOperator.mark wording.term)
  obtain ⟨factor, factored, factorWording⟩ :=
    exists_clauseSpelled FactorOperator.mark wording.factor next
  obtain ⟨term, added, termWording⟩ := exists_clauseSpelled TermOperator.mark wording.term last
  have tokens : Token.placed 0 (wording.pieces spaces) =
      ⟨.mark .equationTag, ⟨0, start⟩⟩ :: (Token.placed (start + spaces) front ++
        (Token.placed next (clausePieces FactorOperator.mark wording.factor) ++
          Token.placed last (clausePieces TermOperator.mark wording.term))) := by
    rw [← clauses, ← operands, ← placed_replicate]
    rfl
  rw [tokens]
  exact ⟨⟨⟨⟨wording.first.key, _⟩, ⟨wording.first.edge.keyword, _⟩⟩, ⟨wording.relation.symbol, _⟩,
      ⟨⟨wording.second.key, _⟩, ⟨wording.second.edge.keyword, _⟩⟩, factor, term⟩,
    .parts _ (.dotted rfl rfl) (.dotted rfl rfl) factored added,
    rfl, rfl, rfl, rfl, rfl, factorWording, termWording⟩

end Wording

/-- A text compiles to what its equation says when the words of the equation stand for something and
none of its names is too long. -/
theorem compile_of_spelled {raw : String} {tokens : Tokens} {e : Equation} {registry : Registry}
    {metrics : Metrics} {d : Descriptor} (scanned : Token.scan raw = .ok tokens)
    (spelled : e.Spelled tokens) (fits : NamesFit tokens)
    (resolvable : e.Resolvable registry metrics) (describes : e.Describes metrics d) :
    compile raw registry metrics = .ok d := by
  have short : overlong? (e.captures raw) = none :=
    (overlong?_captures_eq_none_iff scanned spelled).2 fits
  have parsed : parse raw = .ok e := parse_eq_ok_iff.2 ⟨⟨tokens, scanned, spelled⟩, short⟩
  exact compile_eq_ok_iff.2 ⟨e, parsed, resolvable, describes⟩

/-- A text that compiles spells an equation without overlong names, whose words stand for something
and say what was compiled. -/
theorem exists_spelled_of_compile {raw : String} {registry : Registry} {metrics : Metrics}
    {d : Descriptor} (compiled : compile raw registry metrics = .ok d) :
    ∃ tokens, ∃ e : Equation, Token.scan raw = .ok tokens ∧ e.Spelled tokens ∧ NamesFit tokens ∧
      e.Resolvable registry metrics ∧ e.Describes metrics d := by
  obtain ⟨e, parsed, resolvable, describes⟩ := compile_eq_ok_iff.1 compiled
  obtain ⟨⟨tokens, scanned, spelled⟩, short⟩ := parse_eq_ok_iff.1 parsed
  have fits := (overlong?_captures_eq_none_iff scanned spelled).1 short
  exact ⟨tokens, e, scanned, spelled, fits, resolvable, describes⟩

/-- The multiplier that a factor with a written value stands for. -/
def Multiplies (metrics : Metrics) : Option (FactorOperator × String) → Number.Binary64 → Prop
  | none, multiplier => multiplier = 1
  | some (.times, value), multiplier => metrics.value? value = some multiplier
  | some (.divided, value), multiplier =>
    ∃ number, metrics.value? value = some number ∧ ¬number.IsZero ∧ multiplier = number.reciprocal

/-- The constant that a term with a written value stands for. -/
def Adds (metrics : Metrics) : Option (TermOperator × String) → Number.Binary64 → Prop
  | none, constant => constant = 0
  | some (.plus, value), constant => metrics.value? value = some constant
  | some (.minus, value), constant =>
    ∃ number, metrics.value? value = some number ∧ constant = -number

/-- The multiplier of a factor is that of its wording. -/
theorem scales_iff {metrics : Metrics} {factor : Option (Clause FactorOperator)}
    {multiplier : Number.Binary64} :
    Scales metrics factor multiplier ↔ Multiplies metrics (factor.map Clause.wording) multiplier := by
  constructor
  · intro scales
    cases scales with
    | absent => exact rfl
    | times stands => exact stands
    | divided stands nonzero => exact ⟨_, stands, nonzero, rfl⟩
  · intro multiplies
    cases factor with
    | none =>
      obtain rfl := multiplies
      exact .absent
    | some clause =>
      obtain ⟨⟨operator, sign⟩, value⟩ := clause
      cases operator with
      | times => exact .times multiplies
      | divided =>
        obtain ⟨number, stands, nonzero, rfl⟩ := multiplies
        exact .divided stands nonzero

/-- The constant of a term is that of its wording. -/
theorem shifts_iff {metrics : Metrics} {term : Option (Clause TermOperator)}
    {constant : Number.Binary64} :
    Shifts metrics term constant ↔ Adds metrics (term.map Clause.wording) constant := by
  constructor
  · intro shifts
    cases shifts with
    | absent => exact rfl
    | plus stands => exact stands
    | minus stands => exact ⟨_, stands, rfl⟩
  · intro adds
    cases term with
    | none =>
      obtain rfl := adds
      exact .absent
    | some clause =>
      obtain ⟨⟨operator, sign⟩, value⟩ := clause
      cases operator with
      | plus => exact .plus adds
      | minus =>
        obtain ⟨number, stands, rfl⟩ := adds
        exact .minus stands

/-- The tokens that pieces are written with are among the pieces. -/
theorem some_mem_of_placed {pieces : List (Option Token)} {offset : Nat} {token : Spanned Token}
    (present : token ∈ Token.placed offset pieces) : some token.value ∈ pieces := by
  induction pieces generalizing offset with
  | nil => contradiction
  | cons piece later ih =>
    cases piece with
    | none => exact List.mem_cons_of_mem _ (ih present)
    | some written =>
      rcases List.mem_cons.1 present with rfl | among
      · exact List.mem_cons_self
      · exact List.mem_cons_of_mem _ (ih among)

/-- A token among pieces is among the tokens that they are written with. -/
theorem exists_mem_placed {pieces : List (Option Token)} {token : Token}
    (present : some token ∈ pieces) (offset : Nat) :
    ∃ span, ⟨token, span⟩ ∈ Token.placed offset pieces := by
  induction pieces generalizing offset with
  | nil => contradiction
  | cons piece later ih =>
    cases piece with
    | none => exact ih (by simpa using present) (offset + 1)
    | some written =>
      rcases List.mem_cons.1 present with same | among
      · obtain rfl := Option.some.inj same
        exact ⟨_, List.mem_cons_self⟩
      · obtain ⟨span, placed⟩ := ih among _
        exact ⟨span, List.mem_cons_of_mem _ placed⟩

namespace Wording

variable {wording : Wording} {raw : String} {spaces : Nat} {registry : Registry} {metrics : Metrics}
  {d : Descriptor}

/-- What a wording means: the descriptor with its parts. -/
structure Means (wording : Wording) (metrics : Metrics) (d : Descriptor) : Prop where
  /-- The left side. -/
  first : d.first = wording.first
  /-- The relation. -/
  relation : d.relation = wording.relation
  /-- The right side. -/
  second : d.second = some wording.second
  /-- The multiplier is that of the factor. -/
  multiplier : Multiplies metrics wording.factor d.multiplier
  /-- The constant is that of the term. -/
  constant : Adds metrics wording.term d.constant
  /-- An equation has no priority. -/
  priority : d.priority = none

/-- A descriptor says what an equation says when it is what the wording of the equation means. -/
theorem describes_iff {e : Equation} (reads : wording.Reads e) :
    e.Describes metrics d ↔ wording.Means metrics d := by
  have factor : Scales metrics e.factor d.multiplier ↔ _ := scales_iff
  have term : Shifts metrics e.term d.constant ↔ _ := shifts_iff
  rw [reads.factor] at factor
  rw [reads.term] at term
  constructor
  · rintro ⟨⟨firstKey, firstEdge⟩, relation, ⟨anchor, second, secondKey, secondEdge⟩, scales, shifts,
      unweighted⟩
    rw [reads.firstKey] at firstKey
    rw [reads.firstEdge] at firstEdge
    rw [reads.relation] at relation
    rw [reads.secondKey] at secondKey
    rw [reads.secondEdge] at secondEdge
    constructor
    case first => exact Anchor.ext firstKey (Attribute.keyword_injective firstEdge)
    case relation => exact Relation.symbol_injective relation
    case second =>
      rw [second]
      exact congrArg some (Anchor.ext secondKey (Attribute.keyword_injective secondEdge))
    case multiplier => exact factor.1 scales
    case constant => exact term.1 shifts
    case priority => exact unweighted
  · rintro ⟨first, relation, second, multiplies, adds, unweighted⟩
    constructor
    case first =>
      rw [first]
      exact ⟨reads.firstKey.symm, reads.firstEdge.symm⟩
    case relation =>
      rw [relation]
      exact reads.relation.symm
    case second => exact ⟨_, second, reads.secondKey.symm, reads.secondEdge.symm⟩
    case multiplier => exact factor.2 multiplies
    case constant => exact term.2 adds
    case priority => exact unweighted

/-- A text that is written as a wording compiles only when the words of the wording fit and stand for
something, to what they say. -/
theorem exists_reads_of_compile (spelled : wording.Spells)
    (written : raw.toList = Token.written (wording.pieces spaces))
    (compiled : compile raw registry metrics = .ok d) :
    ∃ e, wording.Reads e ∧ NamesFit (Token.placed 0 (wording.pieces spaces)) ∧
      e.Resolvable registry metrics ∧ e.Describes metrics d := by
  have scanned := Token.scan_of_apart written (apart_pieces spelled spaces)
  obtain ⟨e, isSpelled, reads⟩ := exists_spelled wording spaces
  obtain ⟨tokens, found, rescanned, respelled, fits, resolvable, describes⟩ :=
    exists_spelled_of_compile compiled
  obtain rfl := Except.ok.inj (scanned.symm.trans rescanned)
  obtain rfl : e = found :=
    Except.ok.inj ((ofTokens_eq_ok_iff.2 isSpelled).symm.trans (ofTokens_eq_ok_iff.2 respelled))
  exact ⟨e, reads, fits, resolvable, describes⟩

/-- A text that is written as a wording compiles only to what the wording means. -/
theorem means_of_compile (spelled : wording.Spells)
    (written : raw.toList = Token.written (wording.pieces spaces))
    (compiled : compile raw registry metrics = .ok d) : wording.Means metrics d := by
  obtain ⟨e, reads, -, -, describes⟩ := exists_reads_of_compile spelled written compiled
  exact (describes_iff reads).1 describes

/-- A text that is written as a wording compiles only when its keys are known and short enough. -/
theorem known_of_compile (spelled : wording.Spells)
    (written : raw.toList = Token.written (wording.pieces spaces))
    (compiled : compile raw registry metrics = .ok d) :
    (registry.Knows wording.first.key ∧ wording.first.key.utf8ByteSize ≤ 31) ∧
      registry.Knows wording.second.key ∧ wording.second.key.utf8ByteSize ≤ 31 := by
  obtain ⟨e, reads, fits, resolvable, -⟩ := exists_reads_of_compile spelled written compiled
  have short {name : String} (among : some (.ident name) ∈ wording.pieces spaces) :
      name.utf8ByteSize ≤ 31 := by
    obtain ⟨span, placed⟩ := exists_mem_placed among 0
    exact fits _ placed name rfl
  refine ⟨⟨reads.firstKey ▸ resolvable.firstKey, short ?_⟩,
    reads.secondKey ▸ resolvable.secondKey, short ?_⟩
  · simp [pieces, anchorPieces]
  · simp [pieces, anchorPieces]

/-- The names in a wording are its keys and attributes. -/
theorem mem_names_of_mem_pieces {name : String}
    (among : some (.ident name) ∈ wording.pieces spaces) :
    name = wording.first.key ∨ name = wording.first.edge.keyword ∨ name = wording.second.key ∨
      name = wording.second.edge.keyword := by
  have nameless {Operator : Type} (mark : Operator → Mark) (clause : Option (Operator × String)) :
      some (.ident name) ∉ clausePieces mark clause := by
    cases clause <;> simp [clausePieces]
  simp only [pieces, clauses, anchorPieces, List.cons_append, List.nil_append, List.mem_cons,
    List.mem_append, List.mem_replicate, Option.some.injEq, Token.ident.injEq, reduceCtorEq,
    and_false, false_or, nameless, or_false] at among
  exact among

/-- A text that is written as a wording compiles to what the wording means, when its keys are known
and short enough. -/
theorem compile_of_means (spelled : wording.Spells)
    (written : raw.toList = Token.written (wording.pieces spaces))
    (firstFits : wording.first.key.utf8ByteSize ≤ 31)
    (secondFits : wording.second.key.utf8ByteSize ≤ 31)
    (firstKnown : registry.Knows wording.first.key)
    (secondKnown : registry.Knows wording.second.key) (means : wording.Means metrics d) :
    compile raw registry metrics = .ok d := by
  have scanned := Token.scan_of_apart written (apart_pieces spelled spaces)
  obtain ⟨e, isSpelled, reads⟩ := exists_spelled wording spaces
  have fits : NamesFit (Token.placed 0 (wording.pieces spaces)) := by
    intro token present name named
    have among := some_mem_of_placed present
    rw [named] at among
    rcases mem_names_of_mem_pieces among with rfl | rfl | rfl | rfl
    · exact firstFits
    · exact wording.first.edge.keyword_short
    · exact secondFits
    · exact wording.second.edge.keyword_short
  have resolvable : e.Resolvable registry metrics := by
    constructor
    case firstKey => exact reads.firstKey ▸ firstKnown
    case secondKey => exact reads.secondKey ▸ secondKnown
    case firstEdge => exact reads.firstEdge ▸ wording.first.edge.keyword_mem
    case secondEdge => exact reads.secondEdge ▸ wording.second.edge.keyword_mem
    case relation => exact Relation.exists_symbol_iff.1 ⟨wording.relation, reads.relation⟩
    case factor => exact exists_scales_iff.1 ⟨_, scales_iff.2 (reads.factor ▸ means.multiplier)⟩
    case term => exact exists_shifts_iff.1 ⟨_, shifts_iff.2 (reads.term ▸ means.constant)⟩
  exact compile_of_spelled scanned isSpelled fits resolvable ((describes_iff reads).2 means)

/-- The equality of two anchors means that the first is set to the second. -/
theorem means_equality_iff {first second : Anchor} :
    (equality first second).Means metrics d ↔ d = .tie first second 0 := by
  constructor
  · rintro ⟨left, equal, right, multiplier, constant, unweighted⟩
    obtain ⟨_, _, _, _, _, _⟩ := d
    simp only [Descriptor.tie, Descriptor.mk.injEq]
    exact ⟨left, equal, right, multiplier, constant, unweighted⟩
  · rintro rfl
    exact ⟨rfl, rfl, rfl, rfl, rfl, rfl⟩

end Wording

/-! ## Equalities -/

section Equalities

variable {first second : Anchor} {raw : String} {registry : Registry}

/-- An equality of two anchors whose keys are identifiers has no other words. -/
theorem Wording.spells_equality (firstKey : Token.WellSpelled (.ident first.key))
    (secondKey : Token.WellSpelled (.ident second.key)) : (equality first second).Spells :=
  ⟨firstKey, secondKey, nofun, nofun⟩

/-- An equality of two anchors compiles to the descriptor that sets the first to the second. -/
theorem eq_tie_of_compile (firstKey : Token.WellSpelled (.ident first.key))
    (secondKey : Token.WellSpelled (.ident second.key))
    (written : raw.toList = Token.written (equalityPieces first second)) {metrics : Metrics}
    {d : Descriptor} (compiled : compile raw registry metrics = .ok d) : d = .tie first second 0 := by
  rw [← Wording.pieces_equality] at written
  exact Wording.means_equality_iff.1
    (Wording.means_of_compile (Wording.spells_equality firstKey secondKey) written compiled)

/-- An equality of two anchors compiles when their keys are known and short enough. -/
theorem compile_equality (firstKey : Token.WellSpelled (.ident first.key))
    (secondKey : Token.WellSpelled (.ident second.key))
    (written : raw.toList = Token.written (equalityPieces first second))
    (firstFits : first.key.utf8ByteSize ≤ 31) (secondFits : second.key.utf8ByteSize ≤ 31)
    (firstKnown : registry.Knows first.key) (secondKnown : registry.Knows second.key)
    (metrics : Metrics) : compile raw registry metrics = .ok (.tie first second 0) := by
  rw [← Wording.pieces_equality] at written
  exact Wording.compile_of_means (Wording.spells_equality firstKey secondKey) written firstFits
    secondFits firstKnown secondKnown (Wording.means_equality_iff.2 rfl)

end Equalities

end Equation

end ViewLayout
