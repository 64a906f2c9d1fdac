import ViewLayout.Proofs.Equation.Plain

/-!
# The sides of an equation

The relation of an equation is the only one among its tokens, so it parts them: what comes before it
are the tag and the left side. In a text that has a space before its relation the two parts are
divided apart, and nothing behind the space has a say in how the left side is read.

A text that compares the same attribute of two items, the first of which is given by any characters
at all, therefore compiles in one case only: the characters are spaces before a known key. What it
compiles to then depends on the attribute alone.
-/

namespace ViewLayout

open ViewLayout.Text ViewLayout.Grammar ViewLayout.Outcome

/-- There is no relation among the tokens of an operand. -/
theorem Operand.Spelled.ne_relation {operand : Operand} {word : Tokens}
    (spelled : operand.Spelled word) {token : Spanned Token} (present : token ∈ word)
    (symbol : String) : token.value ≠ .relation symbol := by
  cases spelled with
  | dotted before after =>
    simp only [List.mem_cons, List.not_mem_nil, or_false] at present
    rcases present with rfl | rfl | rfl <;> exact nofun

/-- An identifier has no dot in it. -/
theorem Token.dot_notMem {name : String} (spelled : Token.WellSpelled (.ident name)) :
    '.' ∉ name.toList := by
  obtain ⟨c, rest, characters, starts, continues⟩ := spelled
  rw [characters]
  rintro (_ | ⟨_, later⟩)
  · contradiction
  · exact absurd (continues '.' later) (by decide)

/-- Characters with a dot in them that are divided into an operand are spaces before the key, up to
the dot. -/
theorem Operand.Spelled.exists_key {operand : Operand} {word : Tokens} {offset : Nat}
    {front back : List Char} (spelled : operand.Spelled word)
    (divided : Token.Divided offset (front ++ '.' :: back) word) :
    Token.WellSpelled (.ident operand.key.value) ∧
      ∃ spaces, front = List.replicate spaces ' ' ++ operand.key.value.toList := by
  have names := divided.wellSpelled
  generalize whole : front ++ '.' :: back = text at divided
  cases spelled with
  | @dotted key edge dot before after =>
    have keySpelled : Token.WellSpelled (.ident key.value) := names _ List.mem_cons_self
    have edgeSpelled : Token.WellSpelled (.ident edge.value) :=
      names ⟨.ident edge.value, edge.span⟩ (by simp)
    obtain ⟨first, _, rfl, -, -, divided⟩ := divided.exists_spaces
    obtain ⟨second, _, rfl, dotSpan, -, divided⟩ := divided.exists_spaces
    obtain ⟨third, _, rfl, edgeSpan, -, divided⟩ := divided.exists_spaces
    obtain ⟨last, rfl⟩ := divided.exists_replicate
    -- The dot touches the key and the attribute, so no spaces are written next to it.
    obtain rfl : second = 0 := by
      have start : dot.start = key.span.stop + second := congrArg Span.start dotSpan
      omega
    obtain rfl : third = 0 := by
      have start : edge.span.start = dot.stop + third := congrArg Span.start edgeSpan
      omega
    have parted : front ++ '.' :: back =
        (List.replicate first ' ' ++ key.value.toList) ++ '.' ::
          (edge.value.toList ++ List.replicate last ' ') := by
      rw [whole]
      simp [Token.text, Mark.text]
    have inKey : '.' ∉ List.replicate first ' ' ++ key.value.toList := by
      simp [Token.dot_notMem keySpelled]
    have inEdge : '.' ∉ edge.value.toList ++ List.replicate last ' ' := by
      simp [Token.dot_notMem edgeSpelled]
    obtain ⟨same, -, -⟩ := (List.append_cons_inj_of_notMem inKey inEdge).1 parted.symm
    exact ⟨keySpelled, first, same.symm⟩

/-- There is no relation among the tokens of a clause. -/
theorem ClauseSpelled.ne_relation {Operator : Type} {mark : Operator → Mark}
    {clause : Option (Clause Operator)} {word : Tokens} (spelled : ClauseSpelled mark clause word)
    {token : Spanned Token} (present : token ∈ word) (symbol : String) :
    token.value ≠ .relation symbol := by
  cases spelled with
  | absent => contradiction
  | written operator value =>
    simp only [List.mem_cons, List.not_mem_nil, or_false] at present
    rcases present with rfl | rfl
    · exact nofun
    · cases value <;> exact nofun

namespace Equation

/-- What comes before a relation in an equation are the tag and the left side. -/
theorem Spelled.before_relation {e : Equation} {before after : Tokens} {symbol : String}
    {span : Span} (spelled : e.Spelled (before ++ ⟨.relation symbol, span⟩ :: after)) :
    ∃ tag word, before = ⟨.mark .equationTag, tag⟩ :: word ∧ e.first.Spelled word := by
  generalize whole : before ++ ⟨.relation symbol, span⟩ :: after = tokens at spelled
  cases spelled with
  | @parts first second relation factor term left right scaled shifted tag leftSide rightSide
      factored added =>
    rw [← List.cons_append, List.append_eq_append_iff] at whole
    rcases whole with ⟨rest, front, behind⟩ | ⟨rest, front, behind⟩
    · cases rest with
      | nil =>
        rw [List.append_nil] at front
        exact ⟨tag, left, front.symm, leftSide⟩
      | cons token rest =>
        -- The relation would stand in the left side.
        obtain ⟨rfl, -⟩ := List.cons.inj behind
        exfalso
        rcases List.mem_cons.1 (front.symm ▸ List.mem_append_right before List.mem_cons_self) with
          same | among
        · exact nomatch same
        · exact leftSide.ne_relation among symbol rfl
    · cases rest with
      | nil => exact ⟨tag, left, by rw [front, List.append_nil], leftSide⟩
      | cons token rest =>
        -- The relation would stand after the right side begins.
        obtain ⟨rfl, later⟩ := List.cons.inj behind
        exfalso
        have among : (⟨.relation symbol, span⟩ : Spanned Token) ∈ right ++ (scaled ++ shifted) :=
          later ▸ List.mem_append_right rest List.mem_cons_self
        simp only [List.mem_append] at among
        rcases among with inRight | inFactor | inTerm
        · exact rightSide.ne_relation inRight symbol rfl
        · exact factored.ne_relation inFactor symbol rfl
        · exact added.ne_relation inTerm symbol rfl

/-! ## Equal attributes -/

/-- The text that sets an attribute of one item to that of another. The first item is given by any
characters, the second by its key. -/
def equated (front key : String) (edge : Attribute) : String :=
  "X:" ++ front ++ "." ++ edge.keyword ++ " == " ++ key ++ "." ++ edge.keyword

section Equated

variable {front key : String} {edge : Attribute} {registry : Registry} {metrics : Metrics}
  {d : Descriptor}

/-- The left side of the text ends at a space. -/
theorem toList_equated (front key : String) (edge : Attribute) :
    (equated front key edge).toList =
      (Mark.equationTag.text.toList ++ (front.toList ++ '.' :: edge.keyword.toList)) ++
        ' ' :: Token.written (some (.relation "==") :: none :: anchorPieces ⟨key, edge⟩) := by
  simp [equated, anchorPieces, Token.written, Token.text, Mark.text]

/-- The text is written as an equality when its first item is given by a key after spaces. -/
theorem toList_equated_of_key {spaces : Nat} {item : String}
    (given : front.toList = List.replicate spaces ' ' ++ item.toList) :
    (equated front key edge).toList =
      Token.written ((Wording.equality ⟨item, edge⟩ ⟨key, edge⟩).pieces spaces) := by
  have blank : Token.written (List.replicate spaces none) = List.replicate spaces ' ' := by
    simp [Token.written, List.flatMap_replicate]
  have tagged : (equated front key edge).toList =
      Mark.equationTag.text.toList ++ (List.replicate spaces ' ' ++
        Token.written (anchorPieces ⟨item, edge⟩ ++
          none :: some (.relation "==") :: none :: anchorPieces ⟨key, edge⟩)) := by
    simp [toList_equated, given, anchorPieces, Token.written, Token.text, Mark.text]
  rw [tagged, ← blank, ← Token.written_append]
  rfl

/-- If the text compiles, its first item is given by a key after spaces. -/
theorem exists_key_of_compile (spelled : Token.WellSpelled (.ident key))
    (compiled : compile (equated front key edge) registry metrics = .ok d) :
    ∃ spaces item, Token.WellSpelled (.ident item) ∧
      front.toList = List.replicate spaces ' ' ++ item.toList := by
  obtain ⟨tokens, e, scanned, isSpelled, -⟩ := exists_spelled_of_compile compiled
  have divided := Token.scanFrom_eq_ok_iff.1 scanned
  rw [toList_equated] at divided
  obtain ⟨before, after, rfl, left, right⟩ := divided.exists_split
  have second : Token.Apart (anchorPieces ⟨key, edge⟩) := by
    have apart : Token.Apart (anchorPieces ⟨key, edge⟩ ++ []) :=
      apart_anchorPieces spelled Token.endsName_nil trivial
    rwa [List.append_nil] at apart
  have apart : Token.Apart (some (.relation "==") :: none :: anchorPieces ⟨key, edge⟩) :=
    ⟨Token.longest?_symbol .equal _, second⟩
  obtain rfl : after = Token.placed _ _ := Except.ok.inj <|
    (Token.scanFrom_of_divided right).symm.trans
      (Token.scanFrom_of_divided (Token.divided_of_apart apart _))
  obtain ⟨tag, word, rfl, operand⟩ := isSpelled.before_relation
  obtain ⟨spaces, later, begins, -, -, inner⟩ := left.exists_spaces
  cases spaces with
  | succ spaces => exact absurd (List.cons.inj begins).1 (by decide)
  | zero =>
    rw [List.replicate_zero, List.nil_append] at begins
    obtain rfl := List.append_cancel_left
      (begins : Mark.equationTag.text.toList ++ _ = Mark.equationTag.text.toList ++ later)
    obtain ⟨item, spaces, given⟩ := operand.exists_key inner
    exact ⟨spaces, _, item, given⟩

/-- If the text compiles for one attribute, it compiles for every attribute, and sets that attribute
of the one item to that of the other. -/
theorem exists_tie_of_compile (spelled : Token.WellSpelled (.ident key))
    (compiled : compile (equated front key edge) registry metrics = .ok d) :
    ∃ item, ∀ other : Attribute, compile (equated front key other) registry metrics =
      .ok (.tie ⟨item, other⟩ ⟨key, other⟩ 0) := by
  obtain ⟨spaces, item, itemSpelled, given⟩ := exists_key_of_compile spelled compiled
  obtain ⟨⟨firstKnown, firstFits⟩, secondKnown, secondFits⟩ :=
    Wording.known_of_compile (Wording.spells_equality itemSpelled spelled)
      (toList_equated_of_key given) compiled
  refine ⟨item, fun other => ?_⟩
  exact Wording.compile_of_means (Wording.spells_equality itemSpelled spelled)
    (toList_equated_of_key given) firstFits secondFits firstKnown secondKnown
    (Wording.means_equality_iff.2 rfl)

end Equated

end Equation

end ViewLayout
