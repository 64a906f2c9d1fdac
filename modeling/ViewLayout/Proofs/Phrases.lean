import Mathlib.Computability.Language
import ViewLayout.Grammar
import ViewLayout.Proofs.Outcome

/-!
# Phrases of tokens

The grammars of constraint text are written as languages over placed tokens, with product for
what follows, sum for choice and `1` for what may be left out. The terminals are here: a token of
a given value, or of a given kind, wherever it stands.

A reader that takes a terminal takes exactly the token at the front of what is left.
-/

namespace ViewLayout.Grammar

open ViewLayout.Text

/-- A mark, wherever it stands. -/
def markPhrase (mark : Mark) : Language (Spanned Token) :=
  {word | ∃ span, word = [⟨.mark mark, span⟩]}

/-- An identifier. -/
def namePhrase : Language (Spanned Token) :=
  {word | ∃ name span, word = [⟨.ident name, span⟩]}

/-- A number, without a sign. -/
def numberPhrase : Language (Spanned Token) :=
  {word | ∃ literal span, word = [⟨.number literal, span⟩]}

/-- A run of relation characters. -/
def relationPhrase : Language (Spanned Token) :=
  {word | ∃ symbol span, word = [⟨.relation symbol, span⟩]}

/-- A phrase that may be left out. -/
def optionally (phrase : Language (Spanned Token)) : Language (Spanned Token) := 1 + phrase

@[simp]
theorem mem_markPhrase {mark : Mark} {word : Tokens} :
    word ∈ markPhrase mark ↔ ∃ span, word = [⟨.mark mark, span⟩] := Iff.rfl

@[simp]
theorem mem_namePhrase {word : Tokens} :
    word ∈ namePhrase ↔ ∃ name span, word = [⟨.ident name, span⟩] := Iff.rfl

@[simp]
theorem mem_numberPhrase {word : Tokens} :
    word ∈ numberPhrase ↔ ∃ literal span, word = [⟨.number literal, span⟩] := Iff.rfl

@[simp]
theorem mem_relationPhrase {word : Tokens} :
    word ∈ relationPhrase ↔ ∃ symbol span, word = [⟨.relation symbol, span⟩] := Iff.rfl

@[simp]
theorem mem_optionally {phrase : Language (Spanned Token)} {word : Tokens} :
    word ∈ optionally phrase ↔ word = [] ∨ word ∈ phrase := Iff.rfl

/-- One phrase more at the front of a repetition is a repetition. -/
theorem append_mem_kstar {phrase : Language (Spanned Token)} {first rest : Tokens}
    (one : first ∈ phrase) (others : rest ∈ KStar.kstar phrase) :
    first ++ rest ∈ KStar.kstar phrase := by
  obtain ⟨words, rfl, inside⟩ := others
  refine ⟨first :: words, rfl, fun word present => ?_⟩
  rcases List.mem_cons.1 present with rfl | later
  · exact one
  · exact inside word later

/-- Taking a mark takes that mark from the front. -/
theorem takeMark_eq_ok_iff {mark : Mark} {tokens rest : Tokens} {span : Span} :
    takeMark mark tokens = .ok (span, rest) ↔ tokens = ⟨.mark mark, span⟩ :: rest := by
  constructor
  · intro taken
    unfold takeMark at taken
    split at taken
    · split at taken
      · rename_i same
        obtain ⟨rfl, rfl⟩ := Prod.mk.inj (Except.ok.inj taken)
        rw [same]
      · contradiction
    · contradiction
  · rintro rfl
    rw [takeMark, if_pos rfl]

/-- Taking an identifier takes one from the front. -/
theorem takeIdent_eq_ok_iff {tokens rest : Tokens} {name : Spanned String} :
    takeIdent tokens = .ok (name, rest) ↔ tokens = ⟨.ident name.value, name.span⟩ :: rest := by
  constructor
  · intro taken
    unfold takeIdent at taken
    split at taken
    · obtain ⟨rfl, rfl⟩ := Prod.mk.inj (Except.ok.inj taken)
      rfl
    · contradiction
  · rintro rfl
    rfl

/-- Taking a relation takes one from the front. -/
theorem takeRelation_eq_ok_iff {tokens rest : Tokens} {symbol : Spanned String} :
    takeRelation tokens = .ok (symbol, rest) ↔
      tokens = ⟨.relation symbol.value, symbol.span⟩ :: rest := by
  constructor
  · intro taken
    unfold takeRelation at taken
    split at taken
    · obtain ⟨rfl, rfl⟩ := Prod.mk.inj (Except.ok.inj taken)
      rfl
    · contradiction
  · rintro rfl
    rfl

/-- Taking the end finds nothing left. -/
theorem takeEnd_eq_ok_iff {tokens : Tokens} : takeEnd tokens = .ok () ↔ tokens = [] := by
  cases tokens with
  | nil => simp [takeEnd]
  | cons token rest => simp [takeEnd]

/-- A reader of a whole text gives what it reads from the tokens of the text. -/
theorem read_eq_ok_iff {α : Type} {raw : String} {reader : Tokens → Except Stop α} {value : α} :
    read raw reader = .ok value ↔
      ∃ tokens, Token.scan raw = .ok tokens ∧ reader tokens = .ok value := by
  unfold read
  cases Token.scan raw with
  | error found => simp
  | ok tokens =>
    simp only [Except.ok.injEq, exists_eq_left']
    cases reader tokens <;> simp

end ViewLayout.Grammar
