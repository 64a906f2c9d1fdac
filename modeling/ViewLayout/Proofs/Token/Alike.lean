import Mathlib.Data.List.Infix
import ViewLayout.Grammar
import ViewLayout.Proofs.Token.Places

/-!
# Tokens up to their places

Two texts that differ only in their spaces have tokens that are alike: the same tokens in the same
order, at other places. What two runs of tokens that are alike are made of is alike part by part.

The one thing that a place can decide is whether a dot touches its neighbours. It does wherever no
space is written next to it.
-/

namespace ViewLayout

open ViewLayout.Text

namespace Text

/-- Forgets the place that a value was read from. -/
def Spanned.unplaced {α : Type} (part : Spanned α) : Spanned α := ⟨part.value, ⟨0, 0⟩⟩

@[simp]
theorem Spanned.value_unplaced {α : Type} (part : Spanned α) :
    part.unplaced.value = part.value := rfl

end Text

namespace Grammar

/-- The same tokens in the same order, wherever they stand. -/
abbrev Alike : Tokens → Tokens → Prop :=
  List.Forall₂ fun first second => first.value = second.value

/-- Tokens are alike when their values are the same. -/
theorem alike_iff {first second : Tokens} :
    Alike first second ↔ first.map (·.value) = second.map (·.value) := by
  rw [← List.forall₂_eq_eq_eq, List.forall₂_map_left_iff, List.forall₂_map_right_iff]

/-- Tokens that are alike stay so the other way round. -/
theorem Alike.symm {first second : Tokens} (alike : Alike first second) : Alike second first :=
  alike_iff.2 (alike_iff.1 alike).symm

/-- A token of a given value is alike only to that token. -/
theorem Alike.of_cons {value : Token} {span : Span} {rest other : Tokens}
    (alike : Alike (⟨value, span⟩ :: rest) other) :
    ∃ moved later, other = ⟨value, moved⟩ :: later ∧ Alike rest later := by
  obtain ⟨⟨found, moved⟩, later, same, others, rfl⟩ := List.forall₂_cons_left_iff.1 alike
  obtain rfl : value = found := same
  exact ⟨moved, later, rfl, others⟩

/-- Nothing is alike only to nothing. -/
theorem Alike.of_nil {other : Tokens} (alike : Alike [] other) : other = [] :=
  List.forall₂_nil_left_iff.1 alike

/-- What is alike to one run of tokens after another is so part by part. -/
theorem Alike.of_append {first second other : Tokens} (alike : Alike (first ++ second) other) :
    ∃ before after, other = before ++ after ∧ Alike first before ∧ Alike second after := by
  obtain ⟨before, left, after, right, rfl⟩ := Outcome.forall₂_append_left_iff.1 alike
  exact ⟨before, after, rfl, left, right⟩

/-- What is alike to a run of tokens before a last one ends in that token. -/
theorem Alike.of_concat {word other : Tokens} {value : Token} {span : Span}
    (alike : Alike (word ++ [⟨value, span⟩]) other) :
    ∃ before moved, other = before ++ [⟨value, moved⟩] ∧ Alike word before := by
  obtain ⟨before, last, rfl, here, there⟩ := alike.of_append
  obtain ⟨moved, none, rfl, ended⟩ := there.of_cons
  obtain rfl := ended.of_nil
  exact ⟨before, moved, rfl, here⟩

/-! ## Dots -/

/-- Every dot touches the tokens before it and after it. -/
def DotsTouch (tokens : Tokens) : Prop :=
  tokens.IsChain fun first second => (first.value = .mark .dot ∨ second.value = .mark .dot) →
    first.span.stop = second.span.start

/-- No space is written next to a dot. -/
def DotsUnspaced (text : List Char) : Prop :=
  ¬[' ', '.'] <:+: text ∧ ¬['.', ' '] <:+: text

instance (text : List Char) : Decidable (DotsUnspaced text) :=
  inferInstanceAs (Decidable (_ ∧ _))

/-- No space is written next to a dot of a part of such a text. -/
theorem DotsUnspaced.of_infix {part text : List Char} (unspaced : DotsUnspaced text)
    (inside : part <:+: text) : DotsUnspaced part :=
  ⟨fun before => unspaced.1 (before.trans inside), fun after => unspaced.2 (after.trans inside)⟩

end Grammar

namespace Token

open ViewLayout.Grammar

/-- Where no space is written next to a dot, every dot touches its neighbours. -/
theorem Divided.dotsTouch {offset : Nat} {text : List Char} {tokens : Tokens}
    (divided : Divided offset text tokens) (unspaced : DotsUnspaced text) : DotsTouch tokens := by
  induction divided with
  | done => exact .nil
  | @space offset text tokens later ih =>
    exact ih (unspaced.of_infix (List.suffix_cons ' ' text).isInfix)
  | @token offset token text tokens longest later ih =>
    have rest := ih (unspaced.of_infix (List.suffix_append _ _).isInfix)
    cases tokens with
    | nil => exact .singleton _
    | cons next others =>
      refine List.isChain_cons_cons.2 ⟨fun dotted => ?_, rest⟩
      obtain ⟨spaces, after, rfl, span, -⟩ := later.exists_spaces
      -- A space between the two would be written next to the dot.
      cases spaces with
      | zero => exact (congrArg Span.start span).symm
      | succ spaces =>
        exfalso
        rcases dotted with before | behind
        · obtain rfl : token = .mark .dot := before
          exact unspaced.2 ⟨[], _, rfl⟩
        · rw [show next.value = .mark .dot from behind] at unspaced
          refine unspaced.1 ⟨token.text.toList ++ List.replicate spaces ' ', after, ?_⟩
          rw [List.replicate_succ']
          simp only [List.append_assoc]
          rfl

/-- Where no space is written next to a dot of a text, every dot among its tokens touches its
neighbours. -/
theorem dotsTouch_of_scan {raw : String} {tokens : Tokens} (scanned : scan raw = .ok tokens)
    (unspaced : DotsUnspaced raw.toList) : DotsTouch tokens :=
  (scanFrom_eq_ok_iff.1 scanned).dotsTouch unspaced

/-- A text that does not begin with a space begins with its first token. -/
theorem head?_of_scan {raw : String} {token : Spanned Token} {tokens : Tokens} {c : Char}
    (scanned : scan raw = .ok (token :: tokens)) (begins : raw.toList.head? = some c)
    (written : c ≠ ' ') : token.value.text.toList.head? = some c := by
  obtain ⟨spaces, later, split, -, longest, -⟩ := (scanFrom_eq_ok_iff.1 scanned).exists_spaces
  have some := ne_nil_of_longest? longest
  rw [split] at begins
  cases spaces with
  | zero =>
    rwa [List.replicate_zero, List.nil_append, List.head?_append_of_ne_nil _ some] at begins
  | succ spaces => exact absurd (Option.some.inj begins).symm written

end Token

end ViewLayout
