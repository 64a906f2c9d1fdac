/-!
# Places in a text

A span is a range of byte offsets into the UTF-8 form of a text. Tokens, captured groups and
errors carry spans, so an error can point at the exact text that caused it.
-/

namespace ViewLayout.Text

/-- A range of byte offsets, the first inside and the last outside. -/
structure Span where
  /-- Offset of the first byte. -/
  start : Nat
  /-- Offset after the last byte. -/
  stop : Nat
deriving DecidableEq, Repr, Inhabited

namespace Span

/-- The span from the start of one span to the end of another. -/
def through (first last : Span) : Span := ⟨first.start, last.stop⟩

end Span

/-- A value read from a text, with the place it was read from. -/
structure Spanned (α : Type) where
  /-- The value. -/
  value : α
  /-- The bytes it was read from. -/
  span : Span
deriving DecidableEq, Repr

/-- The number of bytes in the UTF-8 form of a run of characters. -/
def byteLength (text : List Char) : Nat :=
  text.foldr (fun c total => c.utf8Size + total) 0

end ViewLayout.Text
