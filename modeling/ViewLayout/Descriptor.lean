import ViewLayout.Number.Decimal
import ViewLayout.Vocabulary

/-!
# Constraint descriptors

A descriptor is one compiled constraint, `item.attr REL item.attr * multiplier + constant` or
`item.attr REL constant`, still naming its items by key. Its text is an equation in constraint
text whenever it has a second item.
-/

namespace ViewLayout

open ViewLayout.Number

/-- The weight of a constraint on the scale from 0 to 1000, where 1000 is required. -/
structure Priority where
  /-- The place on the scale. -/
  value : Binary32
deriving DecidableEq, Repr

namespace Priority

/-- A constraint that must hold. -/
def required : Priority := ⟨1000⟩

/-- The default weight against shrinking a view below its content. -/
def high : Priority := ⟨750⟩

/-- The default weight against growing a view beyond its content. -/
def low : Priority := ⟨250⟩

end Priority

/-- An attribute of the item with a key. -/
structure Anchor where
  /-- The key of the item. -/
  key : String
  /-- The attribute of the item. -/
  edge : Attribute
deriving DecidableEq, Repr

/-- The text of an anchor. -/
def Anchor.text (anchor : Anchor) : String :=
  anchor.key ++ "." ++ anchor.edge.keyword

/-- One compiled constraint. -/
structure Descriptor where
  /-- The left side. -/
  first : Anchor
  /-- How the sides relate. -/
  relation : Relation
  /-- The anchor on the right side; without one the right side is the constant alone. -/
  second : Option Anchor
  /-- The factor of the second anchor. -/
  multiplier : Binary64 := 1
  /-- The term added on the right side. -/
  constant : Binary64 := 0
  /-- The weight; a constraint without one is required. -/
  priority : Option Priority := none
deriving DecidableEq, Repr

namespace Descriptor

/-- The keys a descriptor names. -/
def keys (d : Descriptor) : List String :=
  d.first.key :: d.second.toList.map Anchor.key

/-- The factor as it is written after the second anchor; a factor of one is left out. -/
def multiplierText (d : Descriptor) : String :=
  if d.multiplier.equal 1 then "" else " * " ++ d.multiplier.render

/-- The constant as it is written after the factor, its sign as an operator; zero is left out. -/
def constantText (d : Descriptor) : String :=
  if d.constant.equal 0 then ""
  else (if d.constant.isBelowZero then " - " else " + ") ++ d.constant.abs.render

/-- The text of a descriptor. -/
def text (d : Descriptor) : String :=
  let body :=
    match d.second with
    | some second =>
      "X: " ++ d.first.text ++ " " ++ d.relation.symbol ++ " " ++ second.text
        ++ d.multiplierText ++ d.constantText
    | none => d.first.text ++ " " ++ d.relation.symbol ++ " " ++ d.constant.render
  match d.priority with
  | some priority => body ++ " @" ++ priority.value.render
  | none => body

end Descriptor

end ViewLayout
