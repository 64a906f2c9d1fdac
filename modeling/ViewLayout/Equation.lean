import ViewLayout.Grammar
import ViewLayout.Metrics

/-!
# Equations

An equation is constraint text with the tag `X:`. It relates an attribute of one item to an
attribute of another, scaled by an optional factor and shifted by an optional term:

`X: key.attr relation key.attr [* value | / value] [+ value | - value]`

Its parts are numbered as captured groups: the whole text, then the nine parts in the order in
which they can be written.
-/

namespace ViewLayout

open ViewLayout.Text

/-- One numbered part of an equation; a part that was not written has no text. -/
structure Capture where
  /-- The number of the group. -/
  index : Nat
  /-- The text of the part and its place. -/
  found : Option (Spanned String)
deriving DecidableEq, Repr

/-- The part captured in a group, if the group is there and its part is written. -/
def Capture.at? (captures : List Capture) (index : Nat) : Option (Spanned String) :=
  captures[index]?.bind Capture.found

/-- One line for each captured group. -/
def Capture.dump (captures : List Capture) : String :=
  "\n".intercalate (captures.map fun capture =>
    "group " ++ toString capture.index ++ ": "
      ++ (capture.found.map (·.value)).getD "NOT FOUND")

/-- An operator with the value it applies to. -/
structure Clause (Operator : Type) where
  /-- The operator and its place. -/
  operator : Spanned Operator
  /-- The written value, a metric name or a number. -/
  value : Spanned String
deriving DecidableEq, Repr

/-- The operators of a factor. -/
inductive FactorOperator where
  | times | divided
deriving DecidableEq, Repr

/-- The operators of a term. -/
inductive TermOperator where
  | plus | minus
deriving DecidableEq, Repr

/-- The mark of a factor's operator. -/
def FactorOperator.mark : FactorOperator → Mark
  | times => .star
  | divided => .slash

/-- The mark of a term's operator. -/
def TermOperator.mark : TermOperator → Mark
  | plus => .plus
  | minus => .minus

/-- An attribute of an item as it is written, with a dot between key and attribute. -/
structure Operand where
  /-- The key of the item. -/
  key : Spanned String
  /-- The attribute, in the vocabulary or not. -/
  edge : Spanned String
deriving DecidableEq, Repr

/-- The parts of an equation. -/
structure Equation where
  /-- The left side. -/
  first : Operand
  /-- The relation, in the vocabulary or not. -/
  relation : Spanned String
  /-- The right side. -/
  second : Operand
  /-- The factor of the right side. -/
  factor : Option (Clause FactorOperator)
  /-- The term added to the right side. -/
  term : Option (Clause TermOperator)
deriving DecidableEq, Repr

namespace Equation

open Grammar

namespace Group

/-- The group of the first key. -/
def firstKey : Nat := 1

/-- The group of the first attribute. -/
def firstEdge : Nat := 2

/-- The group of the relation. -/
def relation : Nat := 3

/-- The group of the second key. -/
def secondKey : Nat := 4

/-- The group of the second attribute. -/
def secondEdge : Nat := 5

/-- The group of the operator of a factor. -/
def factorOperator : Nat := 6

/-- The group of the value of a factor. -/
def factorValue : Nat := 7

/-- The group of the operator of a term. -/
def termOperator : Nat := 8

/-- The group of the value of a term. -/
def termValue : Nat := 9

end Group

/-- Takes a key, a dot and an attribute, with nothing between them. -/
def takeOperand : Reader Operand := fun tokens => do
  let (key, rest) ← takeIdent tokens
  let (dot, rest) ← takeMark .dot rest
  let (edge, rest) ← takeIdent rest
  if key.span.stop = dot.start ∧ dot.stop = edge.span.start then .ok (⟨key, edge⟩, rest)
  else .error (.spacedDot (key.span.through edge.span))

/-- Takes a factor, if the next token is the operator of one. -/
def takeFactor : Reader (Option (Clause FactorOperator))
  | ⟨.mark .star, span⟩ :: rest => do
    let (value, rest) ← takeValue rest
    .ok (some ⟨⟨.times, span⟩, value⟩, rest)
  | ⟨.mark .slash, span⟩ :: rest => do
    let (value, rest) ← takeValue rest
    .ok (some ⟨⟨.divided, span⟩, value⟩, rest)
  | tokens => .ok (none, tokens)

/-- Takes a term, if the next token is the operator of one. -/
def takeTerm : Reader (Option (Clause TermOperator))
  | ⟨.mark .plus, span⟩ :: rest => do
    let (value, rest) ← takeValue rest
    .ok (some ⟨⟨.plus, span⟩, value⟩, rest)
  | ⟨.mark .minus, span⟩ :: rest => do
    let (value, rest) ← takeValue rest
    .ok (some ⟨⟨.minus, span⟩, value⟩, rest)
  | tokens => .ok (none, tokens)

/-- Takes a whole equation and the end of the tokens. -/
def ofTokens (tokens : Tokens) : Except Stop Equation := do
  let (_, rest) ← takeMark .equationTag tokens
  let (first, rest) ← takeOperand rest
  let (relation, rest) ← takeRelation rest
  let (second, rest) ← takeOperand rest
  let (factor, rest) ← takeFactor rest
  let (term, rest) ← takeTerm rest
  takeEnd rest
  .ok ⟨first, relation, second, factor, term⟩

/-- The operator of a clause as a captured part. -/
def operatorCapture {Operator : Type} (mark : Operator → Mark)
    (clause : Option (Clause Operator)) : Option (Spanned String) :=
  clause.map fun c => ⟨(mark c.operator.value).text, c.operator.span⟩

/-- The nine parts of an equation in the order in which they can be written. -/
def parts (e : Equation) : List (Option (Spanned String)) :=
  [some e.first.key, some e.first.edge, some e.relation, some e.second.key, some e.second.edge,
    operatorCapture FactorOperator.mark e.factor, e.factor.map (·.value),
    operatorCapture TermOperator.mark e.term, e.term.map (·.value)]

/-- The captured groups of an equation: the whole text, then the nine parts. -/
def captures (raw : String) (e : Equation) : List Capture :=
  (some ⟨raw, ⟨0, raw.utf8ByteSize⟩⟩ :: e.parts).mapIdx fun index found => ⟨index, found⟩

/-- The first captured part that is an identifier beyond the length limit. -/
def overlong? (captures : List Capture) : Option Capture :=
  captures.tail.find? fun capture =>
    match capture.found with
    | some part => Metrics.isName part.value && identifierLimit < part.value.utf8ByteSize
    | none => false

/-- Why and where a text is no equation, with the groups captured before that was found. -/
structure Rejection where
  /-- What is wrong and where. -/
  error : SyntaxError
  /-- The captured groups, when the text has the form of an equation. -/
  captures : List Capture
deriving DecidableEq, Repr

/-- Reads a whole text as an equation. -/
def parse (raw : String) : Except Rejection Equation :=
  match read raw ofTokens with
  | .error error => .error ⟨error, []⟩
  | .ok e =>
    let groups := e.captures raw
    match overlong? groups with
    | some ⟨index, some part⟩ => .error ⟨⟨.longIdentifier index, part.span⟩, groups⟩
    | _ => .ok e

end Equation

end ViewLayout
