/-!
# The vocabulary of constraints

The attributes, relations and axes that constraint text can name. Each word of the vocabulary has
one spelling; looking a spelling up and spelling a word out are inverse to each other.
-/

namespace ViewLayout

/-- A layout attribute of a view or guide. -/
inductive Attribute where
  | left | right | top | bottom | leading | trailing | width | height | centerX | centerY
  /-- The last text baseline. -/
  | baseline
deriving DecidableEq, Repr

namespace Attribute

/-- Every attribute, in the order in which they are listed to a reader. -/
def all : List Attribute :=
  [left, right, top, bottom, leading, trailing, width, height, centerX, centerY, baseline]

/-- The spelling of an attribute. -/
def keyword : Attribute → String
  | left => "left"
  | right => "right"
  | top => "top"
  | bottom => "bottom"
  | leading => "leading"
  | trailing => "trailing"
  | width => "width"
  | height => "height"
  | centerX => "centerX"
  | centerY => "centerY"
  | baseline => "baseline"

/-- The attribute of an exact spelling. -/
def ofKeyword? (word : String) : Option Attribute :=
  all.find? (·.keyword == word)

/-- Spelling an attribute out and looking the spelling up gives the attribute back. -/
@[simp]
theorem ofKeyword?_keyword (edge : Attribute) : ofKeyword? edge.keyword = some edge := by
  cases edge <;> decide

/-- Only the spelling of an attribute finds it. -/
theorem keyword_of_ofKeyword? {word : String} {edge : Attribute}
    (found : ofKeyword? word = some edge) : edge.keyword = word :=
  by simpa using List.find?_some found

end Attribute

/-- How the two sides of a constraint relate. -/
inductive Relation where
  | equal | greaterOrEqual | lessOrEqual
deriving DecidableEq, Repr

namespace Relation

/-- Every relation, in the order in which they are listed to a reader. -/
def all : List Relation := [equal, greaterOrEqual, lessOrEqual]

/-- The spelling of a relation. -/
def symbol : Relation → String
  | equal => "=="
  | greaterOrEqual => ">="
  | lessOrEqual => "<="

/-- The relation of an exact spelling. -/
def ofSymbol? (word : String) : Option Relation :=
  all.find? (·.symbol == word)

/-- Spelling a relation out and looking the spelling up gives the relation back. -/
@[simp]
theorem ofSymbol?_symbol (relation : Relation) : ofSymbol? relation.symbol = some relation := by
  cases relation <;> decide

/-- Only the spelling of a relation finds it. -/
theorem symbol_of_ofSymbol? {word : String} {relation : Relation}
    (found : ofSymbol? word = some relation) : relation.symbol = word :=
  by simpa using List.find?_some found

end Relation

/-- A layout axis. -/
inductive Axis where
  | horizontal | vertical
deriving DecidableEq, Repr

namespace Axis

/-- The perpendicular axis. -/
def cross : Axis → Axis
  | horizontal => vertical
  | vertical => horizontal

/-- The letter that opens a chain along the axis. -/
def letter : Axis → String
  | horizontal => "H"
  | vertical => "V"

/-- The word for the axis. -/
def word : Axis → String
  | horizontal => "horizontal"
  | vertical => "vertical"

/-- The axis of an exact word. -/
def ofWord? (word : String) : Option Axis :=
  [horizontal, vertical].find? (·.word == word)

/-- The center attribute measured along the axis. -/
def center : Axis → Attribute
  | horizontal => .centerX
  | vertical => .centerY

/-- The edge at which a chain along the axis begins. -/
def leadingEdge : Axis → Attribute
  | horizontal => .leading
  | vertical => .top

/-- The edge at which a chain along the axis ends. -/
def trailingEdge : Axis → Attribute
  | horizontal => .trailing
  | vertical => .bottom

/-- The size attribute measured along the axis. -/
def size : Axis → Attribute
  | horizontal => .width
  | vertical => .height

/-- Crossing twice leads back to the axis. -/
@[simp]
theorem cross_cross (axis : Axis) : axis.cross.cross = axis := by cases axis <;> rfl

end Axis

end ViewLayout
