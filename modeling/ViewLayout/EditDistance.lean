/-!
# Edit distance

The least number of insertions, deletions and substitutions of single characters that turn one
text into another, computed row by row over the prefixes of the first text. A row has one cell for
each prefix of the second text. Only two rows are kept: a new row is written over the row before
the last, from left to right.

Every access to a row is checked, and one outside of its row would leave the computation without a
result.
-/

namespace ViewLayout

namespace EditDistance

/-- The two rows that are kept. -/
structure Rows where
  /-- The row that was filled last. -/
  last : Array Nat
  /-- The row before it, which is written over next. -/
  spare : Array Nat

/-- Writes a cell of a row; none if the row has no such cell. -/
def write? (row : Array Nat) (i cell : Nat) : Option (Array Nat) :=
  if inside : i < row.size then some (row.set i cell inside) else none

/-- Fills the cell of a row that belongs to character `j` of the second text. The cell is one step
from the cell above it (a deletion), from the cell on its left (an insertion) and from the cell
diagonally before it (a substitution, free when the characters agree). -/
def fillCell? (c d : Char) (above : Array Nat) (j : Nat) (row : Array Nat) :
    Option (Array Nat) := do
  let upper ← above[j + 1]?
  let left ← row[j]?
  let diagonal ← above[j]?
  write? row (j + 1) (min (min (upper + 1) (left + 1)) (diagonal + if c = d then 0 else 1))

/-- Fills the cells of a row that belong to the characters of the second text from number `j`
on. -/
def fillCells? (c : Char) (above : Array Nat) : List Char → Nat → Array Nat → Option (Array Nat)
  | [], _, row => some row
  | d :: target, j, row => do
    let filled ← fillCell? c d above j row
    fillCells? c above target (j + 1) filled

/-- Fills a row for each character of the first text from number `i` on. -/
def fillRows? (target : List Char) : List Char → Nat → Rows → Option Rows
  | [], _, rows => some rows
  | c :: source, i, rows => do
    let begun ← write? rows.spare 0 (i + 1)
    let filled ← fillCells? c rows.last target 0 begun
    fillRows? target source (i + 1) ⟨filled, rows.last⟩

/-- The rows before the first character of the first text. The last row counts the insertions that
make a prefix of the second text. -/
def firstRows (target : List Char) : Rows where
  last := (List.range (target.length + 1)).toArray
  spare := Array.replicate (target.length + 1) 0

/-- The last cell of the last row. -/
def lastCell? (source target : List Char) : Option Nat := do
  let rows ← fillRows? target source 0 (firstRows target)
  rows.last[target.length]?

end EditDistance

/-- The edit distance of two texts. -/
def editDistance (source target : String) : Nat :=
  (EditDistance.lastCell? source.toList target.toList).getD 0

end ViewLayout
