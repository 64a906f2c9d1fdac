import ViewLayout.ConstraintError
import ViewLayout.Text.Width

/-!
# Error reports

A report shows the constraint text an error is about, underlines the part at fault and writes the
reason under it. A frame with line numbers runs down the left side; captured groups follow as a
note, and keys that may have been meant as help.

The bounds of a label are counted in characters. A label in one line is underlined, with an arrow
from the middle of the underline to the reason. A label over several lines is drawn as a bracket
on the left from its first line to its last, with the lines between them left out. A label that
ends beyond the text shows no line, and one with an end that is in no line at all no frame either.
-/

namespace ViewLayout.Report

open ViewLayout.Text

/-- A line of a text, with the character that ends it. -/
structure Line where
  /-- The number of characters before the line. -/
  start : Nat
  /-- The characters of the line. -/
  text : List Char
deriving DecidableEq, Repr

namespace Line

/-- The number of characters up to the next line. -/
def stop (line : Line) : Nat := line.start + line.text.length

/-- Whether a character of the text, by its number, is in the line. -/
def contains (line : Line) (offset : Nat) : Bool :=
  line.start ≤ offset && offset < line.stop

/-- The characters of the line that are shown. -/
def shown (line : Line) : List Char := dropBlankEnd line.text

end Line

/-- Characters that end a line. -/
def isLineEnd (c : Char) : Bool :=
  inRanges [(0x0a, 0x0d), (0x85, 0x85), (0x2028, 0x2029)] c.toNat

/-- Splits a text after every character that ends a line; a carriage return before a line feed
belongs to the same line. The empty text has no line. -/
def linesFrom (start : Nat) (current : List Char) : List Char → List Line
  | [] => if current.isEmpty then [] else [⟨start, current.reverse⟩]
  | '\r' :: '\n' :: rest =>
    let line : Line := ⟨start, ('\n' :: '\r' :: current).reverse⟩
    line :: linesFrom line.stop [] rest
  | c :: rest =>
    if isLineEnd c then
      let line : Line := ⟨start, (c :: current).reverse⟩
      line :: linesFrom line.stop [] rest
    else linesFrom start (c :: current) rest

/-- The lines of a text. -/
def linesOf (text : String) : List Line := linesFrom 0 [] text.toList

/-- The number of the line that a character is in, counted from zero. The place after the last
character belongs to the last line. -/
def lineAt? (lines : List Line) (offset : Nat) : Option Nat :=
  match lines.getLast? with
  | none => none
  | some last =>
    if offset ≤ last.stop then some ((lines.takeWhile (·.start ≤ offset)).length - 1) else none

/-- A part of a text, counted in characters, and what is said about it. -/
structure Label where
  /-- The number of characters before the part. -/
  start : Nat
  /-- The number of characters up to the end of the part. -/
  stop : Nat
  /-- What is said. -/
  message : String
deriving DecidableEq, Repr

/-- The last character of a label, or the place of one that is empty. -/
def Label.lastOffset (label : Label) : Nat := max (label.stop - 1) label.start

/-- A text of the same character, repeated. -/
def rule (c : Char) (length : Nat) : String := String.ofList (List.replicate length c)

/-- What a character is shown as in a column, and how many columns it takes. A tab goes up to the
next multiple of four columns. -/
def shownChar (column : Nat) (c : Char) : Char × Nat :=
  if c = '\t' then (' ', 4 - column % 4)
  else if isBlank c then (' ', 1)
  else (c, displayWidth c)

/-- The shown text of a line. -/
def lineText (line : Line) : String :=
  String.ofList <| (line.shown.mapIdx fun column c =>
    let (shown, width) := shownChar column c
    if isBlank shown then List.replicate width shown else [shown]).flatten

/-- A row below a line: for each of its characters the mark in its first column and the mark in
any further ones. Columns after the line are one wide. -/
def markRow (line : Line) (length : Nat) (marks : Nat → Char × Char) : String :=
  let shown := line.shown
  String.ofList <| ((List.range length).map fun column =>
    let width := (shown[column]?.map fun c => (shownChar column c).2).getD 1
    let (first, further) := marks column
    List.replicate (min width 1) first ++ List.replicate (width - 1) further).flatten

/-- The frame of a report: the width of its line numbers. -/
structure Frame where
  /-- The number of digits of the greatest line number. -/
  digits : Nat
deriving DecidableEq, Repr

namespace Frame

/-- The frame left of a line with a number. -/
def numbered (frame : Frame) (index : Nat) : String :=
  let number := toString (index + 1)
  " " ++ rule ' ' (frame.digits - number.length) ++ number ++ " │ "

/-- The frame left of any other row. -/
def plain (frame : Frame) (bar : Char := '│') : String :=
  " " ++ rule ' ' (frame.digits + 1) ++ String.singleton bar ++ " "

end Frame

/-- The rows that show a label within one line: the line, the underline and the reason. -/
def inlineRows (frame : Frame) (index : Nat) (line : Line) (label : Label) : List String :=
  if line.start ≤ label.start ∧ label.stop ≤ line.stop then
    let middle := max ((label.start + label.stop) / 2) label.start - line.start
    let length := label.stop - line.start + 2
    let underlined (column : Nat) : Bool :=
      label.start ≤ line.start + column && line.start + column < label.stop
    let underline (column : Nat) : Char × Char :=
      if column = middle then (if underlined column then ('┬', '─') else ('│', ' '))
      else if underlined column then ('─', '─')
      else (' ', ' ')
    let arrow (column : Nat) : Char × Char :=
      if column = middle then ('╰', '─') else if middle < column then ('─', '─') else (' ', ' ')
    [frame.numbered index ++ lineText line,
      frame.plain ++ markRow line length underline,
      frame.plain ++ markRow line length arrow ++ " " ++ label.message]
  else [frame.plain]

/-- The rows that show a label over several lines, from a line on. The first line of those between
its ends is shown as a gap, unless a gap is `open` already. -/
def bracketRows (frame : Frame) (label : Label) : Nat → Bool → List Line → List String
  | _, _, [] => []
  | index, gap, line :: lines =>
    if line.contains label.start then
      (frame.numbered index ++ "╭─▶ " ++ lineText line) ::
        bracketRows frame label (index + 1) false lines
    else if line.contains label.lastOffset then
      let length := line.text.length + 2
      [frame.numbered index ++ "├─▶ " ++ lineText line,
        frame.plain ++ "│   " ++ markRow line length fun _ => (' ', ' '),
        frame.plain ++ "╰───" ++ (markRow line length fun _ => ('─', '─')) ++ " " ++ label.message]
        ++ bracketRows frame label (index + 1) false lines
    else if gap then bracketRows frame label (index + 1) true lines
    else (frame.plain '┆' ++ "┆   ") :: bracketRows frame label (index + 1) true lines

/-- What a note has on its left after the frame: room for the bracket of a label over several
lines, which reaches up to the note's row if it begins right after the first line. -/
def noteMargin (lines : List Line) (label : Label) (several : Bool) : String :=
  if !several then ""
  else if lines.head?.map Line.stop = some label.start then "│   "
  else "    "

/-- The rows of a report below its heading. -/
def body (name : String) (text : String) (label : Label) (notes : List (String × String)) :
    List String :=
  let lines := linesOf text
  match lineAt? lines label.start, lineAt? lines label.lastOffset with
  | some first, some last =>
    let frame : Frame := ⟨(toString (last + 1)).length⟩
    let column := label.start - (lines[first]?.map Line.start).getD 0
    let several := first ≠ last
    let rows :=
      if several then bracketRows frame label first false ((lines.take (last + 1)).drop first)
      else (lines[first]?.map (inlineRows frame first · label)).getD []
    let margin := noteMargin lines label several
    [rule ' ' (frame.digits + 2) ++ "╭─[" ++ name ++ ":" ++ toString (first + 1) ++ ":"
        ++ toString (column + 1) ++ "]",
      rule ' ' (frame.digits + 2) ++ "│"]
      ++ rows
      ++ (notes.map fun note =>
        [frame.plain ++ margin, frame.plain ++ margin ++ note.1 ++ ": " ++ note.2]).flatten
      ++ [rule '─' (frame.digits + 2) ++ "╯"]
  | _, _ => []

/-- The report of an error; an error outside any constraint text is only its message. -/
def render (name : String) (error : ConstraintError) : String :=
  match error.raw? with
  | none => error.message
  | some raw =>
    let span := error.span?.getD ⟨0, raw.utf8ByteSize⟩
    let help :=
      if error.suggestions.isEmpty then []
      else [("Help", "did you mean: " ++ ", ".intercalate error.suggestions)]
    let note := if error.captures.isEmpty then [] else [("Note", Capture.dump error.captures)]
    let rows :=
      ("Error: invalid constraint `" ++ raw ++ "`")
        :: body name raw ⟨span.start, span.stop, error.reason⟩ (help ++ note)
    String.join (rows.map (· ++ "\n"))

end ViewLayout.Report
