import ViewLayout.Vocabulary
import ViewLayout.Text.Span

/-!
# Tokens of constraint text

Both constraint formats are read as one sequence of tokens. A token keeps the text it was written
with, so the tokens of a text and the spaces between them are the whole text.

`Token.description` is how an error message names a token.
-/

namespace ViewLayout

/-- The tokens that are always spelled the same way. -/
inductive Mark where
  | equationTag | horizontalTag | verticalTag
  | pipe | bracketOpen | bracketClose | parenOpen | parenClose | comma | atSign
  | dot | star | slash | plus | minus
deriving DecidableEq, Repr

/-- A token of constraint text. -/
inductive Token where
  /-- Punctuation or a format tag. -/
  | mark (mark : Mark)
  /-- A run of `=`, `<` and `>`, whether or not it names a relation. -/
  | relation (symbol : String)
  /-- A letter or underscore, then letters, digits and underscores. -/
  | ident (name : String)
  /-- Digits, with at most one point after the first. -/
  | number (literal : String)
deriving DecidableEq, Repr

namespace Mark

/-- The spelling of a mark. -/
def text : Mark → String
  | equationTag => "X:"
  | horizontalTag => "H:"
  | verticalTag => "V:"
  | pipe => "|"
  | bracketOpen => "["
  | bracketClose => "]"
  | parenOpen => "("
  | parenClose => ")"
  | comma => ","
  | atSign => "@"
  | dot => "."
  | star => "*"
  | slash => "/"
  | plus => "+"
  | minus => "-"

/-- The mark spelled by a single character. -/
def ofChar? : Char → Option Mark
  | '|' => some pipe
  | '[' => some bracketOpen
  | ']' => some bracketClose
  | '(' => some parenOpen
  | ')' => some parenClose
  | ',' => some comma
  | '@' => some atSign
  | '.' => some dot
  | '*' => some star
  | '/' => some slash
  | '+' => some plus
  | '-' => some minus
  | _ => none

/-- The format tag that begins with a letter. -/
def tagOf? : Char → Option Mark
  | 'X' => some equationTag
  | 'H' => some horizontalTag
  | 'V' => some verticalTag
  | _ => none

end Mark

namespace Token

/-- The text of a token. -/
def text : Token → String
  | mark m => m.text
  | relation symbol => symbol
  | ident name => name
  | number literal => literal

/-- How a message names a token. -/
def description : Token → String
  | mark m => "'" ++ m.text ++ "'"
  | relation symbol => "relation '" ++ symbol ++ "'"
  | ident name => "identifier '" ++ name ++ "'"
  | number literal => "number " ++ literal

end Token

end ViewLayout
