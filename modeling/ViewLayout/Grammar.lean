import ViewLayout.Token.Scan

/-!
# Reading tokens

Both constraint formats are read from left to right, one token at a time: the next token decides
what comes. A reader takes the tokens that are left and gives what it read with the tokens after it,
or the place where the text stops being a constraint. Trying one alternative after another, and
taking a choice back that does not work out, would give the same (`Chain.run_chain`,
`Equation.run_equation`).

`Grammar.read` runs a reader on a text and names that place: a character without a token, a token
that does not belong, or the end of the text.
-/

namespace ViewLayout

open ViewLayout.Text

/-- Why a text is not a constraint. -/
inductive SyntaxFault where
  /-- A character with which no token can start. -/
  | unexpectedCharacter (c : Char)
  /-- A token that cannot come next. -/
  | unexpectedToken (token : Token)
  /-- The text ends where something has to follow. -/
  | unexpectedEnd
  /-- A dot that is set apart from its key or its attribute. -/
  | spacedDot
  /-- An identifier that is too long, with the number of the captured group it is in. -/
  | longIdentifier (group : Nat)
  /-- A wrong number of captured groups. -/
  | groupCount (matched : Nat)
  /-- A group that has to be captured and is not. -/
  | missingGroup (index : Nat)
  /-- A second item divided by zero. -/
  | divisionByZero
deriving DecidableEq, Repr

namespace Grammar

/-- The greatest length of an identifier in an equation, in bytes. -/
def identifierLimit : Nat := 31

/-- How many groups are captured from an equation: the whole text and nine parts. -/
def groupCount : Nat := 10

end Grammar

/-- The wording of a syntax fault. -/
def SyntaxFault.message : SyntaxFault → String
  | unexpectedCharacter c => "unexpected character `" ++ String.singleton c ++ "`"
  | unexpectedToken token => "unexpected " ++ token.description
  | unexpectedEnd => "unexpected end of input"
  | spacedDot => "no spaces allowed around '.'"
  | longIdentifier group =>
    "identifier in group " ++ toString group ++ " is longer than "
      ++ toString Grammar.identifierLimit ++ " characters"
  | groupCount matched =>
    "expected " ++ toString Grammar.groupCount ++ " groups, matched " ++ toString matched
  | missingGroup index => "group " ++ toString index ++ " did not match"
  | divisionByZero => "division by zero"

/-- A syntax fault and the place it is at. -/
structure SyntaxError where
  /-- What is wrong. -/
  fault : SyntaxFault
  /-- Where it is wrong. -/
  span : Span
deriving DecidableEq, Repr

namespace Grammar

/-- The tokens that are left to read. -/
abbrev Tokens := List (Spanned Token)

/-- Where a reader stops. -/
inductive Stop where
  /-- At a token that cannot come next. -/
  | unexpected (token : Spanned Token)
  /-- At the end of the tokens. -/
  | ended
  /-- At a dot that is set apart, with the place of the whole operand. -/
  | spacedDot (span : Span)
deriving DecidableEq, Repr

/-- A reader of `α`. -/
abbrev Reader (α : Type) := Tokens → Except Stop (α × Tokens)

/-- The stop of a reader for which the next token is the wrong one. -/
def stopAt : Tokens → Stop
  | [] => .ended
  | token :: _ => .unexpected token

/-- Takes one given mark. -/
def takeMark (mark : Mark) : Reader Span
  | ⟨.mark found, span⟩ :: rest =>
    if found = mark then .ok (span, rest) else .error (.unexpected ⟨.mark found, span⟩)
  | tokens => .error (stopAt tokens)

/-- Takes an identifier. -/
def takeIdent : Reader (Spanned String)
  | ⟨.ident name, span⟩ :: rest => .ok (⟨name, span⟩, rest)
  | tokens => .error (stopAt tokens)

/-- Takes a run of relation characters. -/
def takeRelation : Reader (Spanned String)
  | ⟨.relation symbol, span⟩ :: rest => .ok (⟨symbol, span⟩, rest)
  | tokens => .error (stopAt tokens)

/-- Takes a metric name or a number without a sign. -/
def takeValue : Reader (Spanned String)
  | ⟨.ident name, span⟩ :: rest => .ok (⟨name, span⟩, rest)
  | ⟨.number literal, span⟩ :: rest => .ok (⟨literal, span⟩, rest)
  | tokens => .error (stopAt tokens)

/-- Takes the end of the tokens. -/
def takeEnd : Tokens → Except Stop Unit
  | [] => .ok ()
  | token :: _ => .error (.unexpected token)

/-- The place after the last token of a text: from the end of the text back to the end of its last
token, which are the same unless the text ends in spaces. -/
def endSpan (text : String) (tokens : Tokens) : Span :=
  let length := text.utf8ByteSize
  ⟨length, (tokens.getLast?.map (·.span.stop)).getD length⟩

/-- The error of a reader that stopped. -/
def errorOf (text : String) (tokens : Tokens) : Stop → SyntaxError
  | .unexpected token => ⟨.unexpectedToken token.value, token.span⟩
  | .ended => ⟨.unexpectedEnd, endSpan text tokens⟩
  | .spacedDot span => ⟨.spacedDot, span⟩

/-- Runs a reader on all tokens of a text. -/
def read {α : Type} (text : String) (reader : Tokens → Except Stop α) : Except SyntaxError α :=
  match Token.scan text with
  | .error c => .error ⟨.unexpectedCharacter c.value, c.span⟩
  | .ok tokens =>
    match reader tokens with
    | .error stop => .error (errorOf text tokens stop)
    | .ok result => .ok result

end Grammar

end ViewLayout
