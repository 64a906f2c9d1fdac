import ViewLayout.CommandLine.Reference
import ViewLayout.Document.Read
import ViewLayout.Document.Solve
import ViewLayout.Report

/-!
# The command line

The command solves one layout document, from a file or from standard input, and prints its frames
or its constraints. Arguments are taken from left to right, and the first one that asks for help or
cannot be taken ends the reading.
-/

namespace ViewLayout.CommandLine

/-- The options of the command. -/
inductive Flag where
  /-- Print constraints instead of frames. -/
  | constraints
  /-- Print the grammar reference. -/
  | grammar
  /-- Log more. -/
  | verbose
  /-- Print the help. -/
  | help
deriving DecidableEq, Repr

namespace Flag

/-- All options. -/
def all : List Flag := [constraints, grammar, verbose, help]

/-- The long name of an option. -/
def word : Flag → String
  | constraints => "constraints"
  | grammar => "grammar"
  | verbose => "verbose"
  | help => "help"

/-- The short name of an option. -/
def letter : Flag → Char
  | constraints => 'c'
  | grammar => 'g'
  | verbose => 'v'
  | help => 'h'

end Flag

/-- What a call asks for. -/
structure Request where
  /-- The file of the document; without one the document is standard input. -/
  input : Option String := none
  /-- Whether to print constraints instead of frames. -/
  constraints : Bool := false
  /-- Whether to print the grammar reference. -/
  grammar : Bool := false
  /-- How much more to log. -/
  verbosity : Nat := 0
deriving DecidableEq, Repr

/-- Why arguments are not a request for a document. -/
inductive Interruption where
  /-- Help is asked for. -/
  | help
  /-- An argument that means nothing. -/
  | unexpected (argument : String)
  /-- An option that is given again. -/
  | repeated (flag : Flag)
  /-- A file without a name. -/
  | namelessInput
deriving DecidableEq, Repr

namespace Request

/-- Takes up an option. Only more logging can be asked for repeatedly. -/
def raise (request : Request) : Flag → Except Interruption Request
  | .constraints =>
    if request.constraints then .error (.repeated .constraints)
    else .ok { request with constraints := true }
  | .grammar =>
    if request.grammar then .error (.repeated .grammar)
    else .ok { request with grammar := true }
  | .verbose => .ok { request with verbosity := request.verbosity + 1 }
  | .help => .error .help

/-- Takes up the file of the document. -/
def withInput (request : Request) (path : String) : Except Interruption Request :=
  if request.input.isSome then .error (.unexpected path)
  else if path.isEmpty then .error .namelessInput
  else .ok { request with input := some path }

/-- Takes up the short names of options. -/
def raiseLetters (request : Request) (letters : List Char) : Except Interruption Request :=
  letters.foldlM (fun request letter =>
    match Flag.all.find? (·.letter = letter) with
    | some flag => request.raise flag
    | none => .error (.unexpected (String.ofList ['-', letter]))) request

/-- Takes up an argument before any `--`. -/
def take (request : Request) (argument : String) : Except Interruption Request :=
  match argument.toList with
  | '-' :: '-' :: word =>
    match Flag.all.find? (·.word.toList = word) with
    | some flag => request.raise flag
    | none => .error (.unexpected argument)
  | '-' :: first :: rest => request.raiseLetters (first :: rest)
  | _ => request.withInput argument

/-- Takes up arguments. After `--` every argument is a file. -/
def takeAll (request : Request) : List String → Except Interruption Request
  | [] => .ok request
  | argument :: rest =>
    if argument = "--" then rest.foldlM withInput request
    else do
      let request ← request.take argument
      request.takeAll rest

/-- The request of a list of arguments. -/
def ofArguments (arguments : List String) : Except Interruption Request :=
  takeAll {} arguments

end Request

/-- What a call of the command leaves behind. -/
structure Outcome where
  /-- The exit code. -/
  code : UInt8 := 0
  /-- What is written to standard output. -/
  output : String := ""
  /-- What is written to standard error. -/
  errors : String := ""
deriving DecidableEq, Repr

/-- The refusal of a call. -/
def refusal (reason : String) : Outcome :=
  { code := 2
    errors := paragraph
      ["error: " ++ reason, "", usageLine, "", "For more information, try '--help'."] }

/-- The answer to arguments that are not a request. -/
def Interruption.outcome : Interruption → Outcome
  | .help => { output := helpText }
  | .unexpected argument => refusal ("unexpected argument '" ++ argument ++ "' found")
  | .repeated flag =>
    refusal ("the argument '--" ++ flag.word ++ "' cannot be used multiple times")
  | .namelessInput => refusal "a value is required for '[INPUT]' but none was supplied"

/-- The failure of a document, with a report if a constraint text is at fault. -/
def failure (name : String) : DocumentError → Outcome
  | .constraint error => { code := 1, errors := Report.render name error }
  | error => { code := 1, errors := "Error: " ++ error.message ++ "\n" }

/-- The answer to a document text of a given name. -/
def Request.solve (request : Request) (name text : String) : Outcome :=
  match Document.read text >>= Document.solveBy Host.simplex with
  | .ok solution =>
    let answer :=
      if request.constraints then solution.renderConstraints else solution.renderFrames
    { output := answer ++ "\n" }
  | .error error => failure name error

/-- The answer to the content of the file that is asked for, or of standard input. -/
def Request.answer (request : Request) (content : Except FileFault String) : Outcome :=
  match request.input, content with
  | some path, .ok text => request.solve path text
  | some path, .error fault =>
    { code := 1, errors := "Error reading file '" ++ path ++ "': " ++ fault.message ++ "\n" }
  | none, .ok text => request.solve "<stdin>" text
  | none, .error fault =>
    { code := 1, errors := "Error reading from stdin: " ++ fault.message ++ "\n" }

/-- What a call does: it is answered from its arguments alone, or it reads a document first. -/
inductive Plan where
  /-- The call has its answer. -/
  | done (outcome : Outcome)
  /-- The call goes on with the content of a file or of standard input. -/
  | read (request : Request)
deriving DecidableEq, Repr

/-- The plan of a list of arguments. -/
def plan (arguments : List String) : Plan :=
  match Request.ofArguments arguments with
  | .error interruption => .done interruption.outcome
  | .ok request =>
    if request.grammar then .done { output := grammarReference } else .read request

/-- The outcome of a call in a place with files and standard input. -/
def run (arguments : List String) (file : String → Except FileFault String) (input : String) :
    Outcome :=
  match plan arguments with
  | .done outcome => outcome
  | .read request =>
    request.answer (match request.input with
      | some path => file path
      | none => .ok input)

end ViewLayout.CommandLine
