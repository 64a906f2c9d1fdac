import ViewLayout.CommandLine

/-!
# The command

Reads what `CommandLine.plan` asks for and writes what it answers.
-/

namespace ViewLayout.CommandLine

/-- The fault of a failed reading. -/
def faultOfFailure : IO.Error → FileFault
  | .noFileOrDirectory .. => .notFound
  | .inappropriateType _ code _ => if code = 21 then .isADirectory else .notADirectory
  | error => .other error.toString

/-- The text of what is read. -/
def readText (reading : IO ByteArray) : IO (Except FileFault String) := do
  match ← reading.toBaseIO with
  | .error error => return .error (faultOfFailure error)
  | .ok bytes =>
    match String.fromUTF8? bytes with
    | some text => return .ok text
    | none => return .error .notText

/-- Reads the document of a request. -/
def readContent (request : Request) : IO (Except FileFault String) := do
  match request.input with
  | some path => readText (IO.FS.readBinFile path)
  | none => readText do (← IO.getStdin).readBinToEnd

/-- The outcome of a call. -/
def perform (arguments : List String) : IO Outcome := do
  match plan arguments with
  | .done outcome => return outcome
  | .read request =>
    if request.input.isNone && (← (← IO.getStdin).isTty) then
      return { output := introduction }
    else
      return request.answer (← readContent request)

end ViewLayout.CommandLine

/-- Runs the command. -/
def main (arguments : List String) : IO UInt32 := do
  let outcome ← ViewLayout.CommandLine.perform arguments
  (← IO.getStdout).putStr outcome.output
  (← IO.getStderr).putStr outcome.errors
  return outcome.code.toUInt32
