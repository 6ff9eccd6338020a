import EditorSession.Backend.Sandbox
import EditorSession.Journal.Line
import EditorSession.Program

/-!
# The executable

Reads the configuration that the command line names, makes the call, and prints what it leaves
behind. Backends run in the sandbox.
-/

namespace EditorSession

/-- The failure that an error of the file system is. -/
def fileErrorOf : IO.Error → FileError
  | .noFileOrDirectory .. => .noEntry
  | .permissionDenied .. => .permissionDenied
  | .inappropriateType .. => .isDirectory
  | .resourceExhausted .. => .nameTooLong
  | _ => .noEntry

/-- Reads and validates the document in a file of the system. -/
def loadFile (path : String) : IO (Except ConfigurationError Configuration) := do
  match ← (IO.FS.readBinFile path).toBaseIO with
  | .error error => return .error (.unreadable path (fileErrorOf error))
  | .ok contents =>
    match Text.Utf8.decode contents.toList with
    | .ok text => return Configuration.ofDocument (some path) text
    | .error _ => return .error (.unreadable path .notText)

/-- The configurations that a call may ask for. -/
def loaderFor (arguments : List Octets) :
    IO (String → Except ConfigurationError Configuration) := do
  match CommandLine.read arguments with
  | .ok options =>
    match options.configuration with
    | some path =>
      let loaded ← loadFile path
      return fun _ => loaded
    | none => return fun path => .error (.unreadable path .noEntry)
  | .error _ => return fun path => .error (.unreadable path .noEntry)

/-- A line of the journal. -/
def journalLine (format : LogFormat) (entry : Journal.Entry) : String :=
  match format with
  | .json => entry.json
  | .compact => entry.compact

end EditorSession

open EditorSession in
/-- The entry point. -/
def main (arguments : List String) : IO UInt32 := do
  let arguments := arguments.map Text.Utf8.ofString
  let surroundings : Program.Surroundings Sandbox := {
    host := Sandbox.host
    world := Sandbox.ofTree FileTree.fresh []
    load := ← loaderFor arguments }
  let result := Program.run surroundings arguments
  let format := (result.listener.map Program.Listener.format).getD .json
  let output ← IO.getStdout
  let errors ← IO.getStderr
  output.putStr result.transcript.output
  for entry in result.journal do
    errors.putStrLn (journalLine format entry)
  errors.putStr result.transcript.errors
  return result.status.toUInt32
