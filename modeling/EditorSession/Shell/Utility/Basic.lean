import EditorSession.Shell.Lookup

/-!
# Programs

What a program of the system is: a plan made from the way it is called. The plan says what the
program leaves behind, or what it has to read before that is known.
-/

namespace EditorSession.Shell

/-- What a program leaves behind. -/
structure Outcome where
  output : String := ""
  errors : String := ""
  status : Nat := 0
  /-- How much of the end of its input it did not use. -/
  unread : Nat := 0

/-- How a program is called. -/
structure Call where
  name : String
  arguments : List String
  tree : FileTree
  directory : List String

/-- What a program read from one of its sources. -/
structure Input where
  name : String
  contents : Except FileError String
  /-- Whether it is a file, whose size is known. -/
  isFile : Bool := false

/-- What a program is about to do. -/
inductive Plan
  | finish (outcome : Outcome)
  /-- Reads sources, its own input for a dash, up to so many octets, until what it read and whether
  that is all tell what comes of it. -/
  | digest (sources : List String) (limit : Option Nat)
      (outcome? : List Input → Bool → Option Outcome)
  /-- Copies sources to its output as they come. -/
  | copy (sources : List String)
  /-- Waits for so many milliseconds, or forever. -/
  | rest (duration : Option Nat)

/-- A program. -/
abbrev Utility := Call → Plan

/-! ### Messages -/

/-- The wording of a failure in a message of a program. -/
def fileCause (failure : FileError) : String :=
  match failure with
  | .noEntry => "No such file or directory"
  | .permissionDenied => "Permission denied"
  | .notDirectory => "Not a directory"
  | .isDirectory => "Is a directory"
  | .nameTooLong => "File name too long"
  | .nulInName | .notText => "Invalid argument"

/-- A line of a program's messages. -/
def complaint (program cause : String) : String := program ++ ": " ++ cause ++ "\n"

/-- A file's name as messages quote it. -/
def inQuotes (name : String) : String := "'" ++ name ++ "'"

namespace Call

/-- A plan that ends with a complaint. -/
def refuse (call : Call) (cause : String) (status : Nat) : Plan :=
  .finish { errors := complaint call.name cause, status }

/-- What a program says when it is called in a wrong way. -/
def misuse (call : Call) (cause : String) (status : Nat) : Plan :=
  .finish {
    errors := complaint call.name cause ++
      "Try '" ++ call.name ++ " --help' for more information.\n"
    status }

end Call

/-! ### Options -/

/-- The options that a program knows. -/
structure OptionTable where
  plain : List Char := []
  /-- The letters that take a value. -/
  valued : List Char := []
  /-- Whether options may follow operands. -/
  mixes : Bool := true

/-- Options and operands, in order. -/
structure Options where
  given : List (Char × String) := []
  operands : List String := []

namespace Options

/-- Whether a letter was given. -/
def has (options : Options) (letter : Char) : Bool := options.given.any (·.1 = letter)

/-- The last value that a letter was given. -/
def value? (options : Options) (letter : Char) : Option String :=
  options.given.reverse.lookup letter

/-- All values that a letter was given. -/
def values (options : Options) (letter : Char) : List String :=
  (options.given.filter (·.1 = letter)).map Prod.snd

/-- Options of letters behind one dash. -/
def readLetters (table : OptionTable) (options : Options) (rest : List String) :
    List Char → Except String (Options × List String)
  | [] => .ok (options, rest)
  | letter :: letters =>
    if letter ∈ table.plain then
      readLetters table { options with given := options.given ++ [(letter, "")] } rest letters
    else if letter ∈ table.valued then
      match letters, rest with
      | [], value :: rest =>
        .ok ({ options with given := options.given ++ [(letter, value)] }, rest)
      | [], [] =>
        .error ("option requires an argument -- '" ++ String.ofList [letter] ++ "'")
      | letters, rest =>
        .ok ({ options with given := options.given ++ [(letter, String.ofList letters)] }, rest)
    else .error ("invalid option -- '" ++ String.ofList [letter] ++ "'")

/-- The options of arguments, so many at most, after those that were read. -/
def readFrom (budget : Nat) (table : OptionTable) (options : Options) :
    List String → Except String Options
  | [] => .ok options
  | argument :: rest =>
    match budget with
    | 0 => .ok options
    | budget + 1 =>
      match argument.toList with
      | ['-', '-'] => .ok { options with operands := options.operands ++ rest }
      | '-' :: '-' :: _ => .error ("unrecognized option '" ++ argument ++ "'")
      | '-' :: letter :: letters => do
        let (options, rest) ← readLetters table options rest (letter :: letters)
        readFrom budget table options rest
      | _ =>
        let options := { options with operands := options.operands ++ [argument] }
        if table.mixes then readFrom budget table options rest
        else .ok { options with operands := options.operands ++ rest }

/-- The options of arguments. -/
def read (table : OptionTable) (arguments : List String) : Except String Options :=
  readFrom (arguments.length + 1) table {} arguments

end Options

/-- A program whose options are in a table; a wrong option ends it with a status. -/
def withOptions (table : OptionTable) (status : Nat) (plan : Call → Options → Plan) : Utility :=
  fun call =>
    match Options.read table call.arguments with
    | .ok options => plan call options
    | .error cause => call.misuse cause status

/-! ### Inputs -/

/-- The lines of a text, without their ends, and whether the last one has an end. -/
def linesOf (text : String) : List String × Bool :=
  let lines := text.splitOn "\n"
  if text.endsWith "\n" then (lines.dropLast, true)
  else if text.isEmpty then ([], true)
  else (lines, false)

/-- Lines, each with its end. -/
def withEnds (lines : List String) : String :=
  String.join (lines.map (· ++ "\n"))

/-- The sources of operands: the input of the program if there are none. -/
def sourcesOf (operands : List String) : List String :=
  if operands.isEmpty then ["-"] else operands

/-- What a program says of the inputs that it could not read. -/
def inputErrors (program : String) (inputs : List Input) : String :=
  String.join (inputs.map fun input =>
    match input.contents with
    | .ok _ => ""
    | .error failure => complaint program (input.name ++ ": " ++ fileCause failure))

/-- Whether all inputs were read. -/
def allRead (inputs : List Input) : Bool :=
  inputs.all fun input =>
    match input.contents with
    | .ok _ => true
    | .error _ => false

/-- The texts of inputs. -/
def textsOf (inputs : List Input) : List String :=
  inputs.filterMap fun input => input.contents.toOption

/-- A plan that reads all of some sources and writes what becomes of their texts. -/
def Call.transform (call : Call) (operands : List String) (output : List String → String) : Plan :=
  .digest (sourcesOf operands) none fun inputs isAll =>
    if isAll then
      some {
        output := output (textsOf inputs)
        errors := inputErrors call.name inputs
        status := if allRead inputs then 0 else 1 }
    else none

/-- The whole of the text of inputs. -/
def wholeText (inputs : List Input) : String := String.join (textsOf inputs)

/-- A plan that reads all of some sources as one text and writes what becomes of its lines. -/
def Call.transformLines (call : Call) (operands : List String)
    (output : List String → List String) : Plan :=
  call.transform operands fun texts => withEnds (output (linesOf (String.join texts)).1)

end EditorSession.Shell
