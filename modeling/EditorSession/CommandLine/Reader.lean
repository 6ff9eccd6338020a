import EditorSession.CommandLine.Options
import EditorSession.Text.Utf8

/-!
# Reading the command line

Arguments are read from left to right. What was given for a setting, or the documents in a row, is
looked at only when the next option is met or the arguments end, so an argument that is no option at
all is reported before a bad value in front of it. Help and version end the reading where they
stand.
-/

namespace EditorSession.CommandLine

/-- Why reading ends before the arguments do. -/
inductive Stop
  | help
  | version
  | wrong (error : UsageError)
  deriving DecidableEq, Repr, Inhabited

/-- What was given and has not been looked at. -/
inductive Pending
  | setting (setting : Setting) (value : Option Octets)
  | documents (paths : List Octets)
  deriving DecidableEq, Repr

/-- How far the reading has come. -/
structure Reading where
  options : Options := {}
  /-- The settings that were given, in order. -/
  given : List Setting := []
  pending : Option Pending := none
  /-- Whether all that follows are documents. -/
  onlyDocuments : Bool := false

namespace Reading

/-- The text of an argument. -/
def textOf (argument : Octets) : Except Stop String :=
  match Text.Utf8.toString? argument with
  | some text => .ok text
  | none => .error (.wrong .notText)

/-- The value that a text spells for a setting. -/
def valueOf (α : Type) [Vocabulary α] (setting : Setting) (text : String) : Except Stop α :=
  match Vocabulary.parse? α text with
  | some value => .ok value
  | none => .error (.wrong (.invalidValue text setting))

/-- Options with the value of a setting. -/
def withValue (options : Options) (setting : Setting) (text : String) : Except Stop Options := do
  match setting with
  | .configuration => return { options with configuration := some text }
  | .integration => return { options with integration := text }
  | .mode => return { options with mode := ← valueOf LaunchMode setting text }
  | .scope => return { options with scope := text }
  | .logFilter => return { options with logFilter := some text }
  | .logFormat => return { options with logFormat := some (← valueOf LogFormat setting text) }
  | .enable =>
    let capability ← valueOf OptionalCapability setting text
    return { options with enabled := options.enabled ++ [capability] }

/-- Takes a setting with its value. -/
def takeSetting (reading : Reading) (setting : Setting) (value : Option Octets) :
    Except Stop Reading := do
  match value with
  | none => throw (.wrong (.missingValue setting))
  | some value =>
    if setting ∈ reading.given ∧ ¬setting.isRepeatable then
      throw (.wrong (.repeated setting.shown))
    else
      let options ← withValue reading.options setting (← textOf value)
      return { reading with options, given := reading.given ++ [setting] }

/-- Takes documents. -/
def takeDocuments (reading : Reading) (paths : List Octets) : Except Stop Reading := do
  let paths ← paths.mapM textOf
  return { reading with options.documents := reading.options.documents ++ paths }

/-- Looks at what is pending. -/
def resolve (reading : Reading) : Except Stop Reading :=
  match reading.pending with
  | none => .ok reading
  | some (.setting setting value) =>
    { reading with pending := none }.takeSetting setting value
  | some (.documents paths) => { reading with pending := none }.takeDocuments paths

/-- Takes a flag. -/
def takeFlag (reading : Reading) (flag : Flag) : Except Stop Reading := do
  let reading ← reading.resolve
  match flag with
  | .help => throw .help
  | .version => throw .version
  | .dryRun =>
    if reading.options.isDryRun then throw (.wrong (.repeated flag.shown))
    else return { reading with options.isDryRun := true }

/-- Takes a document. -/
def takeDocument (reading : Reading) (path : Octets) : Except Stop Reading :=
  match reading.pending with
  | some (.documents paths) =>
    .ok { reading with pending := some (.documents (paths ++ [path])) }
  | _ => do return { ← reading.resolve with pending := some (.documents [path]) }

/-- Takes a value or a document. -/
def takePlain (reading : Reading) (argument : Octets) : Except Stop Reading :=
  match reading.pending, reading.onlyDocuments with
  | some (.setting setting none), false =>
    .ok { reading with pending := some (.setting setting (some argument)) }
  | _, _ => reading.takeDocument argument

/-! ### Options -/

/-- The octet of the dash. -/
def dash : UInt8 := 0x2D

/-- The octet of the equals sign. -/
def equals : UInt8 := 0x3D

/-- Takes an option by its name, with the value behind an equals sign if there is one. -/
def takeNamed (reading : Reading) (name : Octets) (value : Option Octets) :
    Except Stop Reading := do
  let shown := Text.Utf8.display name
  match Setting.all.find? fun setting => Text.Utf8.ofString setting.name == name with
  | some setting =>
    let reading ← reading.resolve
    match value with
    | some _ => reading.takeSetting setting value
    | none => return { reading with pending := some (.setting setting none) }
  | none =>
    match Flag.all.find? fun flag => Text.Utf8.ofString flag.name == name, value with
    | some flag, none => reading.takeFlag flag
    | some flag, some value =>
      throw (.wrong (.unexpectedValue (Text.Utf8.display value) flag))
    | none, _ => throw (.wrong (.unknownArgument ("--" ++ shown)))

/-- Takes flags by their letters. -/
def takeLetters (reading : Reading) : List Char → Except Stop Reading
  | [] => .ok reading
  | letter :: rest =>
    match Flag.all.find? fun flag => flag.letter? == some letter with
    | some flag => do (← reading.takeFlag flag).takeLetters rest
    | none => .error (.wrong (.unknownArgument ("-" ++ String.ofList [letter])))

/-- Takes an argument that stands behind one dash. -/
def takeCluster (reading : Reading) (letters : Octets) : Except Stop Reading :=
  match Text.Utf8.decode letters with
  | .ok text => reading.takeLetters text
  | .error malformed =>
    let start := letters.take malformed.validUpTo
    match Text.Utf8.decode start with
    | .ok [] | .error _ =>
      .error (.wrong (.unknownArgument ("-" ++ Text.Utf8.display letters)))
    | .ok text => do
      let _ ← reading.takeLetters text
      .error (.wrong (.unknownArgument
        ("-" ++ Text.Utf8.display (letters.drop malformed.validUpTo))))

/-- Takes an argument. -/
def step (reading : Reading) (argument : Octets) : Except Stop Reading :=
  if reading.onlyDocuments then reading.takePlain argument
  else
    match argument with
    | [first, second] =>
      if first = dash ∧ second = dash then .ok { reading with onlyDocuments := true }
      else if first = dash then reading.takeCluster [second]
      else reading.takePlain argument
    | first :: second :: rest =>
      if first = dash ∧ second = dash then
        let name := rest.takeWhile (· ≠ equals)
        let value := (rest.drop name.length).tail?
        reading.takeNamed name value
      else if first = dash then reading.takeCluster (second :: rest)
      else reading.takePlain argument
    | _ => reading.takePlain argument

/-- Takes arguments in turn. -/
def stepEach (reading : Reading) : List Octets → Except Stop Reading
  | [] => .ok reading
  | argument :: rest => do (← reading.step argument).stepEach rest

/-- The settings that choose the configuration, in the order in which they were given. -/
def sources (reading : Reading) : List Setting :=
  reading.given.filter fun setting => setting = .configuration ∨ setting = .integration

/-- The options after all arguments. -/
def finish (reading : Reading) : Except Stop Options := do
  let reading ← reading.resolve
  match reading.sources with
  | first :: second :: _ => throw (.wrong (.conflict first second))
  | _ =>
    if reading.options.documents.isEmpty then throw (.wrong .missingDocuments)
    else return reading.options

end Reading

/-- Reads the arguments of a call. -/
def read (arguments : List Octets) : Except Stop Options := do
  (← Reading.stepEach {} arguments).finish

end EditorSession.CommandLine
