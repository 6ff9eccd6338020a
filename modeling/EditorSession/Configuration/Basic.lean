import EditorSession.Keyword

/-!
# Configuration of an integration

An integration is one backend and the documents it is for: which file extension activates it, how
its executable is launched, and which optional features it opts into. Two presets are known, and
every setting a document leaves out is that of the vulnerability preset.
-/

namespace EditorSession

/-- The argument profile of a launch. -/
inductive LaunchMode
  | run
  | debug
  deriving DecidableEq, Repr, Inhabited

instance : Vocabulary LaunchMode where
  all := [.run, .debug]
  name
    | .run => "run"
    | .debug => "debug"

/-- What the environment of a backend starts from. -/
inductive Environment
  | inheritConsole
  | empty
  deriving DecidableEq, Repr, Inhabited

instance : Vocabulary Environment where
  all := [.inheritConsole, .empty]
  name
    | .inheritConsole => "inherit_console"
    | .empty => "empty"

/-- The form of the program's own journal. -/
inductive LogFormat
  | json
  | compact
  deriving DecidableEq, Repr, Inhabited

instance : Vocabulary LogFormat where
  all := [.json, .compact]
  name
    | .json => "json"
    | .compact => "compact"

/-- How much a backend is asked to report. -/
inductive BackendLogLevel
  | trace
  | debug
  | info
  | warn
  | error
  deriving DecidableEq, Repr, Inhabited

instance : Vocabulary BackendLogLevel where
  all := [.trace, .debug, .info, .warn, .error]
  name
    | .trace => "trace"
    | .debug => "debug"
    | .info => "info"
    | .warn => "warn"
    | .error => "error"

/-- The argument that asks a backend for a log level. -/
def BackendLogLevel.argument (level : BackendLogLevel) : String :=
  "--log-level=" ++ Vocabulary.name level

/-- A feature that an integration may opt into. -/
inductive OptionalCapability
  | completion
  | goToDefinition
  deriving DecidableEq, Repr, Inhabited

instance : Vocabulary OptionalCapability where
  all := [.completion, .goToDefinition]
  name
    | .completion => "completion"
    | .goToDefinition => "go-to-definition"
  spellings
    | .completion => []
    | .goToDefinition => ["definition"]

/-- The optional features that are switched on. -/
structure Toggles where
  completion : Bool := false
  definition : Bool := false
  deriving DecidableEq, Repr, Inhabited

namespace Toggles

/-- Whether a feature is switched on. -/
def isEnabled (toggles : Toggles) : OptionalCapability → Bool
  | .completion => toggles.completion
  | .goToDefinition => toggles.definition

/-- The toggles with one more feature switched on. -/
def enable (toggles : Toggles) : OptionalCapability → Toggles
  | .completion => { toggles with completion := true }
  | .goToDefinition => { toggles with definition := true }

end Toggles

/-- Which documents are routed to a backend. -/
structure DocumentSelector where
  scheme : String := "file"
  pattern : String := "**/pom.xml"
  deriving DecidableEq, Repr, Inhabited

/-- How a backend is launched. -/
structure ServerSettings where
  executable : String := "vuln-lsp"
  arguments : List String := ["-s", "oss-index"]
  /-- The arguments of the debug mode, where they differ. -/
  debugArguments : Option (List String) := none
  logLevel : Option BackendLogLevel := none
  environment : Environment := .inheritConsole
  workingDirectory : Option String := none
  deriving DecidableEq, Repr, Inhabited

/-- The arguments of a launch in a mode; the log level comes last. -/
def ServerSettings.argumentsFor (server : ServerSettings) (mode : LaunchMode) : List String :=
  let base :=
    match mode with
    | .run => server.arguments
    | .debug => server.debugArguments.getD server.arguments
  base ++ (server.logLevel.map BackendLogLevel.argument).toList

/-- Everything that is configured of an integration. -/
structure Configuration where
  id : String := "vuln-lsp"
  displayName : String := "Vulnerability Language Server"
  /-- The extension, without its dot, of the documents that activate the integration. -/
  targetExtension : String := "xml"
  selector : DocumentSelector := {}
  server : ServerSettings := {}
  capabilities : Toggles := {}
  logFilter : String := "info"
  logFormat : LogFormat := .json
  deriving DecidableEq, Repr, Inhabited

namespace Configuration

/-- The integration that reports vulnerable dependencies. -/
def vulnerabilities : Configuration := {}

/-- The integration whose backend also completes. -/
def intelligence : Configuration where
  id := "iq-lsp"
  displayName := "IQ Language Server"
  server := { executable := "iq-lsp", arguments := [] }
  capabilities := { completion := true }

/-- The presets. -/
def presets : List Configuration := [vulnerabilities, intelligence]

end Configuration

end EditorSession
