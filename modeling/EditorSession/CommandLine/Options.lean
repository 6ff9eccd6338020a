import EditorSession.Configuration.Basic
import EditorSession.Text.ControlSequence

/-!
# Options of the command line

What a call of the program asks for: documents to open, and settings that have a default each. The
texts by which messages name an option are fixed here, and so is the page of help.
-/

namespace EditorSession.CommandLine

/-- An option that takes a value. -/
inductive Setting
  | configuration
  | integration
  | mode
  | scope
  | logFilter
  | logFormat
  | enable
  deriving DecidableEq, Repr, Inhabited

namespace Setting

/-- All settings. -/
def all : List Setting :=
  [configuration, integration, mode, scope, logFilter, logFormat, enable]

/-- The name of a setting on the command line, without its dashes. -/
def name : Setting → String
  | configuration => "config"
  | integration => "integration"
  | mode => "mode"
  | scope => "scope"
  | logFilter => "log-filter"
  | logFormat => "log-format"
  | enable => "enable"

/-- What messages call the value of a setting. -/
def valueName : Setting → String
  | configuration => "PATH"
  | integration => "NAME"
  | mode => "MODE"
  | scope => "ID"
  | logFilter => "FILTER"
  | logFormat => "FORMAT"
  | enable => "CAPABILITY"

/-- How messages show a setting. -/
def shown (setting : Setting) : String :=
  "--" ++ setting.name ++ " <" ++ setting.valueName ++ ">"

/-- Whether a setting may be given again. -/
def isRepeatable : Setting → Bool
  | enable => true
  | _ => false

end Setting

/-- An option without a value. -/
inductive Flag
  | dryRun
  | help
  | version
  deriving DecidableEq, Repr, Inhabited

namespace Flag

/-- All flags. -/
def all : List Flag := [dryRun, help, version]

/-- The name of a flag on the command line, without its dashes. -/
def name : Flag → String
  | dryRun => "dry-run"
  | help => "help"
  | version => "version"

/-- How messages show a flag. -/
def shown (flag : Flag) : String := "--" ++ flag.name

/-- The letter of a flag, if it has one. -/
def letter? : Flag → Option Char
  | dryRun => none
  | help => some 'h'
  | version => some 'V'

end Flag

/-- What a call asks for. -/
structure Options where
  /-- The path of a configuration, in place of a preset. -/
  configuration : Option String := none
  /-- The name of a preset. -/
  integration : String := "vuln-lsp"
  mode : LaunchMode := .run
  scope : String := "default"
  logFilter : Option String := none
  logFormat : Option LogFormat := none
  /-- Capabilities to opt into. -/
  enabled : List OptionalCapability := []
  isDryRun : Bool := false
  documents : List String := []
  deriving DecidableEq, Repr, Inhabited

/-- What is wrong with a call. -/
inductive UsageError
  | unknownArgument (shown : String)
  | invalidValue (value : String) (setting : Setting)
  | missingValue (setting : Setting)
  | unexpectedValue (value : String) (flag : Flag)
  | repeated (shown : String)
  /-- Two settings that exclude each other, the one given first in front. -/
  | conflict (first second : Setting)
  | notText
  | missingDocuments
  deriving DecidableEq, Repr, Inhabited

/-- The wording of what is wrong with a call. Of what the call gave, it has what is seen. -/
def UsageError.message : UsageError → String
  | unknownArgument shown => "unexpected argument '" ++ Text.visible shown ++ "' found"
  | invalidValue value setting =>
    "invalid value '" ++ Text.visible value ++ "' for '" ++ setting.shown ++ "': " ++
      Vocabulary.unmatched
  | missingValue setting =>
    "a value is required for '" ++ setting.shown ++ "' but none was supplied"
  | unexpectedValue value flag =>
    "unexpected value '" ++ Text.visible value ++ "' for '" ++ flag.shown ++
      "' found; no more were expected"
  | repeated shown => "the argument '" ++ shown ++ "' cannot be used multiple times"
  | conflict first second =>
    "the argument '" ++ first.shown ++ "' cannot be used with '" ++ second.shown ++ "'"
  | notText => "invalid UTF-8 was detected in one or more arguments"
  | missingDocuments => "the following required arguments were not provided:"

/-- The name of the program. -/
def programName : String := "vuln-lsp-bootstrap"

/-- The answer to a question for the version. -/
def versionText : String := programName ++ " 0.1.0\n"

/-- The page of help. -/
def helpText : String :=
  "Replays document-open events through an editor integration\n" ++
  "\n" ++
  "Usage: vuln-lsp-bootstrap [OPTIONS] <DOC>...\n" ++
  "\n" ++
  "Arguments:\n" ++
  "  <DOC>...  Documents to open, in order\n" ++
  "\n" ++
  "Options:\n" ++
  "      --config <PATH>        Loads the integration from a TOML file instead of a preset\n" ++
  "      --integration <NAME>   Preset integration to use [default: vuln-lsp]\n" ++
  "      --mode <MODE>          Argument profile for the backend [default: run]\n" ++
  "      --scope <ID>           Project scope the documents belong to [default: default]\n" ++
  "      --log-filter <FILTER>  Overrides the log filter\n" ++
  "      --log-format <FORMAT>  Overrides the log format\n" ++
  "      --enable <CAPABILITY>  Opts into an optional capability; may be repeated\n" ++
  "      --dry-run              Records starts instead of spawning the backend\n" ++
  "  -h, --help                 Print help\n" ++
  "  -V, --version              Print version\n"

end EditorSession.CommandLine
