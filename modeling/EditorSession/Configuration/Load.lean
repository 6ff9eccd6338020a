import EditorSession.Configuration.Document
import EditorSession.FileTree
import EditorSession.Text.Blank
import EditorSession.Toml.Document

/-!
# Loading and validating configurations

A configuration comes from a preset, from the text of a document or from a file. A document is
validated only after all of it was read: the settings without which the integration could never run
or never activate are looked at in a fixed order, and the first one that is unusable is reported.
-/

namespace EditorSession

/-- A setting that validation looks at. -/
inductive Setting
  | id
  | executable
  | targetExtension
  | pattern
  deriving DecidableEq, Repr

/-- The place of a setting in a document. -/
def Setting.name : Setting → String
  | id => "id"
  | executable => "server.executable"
  | targetExtension => "target_extension"
  | pattern => "document_selector.pattern"

/-- What makes a setting unusable. -/
inductive Unusable
  | empty
  /-- An extension that has a point in it matches no document. -/
  | dotted
  deriving DecidableEq, Repr

/-- The wording of what is wrong with a setting. -/
def Unusable.reason : Unusable → String
  | empty => "must not be empty"
  | dotted => "must be a bare extension without '.'"

/-- Why there is no configuration. -/
inductive ConfigurationError
  | unreadable (path : String) (cause : FileError)
  /-- The text is no document; `path` is the file it came from, if any. -/
  | malformed (path : Option String)
  /-- The document does not fit the schema. -/
  | mismatched (path : Option String) (mismatch : Schema.Mismatch)
  | invalid (setting : Setting) (reason : Unusable)
  | unknownPreset (name : String)

namespace ConfigurationError

/-- The start of the wording where a document could not be read. -/
def parseFailure (path : Option String) : String :=
  match path with
  | some path => "failed to parse configuration '" ++ path ++ "'"
  | none => "failed to parse configuration"

/-- The wording of an error. -/
def message : ConfigurationError → String
  | unreadable path cause =>
    "failed to read configuration '" ++ path ++ "': " ++ cause.message
  | malformed path => parseFailure path
  | mismatched path mismatch => parseFailure path ++ ": " ++ mismatch.message .toml
  | invalid setting reason =>
    "invalid configuration value for '" ++ setting.name ++ "': " ++ reason.reason
  | unknownPreset name => "unknown integration preset '" ++ name ++ "'"

end ConfigurationError

namespace Configuration

/-- The first unusable setting of a configuration. -/
def flaw? (configuration : Configuration) : Option (Setting × Unusable) :=
  if Text.isBlankText configuration.id then some (.id, .empty)
  else if Text.isBlankText configuration.server.executable then some (.executable, .empty)
  else if configuration.targetExtension.isEmpty then some (.targetExtension, .empty)
  else if configuration.targetExtension.toList.contains '.' then some (.targetExtension, .dotted)
  else if Text.isBlankText configuration.selector.pattern then some (.pattern, .empty)
  else none

/-- Refuses a configuration with an unusable setting. -/
def validate (configuration : Configuration) : Except ConfigurationError Unit :=
  match configuration.flaw? with
  | some (setting, reason) => .error (.invalid setting reason)
  | none => .ok ()

/-- The preset of a name; blanks around the name do not matter. -/
def preset (name : String) : Except ConfigurationError Configuration :=
  let name := Text.trim name
  match presets.find? fun configuration => configuration.id == name with
  | some configuration => .ok configuration
  | none => .error (.unknownPreset name)

/-- Reads and validates a document; `path` is the file it came from, if any. -/
def ofDocument (path : Option String) (text : List Char) :
    Except ConfigurationError Configuration :=
  match Toml.read text with
  | none => .error (.malformed path)
  | some datum =>
    match decode .toml datum with
    | .error mismatch => .error (.mismatched path mismatch)
    | .ok configuration => configuration.validate.map fun _ => configuration

/-- Reads and validates the document in a file. -/
def load (tree : FileTree) (path : String) : Except ConfigurationError Configuration :=
  match tree.readText path with
  | .error cause => .error (.unreadable path cause)
  | .ok text => ofDocument (some path) text

end Configuration

end EditorSession
