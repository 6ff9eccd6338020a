import EditorSession.Configuration.Basic
import EditorSession.Schema

/-!
# Configurations as documents

The fields of a configuration with the names they have in a document, read from data and written as
data. Reading lays a document over the vulnerability preset.
-/

namespace EditorSession

open Schema (Decoder Shape Member Result Dialect)

namespace DocumentSelector

/-- The fields of a selector. -/
def shape : Shape DocumentSelector where
  name := "DocumentSelectorConfig"
  fields := [
    .of "scheme" Schema.text fun scheme selector => { selector with scheme },
    .of "pattern" Schema.text fun pattern selector => { selector with pattern }]

/-- Reads a selector over the preset one. -/
def decode : Decoder DocumentSelector := fun dialect datum => shape.overlay dialect datum {}

/-- A selector as data. -/
def datum (selector : DocumentSelector) : Datum :=
  .record [("scheme", .text selector.scheme), ("pattern", .text selector.pattern)]

end DocumentSelector

namespace ServerSettings

/-- The fields of the server settings. -/
def shape : Shape ServerSettings where
  name := "ServerConfig"
  fields := [
    .of "executable" Schema.text fun executable server => { server with executable },
    .of "args" (Schema.listOf Schema.text) fun arguments server => { server with arguments },
    .of "debug_args" (Schema.optional (Schema.listOf Schema.text))
      fun debugArguments server => { server with debugArguments },
    .of "log_level" (Schema.optional (Schema.keyword BackendLogLevel))
      fun logLevel server => { server with logLevel },
    .of "environment" (Schema.keyword Environment)
      fun environment server => { server with environment },
    .of "working_dir" (Schema.optional Schema.path)
      fun workingDirectory server => { server with workingDirectory }]

/-- Reads server settings over the preset ones. -/
def decode : Decoder ServerSettings := fun dialect datum => shape.overlay dialect datum {}

/-- Server settings as data. -/
def datum (server : ServerSettings) : Datum :=
  .record [
    ("executable", .text server.executable),
    ("args", .ofTexts server.arguments),
    ("debug_args", (server.debugArguments.map Datum.ofTexts).getD .null),
    ("log_level", .ofOption (server.logLevel.map Vocabulary.name)),
    ("environment", .text (Vocabulary.name server.environment)),
    ("working_dir", .ofOption server.workingDirectory)]

end ServerSettings

namespace Toggles

/-- The fields of the toggles. -/
def shape : Shape Toggles where
  name := "CapabilityToggles"
  fields := [
    .of "completion" Schema.flag fun completion toggles => { toggles with completion },
    .of "goto_definition" Schema.flag fun definition toggles => { toggles with definition }]

/-- Reads toggles, off where nothing is said. -/
def decode : Decoder Toggles := fun dialect datum => shape.overlay dialect datum {}

/-- Toggles as data. -/
def datum (toggles : Toggles) : Datum :=
  .record [("completion", .flag toggles.completion), ("goto_definition", .flag toggles.definition)]

end Toggles

namespace Configuration

/-- The fields of a configuration. -/
def shape : Shape Configuration where
  name := "IntegrationConfig"
  fields := [
    .of "id" Schema.text fun id configuration => { configuration with id },
    .of "display_name" Schema.text
      fun displayName configuration => { configuration with displayName },
    .of "target_extension" Schema.text
      fun targetExtension configuration => { configuration with targetExtension },
    .of "document_selector" DocumentSelector.decode
      fun selector configuration => { configuration with selector },
    .of "server" ServerSettings.decode fun server configuration => { configuration with server },
    .of "capabilities" Toggles.decode
      fun capabilities configuration => { configuration with capabilities },
    .of "log_filter" Schema.text fun logFilter configuration => { configuration with logFilter },
    .of "log_format" (Schema.keyword LogFormat)
      fun logFormat configuration => { configuration with logFormat }]

/-- Reads a configuration over the vulnerability preset. -/
def decode : Decoder Configuration :=
  fun dialect datum => shape.overlay dialect datum vulnerabilities

/-- A configuration as data. -/
def datum (configuration : Configuration) : Datum :=
  .record [
    ("id", .text configuration.id),
    ("display_name", .text configuration.displayName),
    ("target_extension", .text configuration.targetExtension),
    ("document_selector", configuration.selector.datum),
    ("server", configuration.server.datum),
    ("capabilities", configuration.capabilities.datum),
    ("log_filter", .text configuration.logFilter),
    ("log_format", .text (Vocabulary.name configuration.logFormat))]

end Configuration

end EditorSession
