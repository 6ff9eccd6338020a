import EditorSession.Configuration.Document

/-!
# Launch specifications

Everything that is needed to start a backend: one specification is made from the configuration and
serves all sessions. The output of a backend is UTF-8 whatever the system's own encoding is.
-/

namespace EditorSession

/-- How a backend is started. -/
structure LaunchSpecification where
  /-- The identifier of the integration, by which the client introduces itself. -/
  integration : String
  executable : String
  arguments : List String
  environment : Environment
  selector : DocumentSelector
  workingDirectory : Option String
  deriving DecidableEq, Repr, Inhabited

namespace LaunchSpecification

/-- The label of the encoding of backend output. -/
def encodingLabel : String := "utf-8"

/-- The specification of a configuration in a mode. -/
def ofConfiguration (configuration : Configuration) (mode : LaunchMode) : LaunchSpecification where
  integration := configuration.id
  executable := configuration.server.executable
  arguments := configuration.server.argumentsFor mode
  environment := configuration.server.environment
  selector := configuration.selector
  workingDirectory := configuration.server.workingDirectory

/-- A specification as data. -/
def datum (specification : LaunchSpecification) : Datum :=
  .record [
    ("integration", .text specification.integration),
    ("executable", .text specification.executable),
    ("args", .ofTexts specification.arguments),
    ("environment", .text (Vocabulary.name specification.environment)),
    ("encoding", .text encodingLabel),
    ("document_selector", specification.selector.datum),
    ("working_dir", .ofOption specification.workingDirectory)]

end LaunchSpecification

end EditorSession
