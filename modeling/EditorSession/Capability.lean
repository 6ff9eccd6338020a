import EditorSession.Capability.Advertised
import EditorSession.Configuration.Document

/-!
# Capabilities

What an integration may do for the editor is fixed before a session starts: diagnostics always, and
each optional feature exactly if the integration opted into it. The declaration is shown to the
backend when the session is opened, compared with what the backend advertises, and consulted before
a request is made.
-/

namespace EditorSession

namespace Capability

/-- A feature of the editor. -/
inductive Kind
  | diagnostics
  | completion
  | goToDefinition
  deriving DecidableEq, Repr, Inhabited

namespace Kind

/-- All features, in order. -/
def all : List Kind := [diagnostics, completion, goToDefinition]

/-- The key that the editor looks a feature up by. -/
def key : Kind → String
  | diagnostics => "diagnostics-support"
  | completion => "completion-support"
  | goToDefinition => "go-to-definition-support"

/-- The name of a feature in journal fields. -/
def label : Kind → String
  | diagnostics => "Diagnostics"
  | completion => "Completion"
  | goToDefinition => "GoToDefinition"

/-- The feature of a key. -/
def ofKey? (key : String) : Option Kind :=
  all.find? fun kind => kind.key == key

/-- The toggle that a feature hangs on, if any. -/
def toggle? : Kind → Option OptionalCapability
  | diagnostics => none
  | completion => some .completion
  | goToDefinition => some .goToDefinition

end Kind

/-- Why a feature is or is not available. -/
inductive Source
  | alwaysOn
  | enabledByIntegration
  | disabledByIntegration
  deriving DecidableEq, Repr, Inhabited

/-- The wording of a reason. -/
def Source.label : Source → String
  | alwaysOn => "always on"
  | enabledByIntegration => "enabled by integration"
  | disabledByIntegration => "disabled by integration"

/-- Whether a feature may be used, and why. -/
structure State where
  kind : Kind
  enabled : Bool
  source : Source
  deriving DecidableEq, Repr, Inhabited

/-- A state as it is reported. -/
def State.datum (state : State) : Datum :=
  .record [("key", .text state.kind.key), ("enabled", .flag state.enabled),
    ("source", .text state.source.label)]

/-- A feature that was asked for and is not declared. -/
structure Disabled where
  integration : String
  kind : Kind
  reason : Source
  deriving DecidableEq, Repr

/-- The wording of a refusal. -/
def Disabled.message (disabled : Disabled) : String :=
  "capability " ++ disabled.kind.key ++ " of " ++ disabled.integration ++ " is unavailable: "
    ++ disabled.reason.label

/-- The capabilities of all sessions of one integration. -/
structure Declaration where
  integration : String
  toggles : Toggles
  deriving DecidableEq, Repr, Inhabited

namespace Declaration

variable (declaration : Declaration)

/-- The state of a feature. -/
def state (kind : Kind) : State :=
  match kind.toggle? with
  | none => ⟨kind, true, .alwaysOn⟩
  | some toggle =>
    if declaration.toggles.isEnabled toggle then ⟨kind, true, .enabledByIntegration⟩
    else ⟨kind, false, .disabledByIntegration⟩

/-- Whether a feature may be used. -/
def isEnabled (kind : Kind) : Bool := (declaration.state kind).enabled

/-- The states of all features. -/
def states : List State := Kind.all.map declaration.state

/-- Refuses a feature that is not declared. -/
def require (kind : Kind) : Except Disabled Unit :=
  let state := declaration.state kind
  if state.enabled then .ok () else .error ⟨declaration.integration, kind, state.source⟩

/-- What the client tells a backend that it supports. -/
def client : Datum :=
  let supported (name : String) (kind : Kind) : Members :=
    if declaration.isEnabled kind then [(name, .record [])] else []
  .record [("textDocument", .record (supported "completion" .completion
    ++ supported "definition" .goToDefinition ++ supported "publishDiagnostics" .diagnostics))]

/-- The declared features that a backend does not advertise. Diagnostics come unasked and need no
advertisement. -/
def unsupportedBy (advertised : Advertised) : List Kind :=
  Kind.all.filter fun kind =>
    declaration.isEnabled kind && match kind with
      | .diagnostics => false
      | .completion => !advertised.completion
      | .goToDefinition => !advertised.definition

end Declaration

end Capability

end EditorSession
