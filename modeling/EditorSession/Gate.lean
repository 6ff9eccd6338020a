import EditorSession.Journal
import EditorSession.Path

/-!
# The activation gate

The gate decides, for each document that is opened, whether the integration is concerned: its file
name must have exactly the extension that the gate was made for. The case of letters counts, and a
name that is not text has no extension.
-/

namespace EditorSession

/-- A document that the editor has open. -/
structure Document where
  path : Octets
  /-- The language that the editor sees in it. -/
  language : Option String := none
  deriving DecidableEq, Repr

/-- The extension of a document's file name. -/
def Document.extension? (document : Document) : Option String :=
  (Path.extension? document.path).bind Text.Utf8.toString?

/-- The gate of an integration. -/
structure Gate where
  targetExtension : String
  deriving DecidableEq, Repr

namespace Gate

/-- Whether a document activates the integration. -/
def admits (gate : Gate) (document : Document) : Bool :=
  document.extension? == some gate.targetExtension

/-- What the gate notes: that it looked at a document. -/
structure Event where
  path : Octets
  targetExtension : String
  matched : Bool
  deriving DecidableEq, Repr

/-- The event of looking at a document. -/
def observe (gate : Gate) (document : Document) : Event :=
  ⟨document.path, gate.targetExtension, gate.admits document⟩

/-- The entry of an event. -/
def Event.entry (event : Event) : Journal.Entry where
  level := .trace
  target := "vuln_lsp_bootstrap::activation"
  message := "evaluated activation predicate"
  fields := [("path", .shown (Text.Utf8.display event.path)),
    ("target_extension", .shown event.targetExtension), ("matched", .flag event.matched)]

end Gate

end EditorSession
