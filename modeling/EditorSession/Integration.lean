import EditorSession.Session.Manager

/-!
# The integration

The events of the editor come here: a document was opened, a scope was closed, and, from time to
time, a poll. A document that passes the gate is associated with the session of its scope until the
scope is closed. All documents of a scope share one session; when a failed session is replaced, they
all follow the new one.
-/

namespace EditorSession

/-- The documents of a scope and the session they share. -/
structure Linked where
  handle : Session.Handle
  /-- The documents by the parts of their paths, each once. -/
  paths : List (List Path.Part)
  deriving Repr

/-- Paths with one more, unless it is among them. -/
def Linked.withPath (paths : List (List Path.Part)) (path : List Path.Part) :
    List (List Path.Part) :=
  if path ∈ paths then paths else path :: paths

/-- An integration: its gate, its sessions, and the documents associated with them. -/
structure Integration (σ : Type) where
  gate : Gate
  manager : Manager σ
  documents : Keyed Scope Linked := .empty

namespace Integration

open Session (Handle)

variable {σ : Type}

/-- The integration of a configuration. -/
def ofConfiguration (configuration : Configuration) (mode : LaunchMode) (transport : σ) :
    Integration σ where
  gate := ⟨configuration.targetExtension⟩
  manager := Manager.ofConfiguration configuration mode transport

/-- The session associated with a document of a scope. -/
def sessionFor? (integration : Integration σ) (scope : Scope) (path : Octets) : Option Handle :=
  match integration.documents.get? scope with
  | some linked => if Path.parts path ∈ linked.paths then some linked.handle else none
  | none => none

/-- Notes an event. -/
def note (integration : Integration σ) (event : Event) : Integration σ :=
  { integration with manager := integration.manager.noteAll [event] }

/-- Lets the gate look at a document. -/
def consult (integration : Integration σ) (document : Document) : Bool × Integration σ :=
  (integration.gate.admits document,
    integration.note (.gate (integration.gate.observe document)))

/-- Associates a document with the session of its scope. -/
def associate (integration : Integration σ) (handle : Handle) (scope : Scope)
    (document : Document) : Integration σ :=
  let integration :=
    integration.note (.association (.associated scope handle.id document.path))
  let path := Path.parts document.path
  match integration.documents.get? scope with
  | none =>
    { integration with documents := integration.documents.put scope ⟨handle, [path]⟩ }
  | some linked =>
    let integration :=
      if linked.handle.id = handle.id then integration
      else integration.note
        (.association (.moved scope linked.handle.id handle.id linked.paths.length))
    let kept := if linked.handle.id = handle.id then linked.handle else handle
    let documents := integration.documents.put scope ⟨kept, Linked.withPath linked.paths path⟩
    { integration with documents }

/-- A document was opened. Nothing happens if it does not pass the gate. -/
def documentOpened (transport : Transport σ) (integration : Integration σ) (scope : Scope)
    (document : Document) : Except Session.Error (Option Handle) × Integration σ :=
  let (admitted, integration) := integration.consult document
  if admitted then
    let (result, manager) := integration.manager.ensureStarted transport scope
    let integration := { integration with manager }
    match result with
    | .error error => (.error error, integration)
    | .ok handle => (.ok (some handle), integration.associate handle scope document)
  else (.ok none, integration)

/-- Settles the pending starts that the transport reports. -/
def pollStarts (transport : Transport σ) (integration : Integration σ) :
    List (Except Session.Error Handle) × Integration σ :=
  let (results, manager) := integration.manager.poll transport
  (results, { integration with manager })

/-- A scope was closed. -/
def scopeClosed (transport : Transport σ) (integration : Integration σ) (scope : Scope) :
    Option Handle × Integration σ :=
  let (handle, manager) := integration.manager.closeScope transport scope
  (handle, { integration with manager, documents := integration.documents.erase scope })

end Integration

end EditorSession
