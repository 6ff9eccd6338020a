import EditorSession.Integration

/-!
# Shared integrations

An integration that several threads use handles one event at a time under a lock. The handling of an
event may unwind instead of returning, because a call of the transport does. It is then abandoned at
that point, the integration keeps the state it has there, and the next event is handled with it: the
lock remembers that a holder unwound, and is taken all the same.
-/

namespace EditorSession

/-- An integration under a lock. -/
structure Shared (σ : Type) where
  integration : Integration σ
  /-- Whether a holder of the lock unwound. -/
  poisoned : Bool := false

namespace Shared

open Session (Handle)

variable {σ α : Type}

/-- Handles an event under the lock. -/
def handle (shared : Shared σ) (handler : Integration σ → Handled α × Integration σ) :
    Handled α × Shared σ :=
  match handler shared.integration with
  | (.returned value, integration) => (.returned value, { shared with integration })
  | (.unwound, integration) => (.unwound, { integration, poisoned := true })

/-- Handles an event that does not unwind. -/
def run (shared : Shared σ) (handler : Integration σ → α × Integration σ) : α × Shared σ :=
  let (value, integration) := handler shared.integration
  (value, { shared with integration })

end Shared

namespace UnwindingTransport

open Session (Handle)

variable {σ : Type}

/-- Yields the session of a scope, starting one if there is no live one. -/
def ensureStarted (transport : UnwindingTransport σ) (manager : Manager σ) (scope : Scope) :
    Handled (Except Session.Error Handle) × Manager σ :=
  match manager.reuse? scope with
  | some (handle, manager) => (.returned (.ok handle), manager)
  | none =>
    let (handle, manager) := manager.enrol scope
    match transport.start (manager.request handle) manager.transport with
    | (.unwound, state, events) => (.unwound, manager.afterCall state events)
    | (.returned answer, state, events) =>
      let (result, manager) := (manager.afterCall state events).conclude handle answer
      (.returned result, manager)

/-- A document was opened. -/
def documentOpened (transport : UnwindingTransport σ) (scope : Scope) (document : Document)
    (integration : Integration σ) :
    Handled (Except Session.Error (Option Handle)) × Integration σ :=
  let (admitted, integration) := integration.consult document
  if admitted then
    match transport.ensureStarted integration.manager scope with
    | (.unwound, manager) => (.unwound, { integration with manager })
    | (.returned (.error error), manager) =>
      (.returned (.error error), { integration with manager })
    | (.returned (.ok handle), manager) =>
      (.returned (.ok (some handle)),
        { integration with manager }.associate handle scope document)
  else (.returned (.ok none), integration)

/-- Settles the pending starts that the transport reports. -/
def pollStarts (transport : UnwindingTransport σ) (integration : Integration σ) :
    Handled (List (Except Session.Error Handle)) × Integration σ :=
  match transport.poll integration.manager.transport with
  | (.unwound, state, events) =>
    (.unwound, { integration with manager := integration.manager.afterCall state events })
  | (.returned completions, state, events) =>
    let (results, manager) := (integration.manager.afterCall state events).settleAll completions
    (.returned results, { integration with manager })

/-- A scope was closed. Its documents and its session are gone before the transport is told. -/
def scopeClosed (transport : UnwindingTransport σ) (scope : Scope)
    (integration : Integration σ) : Handled (Option Handle) × Integration σ :=
  let integration := { integration with documents := integration.documents.erase scope }
  match integration.manager.entry? scope with
  | none => (.returned none, integration)
  | some entry =>
    let manager := integration.manager.remove scope
    let terminated := Session.Event.terminated scope entry.handle.id entry.progress
    if entry.progress.isLive then
      match transport.stop entry.handle.id manager.transport with
      | (.unwound, state, events) =>
        (.unwound, { integration with manager := manager.afterCall state events })
      | (.returned _, state, events) =>
        (.returned (some entry.handle),
          { integration with manager := (manager.afterCall state events).note terminated })
    else (.returned (some entry.handle), { integration with manager := manager.note terminated })

end UnwindingTransport

end EditorSession
