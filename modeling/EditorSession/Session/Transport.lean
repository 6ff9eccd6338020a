import EditorSession.Backend.Event
import EditorSession.Backend.Request

/-!
# Transports

A transport owns the backends; the manager of sessions never talks to a backend itself. It is asked
to start a session and answers at once, it is polled for starts that settled later, and it is told
to stop a session. Whatever a transport does, it does it as a function of its own state, so a
statement about all transports is a statement about all such functions.

A call of a transport may also unwind instead of returning (`UnwindingTransport`). A caller that is
not told of this takes a start that unwound for one that goes on (`UnwindingTransport.quiet`).
-/

namespace EditorSession

/-- What a transport says of a start that did not fail at once. -/
inductive StartOutcome
  /-- The backend is up and the handshake has ended. -/
  | running
  /-- The handshake goes on; a poll reports how it ended. -/
  | pending
  deriving DecidableEq, Repr, Inhabited

/-- How a pending start ended. -/
structure Completion where
  session : SessionId
  result : Except Backend.Error Unit

/-- How the handling of an event, or a call, ended. -/
inductive Handled (α : Type)
  | returned (value : α)
  | unwound
  deriving Repr

namespace Handled

variable {α : Type}

/-- The value that was returned, or another one. -/
def getD (other : α) : Handled α → α
  | returned value => value
  | unwound => other

/-- What a start is taken for by a caller that is not told that it unwound: it goes on. -/
def answer (outcome : Handled (Except Backend.Error StartOutcome)) :
    Except Backend.Error StartOutcome :=
  outcome.getD (.ok .pending)

end Handled

/-- A transport over a state. Each call also yields what was noted during it. -/
structure Transport (σ : Type) where
  start : StartRequest → σ → Except Backend.Error StartOutcome × σ × List Backend.Event
  /-- The starts that settled since the last poll. -/
  poll : σ → List Completion × σ × List Backend.Event
  stop : SessionId → σ → σ × List Backend.Event

/-- A transport over a state whose calls may unwind. -/
structure UnwindingTransport (σ : Type) where
  start : StartRequest → σ →
    Handled (Except Backend.Error StartOutcome) × σ × List Backend.Event
  poll : σ → Handled (List Completion) × σ × List Backend.Event
  stop : SessionId → σ → Handled Unit × σ × List Backend.Event

/-- The transport as it is to a caller that is not told which calls unwind. -/
def UnwindingTransport.quiet {σ : Type} (transport : UnwindingTransport σ) : Transport σ where
  start request state :=
    let (outcome, state, events) := transport.start request state
    (outcome.answer, state, events)
  poll state :=
    let (outcome, state, events) := transport.poll state
    (outcome.getD [], state, events)
  stop session state := (transport.stop session state).2

namespace Transport

variable {σ : Type}

/-- A call that a transport received, with its answer. -/
inductive Call
  | started (request : StartRequest) (answer : Except Backend.Error StartOutcome)
  | polled (completions : List Completion)
  | stopped (session : SessionId)

/-- A state together with the calls that led to it, oldest first. -/
structure Recorded (σ : Type) where
  inner : σ
  calls : List Call := []

/-- A transport that keeps a record of its calls. -/
def recorded (transport : Transport σ) : Transport (Recorded σ) where
  start request state :=
    let (answer, inner, events) := transport.start request state.inner
    (answer, ⟨inner, state.calls ++ [.started request answer]⟩, events)
  poll state :=
    let (completions, inner, events) := transport.poll state.inner
    (completions, ⟨inner, state.calls ++ [.polled completions]⟩, events)
  stop session state :=
    let (inner, events) := transport.stop session state.inner
    (⟨inner, state.calls ++ [.stopped session]⟩, events)

/-- The request of a start. -/
def Call.start? : Call → Option StartRequest
  | started request _ => some request
  | _ => none

/-- The session of a stop. -/
def Call.stop? : Call → Option SessionId
  | stopped session => some session
  | _ => none

/-- The requests that a transport was given. -/
def Recorded.starts (state : Recorded σ) : List StartRequest := state.calls.filterMap Call.start?

/-- The sessions that a transport was told to stop. -/
def Recorded.stops (state : Recorded σ) : List SessionId := state.calls.filterMap Call.stop?

end Transport

end EditorSession
