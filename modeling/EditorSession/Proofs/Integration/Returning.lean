import EditorSession.Proofs.Integration.Unwinding

/-!
# Events that return

The handling of an event makes one call of the transport at most. If the call returns, the event is
handled as over the transport that is not told of unwinding; if it unwinds, so does the handling
(`Shared.react_cases`). Hence a run in which no event unwinds is a run over that transport
(`Shared.reactAll_of_unpoisoned`).
-/

namespace EditorSession

open Session (Handle Progress)

variable {σ α : Type}

namespace UnwindingTransport

variable (transport : UnwindingTransport σ)

/-- One call leads from a state to another, or none does, and it returns. -/
inductive Returns : σ → σ → Prop
  | silent (state : σ) : Returns state state
  | started {request : StartRequest} {answer : Except Backend.Error StartOutcome} {before after : σ}
      {events : List Backend.Event}
      (called : transport.start request before = (.returned answer, after, events)) :
      Returns before after
  | polled {completions : List Completion} {before after : σ} {events : List Backend.Event}
      (called : transport.poll before = (.returned completions, after, events)) :
      Returns before after
  | stopped {session : SessionId} {before after : σ} {events : List Backend.Event}
      (called : transport.stop session before = (.returned (), after, events)) :
      Returns before after

/-- A call leads from a state to another, and unwinds. -/
inductive Unwinds : σ → σ → Prop
  | started {request : StartRequest} {before after : σ} {events : List Backend.Event}
      (called : transport.start request before = (.unwound, after, events)) : Unwinds before after
  | polled {before after : σ} {events : List Backend.Event}
      (called : transport.poll before = (.unwound, after, events)) : Unwinds before after
  | stopped {session : SessionId} {before after : σ} {events : List Backend.Event}
      (called : transport.stop session before = (.unwound, after, events)) : Unwinds before after

theorem ensureStarted_returns (manager : Manager σ) (scope : Scope) :
    (transport.ensureStarted manager scope =
        (.returned (manager.ensureStarted transport.quiet scope).1,
          (manager.ensureStarted transport.quiet scope).2) ∧
      transport.Returns manager.transport
        (manager.ensureStarted transport.quiet scope).2.transport) ∨
    ((transport.ensureStarted manager scope).1 = .unwound ∧
      transport.Unwinds manager.transport
        (transport.ensureStarted manager scope).2.transport) := by
  rcases transport.ensureStarted_cases scope manager with
    ⟨entry, found, live, reused⟩ | ⟨idle, attempt, state, events, called, begun⟩
  · rcases manager.ensureStarted_cases transport.quiet scope with
      ⟨entry', found', _, reused'⟩ | ⟨idle', _⟩
    · cases Manager.entry?_unique found found'
      left
      rw [reused, reused']
      exact ⟨rfl, .silent _⟩
    · have failed := Manager.session?_eq_none_iff.mp idle' entry found
      exact absurd failed (Progress.isLive_iff_ne_failed.mp live)
  · rcases manager.ensureStarted_cases transport.quiet scope with
      ⟨entry', found', live', _⟩ | ⟨_, answer', state', events', called', begun'⟩
    · have failed := Manager.session?_eq_none_iff.mp idle entry' found'
      exact absurd failed (Progress.isLive_iff_ne_failed.mp live')
    · have asked : transport.quiet.start (manager.nextRequest scope) manager.transport =
          (attempt.answer, state, events) := by
        simp only [quiet, called]
      have same := called'.symm.trans asked
      simp only [Prod.mk.injEq] at same
      rcases same with ⟨rfl, rfl, rfl⟩
      rw [begun, begun', Manager.started_transport]
      cases attempt with
      | returned answer => exact .inl ⟨rfl, .started called⟩
      | unwound =>
          right
          rw [Manager.concluded_manager, Manager.started_transport]
          exact ⟨rfl, .started called⟩

/-- The handling of an event returns with its call, as it does when nothing unwinds, or it unwinds
with it. -/
def Handles (integration : Integration σ) (handled : Handled α × Integration σ)
    (quiet : α × Integration σ) : Prop :=
  (handled = (.returned quiet.1, quiet.2) ∧
    transport.Returns integration.manager.transport quiet.2.manager.transport) ∨
  (handled.1 = .unwound ∧
    transport.Unwinds integration.manager.transport handled.2.manager.transport)

section Handles

variable (integration : Integration σ)

theorem handles_opened (scope : Scope) (document : Document) :
    transport.Handles integration (transport.documentOpened scope document integration)
      (integration.documentOpened transport.quiet scope document) := by
  have opened := transport.documentOpened_eq integration scope document
  have openedQuiet := integration.documentOpened_eq transport.quiet scope document
  cases admitted : integration.gate.admits document with
  | false =>
      simp only [admitted, Bool.false_eq_true, ↓reduceIte] at opened openedQuiet
      rw [opened, openedQuiet]
      exact .inl ⟨rfl, .silent _⟩
  | true =>
      simp only [admitted, ↓reduceIte] at opened openedQuiet
      rw [opened, openedQuiet]
      rcases transport.ensureStarted_returns (integration.consult document).2.manager scope with
        ⟨same, returns⟩ | ⟨unwound, unwinds⟩
      · left
        rw [same]
        rcases asked : (integration.consult document).2.manager.ensureStarted transport.quiet scope
          with ⟨error | handle, manager⟩
        · rw [asked] at returns
          exact ⟨rfl, returns⟩
        · rw [asked] at returns
          refine ⟨rfl, ?_⟩
          dsimp only
          rw [associate_transport]
          exact returns
      · right
        rcases asked : transport.ensureStarted (integration.consult document).2.manager scope with
          ⟨value | _, manager⟩
        · rw [asked] at unwound
          cases unwound
        · rw [asked] at unwinds
          exact ⟨rfl, unwinds⟩

theorem handles_polled : transport.Handles integration (transport.pollStarts integration)
    (integration.pollStarts transport.quiet) := by
  rcases called : transport.poll integration.manager.transport with
    ⟨completions | _, state, events⟩
  · left
    have asked : transport.quiet.poll integration.manager.transport =
        (completions, state, events) := by
      simp only [quiet, called, Handled.getD]
    have settled := Manager.settleAll_sameBesidesTable
      (integration.manager.afterCall state events) completions
    simp only [pollStarts, Integration.pollStarts, Manager.poll, called, asked, true_and]
    rw [settled.transport]
    exact .polled called
  · right
    simp only [pollStarts, called, true_and]
    exact .polled called

theorem handles_closed (scope : Scope) :
    transport.Handles integration (transport.scopeClosed scope integration)
      (integration.scopeClosed transport.quiet scope) := by
  cases found : integration.manager.entry? scope with
  | none =>
      left
      simp only [scopeClosed, Integration.scopeClosed, Manager.closeScope, found, true_and]
      exact .silent _
  | some entry =>
      by_cases live : entry.progress.isLive = true
      · rcases called : transport.stop entry.handle.id (integration.manager.remove scope).transport
          with ⟨_ | _, state, events⟩
        · left
          have asked : transport.quiet.stop entry.handle.id
              (integration.manager.remove scope).transport = (state, events) := by
            simp only [quiet, called]
          simp only [scopeClosed, Integration.scopeClosed, Manager.closeScope, found, live, called,
            asked, ↓reduceIte, true_and]
          exact .stopped called
        · right
          simp only [scopeClosed, found, live, called, ↓reduceIte, true_and]
          exact .stopped called
      · left
        simp only [scopeClosed, Integration.scopeClosed, Manager.closeScope, found, live,
          Bool.false_eq_true, ↓reduceIte, true_and]
        exact .silent _

end Handles

end UnwindingTransport

/-! ### Runs -/

namespace Shared

variable (transport : UnwindingTransport σ) (shared : Shared σ)

theorem handle_cases {handler : Integration σ → Handled α × Integration σ}
    {quiet : α × Integration σ}
    (handles : transport.Handles shared.integration (handler shared.integration) quiet) :
    ((shared.handle handler).2 = { shared with integration := quiet.2 } ∧
      transport.Returns shared.integration.manager.transport quiet.2.manager.transport) ∨
    ((shared.handle handler).2.poisoned = true ∧
      transport.Unwinds shared.integration.manager.transport
        (shared.handle handler).2.integration.manager.transport) := by
  rcases handles with ⟨same, returns⟩ | ⟨unwound, unwinds⟩
  · left
    unfold handle
    rw [same]
    exact ⟨rfl, returns⟩
  · right
    rw [handle_integration]
    refine ⟨?_, unwinds⟩
    unfold handle
    rcases handled : handler shared.integration with ⟨value | _, integration⟩
    · rw [handled] at unwound
      cases unwound
    · rfl

/-- An event returns with its call, or unwinds with it. -/
theorem react_cases (event : EditorEvent) :
    (shared.react transport event =
        { shared with integration := shared.integration.react transport.quiet event } ∧
      transport.Returns shared.integration.manager.transport
        (shared.integration.react transport.quiet event).manager.transport) ∨
    ((shared.react transport event).poisoned = true ∧
      transport.Unwinds shared.integration.manager.transport
        (shared.react transport event).integration.manager.transport) := by
  cases event with
  | opened scope document =>
      exact shared.handle_cases transport (transport.handles_opened _ scope document)
  | polled => exact shared.handle_cases transport (transport.handles_polled _)
  | closed scope => exact shared.handle_cases transport (transport.handles_closed _ scope)

section Unpoisoned

variable {transport} {shared}

theorem react_of_unpoisoned {event : EditorEvent}
    (unpoisoned : (shared.react transport event).poisoned = false) :
    shared.react transport event =
        { shared with integration := shared.integration.react transport.quiet event } ∧
      transport.Returns shared.integration.manager.transport
        (shared.integration.react transport.quiet event).manager.transport := by
  rcases shared.react_cases transport event with returned | ⟨poisoned, -⟩
  · exact returned
  · rw [poisoned] at unpoisoned
    cases unpoisoned

/-- A lock that a holder unwound with remembers it. -/
theorem unpoisoned_of_reactAll {events : List EditorEvent}
    (unpoisoned : (shared.reactAll transport events).poisoned = false) :
    shared.poisoned = false := by
  induction events generalizing shared with
  | nil => exact unpoisoned
  | cons event rest ih =>
      have next : (shared.react transport event).poisoned = false := ih unpoisoned
      rwa [(react_of_unpoisoned next).1] at next

theorem reactAll_of_unpoisoned {events : List EditorEvent}
    (unpoisoned : (shared.reactAll transport events).poisoned = false) :
    (shared.reactAll transport events).integration =
      shared.integration.reactAll transport.quiet events := by
  induction events generalizing shared with
  | nil => rfl
  | cons event rest ih =>
      have next : (shared.react transport event).poisoned = false :=
        unpoisoned_of_reactAll unpoisoned
      have later : (shared.reactAll transport (event :: rest)).integration = _ := ih unpoisoned
      rw [later, (react_of_unpoisoned next).1]
      rfl

end Unpoisoned

end Shared

end EditorSession
