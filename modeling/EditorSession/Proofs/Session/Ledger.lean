import EditorSession.Proofs.Past
import EditorSession.Proofs.Session.Operation

/-!
# The ledger of a run

A ledger is kept beside a manager: it has a line for each call of the transport, with its answer,
and a line for each session that a poll or a mark of the host moved to failed. Lines are only ever
added, so "since then" and "at that moment" are statements about the lines that follow or precede
another.

`Step` lists what one operation does to the table and to the ledger together; `Ledger.perform_step`
shows that it lists everything.
-/

namespace EditorSession

open Session (Handle Entry Progress State Operation HostOperation)

namespace Manager

variable {σ : Type}

/-- The sessions that are failed after an operation and were not before it. -/
def failedSince (before after : Manager σ) : List SessionId :=
  (after.sessions.values.filter fun entry =>
    entry.progress = .failed ∧ before.stateOf entry.handle ≠ .bound .failed).map
      fun entry => entry.handle.id

theorem mem_failedSince_iff {before after : Manager σ} {session : SessionId} :
    session ∈ before.failedSince after ↔
      ∃ scope entry, after.entry? scope = some entry ∧ entry.handle.id = session ∧
        entry.progress = .failed ∧ before.stateOf entry.handle ≠ .bound .failed := by
  simp only [failedSince, List.mem_map, List.mem_filter, Keyed.mem_values_iff,
    decide_eq_true_eq]
  constructor
  · rintro ⟨entry, ⟨⟨scope, found⟩, failed, moved⟩, same⟩
    exact ⟨scope, entry, found, same, failed, moved⟩
  · rintro ⟨scope, entry, found, same, failed, moved⟩
    exact ⟨entry, ⟨⟨scope, found⟩, failed, moved⟩, same⟩

theorem stateOf_of_current {manager : Manager σ} {entry : Entry}
    (found : manager.entry? entry.handle.scope = some entry) :
    manager.stateOf entry.handle = .bound entry.progress := by
  simp [stateOf, found]

/-- A poll moves to failed what was starting and is settled by a failure. -/
theorem mem_failedSince_settled_iff {before after : Manager σ} {completions : List Completion}
    {session : SessionId} (numbered : before.Numbered)
    (settled : ∀ scope, after.entry? scope =
      (before.entry? scope).map (Entry.settledBy completions)) :
    session ∈ before.failedSince after ↔
      ∃ scope entry, before.entry? scope = some entry ∧ entry.handle.id = session ∧
        entry.progress ≠ .failed ∧ (entry.settledBy completions).progress = .failed := by
  rw [mem_failedSince_iff]
  have stateBefore : ∀ {scope entry}, before.entry? scope = some entry →
      before.stateOf entry.handle = .bound entry.progress := by
    intro scope entry found
    exact stateOf_of_current (by rw [numbered.named found, found])
  constructor
  · rintro ⟨scope, entry, found, same, failed, moved⟩
    rw [settled, Option.map_eq_some_iff] at found
    rcases found with ⟨entry, found, rfl⟩
    rw [Entry.handle_settledBy] at same moved
    rw [stateBefore found] at moved
    exact ⟨scope, entry, found, same, fun already => moved (by rw [already]), failed⟩
  · rintro ⟨scope, entry, found, same, before, failed⟩
    refine ⟨scope, entry.settledBy completions, ?_, ?_, failed, ?_⟩
    · rw [settled, found, Option.map_some]
    · rw [Entry.handle_settledBy, same]
    · rw [Entry.handle_settledBy, stateBefore found]
      simpa using before

/-- Marking a starting session as failed moves that session alone. -/
theorem mem_failedSince_marked_iff {before after : Manager σ} {scope : Scope} {entry : Entry}
    {session : SessionId} (numbered : before.Numbered) (found : before.entry? scope = some entry)
    (starting : entry.progress = .starting)
    (marked : ∀ other, after.entry? other =
      if other = scope then some { entry with progress := .failed } else before.entry? other) :
    session ∈ before.failedSince after ↔ session = entry.handle.id := by
  rw [mem_failedSince_iff]
  constructor
  · rintro ⟨other, otherEntry, otherFound, rfl, failed, moved⟩
    rw [marked] at otherFound
    split at otherFound
    · exact congrArg (fun entry => entry.handle.id) (Option.some.inj otherFound).symm
    · rw [stateOf_of_current (by rw [numbered.named otherFound, otherFound]), failed] at moved
      exact absurd rfl moved
  · rintro rfl
    refine ⟨scope, { entry with progress := .failed }, ?_, rfl, rfl, ?_⟩
    · rw [marked, if_pos rfl]
    · show before.stateOf entry.handle ≠ .bound .failed
      rw [stateOf_of_current (by rw [numbered.named found, found]), starting]
      simp

theorem failedSince_eq_nil_of_same {before after : Manager σ} (numbered : before.Numbered)
    (same : ∀ scope, after.entry? scope = before.entry? scope) :
    before.failedSince after = [] := by
  rw [List.eq_nil_iff_forall_not_mem]
  intro session sessionMem
  rcases mem_failedSince_iff.mp sessionMem with ⟨scope, entry, found, _, failed, moved⟩
  rw [same] at found
  rw [stateOf_of_current (by rw [numbered.named found, found]), failed] at moved
  exact moved rfl

end Manager

/-- A line of a ledger. -/
inductive Ledger.Line
  | call (call : Transport.Call)
  /-- A poll moved the session to failed. -/
  | pollFailed (session : SessionId)
  /-- A mark of the host moved the session to failed. -/
  | hostFailed (session : SessionId)

/-- A manager over a transport that records its calls, and the ledger of its run. -/
structure Ledger (σ : Type) where
  manager : Manager (Transport.Recorded σ)
  lines : List Ledger.Line

namespace Ledger

variable {σ : Type}

/-- The lines for sessions that an operation moved to failed. A start that failed has none: the
answer to its call says so. -/
def Line.failures : HostOperation → List SessionId → List Line
  | .own .poll, sessions => sessions.map .pollFailed
  | .markFailed _ _, sessions => sessions.map .hostFailed
  | _, _ => []

/-- The ledger of a manager that has started nothing yet. -/
def opened (launch : LaunchSpecification) (capabilities : Capability.Declaration) (state : σ) :
    Ledger σ where
  manager := .fresh launch capabilities ⟨state, []⟩
  lines := []

/-- The ledger after an operation. -/
def perform (transport : Transport σ) (ledger : Ledger σ) (operation : HostOperation) :
    Ledger σ :=
  let after := ledger.manager.perform transport.recorded operation
  let calls := after.transport.calls.drop ledger.manager.transport.calls.length
  { manager := after
    lines := ledger.lines ++ calls.map .call
      ++ Line.failures operation (ledger.manager.failedSince after) }

/-- The ledger after operations in turn. -/
def run (transport : Transport σ) (ledger : Ledger σ) (operations : List HostOperation) :
    Ledger σ :=
  operations.foldl (perform transport) ledger

theorem run_append (transport : Transport σ) (ledger : Ledger σ)
    (first second : List HostOperation) :
    ledger.run transport (first ++ second) = (ledger.run transport first).run transport second :=
  List.foldl_append

theorem manager_run (transport : Transport σ) (ledger : Ledger σ)
    (operations : List HostOperation) :
    (ledger.run transport operations).manager =
      ledger.manager.performAll transport.recorded operations := by
  induction operations generalizing ledger with
  | nil => rfl
  | cons operation rest ih => exact ih (ledger.perform transport operation)

/-- Keeping a ledger does not change what the manager does. -/
theorem manager_run_opened (transport : Transport σ) (launch : LaunchSpecification)
    (capabilities : Capability.Declaration) (state : σ) (operations : List HostOperation) :
    ((opened launch capabilities state).run transport operations).manager.through
        Transport.Recorded.inner =
      (Manager.fresh launch capabilities state).performAll transport operations := by
  rw [manager_run]
  exact Manager.performAll_through transport.recorded_refines _ operations

/-! ### What stands in a ledger -/

/-- A start of a session of a scope, which was not refused. -/
def Line.Begins (line : Line) (scope : Scope) (session : SessionId) : Prop :=
  ∃ request outcome, line = .call (.started request (.ok outcome)) ∧ request.scope = scope ∧
    request.session = session

/-- A session of a scope was begun, and since then there was no line that ends it. -/
def Standing (ends : SessionId → Line → Prop) (lines : List Line) (scope : Scope)
    (session : SessionId) : Prop :=
  ∃ earlier line later, lines = earlier ++ line :: later ∧ line.Begins scope session ∧
    ∀ other ∈ later, ¬ends session other

section Standing

variable {ends : SessionId → Line → Prop} {lines : List Line} {scope : Scope}
  {session : SessionId}

theorem not_standing_nil : ¬Standing ends [] scope session := not_since_nil

theorem standing_append_singleton {line : Line} :
    Standing ends (lines ++ [line]) scope session ↔
      line.Begins scope session ∨ (Standing ends lines scope session ∧ ¬ends session line) :=
  since_append_singleton

/-- Where lines that begin nothing are added, only what they do not end stands. -/
theorem standing_append_iff {added : List Line}
    (beginNothing : ∀ line ∈ added, ¬line.Begins scope session) :
    Standing ends (lines ++ added) scope session ↔
      Standing ends lines scope session ∧ ∀ line ∈ added, ¬ends session line :=
  since_append_iff beginNothing

end Standing

/-! ### What an operation does -/

/-- What one operation does to the table and to the ledger. -/
inductive Step : HostOperation → Ledger σ → Ledger σ → Prop
  /-- A live session is used again, there is nothing to close, or a mark is refused. -/
  | kept {operation : HostOperation} {before after : Ledger σ}
      (lines : after.lines = before.lines)
      (last : after.manager.last = before.manager.last)
      (entries : ∀ other, after.manager.entry? other = before.manager.entry? other) :
      Step operation before after
  /-- The transport was asked for a new session. -/
  | started {scope : Scope} {before after : Ledger σ}
      (answer : Except Backend.Error StartOutcome)
      (idle : before.manager.session? scope = none)
      (lines : after.lines =
        before.lines ++ [.call (.started (before.manager.nextRequest scope) answer)])
      (last : after.manager.last = before.manager.last + 1)
      (entries : ∀ other, after.manager.entry? other =
        if other = scope then some ⟨before.manager.nextHandle scope, .ofAnswer answer⟩
        else before.manager.entry? other) :
      Step (.own (.ensure scope)) before after
  | polled {before after : Ledger σ} (completions : List Completion)
      (failed : List SessionId)
      (failed_iff : ∀ session, session ∈ failed ↔
        ∃ scope entry, before.manager.entry? scope = some entry ∧
          entry.handle.id = session ∧ entry.progress ≠ .failed ∧
          (entry.settledBy completions).progress = .failed)
      (lines : after.lines =
        before.lines ++ (.call (.polled completions) :: failed.map .pollFailed))
      (last : after.manager.last = before.manager.last)
      (entries : ∀ other, after.manager.entry? other =
        (before.manager.entry? other).map (Entry.settledBy completions)) :
      Step (.own .poll) before after
  /-- A live session was stopped. -/
  | stopped {scope : Scope} {before after : Ledger σ} (entry : Entry)
      (found : before.manager.entry? scope = some entry)
      (live : entry.progress.isLive = true)
      (lines : after.lines = before.lines ++ [.call (.stopped entry.handle.id)])
      (last : after.manager.last = before.manager.last)
      (entries : ∀ other, after.manager.entry? other =
        if other = scope then none else before.manager.entry? other) :
      Step (.own (.close scope)) before after
  /-- A failed session was forgotten. -/
  | forgotten {scope : Scope} {before after : Ledger σ} (entry : Entry)
      (found : before.manager.entry? scope = some entry)
      (failed : entry.progress = .failed)
      (lines : after.lines = before.lines)
      (last : after.manager.last = before.manager.last)
      (entries : ∀ other, after.manager.entry? other =
        if other = scope then none else before.manager.entry? other) :
      Step (.own (.close scope)) before after
  | markedRunning {handle : Handle} {before after : Ledger σ} (entry : Entry)
      (found : before.manager.entry? handle.scope = some entry)
      (current : entry.handle.id = handle.id) (starting : entry.progress = .starting)
      (lines : after.lines = before.lines)
      (last : after.manager.last = before.manager.last)
      (entries : ∀ other, after.manager.entry? other =
        if other = handle.scope then some { entry with progress := .running }
        else before.manager.entry? other) :
      Step (.markRunning handle) before after
  | markedFailed {handle : Handle} {cause : Backend.Error} {before after : Ledger σ}
      (entry : Entry) (found : before.manager.entry? handle.scope = some entry)
      (current : entry.handle.id = handle.id) (starting : entry.progress = .starting)
      (failed : List SessionId) (failed_iff : ∀ session, session ∈ failed ↔ session = handle.id)
      (lines : after.lines = before.lines ++ failed.map .hostFailed)
      (last : after.manager.last = before.manager.last)
      (entries : ∀ other, after.manager.entry? other =
        if other = handle.scope then some { entry with progress := .failed }
        else before.manager.entry? other) :
      Step (.markFailed handle cause) before after

section Perform

variable {ledger : Ledger σ} (transport : Transport σ)

theorem perform_ensure_step (scope : Scope) :
    Step (.own (.ensure scope)) ledger (ledger.perform transport (.own (.ensure scope))) := by
  rcases ledger.manager.ensureStarted_cases transport.recorded scope with
    ⟨entry, found, live, reused⟩ | ⟨idle, answer, state, events, called, begun⟩
  · have after : ledger.manager.perform transport.recorded (.own (.ensure scope)) =
        ledger.manager.note _ := congrArg Prod.snd reused
    apply Step.kept
    · simp [perform, after, Manager.note, Manager.noteAll, Line.failures]
    · simp [perform, after, Manager.note, Manager.noteAll]
    · simp [perform, after]
  · have after : ledger.manager.perform transport.recorded (.own (.ensure scope)) =
        (ledger.manager.started scope answer state events).2 := congrArg Prod.snd begun
    simp only [Transport.recorded, Prod.mk.injEq] at called
    rcases called with ⟨rfl, rfl, rfl⟩
    apply Step.started
      (transport.start (ledger.manager.nextRequest scope) ledger.manager.transport.inner).1 idle
    · simp [perform, after, Line.failures]
    · simp [perform, after]
    · intro other
      simp only [perform, after]
      exact Manager.entry?_started ..

theorem perform_poll_step (numbered : ledger.manager.Numbered) :
    Step (.own .poll) ledger (ledger.perform transport (.own .poll)) := by
  have entries := Manager.entry?_poll numbered transport.recorded
  have same := ledger.manager.poll_sameBesidesTable transport.recorded
  apply Step.polled (transport.poll ledger.manager.transport.inner).1
    (ledger.manager.failedSince (ledger.manager.perform transport.recorded (.own .poll)))
    (fun session => Manager.mem_failedSince_settled_iff numbered entries) _ same.last entries
  have calls : (ledger.manager.perform transport.recorded (.own .poll)).transport.calls =
      ledger.manager.transport.calls ++
        [.polled (transport.poll ledger.manager.transport.inner).1] :=
    congrArg Transport.Recorded.calls same.transport
  simp [perform, calls, Line.failures]

theorem perform_close_step (scope : Scope) :
    Step (.own (.close scope)) ledger (ledger.perform transport (.own (.close scope))) := by
  have entries := ledger.manager.entry?_closeScope transport.recorded scope
  have last := ledger.manager.closeScope_last transport.recorded scope
  rcases ledger.manager.closeScope_cases transport.recorded scope with ⟨absent, closed⟩ |
    ⟨entry, found, ⟨live, state, events, called, closed⟩ | ⟨failed, closed⟩⟩
  · have after : ledger.manager.perform transport.recorded (.own (.close scope)) =
        ledger.manager := congrArg Prod.snd closed
    exact .kept (by simp [perform, after, Line.failures]) (by simp [perform, after])
      (by simp [perform, after])
  · have after : ledger.manager.perform transport.recorded (.own (.close scope)) = _ :=
      congrArg Prod.snd closed
    simp only [Transport.recorded, Prod.mk.injEq] at called
    rcases called with ⟨rfl, rfl⟩
    refine .stopped entry found live ?_ last entries
    simp [perform, after, Line.failures, Manager.note, Manager.noteAll, Manager.afterCall]
  · have after : ledger.manager.perform transport.recorded (.own (.close scope)) = _ :=
      congrArg Prod.snd closed
    refine .forgotten entry found failed ?_ last entries
    simp [perform, after, Line.failures, Manager.note, Manager.noteAll, Manager.remove]

theorem perform_markRunning_step (handle : Handle) :
    Step (.markRunning handle) ledger (ledger.perform transport (.markRunning handle)) := by
  rcases ledger.manager.markRunning_cases handle with ⟨awaited, marked⟩ | ⟨error, _, marked⟩
  · have after : ledger.manager.perform transport.recorded (.markRunning handle) = _ :=
      congrArg Prod.snd marked
    rcases Manager.awaited_eq_ok_iff.mp awaited with ⟨entry, found, current, starting⟩
    refine .markedRunning entry found current starting ?_ ?_ ?_
    · simp [perform, after, Line.failures, Manager.note, Manager.noteAll, Manager.setProgress]
    · simp [perform, after, Manager.note, Manager.noteAll, Manager.setProgress]
    · intro other
      simp [perform, after, Manager.entry?_setProgress, found]
  · have after : ledger.manager.perform transport.recorded (.markRunning handle) =
        ledger.manager := congrArg Prod.snd marked
    exact .kept (by simp [perform, after, Line.failures]) (by simp [perform, after])
      (by simp [perform, after])

theorem perform_markFailed_step (numbered : ledger.manager.Numbered) (handle : Handle)
    (cause : Backend.Error) :
    Step (.markFailed handle cause) ledger
      (ledger.perform transport (.markFailed handle cause)) := by
  rcases ledger.manager.markFailed_cases handle cause with ⟨awaited, marked⟩ |
    ⟨error, _, marked⟩
  · have after : ledger.manager.perform transport.recorded (.markFailed handle cause) = _ :=
      congrArg Prod.snd marked
    rcases Manager.awaited_eq_ok_iff.mp awaited with ⟨entry, found, current, starting⟩
    have entries : ∀ other, (ledger.perform transport (.markFailed handle cause)).manager.entry?
        other = if other = handle.scope then some { entry with progress := .failed }
          else ledger.manager.entry? other := by
      intro other
      simp [perform, after, Manager.entry?_setProgress, found]
    refine .markedFailed entry found current starting (ledger.manager.failedSince
      (ledger.manager.perform transport.recorded (.markFailed handle cause))) ?_ ?_ ?_ entries
    · intro session
      rw [← current]
      exact Manager.mem_failedSince_marked_iff numbered found starting entries
    · simp [perform, after, Line.failures, Manager.note, Manager.noteAll, Manager.setProgress]
    · simp [perform, after, Manager.note, Manager.noteAll, Manager.setProgress]
  · have after : ledger.manager.perform transport.recorded (.markFailed handle cause) =
        ledger.manager := congrArg Prod.snd marked
    exact .kept (by simp [perform, after, Line.failures,
      Manager.failedSince_eq_nil_of_same numbered]) (by simp [perform, after])
      (by simp [perform, after])

end Perform

/-- Every operation is one of the steps. -/
theorem perform_step {ledger : Ledger σ} (transport : Transport σ)
    (numbered : ledger.manager.Numbered) (operation : HostOperation) :
    Step operation ledger (ledger.perform transport operation) := by
  rcases operation with (scope | _ | scope) | handle | ⟨handle, cause⟩
  · exact perform_ensure_step transport scope
  · exact perform_poll_step transport numbered
  · exact perform_close_step transport scope
  · exact perform_markRunning_step transport handle
  · exact perform_markFailed_step transport numbered handle cause

end Ledger

end EditorSession
