import EditorSession.Proofs.Session.Operation
import Mathlib.Data.List.Infix
import Mathlib.Data.List.Range

/-!
# Transports that treat every scope by itself

`Transport.Conduct` says how a transport treats each scope whatever goes on in the others: what it
answers to the first, second, … start of the scope, and that its reports name sessions by their
place among those of their scope. What a manager asks of such a transport only grows, and it counts
the sessions of all scopes together (`Manager.Extends`).
-/

namespace EditorSession

open Session (Handle Entry Progress State)

namespace Transport

/-- Word of how the pending start of a session ended. The sessions of a scope are counted from zero,
in the order of their starts. -/
structure Report where
  scope : Scope
  place : Nat
  result : Except Backend.Error Unit

/-- How a transport treats every scope, whatever goes on in the others. -/
structure Conduct where
  /-- The answer to the start of a scope which so many starts of the scope precede. -/
  answer : Scope → Nat → Except Backend.Error StartOutcome
  /-- How far above the numbers given out so far a session is looked for that was not started. -/
  ahead : List Call → Report → Nat

/-- What a transport was asked so far, and what it is going to report. -/
structure Agenda where
  calls : List Call := []
  /-- The reports of the next polls. -/
  due : List (List Report)

/-- The session that was started for a scope. -/
def Call.sessionOf? (scope : Scope) : Call → Option SessionId
  | .started request _ => if request.scope = scope then some request.session else none
  | _ => none

/-- The sessions that were started for a scope, in the order of their starts. -/
def sessionsOf (calls : List Call) (scope : Scope) : List SessionId :=
  calls.filterMap (Call.sessionOf? scope)

/-- All sessions that were started. -/
def startedSessions (calls : List Call) : List SessionId :=
  (calls.filterMap Call.start?).map StartRequest.session

namespace Conduct

variable (conduct : Conduct)

/-- A report in terms of session numbers. -/
def completion (calls : List Call) (report : Report) : Completion :=
  match (sessionsOf calls report.scope)[report.place]? with
  | some session => ⟨session, report.result⟩
  | none => ⟨(startedSessions calls).length + 1 + conduct.ahead calls report, report.result⟩

/-- The transport that treats every scope in this way. -/
def transport : Transport Agenda where
  start request agenda :=
    let answer := conduct.answer request.scope (sessionsOf agenda.calls request.scope).length
    (answer, { agenda with calls := agenda.calls ++ [.started request answer] }, [])
  poll agenda :=
    let completions := (agenda.due.headD []).map (conduct.completion agenda.calls)
    (completions, ⟨agenda.calls ++ [.polled completions], agenda.due.tail⟩, [])
  stop session agenda := ({ agenda with calls := agenda.calls ++ [.stopped session] }, [])

end Conduct

/-! ### The sessions of a scope -/

section Sessions

variable {calls final : List Call} {scope other : Scope} {session : SessionId}

theorem sessionsOf_started (request : StartRequest)
    (answer : Except Backend.Error StartOutcome) :
    sessionsOf (calls ++ [.started request answer]) scope =
      if request.scope = scope then sessionsOf calls scope ++ [request.session]
      else sessionsOf calls scope := by
  by_cases same : request.scope = scope <;> simp [sessionsOf, Call.sessionOf?, same]

@[simp]
theorem sessionsOf_polled (completions : List Completion) :
    sessionsOf (calls ++ [.polled completions]) scope = sessionsOf calls scope := by
  simp [sessionsOf, Call.sessionOf?]

@[simp]
theorem sessionsOf_stopped : sessionsOf (calls ++ [.stopped session]) scope =
    sessionsOf calls scope := by
  simp [sessionsOf, Call.sessionOf?]

@[simp]
theorem startedSessions_started (request : StartRequest)
    (answer : Except Backend.Error StartOutcome) :
    startedSessions (calls ++ [.started request answer]) =
      startedSessions calls ++ [request.session] := by
  simp [startedSessions, Call.start?]

@[simp]
theorem startedSessions_polled (completions : List Completion) :
    startedSessions (calls ++ [.polled completions]) = startedSessions calls := by
  simp [startedSessions, Call.start?]

@[simp]
theorem startedSessions_stopped :
    startedSessions (calls ++ [.stopped session]) = startedSessions calls := by
  simp [startedSessions, Call.start?]

theorem sessionsOf_grows (extended : calls <+: final) (scope : Scope) :
    sessionsOf calls scope <+: sessionsOf final scope :=
  extended.filterMap _

theorem sessionsOf_sublist (calls : List Call) (scope : Scope) :
    (sessionsOf calls scope).Sublist (startedSessions calls) := by
  induction calls with
  | nil => exact List.Sublist.refl _
  | cons call rest ih =>
      cases call with
      | started request answer =>
          by_cases same : request.scope = scope
          · simpa [sessionsOf, startedSessions, Call.sessionOf?, Call.start?, same] using ih
          · have skipped := ih.cons request.session
            simpa [sessionsOf, startedSessions, Call.sessionOf?, Call.start?, same] using skipped
      | polled completions =>
          simpa [sessionsOf, startedSessions, Call.sessionOf?, Call.start?,
            List.filterMap_cons] using ih
      | stopped session =>
          simpa [sessionsOf, startedSessions, Call.sessionOf?, Call.start?,
            List.filterMap_cons] using ih

theorem mem_sessionsOf_iff : session ∈ sessionsOf calls scope ↔
    ∃ request answer, .started request answer ∈ calls ∧ request.scope = scope ∧
      request.session = session := by
  simp only [sessionsOf, List.mem_filterMap]
  constructor
  · rintro ⟨call, callMem, named⟩
    cases call with
    | started request answer =>
        simp only [Call.sessionOf?, Option.ite_none_right_eq_some, Option.some.injEq] at named
        exact ⟨request, answer, callMem, named.1, named.2⟩
    | polled completions => cases named
    | stopped session => cases named
  · rintro ⟨request, answer, callMem, rfl, rfl⟩
    exact ⟨_, callMem, by simp [Call.sessionOf?]⟩

/-- Where no number is used twice, a session belongs to one scope only. -/
theorem scope_unique (distinct : (startedSessions calls).Nodup)
    (first : session ∈ sessionsOf calls scope) (second : session ∈ sessionsOf calls other) :
    scope = other := by
  rcases mem_sessionsOf_iff.mp first with ⟨request, answer, requestMem, rfl, named⟩
  rcases mem_sessionsOf_iff.mp second with ⟨request', answer', requestMem', rfl, named'⟩
  have mem : ∀ {request answer}, .started request answer ∈ calls →
      request ∈ calls.filterMap Call.start? := by
    intro request answer callMem
    exact List.mem_filterMap.mpr ⟨_, callMem, rfl⟩
  rw [List.inj_on_of_nodup_map distinct (mem requestMem) (mem requestMem')
    (named.trans named'.symm)]

end Sessions

end Transport

namespace Manager

open Transport (Call Conduct Agenda sessionsOf startedSessions)

/-- The manager after the start of a session that was answered in this way. -/
def answered (manager : Manager Agenda) (scope : Scope)
    (answer : Except Backend.Error StartOutcome) : Except Session.Error Handle × Manager Agenda :=
  manager.started scope answer
    { manager.transport with
      calls := manager.transport.calls ++ [.started (manager.nextRequest scope) answer] } []

/-- The manager after the session of a scope was stopped. -/
def stopped (manager : Manager Agenda) (scope : Scope) (session : SessionId) : Manager Agenda :=
  (manager.remove scope).afterCall
    { manager.transport with calls := manager.transport.calls ++ [.stopped session] } []

/-- The transport was asked to start the sessions 1, 2, 3, … up to the last, in this order. -/
def Counted (manager : Manager Agenda) : Prop :=
  startedSessions manager.transport.calls = List.range' 1 manager.last

/-- The calls are those of before and perhaps more, and still count the sessions. -/
structure Extends (before after : Manager Agenda) : Prop where
  calls : before.transport.calls <+: after.transport.calls
  counted : before.Counted → after.Counted

section Calls

variable (conduct : Conduct) (manager : Manager Agenda) (scope : Scope)

theorem Extends.refl : manager.Extends manager := ⟨List.prefix_refl _, id⟩

theorem Extends.trans {before middle after : Manager Agenda} (first : before.Extends middle)
    (second : middle.Extends after) : before.Extends after :=
  ⟨first.calls.trans second.calls, fun counted => second.counted (first.counted counted)⟩

theorem ensureStarted_conduct :
    (∃ entry event, manager.entry? scope = some entry ∧ entry.progress.isLive = true ∧
      manager.ensureStarted conduct.transport scope = (.ok entry.handle, manager.note event)) ∨
    (manager.session? scope = none ∧ manager.ensureStarted conduct.transport scope =
      manager.answered scope
        (conduct.answer scope (sessionsOf manager.transport.calls scope).length)) := by
  rcases manager.ensureStarted_cases conduct.transport scope with
    ⟨entry, found, live, reused⟩ | ⟨idle, answer, state, events, called, begun⟩
  · exact Or.inl ⟨entry, _, found, live, reused⟩
  · cases called
    exact Or.inr ⟨idle, begun⟩

theorem closeScope_conduct :
    (manager.entry? scope = none ∧ manager.closeScope conduct.transport scope = (none, manager)) ∨
    ∃ entry event, manager.entry? scope = some entry ∧
      ((entry.progress.isLive = true ∧ manager.closeScope conduct.transport scope =
          (some entry.handle, (manager.stopped scope entry.handle.id).note event)) ∨
        (entry.progress = .failed ∧ manager.closeScope conduct.transport scope =
          (some entry.handle, (manager.remove scope).note event))) := by
  rcases manager.closeScope_cases conduct.transport scope with absent |
    ⟨entry, found, ⟨live, state, events, called, closed⟩ | ⟨failed, closed⟩⟩
  · exact Or.inl absent
  · cases called
    exact Or.inr ⟨entry, _, found, Or.inl ⟨live, closed⟩⟩
  · exact Or.inr ⟨entry, _, found, Or.inr ⟨failed, closed⟩⟩

theorem answered_extends (answer : Except Backend.Error StartOutcome) :
    manager.Extends (manager.answered scope answer).2 := by
  refine ⟨?_, fun counted => ?_⟩
  · rw [answered, started_transport]
    exact List.prefix_append _ _
  · rw [Counted, answered, started_transport, started_last, Transport.startedSessions_started,
      counted, List.range'_1_concat, nextRequest_session, Nat.add_comm]

theorem stopped_extends (session : SessionId) :
    manager.Extends (manager.stopped scope session) :=
  ⟨List.prefix_append _ _, fun counted => Transport.startedSessions_stopped.trans counted⟩

theorem ensureStarted_extends :
    manager.Extends (manager.ensureStarted conduct.transport scope).2 := by
  rcases manager.ensureStarted_conduct conduct scope with
    ⟨entry, event, found, live, reused⟩ | ⟨idle, begun⟩
  · rw [reused]
    exact ⟨List.prefix_refl _, id⟩
  · rw [begun]
    exact manager.answered_extends scope _

theorem poll_extends : manager.Extends (manager.poll conduct.transport).2 := by
  have same := manager.poll_sameBesidesTable conduct.transport
  refine ⟨?_, fun counted => ?_⟩
  · rw [same.transport]
    exact List.prefix_append _ _
  · rw [Counted, same.transport, same.last]
    exact (Transport.startedSessions_polled _).trans counted

theorem closeScope_extends :
    manager.Extends (manager.closeScope conduct.transport scope).2 := by
  rcases manager.closeScope_conduct conduct scope with ⟨absent, closed⟩ |
    ⟨entry, event, found, ⟨live, closed⟩ | ⟨failed, closed⟩⟩
  · rw [closed]
    exact .refl manager
  · rw [closed]
    exact ⟨List.prefix_append _ _, (manager.stopped_extends scope entry.handle.id).counted⟩
  · rw [closed]
    exact ⟨List.prefix_refl _, id⟩

end Calls

end Manager

end EditorSession
