import EditorSession.Proofs.Session.Conduct
import EditorSession.Proofs.Session.Settling
import Mathlib.Data.List.Nodup

/-!
# Other numbers for the sessions of a scope

All scopes draw the numbers of their sessions from one counter, so a run for one scope alone gives
its sessions other numbers: 1, 2, 3, … in the same order. A `Renumbering` takes the sessions of the
scope to these, and `placed` is one for any run. What a manager keeps and answers is renumbered
with the sessions.
-/

namespace EditorSession

open Session (Handle Entry Progress State)

namespace Transport

/-- The sessions of a scope get the numbers 1, 2, 3, … in the order of their starts. -/
structure Renumbering (final : List Call) (scope : Scope) (renumber : SessionId → SessionId) :
    Prop where
  distinct : (startedSessions final).Nodup
  counts : (sessionsOf final scope).map renumber =
    List.range' 1 (sessionsOf final scope).length

namespace Renumbering

variable {calls final : List Call} {scope other : Scope} {renumber : SessionId → SessionId}
  {first second session : SessionId}

theorem inj (renumbering : Renumbering final scope renumber)
    (firstMem : first ∈ sessionsOf final scope) (secondMem : second ∈ sessionsOf final scope)
    (same : renumber first = renumber second) :
    first = second := by
  have distinct : ((sessionsOf final scope).map renumber).Nodup := by
    rw [renumbering.counts]
    exact List.nodup_range'
  exact List.inj_on_of_nodup_map distinct firstMem secondMem same

/-- The next session of the scope is the next number. -/
theorem next (renumbering : Renumbering final scope renumber) {request : StartRequest}
    {answer : Except Backend.Error StartOutcome}
    (extended : calls ++ [.started request answer] <+: final) (own : request.scope = scope) :
    renumber request.session = (sessionsOf calls scope).length + 1 := by
  have among := (sessionsOf_grows extended scope).map renumber
  rw [renumbering.counts, sessionsOf_started, if_pos own, List.map_append] at among
  rcases among with ⟨rest, split⟩
  have inRange : (sessionsOf calls scope).length < (sessionsOf final scope).length := by
    have longer := (sessionsOf_grows extended scope).length_le
    rw [sessionsOf_started, if_pos own, List.length_append] at longer
    exact longer
  have located := congrArg (fun names => names[(sessionsOf calls scope).length]?) split
  simp only [List.map_cons, List.map_nil, List.append_assoc, List.cons_append, List.nil_append,
    List.length_map, List.getElem?_append_right, Nat.le_refl, Nat.sub_self,
    List.getElem?_cons_zero, List.getElem?_range' inRange, Option.some.injEq, Nat.one_mul]
    at located
  rw [located, Nat.add_comm]

/-- No session of another scope is one of this scope, now or later. -/
theorem not_mem_of_other (renumbering : Renumbering final scope renumber)
    (extended : calls <+: final) (own : session ∈ sessionsOf calls other)
    (otherScope : other ≠ scope) : session ∉ sessionsOf final scope := by
  intro sessionMem
  exact otherScope (scope_unique renumbering.distinct
    ((sessionsOf_grows extended other).subset own) sessionMem)

end Renumbering

/-- The number of a session when these sessions are counted and no others. -/
def placed (sessions : List SessionId) (session : SessionId) : SessionId :=
  sessions.idxOf session + 1

theorem sessionsOf_increasing {calls : List Call} {last : Nat}
    (counted : startedSessions calls = List.range' 1 last) (scope : Scope) :
    (sessionsOf calls scope).Pairwise (· < ·) := by
  have increasing : (startedSessions calls).Pairwise (· < ·) :=
    counted ▸ List.pairwise_lt_range'
  exact increasing.sublist (sessionsOf_sublist calls scope)

theorem placed_getElem {sessions : List SessionId} (increasing : sessions.Pairwise (· < ·))
    {index : Nat} (within : index < sessions.length) :
    placed sessions sessions[index] = 1 + index := by
  rw [placed, increasing.nodup.idxOf_getElem index within, Nat.add_comm]

/-- Counting the sessions of a scope alone keeps their order. -/
theorem placed_lt_iff {sessions : List SessionId} (increasing : sessions.Pairwise (· < ·))
    {first second : SessionId} (firstMem : first ∈ sessions) (secondMem : second ∈ sessions) :
    placed sessions first < placed sessions second ↔ first < second := by
  rcases List.getElem_of_mem firstMem with ⟨index, within, rfl⟩
  rcases List.getElem_of_mem secondMem with ⟨other, otherWithin, rfl⟩
  rw [placed_getElem increasing within, placed_getElem increasing otherWithin]
  have ordered := List.pairwise_iff_getElem.mp increasing
  constructor
  · intro before
    exact ordered index other within otherWithin (Nat.lt_of_add_lt_add_left before)
  · intro less
    rcases Nat.lt_trichotomy index other with before | rfl | after
    · exact Nat.add_lt_add_left before 1
    · exact absurd less (Nat.lt_irrefl _)
    · exact absurd less (Nat.lt_asymm (ordered other index otherWithin within after))

theorem Renumbering.ofCounted {final : List Call} {last : Nat}
    (counted : startedSessions final = List.range' 1 last) (scope : Scope) :
    Renumbering final scope (placed (sessionsOf final scope)) where
  distinct := counted ▸ List.nodup_range'
  counts := by
    refine List.ext_getElem (by simp) fun index within _ => ?_
    rw [List.length_map] at within
    rw [List.getElem_map, placed_getElem (sessionsOf_increasing counted scope) within,
      List.getElem_range', Nat.one_mul]

end Transport

variable {scope : Scope} {renumber : SessionId → SessionId}

namespace Session

/-- A handle with another number. -/
def Handle.renumbered (renumber : SessionId → SessionId) (handle : Handle) : Handle :=
  { handle with id := renumber handle.id }

/-- An entry with another session number. -/
def Entry.renumbered (renumber : SessionId → SessionId) (entry : Entry) : Entry :=
  { entry with handle := entry.handle.renumbered renumber }

/-- An error with another session number. -/
def Error.renumbered (renumber : SessionId → SessionId) : Error → Error
  | startFailed integration scope executable cause =>
    startFailed integration scope executable cause
  | stale scope session => stale scope (renumber session)
  | settledBefore session current requested =>
    settledBefore (renumber session) current requested

/-- An answer with another session number. -/
def renumberedResult (renumber : SessionId → SessionId) :
    Except Error Handle → Except Error Handle
  | .ok handle => .ok (handle.renumbered renumber)
  | .error error => .error (error.renumbered renumber)

/-- Whether an answer is about a session of a scope, which has these sessions. -/
def concerns (scope : Scope) (known : List SessionId) : Except Error Handle → Bool
  | .ok handle => handle.scope = scope
  | .error (.startFailed _ failed _ _) => failed = scope
  | .error (.stale former _) => former = scope
  | .error (.settledBefore session _ _) => session ∈ known

theorem Entry.answer_renumbered (entry : Entry) (launch : LaunchSpecification)
    (result : Except Backend.Error Unit) :
    (entry.renumbered renumber).answer launch result =
      renumberedResult renumber (entry.answer launch result) := by
  by_cases starting : entry.progress = .starting
  · cases result <;> simp [Entry.answer, Entry.renumbered, starting, Handle.report,
      renumberedResult, Error.renumbered, Handle.renumbered]
  · simp [Entry.answer, Entry.renumbered, starting, renumberedResult, Error.renumbered,
      Handle.renumbered]

/-- Completions for a session have the same effect under another number. -/
theorem Entry.settledBy_renumbered {entry : Entry} {completion renamed : Completion}
    (named : renamed.session = renumber entry.handle.id ↔ completion.session = entry.handle.id)
    (result : renamed.result = completion.result) :
    (entry.renumbered renumber).settledBy [renamed] =
      (entry.settledBy [completion]).renumbered renumber := by
  by_cases starting : entry.progress = .starting
  · have renamedStarting : (entry.renumbered renumber).progress = .starting := starting
    by_cases own : completion.session = entry.handle.id
    · have renamedOwn : renamed.session = (entry.renumbered renumber).handle.id := named.mpr own
      rw [Entry.settledBy_cons_of_starting starting own,
        Entry.settledBy_cons_of_starting renamedStarting renamedOwn, result]
      rfl
    · have renamedOther : renamed.session ≠ (entry.renumbered renumber).handle.id :=
        fun same => own (named.mp same)
      rw [Entry.settledBy_cons_of_other own, Entry.settledBy_nil,
        Entry.settledBy_cons_of_other renamedOther, Entry.settledBy_nil]
  · have renamedSettled : (entry.renumbered renumber).progress ≠ .starting := starting
    rw [Entry.settledBy_of_settled _ starting, Entry.settledBy_of_settled _ renamedSettled]

theorem concerns_answer {entry : Entry} {known : List SessionId}
    (own : entry.handle.id ∈ known ↔ entry.handle.scope = scope) (launch : LaunchSpecification)
    (result : Except Backend.Error Unit) :
    concerns scope known (entry.answer launch result) = decide (entry.handle.scope = scope) := by
  by_cases starting : entry.progress = .starting
  · cases result <;> simp [Entry.answer, starting, Handle.report, concerns]
  · simp [Entry.answer, starting, concerns, own]

end Session

namespace Transport

/-- A completion for another session number. -/
def Completion.renumbered (renumber : SessionId → SessionId) (completion : Completion) :
    Completion :=
  { completion with session := renumber completion.session }

/-- A call with other session numbers. -/
def Call.renumbered (renumber : SessionId → SessionId) : Call → Call
  | .started request answer =>
    .started { request with session := renumber request.session } answer
  | .polled completions => .polled (completions.map (Completion.renumbered renumber))
  | .stopped session => .stopped (renumber session)

/-- Whether a call starts or stops a session of a scope, which has these sessions. -/
def Call.concerns (scope : Scope) (known : List SessionId) : Call → Bool
  | .started request _ => request.scope = scope
  | .polled _ => false
  | .stopped session => session ∈ known

end Transport

end EditorSession
