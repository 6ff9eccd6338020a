import EditorSession.Proofs.Session.Exclusion
import EditorSession.Session.Scripted

/-!
# Hosts that mark pending starts

A host that drives the manager itself may say how a pending start ended. A mark as failed is a
record of a failure that the host knows of: the manager lets go of the session, and since a failed
session is never stopped the transport is not told. What the transport runs for a scope is
therefore the live session of the scope, and whatever sessions the host marked as failed before.

`Ledger.Accounted` says so of a ledger. It is kept by every operation, marks in any order, late
completions and closes included.
-/

namespace EditorSession.Ledger

open Session (Handle Entry Progress State Operation HostOperation)

variable {σ : Type}

/-- A line after which the transport does not run a session any more: it was told to stop the
session, or reported that it failed. -/
def Line.EndsAtTransport (session : SessionId) (line : Line) : Prop :=
  line = .call (.stopped session) ∨ ∃ completions, line = .call (.polled completions) ∧
    ∃ completion ∈ completions, completion.session = session ∧
      ∃ cause, completion.result = .error cause

/-- A session was started for a scope, and neither stopped nor reported as failed by the transport
since. -/
def LiveAtTransport (lines : List Line) (scope : Scope) (session : SessionId) : Prop :=
  Standing Line.EndsAtTransport lines scope session

/-- A line after which nobody takes a session to be live. -/
def Line.LetsGo (session : SessionId) (line : Line) : Prop :=
  line.EndsAtTransport session ∨ line = .hostFailed session

/-- What is live at the transport for a scope, and not marked as failed by the host, is the live
session of the scope. -/
structure Accounted (ledger : Ledger σ) : Prop where
  numbered : ledger.manager.Numbered
  current : ∀ scope session, Standing Line.LetsGo ledger.lines scope session →
    ∃ entry, ledger.manager.entry? scope = some entry ∧ entry.handle.id = session ∧
      entry.progress.isLive = true

theorem Accounted.opened (launch : LaunchSpecification) (capabilities : Capability.Declaration)
    (state : σ) : (Ledger.opened launch capabilities state).Accounted where
  numbered := .fresh launch capabilities _
  current _ _ standing := absurd standing not_standing_nil

/-- A completion ends a live session for the manager only if it ends it at the transport. -/
theorem isLive_settledBy {completions : List Completion} {entry : Entry}
    (live : entry.progress.isLive = true)
    (running : ¬Line.LetsGo entry.handle.id (.call (.polled completions))) :
    (entry.settledBy completions).progress.isLive = true := by
  rcases entry.settledBy_eq_or completions with kept |
    ⟨_, completion, completionMem, sameId, settled⟩
  · rw [kept]
    exact live
  · rw [settled]
    cases result : completion.result with
    | ok _ => rfl
    | error cause =>
        have ended : Line.EndsAtTransport entry.handle.id (.call (.polled completions)) :=
          Or.inr ⟨completions, rfl, completion, completionMem, sameId, cause, result⟩
        exact absurd (Or.inl ended) running

/-- One operation keeps the sessions accounted for. -/
theorem Accounted.step {operation : HostOperation} {before after : Ledger σ}
    (accounted : before.Accounted) (numbered : after.manager.Numbered)
    (step : Step operation before after) : after.Accounted := by
  refine ⟨numbered, ?_⟩
  intro scope session standing
  cases step with
  | kept lines last entries =>
      rw [lines] at standing
      rw [entries]
      exact accounted.current scope session standing
  | @started startedScope _ _ answer idle lines last entries =>
      rw [lines, standing_append_singleton, begins_started_iff] at standing
      rw [entries]
      rcases standing with ⟨live, sameScope, rfl⟩ | ⟨standing, _⟩
      · exact ⟨_, if_pos sameScope.symm, rfl, live⟩
      · rcases accounted.current scope session standing with ⟨entry, found, sameId, live⟩
        -- The scope that was started had no live session, so this is another one.
        have otherScope : scope ≠ startedScope := by
          rintro rfl
          have failed := Manager.session?_eq_none_iff.mp idle entry found
          exact Progress.isLive_iff_ne_failed.mp live failed
        exact ⟨entry, by rw [if_neg otherScope, found], sameId, live⟩
  | polled completions failed failed_iff lines last entries =>
      rw [lines, standing_append_iff (by simp [Line.Begins])] at standing
      rcases accounted.current scope session standing.1 with ⟨entry, found, rfl, live⟩
      refine ⟨entry.settledBy completions, by rw [entries, found, Option.map_some],
        by rw [Entry.handle_settledBy], ?_⟩
      exact isLive_settledBy live (standing.2 _ (by simp))
  | @stopped stoppedScope _ _ stopped stoppedFound stoppedLive lines last entries =>
      rw [lines, standing_append_iff (by simp [Line.Begins])] at standing
      rcases accounted.current scope session standing.1 with ⟨entry, found, rfl, live⟩
      have otherScope : scope ≠ stoppedScope := by
        rintro rfl
        rcases Manager.entry?_unique stoppedFound found with rfl
        exact standing.2 (.call (.stopped stopped.handle.id)) (by simp) (Or.inl (Or.inl rfl))
      exact ⟨entry, by rw [entries, if_neg otherScope, found], rfl, live⟩
  | @forgotten forgottenScope _ _ forgotten forgottenFound failed lines last entries =>
      rw [lines] at standing
      rcases accounted.current scope session standing with ⟨entry, found, sameId, live⟩
      have otherScope : scope ≠ forgottenScope := by
        rintro rfl
        rcases Manager.entry?_unique forgottenFound found with rfl
        exact Progress.isLive_iff_ne_failed.mp live failed
      exact ⟨entry, by rw [entries, if_neg otherScope, found], sameId, live⟩
  | @markedRunning handle _ _ marked markedFound sameHandle starting lines last entries =>
      rw [lines] at standing
      rcases accounted.current scope session standing with ⟨entry, found, rfl, live⟩
      rw [entries]
      by_cases same : scope = handle.scope
      · subst same
        rcases Manager.entry?_unique markedFound found with rfl
        exact ⟨_, if_pos rfl, rfl, rfl⟩
      · exact ⟨entry, by rw [if_neg same, found], rfl, live⟩
  | @markedFailed handle _ _ _ marked markedFound sameHandle starting failed failed_iff lines last
      entries =>
      rw [lines, standing_append_iff (by simp [Line.Begins])] at standing
      rcases accounted.current scope session standing.1 with ⟨entry, found, rfl, live⟩
      have otherScope : scope ≠ handle.scope := by
        rintro rfl
        rcases Manager.entry?_unique markedFound found with rfl
        have markedMem : marked.handle.id ∈ failed := (failed_iff _).mpr sameHandle
        exact standing.2 (.hostFailed marked.handle.id) (List.mem_map_of_mem markedMem)
          (Or.inr rfl)
      exact ⟨entry, by rw [entries, if_neg otherScope, found], rfl, live⟩

theorem Accounted.run {ledger : Ledger σ} (accounted : ledger.Accounted)
    (transport : Transport σ) (operations : List HostOperation) :
    (ledger.run transport operations).Accounted := by
  induction operations generalizing ledger with
  | nil => exact accounted
  | cons operation rest ih =>
      apply ih
      exact accounted.step (accounted.numbered.perform transport.recorded operation)
        (perform_step transport accounted.numbered operation)

theorem LiveAtTransport.standing_letsGo {lines : List Line} {scope : Scope}
    {session : SessionId} (live : LiveAtTransport lines scope session)
    (unmarked : .hostFailed session ∉ lines) : Standing Line.LetsGo lines scope session := by
  rcases live with ⟨earlier, line, later, rfl, begins, lasting⟩
  refine ⟨earlier, line, later, rfl, begins, ?_⟩
  rintro other otherMem (ended | rfl)
  · exact lasting other otherMem ended
  · exact unmarked (by simp [otherMem])

/--
In any run, marks of the host included, at most one session of each scope is live at the transport
without being marked as failed by the host. It is the session that the manager reports for the
scope, and right after the scope is closed there is none.
-/
theorem live_unmarked_is_session (transport : Transport σ) (launch : LaunchSpecification)
    (capabilities : Capability.Declaration) (state : σ) (operations : List HostOperation) :
    let opened := Ledger.opened launch capabilities state
    let lines := (opened.run transport operations).lines
    let closed := fun scope => (opened.run transport (operations ++ [.own (.close scope)])).lines
    (∀ scope first second, LiveAtTransport lines scope first →
      LiveAtTransport lines scope second → .hostFailed first ∉ lines →
        .hostFailed second ∉ lines → first = second) ∧
      (∀ scope session, LiveAtTransport lines scope session → .hostFailed session ∉ lines →
        ∃ handle, ((Manager.fresh launch capabilities state).performAll transport
          operations).session? scope = some handle ∧ handle.id = session) ∧
      ∀ scope session, LiveAtTransport (closed scope) scope session →
        .hostFailed session ∈ closed scope := by
  intro opened lines closed
  have accounted := (Accounted.opened launch capabilities state).run transport
  have sameManager := manager_run_opened transport launch capabilities state
  refine ⟨?_, ?_, ?_⟩
  · intro scope first second firstLive secondLive firstUnmarked secondUnmarked
    rcases (accounted operations).current scope first
      (firstLive.standing_letsGo firstUnmarked) with ⟨entry, found, rfl, _⟩
    rcases (accounted operations).current scope second
      (secondLive.standing_letsGo secondUnmarked) with ⟨entry', found', rfl, _⟩
    rw [Manager.entry?_unique found found']
  · intro scope session live unmarked
    rcases (accounted operations).current scope session (live.standing_letsGo unmarked) with
      ⟨entry, found, sameId, entryLive⟩
    refine ⟨entry.handle, ?_, sameId⟩
    rw [← sameManager operations]
    exact Manager.session?_eq_some_iff.mpr ⟨entry, found, entryLive, rfl⟩
  · intro scope session live
    by_contra unmarked
    rcases (accounted (operations ++ [.own (.close scope)])).current scope session
      (live.standing_letsGo unmarked) with ⟨entry, found, _, _⟩
    -- The table has no entry for a scope that was closed last.
    have gone : (opened.run transport (operations ++ [.own (.close scope)])).manager.entry? scope =
        none := by
      rw [run_append]
      exact (Manager.entry?_closeScope ..).trans (if_pos rfl)
    exact Option.some_ne_none entry (found.symm.trans gone)

/-- After a mark as failed the transport may run two sessions of a scope at a time, and it still
runs the first one when the scope has been closed. -/
theorem marked_session_stays_live :
    let script : Transport.Script := { otherwise := .ok .pending }
    let opened := Ledger.opened default default script
    let start : HostOperation := .own (.ensure "workspace")
    let mark : HostOperation :=
      .markFailed ⟨1, "workspace", default⟩ ⟨"handshake timed out", .wordings []⟩
    let restarted := (opened.run (.scripted true) [start, mark, start]).lines
    let closed := (opened.run (.scripted true) [start, mark, .own (.close "workspace")]).lines
    LiveAtTransport restarted "workspace" 1 ∧ LiveAtTransport restarted "workspace" 2 ∧
      LiveAtTransport closed "workspace" 1 := by
  intro script opened start mark restarted closed
  let begun (session : SessionId) : Line :=
    .call (.started ⟨session, "workspace", default, default⟩ (.ok .pending))
  have begins : ∀ session, (begun session).Begins "workspace" session :=
    fun session => ⟨_, .pending, rfl, rfl, rfl⟩
  have restartedLines : restarted = [begun 1, .hostFailed 1, begun 2] := rfl
  have closedLines : closed = [begun 1, .hostFailed 1] := rfl
  rw [restartedLines, closedLines]
  refine ⟨⟨[], begun 1, [.hostFailed 1, begun 2], rfl, begins 1, ?_⟩,
    ⟨[begun 1, .hostFailed 1], begun 2, [], rfl, begins 2, ?_⟩,
    ⟨[], begun 1, [.hostFailed 1], rfl, begins 1, ?_⟩⟩
  · simp [Line.EndsAtTransport, begun]
  · simp
  · simp [Line.EndsAtTransport]

end EditorSession.Ledger
