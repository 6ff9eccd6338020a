import EditorSession.Proofs.Session.Ledger

/-!
# One backend for each scope

A session is open from a start that was not refused until it is stopped or a poll moves it to
failed. `Ledger.Balanced` ties the ledger of a run to the table of sessions: what is open for a
scope is the live session of the scope, the transport was asked for the sessions 1, 2, 3, … in
this order, and whatever it was told to stop was open then. Every operation of an integration
keeps the balance.

A host that marks pending starts itself can break it, since the transport is not told of a session
that is marked as failed.
-/

namespace EditorSession.Ledger

open Session (Handle Entry Progress State Operation HostOperation)

variable {σ : Type}

/-! ### Open sessions -/

/-- A line after which a session is not open any more. -/
def Line.Closes (session : SessionId) (line : Line) : Prop :=
  line = .call (.stopped session) ∨ line = .pollFailed session

/-- A session was started for a scope, and neither stopped nor moved to failed by a poll since. -/
def Open (lines : List Line) (scope : Scope) (session : SessionId) : Prop :=
  Standing Line.Closes lines scope session

/-- The session that the transport was asked to start. -/
def Line.startedSession? : Line → Option SessionId
  | .call (.started request _) => some request.session
  | _ => none

/-- The session that the transport was told to stop. -/
def Line.stoppedSession? : Line → Option SessionId
  | .call (.stopped session) => some session
  | _ => none

/-- Whatever was stopped was open at that moment. -/
def StopsOpen (lines : List Line) : Prop :=
  ∀ earlier session later, lines = earlier ++ .call (.stopped session) :: later →
    ∃ scope, Open earlier scope session

theorem begins_started_iff {request : StartRequest}
    {answer : Except Backend.Error StartOutcome} {scope : Scope} {session : SessionId} :
    (Line.call (.started request answer)).Begins scope session ↔
      (Progress.ofAnswer answer).isLive = true ∧ request.scope = scope ∧
        request.session = session := by
  rw [Progress.isLive_ofAnswer_iff]
  constructor
  · rintro ⟨_, outcome, same, rfl, rfl⟩
    cases same
    exact ⟨⟨outcome, rfl⟩, rfl, rfl⟩
  · rintro ⟨⟨outcome, rfl⟩, rfl, rfl⟩
    exact ⟨request, outcome, rfl, rfl, rfl⟩

theorem stopsOpen_append_singleton {lines : List Line} {line : Line} (stops : StopsOpen lines)
    (isOpen : ∀ session, line = .call (.stopped session) → ∃ scope, Open lines scope session) :
    StopsOpen (lines ++ [line]) := by
  intro earlier session later split
  rcases split_append_singleton split with ⟨rfl, same, _⟩ | ⟨rest, inLines, _⟩
  · exact isOpen session same.symm
  · exact stops earlier session rest inLines

/-- Lines that stop nothing keep what was stopped open at its moment. -/
theorem StopsOpen.append {lines added : List Line} (stops : StopsOpen lines)
    (stopsNothing : ∀ session, .call (.stopped session) ∉ added) :
    StopsOpen (lines ++ added) := by
  induction added using List.reverseRecOn with
  | nil => simpa using stops
  | append_singleton added line ih =>
      rw [← List.append_assoc]
      apply stopsOpen_append_singleton
      · exact ih fun session sessionMem => stopsNothing session (by simp [sessionMem])
      · rintro session rfl
        exact absurd (by simp) (stopsNothing session)

/-- The ledger and the table of sessions say the same. -/
structure Balanced (ledger : Ledger σ) : Prop where
  numbered : ledger.manager.Numbered
  started : ledger.lines.filterMap Line.startedSession? = List.range' 1 ledger.manager.last
  open_iff : ∀ scope session, Open ledger.lines scope session ↔
    ∃ entry, ledger.manager.entry? scope = some entry ∧ entry.handle.id = session ∧
      entry.progress.isLive = true
  stops : StopsOpen ledger.lines
  stoppedOnce : (ledger.lines.filterMap Line.stoppedSession?).Nodup
  /-- A stopped session never becomes live again. -/
  stoppedGone : ∀ session ∈ ledger.lines.filterMap Line.stoppedSession?,
    session ≤ ledger.manager.last ∧ ∀ scope entry, ledger.manager.entry? scope = some entry →
      entry.handle.id = session → entry.progress = .failed

theorem Balanced.opened (launch : LaunchSpecification) (capabilities : Capability.Declaration)
    (state : σ) : (Ledger.opened launch capabilities state).Balanced where
  numbered := .fresh launch capabilities _
  started := rfl
  open_iff scope session := by
    simp [Ledger.opened, Open, not_standing_nil, Manager.fresh, Manager.entry?]
  stops earlier session later split := by simp [Ledger.opened] at split
  stoppedOnce := List.nodup_nil
  stoppedGone := by simp [Ledger.opened]

/-- An operation that leaves ledger and table as they are keeps the balance. -/
theorem Balanced.of_kept {before after : Ledger σ} (balanced : before.Balanced)
    (lines : after.lines = before.lines)
    (last : after.manager.last = before.manager.last)
    (entries : ∀ other, after.manager.entry? other = before.manager.entry? other) :
    after.Balanced where
  numbered := balanced.numbered.of_same last entries
  started := by rw [lines, last, balanced.started]
  open_iff scope session := by simp only [lines, entries, balanced.open_iff]
  stops := lines ▸ balanced.stops
  stoppedOnce := lines ▸ balanced.stoppedOnce
  stoppedGone session sessionMem := by
    simp only [lines] at sessionMem
    simp only [last, entries]
    exact balanced.stoppedGone session sessionMem

theorem Balanced.of_started {before after : Ledger σ} (balanced : before.Balanced)
    {scope : Scope} (numbered : after.manager.Numbered)
    (answer : Except Backend.Error StartOutcome)
    (idle : before.manager.session? scope = none)
    (lines : after.lines =
      before.lines ++ [.call (.started (before.manager.nextRequest scope) answer)])
    (last : after.manager.last = before.manager.last + 1)
    (entries : ∀ other, after.manager.entry? other =
      if other = scope then some ⟨before.manager.nextHandle scope, .ofAnswer answer⟩
      else before.manager.entry? other) : after.Balanced where
  numbered := numbered
  started := by
    rw [lines, last, List.filterMap_append, balanced.started, List.range'_concat]
    simp [Line.startedSession?, Manager.nextRequest, Manager.request, Manager.nextHandle,
      Nat.add_comm]
  open_iff other session := by
    rw [lines, Open, standing_append_singleton, begins_started_iff, ← Open,
      balanced.open_iff, entries]
    by_cases same : other = scope
    · subst same
      have notLive : ∀ entry, before.manager.entry? other = some entry →
          entry.progress.isLive ≠ true := by
        intro entry found
        rw [Manager.session?_eq_none_iff.mp idle entry found]
        simp [Progress.isLive]
      rw [if_pos rfl]
      constructor
      · rintro (⟨live, _, rfl⟩ | ⟨⟨entry, found, _, live⟩, _⟩)
        · exact ⟨_, rfl, rfl, live⟩
        · exact absurd live (notLive entry found)
      · rintro ⟨entry, found, rfl, live⟩
        left
        cases found
        exact ⟨live, rfl, rfl⟩
    · rw [if_neg same]
      constructor
      · rintro (⟨_, sameScope, _⟩ | ⟨standing, _⟩)
        · exact absurd sameScope.symm same
        · exact standing
      · intro standing
        exact Or.inr ⟨standing, by simp [Line.Closes]⟩
  stops := by
    rw [lines]
    exact stopsOpen_append_singleton balanced.stops (by simp)
  stoppedOnce := by
    rw [lines, List.filterMap_append, List.filterMap_cons]
    simpa [Line.stoppedSession?] using balanced.stoppedOnce
  stoppedGone session sessionMem := by
    have stopped : session ∈ before.lines.filterMap Line.stoppedSession? := by
      simpa [lines, Line.stoppedSession?] using sessionMem
    rcases balanced.stoppedGone session stopped with ⟨issued, gone⟩
    refine ⟨last ▸ Nat.le_succ_of_le issued, ?_⟩
    intro other entry found sameId
    rw [entries] at found
    split at found
    · cases found
      exact absurd (sameId ▸ issued) (Nat.not_succ_le_self _)
    · exact gone other entry found sameId

theorem Balanced.of_polled {before after : Ledger σ} (balanced : before.Balanced)
    (numbered : after.manager.Numbered) (completions : List Completion)
    (failed : List SessionId)
    (failed_iff : ∀ session, session ∈ failed ↔
      ∃ scope entry, before.manager.entry? scope = some entry ∧
        entry.handle.id = session ∧ entry.progress ≠ .failed ∧
        (entry.settledBy completions).progress = .failed)
    (lines : after.lines =
      before.lines ++ (.call (.polled completions) :: failed.map .pollFailed))
    (last : after.manager.last = before.manager.last)
    (entries : ∀ other, after.manager.entry? other =
      (before.manager.entry? other).map (Entry.settledBy completions)) :
    after.Balanced where
  numbered := numbered
  started := by
    rw [lines, last, List.filterMap_append, balanced.started]
    simp [Line.startedSession?, List.filterMap_eq_nil_iff]
  open_iff scope session := by
    have kept : (∀ line ∈ Line.call (.polled completions) :: failed.map Line.pollFailed,
        ¬Line.Closes session line) ↔ session ∉ failed := by
      simp only [Line.Closes, List.mem_cons, List.mem_map, forall_eq_or_imp]
      constructor
      · intro none sessionMem
        exact none.2 _ ⟨session, sessionMem, rfl⟩ (Or.inr rfl)
      · intro notMem
        refine ⟨by simp, ?_⟩
        rintro line ⟨other, otherMem, rfl⟩ (impossible | same)
        · cases impossible
        · cases same
          exact notMem otherMem
    rw [lines, Open, standing_append_iff (by simp [Line.Begins]), kept, ← Open,
      balanced.open_iff, failed_iff]
    constructor
    · rintro ⟨⟨entry, found, sameId, live⟩, notFailed⟩
      refine ⟨entry.settledBy completions, by rw [entries, found, Option.map_some],
        by rw [Entry.handle_settledBy, sameId], ?_⟩
      rw [Progress.isLive_iff_ne_failed] at live ⊢
      intro settled
      exact notFailed ⟨scope, entry, found, sameId, live, settled⟩
    · rintro ⟨after, found, rfl, live⟩
      rw [entries, Option.map_eq_some_iff] at found
      rcases found with ⟨entry, found, rfl⟩
      rw [Progress.isLive_iff_ne_failed] at live
      refine ⟨⟨entry, found, by rw [Entry.handle_settledBy], ?_⟩, ?_⟩
      · rw [Progress.isLive_iff_ne_failed]
        intro already
        rw [Entry.settledBy_of_settled completions (by simp [already])] at live
        exact live already
      · rintro ⟨other, otherEntry, otherFound, sameId, _, settled⟩
        rw [Entry.handle_settledBy] at sameId
        exact live (balanced.numbered.entry_eq otherFound found sameId ▸ settled)
  stops := by
    rw [lines]
    exact balanced.stops.append (by simp)
  stoppedOnce := by
    have nothing : (failed.map Line.pollFailed).filterMap Line.stoppedSession? = [] := by
      simp [List.filterMap_eq_nil_iff, Line.stoppedSession?]
    rw [lines, List.filterMap_append, List.filterMap_cons, nothing]
    simpa [Line.stoppedSession?] using balanced.stoppedOnce
  stoppedGone session sessionMem := by
    have stopped : session ∈ before.lines.filterMap Line.stoppedSession? := by
      simpa [lines, Line.stoppedSession?] using sessionMem
    rcases balanced.stoppedGone session stopped with ⟨issued, gone⟩
    refine ⟨last ▸ issued, ?_⟩
    intro scope entry found sameId
    rw [entries, Option.map_eq_some_iff] at found
    rcases found with ⟨entry, found, rfl⟩
    rw [Entry.handle_settledBy] at sameId
    have failed := gone scope entry found sameId
    rw [Entry.settledBy_of_settled completions (by simp [failed]), failed]

theorem Balanced.of_stopped {before after : Ledger σ} (balanced : before.Balanced)
    {scope : Scope} {entry : Entry} (found : before.manager.entry? scope = some entry)
    (live : entry.progress.isLive = true)
    (lines : after.lines = before.lines ++ [.call (.stopped entry.handle.id)])
    (last : after.manager.last = before.manager.last)
    (entries : ∀ other, after.manager.entry? other =
      if other = scope then none else before.manager.entry? other) : after.Balanced where
  numbered := balanced.numbered.of_remove scope last entries
  started := by
    rw [lines, last, List.filterMap_append, balanced.started, List.filterMap_cons]
    simp [Line.startedSession?]
  open_iff other session := by
    rw [lines, Open, standing_append_iff (by simp [Line.Begins]), ← Open, balanced.open_iff,
      entries]
    constructor
    · rintro ⟨⟨otherEntry, otherFound, rfl, otherLive⟩, notStopped⟩
      have otherScope : other ≠ scope := by
        rintro rfl
        rcases Manager.entry?_unique found otherFound with rfl
        exact notStopped (.call (.stopped entry.handle.id)) (by simp) (Or.inl rfl)
      rw [if_neg otherScope]
      exact ⟨otherEntry, otherFound, rfl, otherLive⟩
    · rintro ⟨otherEntry, otherFound, rfl, otherLive⟩
      rcases Option.ite_none_left_eq_some.mp otherFound with ⟨otherScope, otherFound⟩
      refine ⟨⟨otherEntry, otherFound, rfl, otherLive⟩, ?_⟩
      intro line lineMem closes
      rw [List.mem_singleton] at lineMem
      subst lineMem
      simp only [Line.Closes, Line.call.injEq, Transport.Call.stopped.injEq, reduceCtorEq,
        or_false] at closes
      exact otherScope (balanced.numbered.apart otherFound found closes.symm)
  stops := by
    rw [lines]
    apply stopsOpen_append_singleton balanced.stops
    intro session same
    cases same
    exact ⟨scope, (balanced.open_iff scope _).mpr ⟨entry, found, rfl, live⟩⟩
  stoppedOnce := by
    have new : entry.handle.id ∉ before.lines.filterMap Line.stoppedSession? := by
      intro stoppedMem
      have failed := (balanced.stoppedGone _ stoppedMem).2 scope entry found rfl
      exact Progress.isLive_iff_ne_failed.mp live failed
    rw [lines, List.filterMap_append, List.filterMap_cons]
    simp only [Line.stoppedSession?, List.filterMap_nil]
    exact List.nodup_append_comm.mp (List.nodup_cons.mpr ⟨new, balanced.stoppedOnce⟩)
  stoppedGone session sessionMem := by
    have stopped : session ∈ before.lines.filterMap Line.stoppedSession? ∨
        session = entry.handle.id := by
      rw [lines, List.filterMap_append, List.mem_append] at sessionMem
      simpa [Line.stoppedSession?] using sessionMem
    rw [last]
    rcases stopped with stoppedMem | rfl
    · rcases balanced.stoppedGone session stoppedMem with ⟨issued, gone⟩
      refine ⟨issued, ?_⟩
      intro other otherEntry otherFound
      rw [entries] at otherFound
      exact gone other otherEntry (Option.ite_none_left_eq_some.mp otherFound).2
    · refine ⟨balanced.numbered.issued found, ?_⟩
      intro other otherEntry otherFound sameId
      rw [entries] at otherFound
      rcases Option.ite_none_left_eq_some.mp otherFound with ⟨otherScope, otherFound⟩
      exact absurd (balanced.numbered.apart otherFound found sameId) otherScope

theorem Balanced.of_forgotten {before after : Ledger σ} (balanced : before.Balanced)
    {scope : Scope} {entry : Entry} (found : before.manager.entry? scope = some entry)
    (failed : entry.progress = .failed) (lines : after.lines = before.lines)
    (last : after.manager.last = before.manager.last)
    (entries : ∀ other, after.manager.entry? other =
      if other = scope then none else before.manager.entry? other) : after.Balanced where
  numbered := balanced.numbered.of_remove scope last entries
  started := by rw [lines, last, balanced.started]
  open_iff other session := by
    rw [lines, balanced.open_iff, entries]
    by_cases same : other = scope
    · subst same
      simp [found, failed, Progress.isLive]
    · rw [if_neg same]
  stops := lines ▸ balanced.stops
  stoppedOnce := lines ▸ balanced.stoppedOnce
  stoppedGone session sessionMem := by
    rw [lines] at sessionMem
    rw [last]
    rcases balanced.stoppedGone session sessionMem with ⟨issued, gone⟩
    refine ⟨issued, ?_⟩
    intro other otherEntry otherFound
    rw [entries] at otherFound
    split at otherFound
    · cases otherFound
    · exact gone other otherEntry otherFound

/-- Every operation of an integration keeps the balance. -/
theorem Balanced.perform {ledger : Ledger σ} (balanced : ledger.Balanced)
    (transport : Transport σ) (operation : Operation) :
    (ledger.perform transport (.own operation)).Balanced := by
  have numbered : (ledger.perform transport (.own operation)).manager.Numbered :=
    balanced.numbered.perform transport.recorded (.own operation)
  cases perform_step transport balanced.numbered (.own operation) with
  | kept lines last entries => exact balanced.of_kept lines last entries
  | started answer idle lines last entries =>
      exact balanced.of_started numbered answer idle lines last entries
  | polled completions failed failed_iff lines last entries =>
      exact balanced.of_polled numbered completions failed failed_iff lines last entries
  | stopped entry found live lines last entries =>
      exact balanced.of_stopped found live lines last entries
  | forgotten entry found failed lines last entries =>
      exact balanced.of_forgotten found failed lines last entries

theorem Balanced.run {ledger : Ledger σ} (balanced : ledger.Balanced)
    (transport : Transport σ) (operations : List Operation) :
    (ledger.run transport (operations.map .own)).Balanced := by
  induction operations generalizing ledger with
  | nil => exact balanced
  | cons operation rest ih => exact ih (balanced.perform transport operation)

/--
At most one session of each scope is open, and it is the one that the manager reports for the scope.
The transport is asked for sessions by the numbers 1, 2, 3, … without gap or repetition, and is told
to stop a session only while it is open, hence never twice.
-/
theorem open_iff_session (transport : Transport σ) (launch : LaunchSpecification)
    (capabilities : Capability.Declaration) (state : σ) (operations : List Operation) :
    let manager := (Manager.fresh launch capabilities state).performAll transport
      (operations.map .own)
    let lines := ((Ledger.opened launch capabilities state).run transport
      (operations.map .own)).lines
    (∀ scope first second, Open lines scope first → Open lines scope second → first = second) ∧
      (∀ scope session, Open lines scope session ↔
        ∃ handle, manager.session? scope = some handle ∧ handle.id = session) ∧
      lines.filterMap Line.startedSession? =
        List.range' 1 (lines.filterMap Line.startedSession?).length ∧
      (∀ earlier session later, lines = earlier ++ .call (.stopped session) :: later →
        ∃ scope, Open earlier scope session) ∧
      (lines.filterMap Line.stoppedSession?).Nodup := by
  intro manager lines
  have balanced := (Balanced.opened launch capabilities state).run transport operations
  have sameManager := manager_run_opened transport launch capabilities state
    (operations.map .own)
  have open_iff : ∀ scope session, Open lines scope session ↔
      ∃ handle, manager.session? scope = some handle ∧ handle.id = session := by
    intro scope session
    have sameSession : manager.session? scope = ((Ledger.opened launch capabilities state).run
        transport (operations.map .own)).manager.session? scope :=
      congrArg (Manager.session? · scope) sameManager.symm
    rw [balanced.open_iff, sameSession]
    simp only [Manager.session?_eq_some_iff]
    constructor
    · rintro ⟨entry, found, sameId, live⟩
      exact ⟨entry.handle, ⟨entry, found, live, rfl⟩, sameId⟩
    · rintro ⟨_, ⟨entry, found, live, rfl⟩, sameId⟩
      exact ⟨entry, found, sameId, live⟩
  refine ⟨?_, open_iff, ?_, balanced.stops, balanced.stoppedOnce⟩
  · intro scope first second firstOpen secondOpen
    rcases (open_iff scope first).mp firstOpen with ⟨handle, current, rfl⟩
    rcases (open_iff scope second).mp secondOpen with ⟨handle', current', rfl⟩
    have same : some handle = some handle' := current.symm.trans current'
    rw [Option.some.inj same]
  · rw [balanced.started, List.length_range']

end EditorSession.Ledger
