import EditorSession.Proofs.Session.Operation
import EditorSession.Session.Scripted

/-!
# The life of a session

What is observed of one session while a run goes on. `Handle.Move` lists what a single operation
may make of the state of a session that was given out: it is kept, a starting session settles, or
the session ends because its scope is closed or because it failed and is replaced.
`Manager.perform_move` shows that nothing else happens, so along a run states only move forward,
and a session that ended has ended for good.

A handle stays with its session: numbers are never used twice, so a scope that is started again
has a session of another number, and what is still said of the former one is refused or dropped.
-/

namespace EditorSession

open Session (Handle Entry Progress State Operation HostOperation)

namespace Session

/-- One state of a session may be observed after another. -/
inductive State.Reaches : State → State → Prop
  | same (state : State) : Reaches state state
  | ran : Reaches (.bound .starting) (.bound .running)
  | failed : Reaches (.bound .starting) (.bound .failed)
  | ended (state : State) : Reaches state .terminated

theorem State.Reaches.trans {first second third : State} (before : first.Reaches second)
    (after : second.Reaches third) : first.Reaches third := by
  cases before with
  | same => exact after
  | ran =>
      cases after with
      | same => exact .ran
      | ended => exact .ended _
  | failed =>
      cases after with
      | same => exact .failed
      | ended => exact .ended _
  | ended =>
      cases after with
      | same | ended => exact .ended _

/-- What an operation may make of the state of the session that a handle names. -/
inductive Handle.Move (handle : Handle) : HostOperation → State → State → Prop
  | kept (operation : HostOperation) (state : State) : Move handle operation state state
  | settled (operation : HostOperation) {progress : Progress} (ended : progress ≠ .starting) :
      Move handle operation (.bound .starting) (.bound progress)
  | closed (state : State) : Move handle (.own (.close handle.scope)) state .terminated
  | replaced : Move handle (.own (.ensure handle.scope)) (.bound .failed) .terminated

theorem Handle.Move.reaches {handle : Handle} {operation : HostOperation} {before after : State}
    (move : handle.Move operation before after) : before.Reaches after := by
  cases move with
  | kept => exact .same _
  | @settled _ progress ended =>
      cases progress with
      | starting => exact absurd rfl ended
      | running => exact .ran
      | failed => exact .failed
  | closed => exact .ended _
  | replaced => exact .ended _

/-- A session ends when its scope is closed, or when it failed and its scope is started again. -/
theorem Handle.Move.of_terminated {handle : Handle} {operation : HostOperation} {before : State}
    (move : handle.Move operation before .terminated) (alive : before ≠ .terminated) :
    operation = .own (.close handle.scope) ∨
      operation = .own (.ensure handle.scope) ∧ before = .bound .failed := by
  cases move with
  | kept => exact absurd rfl alive
  | closed => exact Or.inl rfl
  | replaced => exact Or.inr ⟨rfl, rfl⟩

end Session

namespace Manager

variable {σ : Type} {manager : Manager σ}

/-! ### The state that is reported of a handle -/

theorem stateOf_eq_bound_iff {handle : Handle} {progress : Progress} :
    manager.stateOf handle = .bound progress ↔
      ∃ entry, manager.entry? handle.scope = some entry ∧ entry.handle.id = handle.id ∧
        entry.progress = progress := by
  cases found : manager.entry? handle.scope with
  | none => simp [stateOf, found]
  | some entry => by_cases current : entry.handle.id = handle.id <;> simp [stateOf, found, current]

theorem stateOf_eq_terminated_iff {handle : Handle} :
    manager.stateOf handle = .terminated ↔
      ∀ entry, manager.entry? handle.scope = some entry → entry.handle.id ≠ handle.id := by
  cases found : manager.entry? handle.scope with
  | none => simp [stateOf, found]
  | some entry => by_cases current : entry.handle.id = handle.id <;> simp [stateOf, found, current]

theorem stateOf_congr {after : Manager σ} {handle : Handle}
    (same : after.entry? handle.scope = manager.entry? handle.scope) :
    after.stateOf handle = manager.stateOf handle := by
  rw [stateOf, stateOf, same]

/-! ### One operation -/

section Move

variable {handle : Handle}

/-- A new session has a number of its own, so a session that was given out before is replaced. -/
theorem ensureStarted_move (issued : handle.id ≤ manager.last) (transport : Transport σ)
    (scope : Scope) :
    handle.Move (.own (.ensure scope)) (manager.stateOf handle)
      (stateOf (manager.ensureStarted transport scope).2 handle) := by
  rcases manager.ensureStarted_cases transport scope with
    ⟨entry, found, live, reused⟩ | ⟨idle, answer, state, events, called, begun⟩
  · rw [reused]
    exact .kept _ _
  · rw [begun]
    by_cases same : handle.scope = scope
    · subst same
      have ended : stateOf (manager.started handle.scope answer state events).2 handle =
          .terminated := by
        rw [stateOf_eq_terminated_iff]
        intro entry found sameId
        rw [entry?_started, if_pos rfl] at found
        cases found
        rw [← sameId] at issued
        exact Nat.not_succ_le_self _ issued
      rw [ended]
      cases before : manager.stateOf handle with
      | terminated => exact .kept _ _
      | unstarted =>
          cases found : manager.entry? handle.scope with
          | none => simp [stateOf, found] at before
          | some entry =>
              by_cases current : entry.handle.id = handle.id <;>
                simp [stateOf, found, current] at before
      | bound progress =>
          rcases stateOf_eq_bound_iff.mp before with ⟨entry, found, current, rfl⟩
          rw [session?_eq_none_iff.mp idle entry found]
          exact .replaced
    · rw [stateOf_congr ((entry?_started ..).trans (if_neg same))]
      exact .kept _ _

theorem poll_move (numbered : manager.Numbered) (transport : Transport σ) :
    handle.Move (.own .poll) (manager.stateOf handle)
      (stateOf (manager.poll transport).2 handle) := by
  have entries := entry?_poll numbered transport handle.scope
  cases found : manager.entry? handle.scope with
  | none =>
      rw [stateOf_congr (by rw [entries, found]; rfl)]
      exact .kept _ _
  | some entry =>
      rw [found, Option.map_some] at entries
      rcases entry.settledBy_eq_or (transport.poll manager.transport).1 with kept |
        ⟨starting, completion, _, _, settled⟩
      · rw [stateOf_congr (by rw [entries, found, kept])]
        exact .kept _ _
      · by_cases current : entry.handle.id = handle.id
        · have before : manager.stateOf handle = .bound .starting :=
            stateOf_eq_bound_iff.mpr ⟨entry, found, current, starting⟩
          have after : stateOf (manager.poll transport).2 handle =
              .bound (.ofResult completion.result) :=
            stateOf_eq_bound_iff.mpr ⟨_, entries, by rw [settled]; exact current, by rw [settled]⟩
          rw [before, after]
          exact .settled _ (Progress.ofResult_ne_starting _)
        · have before : manager.stateOf handle = .terminated := by
            simp [stateOf, found, current]
          have after : stateOf (manager.poll transport).2 handle = .terminated := by
            simp [stateOf, entries, current]
          rw [before, after]
          exact .kept _ _

theorem closeScope_move (transport : Transport σ) (scope : Scope) :
    handle.Move (.own (.close scope)) (manager.stateOf handle)
      (stateOf (manager.closeScope transport scope).2 handle) := by
  have entries := manager.entry?_closeScope transport scope handle.scope
  by_cases same : handle.scope = scope
  · subst same
    have ended : stateOf (manager.closeScope transport handle.scope).2 handle = .terminated := by
      simp [stateOf, entries]
    rw [ended]
    exact .closed _
  · rw [stateOf_congr (entries.trans (if_neg same))]
    exact .kept _ _

/-- Settling a starting session by hand does to any session what settling it by a poll does. -/
theorem setProgress_move {marked : Handle} {entry : Entry} (operation : HostOperation)
    (found : manager.entry? marked.scope = some entry) (starting : entry.progress = .starting)
    {progress : Progress} (ended : progress ≠ .starting) :
    handle.Move operation (manager.stateOf handle)
      (stateOf (manager.setProgress marked.scope progress) handle) := by
  have entries := manager.entry?_setProgress marked.scope handle.scope progress
  by_cases same : handle.scope = marked.scope
  · rw [if_pos same, found, Option.map_some] at entries
    rw [← same] at found
    by_cases current : entry.handle.id = handle.id
    · have before : manager.stateOf handle = .bound .starting :=
        stateOf_eq_bound_iff.mpr ⟨entry, found, current, starting⟩
      rw [before, stateOf_eq_bound_iff.mpr ⟨_, entries, current, rfl⟩]
      exact .settled _ ended
    · have before : manager.stateOf handle = .terminated := by simp [stateOf, found, current]
      have after : stateOf (manager.setProgress marked.scope progress) handle = .terminated := by
        simp [stateOf, entries, current]
      rw [before, after]
      exact .kept _ _
  · rw [stateOf_congr (entries.trans (if_neg same))]
    exact .kept _ _

/-- All that an operation may make of the state of a session that was given out. -/
theorem perform_move (numbered : manager.Numbered) (issued : handle.id ≤ manager.last)
    (transport : Transport σ) (operation : HostOperation) :
    handle.Move operation (manager.stateOf handle)
      (stateOf (manager.perform transport operation) handle) := by
  rcases operation with (scope | _ | scope) | marked | ⟨marked, cause⟩
  · exact ensureStarted_move issued transport scope
  · exact poll_move numbered transport
  · exact closeScope_move transport scope
  · rw [perform]
    rcases manager.markRunning_cases marked with ⟨awaited, done⟩ | ⟨error, _, done⟩
    · rcases awaited_eq_ok_iff.mp awaited with ⟨entry, found, _, starting⟩
      rw [done]
      exact setProgress_move _ found starting (by simp)
    · rw [done]
      exact .kept _ _
  · rw [perform]
    rcases manager.markFailed_cases marked cause with ⟨awaited, done⟩ | ⟨error, _, done⟩
    · rcases awaited_eq_ok_iff.mp awaited with ⟨entry, found, _, starting⟩
      rw [done]
      exact setProgress_move _ found starting (by simp)
    · rw [done]
      exact .kept _ _

end Move

/-! ### Sessions that were given out -/

/-- The number of a handle was given out, to a session of the scope that the handle names. -/
structure Known (manager : Manager σ) (handle : Handle) : Prop where
  issued : handle.id ≤ manager.last
  own : ∀ scope entry, manager.entry? scope = some entry → entry.handle.id = handle.id →
    scope = handle.scope

/-- What an operation leaves in the table was there before, or is the session that it created. -/
theorem perform_origin (numbered : manager.Numbered) (transport : Transport σ)
    (operation : HostOperation) {scope : Scope} {entry : Entry}
    (found : entry? (manager.perform transport operation) scope = some entry) :
    (∃ before, manager.entry? scope = some before ∧ before.handle = entry.handle) ∨
      entry.handle = manager.nextHandle scope := by
  have marked : ∀ (handle : Handle) (progress : Progress),
      entry? (manager.setProgress handle.scope progress) scope = some entry →
        ∃ before, manager.entry? scope = some before ∧ before.handle = entry.handle := by
    intro handle progress found
    rw [entry?_setProgress] at found
    by_cases same : scope = handle.scope
    · rw [if_pos same, Option.map_eq_some_iff] at found
      rcases found with ⟨before, beforeFound, rfl⟩
      exact ⟨before, same ▸ beforeFound, rfl⟩
    · rw [if_neg same] at found
      exact ⟨entry, found, rfl⟩
  rcases operation with (started | _ | closed) | handle | ⟨handle, cause⟩
  · rw [perform] at found
    rcases manager.ensureStarted_cases transport started with
      ⟨live, liveFound, isLive, reused⟩ | ⟨idle, answer, state, events, called, begun⟩
    · rw [reused] at found
      exact Or.inl ⟨entry, found, rfl⟩
    · rw [begun, entry?_started] at found
      by_cases same : scope = started
      · rw [if_pos same] at found
        cases found
        exact Or.inr (congrArg manager.nextHandle same.symm)
      · rw [if_neg same] at found
        exact Or.inl ⟨entry, found, rfl⟩
  · rw [perform, entry?_poll numbered, Option.map_eq_some_iff] at found
    rcases found with ⟨before, beforeFound, rfl⟩
    exact Or.inl ⟨before, beforeFound, (Entry.handle_settledBy _ _).symm⟩
  · rw [perform, entry?_closeScope] at found
    split at found
    · cases found
    · exact Or.inl ⟨entry, found, rfl⟩
  · rw [perform] at found
    rcases manager.markRunning_cases handle with ⟨_, done⟩ | ⟨error, _, done⟩
    · rw [done] at found
      exact Or.inl (marked handle .running found)
    · rw [done] at found
      exact Or.inl ⟨entry, found, rfl⟩
  · rw [perform] at found
    rcases manager.markFailed_cases handle cause with ⟨_, done⟩ | ⟨error, _, done⟩
    · rw [done] at found
      exact Or.inl (marked handle .failed found)
    · rw [done] at found
      exact Or.inl ⟨entry, found, rfl⟩

theorem last_le_perform (transport : Transport σ) (operation : HostOperation) :
    manager.last ≤ (manager.perform transport operation).last := by
  rcases operation with (scope | _ | scope) | marked | ⟨marked, cause⟩
  · rw [perform]
    rcases manager.ensureStarted_cases transport scope with
      ⟨entry, found, live, reused⟩ | ⟨idle, answer, state, events, called, begun⟩
    · rw [reused]
      exact Nat.le_refl _
    · rw [begun, started_last]
      exact Nat.le_succ _
  · exact Nat.le_of_eq (manager.poll_sameBesidesTable transport).last.symm
  · exact Nat.le_of_eq (closeScope_last transport manager scope).symm
  · exact Nat.le_of_eq (manager.markRunning_sameBesidesTable marked).last.symm
  · exact Nat.le_of_eq (manager.markFailed_sameBesidesTable marked cause).last.symm

theorem Known.perform (numbered : manager.Numbered) {handle : Handle} (known : manager.Known handle)
    (transport : Transport σ) (operation : HostOperation) :
    (manager.perform transport operation).Known handle := by
  refine ⟨Nat.le_trans known.issued (last_le_perform transport operation), ?_⟩
  intro scope entry found sameId
  rcases perform_origin numbered transport operation found with ⟨before, beforeFound, sameHandle⟩ |
    created
  · exact known.own scope before beforeFound (by rw [sameHandle, sameId])
  · have issued := known.issued
    rw [← sameId, created] at issued
    exact absurd issued (Nat.not_succ_le_self _)

theorem Known.performAll (numbered : manager.Numbered) {handle : Handle}
    (known : manager.Known handle) (transport : Transport σ) (operations : List HostOperation) :
    (manager.performAll transport operations).Known handle := by
  induction operations generalizing manager with
  | nil => exact known
  | cons operation rest ih =>
      exact ih (numbered.perform transport operation) (known.perform numbered transport operation)

/-- The session that a start creates is known and has the progress that the answer gives it. -/
theorem Known.created (numbered : manager.Numbered) (transport : Transport σ) {scope : Scope}
    (idle : manager.session? scope = none) :
    (manager.perform transport (.own (.ensure scope))).Known (manager.nextHandle scope) ∧
      ∃ progress, stateOf (manager.perform transport (.own (.ensure scope)))
        (manager.nextHandle scope) = .bound progress := by
  rw [Manager.perform]
  rcases ensureStarted_of_idle transport idle with ⟨answer, state, events, _, begun⟩
  have current : entry? (manager.started scope answer state events).2 scope =
      some ⟨manager.nextHandle scope, .ofAnswer answer⟩ :=
    (entry?_started ..).trans (if_pos rfl)
  rw [begun]
  refine ⟨⟨?_, ?_⟩, .ofAnswer answer, stateOf_eq_bound_iff.mpr ⟨_, current, rfl, rfl⟩⟩
  · rw [started_last]
    exact Nat.le_refl _
  · intro other entry found sameId
    exact (numbered.started scope answer state events).apart found current sameId

/-! ### Sessions that ended -/

/-- A session that ended is bound to no scope. -/
theorem Known.unbound {handle : Handle} (known : manager.Known handle)
    (ended : manager.stateOf handle = .terminated) {scope : Scope} {entry : Entry}
    (found : manager.entry? scope = some entry) : entry.handle.id ≠ handle.id := by
  intro sameId
  have same := known.own scope entry found sameId
  subst same
  exact stateOf_eq_terminated_iff.mp ended entry found sameId

theorem awaited_of_terminated {handle : Handle} (ended : manager.stateOf handle = .terminated)
    (requested : Progress) :
    manager.awaited handle requested = .error (.stale handle.scope handle.id) := by
  cases found : manager.entry? handle.scope with
  | none => simp [awaited, found]
  | some entry =>
      have other := stateOf_eq_terminated_iff.mp ended entry found
      simp [awaited, found, other]

/-- How a completion is taken depends on the table of sessions and the launch alone. -/
theorem settle_congr {first second : Manager σ} (sessions : first.sessions = second.sessions)
    (launch : first.launch = second.launch) (completion : Completion) :
    (first.settle completion).1 = (second.settle completion).1 ∧
      (first.settle completion).2.sessions = (second.settle completion).2.sessions := by
  have sameHandle : first.handleOf? completion.session = second.handleOf? completion.session := by
    rw [handleOf?, handleOf?, sessions]
  have sameAwaited : ∀ handle requested,
      first.awaited handle requested = second.awaited handle requested := by
    intro handle requested
    rw [awaited, awaited, entry?, entry?, sessions]
  unfold settle
  rw [sameHandle]
  cases second.handleOf? completion.session with
  | none => exact ⟨rfl, sessions⟩
  | some handle =>
      cases completion.result with
      | ok _ =>
          simp only [markRunning, sameAwaited]
          cases second.awaited handle .running with
          | error error => exact ⟨rfl, sessions⟩
          | ok _ => exact ⟨rfl, by simp only [note, noteAll, setProgress, sessions]⟩
      | error cause =>
          simp only [markFailed, sameAwaited, launch]
          cases second.awaited handle .failed with
          | error error => exact ⟨rfl, sessions⟩
          | ok _ => exact ⟨rfl, by simp only [note, noteAll, setProgress, sessions]⟩

/-- Completions for a session that is bound to no scope might as well not have been reported. -/
theorem settleAll_filter {first second : Manager σ} (numbered : first.Numbered)
    (sessions : first.sessions = second.sessions) (launch : first.launch = second.launch)
    {session : SessionId}
    (unbound : ∀ scope entry, first.entry? scope = some entry → entry.handle.id ≠ session)
    (completions : List Completion) :
    let kept := completions.filter fun completion => completion.session ≠ session
    (first.settleAll completions).1 = (second.settleAll kept).1 ∧
      (first.settleAll completions).2.sessions = (second.settleAll kept).2.sessions := by
  induction completions generalizing first second with
  | nil => exact ⟨rfl, sessions⟩
  | cons completion rest ih =>
      have numberedNext := numbered.settle completion
      have unboundNext : ∀ scope entry, entry? (first.settle completion).2 scope = some entry →
          entry.handle.id ≠ session := by
        intro scope entry found
        rw [entry?_settle numbered, Option.map_eq_some_iff] at found
        rcases found with ⟨before, beforeFound, rfl⟩
        rw [Entry.handle_settledBy]
        exact unbound scope before beforeFound
      have launchNext := (settle_sameBesidesTable first completion).launch
      by_cases same : completion.session = session
      · -- The completion is dropped: it yields no result and changes no session.
        have dropped : first.settle completion =
            (none, first.note (.completionDropped completion.session)) :=
          settle_of_unbound (same ▸ unbound)
        have sessionsNext : (first.settle completion).2.sessions = second.sessions := by
          rw [dropped]
          exact sessions
        have later := ih numberedNext sessionsNext (launchNext.trans launch) unboundNext
        simp only [settleAll, dropped, List.filter_cons, same, ne_eq, not_true_eq_false,
          decide_false, Bool.false_eq_true, ↓reduceIte, Option.toList_none, List.nil_append]
          at later ⊢
        exact later
      · rcases settle_congr sessions launch completion with ⟨sameResult, sameSessions⟩
        have later := ih numberedNext sameSessions
          ((launchNext.trans launch).trans (settle_sameBesidesTable second completion).launch.symm)
          unboundNext
        simp only [settleAll, List.filter_cons, same, ne_eq, not_false_eq_true, decide_true,
          ↓reduceIte, sameResult]
        exact ⟨congrArg _ later.1, later.2⟩

/-! ### Runs -/

/-- The states of the session that a handle names, as they are after each operation of a run. -/
def observed (transport : Transport σ) (manager : Manager σ) (handle : Handle) :
    List HostOperation → List State
  | [] => []
  | operation :: rest =>
    stateOf (manager.perform transport operation) handle ::
      observed transport (manager.perform transport operation) handle rest

/-- Along a run the states of a session that was given out only move forward. -/
theorem observed_reaches (numbered : manager.Numbered) {handle : Handle}
    (known : manager.Known handle) (transport : Transport σ) (operations : List HostOperation) :
    (manager.stateOf handle :: observed transport manager handle operations).Pairwise
      State.Reaches := by
  induction operations generalizing manager with
  | nil => simp [observed]
  | cons operation rest ih =>
      have later := ih (numbered.perform transport operation)
        (known.perform numbered transport operation)
      have next := (perform_move numbered known.issued transport operation).reaches
      rw [observed, List.pairwise_cons]
      refine ⟨?_, later⟩
      intro state stateMem
      rcases List.mem_cons.mp stateMem with rfl | laterMem
      · exact next
      · exact next.trans (List.rel_of_pairwise_cons later laterMem)

theorem state_ne_terminated (manager : Manager σ) (scope : Scope) :
    manager.state scope ≠ .terminated := by
  unfold state
  split <;> simp

/-- A scope has a session to hand out exactly while its session is starting or running. -/
theorem session?_isSome_iff {scope : Scope} :
    (∃ handle, manager.session? scope = some handle) ↔
      manager.state scope = .bound .starting ∨ manager.state scope = .bound .running := by
  cases found : manager.entry? scope with
  | none => simp [session?, state, found]
  | some entry =>
      cases progress : entry.progress <;> simp [session?, state, found, progress, Progress.isLive]

theorem Numbered.stateOf_session (numbered : manager.Numbered) {scope : Scope} {handle : Handle}
    (current : manager.session? scope = some handle) :
    manager.stateOf handle = manager.state scope := by
  rcases session?_eq_some_iff.mp current with ⟨entry, found, _, rfl⟩
  have named := numbered.named found
  simp [stateOf, state, named, found]

theorem performAll_append (transport : Transport σ) (manager : Manager σ)
    (first second : List HostOperation) :
    manager.performAll transport (first ++ second) =
      (manager.performAll transport first).performAll transport second :=
  List.foldl_append

/--
In any run, the states observed of a session only move forward: it starts, then it runs or fails,
and at last it is terminated for good, which happens only when its scope is closed or when it
failed and is replaced. A mark for a terminated session is refused as stale and a completion for it
makes no difference, whatever sessions its scope has had since. The state of a scope is that of the
session it has to hand out, if any.
-/
theorem session_only_advances (transport : Transport σ) (launch : LaunchSpecification)
    (capabilities : Capability.Declaration) (state : σ) :
    let after := (Manager.fresh launch capabilities state).performAll transport
    (∀ earlier scope later, (after earlier).session? scope = none →
      let handle := (after earlier).nextHandle scope
      let creating : HostOperation := .own (.ensure scope)
      let states := observed transport (after earlier) handle (creating :: later)
      let manager := after (earlier ++ creating :: later)
      (∃ progress, states.head? = some (.bound progress)) ∧
        states.Pairwise State.Reaches ∧
        (∀ operation, manager.stateOf handle ≠ .terminated →
          stateOf (manager.perform transport operation) handle = .terminated →
            operation = .own (.close scope) ∨
              operation = .own (.ensure scope) ∧ manager.stateOf handle = .bound .failed) ∧
        (manager.stateOf handle = .terminated →
          manager.markRunning handle = (.error (.stale scope handle.id), manager) ∧
          (∀ cause, manager.markFailed handle cause = (.stale scope handle.id, manager)) ∧
          let (completions, next, events) := transport.poll manager.transport
          let others := completions.filter fun completion => completion.session ≠ handle.id
          let without := (manager.afterCall next events).settleAll others
          (manager.poll transport).1 = without.1 ∧
            (manager.poll transport).2.sessions = without.2.sessions)) ∧
      ∀ operations scope,
        (after operations).state scope ≠ .terminated ∧
          ((∃ handle, (after operations).session? scope = some handle) ↔
            (after operations).state scope = .bound .starting ∨
              (after operations).state scope = .bound .running) ∧
          ∀ handle, (after operations).session? scope = some handle →
            (after operations).stateOf handle = (after operations).state scope := by
  intro after
  have numbered : ∀ operations, (after operations).Numbered :=
    (Numbered.fresh launch capabilities state).performAll transport
  refine ⟨?_, ?_⟩
  · intro earlier scope later idle handle creating states manager
    rcases Known.created (numbered earlier) transport idle with ⟨known, progress, born⟩
    have run : manager =
        ((after earlier).perform transport creating).performAll transport later :=
      performAll_append transport _ earlier (creating :: later)
    have numberedNow : manager.Numbered := numbered _
    have numberedBorn := (numbered earlier).perform transport creating
    have knownNow : manager.Known handle := by
      rw [run]
      exact known.performAll numberedBorn transport later
    refine ⟨⟨progress, congrArg some born⟩, observed_reaches numberedBorn known transport later,
      ?_, ?_⟩
    · intro operation alive ended
      have move := perform_move numberedNow knownNow.issued transport operation
      rw [ended] at move
      exact move.of_terminated alive
    · intro ended
      refine ⟨?_, ?_, ?_⟩
      · rw [markRunning, awaited_of_terminated ended]
        rfl
      · intro cause
        rw [markFailed, awaited_of_terminated ended]
        rfl
      · exact settleAll_filter (numberedNow.afterCall _ _) rfl rfl
          (fun other entry found => knownNow.unbound ended found) _
  · intro operations scope
    exact ⟨state_ne_terminated _ scope, session?_isSome_iff,
      fun handle current => (numbered operations).stateOf_session current⟩

/-- A session that fails is terminated when its scope is started again, and stays so when the host
says late that it runs. -/
example :
    let script : Transport.Script := { otherwise := .ok .pending }
    let first : Handle := ⟨1, "workspace", default⟩
    observed (.scripted true) (Manager.fresh default default script) first
      [.own (.ensure "workspace"), .markFailed first ⟨"handshake timed out", .wordings []⟩,
        .own (.ensure "workspace"), .markRunning first] =
      [.bound .starting, .bound .failed, .terminated, .terminated] := by
  decide

end Manager

end EditorSession
