import EditorSession.Proofs.Backend.Slots
import EditorSession.Proofs.Integration.Returning
import EditorSession.Proofs.Session.Awaited

/-!
# The manager and its pool

A manager over a pool of backends keeps a table of sessions, and the pool keeps slots of its own.
They hear of each other through the answers to calls only. `Manager.Mirrored` says that they
agree: the slot of a session is what its entry in the table stands for, and every slot belongs to
an entry. All operations that lose no process keep it, whatever the host of the pool answers. (One
that does leaves a session without a slot that is starting, as its start unwound.)

The agreement is also what makes the calls fit: a poll reports only sessions that are starting, so
its completions are awaited, and a session that is about to be started has no slot.
-/

namespace EditorSession

open Backend (Pool Host Slot stalledHost stalledHost_tells)
open Session (Handle Entry Progress State Operation)

/-! ### Calls that return -/

namespace Backend.Pool

variable {ω : Type} {host : Host ω} {before after : Pool ω}

/-- A call that returns loses no process. -/
theorem kept_of_returns (returns : (unwinding host).Returns before after) :
    after.lost = before.lost ∧ after.patience = before.patience := by
  cases returns with
  | silent => exact ⟨rfl, rfl⟩
  | @started request _ _ _ _ called =>
      change before.tryStart host request = _ at called
      have patience := before.tryStart_patience host request
      rcases before.tryStart_lost host request with ⟨-, kept⟩ | ⟨unwound, -⟩
      · rw [called] at kept patience
        exact ⟨kept, patience⟩
      · rw [called] at unwound
        cases unwound
  | polled called =>
      have polled : (before.poll host).2.1 = after := congrArg (fun result => result.2.1) called
      rw [← polled]
      exact ⟨before.poll_lost host, before.poll_patience host⟩
  | @stopped session _ _ _ called =>
      change before.tryStop host session = _ at called
      have patience := before.tryStop_patience host session
      rcases before.tryStop_lost host session with ⟨-, kept⟩ | ⟨unwound, -⟩
      · rw [called] at kept patience
        exact ⟨kept, patience⟩
      · rw [called] at unwound
        cases unwound

/-- A call unwinds only if the clock cannot tell a deadline. -/
theorem untold_of_unwinds (unwinds : (unwinding host).Unwinds before after) :
    ¬(host.Tells before.patience ∧ host.Tells grace) := by
  rintro ⟨patience, graceful⟩
  cases unwinds with
  | @started request _ _ _ called =>
      change before.tryStart host request = _ at called
      rcases before.tryStart_lost host request with ⟨returned, -⟩ | ⟨-, untold, -⟩
      · rw [called] at returned
        exact returned rfl
      · exact untold patience
  | polled called => cases called
  | @stopped session _ _ _ called =>
      change before.tryStop host session = _ at called
      rcases before.tryStop_lost host session with ⟨returned, -⟩ | ⟨-, untold, -⟩
      · rw [called] at returned
        exact returned rfl
      · exact untold graceful

end Backend.Pool

namespace Manager

variable {ω : Type} {manager : Manager (Pool ω)}

/-- The table of sessions and the slots of the pool agree. -/
structure Mirrored (manager : Manager (Pool ω)) : Prop where
  numbered : manager.Numbered
  backed : ∀ {scope entry}, manager.entry? scope = some entry →
    manager.transport.progress? entry.handle.id = entry.progress.live?
  owned : ∀ {session}, manager.transport.progress? session ≠ none →
    ∃ scope entry, manager.entry? scope = some entry ∧ entry.handle.id = session

theorem Mirrored.fresh (launch : LaunchSpecification) (capabilities : Capability.Declaration)
    (world : ω) (patience : Nat) :
    (Manager.fresh launch capabilities ({ world, patience } : Pool ω)).Mirrored where
  numbered := .fresh launch capabilities _
  backed found := by simp [Manager.fresh, entry?] at found
  owned present := by simp [Manager.fresh, Pool.progress?] at present

theorem Mirrored.of_same {after : Manager (Pool ω)} (mirrored : manager.Mirrored)
    (last : after.last = manager.last) (transport : after.transport = manager.transport)
    (same : ∀ scope, after.entry? scope = manager.entry? scope) : after.Mirrored where
  numbered := mirrored.numbered.of_same last same
  backed found := by
    rw [same] at found
    rw [transport]
    exact mirrored.backed found
  owned present := by
    rw [transport] at present
    rcases mirrored.owned present with ⟨scope, entry, found, sameId⟩
    exact ⟨scope, entry, (same scope).trans found, sameId⟩

/-- A session has a slot exactly if it is live, and the slot stands for its progress. -/
theorem Mirrored.progress?_eq_some_iff (mirrored : manager.Mirrored) {session : SessionId}
    {progress : Progress} :
    manager.transport.progress? session = some progress ↔
      progress.isLive = true ∧ ∃ scope entry, manager.entry? scope = some entry ∧
        entry.handle.id = session ∧ entry.progress = progress := by
  constructor
  · intro present
    rcases mirrored.owned (by rw [present]; simp) with ⟨scope, entry, found, rfl⟩
    rw [mirrored.backed found, Progress.live?] at present
    by_cases live : entry.progress.isLive = true
    · rw [if_pos live] at present
      cases present
      exact ⟨live, scope, entry, found, rfl, rfl⟩
    · rw [if_neg live] at present
      cases present
  · rintro ⟨live, scope, entry, found, rfl, rfl⟩
    rw [mirrored.backed found, Progress.live?, if_pos live]

theorem Mirrored.progress?_eq_none_iff (mirrored : manager.Mirrored) {session : SessionId} :
    manager.transport.progress? session = none ↔
      ∀ scope entry, manager.entry? scope = some entry → entry.handle.id = session →
        entry.progress = .failed := by
  constructor
  · rintro absent scope entry found rfl
    rw [mirrored.backed found, Progress.live?] at absent
    by_contra live
    rw [if_pos (Progress.isLive_iff_ne_failed.mpr live)] at absent
    cases absent
  · intro failed
    by_contra present
    rcases mirrored.owned present with ⟨scope, entry, found, rfl⟩
    apply present
    rw [mirrored.backed found, failed scope entry found rfl]
    rfl

/-- No slot is kept for a session that was not started yet. -/
theorem Mirrored.progress?_above (mirrored : manager.Mirrored) {session : SessionId}
    (above : manager.last < session) : manager.transport.progress? session = none := by
  rw [mirrored.progress?_eq_none_iff]
  rintro scope entry found rfl
  exact absurd (mirrored.numbered.issued found) (Nat.not_le_of_lt above)

/-! ### Operations -/

section Started

variable {host : Host ω} {scope : Scope} {answer : Except Backend.Error StartOutcome}
  {pool : Pool ω} {events : List Backend.Event}

theorem Mirrored.started (mirrored : manager.Mirrored) (idle : manager.session? scope = none)
    (called : (Pool.transport host).start (manager.nextRequest scope) manager.transport =
      (answer, pool, events)) (kept : pool.lost = manager.transport.lost) :
    (manager.started scope answer pool events).2.Mirrored := by
  have answered : (manager.transport.start host (manager.nextRequest scope)).1 = answer :=
    congrArg Prod.fst called
  have left : (manager.transport.start host (manager.nextRequest scope)).2.1 = pool :=
    congrArg (fun result => result.2.1) called
  -- Whether it is refused or not, the slot of the new session is what its entry stands for.
  have progress : ∀ session, pool.progress? session =
      if session = manager.last + 1 then (Progress.ofAnswer answer).live?
      else manager.transport.progress? session := by
    intro session
    rw [← left, ← answered]
    rw [← left] at kept
    rcases manager.transport.start_cases host (manager.nextRequest scope) kept with
      ⟨cause, refused, unfilled⟩ | ⟨accepted, filled⟩
    · rw [refused, unfilled]
      by_cases new : session = manager.last + 1
      · rw [if_pos new, new]
        exact mirrored.progress?_above (Nat.lt_succ_self _)
      · rw [if_neg new]
    · rw [accepted]
      exact filled session
  refine ⟨mirrored.numbered.started scope answer pool events, ?_, ?_⟩
  · intro other entry found
    rw [entry?_started] at found
    rw [started_transport, progress]
    split at found
    · cases found
      exact if_pos rfl
    · have apart : entry.handle.id ≠ manager.last + 1 := by
        intro sameId
        exact Nat.not_succ_le_self _ (sameId ▸ mirrored.numbered.issued found)
      rw [if_neg apart, mirrored.backed found]
  · intro session present
    rw [started_transport, progress] at present
    simp only [entry?_started]
    by_cases new : session = manager.last + 1
    · exact ⟨scope, _, if_pos rfl, new.symm⟩
    · rw [if_neg new] at present
      rcases mirrored.owned present with ⟨other, entry, found, rfl⟩
      have apart : other ≠ scope := by
        rintro rfl
        rw [mirrored.backed found, session?_eq_none_iff.mp idle entry found] at present
        exact present rfl
      exact ⟨other, entry, (if_neg apart).trans found, rfl⟩

end Started

/-- The pool that a poll leaves has settled the completions that the poll reports. -/
theorem poll_settles (host : Host ω) (manager : Manager (Pool ω)) :
    manager.transport.Settles (manager.transport.poll host).1
      (manager.poll (Pool.transport host)).2.transport := by
  rw [(manager.poll_sameBesidesTable (Pool.transport host)).transport]
  exact manager.transport.poll_settles host

theorem Mirrored.poll (mirrored : manager.Mirrored) (host : Host ω) :
    (manager.poll (Pool.transport host)).2.Mirrored := by
  have settles := manager.poll_settles host
  have entries := entry?_poll mirrored.numbered (Pool.transport host)
  refine ⟨mirrored.numbered.poll _, ?_, ?_⟩
  · intro scope entry found
    rw [entries, Option.map_eq_some_iff] at found
    rcases found with ⟨entry, found, rfl⟩
    rw [Entry.handle_settledBy]
    by_cases reported : ∃ completion ∈ (manager.transport.poll host).1,
        completion.session = entry.handle.id
    · rcases reported with ⟨completion, completionMem, own⟩
      have starting : entry.progress = .starting := by
        have pending := settles.pending completion completionMem
        rw [own, mirrored.backed found, Progress.live?] at pending
        split at pending
        · exact Option.some.inj pending
        · cases pending
      have settled := Entry.settledBy_of_mem settles.distinct completionMem starting own
      rw [← own, settles.settled completion completionMem]
      exact congrArg (fun entry => entry.progress.live?) settled.symm
    · simp only [not_exists, not_and] at reported
      rw [settles.kept _ reported, mirrored.backed found]
      exact congrArg (fun entry => entry.progress.live?)
        (Entry.settledBy_of_absent reported).symm
  · intro session present
    have presentBefore : manager.transport.progress? session ≠ none := by
      by_cases reported : ∃ completion ∈ (manager.transport.poll host).1,
          completion.session = session
      · rcases reported with ⟨completion, completionMem, rfl⟩
        rw [settles.pending completion completionMem]
        simp
      · simp only [not_exists, not_and] at reported
        rwa [← settles.kept session reported]
    rcases mirrored.owned presentBefore with ⟨scope, entry, found, rfl⟩
    refine ⟨scope, entry.settledBy (manager.transport.poll host).1, ?_, ?_⟩
    · exact (entries scope).trans (by rw [found]; rfl)
    · rw [Entry.handle_settledBy]

theorem Mirrored.closeScope (mirrored : manager.Mirrored) (host : Host ω) (scope : Scope) :
    (manager.closeScope (Pool.transport host) scope).2.Mirrored := by
  have entries := manager.entry?_closeScope (Pool.transport host) scope
  have last := manager.closeScope_last (Pool.transport host) scope
  -- The slot of a session that is closed is emptied, or was not there as the session had failed.
  have progress : ∀ session,
      (manager.closeScope (Pool.transport host) scope).2.transport.progress? session =
        if (∃ entry, manager.entry? scope = some entry ∧ entry.handle.id = session) then none
        else manager.transport.progress? session := by
    intro session
    rcases manager.closeScope_cases (Pool.transport host) scope with ⟨absent, closed⟩ |
      ⟨entry, found, ⟨live, pool, events, called, closed⟩ | ⟨failed, closed⟩⟩
    · rw [closed]
      simp [absent]
    · have left : (manager.transport.stop host entry.handle.id).1 = pool :=
        congrArg Prod.fst called
      rw [closed]
      show pool.progress? session = _
      rw [← left, Pool.progress?_stop]
      simp [found, eq_comm]
    · rw [closed]
      show manager.transport.progress? session = _
      by_cases own : ∃ entry, manager.entry? scope = some entry ∧ entry.handle.id = session
      · rw [if_pos own]
        rcases own with ⟨other, otherFound, rfl⟩
        rw [mirrored.backed otherFound, ← entry?_unique found otherFound, failed]
        rfl
      · rw [if_neg own]
  refine ⟨mirrored.numbered.of_remove scope last entries, ?_, ?_⟩
  · intro other entry found
    rw [entries] at found
    by_cases otherScope : other = scope
    · rw [if_pos otherScope] at found
      cases found
    · rw [if_neg otherScope] at found
      rw [progress, if_neg, mirrored.backed found]
      rintro ⟨closed, closedFound, sameId⟩
      exact otherScope (mirrored.numbered.apart found closedFound sameId.symm)
  · intro session present
    rw [progress] at present
    by_cases closed : ∃ entry, manager.entry? scope = some entry ∧ entry.handle.id = session
    · rw [if_pos closed] at present
      exact absurd rfl present
    · rw [if_neg closed] at present
      rcases mirrored.owned present with ⟨other, entry, found, rfl⟩
      have otherScope : other ≠ scope := by
        rintro rfl
        exact closed ⟨entry, found, rfl⟩
      exact ⟨other, entry, by rw [entries, if_neg otherScope, found], rfl⟩

/-- Every operation of an integration keeps the agreement if it loses no process. -/
theorem Mirrored.perform (mirrored : manager.Mirrored) (host : Host ω) (operation : Operation)
    (kept : (manager.perform (Pool.transport host) (.own operation)).transport.lost =
      manager.transport.lost) :
    (manager.perform (Pool.transport host) (.own operation)).Mirrored := by
  cases operation with
  | ensure scope =>
      change (manager.ensureStarted (Pool.transport host) scope).2.transport.lost = _ at kept
      show (manager.ensureStarted (Pool.transport host) scope).2.Mirrored
      rcases manager.ensureStarted_cases (Pool.transport host) scope with
        ⟨entry, found, live, reused⟩ | ⟨idle, answer, pool, events, called, begun⟩
      · exact reused ▸ mirrored.of_same rfl rfl fun _ => rfl
      · rw [begun, started_transport] at kept
        exact begun ▸ mirrored.started idle called kept
  | poll => exact mirrored.poll host
  | close scope => exact mirrored.closeScope host scope

/-! ### Counting -/

/-- Sessions of a live progress are as many as the slots that stand for it. -/
theorem Mirrored.countP_eq (mirrored : manager.Mirrored) {progress : Progress}
    (live : progress.isLive = true) :
    (manager.sessions.values.countP fun entry => entry.progress = progress) =
      manager.transport.slots.values.countP fun slot => slot.progress = progress := by
  apply Keyed.countP_values_eq fun entry => entry.handle.id
  · intro scope other entry entry' found found' sameId
    exact mirrored.numbered.apart found found' sameId
  · intro session
    have agree : manager.transport.progress? session = some progress ↔ progress.isLive = true ∧
        ∃ scope entry, manager.entry? scope = some entry ∧ entry.handle.id = session ∧
          entry.progress = progress := mirrored.progress?_eq_some_iff
    simp only [Pool.progress?, Option.map_eq_some_iff, live, true_and] at agree
    simp only [decide_eq_true_eq]
    exact agree.symm

/-! ### What a poll reports -/

/-- The completions of a poll are awaited. -/
theorem Mirrored.awaits (mirrored : manager.Mirrored) (host : Host ω) :
    manager.Awaits (manager.transport.poll host).1 := by
  have settles := manager.poll_settles host
  refine ⟨settles.distinct, ?_⟩
  intro completion completionMem
  have pending := settles.pending completion completionMem
  rcases mirrored.progress?_eq_some_iff.mp pending with ⟨_, scope, entry, found, sameId, starting⟩
  exact ⟨scope, entry, found, sameId, starting⟩

theorem Mirrored.dropsNothing_perform (mirrored : manager.Mirrored)
    (dropsNothing : manager.DropsNothing) (host : Host ω) (operation : Operation) :
    (manager.perform (Pool.transport host) (.own operation)).DropsNothing := by
  cases operation with
  | ensure scope =>
      show (manager.ensureStarted (Pool.transport host) scope).2.DropsNothing
      rcases manager.ensureStarted_cases (Pool.transport host) scope with
        ⟨entry, found, live, reused⟩ | ⟨idle, answer, pool, events, called, begun⟩
      · exact reused ▸ dropsNothing.note (by simp)
      · exact begun ▸ dropsNothing.started scope answer pool events
  | poll =>
      have awaits := mirrored.awaits host
      have asked := dropsNothing.afterCall (manager.transport.poll host).2.1
        (manager.transport.poll host).2.2
      exact (Awaits.settleAll (mirrored.numbered.afterCall _ _)
        ⟨awaits.distinct, awaits.starting⟩).2 asked
  | close scope => exact dropsNothing.closeScope (Pool.transport host) scope

/-- A handshake ended, and the poll yields the session that runs now or the failure of its start. -/
def Reported (before : Manager (Pool ω)) (after : Pool ω) (session : SessionId)
    (result : Except Session.Error Handle) : Prop :=
  ∃ scope entry, before.entry? scope = some entry ∧ entry.handle.id = session ∧
    ((result = .ok entry.handle ∧
        ∃ child channel, after.slots.get? session = some (.ready child channel)) ∨
      ∃ cause, result = .error (.startFailed before.launch.integration scope
          before.launch.executable cause) ∧ after.slots.get? session = none)

/-- A poll yields one result for each handshake that ended. -/
theorem Mirrored.poll_reported (mirrored : manager.Mirrored) (host : Host ω) :
    let after := (manager.poll (Pool.transport host)).2.transport
    ∃ settled : List SessionId, settled.Nodup ∧
      (∀ session, session ∈ settled ↔ manager.transport.progress? session = some .starting ∧
        after.progress? session ≠ some .starting) ∧
      List.Forall₂ (manager.Reported after) settled (manager.poll (Pool.transport host)).1 := by
  intro after
  have settles := manager.poll_settles host
  have awaits := mirrored.awaits host
  have reports := (Awaits.settleAll (mirrored.numbered.afterCall
    (manager.transport.poll host).2.1 (manager.transport.poll host).2.2)
    ⟨awaits.distinct, awaits.starting⟩).1
  refine ⟨(manager.transport.poll host).1.map Completion.session, settles.distinct, ?_, ?_⟩
  · intro session
    rw [List.mem_map]
    constructor
    · rintro ⟨completion, completionMem, rfl⟩
      refine ⟨settles.pending completion completionMem, ?_⟩
      rw [settles.settled completion completionMem]
      cases completion.result <;> simp [Progress.ofResult, Progress.live?, Progress.isLive]
    · rintro ⟨starting, ended⟩
      by_contra unreported
      simp only [not_exists, not_and] at unreported
      exact ended ((settles.kept session unreported).trans starting)
  · rw [List.forall₂_map_left_iff]
    refine ((List.forall₂_and_left _ _).mpr ⟨settles.settled, reports⟩).imp ?_
    rintro completion result ⟨progress, scope, entry, found, sameId, rfl⟩
    refine ⟨scope, entry, found, sameId, ?_⟩
    cases ended : completion.result with
    | ok _ =>
        rw [ended] at progress
        exact Or.inl ⟨rfl, Pool.progress?_eq_running_iff _ |>.mp progress⟩
    | error cause =>
        rw [ended] at progress
        refine Or.inr ⟨cause, ?_, Pool.progress?_eq_none_iff _ |>.mp progress⟩
        rw [Handle.report, mirrored.numbered.named found]
        rfl

end Manager

/-! ### Slots that starts find -/

/-- A state together with the starts that led to it, and the state that each of them found. -/
structure Transport.Watched (σ : Type) where
  inner : σ
  found : List (StartRequest × σ) := []

/-- A transport that notes what its starts find. -/
def Transport.watched {σ : Type} (transport : Transport σ) : Transport (Transport.Watched σ) where
  start request state :=
    let (answer, inner, events) := transport.start request state.inner
    (answer, ⟨inner, state.found ++ [(request, state.inner)]⟩, events)
  poll state :=
    let (completions, inner, events) := transport.poll state.inner
    (completions, ⟨inner, state.found⟩, events)
  stop session state :=
    let (inner, events) := transport.stop session state.inner
    (⟨inner, state.found⟩, events)

theorem Transport.watched_refines {σ : Type} (transport : Transport σ) :
    transport.watched.Refines transport Transport.Watched.inner :=
  ⟨fun _ _ => rfl, fun _ => rfl, fun _ _ => rfl⟩

/-- An operation makes one start at most, which finds the state as it is. -/
theorem Manager.perform_found {σ : Type} (transport : Transport σ)
    (manager : Manager (Transport.Watched σ)) (operation : Operation) :
    (manager.perform transport.watched (.own operation)).transport.found =
        manager.transport.found ∨
      ∃ scope, (manager.perform transport.watched (.own operation)).transport.found =
        manager.transport.found ++ [(manager.nextRequest scope, manager.transport.inner)] := by
  cases operation with
  | ensure scope =>
      rcases manager.ensureStarted_cases transport.watched scope with
        ⟨entry, found, live, reused⟩ | ⟨idle, answer, state, events, called, begun⟩
      · left
        simp only [perform, reused]
        rfl
      · right
        refine ⟨scope, ?_⟩
        simp only [Transport.watched, Prod.mk.injEq] at called
        rcases called with ⟨rfl, rfl, rfl⟩
        simp only [perform, begun, started_transport]
  | poll =>
      left
      exact (congrArg Transport.Watched.found
        (manager.poll_sameBesidesTable transport.watched).transport).trans rfl
  | close scope =>
      left
      rcases manager.closeScope_cases transport.watched scope with ⟨absent, closed⟩ |
        ⟨entry, found, ⟨live, state, events, called, closed⟩ | ⟨failed, closed⟩⟩
      · simp only [perform, closed]
      · simp only [Transport.watched, Prod.mk.injEq] at called
        rcases called with ⟨rfl, rfl⟩
        simp only [perform, closed]
        rfl
      · simp only [perform, closed]
        rfl

/-- The manager and its pool agree, and did whenever a session was started. -/
structure Manager.Agrees {ω : Type} (manager : Manager (Transport.Watched (Pool ω))) : Prop where
  mirrored : (manager.through Transport.Watched.inner).Mirrored
  dropsNothing : (manager.through Transport.Watched.inner).DropsNothing
  free : ∀ request pool, (request, pool) ∈ manager.transport.found →
    pool.slots.get? request.session = none

namespace Manager

variable {ω : Type} {manager : Manager (Transport.Watched (Pool ω))}

theorem Agrees.fresh (launch : LaunchSpecification) (capabilities : Capability.Declaration)
    (world : ω) (patience : Nat) : (Manager.fresh launch capabilities
      (⟨{ world, patience }, []⟩ : Transport.Watched (Pool ω))).Agrees where
  mirrored := .fresh launch capabilities world patience
  dropsNothing session sessionMem := by simp [Manager.fresh, Manager.through] at sessionMem
  free request pool found := by simp [Manager.fresh] at found

theorem Agrees.noteAll (agrees : manager.Agrees) {notes : List Event}
    (harmless : ∀ note ∈ notes, ∀ other, note ≠ .session other) :
    (manager.noteAll notes).Agrees where
  mirrored := agrees.mirrored.of_same rfl rfl fun _ => rfl
  dropsNothing := agrees.dropsNothing.noteAll
    fun _ sessionMem => harmless _ sessionMem _ rfl
  free := agrees.free

theorem Agrees.perform (agrees : manager.Agrees) (host : Host ω) (operation : Operation)
    (kept : (manager.perform (Pool.transport host).watched (.own operation)).transport.inner.lost =
      manager.transport.inner.lost) :
    (manager.perform (Pool.transport host).watched (.own operation)).Agrees := by
  have same := manager.perform_through (Pool.transport host).watched_refines (.own operation)
  refine ⟨?_, ?_, ?_⟩
  · rw [same]
    apply agrees.mirrored.perform host operation
    rw [← same]
    exact kept
  · rw [same]
    exact agrees.mirrored.dropsNothing_perform agrees.dropsNothing host operation
  · intro request pool found
    rcases manager.perform_found (Pool.transport host) operation with kept | ⟨scope, started⟩
    · rw [kept] at found
      exact agrees.free request pool found
    · rw [started, List.mem_append, List.mem_singleton] at found
      rcases found with before | new
      · exact agrees.free request pool before
      · cases new
        exact (Pool.progress?_eq_none_iff _).mp
          (agrees.mirrored.progress?_above (Nat.lt_succ_self _))

end Manager

/-! ### Runs of an integration -/

namespace Integration

variable {ω : Type}

theorem agrees_react (host : Host ω) {integration : Integration (Transport.Watched (Pool ω))}
    (agrees : integration.manager.Agrees) {event : EditorEvent}
    (kept : (react (Pool.transport host).watched integration event).manager.transport.inner.lost =
      integration.manager.transport.inner.lost) :
    (react (Pool.transport host).watched integration event).manager.Agrees := by
  rcases react_manager (Pool.transport host).watched integration event with
    ⟨notes, notes', harmless, silent | ⟨operation, performed⟩⟩
  · rw [silent]
    exact agrees.noteAll fun note noteMem => harmless note (by simp [noteMem])
  · rw [performed] at kept ⊢
    apply Manager.Agrees.noteAll _ fun note noteMem => harmless note (by simp [noteMem])
    apply Manager.Agrees.perform _ host operation kept
    exact agrees.noteAll fun note noteMem => harmless note (by simp [noteMem])

/-- A run in which no event unwinds keeps the agreement. -/
theorem agrees_reactAll (host : Host ω) {shared : Shared (Pool ω)}
    {integration : Integration (Transport.Watched (Pool ω))}
    (same : integration.through Transport.Watched.inner = shared.integration)
    (agrees : integration.manager.Agrees) {events : List EditorEvent}
    (unpoisoned : (shared.reactAll (Pool.unwinding host) events).poisoned = false) :
    (reactAll (Pool.transport host).watched integration events).manager.Agrees := by
  induction events generalizing shared integration with
  | nil => exact agrees
  | cons event rest ih =>
      have next : (shared.react (Pool.unwinding host) event).poisoned = false :=
        Shared.unpoisoned_of_reactAll unpoisoned
      rcases Shared.react_of_unpoisoned next with ⟨returned, returns⟩
      have sameNext : through Transport.Watched.inner
          (react (Pool.transport host).watched integration event) =
            react (Pool.transport host) shared.integration event :=
        same ▸ react_through (Pool.transport host).watched_refines integration event
      refine ih ?_ (agrees_react host agrees ?_) unpoisoned
      · rw [returned]
        exact sameNext
      · have kept : (react (Pool.transport host) shared.integration event).manager.transport.lost =
            shared.integration.manager.transport.lost := (Pool.kept_of_returns returns).1
        have lost := congrArg (·.manager.transport.lost) sameNext
        exact lost.trans (kept.trans (congrArg (·.manager.transport.lost) same).symm)

/-- No event unwinds if the clock can tell all deadlines. -/
theorem unpoisoned_of_tells {host : Host ω} {shared : Shared (Pool ω)}
    (unpoisoned : shared.poisoned = false)
    (patience : host.Tells shared.integration.manager.transport.patience)
    (graceful : host.Tells Pool.grace) (events : List EditorEvent) :
    (shared.reactAll (Pool.unwinding host) events).poisoned = false := by
  induction events generalizing shared with
  | nil => exact unpoisoned
  | cons event rest ih =>
      rcases shared.react_cases (Pool.unwinding host) event with ⟨returned, returns⟩ |
        ⟨-, unwinds⟩
      · apply ih
        · rw [returned]
          exact unpoisoned
        · rw [returned]
          dsimp only
          rw [(Pool.kept_of_returns returns).2]
          exact patience
      · exact absurd ⟨patience, graceful⟩ (Pool.untold_of_unwinds unwinds)

/--
In any run over a pool of backends, on any host, in which no event unwinds, the manager and its pool
agree. A session is starting exactly if its slot holds a handshake and running exactly if its slot
holds a connection, so they count the same, and a session that is neither has no slot. A poll yields
one result for each handshake that it settles, and never an error about the state of a session; no
completion was dropped, and no start found a slot for its session. An event unwinds only if the clock
cannot tell the time at which a handshake, or the grace of a backend that is told to exit, is over.
-/
theorem manager_agrees_with_pool (host : Host ω) (world : ω) (patience : Nat) (gate : Gate)
    (launch : LaunchSpecification) (capabilities : Capability.Declaration)
    (events : List EditorEvent) :
    let pool : Pool ω := { world, patience }
    let run := (Shared.fresh gate launch capabilities pool).reactAll (Pool.unwinding host) events
    let integration := run.integration
    let manager := integration.manager
    let slots := manager.transport.slots
    let polled := integration.pollStarts (Pool.transport host)
    let watched := (fresh gate launch capabilities ⟨pool, []⟩).reactAll
      (Pool.transport host).watched events
    (host.Tells patience → host.Tells Pool.grace → run.poisoned = false) ∧
    (run.poisoned = false →
      (∀ session, (∃ scope entry, manager.entry? scope = some entry ∧ entry.handle.id = session ∧
        entry.progress = .starting) ↔ ∃ integration child deadline,
          slots.get? session = some (.handshaking integration child deadline)) ∧
      (∀ session, (∃ scope entry, manager.entry? scope = some entry ∧
        entry.handle.id = session ∧ entry.progress = .running) ↔
          ∃ child channel, slots.get? session = some (.ready child channel)) ∧
      (∀ session, (∀ scope entry, manager.entry? scope = some entry →
        entry.handle.id = session → entry.progress = .failed) → slots.get? session = none) ∧
      manager.pendingCount = manager.transport.pendingCount ∧
      (manager.sessions.values.countP fun entry => entry.progress = .running) =
        manager.transport.connectionCount ∧
      (∃ settled : List SessionId, settled.Nodup ∧
        (∀ session, session ∈ settled ↔
          (∃ integration child deadline,
            slots.get? session = some (.handshaking integration child deadline)) ∧
          ¬∃ integration child deadline, polled.2.manager.transport.slots.get? session =
            some (.handshaking integration child deadline)) ∧
        List.Forall₂ (manager.Reported polled.2.manager.transport) settled polled.1) ∧
      (∀ session, .session (.completionDropped session) ∉ polled.2.manager.journal) ∧
      watched.through Transport.Watched.inner = integration ∧
      ∀ request found, (request, found) ∈ watched.manager.transport.found →
        found.slots.get? request.session = none) := by
  intro pool run integration manager slots polled watched
  refine ⟨fun tells graceful => unpoisoned_of_tells rfl tells graceful events,
    fun unpoisoned => ?_⟩
  have agrees : watched.manager.Agrees :=
    agrees_reactAll host rfl (.fresh launch capabilities world patience) unpoisoned
  have same : watched.through Transport.Watched.inner = integration :=
    (reactAll_through (Pool.transport host).watched_refines _ events).trans
      (Shared.reactAll_of_unpoisoned unpoisoned).symm
  have mirrored : manager.Mirrored :=
    (congrArg (fun integration => integration.manager.Mirrored) same).mp agrees.mirrored
  have dropsNothing : manager.DropsNothing :=
    (congrArg (fun integration => integration.manager.DropsNothing) same).mp agrees.dropsNothing
  have starting_iff : ∀ session, (∃ scope entry, manager.entry? scope = some entry ∧
      entry.handle.id = session ∧ entry.progress = .starting) ↔
        manager.transport.progress? session = some .starting := by
    intro session
    rw [mirrored.progress?_eq_some_iff]
    simp [Progress.isLive]
  have running_iff : ∀ session, (∃ scope entry, manager.entry? scope = some entry ∧
      entry.handle.id = session ∧ entry.progress = .running) ↔
        manager.transport.progress? session = some .running := by
    intro session
    rw [mirrored.progress?_eq_some_iff]
    simp [Progress.isLive]
  refine ⟨?_, ?_, ?_, ?_, ?_, ?_, ?_, same, agrees.free⟩
  · intro session
    rw [starting_iff, Pool.progress?_eq_starting_iff]
  · intro session
    rw [running_iff, Pool.progress?_eq_running_iff]
  · intro session failed
    exact (Pool.progress?_eq_none_iff _).mp (mirrored.progress?_eq_none_iff.mpr failed)
  · rw [Pool.pendingCount_eq, ← mirrored.countP_eq rfl]
    rfl
  · rw [Pool.connectionCount_eq, mirrored.countP_eq rfl]
  · rcases mirrored.poll_reported host with ⟨settled, distinct, settled_iff, reported⟩
    refine ⟨settled, distinct, ?_, reported⟩
    intro session
    rw [settled_iff, ne_eq, Pool.progress?_eq_starting_iff, Pool.progress?_eq_starting_iff]
    rfl
  · exact mirrored.dropsNothing_perform dropsNothing host .poll

/-- One backend of two is given up while neither has answered: no event unwinds, and one session is
starting, for which there is one handshake. -/
theorem manager_agrees_with_pool_stalled :
    let pool : Pool Nat := { world := 0, patience := 50 }
    let manifest : Document := ⟨Text.Utf8.ofString "pom.xml", none⟩
    let events : List EditorEvent := [.opened "a" manifest, .opened "b" manifest, .closed "a"]
    let run := (Shared.fresh ⟨"xml"⟩ default default pool).reactAll (Pool.unwinding stalledHost) events
    let manager := run.integration.manager
    stalledHost.Tells 50 ∧ stalledHost.Tells Pool.grace ∧ run.poisoned = false ∧
      manager.pendingCount = 1 ∧ manager.transport.pendingCount = 1 := by
  -- The runs are compared as they are written, and none is evaluated but by the kernel.
  dsimp only
  have patient : stalledHost.Tells 50 := stalledHost_tells (by decide)
  have graceful : stalledHost.Tells Pool.grace := stalledHost_tells (by decide)
  have agreed := manager_agrees_with_pool stalledHost 0 50 ⟨"xml"⟩ default default
    [.opened "a" ⟨Text.Utf8.ofString "pom.xml", none⟩,
      .opened "b" ⟨Text.Utf8.ofString "pom.xml", none⟩, .closed "a"]
  dsimp only at agreed
  rcases agreed with ⟨returns, agrees⟩
  have unpoisoned := returns patient graceful
  rcases agrees unpoisoned with ⟨-, -, -, same, -⟩
  refine ⟨patient, graceful, unpoisoned, ?_⟩
  rw [← same, and_self]
  decide +kernel

/-- Where the deadline of a handshake cannot be told, the event unwinds when the process is up, and
the manager and its pool disagree: the session is starting and has no slot. -/
example :
    let pool : Pool Nat := { world := 0, patience := 3001 }
    let run := (Shared.fresh ⟨"xml"⟩ default default pool).reactAll (Pool.unwinding stalledHost)
      [.opened "a" ⟨Text.Utf8.ofString "pom.xml", none⟩]
    let manager := run.integration.manager
    run.poisoned = true ∧ manager.pendingCount = 1 ∧ manager.transport.pendingCount = 0 ∧
      manager.transport.lost = [⟨1, 7⟩] := by
  decide

end Integration

end EditorSession
