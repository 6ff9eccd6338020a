import EditorSession.Backend.Pool
import EditorSession.Proofs.Keyed
import EditorSession.Proofs.Session.Table

/-!
# The slots of a pool

What each call of a pool does to it, whatever the host answers. A start is refused, or fills the slot
of its session, or unwinds (`Pool.tryStart_cases`), a stop empties a slot, and only a call that
unwinds loses a process. `Pool.progress?` is what the slot of a session stands for: a handshake for a
session that is starting, a connection for one that runs. A poll settles some of the slots with a
handshake, each once, and touches no other: `Pool.poll_settles`.
-/

namespace EditorSession

open Session (Progress)

/-- The progress of a session that a backend is kept for. -/
def Session.Progress.live? (progress : Progress) : Option Progress :=
  if progress.isLive then some progress else none

namespace Backend

/-- The progress of the session that a slot belongs to. -/
def Slot.progress : Slot → Progress
  | .handshaking .. => .starting
  | .ready .. => .running

@[simp]
theorem Slot.progress_eq_starting_iff {slot : Slot} :
    slot.progress = .starting ↔ ∃ integration child deadline,
      slot = .handshaking integration child deadline := by
  cases slot <;> simp [Slot.progress]

@[simp]
theorem Slot.progress_eq_running_iff {slot : Slot} :
    slot.progress = .running ↔ ∃ child channel, slot = .ready child channel := by
  cases slot <;> simp [Slot.progress]

/-- The end of a span can be told whenever it begins. -/
def Host.Tells {ω : Type} (host : Host ω) (span : Nat) : Prop :=
  ∀ world, (host.clock world).1 + span ≤ host.horizon

theorem Host.Tells.deadline_ne_none {ω : Type} {host : Host ω} {span : Nat}
    (tells : host.Tells span) (world : ω) : (host.deadline span world).1 ≠ none := by
  simp [Host.deadline, tells world]

/-- A host whose workers never end, and whose clock stops soon enough for the end of every span of two
seconds to be told. -/
def stalledHost : Host Nat where
  clock now := (min now 1000, now)
  horizon := 3000
  spawn _ _ now := (.up 7, now)
  startGreeting _ _ now := (none, now)
  isFinished _ now := (false, now)
  join _ now := (.broken, [], now)
  startDismissal _ _ now := (none, [], now)
  tryWait _ now := (.alive, now)
  kill _ now := (none, now)
  pause now := now + 20

theorem stalledHost_tells {span : Nat} (short : span ≤ 2000) : stalledHost.Tells span := by
  intro now
  have early : min now 1000 ≤ 1000 := Nat.min_le_right now 1000
  simp only [stalledHost]
  omega

namespace Pool

variable {ω : Type} (host : Host ω) (pool : Pool ω)

/-- The progress that the slot of a session stands for. -/
def progress? (session : SessionId) : Option Progress :=
  (pool.slots.get? session).map Slot.progress

theorem progress?_eq_starting_iff {session : SessionId} :
    pool.progress? session = some .starting ↔ ∃ integration child deadline,
      pool.slots.get? session = some (.handshaking integration child deadline) := by
  cases found : pool.slots.get? session <;> simp [progress?, found]

theorem progress?_eq_running_iff {session : SessionId} :
    pool.progress? session = some .running ↔ ∃ child channel,
      pool.slots.get? session = some (.ready child channel) := by
  cases found : pool.slots.get? session <;> simp [progress?, found]

theorem progress?_eq_none_iff {session : SessionId} :
    pool.progress? session = none ↔ pool.slots.get? session = none := by
  cases found : pool.slots.get? session <;> simp [progress?, found]

/-! ### What is done to the world -/

/-- Only the host and the count of processes hear of a process that is spawned. -/
theorem spawn_same (launch : LaunchSpecification) : ∃ world spawned,
    (pool.spawn host launch).2.1 = { pool with world, spawned } := by
  unfold spawn
  dsimp only
  split
  all_goals exact ⟨_, _, rfl⟩

theorem reap_same (now : Nat) (retiring : Retiring) :
    ∃ world, (pool.reap host now retiring).2.1 = { pool with world } := by
  unfold reap
  dsimp only
  split
  · exact ⟨_, rfl⟩
  · split
    all_goals exact ⟨_, rfl⟩
  · split
    all_goals exact ⟨_, rfl⟩

theorem reapEach_same (now : Nat) (retiring : List Retiring) :
    ∃ world, (reapEach host now retiring pool).2.1 = { pool with world } := by
  induction retiring generalizing pool with
  | nil => exact ⟨pool.world, rfl⟩
  | cons first rest ih =>
      rcases pool.reap_same host now first with ⟨world, same⟩
      rcases ih { pool with world } with ⟨later, sameLater⟩
      refine ⟨later, ?_⟩
      rw [← sameLater, ← same]
      rfl

theorem outcome_same (child : Child) :
    ∃ world, (pool.outcome host child).2.1 = { pool with world } := by
  unfold outcome
  dsimp only
  split
  all_goals exact ⟨_, rfl⟩

/-! ### Starting and stopping -/

section Starting

variable (request : StartRequest)

/-- A process that is spawned gets a handshake, or is gone at once, or the call has it in hand when
it unwinds. -/
theorem beginHandshake_cases : ∃ world spawned,
    (∃ failure, (pool.beginHandshake host request).1 = .returned (.error failure) ∧
      (pool.beginHandshake host request).2.1 = { pool with world, spawned }) ∨
    (∃ begun, (pool.beginHandshake host request).1 = .returned (.ok begun) ∧
      (pool.beginHandshake host request).2.1 = { pool with world, spawned }) ∨
    ∃ child greeted, (host.deadline pool.patience greeted).1 = none ∧
      (pool.beginHandshake host request).1 = .unwound ∧
      (pool.beginHandshake host request).2.1 =
        { pool with world, spawned, lost := pool.lost ++ [child] } := by
  rcases pool.spawn_same host request.launch with ⟨spawning, spawned, same⟩
  unfold beginHandshake
  rcases answered : pool.spawn host request.launch with ⟨failure | child, after, events⟩
  · rw [answered] at same
    exact ⟨spawning, spawned, .inl ⟨failure, rfl, same⟩⟩
  · rw [answered] at same
    subst same
    rcases greeting : host.startGreeting child request spawning with ⟨_ | cause, greeted⟩
    · rcases told : host.deadline pool.patience greeted with ⟨_ | deadline, world⟩
      · exact ⟨world, spawned, .inr (.inr ⟨child, greeted, by simp [greeting, told]⟩)⟩
      · exact ⟨world, spawned, .inr (.inl ⟨(child, deadline), by simp [greeting, told]⟩)⟩
    · refine ⟨(host.kill child greeted).2, spawned, .inl ⟨.notStarted "handshake thread" cause, ?_⟩⟩
      simp [greeting, kill]

/-- A start is refused, or fills the slot of the session, or loses a process as it unwinds. -/
theorem tryStart_cases : ∃ world spawned,
    (∃ cause, (pool.tryStart host request).1 = .returned (.error cause) ∧
      (pool.tryStart host request).2.1 = { pool with world, spawned }) ∨
    (∃ integration child deadline, (pool.tryStart host request).1 = .returned (.ok .pending) ∧
      (pool.tryStart host request).2.1 = { pool with
        world, spawned
        slots := pool.slots.put request.session (.handshaking integration child deadline) }) ∨
    ∃ child greeted, (host.deadline pool.patience greeted).1 = none ∧
      (pool.tryStart host request).1 = .unwound ∧ (pool.tryStart host request).2.1 =
        { pool with world, spawned, lost := pool.lost ++ [child] } := by
  rcases pool.beginHandshake_cases host request with ⟨world, spawned, begun⟩
  unfold tryStart
  rcases answered : pool.beginHandshake host request with ⟨outcome, after, events⟩
  rw [answered] at begun
  rcases begun with ⟨failure, rfl, rfl⟩ | ⟨⟨child, deadline⟩, rfl, rfl⟩ |
    ⟨child, greeted, untold, rfl, rfl⟩
  · exact ⟨world, spawned, .inl ⟨_, rfl, rfl⟩⟩
  · dsimp only
    cases pool.slots.get? request.session with
    | none => exact ⟨world, spawned, .inr (.inl ⟨_, child, deadline, rfl, rfl⟩)⟩
    | some previous =>
        exact ⟨(host.kill previous.child world).2, spawned,
          .inr (.inl ⟨_, child, deadline, rfl, rfl⟩)⟩
  · exact ⟨world, spawned, .inr (.inr ⟨child, greeted, untold, rfl, rfl⟩)⟩

theorem tryStart_patience : (pool.tryStart host request).2.1.patience = pool.patience := by
  rcases pool.tryStart_cases host request with ⟨world, spawned, ⟨cause, -, same⟩ |
    ⟨integration, child, deadline, -, same⟩ | ⟨child, greeted, -, -, same⟩⟩
  all_goals rw [same]

/-- A caller that is not told of unwinding finds the same pool. -/
theorem start_pool : (pool.start host request).2.1 = (pool.tryStart host request).2.1 := rfl

/-- A start that loses no process is refused, or fills the slot of the session with a handshake. -/
theorem start_cases (kept : (pool.start host request).2.1.lost = pool.lost) :
    (∃ cause, (pool.start host request).1 = .error cause ∧
      ∀ other, (pool.start host request).2.1.progress? other = pool.progress? other) ∨
    ((pool.start host request).1 = .ok .pending ∧
      ∀ other, (pool.start host request).2.1.progress? other =
        if other = request.session then some .starting else pool.progress? other) := by
  have outcome : (pool.start host request).1 = (pool.tryStart host request).1.answer := rfl
  rw [start_pool] at kept ⊢
  rw [outcome]
  rcases pool.tryStart_cases host request with ⟨world, spawned, ⟨cause, refused, same⟩ |
    ⟨integration, child, deadline, started, same⟩ | ⟨child, greeted, -, -, same⟩⟩
  · left
    rw [refused, same]
    exact ⟨cause, rfl, fun other => rfl⟩
  · right
    rw [started, same]
    refine ⟨rfl, fun other => ?_⟩
    simp only [progress?, Keyed.get?_put]
    split
    · rfl
    · rfl
  · rw [same] at kept
    simp at kept

end Starting

/-- A stop empties the slot of the session, and loses its process if it unwinds. -/
theorem tryStop_cases (session : SessionId) :
    (pool.slots.get? session = none ∧ (pool.tryStop host session).1 = .returned () ∧
      (pool.tryStop host session).2.1 = pool) ∨
    (∃ world retiring, (pool.tryStop host session).1 = .returned () ∧
      (pool.tryStop host session).2.1 =
        { pool with world, retiring, slots := pool.slots.erase session }) ∨
    ∃ world child channel closing, pool.slots.get? session = some (.ready child channel) ∧
      (host.deadline grace closing).1 = none ∧ (pool.tryStop host session).1 = .unwound ∧
      (pool.tryStop host session).2.1 =
        { pool with world, slots := pool.slots.erase session, lost := pool.lost ++ [child] } := by
  unfold tryStop
  rcases pool.slots.get? session with _ | ⟨integration, child, deadline⟩ | ⟨child, channel⟩
  · exact .inl ⟨rfl, rfl, rfl⟩
  · exact .inr (.inl ⟨_, pool.retiring, rfl, rfl⟩)
  · rcases dismissed : host.startDismissal child channel pool.world with ⟨cause, noted, closing⟩
    rcases told : host.deadline grace closing with ⟨_ | deadline, world⟩
    · exact .inr (.inr ⟨world, child, channel, closing, rfl, by simp [dismissed, told]⟩)
    · refine .inr (.inl ⟨world, pool.retiring ++ [⟨session, child, deadline⟩], ?_⟩)
      simp [dismissed, told]

theorem tryStop_patience (session : SessionId) :
    (pool.tryStop host session).2.1.patience = pool.patience := by
  rcases pool.tryStop_cases host session with ⟨-, -, same⟩ | ⟨world, retiring, -, same⟩ |
    ⟨world, child, channel, closing, -, -, -, same⟩
  all_goals rw [same]

/-- A caller that is not told of unwinding finds the same pool. -/
theorem stop_pool (session : SessionId) :
    (pool.stop host session).1 = (pool.tryStop host session).2.1 := rfl

theorem progress?_stop (session other : SessionId) :
    progress? (pool.stop host session).1 other =
      if other = session then none else pool.progress? other := by
  have erased : ((pool.slots.erase session).get? other).map Slot.progress =
      if other = session then none else pool.progress? other := by
    rw [Keyed.get?_erase, progress?]
    split
    · rfl
    · rfl
  rw [stop_pool]
  rcases pool.tryStop_cases host session with ⟨absent, -, same⟩ | ⟨world, retiring, -, same⟩ |
    ⟨world, child, channel, closing, -, -, -, same⟩
  · rw [same]
    by_cases own : other = session
    · simp [progress?, own, absent]
    · rw [if_neg own]
  · rw [same]
    exact erased
  · rw [same]
    exact erased

/-! ### Polling -/

/-- Only handshakes are due, each once. -/
theorem dueAmong_sublist (now : Nat) (entries : List (SessionId × Slot)) (world : ω) :
    (dueAmong host now entries world).1.Sublist
      ((entries.filter fun entry => entry.2.progress = .starting).map Prod.fst) := by
  induction entries generalizing world with
  | nil => exact List.Sublist.refl _
  | cons entry rest ih =>
      rcases entry with ⟨session, ⟨integration, child, deadline⟩ | ⟨child, channel⟩⟩
      · have later := ih (host.isFinished child world).2
        simp only [dueAmong, Slot.progress, List.filter_cons, decide_true, ↓reduceIte,
          List.map_cons]
        split
        · exact later.cons_cons session
        · exact later.cons session
      · exact ih world

theorem dueAmong_distinct (now : Nat) (world : ω) :
    (dueAmong host now pool.slots.entries world).1.Nodup :=
  (dueAmong_sublist host now pool.slots.entries world).nodup
    (pool.slots.distinct.sublist (List.filter_sublist.map Prod.fst))

theorem starting_of_due {now : Nat} {world : ω} {session : SessionId}
    (due : session ∈ (dueAmong host now pool.slots.entries world).1) :
    pool.progress? session = some .starting := by
  have handshaking := (dueAmong_sublist host now pool.slots.entries world).subset due
  rcases List.mem_map.mp handshaking with ⟨⟨_, slot⟩, entryMem, rfl⟩
  rw [List.mem_filter] at entryMem
  rw [progress?, Keyed.get?_eq_some_iff.mpr entryMem.1]
  simpa using entryMem.2

/-- What came of the handshake of a session. -/
theorem settle_of_starting {session : SessionId}
    (starting : pool.progress? session = some .starting) :
    ∃ result, (pool.settle host session).1 = some ⟨session, result⟩ ∧
      ∀ other, progress? (pool.settle host session).2.1 other =
        if other = session then (Progress.ofResult result).live? else pool.progress? other := by
  rcases pool.progress?_eq_starting_iff.mp starting with ⟨integration, child, deadline, found⟩
  rcases outcome_same host { pool with slots := pool.slots.erase session } child with ⟨world, same⟩
  rcases ended : outcome host { pool with slots := pool.slots.erase session } child with
    ⟨failure | channel, after, events⟩
  · rw [ended] at same
    subst same
    simp only [settle, found, ended]
    refine ⟨.error (.ofFailure integration failure), rfl, fun other => ?_⟩
    simp only [progress?, kill, Keyed.get?_erase]
    split
    · rfl
    · rfl
  · rw [ended] at same
    subst same
    simp only [settle, found, ended]
    refine ⟨.ok (), rfl, fun other => ?_⟩
    simp only [progress?, Keyed.get?_put, Keyed.get?_erase]
    split
    · rfl
    · rfl

/-- The completions report handshakes that ended, each once, and say what became of their slots. -/
structure Settles (before : Pool ω) (completions : List Completion) (after : Pool ω) : Prop where
  distinct : (completions.map Completion.session).Nodup
  pending : ∀ completion ∈ completions, before.progress? completion.session = some .starting
  settled : ∀ completion ∈ completions, after.progress? completion.session =
    (Progress.ofResult completion.result).live?
  kept : ∀ session, (∀ completion ∈ completions, completion.session ≠ session) →
    after.progress? session = before.progress? session

/-- The handshakes that go on are those that were not reported. -/
theorem Settles.starting_iff {before after : Pool ω} {completions : List Completion}
    (settles : before.Settles completions after) {session : SessionId} :
    after.progress? session = some .starting ↔ before.progress? session = some .starting ∧
      ∀ completion ∈ completions, completion.session ≠ session := by
  constructor
  · intro starting
    have unreported : ∀ completion ∈ completions, completion.session ≠ session := by
      rintro completion completionMem rfl
      rw [settles.settled completion completionMem] at starting
      cases result : completion.result <;>
        simp [result, Progress.ofResult, Progress.live?, Progress.isLive] at starting
    exact ⟨(settles.kept session unreported).symm.trans starting, unreported⟩
  · rintro ⟨starting, unreported⟩
    exact (settles.kept session unreported).trans starting

theorem settleEach_settles {sessions : List SessionId} (distinct : sessions.Nodup)
    (starting : ∀ session ∈ sessions, pool.progress? session = some .starting) :
    (settleEach host sessions pool).1.map Completion.session = sessions ∧
      pool.Settles (settleEach host sessions pool).1 (settleEach host sessions pool).2.1 := by
  induction sessions generalizing pool with
  | nil => exact ⟨rfl, List.nodup_nil, by simp [settleEach], by simp [settleEach], fun _ _ => rfl⟩
  | cons session rest ih =>
      have fresh := (List.nodup_cons.mp distinct).1
      rcases pool.settle_of_starting host (starting session (by simp)) with
        ⟨result, reported, progress⟩
      have later : ∀ other ∈ rest, progress? (pool.settle host session).2.1 other =
          some .starting := by
        intro other otherMem
        rw [progress, if_neg (ne_of_mem_of_not_mem otherMem fresh)]
        exact starting other (by simp [otherMem])
      rcases ih (pool.settle host session).2.1 (List.nodup_cons.mp distinct).2 later with
        ⟨named, settles⟩
      have completions : (settleEach host (session :: rest) pool).1 =
          ⟨session, result⟩ :: (settleEach host rest (pool.settle host session).2.1).1 := by
        simp [settleEach, reported]
      have named_mem : ∀ completion ∈ (settleEach host rest (pool.settle host session).2.1).1,
          completion.session ∈ rest := by
        intro completion completionMem
        rw [← named]
        exact List.mem_map_of_mem completionMem
      rw [completions]
      refine ⟨by rw [List.map_cons, named], ?_, ?_, ?_, ?_⟩
      · rw [List.map_cons, named]
        exact distinct
      · intro completion completionMem
        apply starting
        rcases List.mem_cons.mp completionMem with rfl | restMem
        · simp
        · exact List.mem_cons_of_mem _ (named_mem completion restMem)
      · intro completion completionMem
        rcases List.mem_cons.mp completionMem with rfl | restMem
        · refine (settles.kept session ?_).trans ((progress session).trans (if_pos rfl))
          intro other otherMem
          exact ne_of_mem_of_not_mem (named_mem other otherMem) fresh
        · exact settles.settled completion restMem
      · intro other otherKept
        refine (settles.kept other fun completion completionMem =>
          otherKept completion (by simp [completionMem])).trans ?_
        rw [progress, if_neg (otherKept ⟨session, result⟩ (by simp)).symm]

/-- The sessions that a poll settles, and the pool when it begins to. -/
def dueNow : List SessionId × Pool ω :=
  let (now, world) := host.clock pool.world
  let (pool, _) := { pool with world }.reapAll host now
  let (due, world) := dueAmong host now pool.slots.entries pool.world
  (due, { pool with world })

/-- Besides the world, a poll changes nothing but those that retire until it settles handshakes. -/
theorem dueNow_same : ∃ world retiring, (pool.dueNow host).2 = { pool with world, retiring } := by
  let ticked : Pool ω := { pool with world := (host.clock pool.world).2 }
  rcases ticked.reapEach_same host (host.clock pool.world).1 pool.retiring with ⟨world, same⟩
  let left := (reapAll host (host.clock pool.world).1 ticked).1
  have exited : left = { pool with world, retiring := left.retiring } :=
    congrArg (fun reaped : Pool ω => { reaped with retiring := left.retiring }) same
  refine ⟨(dueAmong host (host.clock pool.world).1 left.slots.entries left.world).2, left.retiring,
    ?_⟩
  exact congrArg (fun reaped : Pool ω => { reaped with
    world := (dueAmong host (host.clock pool.world).1 left.slots.entries left.world).2 }) exited

theorem dueNow_slots : (pool.dueNow host).2.slots = pool.slots := by
  rcases pool.dueNow_same host with ⟨world, retiring, same⟩
  rw [same]

theorem dueNow_progress? (session : SessionId) :
    (pool.dueNow host).2.progress? session = pool.progress? session := by
  rw [progress?, dueNow_slots, progress?]

/-- A poll settles the handshakes that are due, and leaves all other slots as they are. -/
theorem poll_settles_due :
    (pool.poll host).1.map Completion.session = (pool.dueNow host).1 ∧
      pool.Settles (pool.poll host).1 (pool.poll host).2.1 := by
  let exited := ({ pool with world := (host.clock pool.world).2 }.reapAll host
    (host.clock pool.world).1).1
  have distinct : (pool.dueNow host).1.Nodup := exited.dueAmong_distinct host _ _
  have starting : ∀ session ∈ (pool.dueNow host).1,
      (pool.dueNow host).2.progress? session = some .starting :=
    fun _ => exited.starting_of_due host
  rcases settleEach_settles host (pool.dueNow host).2 distinct starting with ⟨sessions, settles⟩
  exact ⟨sessions, settles.distinct, fun completion completionMem =>
    (pool.dueNow_progress? host _).symm.trans (settles.pending completion completionMem),
    settles.settled,
    fun session kept => (settles.kept session kept).trans (pool.dueNow_progress? host session)⟩

theorem poll_settles : pool.Settles (pool.poll host).1 (pool.poll host).2.1 :=
  (pool.poll_settles_due host).2

/-! ### What polls leave alone -/

theorem settle_same (session : SessionId) :
    ∃ world slots, (pool.settle host session).2.1 = { pool with world, slots } := by
  unfold settle
  rcases pool.slots.get? session with _ | ⟨integration, child, deadline⟩ | ⟨child, channel⟩
  · exact ⟨pool.world, pool.slots, rfl⟩
  · rcases outcome_same host { pool with slots := pool.slots.erase session } child with
      ⟨world, same⟩
    rcases ended : outcome host { pool with slots := pool.slots.erase session } child with
      ⟨failure | channel, after, events⟩
    · rw [ended] at same
      subst same
      simp only [ended]
      exact ⟨_, _, rfl⟩
    · rw [ended] at same
      subst same
      simp only [ended]
      exact ⟨_, _, rfl⟩
  · exact ⟨_, _, rfl⟩

theorem settleEach_same (sessions : List SessionId) :
    ∃ world slots, (settleEach host sessions pool).2.1 = { pool with world, slots } := by
  induction sessions generalizing pool with
  | nil => exact ⟨pool.world, pool.slots, rfl⟩
  | cons session rest ih =>
      rcases pool.settle_same host session with ⟨world, slots, same⟩
      rcases ih { pool with world, slots } with ⟨later, slotsLater, sameLater⟩
      refine ⟨later, slotsLater, ?_⟩
      rw [← sameLater, ← same]
      rfl

theorem poll_same : ∃ world slots retiring,
    (pool.poll host).2.1 = { pool with world, slots, retiring } := by
  rcases pool.dueNow_same host with ⟨looked, retiring, same⟩
  rcases settleEach_same host (pool.dueNow host).2 (pool.dueNow host).1 with
    ⟨world, slots, settled⟩
  have polled : (pool.poll host).2.1 =
      (settleEach host (pool.dueNow host).1 (pool.dueNow host).2).2.1 := rfl
  refine ⟨world, slots, retiring, ?_⟩
  rw [polled, settled, same]

theorem poll_patience : (pool.poll host).2.1.patience = pool.patience := by
  rcases pool.poll_same host with ⟨world, slots, retiring, same⟩
  rw [same]

/-! ### What is lost -/

/-- A start loses a process exactly if it unwinds, for want of a deadline. -/
theorem tryStart_lost (request : StartRequest) :
    ((pool.tryStart host request).1 ≠ .unwound ∧
      (pool.tryStart host request).2.1.lost = pool.lost) ∨
    ((pool.tryStart host request).1 = .unwound ∧ ¬host.Tells pool.patience ∧
      ∃ child, (pool.tryStart host request).2.1.lost = pool.lost ++ [child]) := by
  rcases pool.tryStart_cases host request with ⟨world, spawned, ⟨cause, refused, same⟩ |
    ⟨integration, child, deadline, started, same⟩ | ⟨child, greeted, untold, unwound, same⟩⟩
  · left
    rw [refused, same]
    exact ⟨nofun, rfl⟩
  · left
    rw [started, same]
    exact ⟨nofun, rfl⟩
  · right
    rw [same]
    exact ⟨unwound, fun tells => tells.deadline_ne_none greeted untold, child, rfl⟩

/-- A stop loses a process exactly if it unwinds, for want of a deadline. -/
theorem tryStop_lost (session : SessionId) :
    ((pool.tryStop host session).1 ≠ .unwound ∧
      (pool.tryStop host session).2.1.lost = pool.lost) ∨
    ((pool.tryStop host session).1 = .unwound ∧ ¬host.Tells grace ∧
      ∃ child, (pool.tryStop host session).2.1.lost = pool.lost ++ [child]) := by
  rcases pool.tryStop_cases host session with ⟨-, returned, same⟩ |
    ⟨world, retiring, returned, same⟩ |
    ⟨world, child, channel, closing, -, untold, unwound, same⟩
  · left
    rw [returned, same]
    exact ⟨nofun, rfl⟩
  · left
    rw [returned, same]
    exact ⟨nofun, rfl⟩
  · right
    rw [same]
    exact ⟨unwound, fun tells => tells.deadline_ne_none closing untold, child, rfl⟩

theorem poll_lost : (pool.poll host).2.1.lost = pool.lost := by
  rcases pool.poll_same host with ⟨world, slots, retiring, same⟩
  rw [same]

/-! ### Counting -/

theorem connectionCount_eq : pool.connectionCount =
    pool.slots.values.countP fun slot => slot.progress = .running := by
  apply List.countP_congr
  intro slot _
  cases slot <;> simp [Slot.isReady, Slot.progress]

theorem pendingCount_eq : pool.pendingCount =
    pool.slots.values.countP fun slot => slot.progress = .starting := by
  have split := pool.slots.values.length_eq_countP_add_countP Slot.isReady
  have others : (pool.slots.values.countP fun slot => ¬slot.isReady) =
      pool.slots.values.countP fun slot => slot.progress = .starting := by
    apply List.countP_congr
    intro slot _
    cases slot <;> simp [Slot.isReady, Slot.progress]
  have size : pool.slots.size = pool.slots.values.length := by simp [Keyed.size, Keyed.values]
  rw [pendingCount, connectionCount, size, split, others, Nat.add_sub_cancel_left]

end Pool

end Backend

end EditorSession
