import EditorSession.Backend.Pool

/-!
# Watching a host

What becomes of processes is not in the answers of a pool. `Host.watched` notes it on the side: the
processes that the host gave, those it was asked to kill, and those it said to have exited. Nothing
else changes, so a pool takes the same course whether its host is watched or not:
`Pool.forget_performAll`.
-/

namespace EditorSession.Backend

/-- Something a host did that bears on a process. -/
inductive Deed
  | spawned (child : Child)
  /-- The host was asked to kill the process, whatever it answered. -/
  | killed (child : Child)
  /-- The host said that the process had exited. -/
  | exited (child : Child)
  deriving DecidableEq, Repr

/-- The state of a host, and what it did so far. -/
structure Watched (ω : Type) where
  inner : ω
  deeds : List Deed := []

namespace Deed

/-- The process that a deed brought up. -/
def spawned? : Deed → Option Child
  | spawned child => some child
  | _ => none

/-- What an answer to a request for a process has brought up. -/
def ofSpawning (serial : Nat) : Spawning → List Deed
  | .up process => [spawned ⟨serial, process⟩]
  | .unpiped process => [spawned ⟨serial, process⟩]
  | .missing _ => []
  | .refused _ => []

/-- What an answer to a look at a process has shown. -/
def ofWaiting (child : Child) : Waiting → List Deed
  | .exited _ => [exited child]
  | .alive => []
  | .unknown _ => []

end Deed

namespace Watched

variable {ω : Type}

/-- The processes that the host gave, in order. -/
def spawned (watched : Watched ω) : List Child := watched.deeds.filterMap Deed.spawned?

/-- The state after a step of the host, and what it noted then. -/
def step (watched : Watched ω) (inner : ω) (noted : List Deed) : Watched ω :=
  ⟨inner, watched.deeds ++ noted⟩

/-- The state after a step of the host that bears on no process. -/
def quietly (watched : Watched ω) (inner : ω) : Watched ω := { watched with inner }

end Watched

namespace Host

variable {ω : Type} (host : Host ω)

/-- A host whose deeds are noted. -/
def watched : Host (Watched ω) where
  clock world := (host.clock world.inner).map id world.quietly
  horizon := host.horizon
  spawn serial launch world :=
    let answer := host.spawn serial launch world.inner
    (answer.1, world.step answer.2 (Deed.ofSpawning serial answer.1))
  startGreeting child request world :=
    (host.startGreeting child request world.inner).map id world.quietly
  isFinished child world := (host.isFinished child world.inner).map id world.quietly
  join child world := (host.join child world.inner).map id (Prod.map id world.quietly)
  startDismissal child channel world :=
    (host.startDismissal child channel world.inner).map id (Prod.map id world.quietly)
  tryWait child world :=
    let answer := host.tryWait child world.inner
    (answer.1, world.step answer.2 (Deed.ofWaiting child answer.1))
  kill child world :=
    (host.kill child world.inner).map id fun inner => world.step inner [.killed child]
  pause world := world.quietly (host.pause world.inner)

end Host

namespace Pool

/-- A call to a pool, or a little time in which there is none. -/
inductive Call
  | start (request : StartRequest)
  | poll
  | stop (session : SessionId)
  | wait

variable {ω : Type}

/-- The pool after a call. -/
def perform (host : Host ω) (pool : Pool ω) : Call → Pool ω
  | .start request => (pool.start host request).2.1
  | .poll => (pool.poll host).2.1
  | .stop session => (pool.stop host session).1
  | .wait => pool.pause host

/-- The pool after calls in turn. -/
def performAll (host : Host ω) (pool : Pool ω) (calls : List Call) : Pool ω :=
  calls.foldl (perform host) pool

/-- The pool without what was noted of its host. -/
def forget (pool : Pool (Watched ω)) : Pool ω where
  world := pool.world.inner
  slots := pool.slots
  retiring := pool.retiring
  patience := pool.patience
  spawned := pool.spawned
  lost := pool.lost

section Transparent

variable (host : Host ω) (pool : Pool (Watched ω))

theorem forget_spawn (launch : LaunchSpecification) :
    (pool.spawn host.watched launch).map id (Prod.map forget id) =
      pool.forget.spawn host launch := by
  rcases answered : host.spawn (pool.spawned + 1) launch pool.world.inner with ⟨answer, world⟩
  have watched : host.watched.spawn (pool.spawned + 1) launch pool.world =
      (answer, pool.world.step world (Deed.ofSpawning (pool.spawned + 1) answer)) := by
    simp [Host.watched, answered]
  have same : host.spawn (pool.forget.spawned + 1) launch pool.forget.world = (answer, world) :=
    answered
  unfold spawn
  rw [watched, same]
  cases answer <;> rfl

theorem deadline_watched (span : Nat) (world : Watched ω) :
    host.watched.deadline span world = (host.deadline span world.inner).map id world.quietly := rfl

theorem forget_beginHandshake (request : StartRequest) :
    (pool.beginHandshake host.watched request).map id (Prod.map forget id) =
      pool.forget.beginHandshake host request := by
  unfold beginHandshake
  rw [← pool.forget_spawn host request.launch]
  rcases pool.spawn host.watched request.launch with ⟨failure | child, after, events⟩
  · rfl
  · rcases answered : host.startGreeting child request after.world.inner with ⟨refusal, world⟩
    have watched : host.watched.startGreeting child request after.world =
        (refusal, after.world.quietly world) := by
      simp [Host.watched, answered]
    have same : host.startGreeting child request after.forget.world = (refusal, world) := answered
    simp only [Prod.map, id, watched, same]
    cases refusal with
    | some cause => rfl
    | none =>
        rcases told : host.deadline after.patience world with ⟨deadline, later⟩
        have toldWatched : host.watched.deadline after.patience (after.world.quietly world) =
            (deadline, after.world.quietly later) := by
          rw [deadline_watched, show (after.world.quietly world).inner = world from rfl, told]
          rfl
        have toldSame : host.deadline after.forget.patience world = (deadline, later) := told
        simp only [toldWatched, toldSame]
        cases deadline with
        | none => rfl
        | some deadline => rfl

theorem forget_tryStart (request : StartRequest) :
    (pool.tryStart host.watched request).map id (Prod.map forget id) =
      pool.forget.tryStart host request := by
  unfold tryStart
  rw [← pool.forget_beginHandshake host request]
  rcases pool.beginHandshake host.watched request with
    ⟨(failure | begun) | _, after, events⟩
  · rfl
  · simp only [Prod.map, id, forget]
    cases after.slots.get? request.session with
    | none => rfl
    | some previous => rfl
  · rfl

theorem forget_reap (now : Nat) (retiring : Retiring) :
    (pool.reap host.watched now retiring).map id (Prod.map forget id) =
      pool.forget.reap host now retiring := by
  rcases answered : host.tryWait retiring.child pool.world.inner with ⟨answer, world⟩
  have watched : host.watched.tryWait retiring.child pool.world =
      (answer, pool.world.step world (Deed.ofWaiting retiring.child answer)) := by
    simp [Host.watched, answered]
  have same : host.tryWait retiring.child pool.forget.world = (answer, world) := answered
  unfold reap
  rw [watched, same]
  cases answer with
  | exited status => rfl
  | alive => dsimp only; split <;> rfl
  | unknown cause => dsimp only; split <;> rfl

theorem forget_reapEach (now : Nat) (retiring : List Retiring) :
    (reapEach host.watched now retiring pool).map id (Prod.map forget id) =
      reapEach host now retiring pool.forget := by
  induction retiring generalizing pool with
  | nil => rfl
  | cons first rest ih =>
      unfold reapEach
      rw [← pool.forget_reap host now first]
      rcases pool.reap host.watched now first with ⟨gone, after, events⟩
      dsimp only [Prod.map, id]
      rw [← ih after]
      rfl

theorem forget_reapAll (now : Nat) :
    (pool.reapAll host.watched now).map forget id = pool.forget.reapAll host now := by
  have each := pool.forget_reapEach host now pool.retiring
  unfold reapAll
  rw [show pool.forget.retiring = pool.retiring from rfl, ← each]
  rfl

theorem inner_dueAmong (now : Nat) (entries : List (SessionId × Slot)) (world : Watched ω) :
    (dueAmong host.watched now entries world).map id Watched.inner =
      dueAmong host now entries world.inner := by
  induction entries generalizing world with
  | nil => rfl
  | cons entry rest ih =>
      rcases entry with ⟨session, ⟨integration, child, deadline⟩ | ⟨child, channel⟩⟩
      · have later := ih (host.watched.isFinished child world).2
        dsimp only [dueAmong]
        rw [show (host.isFinished child world.inner).2 =
          (host.watched.isFinished child world).2.inner from rfl, ← later]
        rfl
      · exact ih world

theorem forget_outcome (child : Child) :
    (pool.outcome host.watched child).map id (Prod.map forget id) =
      pool.forget.outcome host child := by
  unfold outcome
  dsimp only
  rw [show (host.watched.isFinished child pool.world).1 =
    (host.isFinished child pool.forget.world).1 from rfl]
  split <;> rfl

theorem forget_settle (session : SessionId) :
    (pool.settle host.watched session).map id (Prod.map forget id) =
      pool.forget.settle host session := by
  unfold settle
  rw [show pool.forget.slots = pool.slots from rfl]
  rcases pool.slots.get? session with _ | ⟨integration, child, deadline⟩ | ⟨child, channel⟩
  · rfl
  · dsimp only
    have joined := forget_outcome host { pool with slots := pool.slots.erase session } child
    rw [show ({ pool.forget with slots := pool.slots.erase session } : Pool ω) =
      forget { pool with slots := pool.slots.erase session } from rfl, ← joined]
    rcases outcome host.watched { pool with slots := pool.slots.erase session } child with
      ⟨result, after, events⟩
    cases result <;> rfl
  · rfl

theorem forget_settleEach (sessions : List SessionId) :
    (settleEach host.watched sessions pool).map id (Prod.map forget id) =
      settleEach host sessions pool.forget := by
  induction sessions generalizing pool with
  | nil => rfl
  | cons session rest ih =>
      unfold settleEach
      rw [← pool.forget_settle host session]
      rcases pool.settle host.watched session with ⟨completion, after, events⟩
      dsimp only [Prod.map, id]
      rw [← ih after]
      rfl

theorem forget_poll :
    (pool.poll host.watched).map id (Prod.map forget id) = pool.forget.poll host := by
  unfold poll
  rcases ticked : host.clock pool.world.inner with ⟨now, world⟩
  have watched : host.watched.clock pool.world = (now, pool.world.quietly world) := by
    simp [Host.watched, ticked]
  have same : host.clock pool.forget.world = (now, world) := ticked
  rw [watched, same]
  dsimp only
  have reaped := forget_reapAll host { pool with world := pool.world.quietly world } now
  rw [show ({ pool.forget with world := world } : Pool ω) =
    forget { pool with world := pool.world.quietly world } from rfl, ← reaped]
  rcases reapAll host.watched now { pool with world := pool.world.quietly world } with
    ⟨exited, exits⟩
  dsimp only [Prod.map, id]
  rw [show exited.forget.slots = exited.slots from rfl,
    show exited.forget.world = exited.world.inner from rfl, ← inner_dueAmong]
  rcases dueAmong host.watched now exited.slots.entries exited.world with ⟨due, settling⟩
  exact congrArg (fun settled => (settled.1, settled.2.1, exits ++ settled.2.2))
    (forget_settleEach host { exited with world := settling } due)

theorem forget_tryStop (session : SessionId) :
    (pool.tryStop host.watched session).map id (Prod.map forget id) =
      pool.forget.tryStop host session := by
  unfold tryStop
  rw [show pool.forget.slots = pool.slots from rfl]
  rcases pool.slots.get? session with _ | ⟨integration, child, deadline⟩ | ⟨child, channel⟩
  · rfl
  · rfl
  · rcases answered : host.startDismissal child channel pool.world.inner with ⟨cause, noted, world⟩
    have watched : host.watched.startDismissal child channel pool.world =
        (cause, noted, pool.world.quietly world) := by
      simp [Host.watched, answered]
    have same : host.startDismissal child channel pool.forget.world = (cause, noted, world) :=
      answered
    rcases told : host.deadline grace world with ⟨deadline, later⟩
    have toldWatched : host.watched.deadline grace (pool.world.quietly world) =
        (deadline, pool.world.quietly later) := by
      rw [deadline_watched, show (pool.world.quietly world).inner = world from rfl, told]
      rfl
    simp only [watched, same, toldWatched, told]
    cases deadline with
    | none => rfl
    | some deadline => rfl

theorem forget_perform (call : Call) :
    (pool.perform host.watched call).forget = pool.forget.perform host call := by
  cases call with
  | start request => exact congrArg (fun result => result.2.1) (pool.forget_tryStart host request)
  | poll => exact congrArg (fun result => result.2.1) (pool.forget_poll host)
  | stop session => exact congrArg (fun result => result.2.1) (pool.forget_tryStop host session)
  | wait => rfl

theorem forget_killEach (slots : List (SessionId × Slot)) :
    (killEach host.watched slots pool).map forget id = killEach host slots pool.forget := by
  induction slots generalizing pool with
  | nil => rfl
  | cons entry rest ih =>
      let killing := (pool.forget.kill host entry.1 entry.2.child).2
      exact congrArg (fun left => (left.1, killing ++ left.2))
        (ih (pool.kill host.watched entry.1 entry.2.child).1)

theorem forget_finish (retiring : Retiring) (looks : Nat) :
    (pool.finish host.watched retiring looks).map (Prod.map forget id) =
      pool.forget.finish host retiring looks := by
  induction looks generalizing pool with
  | zero => rfl
  | succ looks ih =>
      unfold finish
      rcases ticked : host.clock pool.world.inner with ⟨now, world⟩
      have watched : host.watched.clock pool.world = (now, pool.world.quietly world) := by
        simp [Host.watched, ticked]
      have same : host.clock pool.forget.world = (now, world) := ticked
      rw [watched, same]
      dsimp only
      rw [show ({ pool.forget with world := world } : Pool ω) =
        forget { pool with world := pool.world.quietly world } from rfl, ← forget_reap]
      rcases reap host.watched now { pool with world := pool.world.quietly world } retiring with
        ⟨gone, left, events⟩
      cases gone with
      | true => rfl
      | false =>
          have later := ih { left with world := host.watched.pause left.world }
          dsimp only [Prod.map, id]
          change _ = Option.map _ (finish host retiring looks
            (forget { left with world := host.watched.pause left.world }))
          rw [← later, Option.map_map, Option.map_map]
          rfl

theorem forget_finishEach (looks : Nat) (retiring : List Retiring) :
    (finishEach host.watched looks retiring pool).map (Prod.map forget id) =
      finishEach host looks retiring pool.forget := by
  induction retiring generalizing pool with
  | nil => rfl
  | cons first rest ih =>
      unfold finishEach
      rw [← pool.forget_finish host first looks]
      cases pool.finish host.watched first looks with
      | none => rfl
      | some finished =>
          have later := ih finished.1
          simp only [Option.map_some, Option.bind_eq_bind, Option.bind_some, Prod.map, id, ← later]
          cases finishEach host.watched looks rest finished.1 <;> rfl

/-- Whether its host is watched or not, a pool takes the same course. -/
theorem forget_performAll (calls : List Call) :
    (pool.performAll host.watched calls).forget = pool.forget.performAll host calls := by
  induction calls generalizing pool with
  | nil => rfl
  | cons call rest ih =>
      exact (ih _).trans (congrArg (performAll host · rest) (pool.forget_perform host call))

/-- Nor does it matter to how the pool is given up. -/
theorem forget_close (looks : Nat) :
    (pool.close host.watched looks).map (Prod.map forget id) = pool.forget.close host looks := by
  unfold close
  dsimp only
  rw [show ({ pool.forget with slots := .empty } : Pool ω) =
    forget { pool with slots := .empty } from rfl, ← forget_killEach,
    show pool.forget.slots = pool.slots from rfl]
  rcases killEach host.watched pool.slots.entries { pool with slots := .empty } with
    ⟨left, killing⟩
  dsimp only [Prod.map, id]
  rw [show left.forget.retiring = left.retiring from rfl,
    show ({ left.forget with retiring := [] } : Pool ω) =
      forget { left with retiring := [] } from rfl, ← forget_finishEach]
  cases finishEach host.watched looks left.retiring { left with retiring := [] } <;> rfl

end Transparent

end Pool

end EditorSession.Backend
