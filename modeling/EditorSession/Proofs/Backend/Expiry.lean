import EditorSession.Proofs.Backend.Slots

/-!
# Handshakes whose time is up

A handshake that misses its deadline is settled by the next poll, whatever its worker does. So a poll
at a time by which every handshake is due leaves none (`progress?_poll_ne_starting`), and until then
no poll and no pause gives a handshake more time (`keepsHandshakes_afterRounds`). What is reported of
a handshake is how its worker ended, or, while the host says that the worker is at work, that the time
is up: `poll_ends` finds the moment of the poll at which that was decided.
-/

namespace EditorSession.Backend

/-- What a handshake comes to at a moment of the host. -/
inductive Host.Ends {ω : Type} (host : Host ω) (world : ω) (patience : Nat) (integration : String)
    (child : Child) : Except Error Unit → Prop
  | opened {channel} (finished : (host.isFinished child world).1 = true)
      (joined : (host.join child (host.isFinished child world).2).1 = .opened channel) :
      Ends host world patience integration child (.ok ())
  | failed {failure} (finished : (host.isFinished child world).1 = true)
      (joined : (host.join child (host.isFinished child world).2).1 = .failed failure) :
      Ends host world patience integration child (.error (.ofFailure integration failure))
  | broken (finished : (host.isFinished child world).1 = true)
      (joined : (host.join child (host.isFinished child world).2).1 = .broken) :
      Ends host world patience integration child (.error (.ofFailure integration .workerLost))
  /-- The worker is at work still. -/
  | timedOut (working : (host.isFinished child world).1 = false) :
      Ends host world patience integration child
        (.error (.ofFailure integration (.timedOut patience)))

/-- The deadline of a handshake has come by a time. -/
def Slot.IsDueBy (now : Nat) : Slot → Prop
  | handshaking _ _ deadline => deadline ≤ now
  | ready .. => True

instance (now : Nat) : (slot : Slot) → Decidable (slot.IsDueBy now)
  | .handshaking _ _ deadline => inferInstanceAs (Decidable (deadline ≤ now))
  | .ready .. => inferInstanceAs (Decidable True)

namespace Pool

variable {ω : Type} (host : Host ω) (pool : Pool ω)

/-- The deadlines of all handshakes have come by a time. -/
def DueBy (now : Nat) : Prop :=
  ∀ session integration child deadline,
    pool.slots.get? session = some (.handshaking integration child deadline) → deadline ≤ now

theorem dueBy_iff {now : Nat} : pool.DueBy now ↔ ∀ slot ∈ pool.slots.values, slot.IsDueBy now := by
  constructor
  · intro due slot slotMem
    rcases Keyed.mem_values_iff.mp slotMem with ⟨session, found⟩
    cases slot with
    | handshaking integration child deadline => exact due session integration child deadline found
    | ready child channel => trivial
  · intro due session integration child deadline found
    exact due _ (Keyed.mem_values_iff.mpr ⟨session, found⟩)

instance (now : Nat) : Decidable (pool.DueBy now) := decidable_of_iff _ (dueBy_iff pool).symm

/-- A poll settles the handshake of a session at a moment of the host: when it has settled those that
come before. -/
def SettlesAt (session : SessionId) (world : ω) : Prop :=
  ∃ earlier later, (pool.dueNow host).1 = earlier ++ session :: later ∧
    (settleEach host earlier (pool.dueNow host).2).2.1.world = world

/-- The pool after polls with a pause behind each. -/
def afterRounds (host : Host ω) : (rounds : Nat) → Pool ω → Pool ω
  | 0, pool => pool
  | rounds + 1, pool => afterRounds host rounds ((pool.poll host).2.1.pause host)

/-! ### Deadlines -/

theorem mem_dueAmong {now : Nat} {entries : List (SessionId × Slot)} {session : SessionId}
    {integration : String} {child : Child} {deadline : Nat}
    (entryMem : (session, .handshaking integration child deadline) ∈ entries)
    (late : deadline ≤ now) (world : ω) : session ∈ (dueAmong host now entries world).1 := by
  induction entries generalizing world with
  | nil => cases entryMem
  | cons entry rest ih =>
      rcases List.mem_cons.mp entryMem with rfl | restMem
      · simp [dueAmong, late]
      · rcases entry with ⟨other, ⟨otherIntegration, otherChild, otherDeadline⟩ | ⟨_, _⟩⟩
        · have later := ih restMem (host.isFinished otherChild world).2
          simp only [dueAmong]
          split
          · exact List.mem_cons_of_mem other later
          · exact later
        · exact ih restMem world

/-- A poll that comes late enough leaves no handshake. -/
theorem progress?_poll_ne_starting (due : pool.DueBy (host.clock pool.world).1)
    (session : SessionId) : (pool.poll host).2.1.progress? session ≠ some .starting := by
  intro starting
  rcases pool.poll_settles_due host with ⟨sessions, settles⟩
  rcases settles.starting_iff.mp starting with ⟨before, unreported⟩
  rcases pool.progress?_eq_starting_iff.mp before with ⟨integration, child, deadline, found⟩
  -- The handshake was there before, and its deadline made it due.
  have isDue : session ∈ (pool.dueNow host).1 := by
    have late := due session integration child deadline found
    rw [← pool.dueNow_slots host] at found
    exact mem_dueAmong host (Keyed.get?_eq_some_iff.mp found) late _
  rw [← sessions, List.mem_map] at isDue
  rcases isDue with ⟨completion, completionMem, own⟩
  exact unreported completion completionMem own

/-! ### Ends -/

theorem outcome_ends (integration : String) (child : Child) :
    host.Ends pool.world pool.patience integration child
      (((pool.outcome host child).1.map fun _ => ()).mapError (Error.ofFailure integration)) := by
  unfold outcome
  dsimp only
  cases finished : (host.isFinished child pool.world).1 with
  | false => exact .timedOut finished
  | true =>
      cases joined : (host.join child (host.isFinished child pool.world).2).1 with
      | opened channel => exact .opened finished joined
      | failed failure => exact .failed finished joined
      | broken => exact .broken finished joined

theorem ends_of_settle {session : SessionId} {completion : Completion}
    (settled : (pool.settle host session).1 = some completion) :
    completion.session = session ∧ ∃ integration child deadline,
      pool.slots.get? session = some (.handshaking integration child deadline) ∧
      host.Ends pool.world pool.patience integration child completion.result := by
  unfold settle at settled
  rcases found : pool.slots.get? session with _ | ⟨integration, child, deadline⟩ | ⟨child, channel⟩
  · rw [found] at settled
    cases settled
  · have ends := outcome_ends host { pool with slots := pool.slots.erase session } integration child
    rcases ended : outcome host { pool with slots := pool.slots.erase session } child with
      ⟨failure | channel, after, events⟩
    all_goals
      rw [ended] at ends
      simp only [found, ended, Option.some.injEq] at settled
      subst settled
      exact ⟨rfl, integration, child, deadline, rfl, ends⟩
  · rw [found] at settled
    cases settled

theorem settleEach_mem {sessions : List SessionId} {completion : Completion}
    (reported : completion ∈ (settleEach host sessions pool).1) :
    ∃ earlier session later, sessions = earlier ++ session :: later ∧
      ((settleEach host earlier pool).2.1.settle host session).1 = some completion := by
  induction sessions generalizing pool with
  | nil => cases reported
  | cons session rest ih =>
      rcases List.mem_append.mp reported with first | further
      · exact ⟨[], session, rest, rfl, Option.mem_toList.mp first⟩
      · rcases ih (pool.settle host session).2.1 further with ⟨earlier, other, later, rfl, settled⟩
        exact ⟨session :: earlier, other, later, rfl, settled⟩

/-! ### What a poll leaves as it is -/

/-- Among the handshakes that are left, none is new and none has another deadline. -/
def KeepsHandshakes (before after : Pool ω) : Prop :=
  after.patience = before.patience ∧ ∀ {session integration child deadline},
    after.slots.get? session = some (.handshaking integration child deadline) →
      before.slots.get? session = some (.handshaking integration child deadline)

theorem KeepsHandshakes.trans {before between after : Pool ω}
    (first : before.KeepsHandshakes between) (second : between.KeepsHandshakes after) :
    before.KeepsHandshakes after :=
  ⟨second.1.trans first.1, fun found => first.2 (second.2 found)⟩

theorem DueBy.of_keepsHandshakes {before after : Pool ω} {now : Nat} (due : before.DueBy now)
    (keeps : before.KeepsHandshakes after) : after.DueBy now :=
  fun session integration child deadline found =>
    due session integration child deadline (keeps.2 found)

theorem keepsHandshakes_erase {before after : Pool ω} {session : SessionId}
    (slots : after.slots = before.slots.erase session)
    (patience : after.patience = before.patience) : before.KeepsHandshakes after := by
  refine ⟨patience, fun {other integration child deadline} found => ?_⟩
  rw [slots, Keyed.get?_erase] at found
  split at found
  · cases found
  · exact found

theorem keepsHandshakes_settle (session : SessionId) :
    pool.KeepsHandshakes (pool.settle host session).2.1 := by
  unfold settle
  rcases pool.slots.get? session with _ | ⟨integration, child, deadline⟩ | ⟨child, channel⟩
  · exact ⟨rfl, id⟩
  · let erased : Pool ω := { pool with slots := pool.slots.erase session }
    rcases outcome_same host erased child with ⟨world, same⟩
    have kept : pool.KeepsHandshakes (outcome host erased child).2.1 := by
      rw [same]
      exact keepsHandshakes_erase rfl rfl
    rcases ended : outcome host erased child with ⟨failure | channel, after, events⟩
    · rw [ended] at kept
      simp only [erased] at ended
      simp only [ended]
      exact kept
    · rw [ended] at kept
      simp only [erased] at ended
      simp only [ended]
      refine ⟨kept.1, fun {other integration child deadline} found => ?_⟩
      simp only [Keyed.get?_put] at found
      split at found
      · cases found
      · exact kept.2 found
  · exact keepsHandshakes_erase rfl rfl

theorem keepsHandshakes_settleEach (sessions : List SessionId) :
    pool.KeepsHandshakes (settleEach host sessions pool).2.1 := by
  induction sessions generalizing pool with
  | nil => exact ⟨rfl, id⟩
  | cons session rest ih => exact (pool.keepsHandshakes_settle host session).trans (ih _)

theorem keepsHandshakes_dueNow : pool.KeepsHandshakes (pool.dueNow host).2 := by
  rcases pool.dueNow_same host with ⟨world, retiring, same⟩
  rw [same]
  exact ⟨rfl, id⟩

theorem keepsHandshakes_poll : pool.KeepsHandshakes (pool.poll host).2.1 :=
  (pool.keepsHandshakes_dueNow host).trans (keepsHandshakes_settleEach host _ _)

theorem keepsHandshakes_afterRounds (rounds : Nat) :
    pool.KeepsHandshakes (pool.afterRounds host rounds) := by
  induction rounds generalizing pool with
  | zero => exact ⟨rfl, id⟩
  | succ rounds ih =>
      have paused : (pool.poll host).2.1.KeepsHandshakes ((pool.poll host).2.1.pause host) :=
        ⟨rfl, id⟩
      exact ((pool.keepsHandshakes_poll host).trans paused).trans (ih _)

/-- Whatever a poll reports was decided at some moment of it, for a handshake that was there. -/
theorem poll_ends {completion : Completion} (reported : completion ∈ (pool.poll host).1) :
    ∃ world integration child deadline, pool.SettlesAt host completion.session world ∧
      pool.slots.get? completion.session = some (.handshaking integration child deadline) ∧
      host.Ends world pool.patience integration child completion.result := by
  rcases settleEach_mem host (pool.dueNow host).2 reported with
    ⟨earlier, session, later, due, settled⟩
  rcases ends_of_settle host _ settled with ⟨rfl, integration, child, deadline, found, ends⟩
  have kept := (pool.keepsHandshakes_dueNow host).trans
    (keepsHandshakes_settleEach host (pool.dueNow host).2 earlier)
  rw [kept.1] at ends
  exact ⟨_, integration, child, deadline, ⟨earlier, later, due, rfl⟩, kept.2 found, ends⟩

end Pool

end EditorSession.Backend
