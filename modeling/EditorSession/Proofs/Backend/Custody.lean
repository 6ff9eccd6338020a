import EditorSession.Proofs.Backend.Slots
import EditorSession.Proofs.Backend.Watch
import Mathlib.Data.Multiset.MapFold

/-!
# The custody of processes

Every process that a pool had spawned is somewhere: in the slot of a session, among those that
retire, or gone, unless a call that unwound has lost it. `Pool.custody` lists the places with the
processes that are there. A call takes each process from its place to one that `Place.Moves` allows,
and adds those it brings up (`Pool.hands_perform`); so the list names every process once, whatever
calls are made and whatever the host answers.
-/

namespace EditorSession.Backend

/-- Where a process is. -/
inductive Place
  | handshaking (session : SessionId)
  | ready (session : SessionId)
  | retiring
  /-- The host was asked to kill it. -/
  | killed
  /-- The host said that it exited. -/
  | exited
  /-- A call had it in hand and unwound. -/
  | lost
  deriving DecidableEq, Repr

/-- The place that the slot of a session is. -/
def Slot.place (session : SessionId) : Slot → Place
  | .handshaking .. => .handshaking session
  | .ready .. => .ready session

/-- The process that is gone by a deed, and how. -/
def Deed.ending? : Deed → Option (Place × Child)
  | .spawned _ => none
  | .killed child => some (.killed, child)
  | .exited child => some (.exited, child)

theorem Slot.place_child_iff {slot : Slot} {session : SessionId} {place : Place} {child : Child} :
    slot.place session = place ∧ slot.child = child ↔
      (place = .handshaking session ∧ ∃ integration deadline,
        slot = .handshaking integration child deadline) ∨
      (place = .ready session ∧ ∃ channel, slot = .ready child channel) := by
  cases slot <;> simp [Slot.place, Slot.child, eq_comm]

theorem Deed.ending?_eq_some_iff {deed : Deed} {place : Place} {child : Child} :
    deed.ending? = some (place, child) ↔
      (place = .killed ∧ deed = .killed child) ∨ (place = .exited ∧ deed = .exited child) := by
  cases deed <;> simp [ending?, eq_comm]

/-- The places that a call takes a process to from where it is. -/
inductive Place.Moves : Pool.Call → Place → Place → Prop
  | stays (call : Pool.Call) (place : Place) : Moves call place place
  /-- The slot is taken by another process of the session. -/
  | replaced (request : StartRequest) (place : Place)
      (inSlot : place = .handshaking request.session ∨ place = .ready request.session) :
      Moves (.start request) place .killed
  | connected (session : SessionId) : Moves .poll (.handshaking session) (.ready session)
  /-- The handshake failed, or took too long. -/
  | refused (session : SessionId) : Moves .poll (.handshaking session) .killed
  | overdue : Moves .poll .retiring .killed
  | left : Moves .poll .retiring .exited
  | aborted (session : SessionId) : Moves (.stop session) (.handshaking session) .killed
  | dismissed (session : SessionId) : Moves (.stop session) (.ready session) .retiring
  /-- The stop unwinds. -/
  | lost (session : SessionId) : Moves (.stop session) (.ready session) .lost

instance (call : Pool.Call) : Std.Refl (Place.Moves call) := ⟨.stays call⟩

instance (call : Pool.Call) : IsTrans Place (Place.Moves call) where
  trans first second third move move' := by
    cases move with
    | stays => exact move'
    | replaced request place inSlot =>
        cases move' with
        | stays => exact .replaced request first inSlot
        | replaced _ _ inSlot' => simp at inSlot'
    | connected session =>
        cases move'
        exact .connected session
    | refused session =>
        cases move'
        exact .refused session
    | overdue =>
        cases move'
        exact .overdue
    | left =>
        cases move'
        exact .left
    | aborted session =>
        cases move'
        exact .aborted session
    | dismissed session =>
        cases move'
        exact .dismissed session
    | lost session =>
        cases move'
        exact .lost session

namespace Pool

variable {ω : Type}

/-- Whether a process is at a place. -/
def At (pool : Pool (Watched ω)) (child : Child) : Place → Prop
  | .handshaking session => ∃ integration deadline,
      pool.slots.get? session = some (.handshaking integration child deadline)
  | .ready session => ∃ channel, pool.slots.get? session = some (.ready child channel)
  | .retiring => ∃ retiring ∈ pool.retiring, retiring.child = child
  | .killed => .killed child ∈ pool.world.deeds
  | .exited => .exited child ∈ pool.world.deeds
  | .lost => child ∈ pool.lost

/-- The processes in slots, those that retire, those that are lost and those that are gone, with their
places. -/
def custodyOf (slots : List (SessionId × Slot)) (retiring : List Retiring) (lost : List Child)
    (deeds : List Deed) : Multiset (Place × Child) :=
  ↑(slots.map (fun entry => (entry.2.place entry.1, entry.2.child)) ++
    retiring.map (fun retiring => (Place.retiring, retiring.child)) ++
    lost.map (fun child => (Place.lost, child)) ++
    deeds.filterMap Deed.ending?)

/-- The processes of a pool with their places. -/
def custody (pool : Pool (Watched ω)) : Multiset (Place × Child) :=
  custodyOf pool.slots.entries pool.retiring pool.lost pool.world.deeds

theorem mem_custody_iff {pool : Pool (Watched ω)} {place : Place} {child : Child} :
    (place, child) ∈ pool.custody ↔ pool.At child place := by
  cases place <;>
    simp [custody, custodyOf, At, Slot.place_child_iff, Deed.ending?_eq_some_iff,
      Keyed.get?_eq_some_iff]

theorem custodyOf_perm {slots slots' : List (SessionId × Slot)} (perm : slots.Perm slots')
    (retiring : List Retiring) (lost : List Child) (deeds : List Deed) :
    custodyOf slots retiring lost deeds = custodyOf slots' retiring lost deeds :=
  Multiset.coe_eq_coe.mpr ((((perm.map _).append_right _).append_right _).append_right _)

theorem custodyOf_retiring (slots : List (SessionId × Slot)) (first : Retiring)
    (retiring : List Retiring) (lost : List Child) (deeds : List Deed) :
    custodyOf slots (first :: retiring) lost deeds =
      (.retiring, first.child) ::ₘ custodyOf slots retiring lost deeds := by
  simp only [custodyOf, List.map_cons, Multiset.cons_coe, Multiset.coe_eq_coe, List.append_assoc]
  exact List.perm_middle

theorem custodyOf_retiring_append (slots : List (SessionId × Slot)) (first : Retiring)
    (retiring : List Retiring) (lost : List Child) (deeds : List Deed) :
    custodyOf slots (retiring ++ [first]) lost deeds =
      (.retiring, first.child) ::ₘ custodyOf slots retiring lost deeds := by
  rw [← custodyOf_retiring, custodyOf, custodyOf, Multiset.coe_eq_coe]
  exact (((List.perm_append_comm.map _).append_left _).append_right _).append_right _

theorem custodyOf_lost_append (slots : List (SessionId × Slot)) (retiring : List Retiring)
    (lost : List Child) (child : Child) (deeds : List Deed) :
    custodyOf slots retiring (lost ++ [child]) deeds =
      (.lost, child) ::ₘ custodyOf slots retiring lost deeds := by
  simp only [custodyOf, List.map_append, List.map_cons, List.map_nil, Multiset.cons_coe,
    Multiset.coe_eq_coe, List.append_assoc, List.singleton_append]
  rw [← List.append_assoc, ← List.append_assoc, ← List.append_assoc, ← List.append_assoc]
  exact List.perm_middle

theorem custodyOf_deeds (slots : List (SessionId × Slot)) (retiring : List Retiring)
    (lost : List Child) (deeds noted : List Deed) :
    custodyOf slots retiring lost (deeds ++ noted) =
      ↑(noted.filterMap Deed.ending?) + custodyOf slots retiring lost deeds := by
  rw [Multiset.add_comm, custodyOf, custodyOf, Multiset.coe_add, List.filterMap_append,
    ← List.append_assoc]

theorem custody_kill (host : Host ω) (pool : Pool (Watched ω)) (session : SessionId)
    (child : Child) :
    (pool.kill host.watched session child).1.custody = (.killed, child) ::ₘ pool.custody :=
  custodyOf_deeds _ _ _ _ _

/-- A kill brings up no process. -/
theorem spawned_kill (host : Host ω) (pool : Pool (Watched ω)) (session : SessionId)
    (child : Child) :
    (pool.kill host.watched session child).1.world.spawned = pool.world.spawned := by
  simp [kill, Host.watched, Watched.step, Watched.spawned, Deed.spawned?]

theorem custody_of_found {pool : Pool (Watched ω)} {session : SessionId} {slot : Slot}
    (found : pool.slots.get? session = some slot) :
    pool.custody = (slot.place session, slot.child) ::ₘ
      custody { pool with slots := pool.slots.erase session } :=
  custodyOf_perm (Keyed.entries_perm_of_found found) _ _ _

theorem custody_put (pool : Pool (Watched ω)) (session : SessionId) (slot : Slot) :
    custody { pool with slots := pool.slots.put session slot } =
      (slot.place session, slot.child) ::ₘ
        custody { pool with slots := pool.slots.erase session } :=
  custodyOf_perm (Keyed.entries_put_perm _ _ _) _ _ _

theorem custody_of_absent {pool : Pool (Watched ω)} {session : SessionId}
    (absent : pool.slots.get? session = none) :
    custody { pool with slots := pool.slots.erase session } = pool.custody := by
  rw [custody, custody, Keyed.entries_erase_of_absent absent]

/-! ### Handing over -/

/-- A pool hands its processes over to a later one: those it brings up in between come to some
place, and each process is moved as allowed. -/
structure Hands (moves : Place → Place → Prop) (before : Pool (Watched ω))
    (born : List (Place × Child)) (after : Pool (Watched ω)) : Prop where
  kept : Multiset.Rel (fun source target => moves source.1 target.1 ∧ source.2 = target.2)
    ((born : Multiset (Place × Child)) + before.custody) after.custody
  spawned : after.world.spawned = before.world.spawned ++ born.map Prod.snd
  serials : (born.map Prod.snd).map Child.serial = List.range' (before.spawned + 1) born.length
  count : after.spawned = before.spawned + born.length

section Hands

variable {moves : Place → Place → Prop} {before between after : Pool (Watched ω)}

/-- Processes that are left alone are moved as any may be. -/
theorem rel_refl [Std.Refl moves] (custody : Multiset (Place × Child)) :
    Multiset.Rel (fun source target => moves source.1 target.1 ∧ source.2 = target.2)
      custody custody :=
  Multiset.rel_refl_of_refl_on fun _ _ => ⟨Std.Refl.refl _, rfl⟩

/-- Nothing happened that bears on a process. -/
theorem Hands.of_same [Std.Refl moves] (slots : after.slots = before.slots)
    (retiring : after.retiring = before.retiring) (lost : after.lost = before.lost)
    (deeds : after.world.deeds = before.world.deeds) (count : after.spawned = before.spawned) :
    Hands moves before [] after where
  kept := by
    rw [custody, custody, slots, retiring, lost, deeds]
    exact rel_refl _
  spawned := by simp [Watched.spawned, deeds]
  serials := rfl
  count := count

theorem Hands.trans [IsTrans Place moves] (first : Hands moves before [] between)
    (second : Hands moves between [] after) : Hands moves before [] after where
  kept := by
    have : IsTrans (Place × Child) fun source target =>
        moves source.1 target.1 ∧ source.2 = target.2 :=
      ⟨fun _ _ _ earlier later =>
        ⟨IsTrans.trans _ _ _ earlier.1 later.1, earlier.2.trans later.2⟩⟩
    simpa using Multiset.Rel.trans _ (by simpa using first.kept) (by simpa using second.kept)
  spawned := by simpa [first.spawned] using second.spawned
  serials := rfl
  count := second.count.trans first.count

/-- What is done to a process that retires is done to it alone. -/
theorem Hands.cons_retiring [Std.Refl moves] {retiring retiring' : List Retiring}
    (first : Retiring)
    (hands : Hands moves { before with retiring } [] { after with retiring := retiring' }) :
    Hands moves { before with retiring := first :: retiring } []
      { after with retiring := first :: retiring' } where
  kept := by
    have kept := hands.kept
    simp only [custody, custodyOf_retiring, Multiset.coe_nil, Multiset.zero_add] at kept ⊢
    exact Multiset.Rel.cons ⟨Std.Refl.refl _, rfl⟩ kept
  spawned := hands.spawned
  serials := rfl
  count := hands.count

/-- One process is moved. -/
theorem Hands.of_move [Std.Refl moves] {place place' : Place} {child : Child}
    {rest : Multiset (Place × Child)} (move : moves place place')
    (custody : before.custody = (place, child) ::ₘ rest)
    (custody' : after.custody = (place', child) ::ₘ rest)
    (spawned : after.world.spawned = before.world.spawned)
    (count : after.spawned = before.spawned) : Hands moves before [] after where
  kept := by
    rw [custody, custody', Multiset.coe_nil, Multiset.zero_add]
    exact Multiset.Rel.cons ⟨move, rfl⟩ (rel_refl _)
  spawned := by simp [spawned]
  serials := rfl
  count := count

/-- A process that retires is gone by a deed. -/
theorem Hands.retire [Std.Refl moves] (pool : Pool (Watched ω)) (first : Retiring)
    (rest : List Retiring) {deed : Deed} {place : Place} {world : Watched ω}
    (ending : deed.ending? = some (place, first.child)) (move : moves .retiring place)
    (deeds : world.deeds = pool.world.deeds ++ [deed]) :
    Hands moves { pool with retiring := first :: rest } []
      { pool with world, retiring := rest } := by
  refine .of_move move (custodyOf_retiring _ _ _ _ _) ?_ ?_ rfl
  · simp only [custody, deeds, custodyOf_deeds, List.filterMap_cons, ending, List.filterMap_nil,
      Multiset.coe_singleton, Multiset.singleton_add]
  · cases deed <;> simp_all [Watched.spawned, Deed.ending?, Deed.spawned?]

end Hands

/-! ### Polling -/

section Poll

variable (host : Host ω) (pool : Pool (Watched ω))

/-- A look at a process that retires leaves it, or is the last one. -/
theorem reap_cases (now : Nat) (retiring : Retiring) : ∃ world,
    (pool.reap host.watched now retiring).2.1 = { pool with world } ∧
      (((pool.reap host.watched now retiring).1 = false ∧ world.deeds = pool.world.deeds) ∨
        ((pool.reap host.watched now retiring).1 = true ∧
          ∃ deed ∈ [Deed.killed retiring.child, .exited retiring.child],
            world.deeds = pool.world.deeds ++ [deed])) := by
  rcases answered : host.tryWait retiring.child pool.world.inner with ⟨answer, world⟩
  have watched : host.watched.tryWait retiring.child pool.world =
      (answer, pool.world.step world (Deed.ofWaiting retiring.child answer)) := by
    simp [Host.watched, answered]
  unfold reap
  rw [watched]
  have killed : pool.world.deeds ++ [] ++ [Deed.killed retiring.child] =
      pool.world.deeds ++ [.killed retiring.child] := by simp
  cases answer with
  | exited status => exact ⟨_, rfl, .inr ⟨rfl, _, by simp, rfl⟩⟩
  | alive =>
      dsimp only
      split
      · exact ⟨_, rfl, .inl ⟨rfl, List.append_nil _⟩⟩
      · exact ⟨_, rfl, .inr ⟨rfl, _, by simp, killed⟩⟩
  | unknown cause =>
      dsimp only
      split
      · exact ⟨_, rfl, .inl ⟨rfl, List.append_nil _⟩⟩
      · exact ⟨_, rfl, .inr ⟨rfl, _, by simp, killed⟩⟩

/-- A look at a process that retires, in a round of looks. -/
theorem hands_reap {moves : Place → Place → Prop} [Std.Refl moves]
    (overdue : moves .retiring .killed) (left : moves .retiring .exited) (now : Nat)
    (first : Retiring) (rest : List Retiring)
    (gone : (pool.reap host.watched now first).1 = true) :
    Hands moves { pool with retiring := first :: rest } []
      { (pool.reap host.watched now first).2.1 with retiring := rest } := by
  rcases pool.reap_cases host now first with
    ⟨world, same, ⟨kept, -⟩ | ⟨-, deed, deedMem, deeds⟩⟩
  · rw [kept] at gone
    cases gone
  · rw [same]
    simp only [List.mem_cons, List.not_mem_nil, or_false] at deedMem
    rcases deedMem with rfl | rfl
    · exact Hands.retire pool first rest rfl overdue deeds
    · exact Hands.retire pool first rest rfl left deeds

theorem hands_reapEach (now : Nat) (retiring : List Retiring) :
    Hands (Place.Moves .poll) { pool with retiring } []
      { (reapEach host.watched now retiring pool).2.1 with
        retiring := (reapEach host.watched now retiring pool).1 } := by
  induction retiring generalizing pool with
  | nil => exact Hands.of_same rfl rfl rfl rfl rfl
  | cons first rest ih =>
      have later := ih (pool.reap host.watched now first).2.1
      cases gone : (pool.reap host.watched now first).1 with
      | true =>
          have taken := hands_reap host pool Place.Moves.overdue .left now first rest gone
          simp only [reapEach, gone, ↓reduceIte]
          exact taken.trans later
      | false =>
          rcases pool.reap_cases host now first with ⟨world, same, ⟨-, deeds⟩ | ⟨taken, -⟩⟩
          · have untouched : Hands (Place.Moves .poll) { pool with retiring := first :: rest } []
                { (pool.reap host.watched now first).2.1 with retiring := first :: rest } := by
              rw [same]
              exact Hands.of_same rfl rfl rfl deeds rfl
            simp only [reapEach, gone, Bool.false_eq_true, ↓reduceIte]
            exact untouched.trans (later.cons_retiring first)
          · rw [taken] at gone
            cases gone

/-- The end of a handshake bears on no process by itself. -/
theorem outcome_deeds (child : Child) : ∃ world,
    (pool.outcome host.watched child).2.1 = { pool with world } ∧
      world.deeds = pool.world.deeds := by
  unfold outcome
  dsimp only
  split <;> exact ⟨_, rfl, rfl⟩

/-- A process whose handshake is settled stays in the slot, which is ready now, or is killed. -/
theorem hands_settle {session : SessionId} {integration : String} {child : Child} {deadline : Nat}
    (found : pool.slots.get? session = some (.handshaking integration child deadline)) :
    Hands (Place.Moves .poll) pool [] (pool.settle host.watched session).2.1 := by
  let without : Pool (Watched ω) := { pool with slots := pool.slots.erase session }
  rcases without.outcome_deeds host child with ⟨world, same, deeds⟩
  have emptied : custody { without with world } = without.custody := by rw [custody, deeds, custody]
  have spawned : world.spawned = pool.world.spawned := by
    rw [Watched.spawned, deeds, Watched.spawned]
  unfold settle
  rw [found]
  dsimp only
  rcases ended : without.outcome host.watched child with ⟨result, after, events⟩
  rw [ended] at same
  dsimp only at same
  subst same
  cases result with
  | ok channel =>
      refine .of_move (.connected session) (custody_of_found found) ?_ spawned rfl
      rw [← emptied]
      exact (custody_put _ session (.ready child channel)).trans
        (congrArg _ (custody_of_absent (by simp [without, Keyed.get?_erase])))
  | error failure =>
      refine .of_move (.refused session) (custody_of_found found) ?_ ?_ rfl
      · exact (custody_kill host _ session child).trans (congrArg _ emptied)
      · exact (spawned_kill host _ session child).trans spawned

theorem hands_settleEach {sessions : List SessionId} (distinct : sessions.Nodup)
    (starting : ∀ session ∈ sessions, pool.progress? session = some .starting) :
    Hands (Place.Moves .poll) pool [] (settleEach host.watched sessions pool).2.1 := by
  induction sessions generalizing pool with
  | nil => exact .of_same rfl rfl rfl rfl rfl
  | cons session rest ih =>
      rcases pool.progress?_eq_starting_iff.mp (starting session (by simp)) with
        ⟨integration, child, deadline, found⟩
      rcases pool.settle_of_starting host.watched (starting session (by simp)) with
        ⟨result, -, progress⟩
      refine (hands_settle host pool found).trans (ih _ (List.nodup_cons.mp distinct).2 ?_)
      intro other otherMem
      rw [progress, if_neg (ne_of_mem_of_not_mem otherMem (List.nodup_cons.mp distinct).1)]
      exact starting other (by simp [otherMem])

/-- Looking for handshakes that are due bears on no process. -/
theorem deeds_dueAmong (now : Nat) (entries : List (SessionId × Slot)) (world : Watched ω) :
    (dueAmong host.watched now entries world).2.deeds = world.deeds := by
  induction entries generalizing world with
  | nil => rfl
  | cons entry rest ih =>
      rcases entry with ⟨session, ⟨integration, child, deadline⟩ | ⟨child, channel⟩⟩
      · exact ih _
      · exact ih _

theorem hands_poll : Hands (Place.Moves .poll) pool [] (pool.poll host.watched).2.1 := by
  let clock := host.watched.clock pool.world
  let exited := (reapAll host.watched clock.1 { pool with world := clock.2 }).1
  let due := dueAmong host.watched clock.1 exited.slots.entries exited.world
  have ticked : Hands (Place.Moves .poll) pool [] { pool with world := clock.2 } :=
    .of_same rfl rfl rfl rfl rfl
  have reaped : Hands (Place.Moves .poll) { pool with world := clock.2 } [] exited :=
    hands_reapEach host { pool with world := clock.2 } clock.1 pool.retiring
  have looked : Hands (Place.Moves .poll) exited [] { exited with world := due.2 } :=
    .of_same rfl rfl rfl (deeds_dueAmong host _ _ _) rfl
  have settled : Hands (Place.Moves .poll) { exited with world := due.2 } []
      (settleEach host.watched due.1 { exited with world := due.2 }).2.1 :=
    hands_settleEach host _ (exited.dueAmong_distinct host.watched _ _)
      fun _ => exited.starting_of_due host.watched
  exact ((ticked.trans reaped).trans looked).trans settled

end Poll

/-! ### Starting and stopping -/

/-- What an attempt to bring up a process comes to, and the pool it leaves. -/
inductive Attempt {α : Type} (childOf : α → Child) (pool : Pool (Watched ω)) :
    Handled (Except Failure α) → Pool (Watched ω) → Prop
  /-- There is no process. -/
  | refused (failure : Failure) {world : Watched ω} (deeds : world.deeds = pool.world.deeds) :
      Attempt childOf pool (.returned (.error failure)) { pool with world }
  /-- There was one, and it is killed at once. -/
  | dropped (failure : Failure) {child : Child} {world : Watched ω}
      (serial : child.serial = pool.spawned + 1)
      (deeds : world.deeds = pool.world.deeds ++ [.spawned child, .killed child]) :
      Attempt childOf pool (.returned (.error failure))
        { pool with world, spawned := pool.spawned + 1 }
  | up (raised : α) {world : Watched ω} (serial : (childOf raised).serial = pool.spawned + 1)
      (deeds : world.deeds = pool.world.deeds ++ [.spawned (childOf raised)]) :
      Attempt childOf pool (.returned (.ok raised))
        { pool with world, spawned := pool.spawned + 1 }
  /-- There is one, and nothing looks after it. -/
  | lost {child : Child} {world : Watched ω} (serial : child.serial = pool.spawned + 1)
      (deeds : world.deeds = pool.world.deeds ++ [.spawned child]) :
      Attempt childOf pool .unwound
        { pool with world, spawned := pool.spawned + 1, lost := pool.lost ++ [child] }

section Calls

variable (host : Host ω) (pool : Pool (Watched ω))

theorem attempt_spawn (launch : LaunchSpecification) :
    Attempt id pool (.returned (pool.spawn host.watched launch).1)
      (pool.spawn host.watched launch).2.1 := by
  rcases answered : host.spawn (pool.spawned + 1) launch pool.world.inner with ⟨answer, world⟩
  have watched : host.watched.spawn (pool.spawned + 1) launch pool.world =
      (answer, pool.world.step world (Deed.ofSpawning (pool.spawned + 1) answer)) := by
    simp [Host.watched, answered]
  unfold spawn
  rw [watched]
  cases answer with
  | up process => exact Attempt.up (⟨pool.spawned + 1, process⟩ : Child) rfl rfl
  | unpiped process =>
      have deeds : pool.world.deeds ++ [.spawned ⟨pool.spawned + 1, process⟩] ++
          [.killed ⟨pool.spawned + 1, process⟩] = pool.world.deeds ++
            [.spawned ⟨pool.spawned + 1, process⟩, .killed ⟨pool.spawned + 1, process⟩] := by simp
      exact .dropped _ rfl deeds
  | missing cause => exact .refused _ (List.append_nil _)
  | refused cause => exact .refused _ (List.append_nil _)

theorem attempt_beginHandshake (request : StartRequest) :
    Attempt Prod.fst pool (pool.beginHandshake host.watched request).1
      (pool.beginHandshake host.watched request).2.1 := by
  have spawning := pool.attempt_spawn host request.launch
  unfold beginHandshake
  rcases spawned : pool.spawn host.watched request.launch with ⟨failure | child, after, events⟩
  · rw [spawned] at spawning
    cases spawning with
    | refused failure deeds => exact .refused failure deeds
    | dropped failure serial deeds => exact .dropped failure serial deeds
  · rw [spawned] at spawning
    cases spawning with
    | @up child world serial deeds =>
        -- Neither the worker nor the clock bears on the process.
        rcases answered : host.startGreeting child request world.inner with ⟨refusal, greeted⟩
        have watched : host.watched.startGreeting child request world =
            (refusal, world.quietly greeted) := by
          simp [Host.watched, answered]
        simp only [watched, deadline_watched]
        cases refusal with
        | some cause =>
            have dropped : world.deeds ++ [.killed child] =
                pool.world.deeds ++ [.spawned child, .killed child] := by simp [deeds]
            exact .dropped _ serial dropped
        | none =>
            have brought : world.deeds = pool.world.deeds ++ [.spawned child] := deeds
            rcases told : host.deadline pool.patience greeted with ⟨_ | deadline, later⟩
            · simp only [Watched.quietly, told, Prod.map, id]
              exact .lost serial brought
            · simp only [Watched.quietly, told, Prod.map, id]
              exact .up (child, deadline) serial brought

/-- A process that is brought up is in the slot of its session, killed or lost. What was in the slot
before is killed. -/
theorem hands_start (request : StartRequest) : ∃ born,
    Hands (Place.Moves (.start request)) pool born (pool.tryStart host.watched request).2.1 := by
  have beginning := pool.attempt_beginHandshake host request
  unfold tryStart
  rcases begun : pool.beginHandshake host.watched request with ⟨result, after, events⟩
  rw [begun] at beginning
  cases beginning with
  | refused failure deeds => exact ⟨[], .of_same rfl rfl rfl deeds rfl⟩
  | @dropped failure child world serial deeds =>
      refine ⟨[(.killed, child)], ?_, ?_, by simp [serial], rfl⟩
      · simp only [custody, deeds, custodyOf_deeds]
        exact rel_refl _
      · simp [Watched.spawned, deeds, Deed.spawned?]
  | @lost child world serial deeds =>
      refine ⟨[(.lost, child)], ?_, ?_, by simp [serial], rfl⟩
      · have custody_lost : custodyOf pool.slots.entries pool.retiring (pool.lost ++ [child])
            world.deeds = (.lost, child) ::ₘ pool.custody := by
          rw [custodyOf_lost_append, deeds, custodyOf_deeds]
          exact congrArg _ (Multiset.zero_add _)
        change Multiset.Rel _ _ (custodyOf pool.slots.entries pool.retiring (pool.lost ++ [child])
          world.deeds)
        rw [custody_lost]
        exact rel_refl _
      · simp [Watched.spawned, deeds, Deed.spawned?]
  | @up raised world serial deeds =>
      rcases raised with ⟨child, deadline⟩
      let brought : Pool (Watched ω) := { pool with world, spawned := pool.spawned + 1 }
      have custody_brought : brought.custody = pool.custody := by
        rw [custody, deeds, custodyOf_deeds]
        exact Multiset.zero_add _
      have spawned : world.spawned = pool.world.spawned ++ [child] := by
        simp [Watched.spawned, deeds, Deed.spawned?]
      let slot : Slot := .handshaking request.launch.integration child deadline
      have filled : custody { brought with slots := pool.slots.put request.session slot } =
          (.handshaking request.session, child) ::ₘ
            custody { brought with slots := pool.slots.erase request.session } :=
        custody_put brought request.session slot
      refine ⟨[(.handshaking request.session, child)], ?_⟩
      cases found : pool.slots.get? request.session with
      | none =>
          have absent : brought.slots.get? request.session = none := found
          have emptied : custody { brought with slots := pool.slots.erase request.session } =
              pool.custody := (custody_of_absent absent).trans custody_brought
          simp only [found]
          refine ⟨?_, spawned, by simpa using serial, rfl⟩
          rw [filled, emptied]
          exact rel_refl _
      | some previous =>
          have present : brought.slots.get? request.session = some previous := found
          have emptied : pool.custody = (previous.place request.session, previous.child) ::ₘ
              custody { brought with slots := pool.slots.erase request.session } :=
            custody_brought.symm.trans (custody_of_found present)
          have inSlot : previous.place request.session = .handshaking request.session ∨
              previous.place request.session = .ready request.session := by
            cases previous <;> simp [Slot.place]
          simp only [found]
          refine ⟨?_, (spawned_kill host _ _ _).trans spawned, by simpa using serial, rfl⟩
          rw [custody_kill, filled, emptied, Multiset.cons_swap (Place.killed, previous.child),
            Multiset.coe_singleton, Multiset.singleton_add]
          exact .cons ⟨Place.Moves.stays _ _, rfl⟩
            (.cons ⟨Place.Moves.replaced request _ inSlot, rfl⟩ (rel_refl _))

theorem hands_stop (session : SessionId) :
    Hands (Place.Moves (.stop session)) pool [] (pool.tryStop host.watched session).2.1 := by
  unfold tryStop
  rcases found : pool.slots.get? session with
    _ | ⟨integration, child, deadline⟩ | ⟨child, channel⟩
  · exact .of_same rfl rfl rfl rfl rfl
  · refine .of_move (.aborted session) (custody_of_found found) ?_ ?_ rfl
    · exact custody_kill host _ session child
    · exact spawned_kill host _ session child
  · rcases answered : host.startDismissal child channel pool.world.inner with ⟨cause, noted, world⟩
    have watched : host.watched.startDismissal child channel pool.world =
        (cause, noted, pool.world.quietly world) := by
      simp [Host.watched, answered]
    simp only [watched, deadline_watched]
    rcases told : host.deadline grace world with ⟨_ | deadline, later⟩
    · simp only [Watched.quietly, told, Prod.map, id]
      exact .of_move (.lost session) (custody_of_found found) (custodyOf_lost_append _ _ _ _ _)
        rfl rfl
    · simp only [Watched.quietly, told, Prod.map, id]
      exact .of_move (.dismissed session) (custody_of_found found)
        (custodyOf_retiring_append _ _ _ _ _) rfl rfl

/-- A call hands over every process. -/
theorem hands_perform (call : Call) :
    ∃ born, Hands (Place.Moves call) pool born (pool.perform host.watched call) := by
  cases call with
  | start request => exact pool.hands_start host request
  | poll => exact ⟨[], pool.hands_poll host⟩
  | stop session => exact ⟨[], pool.hands_stop host session⟩
  | wait => exact ⟨[], .of_same rfl rfl rfl rfl rfl⟩

end Calls

end Pool

end EditorSession.Backend
