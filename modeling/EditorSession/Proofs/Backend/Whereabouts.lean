import EditorSession.Proofs.Backend.Custody

/-!
# The whereabouts of processes

No process is lost as long as no call unwinds (`Pool.returning_iff`). Each one that a pool had spawned
is at one place, whatever calls were made (`Pool.InCustody`), and when the pool is given up, which
ends where time goes on (`Host.Timely`), each one that is not lost was killed or has exited.
`Pool.processes_accounted_for` is the whole of it.
-/

namespace EditorSession.Backend

/-- The places that giving up a pool takes a process to from where it is. -/
inductive Place.Drops : Place → Place → Prop
  | stays (place : Place) : Drops place place
  /-- The slots are given up at once. -/
  | abandoned (session : SessionId) (place : Place)
      (inSlot : place = .handshaking session ∨ place = .ready session) : Drops place .killed
  | overdue : Drops .retiring .killed
  | left : Drops .retiring .exited

instance : Std.Refl Place.Drops := ⟨.stays⟩

instance : IsTrans Place Place.Drops where
  trans first second third drop drop' := by
    cases drop with
    | stays => exact drop'
    | abandoned session place inSlot =>
        cases drop' with
        | stays => exact .abandoned session first inSlot
        | abandoned _ _ inSlot' => simp at inSlot'
    | overdue =>
        cases drop' with
        | stays => exact .overdue
        | abandoned _ _ inSlot => simp at inSlot
    | left =>
        cases drop' with
        | stays => exact .left
        | abandoned _ _ inSlot => simp at inSlot

/-- A host on which time goes on: no answer turns it back, the clock is not behind it, and a pause
lets some of it pass. -/
structure Host.Timely {ω : Type} (host : Host ω) (time : ω → Nat) : Prop where
  read : ∀ world, time world ≤ (host.clock world).1
  clock : ∀ world, time world ≤ time (host.clock world).2
  tryWait : ∀ child world, time world ≤ time (host.tryWait child world).2
  kill : ∀ child world, time world ≤ time (host.kill child world).2
  pause : ∀ world, time world < time (host.pause world)

/-- On a host whose state is the time, a pause is all that takes any. -/
example : @Host.Timely Nat
    { clock := fun now => (now, now)
      horizon := 0
      spawn := fun _ _ now => (.refused "no process", now)
      startGreeting := fun _ _ now => (none, now)
      isFinished := fun _ now => (false, now)
      join := fun _ now => (.broken, [], now)
      startDismissal := fun _ _ now => (none, [], now)
      tryWait := fun _ now => (.alive, now)
      kill := fun _ now => (none, now)
      pause := Nat.succ } id :=
  ⟨fun _ => Nat.le_refl _, fun _ => Nat.le_refl _, fun _ _ => Nat.le_refl _,
    fun _ _ => Nat.le_refl _, Nat.lt_succ_self⟩

namespace Pool

variable {ω : Type}

/-! ### What is lost -/

section Lost

variable (host : Host ω)

/-- A call unwinds. -/
def Call.Unwinds (pool : Pool ω) : Call → Prop
  | .start request => (pool.tryStart host request).1 = .unwound
  | .poll => False
  | .stop session => (pool.tryStop host session).1 = .unwound
  | .wait => False

/-- None of some calls unwinds, if they are made in turn. -/
def Returning : List Call → Pool ω → Prop
  | [], _ => True
  | call :: rest, pool => ¬call.Unwinds host pool ∧ Returning rest (pool.perform host call)

variable (pool : Pool ω)

/-- A call loses a process exactly if it unwinds, and it does not if the clock can tell all
deadlines. -/
theorem perform_lost (call : Call) :
    (¬call.Unwinds host pool ∧ (pool.perform host call).lost = pool.lost) ∨
    (call.Unwinds host pool ∧ ¬(host.Tells pool.patience ∧ host.Tells grace) ∧
      ∃ child, (pool.perform host call).lost = pool.lost ++ [child]) := by
  cases call with
  | start request =>
      rcases pool.tryStart_lost host request with ⟨returned, kept⟩ | ⟨unwound, untold, lost⟩
      · exact .inl ⟨returned, kept⟩
      · exact .inr ⟨unwound, fun tells => untold tells.1, lost⟩
  | poll => exact .inl ⟨id, pool.poll_lost host⟩
  | stop session =>
      rcases pool.tryStop_lost host session with ⟨returned, kept⟩ | ⟨unwound, untold, lost⟩
      · exact .inl ⟨returned, kept⟩
      · exact .inr ⟨unwound, fun tells => untold tells.2, lost⟩
  | wait => exact .inl ⟨id, rfl⟩

theorem perform_patience (call : Call) : (pool.perform host call).patience = pool.patience := by
  cases call with
  | start request => exact pool.tryStart_patience host request
  | poll => exact pool.poll_patience host
  | stop session => exact pool.tryStop_patience host session
  | wait => rfl

theorem performAll_lost (calls : List Call) : pool.lost <+: (pool.performAll host calls).lost := by
  induction calls generalizing pool with
  | nil => exact List.prefix_refl _
  | cons call rest ih =>
      have later : (pool.perform host call).lost <+: (pool.performAll host (call :: rest)).lost :=
        ih (pool.perform host call)
      rcases pool.perform_lost host call with ⟨-, kept⟩ | ⟨-, -, child, lost⟩
      · rwa [kept] at later
      · rw [lost] at later
        exact (List.prefix_append _ _).trans later

/-- Processes are lost by calls that unwind, and by no others. -/
theorem returning_iff (calls : List Call) :
    Returning host calls pool ↔ (pool.performAll host calls).lost = pool.lost := by
  induction calls generalizing pool with
  | nil => exact iff_of_true trivial rfl
  | cons call rest ih =>
      have later : (pool.perform host call).lost <+: (pool.performAll host (call :: rest)).lost :=
        (pool.perform host call).performAll_lost host rest
      have step : Returning host (call :: rest) pool ↔ ¬call.Unwinds host pool ∧
          (pool.performAll host (call :: rest)).lost = (pool.perform host call).lost :=
        and_congr_right fun _ => ih (pool.perform host call)
      rw [step]
      rcases pool.perform_lost host call with ⟨returned, kept⟩ | ⟨unwound, -, child, lost⟩
      · simp [returned, kept]
      · refine iff_of_false (fun both => both.1 unwound) fun same => ?_
        rw [lost, same] at later
        have shorter : (pool.lost ++ [child]).length ≤ pool.lost.length := later.length_le
        rw [List.length_append, List.length_singleton] at shorter
        omega

/-- No call unwinds if the clock can tell all deadlines. -/
theorem returning_of_tells (calls : List Call) (patience : host.Tells pool.patience)
    (graceful : host.Tells grace) : Returning host calls pool := by
  induction calls generalizing pool with
  | nil => trivial
  | cons call rest ih =>
      constructor
      · rcases pool.perform_lost host call with ⟨returned, -⟩ | ⟨-, untold, -⟩
        · exact returned
        · exact absurd ⟨patience, graceful⟩ untold
      · apply ih
        rw [perform_patience]
        exact patience

end Lost

/-! ### The invariant -/

/-- Every process that was spawned is named once in the custody of the pool. -/
structure InCustody (pool : Pool (Watched ω)) : Prop where
  all : pool.custody.map Prod.snd = pool.world.spawned
  serials : pool.world.spawned.map Child.serial = List.range' 1 pool.spawned

namespace InCustody

variable {pool after : Pool (Watched ω)}

theorem fresh (world : ω) (patience : Nat) :
    ({ world := { inner := world }, patience } : Pool (Watched ω)).InCustody where
  all := rfl
  serials := rfl

theorem distinct (inCustody : pool.InCustody) : (pool.custody.map Prod.snd).Nodup := by
  have serials : (pool.world.spawned.map Child.serial).Nodup := by
    rw [inCustody.serials]
    exact List.nodup_range'
  rw [inCustody.all]
  exact Multiset.coe_nodup.mpr (.of_map _ serials)

theorem mem_spawned_iff (inCustody : pool.InCustody) {child : Child} :
    child ∈ pool.world.spawned ↔ ∃ place, pool.At child place := by
  rw [← Multiset.mem_coe, ← inCustody.all]
  simp [mem_custody_iff]

theorem place_unique (inCustody : pool.InCustody) {child : Child} {place place' : Place}
    (found : pool.At child place) (found' : pool.At child place') : place = place' :=
  congrArg Prod.fst (Multiset.inj_on_of_nodup_map inCustody.distinct _ (mem_custody_iff.mpr found)
    _ (mem_custody_iff.mpr found') rfl)

variable {moves : Place → Place → Prop} {born : List (Place × Child)}

theorem handed (inCustody : pool.InCustody) (hands : Hands moves pool born after) :
    after.InCustody where
  all := by
    have same : Multiset.Rel (· = ·)
        (((born : Multiset (Place × Child)) + pool.custody).map Prod.snd)
        (after.custody.map Prod.snd) :=
      Multiset.rel_map.mpr (hands.kept.mono fun _ _ _ _ related => related.2)
    rw [← Multiset.rel_eq.mp same, Multiset.map_add, inCustody.all, hands.spawned, Multiset.map_coe,
      Multiset.add_comm, Multiset.coe_add]
  serials := by
    rw [hands.spawned, hands.count, List.map_append, inCustody.serials, hands.serials,
      Nat.add_comm pool.spawned, List.range'_append_1]

/-- A process that is handed over has been moved as allowed. -/
theorem moved (inCustody : pool.InCustody) (hands : Hands moves pool born after) {child : Child}
    {place place' : Place} (found : pool.At child place) (found' : after.At child place') :
    moves place place' := by
  have held : (place, child) ∈ (born : Multiset (Place × Child)) + pool.custody :=
    Multiset.mem_add.mpr (.inr (mem_custody_iff.mpr found))
  rcases Multiset.exists_mem_of_rel_of_mem hands.kept held with ⟨⟨other, _⟩, otherMem, move, rfl⟩
  rwa [(inCustody.handed hands).place_unique found' (mem_custody_iff.mp otherMem)]

theorem performAll (inCustody : pool.InCustody) (host : Host ω) (calls : List Call) :
    (pool.performAll host.watched calls).InCustody := by
  induction calls generalizing pool with
  | nil => exact inCustody
  | cons call rest ih =>
      rcases pool.hands_perform host call with ⟨born, hands⟩
      exact ih (inCustody.handed hands)

end InCustody

/-! ### Giving up a pool -/

section Close

variable (host : Host ω)

theorem killEach_deeds (slots : List (SessionId × Slot)) (pool : Pool (Watched ω)) : ∃ world,
    (killEach host.watched slots pool).1 = { pool with world } ∧
      world.deeds = pool.world.deeds ++ slots.map fun entry => .killed entry.2.child := by
  induction slots generalizing pool with
  | nil => exact ⟨pool.world, rfl, by simp⟩
  | cons entry rest ih =>
      rcases ih (pool.kill host.watched entry.1 entry.2.child).1 with ⟨world, same, deeds⟩
      refine ⟨world, same, ?_⟩
      rw [deeds, List.map_cons, ← List.singleton_append, ← List.append_assoc]
      rfl

/-- The processes in slots are killed when the slots are given up. -/
theorem hands_killEach (pool : Pool (Watched ω)) :
    Hands Place.Drops pool []
      (killEach host.watched pool.slots.entries { pool with slots := .empty }).1 := by
  rcases killEach_deeds host pool.slots.entries { pool with slots := .empty } with
    ⟨world, same, deeds⟩
  let inSlots : Multiset (Place × Child) :=
    (pool.slots.entries : Multiset (SessionId × Slot)).map fun entry =>
      (entry.2.place entry.1, entry.2.child)
  let killed : Multiset (Place × Child) :=
    (pool.slots.entries : Multiset (SessionId × Slot)).map fun entry => (.killed, entry.2.child)
  have before : pool.custody =
      inSlots + custodyOf [] pool.retiring pool.lost pool.world.deeds := by
    simp [custody, custodyOf, inSlots]
  have after : custodyOf [] pool.retiring pool.lost world.deeds =
      killed + custodyOf [] pool.retiring pool.lost pool.world.deeds := by
    rw [deeds, custodyOf_deeds, List.filterMap_map]
    simp [killed, Function.comp_def, Deed.ending?]
  have moved : Multiset.Rel (fun source target => source.1.Drops target.1 ∧ source.2 = target.2)
      inSlots killed := by
    refine Multiset.rel_map.mpr (Multiset.rel_refl_of_refl_on fun entry _ => ⟨?_, rfl⟩)
    refine .abandoned entry.1 _ ?_
    cases entry.2 <;> simp [Slot.place]
  rw [same]
  refine ⟨?_, ?_, rfl, rfl⟩
  · rw [before, Multiset.coe_nil, Multiset.zero_add]
    change Multiset.Rel _ _ (custodyOf [] pool.retiring pool.lost world.deeds)
    rw [after]
    exact moved.add (rel_refl _)
  · simp [Watched.spawned, deeds, Function.comp_def, Deed.spawned?]

/-- Waiting for a process ends when it is killed or seen to have exited. -/
theorem finish_deeds {retiring : Retiring} {looks : Nat} {pool after : Pool (Watched ω)}
    {events : List Event}
    (finished : pool.finish host.watched retiring looks = some (after, events)) :
    ∃ world, after = { pool with world } ∧
      ∃ deed ∈ [Deed.killed retiring.child, .exited retiring.child],
        world.deeds = pool.world.deeds ++ [deed] := by
  induction looks generalizing pool events with
  | zero => cases finished
  | succ looks ih =>
      let clock := host.watched.clock pool.world
      rcases reap_cases host { pool with world := clock.2 } clock.1 retiring with
        ⟨world, same, reaped⟩
      unfold finish at finished
      rcases looked : reap host.watched clock.1 { pool with world := clock.2 } retiring with
        ⟨_ | _, left, noted⟩
      · rw [looked] at same reaped
        simp only [clock] at looked
        simp only [looked, Option.map_eq_some_iff] at finished
        rcases finished with ⟨⟨left', further⟩, later, sameEnd⟩
        cases sameEnd
        rcases reaped with ⟨-, deeds⟩ | ⟨gone, -⟩
        · rcases ih later with ⟨world', sameLater, deed, deedMem, deeds'⟩
          dsimp only at same
          subst same
          exact ⟨world', sameLater, deed, deedMem, deeds'.trans (congrArg (· ++ _) deeds)⟩
        · cases gone
      · rw [looked] at same reaped
        simp only [clock] at looked
        simp only [looked, Option.some.injEq, Prod.mk.injEq] at finished
        rcases finished with ⟨rfl, -⟩
        rcases reaped with ⟨kept, -⟩ | ⟨-, gone⟩
        · cases kept
        · exact ⟨world, same, gone⟩

theorem hands_finishEach {looks : Nat} {retiring : List Retiring} {pool after : Pool (Watched ω)}
    {events : List Event} (noneRetires : pool.retiring = [])
    (finished : finishEach host.watched looks retiring pool = some (after, events)) :
    Hands Place.Drops { pool with retiring } [] after ∧
      after.slots = pool.slots ∧ after.retiring = [] := by
  induction retiring generalizing pool events with
  | nil =>
      cases finished
      exact ⟨.of_same rfl noneRetires rfl rfl rfl, rfl, noneRetires⟩
  | cons first rest ih =>
      simp only [finishEach, Option.bind_eq_bind, Option.bind_eq_some_iff, Option.pure_def,
        Option.some.injEq, Prod.exists, Prod.mk.injEq] at finished
      rcases finished with ⟨between, earlier, finished, after', later, finished', rfl, rfl⟩
      rcases finish_deeds host finished with ⟨world, rfl, deed, deedMem, deeds⟩
      have noneRetires' : ({ pool with world } : Pool (Watched ω)).retiring = [] := noneRetires
      rcases ih noneRetires' finished' with ⟨hands, slots, noneLeft⟩
      refine ⟨Hands.trans ?_ hands, slots, noneLeft⟩
      simp only [List.mem_cons, List.not_mem_nil, or_false] at deedMem
      rcases deedMem with rfl | rfl
      · exact .retire pool first rest rfl .overdue deeds
      · exact .retire pool first rest rfl .left deeds

theorem hands_close {looks : Nat} {pool after : Pool (Watched ω)} {events : List Event}
    (closed : pool.close host.watched looks = some (after, events)) :
    Hands Place.Drops pool [] after ∧ after.slots = .empty ∧ after.retiring = [] := by
  rcases killEach_deeds host pool.slots.entries { pool with slots := .empty } with
    ⟨world, same, -⟩
  have killed := hands_killEach host pool
  simp only [close, Option.bind_eq_bind, Option.bind_eq_some_iff, Option.pure_def,
    Option.some.injEq, Prod.exists, Prod.mk.injEq] at closed
  rcases closed with ⟨after', events', finished, rfl, rfl⟩
  rcases hands_finishEach host rfl finished with ⟨hands, slots, noneLeft⟩
  refine ⟨killed.trans hands, slots.trans ?_, noneLeft⟩
  rw [same]

/-! ### The wait for those that retire -/

variable {host} {time : ω → Nat}

theorem reap_time (timely : host.Timely time) (now : Nat) (retiring : Retiring) (pool : Pool ω) :
    time pool.world ≤ time (pool.reap host now retiring).2.1.world := by
  have looked := timely.tryWait retiring.child pool.world
  unfold reap
  dsimp only
  split
  · exact looked
  · split
    · exact looked
    · exact looked.trans (timely.kill _ _)
  · split
    · exact looked
    · exact looked.trans (timely.kill _ _)

/-- A process is killed when it is time. -/
theorem reap_overdue {now : Nat} {retiring : Retiring} (overdue : retiring.deadline ≤ now)
    (pool : Pool ω) : (pool.reap host now retiring).1 = true := by
  unfold reap
  simp only [Nat.not_lt.mpr overdue, ↓reduceIte]
  split <;> rfl

theorem finish_isSome (timely : host.Timely time) {retiring : Retiring} {looks : Nat}
    {pool : Pool ω} (enough : retiring.deadline - time pool.world < looks) :
    (pool.finish host retiring looks).isSome := by
  induction looks generalizing pool with
  | zero => cases enough
  | succ looks ih =>
      have read := timely.read pool.world
      have ticked := timely.clock pool.world
      have looked := reap_time timely (host.clock pool.world).1 retiring
        { pool with world := (host.clock pool.world).2 }
      unfold finish
      rcases reaped : reap host (host.clock pool.world).1
        { pool with world := (host.clock pool.world).2 } retiring with ⟨_ | _, left, events⟩
      · rw [reaped] at looked
        have early : (host.clock pool.world).1 < retiring.deadline := by
          by_contra overdue
          have gone : (reap host (host.clock pool.world).1
              { pool with world := (host.clock pool.world).2 } retiring).1 = true :=
            reap_overdue (Nat.not_lt.mp overdue) _
          rw [reaped] at gone
          cases gone
        have paused := timely.pause left.world
        simp only [reaped, Option.isSome_map]
        apply ih
        dsimp only at looked ⊢
        omega
      · simp [reaped]

theorem finishEach_isSome (timely : host.Timely time) {looks : Nat} {retiring : List Retiring}
    {pool : Pool ω} (enough : ∀ first ∈ retiring, first.deadline < looks) :
    (finishEach host looks retiring pool).isSome := by
  induction retiring generalizing pool with
  | nil => rfl
  | cons first rest ih =>
      have finished : (pool.finish host first looks).isSome :=
        finish_isSome timely (Nat.lt_of_le_of_lt (Nat.sub_le _ _) (enough first (by simp)))
      rcases Option.isSome_iff_exists.mp finished with ⟨⟨between, events⟩, finished⟩
      have later : (finishEach host looks rest between).isSome :=
        ih fun other otherMem => enough other (by simp [otherMem])
      rcases Option.isSome_iff_exists.mp later with ⟨⟨after, further⟩, later⟩
      simp [finishEach, finished, later]

theorem killEach_retiring (slots : List (SessionId × Slot)) (pool : Pool ω) :
    (killEach host slots pool).1.retiring = pool.retiring := by
  induction slots generalizing pool with
  | nil => rfl
  | cons entry rest ih => exact ih _

/-- Giving up a pool ends: a process that retires is not waited for beyond its deadline. -/
theorem close_isSome (timely : host.Timely time) {looks : Nat} {pool : Pool ω}
    (enough : ∀ retiring ∈ pool.retiring, retiring.deadline < looks) :
    (pool.close host looks).isSome := by
  let killed := (killEach host pool.slots.entries { pool with slots := .empty }).1
  have same : killed.retiring = pool.retiring := killEach_retiring _ _
  have finished : (finishEach host looks killed.retiring { killed with retiring := [] }).isSome :=
    finishEach_isSome timely (same ▸ enough)
  rcases Option.isSome_iff_exists.mp finished with ⟨⟨after, events⟩, finished⟩
  simp [close, killed, finished]

end Close

/-- When a pool is given up, nothing is left in its slots or retiring. -/
theorem InCustody.closed {host : Host ω} {looks : Nat} {pool after : Pool (Watched ω)}
    {events : List Event} (inCustody : pool.InCustody)
    (closed : pool.close host.watched looks = some (after, events)) :
    after.world.spawned = pool.world.spawned ∧
      (∀ child ∈ after.world.spawned,
        pool.At child .lost ∨ after.At child .killed ∨ after.At child .exited) ∧
      ∀ {child place place'}, pool.At child place → after.At child place' → place.Drops place' := by
  rcases hands_close host closed with ⟨hands, slots, noneRetires⟩
  have spawned : after.world.spawned = pool.world.spawned := by simpa using hands.spawned
  refine ⟨spawned, ?_, inCustody.moved hands⟩
  intro child childMem
  rcases (inCustody.handed hands).mem_spawned_iff.mp childMem with ⟨place, found⟩
  cases place with
  | handshaking session => simp [At, slots] at found
  | ready session => simp [At, slots] at found
  | retiring => simp [At, noneRetires] at found
  | killed => exact .inr (.inl found)
  | exited => exact .inr (.inr found)
  | lost =>
      -- nothing is lost on the way
      rw [spawned] at childMem
      rcases inCustody.mem_spawned_iff.mp childMem with ⟨source, foundBefore⟩
      cases inCustody.moved hands foundBefore found
      exact .inl foundBefore

/--
What becomes of the processes of a pool, whatever calls are made and whatever the host answers.
Watching the host does not change the course of the pool. The processes that were spawned are
numbered without a gap, and at any time each of them is at exactly one place: in the slot of one
session, where its handshake goes on or has ended, among those that retire, gone, be it killed or
seen to have exited, or lost. A call moves it only as `Place.Moves` says: out of a slot to those
that retire, if the session is ready and is stopped, or to be killed; and out of those that retire if
it is seen to have exited, or to be killed. Giving up the pool leaves no process in a slot or
retiring, and kills those that were in slots; it comes to its end if time goes on and no deadline is
further away than the number of looks.

No process is lost exactly if no call unwinds, and a call unwinds only if the clock cannot tell the
end of the span that it allows: of the pool's patience, for a start, or of the grace, for a stop.
-/
theorem processes_accounted_for (host : Host ω) (world : ω) (patience : Nat) (calls : List Call) :
    let pool := performAll host.watched { world := { inner := world }, patience } calls
    let plain := performAll host { world, patience } calls
    (pool.forget = plain ∧ ∀ looks,
      (pool.close host.watched looks).map (Prod.map forget id) = plain.close host looks) ∧
    pool.world.spawned.map Child.serial = List.range' 1 plain.spawned ∧
    (∀ child place, pool.At child place → child ∈ pool.world.spawned) ∧
    (∀ child ∈ pool.world.spawned, ∃! place, pool.At child place) ∧
    (∀ call child place place', pool.At child place →
      (pool.perform host.watched call).At child place' → place.Moves call place') ∧
    (∀ looks closed events, pool.close host.watched looks = some (closed, events) →
      closed.slots = .empty ∧ closed.retiring = [] ∧
      closed.world.spawned = pool.world.spawned ∧
      (∀ child ∈ closed.world.spawned,
        pool.At child .lost ∨ closed.At child .killed ∨ closed.At child .exited) ∧
      ∀ child place place', pool.At child place → closed.At child place' → place.Drops place') ∧
    (∀ time, host.Timely time → ∀ looks,
      (∀ retiring ∈ plain.retiring, retiring.deadline < looks) →
        (plain.close host looks).isSome) ∧
    ((∀ child, ¬pool.At child .lost) ↔ Returning host calls { world, patience }) ∧
    (host.Tells patience → host.Tells grace → Returning host calls { world, patience }) := by
  intro pool plain
  have same : pool.forget = plain := forget_performAll host _ calls
  have inCustody : pool.InCustody := (InCustody.fresh world patience).performAll host calls
  refine ⟨⟨same, fun looks => by rw [← same, forget_close]⟩, ?_, fun _ place found =>
    inCustody.mem_spawned_iff.mpr ⟨place, found⟩, ?_, ?_, ?_, fun time timely looks enough =>
    close_isSome timely enough, ?_, returning_of_tells host { world, patience } calls⟩
  · rw [← same]
    exact inCustody.serials
  · intro child childMem
    rcases inCustody.mem_spawned_iff.mp childMem with ⟨place, found⟩
    exact ⟨place, found, fun _ found' => inCustody.place_unique found' found⟩
  · intro call child place place' found found'
    rcases pool.hands_perform host call with ⟨born, hands⟩
    exact inCustody.moved hands found found'
  · intro looks closed events given
    rcases hands_close host given with ⟨-, slots, noneRetires⟩
    rcases inCustody.closed given with ⟨spawned, gone, moved⟩
    exact ⟨slots, noneRetires, spawned, gone, fun _ _ _ => moved⟩
  · rw [returning_iff]
    change (∀ child, child ∉ pool.forget.lost) ↔ plain.lost = []
    rw [same, List.eq_nil_iff_forall_not_mem]

/-- A process that has not answered is killed when its session is stopped; it is nowhere else, and none
is lost. -/
theorem processes_accounted_for_stalled :
    let calls : List Call := [.start ⟨1, "a", default, default⟩, .poll, .stop 1]
    let pool := performAll stalledHost.watched { world := { inner := 0 }, patience := 50 } calls
    stalledHost.Tells 50 ∧ stalledHost.Tells grace ∧ (∀ child, ¬pool.At child .lost) ∧
      pool.At ⟨1, 7⟩ .killed ∧ ∀ place, pool.At ⟨1, 7⟩ place → place = .killed := by
  intro calls pool
  have patient : stalledHost.Tells 50 := stalledHost_tells (by decide)
  have graceful : stalledHost.Tells grace := stalledHost_tells (by decide)
  rcases processes_accounted_for stalledHost 0 50 calls with
    ⟨-, -, spawned, unique, -, -, -, kept_iff, returns⟩
  have killed : pool.At ⟨1, 7⟩ .killed := by
    change .killed ⟨1, 7⟩ ∈ pool.world.deeds
    decide
  refine ⟨patient, graceful, kept_iff.mpr (returns patient graceful), killed, fun place found => ?_⟩
  exact (unique _ (spawned _ _ killed)).unique found killed

end Pool

end EditorSession.Backend
