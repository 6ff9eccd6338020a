import EditorSession.Proofs.Backend.Agreement
import EditorSession.Proofs.Backend.Expiry
import EditorSession.Proofs.Replay.Settling

/-!
# Waiting comes to an end

A replay polls until its manager counts no session that is starting, while it is the pool that makes
progress. The two agree in every state that events lead to whose handling returns
(`Integration.Reachable`), so a poll that finds all deadlines past ends the wait, whatever the
workers do. `Pool.settling` follows the polls up to this one, and `settle_ends` draws the
consequences for a replay: it ends, with one report for each session that was starting, and the
number of these never grew.
-/

namespace EditorSession

open Backend (Pool Host stalledHost)
open Session (Handle Entry Progress)

namespace Integration

variable {ω : Type}

/-- The states that events lead to whose handling returns. Between any two of them the host may go on
by itself. -/
inductive Reachable (host : Host ω) : Integration (Pool ω) → Prop
  | fresh (gate : Gate) (launch : LaunchSpecification) (capabilities : Capability.Declaration)
      (world : ω) (patience : Nat) :
      Reachable host (fresh gate launch capabilities { world, patience })
  | event {integration : Integration (Pool ω)} (reached : Reachable host integration)
      (event : EditorEvent)
      (returned : (Shared.react (Pool.unwinding host) { integration } event).poisoned = false) :
      Reachable host (Shared.react (Pool.unwinding host) { integration } event).integration
  | meanwhile {integration : Integration (Pool ω)} (reached : Reachable host integration)
      (world : ω) : Reachable host { integration with manager.transport.world := world }

theorem mirrored_react {host : Host ω} {integration : Integration (Pool ω)}
    (mirrored : integration.manager.Mirrored) {event : EditorEvent}
    (kept : (integration.react (Pool.transport host) event).manager.transport.lost =
      integration.manager.transport.lost) :
    (integration.react (Pool.transport host) event).manager.Mirrored := by
  rcases react_manager (Pool.transport host) integration event with
    ⟨notes, notes', -, silent | ⟨operation, performed⟩⟩
  · rw [silent]
    exact mirrored.of_same rfl rfl fun _ => rfl
  · rw [performed] at kept ⊢
    have noted : (integration.manager.noteAll notes).Mirrored :=
      mirrored.of_same rfl rfl fun _ => rfl
    exact (noted.perform host operation kept).of_same rfl rfl fun _ => rfl

/-- In every state that can be reached, the manager and its pool agree. -/
theorem Reachable.mirrored {host : Host ω} {integration : Integration (Pool ω)}
    (reachable : Reachable host integration) : integration.manager.Mirrored := by
  induction reachable with
  | fresh gate launch capabilities world patience => exact .fresh launch capabilities world patience
  | @event integration reached event returned mirrored =>
      rcases Shared.react_of_unpoisoned returned with ⟨same, returns⟩
      rw [same]
      exact mirrored_react mirrored (Pool.kept_of_returns returns).1
  | @meanwhile integration reached world mirrored =>
      exact ⟨mirrored.numbered.of_same rfl fun _ => rfl, mirrored.backed, mirrored.owned⟩

/-- All runs in which no event unwinds lead to such states, and these are all runs where the clock can
tell all deadlines (`unpoisoned_of_tells`). -/
theorem Reachable.reactAll {host : Host ω} {shared : Shared (Pool ω)}
    (reached : Reachable host shared.integration) {events : List EditorEvent}
    (unpoisoned : (shared.reactAll (Pool.unwinding host) events).poisoned = false) :
    Reachable host (shared.reactAll (Pool.unwinding host) events).integration := by
  induction events generalizing shared with
  | nil => exact reached
  | cons event rest ih =>
      have next : (shared.react (Pool.unwinding host) event).poisoned = false :=
        Shared.unpoisoned_of_reactAll unpoisoned
      have lock : shared.poisoned = false := Shared.unpoisoned_of_reactAll unpoisoned
      rcases shared with ⟨integration, poisoned⟩
      subst lock
      exact ih (reached.event event next) unpoisoned

end Integration

/-! ### Polls of a pool -/

namespace Manager

variable {σ ω : Type}

/-- A poll starts nothing. -/
theorem pendingCount_poll_le {manager : Manager σ} (numbered : manager.Numbered)
    (transport : Transport σ) :
    (manager.poll transport).2.pendingCount ≤ manager.pendingCount := by
  refine Keyed.countP_values_le fun {scope entry} found starting => ?_
  have entries := entry?_poll numbered transport scope
  rw [show Manager.entry? (manager.poll transport).2 scope = some entry from found, eq_comm,
    Option.map_eq_some_iff] at entries
  rcases entries with ⟨before, foundBefore, rfl⟩
  refine ⟨before, foundBefore, ?_⟩
  by_contra settled
  rw [Entry.settledBy_of_settled _ (by simpa using settled)] at starting
  exact settled starting

/-- Exactly the handshakes of the pool are pending. -/
theorem Mirrored.mem_pendingSessions_iff {manager : Manager (Pool ω)} (mirrored : manager.Mirrored)
    {session : SessionId} : session ∈ manager.pendingSessions ↔
      manager.transport.progress? session = some .starting := by
  rw [manager.pends_pendingSessions, mirrored.progress?_eq_some_iff]
  simp [Progress.isLive]

theorem Mirrored.pendingCount_eq {manager : Manager (Pool ω)} (mirrored : manager.Mirrored) :
    manager.pendingCount = manager.transport.pendingCount := by
  rw [Pool.pendingCount_eq, ← mirrored.countP_eq rfl]
  rfl

/-- A poll that comes late enough leaves no session that is starting, and no handshake. -/
theorem Mirrored.pendingCount_poll {manager : Manager (Pool ω)} (mirrored : manager.Mirrored)
    (host : Host ω) (due : manager.transport.DueBy (host.clock manager.transport.world).1) :
    (manager.poll (Pool.transport host)).2.pendingCount = 0 ∧
      (manager.poll (Pool.transport host)).2.transport.pendingCount = 0 := by
  have after := mirrored.poll host
  have none : (manager.poll (Pool.transport host)).2.pendingCount = 0 := by
    rw [(manager.poll (Pool.transport host)).2.pends_pendingSessions.pendingCount_eq_zero_iff,
      List.eq_nil_iff_forall_not_mem]
    intro session
    rw [after.mem_pendingSessions_iff,
      (manager.poll_sameBesidesTable (Pool.transport host)).transport]
    exact manager.transport.progress?_poll_ne_starting host due session
  exact ⟨none, after.pendingCount_eq ▸ none⟩

end Manager

namespace Backend.Pool

variable {ω : Type} (host : Host ω)

/-- What the poll of a round reports, if polls go on in turn with pauses between them. -/
def reports (pool : Pool ω) (round : Nat) : List Completion :=
  ((pool.afterRounds host round).poll host).1

section Settling

variable {host} {pool : Pool ω} {pending : List SessionId}
  (exact : ∀ session, session ∈ pending ↔ pool.progress? session = some .starting)
include exact

theorem mem_unreported_poll_iff {session : SessionId} :
    session ∈ Transport.unreported pending (pool.poll host).1 ↔
      (pool.poll host).2.1.progress? session = some .starting := by
  rw [Transport.mem_unreported_iff, exact, (pool.poll_settles host).starting_iff]

/-- A poll reports handshakes only, each once, and whoever waits for more goes on after a pause. -/
theorem settling_cons (waits : pending ≠ []) {batches : List (List Completion)} {final : Pool ω}
    (later : (Pool.transport host).Settling (Pool.pause host)
      (Transport.unreported pending (pool.poll host).1)
      ((Pool.transport host).polledState (Pool.pause host) pending pool) batches final) :
    (Pool.transport host).Settling (Pool.pause host) pending pool
      (pool.reports host 0 :: batches) final := by
  have settles := pool.poll_settles host
  exact .polled waits settles.distinct
    (fun completion completionMem => (exact _).mpr (settles.pending completion completionMem)) later

/-- The poll that reports the last handshakes is the last one. -/
theorem settling_singleton (waits : pending ≠ [])
    (none : Transport.unreported pending (pool.poll host).1 = []) :
    ∃ final, (Pool.transport host).Settling (Pool.pause host) pending pool
      [pool.reports host 0] final := by
  let left := (Pool.transport host).polledState (Pool.pause host) pending pool
  have later : (Pool.transport host).Settling (Pool.pause host)
      (Transport.unreported pending (pool.poll host).1) left [] left := by
    rw [none]
    exact .settled left
  exact ⟨left, settling_cons exact waits later⟩

end Settling

/-- Polls go on until the last handshake has ended, which they bring about at the latest in the round
that finds all deadlines past. -/
theorem settling (round : Nat) {pool : Pool ω} {pending : List SessionId}
    (exact : ∀ session, session ∈ pending ↔ pool.progress? session = some .starting)
    (due : pool.DueBy (host.clock (pool.afterRounds host round).world).1) :
    ∃ used ≤ round + 1, ∃ final, (Pool.transport host).Settling (Pool.pause host) pending pool
      ((List.range used).map (pool.reports host)) final := by
  induction round generalizing pool pending with
  | zero =>
      by_cases waits : pending = []
      · subst waits
        exact ⟨0, Nat.zero_le _, pool, .settled pool⟩
      · have none : Transport.unreported pending (pool.poll host).1 = [] := by
          rw [List.eq_nil_iff_forall_not_mem]
          intro session
          rw [mem_unreported_poll_iff exact]
          exact pool.progress?_poll_ne_starting host due session
        exact ⟨1, Nat.le_refl _, settling_singleton exact waits none⟩
  | succ round ih =>
      by_cases waits : pending = []
      · subst waits
        exact ⟨0, Nat.zero_le _, pool, .settled pool⟩
      by_cases none : Transport.unreported pending (pool.poll host).1 = []
      · exact ⟨1, by omega, settling_singleton exact waits none⟩
      · let next := (pool.poll host).2.1.pause host
        have paused : (Pool.transport host).polledState (Pool.pause host) pending pool = next :=
          if_neg none
        have exactNext (session : SessionId) :
            session ∈ Transport.unreported pending (pool.poll host).1 ↔
              next.progress? session = some .starting := mem_unreported_poll_iff exact
        have dueNext : next.DueBy (host.clock (next.afterRounds host round).world).1 :=
          due.of_keepsHandshakes (pool.keepsHandshakes_poll host)
        rcases ih exactNext dueNext with ⟨used, few, final, settling⟩
        refine ⟨used + 1, Nat.succ_le_succ few, final, ?_⟩
        rw [List.range_succ_eq_map, List.map_cons, List.map_map]
        exact settling_cons exact waits (paused ▸ settling)

end Backend.Pool

/-! ### Replays -/

namespace Replay.Setup

variable {σ κ : Type} {setup : Setup σ κ}

/-- Telling leaves the integration alone, also where a write fails. -/
theorem tellEach_integration (records : List Record) (stage : Stage σ κ) :
    (setup.tellEach records stage).2.integration = stage.integration := by
  induction records generalizing stage with
  | nil => rfl
  | cons record rest ih =>
      have kept : (setup.tell record stage).2.integration = stage.integration := rfl
      rw [tellEach]
      split
      next told =>
        rw [told] at kept
        exact (ih _).trans kept
      next failed =>
        rw [failed] at kept
        exact kept

theorem poll_integration (setup : Setup σ κ) (stage : Stage σ κ) :
    (setup.poll stage).2.integration = (stage.integration.pollStarts setup.transport).2 :=
  tellEach_integration _ _

/-- What a poll tells is interrupted by nothing but a write that fails. -/
theorem poll_ne_unsettled (stage : Stage σ κ) : (setup.poll stage).1 ≠ .error .unsettled := by
  have told (records : List Record) (stage : Stage σ κ) :
      (setup.tellEach records stage).1 ≠ .error .unsettled := by
    induction records generalizing stage with
    | nil => nofun
    | cons record rest ih =>
        rw [tellEach]
        split
        next told => exact ih _
        next interruption after failed =>
          have result := congrArg Prod.fst failed
          rw [tell] at result
          cases written : (setup.console.tell record stage.console).1 <;>
            simp [written, Except.mapError] at result
          simp [← result]
  exact told _ _

/-- The stage after a poll, and after a pause if some session is starting still. -/
def rested (setup : Setup σ κ) (stage : Stage σ κ) : Stage σ κ :=
  let next := (setup.poll stage).2
  if isPending next then setup.wait next else next

section Step

variable {stage : Stage σ κ}

theorem settle_of_told (waits : isPending stage = true) (told : (setup.poll stage).1 = .ok ())
    (rounds : Nat) : setup.settle (rounds + 1) stage = setup.settle rounds (setup.rested stage) := by
  rw [settle, if_pos waits]
  rcases polled : setup.poll stage with ⟨result, next⟩
  rw [polled] at told
  subst told
  simp only [rested, polled]

theorem settle_of_untold (waits : isPending stage = true) {interruption : Interruption}
    (untold : (setup.poll stage).1 = .error interruption) (rounds : Nat) :
    setup.settle (rounds + 1) stage = (.error interruption, (setup.poll stage).2) := by
  rw [settle, if_pos waits]
  rcases polled : setup.poll stage with ⟨result, next⟩
  rw [polled] at untold
  subst untold
  rfl

theorem poll_pendingCount_le (setup : Setup σ κ)
    (numbered : stage.integration.manager.Numbered) :
    (setup.poll stage).2.integration.manager.pendingCount ≤
      stage.integration.manager.pendingCount := by
  rw [poll_integration]
  exact Manager.pendingCount_poll_le numbered setup.transport

theorem rested_pendingCount (setup : Setup σ κ) (stage : Stage σ κ) :
    (setup.rested stage).integration.manager.pendingCount =
      (setup.poll stage).2.integration.manager.pendingCount := by
  unfold rested
  dsimp only
  split <;> rfl

theorem rested_numbered (numbered : stage.integration.manager.Numbered) :
    (setup.rested stage).integration.manager.Numbered := by
  have polled : (setup.poll stage).2.integration.manager.Numbered := by
    rw [poll_integration]
    exact numbered.poll setup.transport
  unfold rested
  dsimp only
  split
  · exact polled.of_same rfl fun _ => rfl
  · exact polled

end Step

/-- A wait that comes to its end leaves no session that is starting. -/
theorem isPending_of_settle {rounds : Nat} {stage : Stage σ κ}
    (ended : (setup.settle rounds stage).1 = .ok ()) :
    isPending (setup.settle rounds stage).2 = false := by
  induction rounds generalizing stage with
  | zero =>
      cases waits : isPending stage with
      | false => exact waits
      | true => simp [settle, waits] at ended
  | succ rounds ih =>
      cases waits : isPending stage with
      | false =>
          rw [settle_of_settled waits]
          exact waits
      | true =>
          cases told : (setup.poll stage).1 with
          | error interruption =>
              rw [settle_of_untold waits told] at ended
              cases ended
          | ok _ =>
              rw [settle_of_told waits told] at ended ⊢
              exact ih ended

/-- With one more round, there are no more sessions that are starting. -/
theorem pendingCount_settle_succ_le {stage : Stage σ κ}
    (numbered : stage.integration.manager.Numbered) (rounds : Nat) :
    (setup.settle (rounds + 1) stage).2.integration.manager.pendingCount ≤
      (setup.settle rounds stage).2.integration.manager.pendingCount := by
  -- Either wait ends before it polls, or both go on from the same stage.
  induction rounds generalizing stage with
  | zero =>
      cases waits : isPending stage with
      | false => rw [settle_of_settled waits, settle_of_settled waits]
      | true =>
          have polled := setup.poll_pendingCount_le numbered
          cases told : (setup.poll stage).1 with
          | error interruption =>
              rw [settle_of_untold waits told]
              exact polled
          | ok _ =>
              rw [settle_of_told waits told]
              exact (setup.rested_pendingCount stage).trans_le polled
  | succ rounds ih =>
      cases waits : isPending stage with
      | false => rw [settle_of_settled waits, settle_of_settled waits]
      | true =>
          cases told : (setup.poll stage).1 with
          | error interruption => rw [settle_of_untold waits told, settle_of_untold waits told]
          | ok _ =>
              rw [settle_of_told waits told, settle_of_told waits told]
              exact ih (rested_numbered numbered)

/-- With enough rounds, a wait ends, if not by a write that fails. -/
theorem settle_ne_unsettled {pending : List SessionId} {state final : σ}
    {batches : List (List Completion)}
    (settling : setup.transport.Settling setup.pause pending state batches final)
    {stage : Stage σ κ} (numbered : stage.integration.manager.Numbered)
    (pends : stage.integration.manager.Pends pending)
    (same : stage.integration.manager.transport = state) {rounds : Nat}
    (enough : batches.length ≤ rounds) :
    (setup.settle rounds stage).1 ≠ .error .unsettled := by
  induction settling generalizing stage rounds with
  | settled state =>
      rw [settle_of_settled ((isPending_eq_false_iff pends).mpr rfl)]
      nofun
  | @polled pending state final batches waits distinct awaited later ih =>
      subst same
      obtain ⟨rounds, rfl⟩ : ∃ earlier, rounds = earlier + 1 :=
        Nat.exists_eq_add_one.mpr (Nat.lt_of_lt_of_le (Nat.succ_pos _) enough)
      have unsettled : isPending stage = true := by
        rw [← Bool.not_eq_false, isPending_eq_false_iff pends]
        exact waits
      cases told : (setup.poll stage).1 with
      | error interruption =>
          rw [settle_of_untold unsettled told, ← told]
          exact poll_ne_unsettled stage
      | ok _ =>
          rw [settle_of_told unsettled told]
          have rests : setup.rested stage = _ :=
            wait_eq pends numbered distinct (setup.poll_integration stage)
          have pendsNext : (setup.rested stage).integration.manager.Pends
              (Transport.unreported pending
                (setup.transport.poll stage.integration.manager.transport).1) := by
            intro session
            rw [pends.poll numbered setup.transport distinct session, rests]
            simp only [setup.poll_integration stage, Manager.entry?]
            rfl
          exact ih (rested_numbered numbered) pendsNext (by rw [rests])
            (Nat.le_of_succ_le_succ enough)

/--
A replay over a pool of backends, in any state that events can have led to whose handling returned,
as it does wherever the clock can tell all deadlines. A poll never unwinds, and one at a time by which
every handshake is due leaves no session that is starting and no handshake. While a replay waits, the
sessions that are starting do not become more, and when its wait has ended there are none. If the
clock comes past the deadlines in some round of polls, the wait is over with that round at the latest,
unless a write fails before. By then the polls have reported the sessions that were starting, each
once and none besides, and each report is how the worker had ended or, if it was at work still, that
its time is up. A console that never fails is told of all of them.
-/
theorem settle_ends {ω κ : Type} (host : Host ω) (console : Console κ) (scope : Scope)
    (stage : Stage (Pool ω) κ) (reachable : Integration.Reachable host stage.integration) :
    let setup : Setup (Pool ω) κ :=
      { transport := Pool.transport host, pause := Pool.pause host, console, scope }
    let manager := stage.integration.manager
    let pool := manager.transport
    let polled := (stage.integration.pollStarts (Pool.transport host)).2.manager
    let waited (rounds : Nat) := (setup.settle rounds stage).2.integration.manager
    (pool.DueBy (host.clock pool.world).1 →
      polled.pendingCount = 0 ∧ polled.transport.pendingCount = 0) ∧
    (∀ rounds, (waited (rounds + 1)).pendingCount ≤ (waited rounds).pendingCount) ∧
    (∀ rounds, (setup.settle rounds stage).1 = .ok () →
      ∀ scope entry, Manager.entry? (waited rounds) scope = some entry →
        entry.progress ≠ .starting) ∧
    ∀ round, pool.DueBy (host.clock (pool.afterRounds host round).world).1 →
      ∃ used ≤ round + 1,
        let reported := (List.range used).flatMap (pool.reports host)
        (∀ rounds ≥ used, (setup.settle rounds stage).1 ≠ .error .unsettled) ∧
        (reported.map Completion.session).Nodup ∧
        (∀ session, session ∈ reported.map Completion.session ↔
          ∃ scope entry, manager.entry? scope = some entry ∧
            entry.handle.id = session ∧ entry.progress = .starting) ∧
        (∀ earlier < used, ∀ completion ∈ pool.reports host earlier,
          ∃ world integration child deadline,
            (pool.afterRounds host earlier).SettlesAt host completion.session world ∧
            pool.slots.get? completion.session = some (.handshaking integration child deadline) ∧
            host.Ends world pool.patience integration child completion.result) ∧
        (console.Reliable → ∀ rounds ≥ used, ∃ settled records,
          setup.settle rounds stage =
            (.ok (), setup.telling records { stage with integration.manager := settled }) ∧
          List.Forall₂ (setup.Tells manager) reported records) := by
  intro setup manager pool polled waited
  have mirrored : manager.Mirrored := reachable.mirrored
  refine ⟨fun due => mirrored.pendingCount_poll host due,
    pendingCount_settle_succ_le mirrored.numbered, ?_, fun round due => ?_⟩
  · intro rounds ended scope entry found starting
    have none := isPending_of_settle ended
    rw [isPending_eq_false_iff (Manager.pends_pendingSessions _),
      List.eq_nil_iff_forall_not_mem] at none
    exact none entry.handle.id ((Manager.pends_pendingSessions _ _).mpr
      ⟨scope, entry, found, rfl, starting⟩)
  · rcases Pool.settling host round (fun session => mirrored.mem_pendingSessions_iff) due with
      ⟨used, few, final, settling⟩
    change setup.transport.Settling setup.pause manager.pendingSessions pool
      ((List.range used).map (pool.reports host)) final at settling
    have enough {rounds : Nat} (many : rounds ≥ used) :
        ((List.range used).map (pool.reports host)).length ≤ rounds := by
      rw [List.length_map, List.length_range]
      exact many
    have flat : ((List.range used).map (pool.reports host)).flatten =
        (List.range used).flatMap (pool.reports host) := rfl
    refine ⟨used, few, ?_, flat ▸ settling.distinct_reported, ?_, ?_, ?_⟩
    · intro rounds many
      exact settle_ne_unsettled settling mirrored.numbered manager.pends_pendingSessions rfl
        (enough many)
    · intro session
      rw [← flat, settling.mem_reported_iff]
      exact manager.pends_pendingSessions session
    · intro earlier _ completion reported
      have kept := pool.keepsHandshakes_afterRounds host earlier
      rcases (pool.afterRounds host earlier).poll_ends host reported with
        ⟨world, integration, child, deadline, settles, found, ends⟩
      rw [kept.1] at ends
      exact ⟨world, integration, child, deadline, settles, kept.2 found, ends⟩
    · intro reliable rounds many
      rcases setup.settle_eq reliable settling mirrored.numbered manager.pends_pendingSessions rfl
        (enough many) with ⟨settled, records, ended, tells, -, -⟩
      exact ⟨settled, records, ended, tells⟩

/-- A session whose worker never ends: a poll after its deadline settles it, and a replay that begins
to wait at once has done so after four rounds. -/
theorem settle_ends_stalled :
    let console : Console Unit := ⟨fun _ _ screen => (.ok (), screen)⟩
    let setup : Setup (Pool Nat) Unit :=
      { transport := Pool.transport stalledHost, pause := Pool.pause stalledHost, console,
        scope := "a" }
    let start : Integration (Pool Nat) :=
      .fresh ⟨"xml"⟩ default ⟨"vuln-lsp", {}⟩ { world := 0, patience := 50 }
    let opened := (Shared.react (Pool.unwinding stalledHost) { integration := start }
      (.opened "a" ⟨Text.Utf8.ofString "pom.xml", none⟩)).integration
    let stage : Stage (Pool Nat) Unit := { integration := opened, console := () }
    let late : Integration (Pool Nat) := { opened with manager.transport.world := 60 }
    opened.manager.pendingCount = 1 ∧
      (late.pollStarts (Pool.transport stalledHost)).2.manager.pendingCount = 0 ∧
      (setup.settle 4 stage).1 = .ok () ∧
      ∀ scope entry,
        Manager.entry? (setup.settle 4 stage).2.integration.manager scope = some entry →
          entry.progress ≠ .starting := by
  intro console setup start opened stage late
  have reliable : console.Reliable := fun _ _ _ => rfl
  have reachable : Integration.Reachable stalledHost opened :=
    .event (.fresh _ _ _ _ _) _ (by decide +kernel)
  have pending : opened.manager.pendingCount = 1 := by decide +kernel
  have dueLate : late.manager.transport.DueBy
      (stalledHost.clock late.manager.transport.world).1 := by
    decide +kernel
  have due : opened.manager.transport.DueBy (stalledHost.clock
      (opened.manager.transport.afterRounds stalledHost 3).world).1 := by
    decide +kernel
  -- What was opened need not be looked at any more.
  clear_value opened
  let lateStage : Stage (Pool Nat) Unit := { integration := late, console := () }
  rcases settle_ends stalledHost console "a" lateStage (.meanwhile reachable 60) with ⟨atOnce, -⟩
  rcases settle_ends stalledHost console "a" stage reachable with ⟨-, -, settled, ends⟩
  rcases ends 3 due with ⟨used, few, -, -, -, -, told⟩
  rcases told reliable 4 few with ⟨manager, records, ended, -⟩
  have ok : (setup.settle 4 stage).1 = .ok () := congrArg Prod.fst ended
  exact ⟨pending, (atOnce dueLate).1, ok, settled 4 ok⟩

end Replay.Setup

end EditorSession
