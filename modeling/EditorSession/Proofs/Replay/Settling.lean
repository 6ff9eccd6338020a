import EditorSession.Proofs.Replay.Telling
import EditorSession.Proofs.Session.Awaited

/-!
# Waiting until no session is starting

A replay polls as long as some session is starting. `Transport.Settling` describes, apart from any
replay, a transport that reports all sessions it is waited for, each once, and nothing else;
`Setup.settle_eq` says what a replay makes of its reports.
-/

namespace EditorSession

open Session (Handle Entry Progress)

namespace Transport

variable {σ : Type}

/-- Pending sessions that are not among completions. -/
def unreported (pending : List SessionId) (completions : List Completion) : List SessionId :=
  pending.filter fun session => session ∉ completions.map Completion.session

theorem mem_unreported_iff {pending : List SessionId} {completions : List Completion}
    {session : SessionId} : session ∈ unreported pending completions ↔
      session ∈ pending ∧ ∀ completion ∈ completions, completion.session ≠ session := by
  simp [unreported]

/-- The state after a poll, and after a pause if some session is pending still. -/
def polledState (transport : Transport σ) (pause : σ → σ) (pending : List SessionId) (state : σ) :
    σ :=
  if unreported pending (transport.poll state).1 = [] then (transport.poll state).2.1
  else pause (transport.poll state).2.1

/-- Polls report pending sessions, each once and none besides, until there is none left. The batches
are what the polls report. -/
inductive Settling (transport : Transport σ) (pause : σ → σ) :
    List SessionId → σ → List (List Completion) → σ → Prop
  | settled (state : σ) : Settling transport pause [] state [] state
  | polled {pending : List SessionId} {state final : σ} {batches : List (List Completion)}
      (waits : pending ≠ [])
      (distinct : ((transport.poll state).1.map Completion.session).Nodup)
      (awaited : ∀ completion ∈ (transport.poll state).1, completion.session ∈ pending)
      (later : Settling transport pause (unreported pending (transport.poll state).1)
        (transport.polledState pause pending state) batches final) :
      Settling transport pause pending state ((transport.poll state).1 :: batches) final

namespace Settling

variable {transport : Transport σ} {pause : σ → σ} {pending : List SessionId} {state final : σ}
  {batches : List (List Completion)}

theorem mem_reported_iff (settling : transport.Settling pause pending state batches final)
    {session : SessionId} :
    session ∈ batches.flatten.map Completion.session ↔ session ∈ pending := by
  induction settling with
  | settled state => simp
  | @polled pending state final batches waits distinct awaited later ih =>
      rw [List.flatten_cons, List.map_append, List.mem_append, ih, mem_unreported_iff]
      constructor
      · rintro (reported | ⟨isPending, -⟩)
        · rcases List.mem_map.mp reported with ⟨completion, completionMem, rfl⟩
          exact awaited completion completionMem
        · exact isPending
      · intro isPending
        by_cases reported : session ∈ (transport.poll state).1.map Completion.session
        · exact .inl reported
        · simp only [List.mem_map, not_exists, not_and] at reported
          exact .inr ⟨isPending, reported⟩

theorem distinct_reported (settling : transport.Settling pause pending state batches final) :
    (batches.flatten.map Completion.session).Nodup := by
  induction settling with
  | settled state => exact List.nodup_nil
  | polled waits distinct awaited later ih =>
      rw [List.flatten_cons, List.map_append, List.nodup_append]
      refine ⟨distinct, ih, ?_⟩
      rintro session reported other reportedLater rfl
      rcases List.mem_map.mp reported with ⟨completion, completionMem, own⟩
      exact (mem_unreported_iff.mp (later.mem_reported_iff.mp reportedLater)).2 completion
        completionMem own

end Settling

/-- A pause of a transport that keeps a record of its calls. -/
def Recorded.pause (pause : σ → σ) (state : Recorded σ) : Recorded σ :=
  { state with inner := pause state.inner }

/-- Keeping a record of the polls does not change what they report. -/
theorem Settling.recorded {transport : Transport σ} {pause : σ → σ} {pending : List SessionId}
    {inner final : σ} {batches : List (List Completion)}
    (settling : transport.Settling pause pending inner batches final) (calls : List Call) :
    transport.recorded.Settling (Recorded.pause pause) pending ⟨inner, calls⟩ batches
      ⟨final, calls ++ batches.map .polled⟩ := by
  induction settling generalizing calls with
  | settled state =>
      rw [List.map_nil, List.append_nil]
      exact .settled _
  | @polled pending state final batches waits distinct awaited later ih =>
      have recorded := ih (calls ++ [.polled (transport.poll state).1])
      have same : transport.recorded.polledState (Recorded.pause pause) pending ⟨state, calls⟩ =
          ⟨transport.polledState pause pending state,
            calls ++ [.polled (transport.poll state).1]⟩ := by
        by_cases none : unreported pending (transport.poll state).1 = [] <;>
          simp [polledState, Transport.recorded, Recorded.pause, none]
      rw [List.append_assoc, ← same] at recorded
      exact Settling.polled waits distinct awaited recorded

end Transport

/-- Batches settle an entry one after the other. -/
theorem Session.Entry.settledBy_append (entry : Entry) (first second : List Completion) :
    entry.settledBy (first ++ second) = (entry.settledBy first).settledBy second := by
  induction first generalizing entry with
  | nil => simp
  | cons completion rest ih =>
      rw [List.cons_append, settledBy_cons, ih, ← settledBy_cons]

namespace Manager

variable {σ : Type} {manager : Manager σ}

/-- The sessions that are starting. -/
def pendingSessions (manager : Manager σ) : List SessionId :=
  (manager.sessions.values.filter fun entry => entry.progress = .starting).map
    fun entry => entry.handle.id

/-- Exactly the sessions of a list are starting. -/
def Pends (manager : Manager σ) (pending : List SessionId) : Prop :=
  ∀ session, session ∈ pending ↔ ∃ scope entry, manager.entry? scope = some entry ∧
    entry.handle.id = session ∧ entry.progress = .starting

theorem pends_pendingSessions (manager : Manager σ) : manager.Pends manager.pendingSessions := by
  intro session
  simp only [pendingSessions, List.mem_map, List.mem_filter, decide_eq_true_eq,
    Keyed.mem_values_iff, entry?]
  constructor
  · rintro ⟨entry, ⟨⟨scope, found⟩, starting⟩, own⟩
    exact ⟨scope, entry, found, own, starting⟩
  · rintro ⟨scope, entry, found, own, starting⟩
    exact ⟨entry, ⟨⟨scope, found⟩, starting⟩, own⟩

theorem Pends.pendingCount_eq_zero_iff {pending : List SessionId} (pends : manager.Pends pending) :
    manager.pendingCount = 0 ↔ pending = [] := by
  rw [pendingCount, List.countP_eq_zero, List.eq_nil_iff_forall_not_mem]
  simp only [beq_iff_eq, Keyed.mem_values_iff, pends _]
  constructor
  · rintro none session ⟨scope, entry, found, -, starting⟩
    exact none entry ⟨scope, found⟩ starting
  · rintro none entry ⟨scope, found⟩ starting
    exact none _ ⟨scope, entry, found, rfl, starting⟩

theorem Pends.poll {pending : List SessionId} (pends : manager.Pends pending)
    (numbered : manager.Numbered) (transport : Transport σ)
    (distinct : ((transport.poll manager.transport).1.map Completion.session).Nodup) :
    (manager.poll transport).2.Pends
      (Transport.unreported pending (transport.poll manager.transport).1) := by
  intro session
  rw [Transport.mem_unreported_iff, pends]
  simp only [entry?_poll numbered, Option.map_eq_some_iff]
  constructor
  · rintro ⟨⟨scope, entry, found, rfl, starting⟩, unreported⟩
    refine ⟨scope, _, ⟨entry, found, rfl⟩, by rw [Entry.handle_settledBy], ?_⟩
    rw [Entry.settledBy_of_absent unreported]
    exact starting
  · rintro ⟨scope, _, ⟨entry, found, rfl⟩, own, starting⟩
    rw [Entry.handle_settledBy] at own
    have before : entry.progress = .starting := by
      by_contra settled
      rw [Entry.settledBy_of_settled _ settled] at starting
      exact settled starting
    refine ⟨⟨scope, entry, found, own, before⟩, fun completion completionMem reported => ?_⟩
    rw [Entry.settledBy_of_mem distinct completionMem before (reported.trans own.symm)] at starting
    exact Progress.ofResult_ne_starting _ starting

end Manager

namespace Replay.Setup

variable {σ κ : Type} {setup : Setup σ κ}

theorem isPending_eq_false_iff {stage : Stage σ κ} {pending : List SessionId}
    (pends : stage.integration.manager.Pends pending) :
    isPending stage = false ↔ pending = [] := by
  rw [← pends.pendingCount_eq_zero_iff]
  simp [isPending]

theorem settle_of_settled {stage : Stage σ κ} (settled : isPending stage = false) (rounds : Nat) :
    setup.settle rounds stage = (.ok (), stage) := by
  cases rounds <;> simp [settle, settled]

/-- A record tells how a session of a manager settled. -/
def Tells (setup : Setup σ κ) (manager : Manager σ) (completion : Completion) (record : Record) :
    Prop :=
  ∃ scope entry, manager.entry? scope = some entry ∧ entry.handle.id = completion.session ∧
    record = settledRecord setup.scope (entry.handle.report manager.launch completion.result)

section Round

variable {stage : Stage σ κ} {pending : List SessionId}
  (pends : stage.integration.manager.Pends pending)
  (numbered : stage.integration.manager.Numbered)
  (distinct : ((setup.transport.poll stage.integration.manager.transport).1.map
    Completion.session).Nodup)

include pends numbered distinct

/-- A replay pauses after a poll if a session is starting still. -/
theorem wait_eq {next : Stage σ κ}
    (polled : next.integration = (stage.integration.pollStarts setup.transport).2) :
    (if isPending next then setup.wait next else next) = { next with
      integration.manager.transport := setup.transport.polledState setup.pause pending
        stage.integration.manager.transport } := by
  let manager := stage.integration.manager
  have managed : next.integration.manager = (manager.poll setup.transport).2 :=
    congrArg Integration.manager polled
  have still : isPending next = false ↔
      Transport.unreported pending (setup.transport.poll manager.transport).1 = [] := by
    refine isPending_eq_false_iff ?_
    rw [managed]
    exact pends.poll numbered setup.transport distinct
  have left : next.integration.manager.transport = (setup.transport.poll manager.transport).2.1 := by
    rw [managed]
    exact (manager.poll_sameBesidesTable setup.transport).transport
  cases pendingNext : isPending next with
  | false =>
      have same : setup.transport.polledState setup.pause pending manager.transport =
          next.integration.manager.transport := (if_pos (still.mp pendingNext)).trans left.symm
      rw [same]
      rfl
  | true =>
      have unreported : Transport.unreported pending
          (setup.transport.poll manager.transport).1 ≠ [] := by
        rw [Ne, ← still, pendingNext]
        decide
      have same : setup.transport.polledState setup.pause pending manager.transport =
          setup.pause next.integration.manager.transport :=
        (if_neg unreported).trans (congrArg setup.pause left.symm)
      rw [same]
      rfl

/-- As long as a session is starting, a replay polls, and pauses if one is starting still. -/
theorem settle_succ (reliable : setup.console.Reliable) (waits : pending ≠ []) (rounds : Nat) :
    let manager := stage.integration.manager
    let polled := manager.poll setup.transport
    let transport := setup.transport.polledState setup.pause pending manager.transport
    setup.settle (rounds + 1) stage = setup.settle rounds
      (setup.telling (polled.1.map (settledRecord setup.scope))
        { stage with integration.manager := { polled.2 with transport } }) := by
  intro manager polled transport
  have unsettled : isPending stage = true := by
    rw [← Bool.not_eq_false, isPending_eq_false_iff pends]
    exact waits
  rw [settle, if_pos unsettled, poll_eq reliable]
  exact congrArg (setup.settle rounds) (wait_eq pends numbered distinct rfl)

theorem tells_poll
    (awaited : ∀ completion ∈ (setup.transport.poll stage.integration.manager.transport).1,
      completion.session ∈ pending) :
    let manager := stage.integration.manager
    List.Forall₂ (setup.Tells manager) (setup.transport.poll manager.transport).1
      ((manager.poll setup.transport).1.map (settledRecord setup.scope)) := by
  intro manager
  have awaits : (manager.afterCall (setup.transport.poll manager.transport).2.1
      (setup.transport.poll manager.transport).2.2).Awaits
        (setup.transport.poll manager.transport).1 :=
    ⟨distinct, fun completion completionMem => (pends _).mp (awaited completion completionMem)⟩
  refine List.forall₂_map_right_iff.mpr
    ((awaits.settleAll (numbered.afterCall _ _)).1.imp ?_)
  rintro completion result ⟨scope, entry, found, own, rfl⟩
  exact ⟨scope, entry, found, own, rfl⟩

end Round

/-- What is told after a poll of how sessions settled could be told before it. -/
theorem Tells.of_poll {manager : Manager σ} (numbered : manager.Numbered)
    {completion : Completion} {record : Record}
    (tells : setup.Tells (manager.poll setup.transport).2 completion record) :
    setup.Tells manager completion record := by
  rcases tells with ⟨scope, entry, found, own, rfl⟩
  rw [Manager.entry?_poll numbered, Option.map_eq_some_iff] at found
  rcases found with ⟨before, found, rfl⟩
  rw [Entry.handle_settledBy] at own ⊢
  refine ⟨scope, before, found, own, ?_⟩
  rw [← (manager.poll_sameBesidesTable setup.transport).launch]

/-- A replay waits until all sessions have settled, and tells of each of them once. -/
theorem settle_eq (reliable : setup.console.Reliable) {pending : List SessionId} {state final : σ}
    {batches : List (List Completion)}
    (settling : setup.transport.Settling setup.pause pending state batches final)
    {stage : Stage σ κ} (numbered : stage.integration.manager.Numbered)
    (pends : stage.integration.manager.Pends pending)
    (same : stage.integration.manager.transport = state) {rounds : Nat}
    (enough : batches.length ≤ rounds) :
    ∃ manager records,
      setup.settle rounds stage =
        (.ok (), setup.telling records { stage with integration.manager := manager }) ∧
      List.Forall₂ (setup.Tells stage.integration.manager) batches.flatten records ∧
      manager.transport = final ∧
      ∀ scope, manager.entry? scope =
        (stage.integration.manager.entry? scope).map (Entry.settledBy batches.flatten) := by
  induction settling generalizing stage rounds with
  | settled state =>
      have still := (isPending_eq_false_iff pends).mpr rfl
      refine ⟨stage.integration.manager, [], ?_, .nil, same, fun scope => ?_⟩
      · rw [telling_nil]
        exact settle_of_settled still rounds
      · cases stage.integration.manager.entry? scope <;> simp
  | @polled pending state final batches waits distinct awaited later ih =>
      subst same
      let manager := stage.integration.manager
      let polled := manager.poll setup.transport
      let told := polled.1.map (settledRecord setup.scope)
      let next : Stage σ κ := setup.telling told { stage with
        integration.manager := { polled.2 with
          transport := setup.transport.polledState setup.pause pending manager.transport } }
      obtain ⟨rounds, rfl⟩ : ∃ earlier, rounds = earlier + 1 :=
        Nat.exists_eq_add_one.mpr (Nat.lt_of_lt_of_le (Nat.succ_pos _) enough)
      have numberedNext : next.integration.manager.Numbered :=
        (numbered.poll setup.transport).of_same rfl fun _ => rfl
      have pendsNext : next.integration.manager.Pends _ :=
        fun session => pends.poll numbered setup.transport distinct session
      rcases ih numberedNext pendsNext rfl (Nat.le_of_succ_le_succ enough) with
        ⟨settled, records, ended, reports, left, entries⟩
      refine ⟨settled, told ++ records, ?_, ?_, left, fun scope => ?_⟩
      · rw [settle_succ pends numbered distinct reliable waits]
        refine ended.trans ?_
        rw [telling_append]
        rfl
      · rw [List.flatten_cons]
        exact List.rel_append (tells_poll pends numbered distinct awaited)
          (reports.imp fun completion record tells => Tells.of_poll numbered tells)
      · rw [entries, List.flatten_cons]
        refine (congrArg _ (Manager.entry?_poll numbered setup.transport scope)).trans ?_
        rw [Option.map_map]
        exact congrArg (Option.map · _) (funext fun entry => (entry.settledBy_append _ _).symm)

end Replay.Setup

end EditorSession
