import EditorSession.Program
import EditorSession.Proofs.Replay.Report
import EditorSession.Proofs.Replay.Sharing

/-!
# A rehearsal predicts the performance

A dry run starts no backend, and yet it tells what a run with backends will tell of every document
and with what it will start which sessions, if none of the starts is refused. The two come to the
same description of their openings (`Setup.opened_eq`), the dry run with a transport that says of
every start that it is running, and the other one with any transport that refuses nothing.
-/

namespace EditorSession

open Session (Handle Entry Progress)

namespace Replay

variable {σ κ : Type}

/-- A console that keeps all that is written puts records that go to the output at the end of it. -/
theorem Console.after_keeping {records : List Record}
    (outputs : ∀ record ∈ records, record.outlet = .output) (transcript : Transcript) :
    Console.keeping.after records transcript =
      { transcript with output :=
          transcript.output ++ String.join (records.map fun record => record.text ++ "\n") } := by
  induction records generalizing transcript with
  | nil => simp [after]
  | cons record rest ih =>
      have first : (Console.keeping.tell record transcript).2 =
          { transcript with output := transcript.output ++ (record.text ++ "\n") } := by
        simp [tell, keeping, Transcript.add, outputs record (List.mem_cons_self ..)]
      have later := ih (fun record mem => outputs record (List.mem_cons_of_mem _ mem))
        { transcript with output := transcript.output ++ (record.text ++ "\n") }
      rw [after, List.foldl_cons, first]
      refine later.trans ?_
      rw [List.map_cons, String.join_cons, String.append_assoc]

namespace Setup

/-! ### Replays on record -/

/-- A replay whose transport keeps a record of its calls. -/
def recording (setup : Setup σ κ) : Setup (Transport.Recorded σ) κ where
  transport := setup.transport.recorded
  pause := .pause setup.pause
  console := setup.console
  scope := setup.scope

/-- What a replay may do while it waits: it polls, and tells of what the polls report. -/
structure Waits (setup : Setup σ κ) (before after : Stage (Transport.Recorded σ) κ) : Prop where
  tells : ∃ results : List (Except Session.Error Handle),
    after.console = setup.console.after (results.map (settledRecord setup.scope)) before.console
  polls : ∃ batches : List (List Completion), after.integration.manager.transport.calls =
    before.integration.manager.transport.calls ++ batches.map .polled

variable {setup : Setup σ κ}

theorem Waits.refl (stage : Stage (Transport.Recorded σ) κ) : setup.Waits stage stage :=
  ⟨⟨[], rfl⟩, ⟨[], (List.append_nil _).symm⟩⟩

theorem Waits.trans {before middle after : Stage (Transport.Recorded σ) κ}
    (first : setup.Waits before middle) (second : setup.Waits middle after) :
    setup.Waits before after := by
  rcases first with ⟨⟨results, told⟩, ⟨batches, polled⟩⟩
  rcases second with ⟨⟨results', told'⟩, ⟨batches', polled'⟩⟩
  refine ⟨⟨results ++ results', ?_⟩, ⟨batches ++ batches', ?_⟩⟩
  · rw [told', told, List.map_append, Console.after_append]
  · rw [polled', polled, List.map_append, List.append_assoc]

theorem waits_poll (reliable : setup.console.Reliable) (stage : Stage (Transport.Recorded σ) κ) :
    ∃ after, setup.recording.poll stage = (.ok (), after) ∧ setup.Waits stage after := by
  refine ⟨_, @poll_eq _ _ setup.recording reliable stage, ⟨_, rfl⟩,
    [(setup.transport.poll stage.integration.manager.transport.inner).1], ?_⟩
  show (stage.integration.manager.poll setup.transport.recorded).2.transport.calls = _
  rw [(stage.integration.manager.poll_sameBesidesTable setup.transport.recorded).transport]
  rfl

theorem waits_settle (reliable : setup.console.Reliable) (rounds : Nat)
    (stage : Stage (Transport.Recorded σ) κ) :
    setup.Waits stage (setup.recording.settle rounds stage).2 := by
  induction rounds generalizing stage with
  | zero => exact .refl stage
  | succ rounds ih =>
      rw [settle]
      cases isPending stage with
      | false => exact .refl stage
      | true =>
          rcases waits_poll reliable stage with ⟨after, polled, waits⟩
          rw [if_pos rfl, polled]
          refine waits.trans (Waits.trans ?_ (ih _))
          cases isPending after with
          | false => exact .refl after
          | true => exact ⟨⟨[], rfl⟩, ⟨[], (List.append_nil _).symm⟩⟩

/-- After its openings, a replay starts no session and tells of no document. -/
theorem replay_tells (reliable : setup.console.Reliable) (rounds : Nat) (documents : List String)
    (stage : Stage (Transport.Recorded σ) κ) :
    let recorded := setup.transport.recorded
    let ended := (setup.recording.replay rounds documents stage).2
    let opened := opened recorded setup.scope stage.integration documents
    ∃ results : List (Except Session.Error Handle), ∃ later : List Transport.Call,
      ended.console = setup.console.after
        (openingRecords recorded setup.scope stage.integration documents ++
          results.map (settledRecord setup.scope)) stage.console ∧
      ended.integration.manager.transport.calls = opened.manager.transport.calls ++ later ∧
      later.filterMap Transport.Call.start? = [] := by
  intro recorded ended opened
  let openings := openingRecords recorded setup.scope stage.integration documents
  let told : Stage (Transport.Recorded σ) κ :=
    setup.recording.telling openings { stage with integration := opened }
  have openedAll : setup.recording.openEach documents stage = (.ok (), told) :=
    @openEach_eq _ _ setup.recording reliable documents stage
  rcases waited : setup.recording.settle rounds told with ⟨result, after⟩
  have waits := waits_settle reliable rounds told
  rw [waited] at waits
  rcases waits with ⟨⟨results, tells⟩, ⟨batches, polls⟩⟩
  have console : after.console = setup.console.after
      (openings ++ results.map (settledRecord setup.scope)) stage.console := by
    rw [tells, Console.after_append]
    rfl
  have none (batches : List (List Completion)) :
      (batches.map Transport.Call.polled).filterMap Transport.Call.start? = [] := by
    simp [List.filterMap_map, Function.comp_def, Transport.Call.start?]
  cases result with
  | error interruption =>
      have ended_eq : ended = after := by
        simp only [ended, replay, openedAll, waited]
      exact ⟨results, batches.map .polled, ended_eq ▸ console, ended_eq ▸ polls, none batches⟩
  | ok _ =>
      have ended_eq : ended = setup.recording.closeScope after := by
        simp only [ended, replay, openedAll, waited]
      let stopped := (after.integration.manager.session? setup.scope).map Handle.id
      refine ⟨results, batches.map .polled ++ stopped.toList.map .stopped, ended_eq ▸ console,
        ?_, ?_⟩
      · rw [ended_eq, ← List.append_assoc]
        refine (Manager.closeScope_calls setup.transport after.integration.manager _).trans ?_
        rw [polls]
        rfl
      · rw [List.filterMap_append, none]
        simp [List.filterMap_map, Function.comp_def, Transport.Call.start?]

/--
If none of its starts is refused, a replay on a transport that was called for nothing yet starts one
session at most, and tells of each document in order that it shares this session or is skipped.
-/
theorem replay_shares (reliable : setup.console.Reliable) (rounds : Nat) (documents : List String)
    {stage : Stage (Transport.Recorded σ) κ}
    (idle : stage.integration.manager.session? setup.scope = none)
    (uncalled : stage.integration.manager.transport.calls = []) :
    let manager := stage.integration.manager
    let gate := stage.integration.gate
    let ended := (setup.recording.replay rounds documents stage).2
    let left := ended.integration.manager.transport
    (∀ request answer, .started request answer ∈ left.calls → ∃ outcome, answer = .ok outcome) →
    ∃ outcome : StartOutcome, ∃ results : List (Except Session.Error Handle),
      ended.console = setup.console.after
        (documents.map (sharedRecord gate (manager.last + 1) (.ofAnswer (.ok outcome))) ++
          results.map (settledRecord setup.scope)) stage.console ∧
      left.starts =
        if activates gate documents then [manager.nextRequest setup.scope] else [] := by
  intro manager gate ended left unrefused
  rcases replay_tells reliable rounds documents stage with ⟨results, later, console, calls, none⟩
  replace calls : left.calls = _ ++ later := calls
  rcases opened_of_unrefused idle fun request answer called =>
    unrefused request answer (calls ▸ List.mem_append_left later called) with
    ⟨outcome, records, started⟩
  refine ⟨outcome, results, records ▸ console, ?_⟩
  rw [Transport.Recorded.starts, calls, List.filterMap_append, none, started, uncalled,
    List.append_nil, List.nil_append]
  cases asks : activates stage.integration.gate documents <;>
    simp [Transport.Call.start?, manager]

@[simp]
theorem outlet_sharedRecord (gate : Gate) (session : SessionId) (progress : Progress)
    (document : String) : (sharedRecord gate session progress document).outlet = .output := by
  rw [sharedRecord]
  split <;> rfl

theorem isFailure_sharedRecord (gate : Gate) (session : SessionId) (progress : Progress)
    (documents : List String) :
    (documents.map (sharedRecord gate session progress)).any Record.isFailure = false := by
  rw [List.any_eq_false]
  simp [Record.isFailure_iff]

section Running

variable (runs : ∀ request state, (setup.transport.start request state).1 = .ok .running)
  {integration : Integration (Transport.Recorded σ)}
  (alone : integration.manager.Alone setup.scope)
  (absent : integration.manager.entry? setup.scope = none)

include runs alone absent

/-- Where every start is answered at once with a running session, no session is starting when all
documents are opened. -/
theorem opened_of_running (documents : List String) :
    let recorded := setup.transport.recorded
    let manager := integration.manager
    let asks := activates integration.gate documents
    let opened := opened recorded setup.scope integration documents
    openingRecords recorded setup.scope integration documents =
        documents.map (sharedRecord integration.gate (manager.last + 1) .running) ∧
      opened.manager.Pends [] ∧
      opened.manager.session? setup.scope =
        (if asks then some (manager.nextHandle setup.scope) else none) ∧
      opened.manager.transport.calls = manager.transport.calls ++
        if asks then [.started (manager.nextRequest setup.scope) (.ok .running)] else [] := by
  intro recorded manager asks opened
  have idle : manager.session? setup.scope = none := by simp [Manager.session?, manager, absent]
  rcases @opened_eq _ recorded integration setup.scope idle .running documents
    (fun _ => runs _ _) with ⟨records, transport, found⟩
  replace transport : opened.manager.transport = if asks then
      (recorded.start (manager.nextRequest setup.scope) manager.transport).2.1
    else manager.transport := transport
  replace found : opened.manager.entry? setup.scope = if asks then
      some ⟨manager.nextHandle setup.scope, .running⟩ else none := found.trans (absent ▸ rfl)
  refine ⟨records, fun session => iff_of_false List.not_mem_nil ?_, ?_, ?_⟩
  · rintro ⟨other, entry, foundThen, -, starting⟩
    by_cases same : other = setup.scope
    · rw [same, found] at foundThen
      split at foundThen <;> cases foundThen
      cases starting
    · have aloneThen : opened.manager.Alone setup.scope :=
        Integration.alone_openAll alone setup.transport (by simp)
      rw [aloneThen.others other same] at foundThen
      cases foundThen
  · rw [Manager.session?, found]
    cases asks <;> rfl
  · rw [transport]
    cases asks with
    | false => exact (List.append_nil _).symm
    | true =>
        have answered := runs (manager.nextRequest setup.scope) manager.transport.inner
        simp [recorded, Transport.recorded, answered]

/-- Such a replay has nothing to wait for. It starts one session if some document passes the gate,
and stops it in the end. -/
theorem replay_of_running (reliable : setup.console.Reliable) (rounds : Nat)
    (documents : List String) (screen : κ) :
    let manager := integration.manager
    let gate := integration.gate
    let ended := setup.recording.replay rounds documents { integration, console := screen }
    ended.1 = .ok () ∧ ended.2.hasFailures = false ∧
      ended.2.console = setup.console.after
        (documents.map (sharedRecord gate (manager.last + 1) .running)) screen ∧
      ended.2.integration.manager.transport.calls = manager.transport.calls ++
        if activates gate documents then [.started (manager.nextRequest setup.scope) (.ok .running),
          .stopped (manager.last + 1)] else [] := by
  intro manager gate ended
  let opened := opened setup.transport.recorded setup.scope integration documents
  rcases opened_of_running runs alone absent documents with ⟨records, pends, session, calls⟩
  let told : Stage (Transport.Recorded σ) κ :=
    setup.recording.telling (documents.map (sharedRecord gate (manager.last + 1) .running))
      { integration := opened, console := screen }
  have openedAll : setup.recording.openEach documents { integration, console := screen } =
      (.ok (), told) := by
    rw [@openEach_eq _ _ setup.recording reliable documents]
    exact congrArg (fun records => (Except.ok (), setup.recording.telling records _)) records
  have waited : setup.recording.settle rounds told = (.ok (), told) :=
    settle_of_settled ((isPending_eq_false_iff pends).mpr rfl) rounds
  have ended_eq : ended = (.ok (), setup.recording.closeScope told) := by
    simp only [ended, replay, openedAll, waited]
  rw [ended_eq]
  refine ⟨rfl, isFailure_sharedRecord gate _ _ documents, rfl, ?_⟩
  refine (Manager.closeScope_calls setup.transport opened.manager setup.scope).trans ?_
  rw [session, show opened.manager.transport.calls = _ from calls]
  cases asks : activates integration.gate documents <;>
    simp [Manager.nextHandle, manager]

end Running

end Setup

end Replay

namespace Program

open Replay (Console Setup Stage Transcript readReport reportText)

/-- The line of a document in a replay that needs no second session. -/
def line (gate : Gate) (word document : String) : String :=
  (if gate.admits (Setup.documentOf document) then "session 1 " ++ word ++ " " ++ document
    else "skipped " ++ document) ++ "\n"

theorem keeping_sharedRecord (gate : Gate) (progress : Progress) (documents : List String)
    (transcript : Transcript) :
    Console.keeping.after (documents.map (Setup.sharedRecord gate 1 progress)) transcript =
      { transcript with output :=
          transcript.output ++ String.join (documents.map (line gate progress.label)) } := by
  have lines : (documents.map (Setup.sharedRecord gate 1 progress)).map
      (fun record => record.text ++ "\n") = documents.map (line gate progress.label) := by
    rw [List.map_map]
    refine List.map_congr_left fun document _ => ?_
    have number : "session " ++ toString (1 : SessionId) ++ " " = "session 1 " := by decide
    rw [Function.comp_apply, Setup.sharedRecord, line]
    split
    · show "session " ++ toString (1 : SessionId) ++ " " ++ progress.label ++ " " ++ document ++
        "\n" = _
      rw [number]
    · rfl
  rw [Console.after_keeping (by simp), lines]

/-- What sessions of a call are started with, and what they may do. -/
def declarationOf (call : Call) : Capability.Declaration :=
  ⟨call.configuration.id, call.configuration.capabilities⟩

/-- The request that starts the first session of a call. -/
def firstRequest (call : Call) : StartRequest where
  session := 1
  scope := call.options.scope
  launch := .ofConfiguration call.configuration call.options.mode
  capabilities := declarationOf call

/-- A dry run ends well, and starts and stops one session if some document passes the gate. -/
theorem rehearse_tells (call : Call) (looks : Nat) :
    let documents := call.options.documents
    let gate : Gate := ⟨call.configuration.targetExtension⟩
    let report := reportText (firstRequest call).launch (declarationOf call)
    (rehearse call looks).status = 0 ∧
      (rehearse call looks).transcript =
        { output := report ++ String.join (documents.map (line gate "running")), errors := "" } ∧
      (rehearsal call looks).2.integration.manager.transport.calls =
        if Setup.activates gate documents then
          [.started (firstRequest call) (.ok .running), .stopped 1] else [] := by
  intro documents gate report
  have reliable : Console.keeping.Reliable := fun _ _ _ => rfl
  have reported : Transcript.add .output report {} = { output := report } := by
    rw [Transcript.add, String.empty_append]
  rcases @Setup.replay_of_running _ _ (setupOf call Transport.rehearsal id) (fun _ _ => rfl) _
    (Integration.alone_ofConfiguration call.configuration call.options.mode () call.options.scope)
    rfl reliable looks documents (Transcript.add .output report {}) with
    ⟨finished, unfailed, console, calls⟩
  replace finished : (rehearsal call looks).1 = .ok () := finished
  replace unfailed : (rehearsal call looks).2.hasFailures = false := unfailed
  replace console : (rehearsal call looks).2.console =
    Console.keeping.after (documents.map (Setup.sharedRecord gate 1 .running))
      (Transcript.add .output report {}) := console
  rcases rehearsed : rehearsal call looks with ⟨result, stage⟩
  rw [rehearsed] at finished unfailed console
  obtain rfl : result = .ok () := finished
  refine ⟨?_, ?_, rehearsed ▸ calls⟩
  · rw [rehearse, rehearsed]
    show (if stage.hasFailures then 1 else 0) = 0
    rw [unfailed]
    rfl
  · rw [rehearse, rehearsed]
    show stage.console = _
    rw [console, reported, keeping_sharedRecord]
    rfl

/--
A dry run predicts every run none of whose starts is refused, whatever its transport answers and
reports otherwise. Both tell of each document in order, in the same words but for the state of the
session; what the other run tells besides is how pending starts ended. Both start the same sessions.
The report, which the dry run shows first, is JSON text that reads back to what every start request
carries. The dry run itself succeeds, tells nothing among the errors, tells of each document that
passes the gate that session 1 is running, and starts and stops that session if there is such a
document, and none otherwise.
-/
theorem rehearsal_predicts {σ : Type} (call : Call) (looks rounds : Nat) (transport : Transport σ)
    (pause : σ → σ) (state : σ) :
    let documents := call.options.documents
    let setup := (setupOf call transport pause).recording
    let performed := (setup.replay rounds documents (stageOf call {} ⟨state, []⟩)).2
    let called := performed.integration.manager.transport
    (∀ request answer, .started request answer ∈ called.calls → ∃ outcome, answer = .ok outcome) →
    let gate : Gate := ⟨call.configuration.targetExtension⟩
    let sessions := if Setup.activates gate documents then [1] else []
    let rehearsed := (rehearsal call looks).2.integration.manager.transport
    ∃ word ∈ ["starting", "running"],
    ∃ results : List (Except Session.Error Handle), ∃ report shown,
      performed.console =
        Console.keeping.after (results.map (Setup.settledRecord call.options.scope))
          { output := String.join (documents.map (line gate word)), errors := "" } ∧
      (rehearse call looks).status = 0 ∧
      (rehearse call looks).transcript =
        { output := report ++ String.join (documents.map (line gate "running")), errors := "" } ∧
      readReport report = some shown ∧
      (∀ request ∈ called.starts, shown =
        ⟨request.capabilities.integration, request.launch, request.capabilities.states⟩) ∧
      rehearsed.starts = called.starts ∧ called.starts.map StartRequest.session = sessions ∧
      rehearsed.stops = sessions := by
  intro documents setup performed called unrefused gate sessions rehearsed
  have reliable : Console.keeping.Reliable := fun _ _ _ => rfl
  rcases @Setup.replay_shares _ _ (setupOf call transport pause) reliable rounds documents
    (stageOf call {} ⟨state, []⟩) rfl rfl unrefused with ⟨outcome, results, console, starts⟩
  replace starts : called.starts =
    if Setup.activates gate documents then [firstRequest call] else [] := starts
  replace console : performed.console = Console.keeping.after
    (documents.map (Setup.sharedRecord gate 1 (.ofAnswer (.ok outcome))) ++
      results.map (Setup.settledRecord call.options.scope)) {} := console
  rcases rehearse_tells call looks with ⟨succeeded, transcript, calls⟩
  refine ⟨(Session.Progress.ofAnswer (.ok outcome)).label, by cases outcome <;> decide, results,
    _, _, ?_, succeeded, transcript, Replay.readReport_reportText .., ?_, ?_, ?_, ?_⟩
  · rw [console, Console.after_append, keeping_sharedRecord, String.empty_append]
  · intro request started
    rw [starts] at started
    split at started
    · rw [List.mem_singleton.mp started]
      rfl
    · cases started
  · rw [starts, Transport.Recorded.starts, calls]
    cases Setup.activates gate documents <;> rfl
  · rw [starts]
    show _ = if Setup.activates gate documents then [1] else []
    cases Setup.activates gate documents <;> rfl
  · rw [Transport.Recorded.stops, calls]
    show _ = if Setup.activates gate documents then [1] else []
    cases Setup.activates gate documents <;> rfl

/-- A start that is pending until all documents are opened, as a dry run predicts it. -/
theorem rehearsal_of_pending_start :
    let call : Call :=
      { options := { documents := ["pom.xml", "notes.md", "pom.xml"] }
        configuration := .vulnerabilities
        listener := default }
    let script : Transport.Script := { next := [.ok .pending], settled := [⟨1, .ok ()⟩] }
    let setup := (setupOf call (.scripted true) id).recording
    let performed := (setup.replay 1 call.options.documents (stageOf call {} ⟨script, []⟩)).2
    performed.console.output =
        "session 1 starting pom.xml\nskipped notes.md\nsession 1 starting pom.xml\n" ++
          "session 1 running\n" ∧
      (rehearse call 0).status = 0 ∧
      (rehearsal call 0).2.integration.manager.transport.starts =
        performed.integration.manager.transport.starts := by
  intro call script
  dsimp only
  have unrefused : ∀ request answer, .started request answer ∈
      ((setupOf call (.scripted true) id).recording.replay 1 call.options.documents
        (stageOf call {} ⟨script, []⟩)).2.integration.manager.transport.calls →
      ∃ outcome, answer = .ok outcome := by
    intro request answer called
    replace called : .started request answer ∈ [
      Transport.Call.started (firstRequest call) (.ok .pending), .polled [⟨1, .ok ()⟩],
      .stopped 1] := called
    simp only [List.mem_cons, Transport.Call.started.injEq, reduceCtorEq, List.not_mem_nil,
      or_false] at called
    exact ⟨.pending, called.2⟩
  rcases rehearsal_predicts call 0 1 (.scripted true) id script unrefused with
    ⟨word, -, results, report, shown, -, succeeded, -, -, -, started, -⟩
  exact ⟨by decide, succeeded, started⟩

end Program

end EditorSession
