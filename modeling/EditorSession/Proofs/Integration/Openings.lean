import EditorSession.Integration.Shared
import EditorSession.Proofs.Integration.Run
import EditorSession.Proofs.Session.Conduct

/-!
# Documents that are opened, and nothing else

A transport may answer every start of a scope in the same way. While documents are opened and
nothing is polled or closed, an integration over such a transport is then described scope by scope:
`Tallies` gives the sessions that were started for a scope, the session that is bound to it and the
documents that are associated with it by the paths that were opened there and pass the gate. Every
opening keeps this description.
-/

namespace EditorSession

open Session (Handle Entry Progress)
open Transport (sessionsOf startedSessions)

/-- A document that is opened in a scope. -/
structure Opening where
  scope : Scope
  document : Document
  deriving DecidableEq, Repr

/-- Whether an opened document is one of a scope and passes a gate. -/
def Opening.activates (gate : Gate) (scope : Scope) (opening : Opening) : Bool :=
  opening.scope = scope && gate.admits opening.document

/-- The paths that were opened in a scope and pass a gate, in order. -/
def activePaths (gate : Gate) (openings : List Opening) (scope : Scope) : List (List Path.Part) :=
  (openings.filter (Opening.activates gate scope)).map fun opening =>
    Path.parts opening.document.path

section ActivePaths

variable {gate : Gate} {openings : List Opening} {scope other : Scope} {document : Document}

theorem activePaths_declined (declined : gate.admits document = false) :
    activePaths gate (openings ++ [⟨scope, document⟩]) other = activePaths gate openings other := by
  simp [activePaths, List.filter_append, Opening.activates, declined]

theorem activePaths_admitted (admitted : gate.admits document = true) :
    activePaths gate (openings ++ [⟨scope, document⟩]) other =
      if other = scope then activePaths gate openings scope ++ [Path.parts document.path]
      else activePaths gate openings other := by
  by_cases same : other = scope
  · subst same
    simp [activePaths, List.filter_append, Opening.activates, admitted]
  · simp [activePaths, List.filter_append, Opening.activates, same, Ne.symm same]

end ActivePaths

theorem Transport.recorded_start {σ : Type} {transport : Transport σ} {request : StartRequest}
    {state after : Transport.Recorded σ} {answer : Except Backend.Error StartOutcome}
    {events : List Backend.Event}
    (called : transport.recorded.start request state = (answer, after, events)) :
    (transport.start request state.inner).1 = answer ∧
      ∃ inner, after = ⟨inner, state.calls ++ [.started request answer]⟩ := by
  cases called
  exact ⟨rfl, _, rfl⟩

/-- How many sessions are started for a scope of which so many documents are opened. -/
def startsFor (answer : Except Backend.Error StartOutcome) (opened : Nat) : Nat :=
  match answer with
  | .ok _ => min 1 opened
  | .error _ => opened

namespace Manager

variable {σ : Type}

/-- How often sessions were asked for says all of a manager whose transport gives every scope its own
answer. -/
structure Tallies (answer : Scope → Except Backend.Error StartOutcome)
    (capabilities : Capability.Declaration) (asked : Scope → Nat)
    (manager : Manager (Transport.Recorded σ)) : Prop where
  declared : manager.capabilities = capabilities
  counted : startedSessions manager.transport.calls = List.range' 1 manager.last
  starts : ∀ scope, (sessionsOf manager.transport.calls scope).length =
    startsFor (answer scope) (asked scope)
  entries : ∀ scope, manager.entry? scope =
    (sessionsOf manager.transport.calls scope).getLast?.map fun session =>
      ⟨⟨session, scope, capabilities⟩, .ofAnswer (answer scope)⟩

section Tallies

variable {answer : Scope → Except Backend.Error StartOutcome}
  {capabilities : Capability.Declaration} {asked after : Scope → Nat}
  {manager : Manager (Transport.Recorded σ)} {scope : Scope}

theorem Tallies.fresh (launch : LaunchSpecification) (state : σ) :
    (Manager.fresh launch capabilities (⟨state, []⟩ : Transport.Recorded σ)).Tallies answer
      capabilities (fun _ => 0) where
  declared := rfl
  counted := rfl
  starts scope := by cases answer scope <;> rfl
  entries scope := rfl

theorem Tallies.noteAll (tallies : manager.Tallies answer capabilities asked)
    (notes : List Event) : (manager.noteAll notes).Tallies answer capabilities asked :=
  ⟨tallies.declared, tallies.counted, tallies.starts, tallies.entries⟩

/-- The session of a scope has the progress that the answer to its start gives it. -/
theorem Tallies.progress_eq (tallies : manager.Tallies answer capabilities asked) {entry : Entry}
    (found : manager.entry? scope = some entry) : entry.progress = .ofAnswer (answer scope) := by
  rw [tallies.entries, Option.map_eq_some_iff] at found
  rcases found with ⟨session, _, rfl⟩
  rfl

theorem Tallies.asked_eq_zero (tallies : manager.Tallies answer capabilities asked)
    {outcome : StartOutcome} (accepted : answer scope = .ok outcome)
    (absent : manager.entry? scope = none) : asked scope = 0 := by
  rw [tallies.entries, Option.map_eq_none_iff, List.getLast?_eq_none_iff] at absent
  have none := tallies.starts scope
  rw [absent, accepted] at none
  simp only [List.length_nil, startsFor] at none
  omega

theorem Tallies.entry?_of_idle (tallies : manager.Tallies answer capabilities asked)
    {outcome : StartOutcome} (accepted : answer scope = .ok outcome)
    (idle : manager.session? scope = none) : manager.entry? scope = none := by
  cases found : manager.entry? scope with
  | none => rfl
  | some entry =>
      have failed := session?_eq_none_iff.mp idle entry found
      rw [tallies.progress_eq found, accepted] at failed
      cases outcome <;> cases failed

theorem Tallies.startsFor_of_live (tallies : manager.Tallies answer capabilities asked)
    {entry : Entry} (found : manager.entry? scope = some entry)
    (live : entry.progress.isLive = true) :
    startsFor (answer scope) (asked scope + 1) = startsFor (answer scope) (asked scope) := by
  rw [tallies.progress_eq found] at live
  rcases Progress.isLive_ofAnswer_iff.mp live with ⟨outcome, accepted⟩
  rw [tallies.entries, Option.map_eq_some_iff] at found
  rcases found with ⟨session, last, -⟩
  have started := tallies.starts scope
  have some : 0 < (sessionsOf manager.transport.calls scope).length :=
    List.length_pos_of_mem (List.mem_of_getLast? last)
  rw [accepted] at started ⊢
  simp only [startsFor] at started ⊢
  omega

theorem Tallies.startsFor_of_idle (tallies : manager.Tallies answer capabilities asked)
    (idle : manager.session? scope = none) :
    startsFor (answer scope) (asked scope + 1) = startsFor (answer scope) (asked scope) + 1 := by
  cases answered : answer scope with
  | error cause => rfl
  | ok outcome =>
      rw [tallies.asked_eq_zero answered (tallies.entry?_of_idle answered idle)]
      rfl

theorem Tallies.reused (tallies : manager.Tallies answer capabilities asked) {entry : Entry}
    (found : manager.entry? scope = some entry) (live : entry.progress.isLive = true)
    (own : after scope = asked scope + 1) (others : ∀ other, other ≠ scope → after other = asked other)
    (event : Session.Event) : (manager.note event).Tallies answer capabilities after where
  declared := tallies.declared
  counted := tallies.counted
  starts other := by
    by_cases same : other = scope
    · subst same
      rw [own, tallies.startsFor_of_live found live]
      exact tallies.starts other
    · rw [others other same]
      exact tallies.starts other
  entries := tallies.entries

theorem Tallies.started (tallies : manager.Tallies answer capabilities asked)
    (idle : manager.session? scope = none) (own : after scope = asked scope + 1)
    (others : ∀ other, other ≠ scope → after other = asked other) (inner : σ)
    (events : List Backend.Event) :
    (manager.started scope (answer scope) ⟨inner, manager.transport.calls ++
      [.started (manager.nextRequest scope) (answer scope)]⟩ events).2.Tallies answer
        capabilities after where
  declared := (manager.started_capabilities ..).trans tallies.declared
  counted := by
    rw [started_transport, started_last, Transport.startedSessions_started, tallies.counted,
      List.range'_1_concat, nextRequest_session, Nat.add_comm]
  starts other := by
    rw [started_transport, Transport.sessionsOf_started, nextRequest_scope]
    by_cases same : scope = other
    · subst same
      rw [if_pos rfl, List.length_append, tallies.starts, own, tallies.startsFor_of_idle idle]
      rfl
    · rw [if_neg same, tallies.starts, others other (Ne.symm same)]
  entries other := by
    rw [entry?_started, started_transport, Transport.sessionsOf_started, nextRequest_scope]
    by_cases same : other = scope
    · -- The last session of the scope is the one that was just started.
      subst same
      simp [nextHandle, tallies.declared]
    · rw [if_neg same, if_neg (Ne.symm same), tallies.entries]

end Tallies

end Manager

namespace Integration

variable {σ : Type}

/-- Opens documents in turn, and yields what each of them is answered with. -/
def openAll (transport : Transport σ) (integration : Integration σ) :
    List Opening → List (Except Session.Error (Option Handle)) × Integration σ
  | [] => ([], integration)
  | opening :: rest =>
    let (result, integration) :=
      integration.documentOpened transport opening.scope opening.document
    let (results, integration) := integration.openAll transport rest
    (result :: results, integration)

/-- The documents of a scope with these paths, if there is a session for them. -/
def linkedFor (answer : Except Backend.Error StartOutcome) (bound : Option Entry)
    (paths : List (List Path.Part)) : Option Linked :=
  match answer with
  | .ok _ => bound.map fun entry => ⟨entry.handle, paths.foldl Linked.withPath []⟩
  | .error _ => none

/-- What documents were opened says all of an integration whose transport gives every scope its own
answer. -/
structure Tallies (answer : Scope → Except Backend.Error StartOutcome)
    (capabilities : Capability.Declaration) (gate : Gate) (past : List Opening)
    (integration : Integration (Transport.Recorded σ)) : Prop where
  gated : integration.gate = gate
  manager : integration.manager.Tallies answer capabilities
    fun scope => (activePaths gate past scope).length
  documents : ∀ scope, integration.documents.get? scope =
    linkedFor (answer scope) (integration.manager.entry? scope) (activePaths gate past scope)

section Step

variable {transport : Transport σ} {answer : Scope → Except Backend.Error StartOutcome}
  {capabilities : Capability.Declaration} {gate : Gate} {past : List Opening}
  {integration : Integration (Transport.Recorded σ)} {scope : Scope} {document : Document}

theorem Tallies.fresh (gate : Gate) (launch : LaunchSpecification) (state : σ) :
    (Integration.fresh gate launch capabilities (⟨state, []⟩ : Transport.Recorded σ)).Tallies
      answer capabilities gate [] where
  gated := rfl
  manager := .fresh launch state
  documents scope := by cases answer scope <;> rfl

/-- A declined document changes nothing but the journal. -/
theorem Tallies.declined (tallies : integration.Tallies answer capabilities gate past)
    (declined : gate.admits document = false) :
    (integration.consult document).2.Tallies answer capabilities gate
      (past ++ [⟨scope, document⟩]) where
  gated := tallies.gated
  manager := by
    simp only [activePaths_declined declined]
    exact tallies.manager.noteAll _
  documents other := by
    rw [activePaths_declined declined]
    exact tallies.documents other

/-- An admitted document whose scope has a session is associated with it. -/
theorem Tallies.associated (tallies : integration.Tallies answer capabilities gate past)
    (admitted : gate.admits document = true) {outcome : StartOutcome}
    (accepted : answer scope = .ok outcome) {manager : Manager (Transport.Recorded σ)}
    {entry : Entry} (managed : manager.Tallies answer capabilities
      fun other => (activePaths gate (past ++ [⟨scope, document⟩]) other).length)
    (found : manager.entry? scope = some entry)
    (others : ∀ other, other ≠ scope → manager.entry? other = integration.manager.entry? other)
    (kept : ∀ former, integration.manager.entry? scope = some former → former = entry) :
    ((integration.withManager manager).associate entry.handle scope document).Tallies answer
      capabilities gate (past ++ [⟨scope, document⟩]) := by
  rcases (integration.withManager manager).associate_manager entry.handle scope document with
    ⟨notes, _, sameManager⟩
  refine ⟨(associate_gate ..).trans tallies.gated, ?_, ?_⟩
  · rw [sameManager]
    exact managed.noteAll notes
  · intro other
    rw [sameManager, get?_associate, Manager.entry?_noteAll]
    show (if other = scope then
      some (joined (integration.documents.get? scope) entry.handle (Path.parts document.path))
      else integration.documents.get? other) = linkedFor _ (manager.entry? other) _
    by_cases same : other = scope
    · subst same
      rw [if_pos rfl, activePaths_admitted admitted, if_pos rfl, tallies.documents, found, accepted]
      cases before : integration.manager.entry? other with
      | none =>
          have unasked := tallies.manager.asked_eq_zero accepted before
          rw [List.length_eq_zero_iff.mp unasked]
          rfl
      | some former =>
          cases kept former before
          simp [linkedFor, joined, List.foldl_append]
    · rw [if_neg same, activePaths_admitted admitted, if_neg same, others other same]
      exact tallies.documents other

/-- An admitted document whose scope gets no session is associated with none. -/
theorem Tallies.refused (tallies : integration.Tallies answer capabilities gate past)
    (admitted : gate.admits document = true) {cause : Backend.Error}
    (refused : answer scope = .error cause) {manager : Manager (Transport.Recorded σ)}
    (managed : manager.Tallies answer capabilities
      fun other => (activePaths gate (past ++ [⟨scope, document⟩]) other).length)
    (others : ∀ other, other ≠ scope → manager.entry? other = integration.manager.entry? other) :
    ((integration.consult document).2.withManager manager).Tallies answer capabilities gate
      (past ++ [⟨scope, document⟩]) := by
  refine ⟨tallies.gated, managed, fun other => ?_⟩
  show integration.documents.get? other = linkedFor _ (manager.entry? other) _
  rw [tallies.documents]
  by_cases same : other = scope
  · subst same
    rw [refused]
    rfl
  · rw [activePaths_admitted admitted, if_neg same, others other same]

/-- Every opening keeps the tallies. -/
theorem Tallies.opened (tallies : integration.Tallies answer capabilities gate past)
    (answers : ∀ request state, (transport.start request state).1 = answer request.scope)
    (scope : Scope) (document : Document) :
    (integration.documentOpened transport.recorded scope document).2.Tallies answer capabilities
      gate (past ++ [⟨scope, document⟩]) := by
  have opened := integration.documentOpened_eq transport.recorded scope document
  rw [tallies.gated] at opened
  cases admitted : gate.admits document with
  | false =>
      rw [opened, admitted]
      exact tallies.declined admitted
  | true =>
      have own : (activePaths gate (past ++ [⟨scope, document⟩]) scope).length =
          (activePaths gate past scope).length + 1 := by
        rw [activePaths_admitted admitted, if_pos rfl, List.length_append]
        rfl
      have others : ∀ other, other ≠ scope →
          (activePaths gate (past ++ [⟨scope, document⟩]) other).length =
            (activePaths gate past other).length := by
        intro other otherScope
        rw [activePaths_admitted admitted, if_neg otherScope]
      let consulted := (integration.consult document).2
      have managed : consulted.manager.Tallies answer capabilities
          fun scope => (activePaths gate past scope).length := tallies.manager.noteAll _
      simp only [admitted, ↓reduceIte] at opened
      rcases consulted.manager.ensureStarted_cases transport.recorded scope with
        ⟨entry, found, live, reused⟩ | ⟨idle, given, state, events, called, begun⟩
      · rw [opened, reused]
        have isLive := live
        rw [managed.progress_eq found] at isLive
        rcases Progress.isLive_ofAnswer_iff.mp isLive with ⟨outcome, accepted⟩
        refine tallies.associated admitted accepted (managed.reused found live own others _) found
          (fun _ _ => rfl) ?_
        intro former formerFound
        exact Manager.entry?_unique formerFound found
      · -- The transport is asked for a session, and the scope alone decides what it answers.
        rcases Transport.recorded_start called with ⟨given_eq, inner, rfl⟩
        rw [answers, Manager.nextRequest_scope] at given_eq
        subst given_eq
        have started := managed.started idle own others inner events
        rw [opened, begun, Manager.started_result]
        cases accepted : answer scope with
        | error cause =>
            rw [accepted] at started
            exact tallies.refused admitted accepted started fun other otherScope =>
              (Manager.entry?_started ..).trans (if_neg otherScope)
        | ok outcome =>
            rw [accepted] at started
            refine tallies.associated admitted accepted started
              ((Manager.entry?_started ..).trans (if_pos rfl))
              (fun other otherScope => (Manager.entry?_started ..).trans (if_neg otherScope)) ?_
            -- There is no former session: it would be live, and used again.
            intro former formerFound
            rw [show integration.manager.entry? scope = none from
              managed.entry?_of_idle accepted idle] at formerFound
            cases formerFound

/-! ### Answers -/

theorem documentOpened_of_declined (transport : Transport σ) (integration : Integration σ)
    (scope : Scope) (declined : integration.gate.admits document = false) :
    integration.documentOpened transport scope document =
      (.ok none, (integration.consult document).2) := by
  rw [documentOpened_eq, declined]
  rfl

/-- An admitted document has the manager asked for a session, and is noted besides. -/
theorem documentOpened_of_admitted (transport : Transport σ) (integration : Integration σ)
    (scope : Scope) {document : Document} (admitted : integration.gate.admits document = true) :
    ∃ notes, (integration.documentOpened transport scope document).2.manager =
      ((integration.consult document).2.manager.ensureStarted transport scope).2.noteAll notes := by
  have opened := integration.documentOpened_eq transport scope document
  simp only [admitted, ↓reduceIte] at opened
  let asked := (integration.consult document).2.manager.ensureStarted transport scope
  cases result : asked.1 with
  | error error =>
      rw [show _ = Except.error error from result] at opened
      exact ⟨[], by rw [opened]; simp [withManager, Manager.noteAll]⟩
  | ok handle =>
      rw [show _ = Except.ok handle from result] at opened
      rcases ((integration.consult document).2.withManager asked.2).associate_manager handle scope
        document with ⟨notes, -, same⟩
      exact ⟨notes, by rw [opened]; exact same⟩

/-- A document is declined if and only if it does not pass the gate. -/
theorem documentOpened_eq_none_iff (transport : Transport σ) (integration : Integration σ)
    (scope : Scope) (document : Document) :
    (integration.documentOpened transport scope document).1 = .ok none ↔
      integration.gate.admits document = false := by
  rw [documentOpened_eq]
  cases integration.gate.admits document with
  | false => simp
  | true =>
      cases result : ((integration.consult document).2.manager.ensureStarted transport scope).1 <;>
        simp [result]

@[simp]
theorem documentOpened_gate (transport : Transport σ) (integration : Integration σ)
    (scope : Scope) (document : Document) :
    (integration.documentOpened transport scope document).2.gate = integration.gate := by
  rcases integration.documentOpened_cases transport scope document with
    opened | ⟨entry, event, -, -, opened⟩ |
    ⟨-, answer, state, events, -, ⟨outcome, -, opened⟩ | ⟨cause, error, -, opened⟩⟩
  · rw [opened]
    rfl
  · rw [opened]
    exact associate_gate ..
  · rw [opened]
    exact associate_gate ..
  · rw [opened]
    rfl

/-- A scope keeps a live session while documents are opened. -/
theorem entry?_documentOpened_of_live (transport : Transport σ) {integration : Integration σ}
    {other : Scope} {entry : Entry} (found : integration.manager.entry? other = some entry)
    (live : entry.progress.isLive = true) (scope : Scope) (document : Document) :
    (integration.documentOpened transport scope document).2.manager.entry? other = some entry := by
  cases admitted : integration.gate.admits document with
  | false =>
      rw [documentOpened_of_declined transport integration scope admitted]
      exact found
  | true =>
      rcases documentOpened_of_admitted transport integration scope admitted with ⟨notes, same⟩
      rw [same, Manager.entry?_noteAll]
      rcases (integration.consult document).2.manager.ensureStarted_cases transport scope with
        ⟨current, -, -, reused⟩ | ⟨idle, answer, state, events, -, begun⟩
      · rw [reused]
        exact found
      · -- A session is started for a scope without a live one, which is another.
        have otherScope : other ≠ scope := by
          rintro rfl
          exact Progress.isLive_iff_ne_failed.mp live
            (Manager.session?_eq_none_iff.mp idle entry found)
        rw [begun, Manager.entry?_started, if_neg otherScope]
        exact found

/-- Where starts succeed, an admitted document is answered with the session of its scope. -/
theorem Tallies.opened_result (tallies : integration.Tallies answer capabilities gate past)
    (answers : ∀ request state, (transport.start request state).1 = answer request.scope)
    {outcome : StartOutcome} (accepted : answer scope = .ok outcome)
    (admitted : gate.admits document = true) :
    ∃ entry, (integration.documentOpened transport.recorded scope document).2.manager.entry? scope =
        some entry ∧
      (integration.documentOpened transport.recorded scope document).1 =
        .ok (some entry.handle) := by
  have opened := integration.documentOpened_eq transport.recorded scope document
  rw [tallies.gated] at opened
  simp only [admitted, ↓reduceIte] at opened
  let consulted := (integration.consult document).2
  have started : ∃ handle,
      (consulted.manager.ensureStarted transport.recorded scope).1 = .ok handle := by
    rcases consulted.manager.ensureStarted_cases transport.recorded scope with
      ⟨entry, found, live, reused⟩ | ⟨idle, given, state, events, called, begun⟩
    · exact ⟨entry.handle, by rw [reused]⟩
    · have given_eq := (Transport.recorded_start called).1
      rw [answers, Manager.nextRequest_scope, accepted] at given_eq
      exact ⟨_, by rw [begun, Manager.started_result, ← given_eq]⟩
  rcases started with ⟨handle, started⟩
  rcases Manager.entry?_of_ensureStarted started with ⟨entry, found, rfl⟩
  rcases associate_manager (consulted.withManager
    (consulted.manager.ensureStarted transport.recorded scope).2) entry.handle scope document with
    ⟨notes, _, same⟩
  refine ⟨entry, ?_, ?_⟩
  · rw [opened, started]
    show Manager.entry? (associate _ entry.handle scope document).manager scope = some entry
    rw [same]
    exact found
  · rw [opened, started]

/-! ### All openings -/

theorem Tallies.openAll (tallies : integration.Tallies answer capabilities gate past)
    (answers : ∀ request state, (transport.start request state).1 = answer request.scope)
    (openings : List Opening) :
    (integration.openAll transport.recorded openings).2.Tallies answer capabilities gate
      (past ++ openings) := by
  induction openings generalizing integration past with
  | nil => rwa [List.append_nil]
  | cons opening rest ih =>
      have later := ih (tallies.opened answers opening.scope opening.document)
      rwa [List.append_assoc] at later

theorem entry?_openAll_of_live (transport : Transport σ) {integration : Integration σ}
    {entry : Entry} (found : integration.manager.entry? scope = some entry)
    (live : entry.progress.isLive = true) (openings : List Opening) :
    (integration.openAll transport openings).2.manager.entry? scope = some entry := by
  induction openings generalizing integration with
  | nil => exact found
  | cons opening rest ih =>
      exact ih (entry?_documentOpened_of_live transport found live opening.scope opening.document)

/-- Where starts succeed, all admitted documents are answered with the one session that the scope
has in the end. -/
theorem Tallies.openAll_results (tallies : integration.Tallies answer capabilities gate past)
    (answers : ∀ request state, (transport.start request state).1 = answer request.scope)
    {outcome : StartOutcome} (accepted : answer scope = .ok outcome) (openings : List Opening)
    {opening : Opening} {result : Except Session.Error (Option Handle)}
    (answered : (opening, result) ∈ openings.zip (integration.openAll transport.recorded openings).1)
    (own : opening.scope = scope) :
    if gate.admits opening.document then
      ∃ entry, (integration.openAll transport.recorded openings).2.manager.entry? scope =
        some entry ∧ result = .ok (some entry.handle)
    else result = .ok none := by
  induction openings generalizing integration past with
  | nil => cases answered
  | cons first rest ih =>
      have next := tallies.opened answers first.scope first.document
      rcases List.mem_cons.mp answered with same | later
      · have sameOpening : opening = first := congrArg Prod.fst same
        have sameResult : result = (integration.documentOpened transport.recorded first.scope
          first.document).1 := congrArg Prod.snd same
        subst sameOpening
        rw [sameResult]
        cases admitted : gate.admits opening.document with
        | false =>
            have declined : integration.gate.admits opening.document = false := by
              rw [tallies.gated, admitted]
            rw [documentOpened_of_declined transport.recorded integration _ declined]
            rfl
        | true =>
            rcases tallies.opened_result answers (own ▸ accepted) admitted with
              ⟨entry, found, result_eq⟩
            have live : entry.progress.isLive = true := by
              rw [next.manager.progress_eq found, own, accepted]
              exact Progress.isLive_ofAnswer_ok outcome
            have kept := entry?_openAll_of_live transport.recorded found live rest
            exact ⟨entry, own ▸ kept, result_eq⟩
      · exact ih next later

end Step

/-- Openings with a transport that does more bring about the same. -/
theorem openAll_through {τ : Type} {fine : Transport σ} {coarse : Transport τ} {project : σ → τ}
    (refines : fine.Refines coarse project) (integration : Integration σ)
    (openings : List Opening) :
    (integration.through project).openAll coarse openings =
      ((integration.openAll fine openings).1,
        (integration.openAll fine openings).2.through project) := by
  induction openings generalizing integration with
  | nil => rfl
  | cons opening rest ih =>
      simp only [openAll, documentOpened_through refines, ih]

end Integration

end EditorSession
