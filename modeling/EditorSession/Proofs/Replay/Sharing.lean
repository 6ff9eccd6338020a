import EditorSession.Proofs.Replay.Accounting

/-!
# Documents that share one session

All documents of a replay are opened in one scope. The first that passes the gate starts a session
there, and if this start succeeds the session serves the others as well, running or not. So whatever
transport a replay has, its answer to one request says all about the openings (`opened_eq`), and so
do the calls the transport received (`opened_of_unrefused`).
-/

namespace EditorSession

open Session (Handle Entry Progress)

/-! ### Openings on record -/

namespace Integration

variable {σ : Type}

/-- A document that passes the gate has the transport asked for a session if there is none. -/
theorem calls_documentOpened (transport : Transport σ)
    (integration : Integration (Transport.Recorded σ)) (scope : Scope) (document : Document) :
    let manager := integration.manager
    let request := manager.nextRequest scope
    (integration.documentOpened transport.recorded scope document).2.manager.transport.calls =
      manager.transport.calls ++
        if integration.gate.admits document = true ∧ manager.session? scope = none then
          [.started request (transport.start request manager.transport.inner).1]
        else [] := by
  intro manager request
  cases admitted : integration.gate.admits document with
  | false =>
      rw [documentOpened_of_declined transport.recorded integration scope admitted]
      simp [consult, note, Manager.noteAll, manager]
  | true =>
      rcases documentOpened_of_admitted transport.recorded integration scope admitted with
        ⟨notes, same⟩
      rw [same]
      rcases (integration.consult document).2.manager.ensureStarted_cases transport.recorded scope
        with ⟨entry, found, live, reused⟩ | ⟨idle, answer, state, events, called, begun⟩
      · have live : manager.session? scope ≠ none := fun idle =>
          Progress.isLive_iff_ne_failed.mp live (Manager.session?_eq_none_iff.mp idle entry found)
        rw [reused, if_neg fun asks => live asks.2, List.append_nil]
        rfl
      · rcases Transport.recorded_start called with ⟨answered, inner, rfl⟩
        have asks : true = true ∧ manager.session? scope = none := ⟨rfl, idle⟩
        rw [begun, if_pos asks, Manager.noteAll, Manager.started_transport, ← answered]
        rfl

/-- What a transport was asked for stays on record while documents are opened. -/
theorem calls_openAll (transport : Transport σ) (integration : Integration (Transport.Recorded σ))
    (openings : List Opening) :
    integration.manager.transport.calls <+:
      (integration.openAll transport.recorded openings).2.manager.transport.calls := by
  induction openings generalizing integration with
  | nil => exact List.prefix_refl _
  | cons opening rest ih =>
      have first : integration.manager.transport.calls <+: (integration.documentOpened
          transport.recorded opening.scope opening.document).2.manager.transport.calls := by
        rw [calls_documentOpened]
        exact List.prefix_append _ _
      exact first.trans (ih _)

end Integration

namespace Replay.Setup

variable {σ : Type} {transport : Transport σ} {integration : Integration σ} {scope : Scope}

/-- Whether some document passes a gate. -/
def activates (gate : Gate) (documents : List String) : Bool :=
  documents.any fun document => gate.admits (documentOf document)

/-- The record of a document for which a session is there that has come so far. -/
def sharedRecord (gate : Gate) (session : SessionId) (progress : Progress) (document : String) :
    Record :=
  if gate.admits (documentOf document) then .opened session (.bound progress) document
  else .skipped document

/-- An admitted document that gets a session is told of with the state of that session. -/
theorem recordOf_bound {document : String} {manager : Manager σ} {entry : Entry}
    (admitted : integration.gate.admits (documentOf document) = true)
    (asked : (integration.consult (documentOf document)).2.manager.ensureStarted transport scope =
      (.ok entry.handle, manager))
    (found : manager.entry? scope = some entry) (named : entry.handle.scope = scope) :
    recordOf transport scope integration document =
        sharedRecord integration.gate entry.handle.id entry.progress document ∧
      ∃ notes, (integration.documentOpened transport scope (documentOf document)).2.manager =
        manager.noteAll notes := by
  have opened := integration.documentOpened_eq transport scope (documentOf document)
  simp only [admitted, ↓reduceIte, asked] at opened
  rcases ((integration.consult (documentOf document)).2.withManager manager).associate_manager
    entry.handle scope (documentOf document) with ⟨notes, -, same⟩
  have state : Manager.stateOf (manager.noteAll notes) entry.handle = .bound entry.progress :=
    Manager.stateOf_eq_bound_iff.mpr ⟨entry, named ▸ found, rfl, rfl⟩
  refine ⟨?_, notes, opened ▸ same⟩
  rw [recordOf, opened, sharedRecord, if_pos admitted]
  dsimp only [openingRecord]
  rw [same, ← state]
  rfl

/-- A document that a live session serves leaves the transport alone. -/
theorem recordOf_of_live {entry : Entry} (found : integration.manager.entry? scope = some entry)
    (live : entry.progress.isLive = true) (named : entry.handle.scope = scope)
    (document : String) :
    recordOf transport scope integration document =
        sharedRecord integration.gate entry.handle.id entry.progress document ∧
      (integration.documentOpened transport scope (documentOf document)).2.manager.transport =
        integration.manager.transport := by
  cases admitted : integration.gate.admits (documentOf document) with
  | false =>
      have declined := Integration.documentOpened_of_declined transport integration scope admitted
      simp only [recordOf, declined, sharedRecord, admitted]
      exact ⟨rfl, rfl⟩
  | true =>
      have foundThen :
          (integration.consult (documentOf document)).2.manager.entry? scope = some entry := found
      rcases Manager.ensureStarted_of_live transport foundThen live with ⟨event, asked⟩
      rcases recordOf_bound admitted asked foundThen named with ⟨record, notes, same⟩
      exact ⟨record, by rw [same]; rfl⟩

/-- A live session serves all documents. -/
theorem opened_of_live {entry : Entry} (found : integration.manager.entry? scope = some entry)
    (live : entry.progress.isLive = true) (named : entry.handle.scope = scope)
    (documents : List String) :
    openingRecords transport scope integration documents =
        documents.map (sharedRecord integration.gate entry.handle.id entry.progress) ∧
      (opened transport scope integration documents).manager.transport =
        integration.manager.transport := by
  induction documents generalizing integration with
  | nil => exact ⟨rfl, rfl⟩
  | cons document rest ih =>
      rcases recordOf_of_live found live named document with ⟨record, same⟩
      rcases ih (Integration.entry?_documentOpened_of_live transport found live scope _) with
        ⟨records, later⟩
      rw [Integration.documentOpened_gate] at records
      exact ⟨by rw [openingRecords, record, records, List.map_cons], later.trans same⟩

/-- A document that passes the gate brings a session to a scope without one. -/
theorem recordOf_of_idle (idle : integration.manager.session? scope = none) {document : String}
    (admitted : integration.gate.admits (documentOf document) = true) {outcome : StartOutcome} :
    let manager := integration.manager
    let answer := transport.start (manager.nextRequest scope) manager.transport
    answer.1 = .ok outcome →
    let after := (integration.documentOpened transport scope (documentOf document)).2.manager
    recordOf transport scope integration document =
        sharedRecord integration.gate (manager.last + 1) (.ofAnswer (.ok outcome)) document ∧
      after.transport = answer.2.1 ∧
      after.entry? scope = some ⟨manager.nextHandle scope, .ofAnswer (.ok outcome)⟩ := by
  intro manager answer accepted after
  let consulted := (integration.consult (documentOf document)).2.manager
  have idleThen : consulted.session? scope = none := idle
  rcases Manager.ensureStarted_of_idle transport idleThen with
    ⟨given, state, events, called, begun⟩
  have same : answer = (given, state, events) := called
  obtain rfl : given = .ok outcome := (congrArg Prod.fst same).symm.trans accepted
  let started := (consulted.started scope (.ok outcome) state events).2
  let entry : Entry := ⟨manager.nextHandle scope, .ofAnswer (.ok outcome)⟩
  have found : started.entry? scope = some entry := (Manager.entry?_started ..).trans (if_pos rfl)
  have asked : consulted.ensureStarted transport scope = (.ok entry.handle, started) :=
    begun.trans (Prod.ext (Manager.started_result ..) rfl)
  rcases recordOf_bound admitted asked found rfl with ⟨record, notes, noted⟩
  have transportAfter : after.transport = answer.2.1 := by
    rw [same, show after = _ from noted]
    exact Manager.started_transport ..
  refine ⟨record, transportAfter, ?_⟩
  rw [show after = _ from noted]
  exact found

/--
A scope without a session gets one with the first document that passes the gate. If the transport
does not refuse it, all later documents share it, and the transport is asked for nothing else.
-/
theorem opened_eq (idle : integration.manager.session? scope = none) {outcome : StartOutcome}
    {documents : List String} :
    let manager := integration.manager
    let answer := transport.start (manager.nextRequest scope) manager.transport
    let isAsked := activates integration.gate documents
    (isAsked = true → answer.1 = .ok outcome) →
    let opened := opened transport scope integration documents
    openingRecords transport scope integration documents =
        documents.map (sharedRecord integration.gate (manager.last + 1)
          (.ofAnswer (.ok outcome))) ∧
      opened.manager.transport = (if isAsked then answer.2.1 else manager.transport) ∧
      opened.manager.entry? scope =
        if isAsked then some ⟨manager.nextHandle scope, .ofAnswer (.ok outcome)⟩
        else manager.entry? scope := by
  induction documents generalizing integration with
  | nil => exact fun _ => ⟨rfl, rfl, rfl⟩
  | cons document rest ih =>
      intro manager answer isAsked accepted opened
      cases admitted : integration.gate.admits (documentOf document) with
      | false =>
          let consulted := (integration.consult (documentOf document)).2
          have same : isAsked = activates integration.gate rest := by
            simp [isAsked, activates, admitted]
          have declined :=
            Integration.documentOpened_of_declined transport integration scope admitted
          have after : opened = Setup.opened transport scope consulted rest :=
            congrArg (fun answer => Setup.opened transport scope answer.2 rest) declined
          rcases @ih consulted idle (same ▸ accepted) with ⟨records, later⟩
          rw [after, same, openingRecords, declined, records, List.map_cons]
          refine ⟨?_, later⟩
          rw [recordOf, declined, sharedRecord, admitted]
          rfl
      | true =>
          have asks : isAsked = true := by simp [isAsked, activates, admitted]
          rcases recordOf_of_idle idle admitted (accepted asks) with ⟨record, asked, found⟩
          have live := Progress.isLive_ofAnswer_ok outcome
          rcases opened_of_live found live rfl rest with ⟨records, kept⟩
          rw [Integration.documentOpened_gate] at records
          rw [asks]
          refine ⟨?_, kept.trans asked, Integration.entry?_openAll_of_live transport found live _⟩
          rw [openingRecords, record, records, List.map_cons]
          rfl

/-- The first document that passes the gate has the transport asked for a session. -/
theorem start_mem_opened {transport : Transport σ}
    {integration : Integration (Transport.Recorded σ)}
    (idle : integration.manager.session? scope = none) {documents : List String}
    (asks : activates integration.gate documents = true) :
    let request := integration.manager.nextRequest scope
    .started request (transport.start request integration.manager.transport.inner).1 ∈
      (opened transport.recorded scope integration documents).manager.transport.calls := by
  intro request
  induction documents generalizing integration with
  | nil => cases asks
  | cons document rest ih =>
      let after := (integration.documentOpened transport.recorded scope (documentOf document)).2
      have calls := Integration.calls_documentOpened transport integration scope
        (documentOf document)
      cases admitted : integration.gate.admits (documentOf document) with
      | false =>
          let consulted := (integration.consult (documentOf document)).2
          have declined : after = consulted := congrArg Prod.snd
            (Integration.documentOpened_of_declined transport.recorded integration scope admitted)
          have later : activates integration.gate rest = true := by
            simpa [activates, admitted] using asks
          have called := @ih consulted idle later
          show _ ∈ (opened transport.recorded scope after rest).manager.transport.calls
          rw [declined]
          exact called
      | true =>
          refine (Integration.calls_openAll transport after _).subset ?_
          rw [show after.manager.transport.calls = _ from calls, if_pos ⟨admitted, idle⟩]
          exact List.mem_append_right _ (List.mem_singleton.mpr rfl)

/--
If none of its starts is refused, a scope without a session gets one at most while documents are
opened, and all documents that pass the gate share it.
-/
theorem opened_of_unrefused {transport : Transport σ}
    {integration : Integration (Transport.Recorded σ)}
    (idle : integration.manager.session? scope = none) {documents : List String} :
    let manager := integration.manager
    let opened := opened transport.recorded scope integration documents
    (∀ request answer, .started request answer ∈ opened.manager.transport.calls →
      ∃ outcome, answer = .ok outcome) →
    ∃ outcome,
      openingRecords transport.recorded scope integration documents =
        documents.map (sharedRecord integration.gate (manager.last + 1)
          (.ofAnswer (.ok outcome))) ∧
      opened.manager.transport.calls = manager.transport.calls ++
        if activates integration.gate documents then
          [.started (manager.nextRequest scope) (.ok outcome)]
        else [] := by
  intro manager opened unrefused
  have accepted : ∃ outcome, activates integration.gate documents = true →
      (transport.start (manager.nextRequest scope) manager.transport.inner).1 = .ok outcome := by
    cases asks : activates integration.gate documents with
    | false => exact ⟨.running, fun asks => nomatch asks⟩
    | true =>
        rcases unrefused _ _ (start_mem_opened idle asks) with ⟨outcome, accepted⟩
        exact ⟨outcome, fun _ => accepted⟩
  rcases accepted with ⟨outcome, accepted⟩
  rcases @opened_eq _ transport.recorded integration scope idle outcome documents accepted with
    ⟨records, same, -⟩
  refine ⟨outcome, records, ?_⟩
  rw [show opened.manager.transport = _ from same]
  cases asks : activates integration.gate documents with
  | false => exact (List.append_nil _).symm
  | true =>
      rw [if_pos rfl, if_pos rfl, ← accepted asks]
      rfl

end Replay.Setup

end EditorSession
