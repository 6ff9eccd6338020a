import EditorSession.Proofs.Integration.History
import EditorSession.Proofs.Session.Isolation

/-!
# Scopes do not interfere

From a run of events, everything can be left out that is not of one scope: the documents opened in
other scopes, those that the gate declines, the closing of other scopes, and in each poll what is
reported of other scopes. Over a transport that treats every scope by itself, the scope does not
notice. It gets the same answers, and afterwards the same state, the same documents and the same
starts and stops of backends, with its sessions numbered among themselves.
-/

namespace EditorSession

open Session (Handle Entry Progress State renumberedResult)
open Transport (Call Report Conduct Agenda Renumbering sessionsOf placed)

/-- Whether an event is one of a scope. Polls are events of all scopes. -/
def EditorEvent.concerns (gate : Gate) (scope : Scope) : EditorEvent → Bool
  | .opened other document => other = scope && gate.admits document
  | .polled => true
  | .closed other => other = scope

namespace EditorAnswer

/-- What an answer says of a scope, which has these sessions. -/
def about (scope : Scope) (known : List SessionId) : EditorAnswer → EditorAnswer
  | .opened result => .opened result
  | .polled results => .polled (results.filter (Session.concerns scope known))
  | .closed handle => .closed handle

/-- An answer with other session numbers. -/
def renumbered (renumber : SessionId → SessionId) : EditorAnswer → EditorAnswer
  | .opened (.ok handle) => .opened (.ok (handle.map (Handle.renumbered renumber)))
  | .opened (.error error) => .opened (.error (error.renumbered renumber))
  | .polled results => .polled (results.map (renumberedResult renumber))
  | .closed handle => .closed (handle.map (Handle.renumbered renumber))

end EditorAnswer

/-- The documents of a scope, with another number for the session they share. -/
def Linked.renumbered (renumber : SessionId → SessionId) (linked : Linked) : Linked :=
  { linked with handle := linked.handle.renumbered renumber }

namespace Manager

theorem perform_extends (conduct : Conduct) (manager : Manager Agenda)
    (operation : Session.Operation) :
    manager.Extends (manager.perform conduct.transport (.own operation)) := by
  cases operation with
  | ensure scope => exact manager.ensureStarted_extends conduct scope
  | poll => exact manager.poll_extends conduct
  | close scope => exact manager.closeScope_extends conduct scope

end Manager

namespace Integration

theorem react_extends (conduct : Conduct) (integration : Integration Agenda)
    (event : EditorEvent) :
    integration.manager.Extends (react conduct.transport integration event).manager := by
  rcases react_manager conduct.transport integration event with
    ⟨notes, notes', _, same | ⟨operation, same⟩⟩
  · rw [same]
    exact ⟨List.prefix_refl _, id⟩
  · have grown := (integration.manager.noteAll notes).perform_extends conduct operation
    rw [same]
    exact ⟨grown.calls, grown.counted⟩

theorem reactAll_extends (conduct : Conduct) (integration : Integration Agenda)
    (events : List EditorEvent) :
    integration.manager.Extends (reactAll conduct.transport integration events).manager := by
  induction events generalizing integration with
  | nil => exact .refl _
  | cons event rest ih => exact (integration.react_extends conduct event).trans (ih _)

/-- One integration is to a scope what another one is that handles other scopes as well. -/
structure Mirrors (final : List Call) (gate : Gate) (scope : Scope)
    (renumber : SessionId → SessionId) (full own : Integration Agenda) : Prop where
  manager : full.manager.Mirrors final scope renumber own.manager
  gated : full.gate = gate
  gatedOwn : own.gate = gate
  documents : own.documents.get? scope =
    (full.documents.get? scope).map (Linked.renumbered renumber)
  known : ∀ {linked}, full.documents.get? scope = some linked →
    linked.handle.id ∈ sessionsOf final scope

section Step

variable {final : List Call} {gate : Gate} {scope other : Scope}
  {renumber : SessionId → SessionId} {full own : Integration Agenda}

theorem Mirrors.withManager (mirrors : full.Mirrors final gate scope renumber own)
    {manager managerOwn : Manager Agenda}
    (managers : manager.Mirrors final scope renumber managerOwn) :
    (full.withManager manager).Mirrors final gate scope renumber (own.withManager managerOwn) :=
  ⟨managers, mirrors.gated, mirrors.gatedOwn, mirrors.documents, mirrors.known⟩

/-! ### Documents -/

theorem joined_renumbered (former : Option Linked) (handle : Handle) (path : List Path.Part)
    (distinct : ∀ linked, former = some linked →
      (renumber linked.handle.id = renumber handle.id ↔ linked.handle.id = handle.id)) :
    joined (former.map (Linked.renumbered renumber)) (handle.renumbered renumber) path =
      (joined former handle path).renumbered renumber := by
  cases former with
  | none => rfl
  | some linked =>
      have same := distinct linked rfl
      by_cases kept : linked.handle.id = handle.id
      · simp [joined, Linked.renumbered, Handle.renumbered, kept]
      · simp [joined, Linked.renumbered, Handle.renumbered, kept, same]

theorem Mirrors.associate_own (mirrors : full.Mirrors final gate scope renumber own)
    (renumbering : Renumbering final scope renumber) {handle : Handle}
    (handleKnown : handle.id ∈ sessionsOf final scope) (document : Document) :
    (full.associate handle scope document).Mirrors final gate scope renumber
      (own.associate (handle.renumbered renumber) scope document) := by
  rcases full.associate_manager handle scope document with ⟨notes, _, noted⟩
  rcases own.associate_manager (handle.renumbered renumber) scope document with
    ⟨notesOwn, _, notedOwn⟩
  refine ⟨?_, ?_, ?_, ?_, ?_⟩
  · rw [noted, notedOwn]
    exact (mirrors.manager.noted notes).notedOwn notesOwn
  · exact (full.associate_gate handle scope document).trans mirrors.gated
  · exact (own.associate_gate _ scope document).trans mirrors.gatedOwn
  · rw [get?_associate, get?_associate, if_pos rfl, if_pos rfl, mirrors.documents, Option.map_some]
    refine congrArg some (joined_renumbered _ _ _ fun linked found => ?_)
    exact ⟨renumbering.inj (mirrors.known found) handleKnown, congrArg renumber⟩
  · intro linked found
    rcases full.documents_associate handle scope document with ⟨joint, sameId, _, documents⟩
    rw [documents, if_pos rfl] at found
    cases found
    rwa [sameId]

theorem Mirrors.associate_other (mirrors : full.Mirrors final gate scope renumber own)
    (otherScope : other ≠ scope) (handle : Handle) (document : Document) :
    (full.associate handle other document).Mirrors final gate scope renumber own := by
  rcases full.associate_manager handle other document with ⟨notes, _, noted⟩
  have kept := (full.get?_associate handle other document scope).trans
    (if_neg (Ne.symm otherScope))
  refine ⟨?_, (full.associate_gate handle other document).trans mirrors.gated, mirrors.gatedOwn,
    ?_, ?_⟩
  · rw [noted]
    exact mirrors.manager.noted notes
  · rw [kept, mirrors.documents]
  · intro linked found
    rw [kept] at found
    exact mirrors.known found

/-! ### Events of the scope -/

theorem Mirrors.opened_own (mirrors : full.Mirrors final gate scope renumber own)
    (renumbering : Renumbering final scope renumber) (conduct : Conduct) {document : Document}
    (admitted : gate.admits document = true)
    (extended : (react conduct.transport full (.opened scope document)).manager.transport.calls
      <+: final) :
    (own.respond conduct.transport (.opened scope document)).1 =
        (full.respond conduct.transport (.opened scope document)).1.renumbered renumber ∧
      (react conduct.transport full (.opened scope document)).Mirrors final gate scope renumber
        (react conduct.transport own (.opened scope document)) := by
  have opened := full.documentOpened_eq conduct.transport scope document
  have openedOwn := own.documentOpened_eq conduct.transport scope document
  have consulted : (full.consult document).2.manager.Mirrors final scope renumber
      (own.consult document).2.manager := (mirrors.manager.noted _).notedOwn _
  simp only [mirrors.gated, mirrors.gatedOwn, admitted, ↓reduceIte] at opened openedOwn
  have asked : ((full.consult document).2.manager.ensureStarted conduct.transport
      scope).2.transport.calls <+: final := by
    rw [react, opened] at extended
    cases result : ((full.consult document).2.manager.ensureStarted conduct.transport scope).1 with
    | error error =>
        rw [result] at extended
        exact extended
    | ok handle =>
        rw [result] at extended
        rcases associate_manager ((full.consult document).2.withManager
          ((full.consult document).2.manager.ensureStarted conduct.transport scope).2) handle scope
          document with ⟨notes, _, noted⟩
        rw [noted] at extended
        exact extended
  rcases consulted.ensureStarted_own renumbering conduct asked with ⟨results, after⟩
  rw [respond, respond, react, react, opened, openedOwn]
  cases result : ((full.consult document).2.manager.ensureStarted conduct.transport scope).1 with
  | error error =>
      rw [results, result]
      exact ⟨rfl, mirrors.withManager after⟩
  | ok handle =>
      have current := Manager.entry?_of_ensureStarted result
      rw [results, result]
      refine ⟨rfl, (mirrors.withManager after).associate_own renumbering ?_ document⟩
      rcases current with ⟨entry, found, rfl⟩
      exact after.known asked found

/-- An event of the scope is answered in the same way, up to the numbers. -/
theorem Mirrors.react_own (mirrors : full.Mirrors final gate scope renumber own)
    (renumbering : Renumbering final scope renumber) (conduct : Conduct) {event : EditorEvent}
    (concerned : event.concerns gate scope = true)
    (extended : (react conduct.transport full event).manager.transport.calls <+: final) :
    (own.respond conduct.transport event).1 =
        ((full.respond conduct.transport event).1.about scope
          (sessionsOf final scope)).renumbered renumber ∧
      (react conduct.transport full event).Mirrors final gate scope renumber
        (react conduct.transport own event) := by
  cases event with
  | opened other document =>
      simp only [EditorEvent.concerns, Bool.and_eq_true, decide_eq_true_eq] at concerned
      rcases concerned with ⟨rfl, admitted⟩
      exact mirrors.opened_own renumbering conduct admitted extended
  | polled =>
      rcases mirrors.manager.poll renumbering conduct extended with ⟨results, after⟩
      exact ⟨congrArg EditorAnswer.polled results, mirrors.withManager after⟩
  | closed other =>
      simp only [EditorEvent.concerns, decide_eq_true_eq] at concerned
      subst concerned
      have before := (full.react_extends conduct (.closed other)).calls.trans extended
      rcases mirrors.manager.closeScope_own conduct before with ⟨results, after⟩
      refine ⟨congrArg EditorAnswer.closed results, after, mirrors.gated, mirrors.gatedOwn, ?_, ?_⟩
      · exact (Keyed.get?_erase ..).trans ((if_pos rfl).trans (by
          rw [react, scopeClosed, Keyed.get?_erase, if_pos rfl, Option.map_none]))
      · intro linked found
        rw [react, scopeClosed, Keyed.get?_erase, if_pos rfl] at found
        cases found

/-! ### Events of other scopes -/

theorem Mirrors.opened_other (mirrors : full.Mirrors final gate scope renumber own)
    (conduct : Conduct) {document : Document}
    (foreign : other ≠ scope ∨ gate.admits document = false) :
    (react conduct.transport full (.opened other document)).Mirrors final gate scope renumber
      own := by
  have opened := full.documentOpened_eq conduct.transport other document
  have consulted := mirrors.manager.noted [.gate (full.gate.observe document)]
  cases admitted : gate.admits document with
  | false =>
      simp only [mirrors.gated, admitted, Bool.false_eq_true, ↓reduceIte] at opened
      rw [react, opened]
      exact mirrors.withManager consulted
  | true =>
      have otherScope : other ≠ scope := foreign.resolve_right (by simp [admitted])
      have after := mirrors.withManager (consulted.ensureStarted_other conduct otherScope)
      simp only [mirrors.gated, admitted, ↓reduceIte] at opened
      rw [react, opened]
      cases ((full.consult document).2.manager.ensureStarted conduct.transport other).1 with
      | error error => exact after
      | ok handle => exact after.associate_other otherScope handle document

/-- An event of another scope changes nothing for the scope. -/
theorem Mirrors.react_other (mirrors : full.Mirrors final gate scope renumber own)
    (renumbering : Renumbering final scope renumber) (conduct : Conduct) {event : EditorEvent}
    (foreign : event.concerns gate scope = false)
    (extended : (react conduct.transport full event).manager.transport.calls <+: final) :
    (react conduct.transport full event).Mirrors final gate scope renumber own := by
  cases event with
  | opened other document =>
      simp only [EditorEvent.concerns, Bool.and_eq_false_iff, decide_eq_false_iff_not] at foreign
      exact mirrors.opened_other conduct foreign
  | polled => cases foreign
  | closed other =>
      simp only [EditorEvent.concerns, decide_eq_false_iff_not] at foreign
      have before := (full.react_extends conduct (.closed other)).calls.trans extended
      have kept : (react conduct.transport full (.closed other)).documents.get? scope =
          full.documents.get? scope :=
        (Keyed.get?_erase ..).trans (if_neg (Ne.symm foreign))
      refine ⟨mirrors.manager.closeScope_other renumbering conduct before foreign, mirrors.gated,
        mirrors.gatedOwn, ?_, ?_⟩
      · rw [kept, mirrors.documents]
      · intro linked found
        rw [kept] at found
        exact mirrors.known found

/-! ### Runs -/

/-- What is left of a history when the other scopes are left out, and the sessions renumbered. -/
def historyOf (gate : Gate) (scope : Scope) (known : List SessionId)
    (renumber : SessionId → SessionId) (past : List Handling) : List Handling :=
  (past.filter fun handling => handling.1.concerns gate scope).map fun handling =>
    (handling.1, (handling.2.about scope known).renumbered renumber)

theorem historyOf_cons_of_concerned {known : List SessionId} {handling : Handling}
    {past : List Handling} (concerned : handling.1.concerns gate scope = true) :
    historyOf gate scope known renumber (handling :: past) =
      (handling.1, (handling.2.about scope known).renumbered renumber) ::
        historyOf gate scope known renumber past := by
  simp [historyOf, concerned]

theorem historyOf_cons_of_foreign {known : List SessionId} {handling : Handling}
    {past : List Handling} (foreign : handling.1.concerns gate scope = false) :
    historyOf gate scope known renumber (handling :: past) =
      historyOf gate scope known renumber past := by
  simp [historyOf, foreign]

theorem Mirrors.reactAll (mirrors : full.Mirrors final gate scope renumber own)
    (renumbering : Renumbering final scope renumber) (conduct : Conduct)
    (events : List EditorEvent)
    (extended : (reactAll conduct.transport full events).manager.transport.calls <+: final) :
    own.history conduct.transport (events.filter (EditorEvent.concerns gate scope)) =
        historyOf gate scope (sessionsOf final scope) renumber
          (full.history conduct.transport events) ∧
      (reactAll conduct.transport full events).Mirrors final gate scope renumber
        (reactAll conduct.transport own (events.filter (EditorEvent.concerns gate scope))) := by
  induction events generalizing full own with
  | nil => exact ⟨rfl, mirrors⟩
  | cons event rest ih =>
      have first : (react conduct.transport full event).manager.transport.calls <+: final :=
        ((react conduct.transport full event).reactAll_extends conduct rest).calls.trans extended
      cases concerned : event.concerns gate scope with
      | true =>
          rcases mirrors.react_own renumbering conduct concerned first with ⟨answer, next⟩
          rcases ih next extended with ⟨later, after⟩
          rw [List.filter_cons_of_pos concerned]
          refine ⟨?_, after⟩
          rw [history, history, historyOf_cons_of_concerned concerned, answer, later]
      | false =>
          rcases ih (mirrors.react_other renumbering conduct concerned first) extended with
            ⟨later, after⟩
          rw [List.filter_cons_of_neg (by simp [concerned])]
          refine ⟨?_, after⟩
          rw [later, history, historyOf_cons_of_foreign concerned]

end Step

theorem Mirrors.fresh (final : List Call) (gate : Gate) (scope : Scope)
    (renumber : SessionId → SessionId) (launch : LaunchSpecification)
    (capabilities : Capability.Declaration) (due : List (List Report)) :
    (fresh gate launch capabilities (⟨[], due⟩ : Agenda)).Mirrors final gate scope renumber
      (fresh gate launch capabilities ⟨[], due.map (·.filter (·.scope = scope))⟩) where
  manager :=
    { numbered := .fresh launch capabilities _
      numberedOwn := .fresh launch capabilities _
      launch := rfl
      capabilities := rfl
      counted := rfl
      countedOwn := rfl
      alone := rfl
      sessions := rfl
      due := rfl
      calls := rfl
      homed := fun found => by
        simp [Integration.fresh, Manager.fresh, Manager.entry?] at found
      entry := by simp [Integration.fresh, Manager.fresh, Manager.entry?]
      others := fun _ => by simp [Integration.fresh, Manager.fresh, Manager.entry?] }
  gated := rfl
  gatedOwn := rfl
  documents := by simp [Integration.fresh]
  known found := by simp [Integration.fresh] at found

/--
Any run can be cut down to one scope, over a transport that treats every scope by itself. The events
that are left get the same answers, polls with what they report of the scope, and afterwards the
scope has the same state, the same documents, and the same starts and stops, all up to a renumbering
of its sessions that keeps their order.
-/
theorem scope_runs_alone (conduct : Conduct) (gate : Gate) (launch : LaunchSpecification)
    (capabilities : Capability.Declaration) (due : List (List Report))
    (events : List EditorEvent) (scope : Scope) :
    let start := fresh gate launch capabilities (⟨[], due⟩ : Agenda)
    let startAlone := fresh gate launch capabilities
      (⟨[], due.map (·.filter (·.scope = scope))⟩ : Agenda)
    let eventsAlone := events.filter (EditorEvent.concerns gate scope)
    let all := start.reactAll conduct.transport events
    let alone := startAlone.reactAll conduct.transport eventsAlone
    let sessions := sessionsOf all.manager.transport.calls scope
    let renumber := placed sessions
    (∀ first ∈ sessions, ∀ second ∈ sessions,
      renumber first < renumber second ↔ first < second) ∧
      sessionsOf alone.manager.transport.calls scope = sessions.map renumber ∧
      startAlone.history conduct.transport eventsAlone =
        historyOf gate scope sessions renumber (start.history conduct.transport events) ∧
      alone.manager.state scope = all.manager.state scope ∧
      (∀ path, alone.sessionFor? scope path =
        (all.sessionFor? scope path).map (Handle.renumbered renumber)) ∧
      alone.manager.transport.calls.filter (Call.concerns scope (sessions.map renumber)) =
        (all.manager.transport.calls.filter (Call.concerns scope sessions)).map
          (Call.renumbered renumber) := by
  intro start startAlone eventsAlone all alone sessions renumber
  have counted : all.manager.Counted :=
    (start.reactAll_extends conduct events).counted rfl
  have renumbering : Renumbering all.manager.transport.calls scope renumber :=
    .ofCounted counted scope
  rcases (Mirrors.fresh _ gate scope renumber launch capabilities due).reactAll renumbering conduct
    events (List.prefix_refl _) with ⟨answers, mirrors⟩
  refine ⟨?_, mirrors.manager.sessions, answers, ?_, ?_, mirrors.manager.calls⟩
  · intro first firstMem second secondMem
    exact Transport.placed_lt_iff (Transport.sessionsOf_increasing counted scope) firstMem secondMem
  · have entry := mirrors.manager.entry
    show alone.manager.state scope = all.manager.state scope
    unfold Manager.state
    rw [entry]
    cases Manager.entry? all.manager scope <;> rfl
  · intro path
    have documents := mirrors.documents
    show alone.sessionFor? scope path = (all.sessionFor? scope path).map _
    unfold sessionFor?
    rw [documents]
    cases Keyed.get? all.documents scope with
    | none => rfl
    | some linked =>
        by_cases among : Path.parts path ∈ linked.paths <;> simp [Linked.renumbered, among]

/-- The second session that is started is the first one of its scope. -/
example :
    let conduct : Conduct := { answer := fun _ _ => .ok .pending, ahead := fun _ _ => 0 }
    let pom : Document := ⟨Text.Utf8.ofString "pom.xml", none⟩
    let events : List EditorEvent := [.opened "left" pom, .opened "right" pom, .polled]
    let due : List (List Report) := [[⟨"right", 0, .ok ()⟩, ⟨"left", 0, .ok ()⟩]]
    let start := fresh ⟨"xml"⟩ default default (⟨[], due⟩ : Agenda)
    let all := start.reactAll conduct.transport events
    sessionsOf all.manager.transport.calls "right" = [2] ∧
      placed [2] 2 = 1 ∧ all.manager.state "right" = .bound .running := by
  decide

end Integration

end EditorSession
