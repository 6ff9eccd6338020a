import EditorSession.Integration
import EditorSession.Proofs.Session.Operation

/-!
# Runs of an integration

What each event of the editor does to an integration. The gate and the association of documents
only add to the journal of the manager, so for the manager an event is one operation at most:
`documentOpened_cases` lists what an opened document can bring about, and `react_manager` says it
for all events.
-/

namespace EditorSession

open Session (Handle Entry Progress State Operation HostOperation)

/-- What an editor tells an integration. -/
inductive EditorEvent
  | opened (scope : Scope) (document : Document)
  | polled
  | closed (scope : Scope)

namespace Integration

variable {σ τ : Type}

/-- An integration that was told nothing yet. -/
def fresh (gate : Gate) (launch : LaunchSpecification) (capabilities : Capability.Declaration)
    (transport : σ) : Integration σ where
  gate
  manager := .fresh launch capabilities transport

/-- The integration after an event. -/
def react (transport : Transport σ) (integration : Integration σ) : EditorEvent → Integration σ
  | .opened scope document => (integration.documentOpened transport scope document).2
  | .polled => (integration.pollStarts transport).2
  | .closed scope => (integration.scopeClosed transport scope).2

/-- The integration after events in turn. -/
def reactAll (transport : Transport σ) (integration : Integration σ) (events : List EditorEvent) :
    Integration σ :=
  events.foldl (react transport) integration

/-! ### Associated documents -/

/-- A document that is associated with a session was opened in a scope that is not closed. -/
theorem sessionFor?_eq_some_iff {integration : Integration σ} {scope : Scope}
    {path : Octets} {handle : Handle} :
    integration.sessionFor? scope path = some handle ↔
      ∃ linked, integration.documents.get? scope = some linked ∧
        Path.parts path ∈ linked.paths ∧ linked.handle = handle := by
  cases found : integration.documents.get? scope with
  | none => simp [sessionFor?, found]
  | some linked => simp [sessionFor?, found]

/-! ### Opened documents -/

/-- The integration with its manager exchanged. -/
def withManager (integration : Integration σ) (manager : Manager σ) : Integration σ :=
  { integration with manager }

section Associate

variable (integration : Integration σ) (handle : Handle) (scope : Scope) (document : Document)

/-- Associating a document adds to the journal and leaves the sessions alone. -/
theorem associate_manager :
    ∃ notes, (∀ note ∈ notes, ∃ association, note = .association association) ∧
      (integration.associate handle scope document).manager =
        integration.manager.noteAll notes := by
  cases found : integration.documents.get? scope with
  | none =>
      refine ⟨[.association (.associated scope handle.id document.path)], by simp, ?_⟩
      simp [associate, note, found]
  | some linked =>
      by_cases same : linked.handle.id = handle.id
      · refine ⟨[.association (.associated scope handle.id document.path)], by simp, ?_⟩
        simp [associate, note, found, same]
      · refine ⟨[.association (.associated scope handle.id document.path),
          .association (.moved scope linked.handle.id handle.id linked.paths.length)],
          by simp, ?_⟩
        simp [associate, note, found, same, Manager.noteAll]

theorem associate_gate : (integration.associate handle scope document).gate = integration.gate := by
  cases found : integration.documents.get? scope with
  | none => simp [associate, note, found]
  | some linked =>
      by_cases same : linked.handle.id = handle.id <;> simp [associate, note, found, same]

/-- The documents of a scope with one more, which all share the session that it brings. -/
def joined (former : Option Linked) (handle : Handle) (path : List Path.Part) : Linked :=
  match former with
  | none => ⟨handle, [path]⟩
  | some linked =>
    ⟨if linked.handle.id = handle.id then linked.handle else handle,
      Linked.withPath linked.paths path⟩

theorem get?_associate (other : Scope) :
    (integration.associate handle scope document).documents.get? other =
      if other = scope then
        some (joined (integration.documents.get? scope) handle (Path.parts document.path))
      else integration.documents.get? other := by
  cases found : integration.documents.get? scope with
  | none => simp [associate, note, found, joined, Keyed.get?_put]
  | some linked =>
      by_cases same : linked.handle.id = handle.id <;>
        simp [associate, note, found, same, joined, Keyed.get?_put]

/-- The documents of the scope are linked to the session afterwards, those of other scopes stay. -/
theorem documents_associate :
    ∃ linked, linked.handle.id = handle.id ∧
      (linked.handle = handle ∨ ∃ former, integration.documents.get? scope = some former ∧
        linked.handle = former.handle) ∧
      ∀ other, (integration.associate handle scope document).documents.get? other =
        if other = scope then some linked else integration.documents.get? other := by
  refine ⟨_, ?_, ?_, integration.get?_associate handle scope document⟩
  · cases integration.documents.get? scope with
    | none => rfl
    | some linked => by_cases same : linked.handle.id = handle.id <;> simp [joined, same]
  · cases integration.documents.get? scope with
    | none => exact Or.inl rfl
    | some linked => by_cases same : linked.handle.id = handle.id <;> simp [joined, same]

end Associate

section Opened

variable (transport : Transport σ) (integration : Integration σ) (scope : Scope)
  (document : Document)

theorem documentOpened_eq :
    integration.documentOpened transport scope document =
      let consulted := (integration.consult document).2
      if integration.gate.admits document then
        match (consulted.manager.ensureStarted transport scope).1 with
        | .error error => (.error error,
            consulted.withManager (consulted.manager.ensureStarted transport scope).2)
        | .ok handle => (.ok (some handle), (consulted.withManager
            (consulted.manager.ensureStarted transport scope).2).associate handle scope document)
      else (.ok none, consulted) := rfl

/--
A document is declined, or it is associated with the live session of its scope, or a new session is
asked for. If the start of that one is refused, the documents stay as they were.
-/
theorem documentOpened_cases :
    let consulted := (integration.consult document).2
    let manager := consulted.manager
    integration.documentOpened transport scope document = (.ok none, consulted) ∨
    (∃ entry event, manager.entry? scope = some entry ∧ entry.progress.isLive = true ∧
      integration.documentOpened transport scope document = (.ok (some entry.handle),
        (consulted.withManager (manager.note event)).associate entry.handle scope document)) ∨
    (manager.session? scope = none ∧ ∃ answer state events,
      transport.start (manager.nextRequest scope) manager.transport = (answer, state, events) ∧
        ((∃ outcome, answer = .ok outcome ∧
            integration.documentOpened transport scope document =
              (.ok (some (manager.nextHandle scope)),
                (consulted.withManager (manager.started scope answer state events).2).associate
                  (manager.nextHandle scope) scope document)) ∨
          ∃ cause error, answer = .error cause ∧
            integration.documentOpened transport scope document = (.error error,
              consulted.withManager (manager.started scope answer state events).2))) := by
  intro consulted manager
  have opened := integration.documentOpened_eq transport scope document
  cases admitted : integration.gate.admits document with
  | false =>
      left
      rw [opened, admitted]
      rfl
  | true =>
      right
      simp only [admitted, ↓reduceIte] at opened
      rcases manager.ensureStarted_cases transport scope with
        ⟨entry, found, live, reused⟩ | ⟨idle, answer, state, events, called, begun⟩
      · left
        exact ⟨entry, _, found, live, by rw [opened, reused]⟩
      · right
        refine ⟨idle, answer, state, events, called, ?_⟩
        rw [opened, begun, Manager.started_result]
        cases answer with
        | ok outcome => exact Or.inl ⟨outcome, rfl, rfl⟩
        | error cause => exact Or.inr ⟨cause, _, rfl, rfl⟩

end Opened

/-! ### What the manager sees -/

/-- An event is one operation of the manager at most; besides, the gate and the documents are
noted. -/
theorem react_manager (transport : Transport σ) (integration : Integration σ)
    (event : EditorEvent) :
    ∃ notes notes' : List Event, (∀ note ∈ notes ++ notes', ∀ other, note ≠ .session other) ∧
      ((react transport integration event).manager = integration.manager.noteAll notes ∨
        ∃ operation, (react transport integration event).manager =
          ((integration.manager.noteAll notes).perform transport (.own operation)).noteAll
            notes') := by
  have silent : ∀ manager : Manager σ, manager.noteAll [] = manager := by
    intro manager
    simp [Manager.noteAll]
  cases event with
  | polled => exact ⟨[], [], by simp, Or.inr ⟨.poll, by rw [silent, silent]; rfl⟩⟩
  | closed scope => exact ⟨[], [], by simp, Or.inr ⟨.close scope, by rw [silent, silent]; rfl⟩⟩
  | opened scope document =>
      have opened := integration.documentOpened_eq transport scope document
      let consulted := (integration.consult document).2
      let asked := consulted.manager.ensureStarted transport scope
      let seen : Event := .gate (integration.gate.observe document)
      cases admitted : integration.gate.admits document with
      | false =>
          refine ⟨[seen], [], by simp [seen], Or.inl ?_⟩
          show (integration.documentOpened transport scope document).2.manager = _
          rw [opened, admitted]
          rfl
      | true =>
          simp only [admitted, ↓reduceIte] at opened
          cases result : asked.1 with
          | error error =>
              refine ⟨[seen], [], by simp [seen], Or.inr ⟨.ensure scope, ?_⟩⟩
              show (integration.documentOpened transport scope document).2.manager = _
              rw [opened, result, silent]
              rfl
          | ok handle =>
              rcases (consulted.withManager asked.2).associate_manager handle scope document with
                ⟨notes, associations, associated⟩
              refine ⟨[seen], notes, ?_, Or.inr ⟨.ensure scope, ?_⟩⟩
              · intro note noteMem other same
                rcases List.mem_append.mp noteMem with seenMem | notesMem
                · simp [List.mem_singleton.mp seenMem, seen] at same
                · rcases associations note notesMem with ⟨association, rfl⟩
                  cases same
              · show (integration.documentOpened transport scope document).2.manager = _
                rw [opened, result]
                exact associated

/-! ### Transports that do more -/

/-- The integration with its transport seen through a projection. -/
def through (project : σ → τ) (integration : Integration σ) : Integration τ where
  gate := integration.gate
  manager := integration.manager.through project
  documents := integration.documents

theorem associate_through (project : σ → τ) (integration : Integration σ) (handle : Handle)
    (scope : Scope) (document : Document) :
    (integration.through project).associate handle scope document =
      (integration.associate handle scope document).through project := by
  have sameDocuments : (integration.through project).documents = integration.documents := rfl
  cases found : integration.documents.get? scope with
  | none => simp only [associate, note, sameDocuments, found]; rfl
  | some linked =>
      by_cases same : linked.handle.id = handle.id <;>
        simp only [associate, note, sameDocuments, found, same, ↓reduceIte] <;> rfl

section Over

variable {fine : Transport σ} {coarse : Transport τ} {project : σ → τ}

theorem documentOpened_through (refines : fine.Refines coarse project) (integration : Integration σ)
    (scope : Scope) (document : Document) :
    (integration.through project).documentOpened coarse scope document =
      ((integration.documentOpened fine scope document).1,
        (integration.documentOpened fine scope document).2.through project) := by
  have asked := Manager.ensureStarted_through refines (integration.consult document).2.manager scope
  have sameConsulted : ((integration.through project).consult document).2.manager =
      (integration.consult document).2.manager.through project := rfl
  have sameGate : (integration.through project).gate = integration.gate := rfl
  simp only [documentOpened_eq, sameConsulted, sameGate, asked]
  cases integration.gate.admits document with
  | false => rfl
  | true =>
      cases ((integration.consult document).2.manager.ensureStarted fine scope).1 with
      | error error => rfl
      | ok handle =>
          exact congrArg (Prod.mk _) (associate_through project
            ((integration.consult document).2.withManager _) handle scope document)

theorem react_through (refines : fine.Refines coarse project) (integration : Integration σ)
    (event : EditorEvent) :
    (react fine integration event).through project =
      react coarse (integration.through project) event := by
  cases event with
  | opened scope document =>
      exact (congrArg Prod.snd (documentOpened_through refines integration scope document)).symm
  | polled =>
      have polled := Manager.poll_through refines integration.manager
      exact congrArg (fun after => (integration.through project).withManager after.2) polled.symm
  | closed scope =>
      have closed := Manager.closeScope_through refines integration.manager scope
      exact congrArg (fun after => Integration.mk integration.gate after.2
        (integration.documents.erase scope)) closed.symm

/-- An integration over a transport that does more goes through the same sessions and documents. -/
theorem reactAll_through (refines : fine.Refines coarse project) (integration : Integration σ)
    (events : List EditorEvent) :
    (reactAll fine integration events).through project =
      reactAll coarse (integration.through project) events := by
  induction events generalizing integration with
  | nil => rfl
  | cons event rest ih =>
      exact (ih (react fine integration event)).trans
        (congrArg (fun after => reactAll coarse after rest)
          (react_through refines integration event))

end Over

end Integration

end EditorSession
