import EditorSession.Integration.Shared
import EditorSession.Proofs.Integration.Run

/-!
# Calls of the transport that unwind

A new session is bound to its scope before the transport is asked to start it, and nothing takes it
back when that call unwinds. The manager is left as by a start that is pending (`Handled.answer`),
so the scope keeps a live session that was never started, and uses it again until the scope is
closed or a completion says that it failed. Unwinding polls and stops do no such harm: a poll comes
before anything is settled, and a stop after the session was forgotten.
-/

namespace EditorSession

open Session (Handle Entry Progress State)
open Integration (associate)

/-- A start that a transport was asked for, and how the call ended. -/
structure Attempt where
  request : StartRequest
  outcome : Handled (Except Backend.Error StartOutcome)

/-- A state together with the starts that led to it, oldest first. -/
structure Attempts (σ : Type) where
  inner : σ
  made : List Attempt := []

variable {σ : Type}

namespace UnwindingTransport

/-- A transport that keeps a record of its starts. -/
def attempted (transport : UnwindingTransport σ) : UnwindingTransport (Attempts σ) where
  start request state :=
    let (outcome, inner, events) := transport.start request state.inner
    (outcome, ⟨inner, state.made ++ [⟨request, outcome⟩]⟩, events)
  poll state :=
    let (completions, inner, events) := transport.poll state.inner
    (completions, ⟨inner, state.made⟩, events)
  stop session state :=
    let (result, inner, events) := transport.stop session state.inner
    (result, ⟨inner, state.made⟩, events)

end UnwindingTransport

/-! ### What each event can do -/

namespace Manager

/-- What is answered after a call that was to start the next session of a scope. -/
def concluded (manager : Manager σ) (scope : Scope)
    (attempt : Handled (Except Backend.Error StartOutcome)) (state : σ)
    (events : List Backend.Event) : Handled (Except Session.Error Handle) × Manager σ :=
  match attempt with
  | .returned answer =>
    (.returned (manager.started scope answer state events).1,
      (manager.started scope answer state events).2)
  | .unwound => (.unwound, (manager.started scope (.ok .pending) state events).2)

theorem concluded_manager (manager : Manager σ) (scope : Scope)
    (attempt : Handled (Except Backend.Error StartOutcome)) (state : σ)
    (events : List Backend.Event) :
    (manager.concluded scope attempt state events).2 =
      (manager.started scope attempt.answer state events).2 := by
  cases attempt <;> rfl

end Manager

namespace UnwindingTransport

theorem associate_transport (integration : Integration σ) (handle : Handle) (scope : Scope)
    (document : Document) : (associate integration handle scope document).manager.transport =
      integration.manager.transport := by
  rcases integration.associate_manager handle scope document with ⟨notes, -, noted⟩
  rw [noted]
  rfl

section Cases

variable (transport : UnwindingTransport σ) (integration : Integration σ) (scope : Scope)
  (document : Document)

theorem ensureStarted_cases (manager : Manager σ) :
    (∃ entry, manager.entry? scope = some entry ∧ entry.progress.isLive = true ∧
      transport.ensureStarted manager scope = (.returned (.ok entry.handle), manager.note
        (.reusing manager.launch.integration scope entry.handle.id entry.progress))) ∨
    (manager.session? scope = none ∧ ∃ attempt state events,
      transport.start (manager.nextRequest scope) manager.transport = (attempt, state, events) ∧
        transport.ensureStarted manager scope =
          manager.concluded scope attempt state events) := by
  have called : transport.start ((manager.enrol scope).2.request (manager.enrol scope).1)
      (manager.enrol scope).2.transport =
        transport.start (manager.nextRequest scope) manager.transport := rfl
  have begun : manager.reuse? scope = none → ∃ attempt state events,
      transport.start (manager.nextRequest scope) manager.transport = (attempt, state, events) ∧
        transport.ensureStarted manager scope =
          manager.concluded scope attempt state events := by
    intro idle
    rcases ended : transport.start (manager.nextRequest scope) manager.transport with
      ⟨attempt, state, events⟩
    refine ⟨attempt, state, events, rfl, ?_⟩
    cases attempt <;> simp only [ensureStarted, idle, called, ended] <;> rfl
  cases found : manager.entry? scope with
  | none =>
      right
      exact ⟨by simp [Manager.session?, found], begun (by simp [Manager.reuse?, found])⟩
  | some entry =>
      by_cases live : entry.progress.isLive = true
      · left
        refine ⟨entry, rfl, live, ?_⟩
        simp [ensureStarted, Manager.reuse?, found, live]
      · right
        exact ⟨by simp [Manager.session?, found, live],
          begun (by simp [Manager.reuse?, found, live])⟩

theorem documentOpened_eq :
    transport.documentOpened scope document integration =
      let consulted := (integration.consult document).2
      if integration.gate.admits document then
        match transport.ensureStarted consulted.manager scope with
        | (.unwound, manager) => (.unwound, consulted.withManager manager)
        | (.returned (.error error), manager) =>
          (.returned (.error error), consulted.withManager manager)
        | (.returned (.ok handle), manager) => (.returned (.ok (some handle)),
            (consulted.withManager manager).associate handle scope document)
      else (.returned (.ok none), consulted) := rfl

/-- Besides what is noted, the session of its scope is all that a document asks of the manager. -/
theorem documentOpened_manager :
    ∃ notes, (transport.documentOpened scope document integration).2.manager =
        integration.manager.noteAll notes ∨
      (transport.documentOpened scope document integration).2.manager =
        (transport.ensureStarted (integration.consult document).2.manager scope).2.noteAll
          notes := by
  have opened := transport.documentOpened_eq integration scope document
  cases admitted : integration.gate.admits document with
  | false =>
      refine ⟨[.gate (integration.gate.observe document)], Or.inl ?_⟩
      simp only [admitted, Bool.false_eq_true, ↓reduceIte] at opened
      rw [opened]
      rfl
  | true =>
      simp only [admitted, ↓reduceIte] at opened
      rcases asked : transport.ensureStarted (integration.consult document).2.manager scope with
        ⟨(error | handle) | _, manager⟩
      · rw [asked] at opened
        exact ⟨[], Or.inr (by simp [opened, Integration.withManager, Manager.noteAll])⟩
      · rw [asked] at opened
        rcases ((integration.consult document).2.withManager manager).associate_manager handle scope
          document with ⟨notes, _, noted⟩
        exact ⟨notes, Or.inr (by rw [opened]; exact noted)⟩
      · rw [asked] at opened
        exact ⟨[], Or.inr (by simp [opened, Integration.withManager, Manager.noteAll])⟩

/-- An opened document unwinds only with the start of a new session, which is then bound to its
scope as if it were pending. -/
theorem documentOpened_of_unwound
    (unwound : (transport.documentOpened scope document integration).1 = .unwound) :
    ∃ state events,
      transport.start (integration.manager.nextRequest scope) integration.manager.transport =
        (.unwound, state, events) ∧
      (transport.documentOpened scope document integration).2 =
        (integration.consult document).2.withManager
          ((integration.consult document).2.manager.started scope (.ok .pending) state
            events).2 := by
  have opened := transport.documentOpened_eq integration scope document
  rw [opened] at unwound ⊢
  cases admitted : integration.gate.admits document with
  | false => simp [admitted] at unwound
  | true =>
      simp only [admitted, ↓reduceIte] at unwound ⊢
      rcases transport.ensureStarted_cases scope (integration.consult document).2.manager with
        ⟨entry, found, live, reused⟩ | ⟨idle, attempt, state, events, called, begun⟩
      · rw [reused] at unwound
        cases unwound
      · rw [begun] at unwound ⊢
        cases attempt with
        | unwound => exact ⟨state, events, called, rfl⟩
        | returned answer => rcases answer with cause | _ | _ <;> cases unwound

/-- An admitted document gets the live session of its scope, and the transport is not called. -/
theorem documentOpened_of_live {entry : Entry} (admitted : integration.gate.admits document = true)
    (found : integration.manager.entry? scope = some entry) (live : entry.progress.isLive = true) :
    (transport.documentOpened scope document integration).1 =
        .returned (.ok (some entry.handle)) ∧
      (transport.documentOpened scope document integration).2.manager.transport =
        integration.manager.transport := by
  have opened := transport.documentOpened_eq integration scope document
  simp only [admitted, ↓reduceIte] at opened
  rcases transport.ensureStarted_cases scope (integration.consult document).2.manager with
    ⟨current, currentFound, _, reused⟩ | ⟨idle, _⟩
  · cases Manager.entry?_unique found currentFound
    rw [opened, reused]
    exact ⟨rfl, by rw [associate_transport]; rfl⟩
  · have failed := Manager.session?_eq_none_iff.mp idle entry found
    exact absurd failed (Progress.isLive_iff_ne_failed.mp live)

/-- A poll that unwinds is one without completions. -/
theorem pollStarts_manager :
    ∃ completions, (transport.pollStarts integration).2.manager =
      ((integration.manager.afterCall (transport.poll integration.manager.transport).2.1
        (transport.poll integration.manager.transport).2.2).settleAll completions).2 := by
  rcases polled : transport.poll integration.manager.transport with
    ⟨completions | _, state, events⟩
  · exact ⟨completions, by simp only [pollStarts, polled]⟩
  · exact ⟨[], by simp only [pollStarts, polled]; rfl⟩

/-- A scope has no session after it was closed, even if the stop unwound. -/
theorem scopeClosed_manager :
    (∀ other, Manager.entry? (transport.scopeClosed scope integration).2.manager other =
      if other = scope then none else integration.manager.entry? other) ∧
      (transport.scopeClosed scope integration).2.manager.last = integration.manager.last ∧
      ((transport.scopeClosed scope integration).2.manager.transport =
          integration.manager.transport ∨
        ∃ session, (transport.scopeClosed scope integration).2.manager.transport =
          (transport.stop session integration.manager.transport).2.1) := by
  have removed := integration.manager.entry?_remove scope
  cases found : integration.manager.entry? scope with
  | none =>
      have closed : (transport.scopeClosed scope integration).2.manager = integration.manager := by
        simp only [scopeClosed, found]
      rw [closed]
      refine ⟨fun other => ?_, rfl, Or.inl rfl⟩
      by_cases same : other = scope <;> simp [same, found]
  | some entry =>
      by_cases live : entry.progress.isLive = true
      · rcases ended : transport.stop entry.handle.id (integration.manager.remove scope).transport
          with ⟨_ | _, state, events⟩
        · have closed : (transport.scopeClosed scope integration).2.manager =
              ((integration.manager.remove scope).afterCall state events).note
                (.terminated scope entry.handle.id entry.progress) := by
            simp only [scopeClosed, found, live, ended, ↓reduceIte]
          rw [closed]
          exact ⟨removed, rfl, Or.inr ⟨entry.handle.id, (congrArg (·.2.1) ended).symm⟩⟩
        · have closed : (transport.scopeClosed scope integration).2.manager =
              (integration.manager.remove scope).afterCall state events := by
            simp only [scopeClosed, found, live, ended, ↓reduceIte]
          rw [closed]
          exact ⟨removed, rfl, Or.inr ⟨entry.handle.id, (congrArg (·.2.1) ended).symm⟩⟩
      · have closed : (transport.scopeClosed scope integration).2.manager =
            (integration.manager.remove scope).note
              (.terminated scope entry.handle.id entry.progress) := by
          simp only [scopeClosed, found, live, Bool.false_eq_true, ↓reduceIte]
        rw [closed]
        exact ⟨removed, rfl, Or.inl rfl⟩

end Cases

end UnwindingTransport

/-! ### Which starts live sessions had -/

namespace Manager

variable {manager after : Manager (Attempts σ)}

/-- The transport answered that it started a session. -/
def StartedOk (manager : Manager (Attempts σ)) (session : SessionId) : Prop :=
  ∃ attempt ∈ manager.transport.made, attempt.request.session = session ∧
    ∃ outcome, attempt.outcome = .returned (.ok outcome)

/-- The call that was to start a session unwound. -/
def StartUnwound (manager : Manager (Attempts σ)) (session : SessionId) : Prop :=
  ∃ attempt ∈ manager.transport.made, attempt.request.session = session ∧
    attempt.outcome = .unwound

/-- Each number was given to one start, and a live session had one that did not fail. -/
structure Accounted (manager : Manager (Attempts σ)) : Prop where
  numbered : manager.Numbered
  counted : (manager.transport.made.map fun attempt => attempt.request.session) =
    List.range' 1 manager.last
  tried : ∀ {scope entry}, manager.entry? scope = some entry → entry.progress.isLive = true →
    manager.StartedOk entry.handle.id ∨ manager.StartUnwound entry.handle.id

/-- No start was asked for, and no session became live. -/
structure BeginsNothing (before after : Manager (Attempts σ)) : Prop where
  numbered : after.Numbered
  made : after.transport.made = before.transport.made
  last : after.last = before.last
  live : ∀ {scope entry}, after.entry? scope = some entry → entry.progress.isLive = true →
    ∃ earlier, before.entry? scope = some earlier ∧ earlier.progress.isLive = true ∧
      earlier.handle = entry.handle

theorem Accounted.of_beginsNothing (accounted : manager.Accounted)
    (quiet : manager.BeginsNothing after) : after.Accounted := by
  refine ⟨quiet.numbered, by rw [quiet.made, quiet.last, accounted.counted], ?_⟩
  intro scope entry found isLive
  rcases quiet.live found isLive with ⟨earlier, earlierFound, earlierLive, same⟩
  have tried := accounted.tried earlierFound earlierLive
  rw [same] at tried
  unfold StartedOk StartUnwound at tried ⊢
  rwa [quiet.made]

theorem Accounted.noteAll (accounted : manager.Accounted) (notes : List Event) :
    (manager.noteAll notes).Accounted :=
  accounted.of_beginsNothing ⟨accounted.numbered.of_same rfl fun _ => rfl, rfl, rfl,
    fun found live => ⟨_, found, live, rfl⟩⟩

theorem Accounted.started (accounted : manager.Accounted) (scope : Scope)
    (attempt : Handled (Except Backend.Error StartOutcome)) (inner : σ)
    (events : List Backend.Event) :
    Accounted (manager.started scope attempt.answer
      ⟨inner, manager.transport.made ++ [⟨manager.nextRequest scope, attempt⟩]⟩ events).2 := by
  refine ⟨accounted.numbered.started .., ?_, ?_⟩
  · rw [started_transport, started_last, List.map_append, accounted.counted,
      List.range'_1_concat, Nat.add_comm 1]
    rfl
  · intro other entry found live
    unfold StartedOk StartUnwound
    rw [started_transport]
    rw [entry?_started] at found
    split at found
    · cases found
      have last : (⟨manager.nextRequest scope, attempt⟩ : Attempt) ∈
          manager.transport.made ++ [⟨manager.nextRequest scope, attempt⟩] :=
        List.mem_append_right _ (List.mem_singleton_self _)
      cases attempt with
      | unwound => exact Or.inr ⟨_, last, rfl, rfl⟩
      | returned answer =>
          rcases Progress.isLive_ofAnswer_iff.mp live with ⟨outcome, accepted⟩
          exact Or.inl ⟨_, last, rfl, outcome, congrArg Handled.returned accepted⟩
    · rcases accounted.tried found live with ⟨earlier, earlierMem, same, ok⟩ |
        ⟨earlier, earlierMem, same, unwound⟩
      · exact Or.inl ⟨earlier, List.mem_append_left _ earlierMem, same, ok⟩
      · exact Or.inr ⟨earlier, List.mem_append_left _ earlierMem, same, unwound⟩

/-- A start ended in one way only. -/
theorem Accounted.startedOk_iff (accounted : manager.Accounted) {scope : Scope} {entry : Entry}
    (found : manager.entry? scope = some entry) (live : entry.progress.isLive = true) :
    ¬manager.StartedOk entry.handle.id ↔ manager.StartUnwound entry.handle.id := by
  constructor
  · exact (accounted.tried found live).resolve_left
  · rintro ⟨attempt, attemptMem, named, unwound⟩ ⟨other, otherMem, otherNamed, outcome, ok⟩
    have distinct : (manager.transport.made.map fun attempt => attempt.request.session).Nodup :=
      accounted.counted ▸ List.nodup_range'
    have same := List.inj_on_of_nodup_map distinct attemptMem otherMem
      (named.trans otherNamed.symm)
    rw [same, ok] at unwound
    cases unwound

end Manager

/-! ### Runs -/

namespace Shared

/-- A shared integration that was told nothing yet. -/
def fresh (gate : Gate) (launch : LaunchSpecification) (capabilities : Capability.Declaration)
    (transport : σ) : Shared σ where
  integration := .fresh gate launch capabilities transport

/-- A shared integration after an event, whether its handling returned or unwound. -/
def react (transport : UnwindingTransport σ) (shared : Shared σ) : EditorEvent → Shared σ
  | .opened scope document => (shared.handle (transport.documentOpened scope document)).2
  | .polled => (shared.handle transport.pollStarts).2
  | .closed scope => (shared.handle (transport.scopeClosed scope)).2

def reactAll (transport : UnwindingTransport σ) (shared : Shared σ) (events : List EditorEvent) :
    Shared σ :=
  events.foldl (react transport) shared

theorem handle_result {α : Type} (shared : Shared σ)
    (handler : Integration σ → Handled α × Integration σ) :
    (shared.handle handler).1 = (handler shared.integration).1 := by
  unfold handle
  rcases handler shared.integration with ⟨value | _, integration⟩ <;> rfl

theorem handle_integration {α : Type} (shared : Shared σ)
    (handler : Integration σ → Handled α × Integration σ) :
    (shared.handle handler).2.integration = (handler shared.integration).2 := by
  unfold handle
  rcases handler shared.integration with ⟨value | _, integration⟩ <;> rfl

section Preserved

variable {transport : UnwindingTransport σ}

theorem pollStarts_beginsNothing {integration : Integration (Attempts σ)}
    (numbered : integration.manager.Numbered) :
    integration.manager.BeginsNothing
      (transport.attempted.pollStarts integration).2.manager := by
  rcases transport.attempted.pollStarts_manager integration with ⟨completions, settled⟩
  have called := numbered.afterCall
    (transport.attempted.poll integration.manager.transport).2.1
    (transport.attempted.poll integration.manager.transport).2.2
  rw [settled]
  have same := Manager.settleAll_sameBesidesTable (integration.manager.afterCall
    (transport.attempted.poll integration.manager.transport).2.1
    (transport.attempted.poll integration.manager.transport).2.2) completions
  refine ⟨called.settleAll completions, by rw [same.transport]; rfl, same.last, ?_⟩
  intro scope entry found live
  rw [Manager.entry?_settleAll called, Option.map_eq_some_iff] at found
  rcases found with ⟨before, beforeFound, rfl⟩
  exact ⟨before, beforeFound, Session.Entry.isLive_of_settledBy live,
    (Session.Entry.handle_settledBy _ _).symm⟩

theorem scopeClosed_beginsNothing {integration : Integration (Attempts σ)}
    (numbered : integration.manager.Numbered) (scope : Scope) :
    integration.manager.BeginsNothing
      (transport.attempted.scopeClosed scope integration).2.manager := by
  rcases transport.attempted.scopeClosed_manager integration scope with ⟨entries, last, called⟩
  refine ⟨numbered.of_remove scope last entries, ?_, last, ?_⟩
  · rcases called with same | ⟨session, stopped⟩
    · rw [same]
    · rw [stopped]
      rfl
  · intro other entry found live
    rw [entries] at found
    split at found
    · cases found
    · exact ⟨entry, found, live, rfl⟩

/-- Only an opened document has a session started. -/
theorem react_beginsNothing {shared : Shared (Attempts σ)}
    (numbered : shared.integration.manager.Numbered) {event : EditorEvent}
    (other : ∀ scope document, event ≠ .opened scope document) :
    shared.integration.manager.BeginsNothing
      (shared.react transport.attempted event).integration.manager := by
  cases event with
  | opened scope document => exact absurd rfl (other scope document)
  | polled =>
      rw [react, handle_integration]
      exact pollStarts_beginsNothing numbered
  | closed scope =>
      rw [react, handle_integration]
      exact scopeClosed_beginsNothing numbered scope

theorem accounted_react {shared : Shared (Attempts σ)}
    (accounted : shared.integration.manager.Accounted) (event : EditorEvent) :
    (shared.react transport.attempted event).integration.manager.Accounted := by
  cases event with
  | polled => exact accounted.of_beginsNothing (react_beginsNothing accounted.numbered nofun)
  | closed scope => exact accounted.of_beginsNothing (react_beginsNothing accounted.numbered nofun)
  | opened scope document =>
      rw [react, handle_integration]
      have consulted : (shared.integration.consult document).2.manager.Accounted :=
        accounted.noteAll _
      rcases transport.attempted.documentOpened_manager shared.integration scope document with
        ⟨notes, silent | asked⟩
      · rw [silent]
        exact accounted.noteAll notes
      · rw [asked]
        refine Manager.Accounted.noteAll ?_ notes
        rcases transport.attempted.ensureStarted_cases scope
          (shared.integration.consult document).2.manager with
          ⟨entry, found, live, reused⟩ | ⟨idle, attempt, state, events, called, begun⟩
        · rw [reused]
          exact consulted.noteAll _
        · cases called
          rw [begun, Manager.concluded_manager]
          exact consulted.started scope _ _ _

theorem accounted_reactAll {shared : Shared (Attempts σ)}
    (accounted : shared.integration.manager.Accounted) (events : List EditorEvent) :
    (shared.reactAll transport.attempted events).integration.manager.Accounted := by
  induction events generalizing shared with
  | nil => exact accounted
  | cons event rest ih => exact ih (accounted_react accounted event)

end Preserved

/--
However calls of the transport unwind in a run, a live session was not started exactly if the call
that was to start it unwound. Opening a document is the only event that can bring this about. When
the start unwinds in it, the session stays bound to the scope, and the next admitted document of the
scope is answered with it and leaves the transport alone.
-/
theorem live_unstarted_iff_unwound (transport : UnwindingTransport σ) (gate : Gate)
    (launch : LaunchSpecification) (capabilities : Capability.Declaration) (state : σ)
    (events : List EditorEvent) :
    let shared := (fresh gate launch capabilities (⟨state, []⟩ : Attempts σ)).reactAll
      transport.attempted events
    let manager := shared.integration.manager
    (∀ scope handle, manager.session? scope = some handle →
      (¬manager.StartedOk handle.id ↔ manager.StartUnwound handle.id)) ∧
      (∀ event, (∀ scope document, event ≠ .opened scope document) → ∀ scope handle,
        (shared.react transport.attempted event).integration.manager.session? scope =
          some handle → manager.session? scope = some handle) ∧
      ∀ scope document,
        (shared.handle (transport.attempted.documentOpened scope document)).1 = .unwound →
          let after := shared.react transport.attempted (.opened scope document)
          let handle := manager.nextHandle scope
          after.integration.manager.session? scope = some handle ∧
            after.integration.manager.StartUnwound handle.id ∧
            ∀ next, shared.integration.gate.admits next = true →
              (after.handle (transport.attempted.documentOpened scope next)).1 =
                  .returned (.ok (some handle)) ∧
                (after.react transport.attempted
                  (.opened scope next)).integration.manager.transport =
                    after.integration.manager.transport := by
  intro shared manager
  have accounted : manager.Accounted := by
    refine accounted_reactAll ⟨.fresh launch capabilities _, rfl, ?_⟩ events
    intro scope entry found
    simp [fresh, Integration.fresh, Manager.fresh, Manager.entry?] at found
  refine ⟨?_, ?_, ?_⟩
  · intro scope handle current
    rcases Manager.session?_eq_some_iff.mp current with ⟨entry, found, live, rfl⟩
    exact accounted.startedOk_iff found live
  · intro event other scope handle current
    rcases Manager.session?_eq_some_iff.mp current with ⟨entry, found, live, rfl⟩
    have before := (react_beginsNothing accounted.numbered other).live found live
    exact Manager.session?_eq_some_iff.mpr before
  · intro scope document unwound after handle
    rw [Shared.handle_result] at unwound
    rcases transport.attempted.documentOpened_of_unwound _ scope document unwound with
      ⟨inner, events, called, opened⟩
    have integration : after.integration =
        (shared.integration.consult document).2.withManager
          ((shared.integration.consult document).2.manager.started scope (.ok .pending) inner
            events).2 := by
      rw [← opened]
      exact handle_integration shared _
    have found : after.integration.manager.entry? scope = some ⟨handle, .starting⟩ := by
      rw [integration]
      exact (Manager.entry?_started ..).trans (if_pos rfl)
    refine ⟨Manager.session?_eq_some_iff.mpr ⟨_, found, rfl, rfl⟩, ?_, ?_⟩
    · have outcome : (transport.start (manager.nextRequest scope) manager.transport.inner).1 =
          .unwound := congrArg (·.1) called
      have made : inner.made = manager.transport.made ++ [⟨manager.nextRequest scope,
          (transport.start (manager.nextRequest scope) manager.transport.inner).1⟩] :=
        congrArg (·.2.1.made) called.symm
      rw [outcome] at made
      refine ⟨⟨manager.nextRequest scope, .unwound⟩, ?_, rfl, rfl⟩
      rw [integration]
      show _ ∈ (Manager.started _ scope _ inner events).2.transport.made
      rw [Manager.started_transport, made]
      exact List.mem_append_right _ (List.mem_singleton_self _)
    · intro next admitted
      have answered := transport.attempted.documentOpened_of_live after.integration scope next
        (integration ▸ admitted) found rfl
      rw [Shared.handle_result, react, handle_integration]
      exact answered

/-- The document that is opened after the unwinding start gets the session that was never started,
and no other start is asked for. -/
example :
    let transport : UnwindingTransport Unit :=
      { start := fun _ _ => (.unwound, (), [])
        poll := fun _ => (.returned [], (), [])
        stop := fun _ _ => (.returned (), (), []) }
    let pom : Document := ⟨Text.Utf8.ofString "pom.xml", none⟩
    let again := (fresh ⟨"xml"⟩ default default (⟨(), []⟩ : Attempts Unit)).reactAll
      transport.attempted [.opened "workspace" pom, .opened "workspace" pom]
    again.integration.sessionFor? "workspace" pom.path = some ⟨1, "workspace", default⟩ ∧
      again.integration.manager.transport.made.length = 1 := by
  decide

end Shared

end EditorSession
