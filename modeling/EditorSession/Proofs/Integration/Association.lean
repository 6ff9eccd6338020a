import EditorSession.Proofs.Integration.Run
import EditorSession.Session.Scripted

/-!
# Documents and the session of their scope

A document is associated with a session when it is opened, and all documents of its scope follow
when a failed session is replaced. They do not follow when the start of the replacement is
refused: the scope then has a failed session with a new number, and its documents are left with
the former one.

`Integration.Associated` ties the two tables to the answers that the transport gave: the documents
of a scope are with its current session exactly if the last start for the scope was accepted.
-/

namespace EditorSession

open Session (Handle Entry Progress State)

/-! ### The last answer -/

namespace Transport

/-- The answer to a start for a scope. -/
def Call.answer? (scope : Scope) : Call → Option (Except Backend.Error StartOutcome)
  | .started request answer => if request.scope = scope then some answer else none
  | _ => none

/-- The answer to the last start for a scope. -/
def lastAnswer? (calls : List Call) (scope : Scope) : Option (Except Backend.Error StartOutcome) :=
  (calls.filterMap (Call.answer? scope)).getLast?

theorem lastAnswer?_append_started (calls : List Call) (request : StartRequest)
    (answer : Except Backend.Error StartOutcome) (scope : Scope) :
    lastAnswer? (calls ++ [.started request answer]) scope =
      if request.scope = scope then some answer else lastAnswer? calls scope := by
  by_cases same : request.scope = scope <;> simp [lastAnswer?, Call.answer?, same]

theorem lastAnswer?_append_silent {calls : List Call} {call : Call} {scope : Scope}
    (silent : call.answer? scope = none) :
    lastAnswer? (calls ++ [call]) scope = lastAnswer? calls scope := by
  simp [lastAnswer?, silent]

end Transport

namespace Manager

variable {σ : Type} {manager : Manager (Transport.Recorded σ)}

/-- The answer to the last start for a scope that a manager made. -/
def lastAnswer? (manager : Manager (Transport.Recorded σ)) (scope : Scope) :
    Option (Except Backend.Error StartOutcome) :=
  Transport.lastAnswer? manager.transport.calls scope

/-- A scope with a session had a start, which was accepted if the session is live. -/
def Answered (manager : Manager (Transport.Recorded σ)) : Prop :=
  ∀ scope entry, manager.entry? scope = some entry →
    ∃ answer, manager.lastAnswer? scope = some answer ∧
      (entry.progress.isLive = true → ∃ outcome, answer = .ok outcome)

/-- A session that was started for a scope is the current one if the last start for the scope was
accepted, and an earlier one if it was refused. -/
def Follows (manager : Manager (Transport.Recorded σ)) (scope : Scope) (handle : Handle) : Prop :=
  handle.scope = scope ∧ handle.id ≤ manager.last ∧
    ∃ entry, manager.entry? scope = some entry ∧
      (handle.id = entry.handle.id ↔
        ∃ outcome, manager.lastAnswer? scope = some (.ok outcome))

section Started

variable {transport : Transport σ} {scope : Scope} {answer : Except Backend.Error StartOutcome}
  {state : Transport.Recorded σ} {events : List Backend.Event}

theorem started_lastAnswer? (called : transport.recorded.start (manager.nextRequest scope)
    manager.transport = (answer, state, events)) (other : Scope) :
    lastAnswer? (manager.started scope answer state events).2 other =
      if other = scope then some answer else manager.lastAnswer? other := by
  simp only [Transport.recorded, Prod.mk.injEq] at called
  rcases called with ⟨rfl, rfl, rfl⟩
  rw [lastAnswer?, started_transport, Transport.lastAnswer?_append_started]
  simp only [eq_comm (b := scope)]
  rfl

theorem Answered.started (answered : manager.Answered)
    (called : transport.recorded.start (manager.nextRequest scope) manager.transport =
      (answer, state, events)) :
    (manager.started scope answer state events).2.Answered := by
  intro other entry found
  rw [entry?_started] at found
  rw [started_lastAnswer? called]
  by_cases same : other = scope
  · rw [if_pos same] at found ⊢
    refine ⟨answer, rfl, ?_⟩
    rw [← Option.some.inj found]
    exact Progress.isLive_ofAnswer_iff.mp
  · rw [if_neg same] at found ⊢
    exact answered other entry found

/-- A start changes nothing for other scopes, and a refused one leaves the former session behind. -/
theorem Follows.started {other : Scope} {handle : Handle} (follows : manager.Follows other handle)
    (called : transport.recorded.start (manager.nextRequest scope) manager.transport =
      (answer, state, events))
    (apart : other ≠ scope ∨ ∃ cause, answer = .error cause) :
    (manager.started scope answer state events).2.Follows other handle := by
  rcases follows with ⟨named, issued, entry, found, current_iff⟩
  refine ⟨named, by rw [started_last]; exact Nat.le_succ_of_le issued, ?_⟩
  simp only [entry?_started, started_lastAnswer? called]
  by_cases same : other = scope
  · rcases apart with otherScope | ⟨cause, rfl⟩
    · exact absurd same otherScope
    · simp only [same, ↓reduceIte]
      refine ⟨_, rfl, iff_of_false ?_ (by simp)⟩
      intro sameId
      rw [sameId] at issued
      exact Nat.not_succ_le_self _ issued
  · simp only [same, ↓reduceIte]
    exact ⟨entry, found, current_iff⟩

end Started

theorem poll_lastAnswer? (transport : Transport σ) (manager : Manager (Transport.Recorded σ))
    (scope : Scope) :
    lastAnswer? (manager.poll transport.recorded).2 scope = manager.lastAnswer? scope := by
  have same := (settleAll_sameBesidesTable (manager.afterCall
    (transport.recorded.poll manager.transport).2.1
    (transport.recorded.poll manager.transport).2.2)
    (transport.recorded.poll manager.transport).1).transport
  rw [lastAnswer?, poll_eq, same]
  exact Transport.lastAnswer?_append_silent rfl

theorem closeScope_lastAnswer? (transport : Transport σ)
    (manager : Manager (Transport.Recorded σ)) (scope other : Scope) :
    lastAnswer? (manager.closeScope transport.recorded scope).2 other =
      manager.lastAnswer? other := by
  rcases manager.closeScope_cases transport.recorded scope with ⟨absent, closed⟩ |
    ⟨entry, found, ⟨live, state, events, called, closed⟩ | ⟨failed, closed⟩⟩
  · rw [closed]
  · simp only [Transport.recorded, Prod.mk.injEq] at called
    rcases called with ⟨rfl, rfl⟩
    rw [closed]
    exact Transport.lastAnswer?_append_silent rfl
  · rw [closed]
    rfl

end Manager

/-! ### What documents are associated with -/

namespace Integration

variable {σ : Type} {integration : Integration (Transport.Recorded σ)}

/-- The documents of every scope follow the sessions of the scope as the answers allow. -/
structure Associated (integration : Integration (Transport.Recorded σ)) : Prop where
  numbered : integration.manager.Numbered
  answered : integration.manager.Answered
  follows : ∀ scope linked, integration.documents.get? scope = some linked →
    integration.manager.Follows scope linked.handle

theorem Associated.fresh (gate : Gate) (launch : LaunchSpecification)
    (capabilities : Capability.Declaration) (state : σ) :
    (Integration.fresh gate launch capabilities
      (⟨state, []⟩ : Transport.Recorded σ)).Associated where
  numbered := .fresh launch capabilities _
  answered scope entry found := by simp [Integration.fresh, Manager.fresh, Manager.entry?] at found
  follows scope linked found := by simp [Integration.fresh] at found

/-- A document that is associated with the current session brings the other documents along. -/
theorem Associated.associate {scope : Scope} {entry : Entry} {outcome : StartOutcome}
    {document : Document} (numbered : integration.manager.Numbered)
    (answered : integration.manager.Answered)
    (named : ∀ former, integration.documents.get? scope = some former →
      former.handle.scope = scope)
    (follows : ∀ other linked, other ≠ scope →
      integration.documents.get? other = some linked →
        integration.manager.Follows other linked.handle)
    (found : integration.manager.entry? scope = some entry)
    (accepted : integration.manager.lastAnswer? scope = some (.ok outcome)) :
    (integration.associate entry.handle scope document).Associated := by
  rcases integration.associate_manager entry.handle scope document with ⟨notes, _, same⟩
  rcases integration.documents_associate entry.handle scope document with
    ⟨linked, sameId, sameHandle, documents⟩
  refine ⟨?_, ?_, ?_⟩
  · rw [same]
    exact numbered.of_same rfl fun _ => rfl
  · rw [same]
    exact answered
  · intro other otherLinked otherFound
    rw [documents] at otherFound
    rw [same]
    by_cases sameScope : other = scope
    · rw [if_pos sameScope] at otherFound
      subst sameScope
      cases otherFound
      refine ⟨?_, sameId ▸ numbered.issued found, entry, found, ?_⟩
      · rcases sameHandle with current | ⟨former, formerFound, kept⟩
        · rw [current, numbered.named found]
        · rw [kept, named former formerFound]
      · exact iff_of_true sameId ⟨outcome, accepted⟩
    · rw [if_neg sameScope] at otherFound
      exact follows other otherLinked sameScope otherFound

theorem Associated.opened (associated : integration.Associated) (transport : Transport σ)
    (scope : Scope) (document : Document) :
    (react transport.recorded integration (.opened scope document)).Associated := by
  have consulted : (integration.consult document).2.Associated :=
    ⟨associated.numbered.of_same rfl fun _ => rfl, associated.answered, associated.follows⟩
  have named : ∀ former, (integration.consult document).2.documents.get? scope = some former →
      former.handle.scope = scope := fun former found => (consulted.follows scope former found).1
  rcases integration.documentOpened_cases transport.recorded scope document with
    opened | ⟨entry, event, found, live, opened⟩ |
    ⟨idle, answer, state, events, called, ⟨outcome, accepted, opened⟩ |
      ⟨cause, error, refused, opened⟩⟩
  · rw [react, opened]
    exact consulted
  · rw [react, opened]
    rcases consulted.answered scope entry found with ⟨answer, lastAnswer, accepted⟩
    rcases accepted live with ⟨outcome, rfl⟩
    exact .associate (consulted.numbered.of_same rfl fun _ => rfl) consulted.answered named
      (fun other linked _ => consulted.follows other linked) found lastAnswer
  · rw [react, opened]
    let began := (integration.consult document).2.withManager
      ((integration.consult document).2.manager.started scope answer state events).2
    have numbered : began.manager.Numbered :=
      consulted.numbered.started scope answer state events
    have answered : began.manager.Answered := consulted.answered.started called
    have current : began.manager.entry? scope =
        some ⟨(integration.consult document).2.manager.nextHandle scope, .ofAnswer answer⟩ :=
      (Manager.entry?_started ..).trans (if_pos rfl)
    have lastAnswer : began.manager.lastAnswer? scope = some (.ok outcome) :=
      (Manager.started_lastAnswer? called scope).trans (accepted ▸ if_pos rfl)
    refine Associated.associate numbered answered named ?_ current lastAnswer
    intro other linked otherScope otherFound
    exact (consulted.follows other linked otherFound).started called (Or.inl otherScope)
  · rw [react, opened]
    refine ⟨consulted.numbered.started scope answer state events,
      consulted.answered.started called, ?_⟩
    intro other linked otherFound
    exact (consulted.follows other linked otherFound).started called (Or.inr ⟨cause, refused⟩)

/-- A poll leaves the answers and the numbers of sessions, so the documents stay where they are. -/
theorem Associated.polled (associated : integration.Associated) (transport : Transport σ) :
    (react transport.recorded integration .polled).Associated := by
  have entries := Manager.entry?_poll associated.numbered transport.recorded
  have lastAnswer := integration.manager.poll_lastAnswer? transport
  have last := (integration.manager.poll_sameBesidesTable transport.recorded).last
  refine ⟨associated.numbered.poll transport.recorded, ?_, ?_⟩
  · intro scope entry found
    rw [react, pollStarts, entries, Option.map_eq_some_iff] at found
    rcases found with ⟨entry, found, rfl⟩
    rcases associated.answered scope entry found with ⟨answer, answerFound, accepted⟩
    exact ⟨answer, (lastAnswer scope).trans answerFound,
      fun live => accepted (Entry.isLive_of_settledBy live)⟩
  · intro scope linked found
    rcases associated.follows scope linked found with
      ⟨named, issued, entry, entryFound, current_iff⟩
    refine ⟨named, last ▸ issued, entry.settledBy
      (transport.recorded.poll integration.manager.transport).1, ?_, ?_⟩
    · rw [react, pollStarts, entries, entryFound, Option.map_some]
    · rw [react, pollStarts, lastAnswer, Entry.handle_settledBy]
      exact current_iff

theorem Associated.closed (associated : integration.Associated) (transport : Transport σ)
    (scope : Scope) : (react transport.recorded integration (.closed scope)).Associated := by
  have entries := integration.manager.entry?_closeScope transport.recorded scope
  have lastAnswer := integration.manager.closeScope_lastAnswer? transport scope
  have last := integration.manager.closeScope_last transport.recorded scope
  have documents : ∀ other, (react transport.recorded integration (.closed scope)).documents.get?
      other = if other = scope then none else integration.documents.get? other :=
    fun other => Keyed.get?_erase ..
  refine ⟨associated.numbered.of_remove scope last entries, ?_, ?_⟩
  · intro other entry found
    rw [react, scopeClosed, entries] at found
    rcases Option.ite_none_left_eq_some.mp found with ⟨-, found⟩
    rcases associated.answered other entry found with ⟨answer, answerFound, accepted⟩
    exact ⟨answer, (lastAnswer other).trans answerFound, accepted⟩
  · intro other linked found
    rw [documents] at found
    rcases Option.ite_none_left_eq_some.mp found with ⟨otherScope, found⟩
    rcases associated.follows other linked found with
      ⟨named, issued, entry, entryFound, current_iff⟩
    refine ⟨named, last ▸ issued, entry, ?_, ?_⟩
    · rw [react, scopeClosed, entries, if_neg otherScope, entryFound]
    · rw [react, scopeClosed, lastAnswer]
      exact current_iff

theorem Associated.reactAll (associated : integration.Associated) (transport : Transport σ)
    (events : List EditorEvent) :
    (Integration.reactAll transport.recorded integration events).Associated := by
  induction events generalizing integration with
  | nil => exact associated
  | cons event rest ih =>
      apply ih
      cases event with
      | opened scope document => exact associated.opened transport scope document
      | polled => exact associated.polled transport
      | closed scope => exact associated.closed transport scope

/--
In any run, a document is associated with the current session of its scope exactly if the last
start for the scope was accepted. If it was refused, the document is left with a session that is
terminated while the current one is failed.
-/
theorem sessionFor_current_iff (transport : Transport σ) (gate : Gate)
    (launch : LaunchSpecification) (capabilities : Capability.Declaration) (state : σ)
    (events : List EditorEvent) (scope : Scope) (path : Octets) (handle : Handle)
    (associated : ((fresh gate launch capabilities state).reactAll transport
      events).sessionFor? scope path = some handle) :
    let manager := ((fresh gate launch capabilities state).reactAll transport events).manager
    let calls := ((fresh gate launch capabilities ⟨state, []⟩).reactAll transport.recorded
      events).manager.transport.calls
    (manager.stateOf handle = manager.state scope ∧ manager.stateOf handle ≠ .terminated ↔
        ∃ outcome, Transport.lastAnswer? calls scope = some (.ok outcome)) ∧
      ((∃ outcome, Transport.lastAnswer? calls scope = some (.ok outcome)) ∨
        (∃ cause, Transport.lastAnswer? calls scope = some (.error cause)) ∧
          manager.stateOf handle = .terminated ∧ manager.state scope = .bound .failed) := by
  intro manager calls
  let recorded := (fresh gate launch capabilities ⟨state, []⟩).reactAll transport.recorded events
  have invariant : recorded.Associated :=
    (Associated.fresh gate launch capabilities state).reactAll transport events
  have same : recorded.through Transport.Recorded.inner =
      (fresh gate launch capabilities state).reactAll transport events :=
    reactAll_through transport.recorded_refines _ events
  rw [← same] at associated
  rcases sessionFor?_eq_some_iff.mp associated with ⟨linked, found, _, rfl⟩
  rcases invariant.follows scope linked found with ⟨named, _, entry, entryFound, current_iff⟩
  rcases invariant.answered scope entry entryFound with ⟨answer, lastAnswer, accepted⟩
  have sameManager : manager = recorded.manager.through Transport.Recorded.inner :=
    congrArg Integration.manager same.symm
  have bound : manager.entry? scope = some entry := by
    rw [sameManager]
    exact entryFound
  have stateOf : manager.stateOf linked.handle =
      if entry.handle.id = linked.handle.id then .bound entry.progress else .terminated := by
    rw [Manager.stateOf, named, bound]
  have stateScope : manager.state scope = .bound entry.progress := by
    rw [Manager.state, bound]
  cases answer with
  | ok outcome =>
      have current := current_iff.mpr ⟨outcome, lastAnswer⟩
      rw [stateOf, stateScope, if_pos current.symm]
      exact ⟨iff_of_true ⟨rfl, by simp⟩ ⟨outcome, lastAnswer⟩, Or.inl ⟨outcome, lastAnswer⟩⟩
  | error cause =>
      have refused : ¬∃ outcome, recorded.manager.lastAnswer? scope = some (.ok outcome) := by
        rw [lastAnswer]
        simp
      have former : entry.handle.id ≠ linked.handle.id :=
        fun sameId => refused (current_iff.mp sameId.symm)
      have failed : entry.progress = .failed := by
        by_contra live
        rcases accepted (Progress.isLive_iff_ne_failed.mpr live) with ⟨outcome, impossible⟩
        cases impossible
      rw [stateOf, stateScope, if_neg former, failed]
      exact ⟨iff_of_false (by simp) refused, Or.inr ⟨⟨cause, lastAnswer⟩, rfl, rfl⟩⟩

/-- A document whose start is pending is associated with the session that is starting. -/
theorem sessionFor_after_start :
    let path := Text.Utf8.ofString "pom.xml"
    let script : Transport.Script := { otherwise := .ok .pending }
    let integration := (fresh ⟨"xml"⟩ default default script).reactAll (.scripted true)
      [.opened "workspace" ⟨path, none⟩]
    integration.sessionFor? "workspace" path = some ⟨1, "workspace", default⟩ ∧
      integration.manager.stateOf ⟨1, "workspace", default⟩ =
        integration.manager.state "workspace" ∧
      integration.manager.stateOf ⟨1, "workspace", default⟩ ≠ .terminated := by
  intro path script integration
  have associated : integration.sessionFor? "workspace" path =
      some ⟨1, "workspace", default⟩ := by decide
  refine ⟨associated, ?_⟩
  exact (sessionFor_current_iff (.scripted true) ⟨"xml"⟩ default default script _ _ _ _
    associated).1.mpr ⟨.pending, rfl⟩

/-- A start that fails later, and then another one that is refused at once, leave the document with
the first session while the second one is the current session of the scope. -/
theorem sessionFor_former_after_refusal :
    let path := Text.Utf8.ofString "pom.xml"
    let script : Transport.Script :=
      { next := [.ok .pending, .error ⟨"executable not found", .wordings []⟩]
        settled := [⟨1, .error ⟨"handshake timed out", .wordings []⟩⟩] }
    let integration := (fresh ⟨"xml"⟩ default default script).reactAll (.scripted true)
      [.opened "workspace" ⟨path, none⟩, .polled, .opened "workspace" ⟨path, none⟩]
    integration.sessionFor? "workspace" path = some ⟨1, "workspace", default⟩ ∧
      integration.manager.stateOf ⟨1, "workspace", default⟩ = .terminated ∧
      integration.manager.state "workspace" = .bound .failed := by
  decide

end Integration

end EditorSession
