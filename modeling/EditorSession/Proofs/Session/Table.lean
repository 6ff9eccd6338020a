import EditorSession.Proofs.Keyed
import EditorSession.Session.Manager

/-!
# The table of sessions

What each operation of a manager can do, said once: `ensureStarted_cases`, `closeScope_cases` and
`settle_cases` list the outcomes of an operation with the manager that it leaves, and the lemmas on
`entry?` say what is then found in the table. Proofs about runs use these and open no operation.

`Numbered` is what makes lookups by number and lookups by scope agree: a session is bound to the
scope that its handle names, its number was given out, and no two scopes have sessions of one
number.
-/

namespace EditorSession

open Session (Handle Entry Progress State)

namespace Session

/-- The progress of a session whose start was answered. -/
def Progress.ofAnswer : Except Backend.Error StartOutcome → Progress
  | .ok .running => .running
  | .ok .pending => .starting
  | .error _ => .failed

/-- The progress of a session whose pending start ended. -/
def Progress.ofResult : Except Backend.Error Unit → Progress
  | .ok _ => .running
  | .error _ => .failed

@[simp]
theorem Progress.isLive_ofAnswer_ok (outcome : StartOutcome) :
    (Progress.ofAnswer (.ok outcome)).isLive = true := by
  cases outcome <;> rfl

theorem Progress.isLive_ofAnswer_iff {answer : Except Backend.Error StartOutcome} :
    (Progress.ofAnswer answer).isLive = true ↔ ∃ outcome, answer = .ok outcome := by
  cases answer with
  | ok outcome => simp
  | error cause => simp [Progress.ofAnswer, Progress.isLive]

theorem Progress.ofResult_ne_starting (result : Except Backend.Error Unit) :
    Progress.ofResult result ≠ .starting := by
  cases result <;> simp [Progress.ofResult]

theorem Progress.isLive_iff_ne_failed {progress : Progress} :
    progress.isLive = true ↔ progress ≠ .failed := by
  cases progress <;> simp [Progress.isLive]

end Session

namespace Manager

variable {σ : Type}

/-! ### What is found in the table -/

@[simp]
theorem entry?_noteAll (manager : Manager σ) (events : List Event) (scope : Scope) :
    entry? (manager.noteAll events) scope = manager.entry? scope := rfl

@[simp]
theorem entry?_note (manager : Manager σ) (event : Session.Event) (scope : Scope) :
    entry? (manager.note event) scope = manager.entry? scope := rfl

@[simp]
theorem entry?_afterCall (manager : Manager σ) (state : σ) (events : List Backend.Event)
    (scope : Scope) : entry? (manager.afterCall state events) scope = manager.entry? scope := rfl

theorem entry?_setProgress (manager : Manager σ) (scope other : Scope) (progress : Progress) :
    entry? (manager.setProgress scope progress) other =
      if other = scope then (manager.entry? scope).map fun entry => { entry with progress }
      else manager.entry? other :=
  Keyed.get?_modify ..

theorem entry?_remove (manager : Manager σ) (scope other : Scope) :
    entry? (manager.remove scope) other =
      if other = scope then none else manager.entry? other :=
  Keyed.get?_erase ..

theorem entry?_unique {manager : Manager σ} {scope : Scope} {first second : Entry}
    (firstFound : manager.entry? scope = some first)
    (secondFound : manager.entry? scope = some second) : first = second :=
  Option.some.inj (firstFound.symm.trans secondFound)

/-- The handle that the next session of a scope gets. -/
def nextHandle (manager : Manager σ) (scope : Scope) : Handle :=
  ⟨manager.last + 1, scope, manager.capabilities⟩

/-- What the transport is given to start the next session of a scope. -/
def nextRequest (manager : Manager σ) (scope : Scope) : StartRequest :=
  manager.request (manager.nextHandle scope)

@[simp]
theorem nextRequest_scope (manager : Manager σ) (scope : Scope) :
    (manager.nextRequest scope).scope = scope := rfl

@[simp]
theorem nextRequest_session (manager : Manager σ) (scope : Scope) :
    (manager.nextRequest scope).session = manager.last + 1 := rfl

theorem entry?_enrol (manager : Manager σ) (scope other : Scope) :
    entry? (manager.enrol scope).2 other =
      if other = scope then some ⟨manager.nextHandle scope, .starting⟩
      else manager.entry? other :=
  Keyed.get?_put ..

theorem session?_eq_some_iff {manager : Manager σ} {scope : Scope} {handle : Handle} :
    manager.session? scope = some handle ↔
      ∃ entry, manager.entry? scope = some entry ∧ entry.progress.isLive = true ∧
        entry.handle = handle := by
  cases found : manager.entry? scope with
  | none => simp [session?, found]
  | some entry => simp [session?, found]

theorem session?_eq_none_iff {manager : Manager σ} {scope : Scope} :
    manager.session? scope = none ↔
      ∀ entry, manager.entry? scope = some entry → entry.progress = .failed := by
  cases found : manager.entry? scope with
  | none => simp [session?, found]
  | some entry => cases progress : entry.progress <;> simp [session?, found, progress,
      Progress.isLive]

/-! ### Starting -/

/-- The next session of a scope, after the transport answered its start. -/
def started (manager : Manager σ) (scope : Scope) (answer : Except Backend.Error StartOutcome)
    (state : σ) (events : List Backend.Event) : Except Session.Error Handle × Manager σ :=
  ((manager.enrol scope).2.afterCall state events).conclude (manager.nextHandle scope) answer

/-- A live session is used again; otherwise the transport is asked once, for a new one. -/
theorem ensureStarted_cases (transport : Transport σ) (manager : Manager σ) (scope : Scope) :
    (∃ entry, manager.entry? scope = some entry ∧ entry.progress.isLive = true ∧
      manager.ensureStarted transport scope = (.ok entry.handle, manager.note
        (.reusing manager.launch.integration scope entry.handle.id entry.progress))) ∨
    (manager.session? scope = none ∧ ∃ answer state events,
      transport.start (manager.nextRequest scope) manager.transport = (answer, state, events) ∧
        manager.ensureStarted transport scope = manager.started scope answer state events) := by
  cases found : manager.entry? scope with
  | none =>
      right
      exact ⟨by simp [session?, found], _, _, _, rfl, by
        simp only [ensureStarted, reuse?, found]; rfl⟩
  | some entry =>
      by_cases live : entry.progress.isLive = true
      · left
        exact ⟨entry, rfl, live, by simp [ensureStarted, reuse?, found, live]⟩
      · right
        exact ⟨by simp [session?, found, live], _, _, _, rfl, by
          simp only [ensureStarted, reuse?, found, live]; rfl⟩

theorem ensureStarted_of_live (transport : Transport σ) {manager : Manager σ} {scope : Scope}
    {entry : Entry} (found : manager.entry? scope = some entry)
    (live : entry.progress.isLive = true) :
    ∃ event, manager.ensureStarted transport scope = (.ok entry.handle, manager.note event) := by
  rcases manager.ensureStarted_cases transport scope with
    ⟨current, currentFound, _, reused⟩ | ⟨idle, _⟩
  · cases entry?_unique found currentFound
    exact ⟨_, reused⟩
  · exact absurd (session?_eq_none_iff.mp idle entry found) (Progress.isLive_iff_ne_failed.mp live)

theorem ensureStarted_of_idle (transport : Transport σ) {manager : Manager σ} {scope : Scope}
    (idle : manager.session? scope = none) :
    ∃ answer state events,
      transport.start (manager.nextRequest scope) manager.transport = (answer, state, events) ∧
        manager.ensureStarted transport scope = manager.started scope answer state events := by
  rcases manager.ensureStarted_cases transport scope with
    ⟨entry, found, live, _⟩ | ⟨_, begun⟩
  · exact absurd (session?_eq_none_iff.mp idle entry found) (Progress.isLive_iff_ne_failed.mp live)
  · exact begun

section Started

variable (manager : Manager σ) (scope : Scope) (answer : Except Backend.Error StartOutcome)
  (state : σ) (events : List Backend.Event)

theorem started_result :
    (manager.started scope answer state events).1 =
      match answer with
      | .ok _ => .ok (manager.nextHandle scope)
      | .error cause => .error
          (.startFailed manager.launch.integration scope manager.launch.executable cause) := by
  rcases answer with cause | _ | _ <;> rfl

theorem entry?_started (other : Scope) :
    entry? (manager.started scope answer state events).2 other =
      if other = scope then some ⟨manager.nextHandle scope, .ofAnswer answer⟩
      else manager.entry? other := by
  rcases answer with cause | _ | _ <;>
    by_cases same : other = scope <;>
      simp [started, conclude, nextHandle, entry?_setProgress, entry?_enrol, same,
        Progress.ofAnswer]

@[simp]
theorem started_last : (manager.started scope answer state events).2.last = manager.last + 1 := by
  rcases answer with cause | _ | _ <;> rfl

@[simp]
theorem started_transport : (manager.started scope answer state events).2.transport = state := by
  rcases answer with cause | _ | _ <;> rfl

@[simp]
theorem started_launch :
    (manager.started scope answer state events).2.launch = manager.launch := by
  rcases answer with cause | _ | _ <;> rfl

@[simp]
theorem started_capabilities :
    (manager.started scope answer state events).2.capabilities = manager.capabilities := by
  rcases answer with cause | _ | _ <;> rfl

end Started

/-- The session that is answered is bound to its scope. -/
theorem entry?_of_ensureStarted {transport : Transport σ} {manager : Manager σ} {scope : Scope}
    {handle : Handle} (answered : (manager.ensureStarted transport scope).1 = .ok handle) :
    ∃ entry, entry? (manager.ensureStarted transport scope).2 scope = some entry ∧
      entry.handle = handle := by
  rcases manager.ensureStarted_cases transport scope with
    ⟨entry, found, live, reused⟩ | ⟨idle, answer, state, events, called, begun⟩
  · rw [reused] at answered ⊢
    exact ⟨entry, found, Except.ok.inj answered⟩
  · rw [begun] at answered ⊢
    rw [entry?_started, if_pos rfl]
    rw [started_result] at answered
    cases answer with
    | error cause => cases answered
    | ok outcome => exact ⟨_, rfl, Except.ok.inj answered⟩

/-! ### Closing -/

/-- Only a live session is stopped; a failed one is forgotten. -/
theorem closeScope_cases (transport : Transport σ) (manager : Manager σ) (scope : Scope) :
    (manager.entry? scope = none ∧ manager.closeScope transport scope = (none, manager)) ∨
    ∃ entry, manager.entry? scope = some entry ∧
      ((entry.progress.isLive = true ∧ ∃ state events,
          transport.stop entry.handle.id manager.transport = (state, events) ∧
          manager.closeScope transport scope = (some entry.handle,
            ((manager.remove scope).afterCall state events).note
              (.terminated scope entry.handle.id entry.progress))) ∨
        (entry.progress = .failed ∧ manager.closeScope transport scope = (some entry.handle,
            (manager.remove scope).note
              (.terminated scope entry.handle.id entry.progress)))) := by
  cases found : manager.entry? scope with
  | none =>
      left
      exact ⟨rfl, by simp [closeScope, found]⟩
  | some entry =>
      right
      refine ⟨entry, rfl, ?_⟩
      by_cases live : entry.progress.isLive = true
      · left
        exact ⟨live, _, _, rfl, by simp only [closeScope, found, live]; rfl⟩
      · right
        refine ⟨?_, by simp [closeScope, found, live]⟩
        simpa [Progress.isLive_iff_ne_failed] using live

end Manager

end EditorSession
