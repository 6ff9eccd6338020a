import EditorSession.Proofs.Session.Settling

/-!
# Runs of a manager

A manager is used by calling its operations one after the other, in any order and with any
arguments. An integration asks it to start, to poll and to close; a host that drives the manager
itself may also mark how a pending start ended. `Numbered.performAll` keeps the sessions numbered
through any run.

A transport that only does more of its own accord, such as one that records its calls, leaves the
manager over it with the same sessions: `performAll_through`.
-/

namespace EditorSession

open Session (Handle Entry Progress State)

namespace Session

/-- What an integration asks of its manager. -/
inductive Operation
  | ensure (scope : Scope)
  | poll
  | close (scope : Scope)

/-- What a host may ask of a manager that it drives itself. -/
inductive HostOperation
  | own (operation : Operation)
  | markRunning (handle : Handle)
  | markFailed (handle : Handle) (cause : Backend.Error)

end Session

open Session (Operation HostOperation)

namespace Manager

variable {σ τ : Type} {manager : Manager σ}

/-- A manager that has started nothing yet. -/
def fresh (launch : LaunchSpecification) (capabilities : Capability.Declaration)
    (transport : σ) : Manager σ where
  launch
  capabilities
  transport

/-- The manager after an operation. -/
def perform (transport : Transport σ) (manager : Manager σ) : HostOperation → Manager σ
  | .own (.ensure scope) => (manager.ensureStarted transport scope).2
  | .own .poll => (manager.poll transport).2
  | .own (.close scope) => (manager.closeScope transport scope).2
  | .markRunning handle => (manager.markRunning handle).2
  | .markFailed handle cause => (manager.markFailed handle cause).2

/-- The manager after operations in turn. -/
def performAll (transport : Transport σ) (manager : Manager σ)
    (operations : List HostOperation) : Manager σ :=
  operations.foldl (perform transport) manager

/-! ### Numbers -/

theorem Numbered.fresh (launch : LaunchSpecification) (capabilities : Capability.Declaration)
    (transport : σ) : (Manager.fresh launch capabilities transport).Numbered := by
  constructor <;> intros <;> simp_all [Manager.fresh, entry?]

/-- A new session has a number above all others. -/
theorem Numbered.started (numbered : manager.Numbered) (scope : Scope)
    (answer : Except Backend.Error StartOutcome) (state : σ) (events : List Backend.Event) :
    (manager.started scope answer state events).2.Numbered := by
  constructor
  · intro other entry found
    rw [entry?_started] at found
    by_cases same : other = scope
    · rw [if_pos same] at found
      subst same
      exact Option.some.inj found ▸ rfl
    · rw [if_neg same] at found
      exact numbered.named found
  · intro other entry found
    rw [started_last]
    rw [entry?_started] at found
    split at found
    · exact Option.some.inj found ▸ Nat.le_refl _
    · exact Nat.le_succ_of_le (numbered.issued found)
  · intro first second entry entry' found found' sameId
    rw [entry?_started] at found found'
    by_cases atFirst : first = scope
    · rw [if_pos atFirst] at found
      by_cases atSecond : second = scope
      · exact atFirst.trans atSecond.symm
      · rw [if_neg atSecond] at found'
        have bound := numbered.issued found'
        rw [← sameId, ← Option.some.inj found] at bound
        exact absurd bound (Nat.not_succ_le_self _)
    · rw [if_neg atFirst] at found
      by_cases atSecond : second = scope
      · rw [if_pos atSecond] at found'
        have bound := numbered.issued found
        rw [sameId, ← Option.some.inj found'] at bound
        exact absurd bound (Nat.not_succ_le_self _)
      · rw [if_neg atSecond] at found'
        exact numbered.apart found found' sameId

/-- Forgetting a scope leaves the other sessions as they are. -/
theorem Numbered.of_remove {after : Manager σ} (numbered : manager.Numbered) (scope : Scope)
    (last : after.last = manager.last)
    (removed : ∀ other, after.entry? other =
      if other = scope then none else manager.entry? other) : after.Numbered := by
  have origin : ∀ {other entry}, after.entry? other = some entry →
      manager.entry? other = some entry := by
    intro other entry found
    rw [removed] at found
    split at found
    · cases found
    · exact found
  constructor
  · intro other entry found
    exact numbered.named (origin found)
  · intro other entry found
    exact last ▸ numbered.issued (origin found)
  · intro first second entry entry' found found' sameId
    exact numbered.apart (origin found) (origin found') sameId

theorem entry?_closeScope (transport : Transport σ) (manager : Manager σ)
    (scope other : Scope) :
    entry? (manager.closeScope transport scope).2 other =
      if other = scope then none else manager.entry? other := by
  rcases manager.closeScope_cases transport scope with ⟨absent, closed⟩ |
    ⟨entry, found, ⟨live, state, events, called, closed⟩ | ⟨failed, closed⟩⟩
  · rw [closed]
    by_cases same : other = scope
    · simp [same, absent]
    · simp [same]
  · rw [closed, entry?_note, entry?_afterCall, entry?_remove]
  · rw [closed, entry?_note, entry?_remove]

@[simp]
theorem closeScope_last (transport : Transport σ) (manager : Manager σ) (scope : Scope) :
    (manager.closeScope transport scope).2.last = manager.last := by
  rcases manager.closeScope_cases transport scope with ⟨absent, closed⟩ |
    ⟨entry, found, ⟨live, state, events, called, closed⟩ | ⟨failed, closed⟩⟩ <;>
      rw [closed] <;> rfl

/-- A poll settles what the transport reports. -/
theorem poll_eq (transport : Transport σ) (manager : Manager σ) :
    manager.poll transport =
      (manager.afterCall (transport.poll manager.transport).2.1
        (transport.poll manager.transport).2.2).settleAll
          (transport.poll manager.transport).1 := rfl

/-- A poll changes the state of the transport; the table of sessions it settles. -/
theorem poll_sameBesidesTable (transport : Transport σ) (manager : Manager σ) :
    { manager with transport := (transport.poll manager.transport).2.1 }.SameBesidesTable
      (manager.poll transport).2 := by
  have same := settleAll_sameBesidesTable (manager.afterCall
    (transport.poll manager.transport).2.1 (transport.poll manager.transport).2.2)
    (transport.poll manager.transport).1
  exact ⟨same.launch, same.capabilities, same.transport, same.last⟩

theorem Numbered.afterCall (numbered : manager.Numbered) (state : σ)
    (events : List Backend.Event) : (manager.afterCall state events).Numbered :=
  numbered.of_same rfl fun _ => rfl

theorem Numbered.poll (numbered : manager.Numbered) (transport : Transport σ) :
    (manager.poll transport).2.Numbered :=
  (numbered.afterCall _ _).settleAll _

theorem entry?_poll (numbered : manager.Numbered) (transport : Transport σ) (scope : Scope) :
    entry? (manager.poll transport).2 scope = (manager.entry? scope).map
      (Entry.settledBy (transport.poll manager.transport).1) :=
  entry?_settleAll (numbered.afterCall _ _) _ scope

theorem Numbered.perform (numbered : manager.Numbered) (transport : Transport σ)
    (operation : HostOperation) : (manager.perform transport operation).Numbered := by
  rcases operation with (scope | _ | scope) | handle | ⟨handle, cause⟩
  · show (manager.ensureStarted transport scope).2.Numbered
    rcases manager.ensureStarted_cases transport scope with
      ⟨entry, found, live, reused⟩ | ⟨idle, answer, state, events, called, begun⟩
    · exact reused ▸ numbered.of_same rfl fun _ => rfl
    · exact begun ▸ numbered.started scope answer state events
  · exact numbered.poll transport
  · exact numbered.of_remove scope (closeScope_last transport manager scope)
      (entry?_closeScope transport manager scope)
  · exact numbered.markRunning handle
  · exact numbered.markFailed handle cause

theorem Numbered.performAll (numbered : manager.Numbered) (transport : Transport σ)
    (operations : List HostOperation) :
    (manager.performAll transport operations).Numbered := by
  induction operations generalizing manager with
  | nil => exact numbered
  | cons operation rest ih => exact ih (numbered.perform transport operation)

/-! ### Transports that do more -/

/-- The manager with its transport seen through a projection. -/
def through (project : σ → τ) (manager : Manager σ) : Manager τ where
  launch := manager.launch
  capabilities := manager.capabilities
  transport := project manager.transport
  sessions := manager.sessions
  last := manager.last
  journal := manager.journal

end Manager

/-- One transport answers as the other does, with a state that determines the other's. -/
structure Transport.Refines {σ τ : Type} (fine : Transport σ) (coarse : Transport τ)
    (project : σ → τ) : Prop where
  start : ∀ request state, coarse.start request (project state) =
    ((fine.start request state).1, project (fine.start request state).2.1,
      (fine.start request state).2.2)
  poll : ∀ state, coarse.poll (project state) =
    ((fine.poll state).1, project (fine.poll state).2.1, (fine.poll state).2.2)
  stop : ∀ session state, coarse.stop session (project state) =
    (project (fine.stop session state).1, (fine.stop session state).2)

/-- Recording calls does not change what they answer. -/
theorem Transport.recorded_refines {σ : Type} (transport : Transport σ) :
    transport.recorded.Refines transport Transport.Recorded.inner :=
  ⟨fun _ _ => rfl, fun _ => rfl, fun _ _ => rfl⟩

namespace Manager

variable {σ τ : Type} {fine : Transport σ} {coarse : Transport τ} {project : σ → τ}

theorem started_through (manager : Manager σ) (scope : Scope)
    (answer : Except Backend.Error StartOutcome) (state : σ) (events : List Backend.Event) :
    (manager.through project).started scope answer (project state) events =
      ((manager.started scope answer state events).1,
        (manager.started scope answer state events).2.through project) := by
  rcases answer with cause | _ | _ <;> rfl

theorem ensureStarted_through (refines : fine.Refines coarse project) (manager : Manager σ)
    (scope : Scope) :
    (manager.through project).ensureStarted coarse scope =
      ((manager.ensureStarted fine scope).1,
        (manager.ensureStarted fine scope).2.through project) := by
  rcases manager.ensureStarted_cases fine scope with
    ⟨entry, found, live, reused⟩ | ⟨idle, answer, state, events, called, begun⟩
  · rcases (manager.through project).ensureStarted_cases coarse scope with
      ⟨entry', found', _, reused'⟩ | ⟨idle', _⟩
    · have same : entry = entry' := entry?_unique found found'
      rw [reused, reused', ← same]
      rfl
    · have failed := session?_eq_none_iff.mp idle' entry found
      exact absurd failed (Progress.isLive_iff_ne_failed.mp live)
  · rcases (manager.through project).ensureStarted_cases coarse scope with
      ⟨entry', found', live', _⟩ | ⟨_, answer', state', events', called', begun'⟩
    · have failed := session?_eq_none_iff.mp idle entry' found'
      exact absurd failed (Progress.isLive_iff_ne_failed.mp live')
    · have asked := refines.start (manager.nextRequest scope) manager.transport
      rw [called] at asked
      have same := called'.symm.trans asked
      simp only [Prod.mk.injEq] at same
      rcases same with ⟨rfl, rfl, rfl⟩
      rw [begun, begun', started_through]

theorem closeScope_through (refines : fine.Refines coarse project) (manager : Manager σ)
    (scope : Scope) :
    (manager.through project).closeScope coarse scope =
      ((manager.closeScope fine scope).1, (manager.closeScope fine scope).2.through project) := by
  have sameEntry : entry? (manager.through project) scope = manager.entry? scope := rfl
  cases found : manager.entry? scope with
  | none => simp [closeScope, sameEntry, found]
  | some entry =>
      have told := refines.stop entry.handle.id manager.transport
      cases live : entry.progress.isLive with
      | true =>
          simp only [closeScope, sameEntry, found, live, ↓reduceIte]
          simp only [through, remove, told]
          rfl
      | false =>
          simp only [closeScope, sameEntry, found, live]
          rfl

theorem markRunning_through (manager : Manager σ) (handle : Handle) :
    (manager.through project).markRunning handle =
      ((manager.markRunning handle).1, (manager.markRunning handle).2.through project) := by
  have sameAwaited : (manager.through project).awaited handle .running =
      manager.awaited handle .running := rfl
  unfold markRunning
  rw [sameAwaited]
  cases manager.awaited handle .running <;> rfl

theorem markFailed_through (manager : Manager σ) (handle : Handle) (cause : Backend.Error) :
    (manager.through project).markFailed handle cause =
      ((manager.markFailed handle cause).1,
        (manager.markFailed handle cause).2.through project) := by
  have sameAwaited : (manager.through project).awaited handle .failed =
      manager.awaited handle .failed := rfl
  unfold markFailed
  rw [sameAwaited]
  cases manager.awaited handle .failed <;> rfl

theorem settle_through (manager : Manager σ) (completion : Completion) :
    (manager.through project).settle completion =
      ((manager.settle completion).1, (manager.settle completion).2.through project) := by
  have sameHandle : (manager.through project).handleOf? completion.session =
      manager.handleOf? completion.session := rfl
  unfold settle
  rw [sameHandle]
  cases manager.handleOf? completion.session with
  | none => rfl
  | some handle =>
      cases completion.result with
      | ok _ => simp only [markRunning_through]
      | error cause => simp only [markFailed_through]

theorem settleAll_through (manager : Manager σ) (completions : List Completion) :
    (manager.through project).settleAll completions =
      ((manager.settleAll completions).1, (manager.settleAll completions).2.through project) := by
  induction completions generalizing manager with
  | nil => rfl
  | cons completion rest ih => simp only [settleAll, settle_through, ih]

theorem poll_through (refines : fine.Refines coarse project) (manager : Manager σ) :
    (manager.through project).poll coarse =
      ((manager.poll fine).1, (manager.poll fine).2.through project) := by
  have sameTransport : (manager.through project).transport = project manager.transport := rfl
  rw [poll_eq, poll_eq, sameTransport, refines.poll manager.transport]
  exact settleAll_through (manager.afterCall _ _) _

theorem perform_through (refines : fine.Refines coarse project) (manager : Manager σ)
    (operation : HostOperation) :
    (manager.perform fine operation).through project =
      (manager.through project).perform coarse operation := by
  rcases operation with (scope | _ | scope) | handle | ⟨handle, cause⟩
  · exact (congrArg Prod.snd (ensureStarted_through refines manager scope)).symm
  · exact (congrArg Prod.snd (poll_through refines manager)).symm
  · exact (congrArg Prod.snd (closeScope_through refines manager scope)).symm
  · exact (congrArg Prod.snd (markRunning_through manager handle)).symm
  · exact (congrArg Prod.snd (markFailed_through manager handle cause)).symm

/-- A manager over a transport that does more goes through the same sessions. -/
theorem performAll_through (refines : fine.Refines coarse project) (manager : Manager σ)
    (operations : List HostOperation) :
    (manager.performAll fine operations).through project =
      (manager.through project).performAll coarse operations := by
  induction operations generalizing manager with
  | nil => rfl
  | cons operation rest ih =>
      exact (ih (manager.perform fine operation)).trans
        (congrArg (fun after => performAll coarse after rest)
          (perform_through refines manager operation))

end Manager

end EditorSession
