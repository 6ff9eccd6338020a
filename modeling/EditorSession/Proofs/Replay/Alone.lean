import EditorSession.Proofs.Integration.Openings
import EditorSession.Proofs.Session.Lifecycle

/-!
# Openings in one scope

Documents that are opened in one scope share its session. `Manager.Alone` says what is known of a
manager that was asked for sessions of one scope only and told of nothing: the session of that scope
is as far as the answer to its start says, and it is the only one whose start succeeded. For as long
as no poll and no close comes in between, every opening keeps this.
-/

namespace EditorSession

open Session (Handle Entry Progress)

namespace Manager

variable {σ : Type} {scope : Scope} {manager : Manager (Transport.Recorded σ)}

/-- Only starts were asked for, and only for one scope. -/
structure Alone (scope : Scope) (manager : Manager (Transport.Recorded σ)) : Prop where
  numbered : manager.Numbered
  others : ∀ other, other ≠ scope → manager.entry? other = none
  starts : ∀ call ∈ manager.transport.calls, ∃ request answer, call = .started request answer
  /-- The session of the scope is as far as the answer to its start says. -/
  current : ∀ {entry}, manager.entry? scope = some entry → ∃ request answer,
    .started request answer ∈ manager.transport.calls ∧ request.session = entry.handle.id ∧
      entry.progress = .ofAnswer answer
  /-- No other session was started with success. -/
  accepted : ∀ {request outcome}, .started request (.ok outcome) ∈ manager.transport.calls →
    ∃ entry, manager.entry? scope = some entry ∧ entry.handle.id = request.session ∧
      entry.progress = .ofAnswer (.ok outcome)

namespace Alone

theorem of_same {after : Manager (Transport.Recorded σ)} (alone : manager.Alone scope)
    (last : after.last = manager.last) (transport : after.transport = manager.transport)
    (same : ∀ other, after.entry? other = manager.entry? other) : after.Alone scope where
  numbered := alone.numbered.of_same last same
  others other otherScope := (same other).trans (alone.others other otherScope)
  starts := transport ▸ alone.starts
  current found := transport ▸ alone.current ((same scope).symm.trans found)
  accepted called := by
    rw [transport] at called
    rw [same]
    exact alone.accepted called

theorem started (alone : manager.Alone scope) (idle : manager.session? scope = none)
    (answer : Except Backend.Error StartOutcome) (inner : σ) (events : List Backend.Event) :
    (manager.started scope answer ⟨inner, manager.transport.calls ++
      [.started (manager.nextRequest scope) answer]⟩ events).2.Alone scope where
  numbered := alone.numbered.started scope answer _ events
  others other otherScope := by
    rw [entry?_started, if_neg otherScope]
    exact alone.others other otherScope
  starts := by
    rw [started_transport]
    intro call callMem
    rcases List.mem_append.mp callMem with before | now
    · exact alone.starts call before
    · exact ⟨_, _, List.mem_singleton.mp now⟩
  current := by
    intro entry found
    rw [entry?_started, if_pos rfl, Option.some.injEq] at found
    subst found
    refine ⟨manager.nextRequest scope, answer, ?_, rfl, rfl⟩
    rw [started_transport]
    exact List.mem_append_right _ (List.mem_singleton.mpr rfl)
  accepted := by
    intro request outcome called
    rw [entry?_started, if_pos rfl]
    rw [started_transport] at called
    rcases List.mem_append.mp called with before | now
    · -- The session that was accepted before would be live still.
      rcases alone.accepted before with ⟨entry, found, -, live⟩
      have failed := session?_eq_none_iff.mp idle entry found
      rw [live] at failed
      cases outcome <;> cases failed
    · cases List.mem_singleton.mp now
      exact ⟨_, rfl, rfl, rfl⟩

end Alone

end Manager

namespace Integration

variable {σ : Type} {scope : Scope} {integration : Integration (Transport.Recorded σ)}

theorem alone_ofConfiguration (configuration : Configuration) (mode : LaunchMode) (state : σ)
    (scope : Scope) :
    (ofConfiguration configuration mode (⟨state, []⟩ : Transport.Recorded σ)).manager.Alone
      scope where
  numbered := .fresh _ _ _
  others _ _ := rfl
  starts := by simp [ofConfiguration, Manager.ofConfiguration]
  current found := by simp [ofConfiguration, Manager.ofConfiguration, Manager.entry?] at found
  accepted called := by simp [ofConfiguration, Manager.ofConfiguration] at called

/-- Opening a document of the scope asks for a start at most. -/
theorem alone_documentOpened (alone : integration.manager.Alone scope) (transport : Transport σ)
    (document : Document) :
    (integration.documentOpened transport.recorded scope document).2.manager.Alone scope := by
  have consulted : (integration.consult document).2.manager.Alone scope :=
    alone.of_same rfl rfl fun _ => rfl
  cases admitted : integration.gate.admits document with
  | false =>
      rw [documentOpened_of_declined transport.recorded integration scope admitted]
      exact consulted
  | true =>
      let manager := (integration.consult document).2.manager
      suffices asked : (manager.ensureStarted transport.recorded scope).2.Alone scope by
        rcases documentOpened_of_admitted transport.recorded integration scope admitted with
          ⟨notes, same⟩
        rw [same]
        exact asked.of_same rfl rfl fun _ => rfl
      rcases manager.ensureStarted_cases transport.recorded scope with
        ⟨entry, -, -, reused⟩ | ⟨idle, answer, state, events, called, begun⟩
      · rw [reused]
        exact consulted.of_same rfl rfl fun _ => rfl
      · rcases Transport.recorded_start called with ⟨-, inner, rfl⟩
        rw [begun]
        exact consulted.started idle answer inner events

theorem alone_openAll (alone : integration.manager.Alone scope) (transport : Transport σ)
    {openings : List Opening} (own : ∀ opening ∈ openings, opening.scope = scope) :
    (integration.openAll transport.recorded openings).2.manager.Alone scope := by
  induction openings generalizing integration with
  | nil => exact alone
  | cons opening rest ih =>
      rcases opening with ⟨_, document⟩
      cases own _ (List.mem_cons_self ..)
      exact ih (alone_documentOpened alone transport document)
        fun opening openingMem => own opening (List.mem_cons_of_mem _ openingMem)

end Integration

end EditorSession
