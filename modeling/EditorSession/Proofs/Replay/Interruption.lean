import EditorSession.Proofs.Replay.Accounting
import EditorSession.Proofs.Replay.Ending
import EditorSession.Session.Scripted

/-!
# Replays that are interrupted

A write that fails ends a replay where it is, before its scope is closed. `Manager.Unstopped` is what
holds all the while until then: nothing was stopped, and a session whose start succeeded is live
unless the transport reported that it failed. So whether such a session is left live or was stopped
depends on nothing but how the replay ended (`Setup.sessions_after_replay`).
-/

namespace EditorSession

open Session (Handle Entry Progress)

namespace Transport.Recorded

variable {σ : Type} {state after : Recorded σ} {added : List Call}

/-- A start of a session succeeded, and no poll reported that it failed. -/
def Lasting (state : Recorded σ) (session : SessionId) : Prop :=
  (∃ request outcome, .started request (.ok outcome) ∈ state.calls ∧ request.session = session) ∧
    ∀ completions cause, .polled completions ∈ state.calls → ⟨session, .error cause⟩ ∉ completions

theorem stops_of_calls (calls : after.calls = state.calls ++ added) :
    after.stops = state.stops ++ added.filterMap Call.stop? := by
  rw [stops, stops, calls, List.filterMap_append]

/-- A session that lasts did so before, or its start is one of the last calls. -/
theorem Lasting.of_calls {session : SessionId} (lasting : after.Lasting session)
    (calls : after.calls = state.calls ++ added) : state.Lasting session ∨
      ∃ request outcome, .started request (.ok outcome) ∈ added ∧ request.session = session := by
  rw [Lasting, calls] at lasting
  rcases lasting with ⟨⟨request, outcome, called, own⟩, unfailed⟩
  rcases List.mem_append.mp called with before | now
  · exact .inl ⟨⟨request, outcome, before, own⟩, fun completions cause polled =>
      unfailed completions cause (List.mem_append_left _ polled)⟩
  · exact .inr ⟨request, outcome, now, own⟩

end Transport.Recorded

namespace Manager

variable {σ : Type} {scope : Scope} {manager : Manager (Transport.Recorded σ)}

/-- Sessions were asked for in one scope only and none was stopped. -/
structure Unstopped (scope : Scope) (manager : Manager (Transport.Recorded σ)) : Prop where
  numbered : manager.Numbered
  others : ∀ other, other ≠ scope → manager.entry? other = none
  stops : manager.transport.stops = []
  lasting : ∀ session, manager.transport.Lasting session →
    ∃ handle, manager.session? scope = some handle ∧ handle.id = session

namespace Unstopped

theorem of_same {after : Manager (Transport.Recorded σ)} (unstopped : manager.Unstopped scope)
    (last : after.last = manager.last) (calls : after.transport.calls = manager.transport.calls)
    (same : ∀ other, after.entry? other = manager.entry? other) : after.Unstopped scope where
  numbered := unstopped.numbered.of_same last same
  others other otherScope := (same other).trans (unstopped.others other otherScope)
  stops := by
    rw [Transport.Recorded.stops, calls]
    exact unstopped.stops
  lasting session lasting := by
    rw [Transport.Recorded.Lasting, calls] at lasting
    rw [session?, same]
    exact unstopped.lasting session lasting

theorem ensureStarted (unstopped : manager.Unstopped scope) (transport : Transport σ) :
    (manager.ensureStarted transport.recorded scope).2.Unstopped scope := by
  have numbered := unstopped.numbered.perform transport.recorded (.own (.ensure scope))
  rcases manager.ensureStarted_cases transport.recorded scope with
    ⟨entry, -, -, reused⟩ | ⟨idle, answer, state, events, called, begun⟩
  · rw [reused]
    exact unstopped.of_same rfl rfl fun _ => rfl
  · rcases Transport.recorded_start called with ⟨-, inner, rfl⟩
    let added : List Transport.Call := [.started (manager.nextRequest scope) answer]
    have calls : (manager.started scope answer ⟨inner, manager.transport.calls ++ added⟩
        events).2.transport.calls = manager.transport.calls ++ added := by rw [started_transport]
    rw [perform, begun] at numbered
    rw [begun]
    refine ⟨numbered, fun other otherScope => ?_, ?_, fun session lasting => ?_⟩
    · rw [entry?_started, if_neg otherScope]
      exact unstopped.others other otherScope
    · rw [Transport.Recorded.stops_of_calls calls, unstopped.stops]
      rfl
    · rcases lasting.of_calls calls with before | ⟨request, outcome, now, rfl⟩
      · -- A session that lasts would be live, and the scope has none.
        rcases unstopped.lasting session before with ⟨handle, current, -⟩
        rw [idle] at current
        cases current
      · cases List.mem_singleton.mp now
        refine ⟨manager.nextHandle scope, session?_eq_some_iff.mpr
          ⟨⟨manager.nextHandle scope, .ofAnswer (.ok outcome)⟩, ?_,
            Progress.isLive_ofAnswer_ok outcome, rfl⟩, rfl⟩
        rw [entry?_started, if_pos rfl]

theorem poll (unstopped : manager.Unstopped scope) (transport : Transport σ) :
    (manager.poll transport.recorded).2.Unstopped scope := by
  let completions := (transport.poll manager.transport.inner).1
  have entries (other : Scope) : entry? (manager.poll transport.recorded).2 other =
      (manager.entry? other).map (Entry.settledBy completions) :=
    entry?_poll unstopped.numbered transport.recorded other
  have calls : (manager.poll transport.recorded).2.transport.calls =
      manager.transport.calls ++ [.polled completions] :=
    congrArg Transport.Recorded.calls
      (manager.poll_sameBesidesTable transport.recorded).transport
  refine ⟨unstopped.numbered.poll transport.recorded, fun other otherScope => ?_, ?_,
    fun session lasting => ?_⟩
  · rw [entries, unstopped.others other otherScope]
    rfl
  · rw [Transport.Recorded.stops_of_calls calls, unstopped.stops]
    rfl
  · have unfailed (cause : Backend.Error) : ⟨session, .error cause⟩ ∉ completions :=
      lasting.2 completions cause (by simp [calls])
    rcases lasting.of_calls calls with before | ⟨request, outcome, now, -⟩
    · rcases unstopped.lasting session before with ⟨handle, current, own⟩
      rcases session?_eq_some_iff.mp current with ⟨entry, found, live, rfl⟩
      refine ⟨entry.handle, session?_eq_some_iff.mpr ⟨entry.settledBy completions, ?_, ?_,
        entry.handle_settledBy completions⟩, own⟩
      · rw [entries, found]
        rfl
      · rcases entry.settledBy_eq_or completions with same | ⟨-, ⟨_, result⟩, reported, rfl, same⟩
        · rw [same]
          exact live
        · rw [same]
          cases result with
          | ok _ => rfl
          | error cause => exact absurd (own ▸ reported) (unfailed cause)
    · cases List.mem_singleton.mp now

theorem closed (unstopped : manager.Unstopped scope) (transport : Transport σ) :
    let left := (manager.closeScope transport.recorded scope).2
    (∀ other, left.session? other = none) ∧
      ∀ session, left.transport.Lasting session → left.transport.stops = [session] := by
  intro left
  have calls := closeScope_calls transport manager scope
  refine ⟨fun other => ?_, fun session lasting => ?_⟩
  · rw [session?_closeScope]
    by_cases closed : other = scope
    · rw [if_pos closed]
    · rw [if_neg closed]
      simp [session?, unstopped.others other closed]
  · rcases lasting.of_calls calls with before | ⟨request, outcome, now, -⟩
    · rcases unstopped.lasting session before with ⟨handle, current, rfl⟩
      rw [Transport.Recorded.stops_of_calls calls, unstopped.stops, current]
      rfl
    · simp at now

end Unstopped

end Manager

namespace Replay.Setup

variable {σ κ : Type} {setup : Setup σ κ} {stage : Stage σ κ}

/-! ### What holds until a replay ends -/

section Keeps

variable {Holds : Integration σ → Prop}
  (opens : ∀ integration document, Holds integration →
    Holds (integration.documentOpened setup.transport setup.scope document).2)
  (polls : ∀ integration, Holds integration → Holds (integration.pollStarts setup.transport).2)
  (pauses : ∀ integration, Holds integration →
    Holds { integration with manager.transport := setup.pause integration.manager.transport })

include opens in
theorem openEach_keeps (documents : List String) (holds : Holds stage.integration) :
    Holds (setup.openEach documents stage).2.integration := by
  induction documents generalizing stage with
  | nil => exact holds
  | cons document rest ih =>
      have opened : Holds (setup.openDocument document stage).2.integration := opens _ _ holds
      rw [openEach]
      split
      next told =>
        rw [told] at opened
        exact ih opened
      next failed =>
        rw [failed] at opened
        exact opened

include polls pauses in
theorem settle_keeps (rounds : Nat) (holds : Holds stage.integration) :
    Holds (setup.settle rounds stage).2.integration := by
  induction rounds generalizing stage with
  | zero => exact holds
  | succ rounds ih =>
      have polled : Holds (setup.poll stage).2.integration := by
        rw [poll_integration]
        exact polls _ holds
      cases waits : isPending stage with
      | false =>
          rw [settle_of_settled waits]
          exact holds
      | true =>
          cases told : (setup.poll stage).1 with
          | error interruption =>
              rw [settle_of_untold waits told]
              exact polled
          | ok _ =>
              rw [settle_of_told waits told]
              refine ih ?_
              unfold rested
              dsimp only
              split
              · exact pauses _ polled
              · exact polled

include opens polls pauses in
/-- A replay closes its scope last, if it is not interrupted before. -/
theorem replay_keeps (rounds : Nat) (documents : List String) (holds : Holds stage.integration) :
    let ended := setup.replay rounds documents stage
    (ended.1 = .ok () ∧ ∃ before, Holds before ∧
      ended.2.integration = (before.scopeClosed setup.transport setup.scope).2) ∨
    ∃ interruption, ended.1 = .error interruption ∧ Holds ended.2.integration := by
  intro ended
  have opened := openEach_keeps opens documents holds
  rcases told : setup.openEach documents stage with ⟨interruption | _, after⟩
  · have same : ended = (.error interruption, after) := by simp only [ended, replay, told]
    rw [told] at opened
    exact .inr ⟨interruption, congrArg Prod.fst same, same ▸ opened⟩
  · rw [told] at opened
    have waited := settle_keeps polls pauses rounds opened
    rcases settled : setup.settle rounds after with ⟨interruption | _, final⟩
    · have same : ended = (.error interruption, final) := by simp only [ended, replay, told, settled]
      rw [settled] at waited
      exact .inr ⟨interruption, congrArg Prod.fst same, same ▸ waited⟩
    · have same : ended = (.ok (), setup.closeScope final) := by
        simp only [ended, replay, told, settled]
      rw [settled] at waited
      exact .inl ⟨congrArg Prod.fst same, final.integration, waited, same ▸ rfl⟩

end Keeps

/-! ### How a replay leaves its sessions -/

theorem unstopped_documentOpened {scope : Scope} {transport : Transport σ}
    {integration : Integration (Transport.Recorded σ)}
    (unstopped : integration.manager.Unstopped scope) (document : Document) :
    (integration.documentOpened transport.recorded scope document).2.manager.Unstopped scope := by
  have consulted : (integration.consult document).2.manager.Unstopped scope :=
    unstopped.of_same rfl rfl fun _ => rfl
  cases admitted : integration.gate.admits document with
  | false =>
      rw [Integration.documentOpened_of_declined transport.recorded integration scope admitted]
      exact consulted
  | true =>
      rcases Integration.documentOpened_of_admitted transport.recorded integration scope admitted
        with ⟨notes, same⟩
      rw [same]
      exact (consulted.ensureStarted transport).of_same rfl rfl fun _ => rfl

/--
A replay that reaches its end leaves no session live and has stopped the one whose start succeeded
and that did not fail. A replay that is interrupted, by a write that fails or because sessions are
starting still, has stopped nothing and leaves such a session live.
-/
theorem sessions_after_replay (configuration : Configuration) (mode : LaunchMode)
    (transport : Transport σ) (pause : σ → σ) (console : Console κ) (scope : Scope) (rounds : Nat)
    (documents : List String) (state : σ) (screen : κ) :
    let setup : Setup (Transport.Recorded σ) κ :=
      { transport := transport.recorded, pause := .pause pause, console, scope }
    let ended := setup.replay rounds documents
      { integration := .ofConfiguration configuration mode ⟨state, []⟩, console := screen }
    let left := ended.2.integration.manager
    (ended.1 = .ok () → (∀ other, left.session? other = none) ∧
      ∀ session, left.transport.Lasting session → left.transport.stops = [session]) ∧
    ∀ interruption, ended.1 = .error interruption → left.transport.stops = [] ∧
      ∀ session, left.transport.Lasting session →
        ∃ handle, left.session? scope = some handle ∧ handle.id = session := by
  intro setup ended left
  let start : Integration (Transport.Recorded σ) :=
    .ofConfiguration configuration mode ⟨state, []⟩
  have unstopped : start.manager.Unstopped scope := by
    refine ⟨.fresh _ _ _, fun _ _ => rfl, rfl, ?_⟩
    rintro session ⟨⟨request, outcome, called, -⟩, -⟩
    cases called
  have kept := @replay_keeps _ _ setup { integration := start, console := screen }
    (fun integration => integration.manager.Unstopped scope)
    (fun integration document unstopped => unstopped_documentOpened unstopped document)
    (fun integration unstopped => unstopped.poll transport)
    (fun integration unstopped => unstopped.of_same rfl rfl fun _ => rfl) rounds documents unstopped
  rcases kept with ⟨finished, before, unstopped, closed⟩ | ⟨interruption, interrupted, unstopped⟩
  · refine ⟨fun _ => ?_, fun interruption interrupted => ?_⟩
    · have same : left = (before.manager.closeScope transport.recorded scope).2 :=
        congrArg Integration.manager closed
      rw [same]
      exact unstopped.closed transport
    · cases finished.symm.trans interrupted
  · refine ⟨fun finished => ?_, fun _ _ => ⟨unstopped.stops, unstopped.lasting⟩⟩
    cases finished.symm.trans interrupted

/-- The first write fails after its document brought up a session, which is left live. -/
example :
    let setup : Setup (Transport.Recorded Unit) Unit :=
      { transport := Transport.rehearsal.recorded
        pause := id
        console := ⟨fun _ _ screen => (.error "broken pipe", screen)⟩
        scope := "workspace" }
    let ended := setup.replay 1 ["pom.xml"]
      { integration := .ofConfiguration .vulnerabilities .run ⟨(), []⟩, console := () }
    ended.1 = .error (.unwritten "broken pipe") ∧
      (ended.2.integration.manager.session? "workspace").map Handle.id = some 1 ∧
      ended.2.integration.manager.transport.stops = [] := by
  decide

end Replay.Setup

end EditorSession
