import EditorSession.Proofs.Session.Operation

/-!
# Completions that are awaited

A completion for a session that is bound to no scope is dropped, and one for a session that does
not start any more is answered with an error. A transport that reports every session once, and
only while it is starting, sees neither: `Manager.Awaits.settleAll` gives one result for each of
its completions.
-/

namespace EditorSession

open Session (Handle Entry Progress State Operation)

namespace Manager

variable {σ : Type} {manager : Manager σ}

/-! ### Dropped completions -/

/-- No completion was dropped so far. -/
def DropsNothing (manager : Manager σ) : Prop :=
  ∀ session, .session (.completionDropped session) ∉ manager.journal

theorem DropsNothing.noteAll (dropsNothing : manager.DropsNothing) {notes : List Event}
    (harmless : ∀ session, .session (.completionDropped session) ∉ notes) :
    (manager.noteAll notes).DropsNothing := by
  intro session sessionMem
  rcases List.mem_append.mp sessionMem with before | added
  · exact dropsNothing session before
  · exact harmless session added

theorem DropsNothing.note (dropsNothing : manager.DropsNothing) {event : Session.Event}
    (harmless : ∀ session, event ≠ .completionDropped session) :
    (manager.note event).DropsNothing := by
  apply dropsNothing.noteAll
  intro session sessionMem
  cases List.mem_singleton.mp sessionMem
  exact harmless session rfl

theorem DropsNothing.afterCall (dropsNothing : manager.DropsNothing) (state : σ)
    (events : List Backend.Event) : (manager.afterCall state events).DropsNothing := by
  have moved : { manager with transport := state }.DropsNothing := dropsNothing
  exact moved.noteAll (by simp)

theorem DropsNothing.started (dropsNothing : manager.DropsNothing) (scope : Scope)
    (answer : Except Backend.Error StartOutcome) (state : σ) (events : List Backend.Event) :
    (manager.started scope answer state events).2.DropsNothing := by
  have bound : { manager with
      last := manager.last + 1
      sessions := manager.sessions.put scope ⟨manager.nextHandle scope, .starting⟩
    }.DropsNothing := dropsNothing
  have enrolled : (manager.enrol scope).2.DropsNothing := bound.note (by simp)
  have asked := enrolled.afterCall state events
  have marked : ∀ progress, (((manager.enrol scope).2.afterCall state events).setProgress
      (manager.nextHandle scope).scope progress).DropsNothing := fun _ => asked
  rcases answer with cause | _ | _
  · exact (marked .failed).note (by simp)
  · exact (marked .running).note (by simp)
  · exact asked

theorem DropsNothing.closeScope (dropsNothing : manager.DropsNothing) (transport : Transport σ)
    (scope : Scope) : (manager.closeScope transport scope).2.DropsNothing := by
  have removed : (manager.remove scope).DropsNothing := dropsNothing
  rcases manager.closeScope_cases transport scope with ⟨absent, closed⟩ |
    ⟨entry, found, ⟨live, state, events, called, closed⟩ | ⟨failed, closed⟩⟩
  · rw [closed]
    exact dropsNothing
  · rw [closed]
    exact (removed.afterCall state events).note (by simp)
  · rw [closed]
    exact removed.note (by simp)

/-! ### Awaited completions -/

/-- The completions report sessions that are starting, each once. -/
structure Awaits (manager : Manager σ) (completions : List Completion) : Prop where
  distinct : (completions.map Completion.session).Nodup
  starting : ∀ completion ∈ completions, ∃ scope entry, manager.entry? scope = some entry ∧
    entry.handle.id = completion.session ∧ entry.progress = .starting

/-- The first of several awaited completions settles its session, and the others are awaited
still. -/
theorem Awaits.settle {completion : Completion} {rest : List Completion}
    (numbered : manager.Numbered) (awaits : manager.Awaits (completion :: rest)) :
    (∃ scope entry, manager.entry? scope = some entry ∧
      entry.handle.id = completion.session ∧ (manager.settle completion).1 =
        some (entry.handle.report manager.launch completion.result)) ∧
      (manager.DropsNothing → (manager.settle completion).2.DropsNothing) ∧
      (manager.settle completion).2.Awaits rest := by
  have distinct := List.nodup_cons.mp awaits.distinct
  have later : (manager.settle completion).2.Awaits rest := by
    refine ⟨distinct.2, ?_⟩
    intro other otherMem
    rcases awaits.starting other (by simp [otherMem]) with ⟨scope, entry, found, sameId, starting⟩
    have apart : completion.session ≠ entry.handle.id := by
      intro same
      apply distinct.1
      rw [same, sameId]
      exact List.mem_map_of_mem otherMem
    refine ⟨scope, entry, ?_, sameId, starting⟩
    rw [entry?_settle numbered, found, Option.map_some, Entry.settledBy_cons_of_other apart,
      Entry.settledBy_nil]
  rcases awaits.starting completion (by simp) with ⟨scope, entry, found, sameId, starting⟩
  rcases settle_cases numbered completion with ⟨absent, _⟩ |
    ⟨settled, settledFound, settledId, ⟨_, event, harmless, settling⟩ | ⟨tooLate, _⟩⟩
  · exact absurd sameId (absent scope entry found)
  · refine ⟨⟨_, settled, settledFound, settledId, by rw [settling]⟩, ?_, later⟩
    intro dropsNothing
    have marked : (manager.setProgress settled.handle.scope
        (.ofResult completion.result)).DropsNothing := dropsNothing
    rw [settling]
    exact marked.note harmless
  · have same := numbered.entry_eq found settledFound (sameId.trans settledId.symm)
    exact absurd (same ▸ starting) tooLate

/-- Each awaited completion yields one result, which is the handle or the failure to report. -/
theorem Awaits.settleAll {completions : List Completion} (numbered : manager.Numbered)
    (awaits : manager.Awaits completions) :
    List.Forall₂ (fun completion result => ∃ scope entry, manager.entry? scope = some entry ∧
        entry.handle.id = completion.session ∧
          result = entry.handle.report manager.launch completion.result)
      completions (manager.settleAll completions).1 ∧
      (manager.DropsNothing → (manager.settleAll completions).2.DropsNothing) := by
  induction completions generalizing manager with
  | nil => exact ⟨.nil, id⟩
  | cons completion rest ih =>
      rcases awaits.settle numbered with
        ⟨⟨scope, entry, found, sameId, reported⟩, dropsNothing, later⟩
      rcases ih (numbered.settle completion) later with ⟨reports, dropsNothingLater⟩
      refine ⟨?_, fun before => dropsNothingLater (dropsNothing before)⟩
      simp only [Manager.settleAll, reported, Option.toList_some, List.singleton_append]
      refine .cons ⟨scope, entry, found, sameId, rfl⟩ (reports.imp ?_)
      rintro other result ⟨otherScope, otherEntry, otherFound, otherId, rfl⟩
      rw [entry?_settle numbered, Option.map_eq_some_iff] at otherFound
      rcases otherFound with ⟨before, beforeFound, rfl⟩
      refine ⟨otherScope, before, beforeFound, ?_, ?_⟩
      · rw [← otherId, Entry.handle_settledBy]
      · rw [Entry.handle_settledBy, (manager.settle_sameBesidesTable completion).launch]

end Manager

end EditorSession
