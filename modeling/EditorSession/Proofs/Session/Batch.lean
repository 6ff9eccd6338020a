import EditorSession.Proofs.Session.Lifecycle
import Mathlib.Data.List.ReduceOption

/-!
# Batches of completions

What a poll makes of all that a transport reports at once. Each completion is taken by the manager
that the earlier ones of its batch left (`settleAll_answers`), so the table of sessions determines
every answer: `poll_answers_batch` gives it in closed form. Where a batch names no session twice, a
completion is answered as if it were alone (`settleAll_of_distinct`), and the order of the batch is
that of the answers and nothing else.
-/

namespace EditorSession

open Session (Handle Entry Progress HostOperation)

/-- Collections with the same keys in the same order, and the same value for each key, are equal. -/
theorem Keyed.ext_keys {κ α : Type} [DecidableEq κ] {first second : Keyed κ α}
    (keys : first.keys = second.keys) (values : ∀ key, first.get? key = second.get? key) :
    first = second := by
  rcases first with ⟨entries, distinct⟩
  rcases second with ⟨entries', distinct'⟩
  have same : entries = entries' := by
    apply List.ext_getElem
    · simpa [Keyed.keys] using congrArg List.length keys
    · intro position bound bound'
      have sameKey : entries[position].1 = entries'[position].1 := by
        have located := congrArg (·[position]?) keys
        simpa [Keyed.keys, bound, bound'] using located
      have found : (⟨entries, distinct⟩ : Keyed κ α).get? entries[position].1 =
          some entries[position].2 := get?_eq_some_iff.mpr (List.getElem_mem bound)
      have found' : (⟨entries', distinct'⟩ : Keyed κ α).get? entries'[position].1 =
          some entries'[position].2 := get?_eq_some_iff.mpr (List.getElem_mem bound')
      rw [values, sameKey, found'] at found
      exact Prod.ext sameKey (Option.some.inj found).symm
  subst same
  rfl

/-- Changing a value leaves the keys in their places. -/
@[simp]
theorem Keyed.keys_modify {κ α : Type} [DecidableEq κ] (keyed : Keyed κ α) (key : κ)
    (change : α → α) : (keyed.modify key change).keys = keyed.keys := by
  simp only [Keyed.keys, Keyed.modify, List.map_map]
  apply List.map_congr_left
  intro entry _
  by_cases same : entry.1 = key <;> simp [same]

/-- The order of a batch that reports no session twice does not matter to any session. -/
theorem Session.Entry.settledBy_perm (entry : Entry) {first second : List Completion}
    (perm : first.Perm second) (distinct : (first.map Completion.session).Nodup) :
    entry.settledBy first = entry.settledBy second := by
  have distinct' : (second.map Completion.session).Nodup :=
    (perm.map Completion.session).nodup_iff.mp distinct
  by_cases starting : entry.progress = .starting
  · by_cases reported : ∃ completion ∈ first, completion.session = entry.handle.id
    · rcases reported with ⟨completion, completionMem, own⟩
      rw [settledBy_of_mem distinct completionMem starting own,
        settledBy_of_mem distinct' (perm.mem_iff.mp completionMem) starting own]
    · simp only [not_exists, not_and] at reported
      rw [settledBy_of_absent reported, settledBy_of_absent fun completion completionMem =>
        reported completion (perm.mem_iff.mpr completionMem)]
  · rw [settledBy_of_settled first starting, settledBy_of_settled second starting]

theorem Session.Entry.answer_ne_stale (entry : Entry) (launch : LaunchSpecification)
    (result : Except Backend.Error Unit) (scope : Scope) (session : SessionId) :
    entry.answer launch result ≠ .error (.stale scope session) := by
  unfold answer
  split
  · cases result <;> simp [Handle.report]
  · simp

namespace Manager

variable {σ : Type} {manager : Manager σ}

/-! ### One completion after the other -/

theorem settleAll_cons (manager : Manager σ) (first : Completion) (rest : List Completion) :
    manager.settleAll (first :: rest) =
      ((manager.settle first).1.toList ++ ((manager.settle first).2.settleAll rest).1,
        ((manager.settle first).2.settleAll rest).2) := rfl

/-- Each completion is taken by the manager that the ones before it left. -/
theorem settleAll_answers (manager : Manager σ) (completions : List Completion) :
    ∃ answers : List (Option (Except Session.Error Handle)),
      answers.length = completions.length ∧
        (manager.settleAll completions).1 = answers.reduceOption ∧
        ∀ earlier completion later, completions = earlier ++ completion :: later →
          answers[earlier.length]? =
            some ((manager.settleAll earlier).2.settle completion).1 := by
  induction completions generalizing manager with
  | nil => exact ⟨[], rfl, rfl, by simp⟩
  | cons first rest ih =>
      rcases ih (manager.settle first).2 with ⟨answers, length, results, each⟩
      refine ⟨(manager.settle first).1 :: answers, by simp [length], ?_, ?_⟩
      · rw [settleAll_cons, results]
        cases (manager.settle first).1 <;> rfl
      · intro earlier completion later split
        cases earlier with
        | nil =>
            cases split
            rfl
        | cons head earlier =>
            rw [List.cons_append, List.cons.injEq] at split
            rcases split with ⟨rfl, split⟩
            rw [List.length_cons, List.getElem?_cons_succ, each earlier completion later split]
            rfl

/-- The handle that a number is resolved to is that of the session which is bound to its scope. -/
theorem stale_not_mem_settleAll (numbered : manager.Numbered) (completions : List Completion)
    (scope : Scope) (session : SessionId) :
    .error (.stale scope session) ∉ (manager.settleAll completions).1 := by
  induction completions generalizing manager with
  | nil => exact List.not_mem_nil
  | cons first rest ih =>
      rw [settleAll_cons, List.mem_append, Option.mem_toList]
      rintro (answered | later)
      · by_cases bound : ∃ scope entry, manager.entry? scope = some entry ∧
            entry.handle.id = first.session
        · rcases bound with ⟨other, entry, found, named⟩
          rw [settle_of_bound numbered found named] at answered
          exact entry.answer_ne_stale _ _ scope session (Option.some.inj answered)
        · simp only [not_exists, not_and] at bound
          rw [settle_of_unbound bound] at answered
          cases answered
      · exact ih (numbered.settle first) later

/-! ### Behind earlier completions -/

section Behind

variable (numbered : manager.Numbered) (earlier : List Completion)
  {completion : Completion}

include numbered

/-- A completion for no session of a scope is dropped, whatever comes before it. -/
theorem settle_behind_of_unbound (unbound : ∀ scope entry, manager.entry? scope = some entry →
    entry.handle.id ≠ completion.session) :
    ((manager.settleAll earlier).2.settle completion).1 = none := by
  rw [settle_of_unbound]
  intro scope entry found
  rw [entry?_settleAll numbered, Option.map_eq_some_iff] at found
  rcases found with ⟨before, beforeFound, rfl⟩
  rw [Entry.handle_settledBy]
  exact unbound scope before beforeFound

/-- A completion for the session of a scope finds it as the earlier ones left it. -/
theorem settle_behind_of_bound {scope : Scope} {entry : Entry}
    (found : manager.entry? scope = some entry) (named : entry.handle.id = completion.session) :
    let progress := (entry.settledBy earlier).progress
    ((manager.settleAll earlier).2.settle completion).1 = some (
      if progress = .starting then
        match completion.result with
        | .ok _ => .ok entry.handle
        | .error cause => .error
            (.startFailed manager.launch.integration scope manager.launch.executable cause)
      else .error (.settledBefore completion.session progress (.ofResult completion.result))) := by
  intro progress
  have foundThen : entry? (manager.settleAll earlier).2 scope = some (entry.settledBy earlier) := by
    rw [entry?_settleAll numbered, found]
    rfl
  rw [settle_of_bound (numbered.settleAll earlier) foundThen
    (by rw [Entry.handle_settledBy, named]),
    (manager.settleAll_sameBesidesTable earlier).launch, Entry.answer,
    Entry.handle_settledBy, named]
  split
  · cases completion.result with
    | ok _ => rfl
    | error cause => rw [Handle.report, numbered.named found]
  · rfl

end Behind

/-! ### Scopes that have a session -/

theorem keys_settle (manager : Manager σ) (completion : Completion) :
    (manager.settle completion).2.sessions.keys = manager.sessions.keys := by
  have running : ∀ handle, (manager.markRunning handle).2.sessions.keys =
      manager.sessions.keys := by
    intro handle
    rcases manager.markRunning_cases handle with ⟨_, marked⟩ | ⟨error, _, marked⟩
    · rw [marked]
      exact Keyed.keys_modify ..
    · rw [marked]
  have failed : ∀ handle cause, (manager.markFailed handle cause).2.sessions.keys =
      manager.sessions.keys := by
    intro handle cause
    rcases manager.markFailed_cases handle cause with ⟨_, marked⟩ | ⟨error, _, marked⟩
    · rw [marked]
      exact Keyed.keys_modify ..
    · rw [marked]
  unfold settle
  cases manager.handleOf? completion.session with
  | none => rfl
  | some handle =>
      cases completion.result with
      | ok _ => exact running handle
      | error cause => exact failed handle cause

theorem keys_settleAll (manager : Manager σ) (completions : List Completion) :
    (manager.settleAll completions).2.sessions.keys = manager.sessions.keys := by
  induction completions generalizing manager with
  | nil => rfl
  | cons completion rest ih => exact (ih _).trans (manager.keys_settle completion)

/-! ### Batches that name no session twice -/

/-- A completion is answered in the same way before and after another session was settled. -/
theorem settle_after_other (numbered : manager.Numbered) {first second : Completion}
    (apart : first.session ≠ second.session) :
    ((manager.settle first).2.settle second).1 = (manager.settle second).1 := by
  by_cases bound : ∃ scope entry, manager.entry? scope = some entry ∧
      entry.handle.id = second.session
  · rcases bound with ⟨scope, entry, found, named⟩
    have kept : entry.settledBy [first] = entry.settledBy [] :=
      Entry.settledBy_cons_of_other (named ▸ apart)
    have behind := settle_behind_of_bound numbered [first] found named
    rw [kept] at behind
    exact behind.trans (settle_behind_of_bound numbered [] found named).symm
  · simp only [not_exists, not_and] at bound
    exact (settle_behind_of_unbound numbered [first] bound).trans
      (settle_behind_of_unbound numbered [] bound).symm

/-- In a batch that names no session twice, each completion is answered as if it were alone. -/
theorem settleAll_of_distinct (numbered : manager.Numbered) {completions : List Completion}
    (distinct : (completions.map Completion.session).Nodup) :
    (manager.settleAll completions).1 =
      completions.filterMap fun completion => (manager.settle completion).1 := by
  induction completions generalizing manager with
  | nil => rfl
  | cons first rest ih =>
      rw [List.map_cons, List.nodup_cons] at distinct
      have others : rest.filterMap (fun completion =>
          ((manager.settle first).2.settle completion).1) =
            rest.filterMap fun completion => (manager.settle completion).1 := by
        apply List.filterMap_congr
        intro completion completionMem
        apply settle_after_other numbered
        intro same
        exact distinct.1 (same ▸ List.mem_map_of_mem completionMem)
      rw [settleAll_cons, ih (numbered.settle first) distinct.2, others, List.filterMap_cons]
      cases (manager.settle first).1 <;> rfl

/-- The sessions that a batch leaves do not depend on its order if it names none of them twice. -/
theorem sessions_settleAll_perm {other : Manager σ} (numbered : manager.Numbered)
    (numbered' : other.Numbered) (sessions : manager.sessions = other.sessions)
    {first second : List Completion} (perm : first.Perm second)
    (distinct : (first.map Completion.session).Nodup) :
    (manager.settleAll first).2.sessions = (other.settleAll second).2.sessions := by
  apply Keyed.ext_keys
  · rw [keys_settleAll, keys_settleAll, sessions]
  · intro scope
    have settled : (manager.settleAll first).2.sessions.get? scope =
        (manager.sessions.get? scope).map (Entry.settledBy first) :=
      entry?_settleAll numbered first scope
    have settled' : (other.settleAll second).2.sessions.get? scope =
        (other.sessions.get? scope).map (Entry.settledBy second) :=
      entry?_settleAll numbered' second scope
    rw [settled, settled', sessions]
    exact congrArg (Option.map · _) (funext fun entry => entry.settledBy_perm perm distinct)

/-! ### Polls -/

/--
In any reachable state, a poll yields one result for each completion that names the session of some
scope, in the order of the batch, and none for any other. Behind the earlier completions of the
batch the session is what `Entry.settledBy` makes of it: if it is still starting, the completion
settles it and the result is its handle or the failure of its start; otherwise the result says how
the session stands, and nothing changes. No handle is ever stale. A batch that names no session
twice may come in any order: each completion keeps its result and the sessions become the same.
-/
theorem poll_answers_batch (transport : Transport σ) (launch : LaunchSpecification)
    (capabilities : Capability.Declaration) (state : σ) (operations : List HostOperation)
    (reporting : Transport σ) :
    let manager := (Manager.fresh launch capabilities state).performAll transport operations
    let completions := (reporting.poll manager.transport).1
    let results := (manager.poll reporting).1
    let after := (manager.poll reporting).2
    (∃ answers : List (Option (Except Session.Error Handle)),
      answers.length = completions.length ∧ results = answers.reduceOption ∧
        ∀ earlier completion later, completions = earlier ++ completion :: later →
          ((∀ scope entry, manager.entry? scope = some entry →
              entry.handle.id ≠ completion.session) →
            answers[earlier.length]? = some none) ∧
          ∀ scope entry, manager.entry? scope = some entry →
            entry.handle.id = completion.session →
              let progress := (entry.settledBy earlier).progress
              answers[earlier.length]? = some (some (
                if progress = .starting then
                  match completion.result with
                  | .ok _ => .ok entry.handle
                  | .error cause => .error
                      (.startFailed manager.launch.integration scope
                        manager.launch.executable cause)
                else .error
                  (.settledBefore completion.session progress (.ofResult completion.result))))) ∧
      (∀ scope, after.entry? scope = (manager.entry? scope).map (Entry.settledBy completions)) ∧
      (∀ scope session, .error (.stale scope session) ∉ results) ∧
      ∀ reordered : Transport σ, completions.Perm (reordered.poll manager.transport).1 →
        (completions.map Completion.session).Nodup →
          let answer (completion : Completion) := (manager.settle completion).1
          results = completions.filterMap answer ∧
            (manager.poll reordered).1 =
              (reordered.poll manager.transport).1.filterMap answer ∧
            (manager.poll reordered).2.sessions = after.sessions ∧
            (manager.poll reordered).2.last = after.last := by
  intro manager completions results after
  have numbered : manager.Numbered :=
    (Numbered.fresh launch capabilities state).performAll transport operations
  let called := manager.afterCall (reporting.poll manager.transport).2.1
    (reporting.poll manager.transport).2.2
  have calledNumbered : called.Numbered := numbered.afterCall _ _
  rcases called.settleAll_answers completions with ⟨answers, length, reduced, each⟩
  refine ⟨⟨answers, length, reduced, ?_⟩, entry?_poll numbered reporting, ?_, ?_⟩
  · intro earlier completion later split
    rw [each earlier completion later split]
    exact ⟨fun unbound => congrArg some (settle_behind_of_unbound calledNumbered earlier unbound),
      fun scope entry found named =>
        congrArg some (settle_behind_of_bound calledNumbered earlier found named)⟩
  · exact stale_not_mem_settleAll calledNumbered completions
  · intro reordered perm distinct answer
    have distinct' : ((reordered.poll manager.transport).1.map Completion.session).Nodup :=
      (perm.map Completion.session).nodup_iff.mp distinct
    let other := manager.afterCall (reordered.poll manager.transport).2.1
      (reordered.poll manager.transport).2.2
    have otherNumbered : other.Numbered := numbered.afterCall _ _
    have calledSessions : called.sessions = manager.sessions := rfl
    have otherSessions : other.sessions = manager.sessions := rfl
    refine ⟨?_, ?_, ?_, ?_⟩
    · refine (settleAll_of_distinct calledNumbered distinct).trans ?_
      exact List.filterMap_congr fun completion _ => (settle_congr calledSessions rfl completion).1
    · refine (settleAll_of_distinct otherNumbered distinct').trans ?_
      exact List.filterMap_congr fun completion _ => (settle_congr otherSessions rfl completion).1
    · exact (sessions_settleAll_perm calledNumbered otherNumbered
        (calledSessions.trans otherSessions.symm) perm distinct).symm
    · exact (manager.poll_sameBesidesTable reordered).last.trans
        (manager.poll_sameBesidesTable reporting).last.symm

end Manager

end EditorSession
