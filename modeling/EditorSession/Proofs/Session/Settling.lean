import EditorSession.Proofs.Session.Table

/-!
# Settling pending starts

A completion names a session by its number alone, so the manager has to find the scope that the
session is bound to. With the sessions `Numbered` that scope is the one its handle names, and the
lookup by scope that follows cannot fail: `settle_cases` has no case for a stale handle.

`entry?_settleAll` gives the table after any batch of completions in closed form: the first
completion for a session that is starting decides, and nothing else has an effect.
-/

namespace EditorSession

open Session (Handle Entry Progress State)

namespace Session

/-- What is reported of a pending start that ended. -/
def Handle.report (handle : Handle) (launch : LaunchSpecification) :
    Except Backend.Error Unit → Except Session.Error Handle
  | .ok _ => .ok handle
  | .error cause => .error
      (.startFailed launch.integration handle.scope launch.executable cause)

/-- What a completion for the session of an entry is answered with. -/
def Entry.answer (entry : Entry) (launch : LaunchSpecification)
    (result : Except Backend.Error Unit) : Except Session.Error Handle :=
  if entry.progress = .starting then entry.handle.report launch result
  else .error (.settledBefore entry.handle.id entry.progress (.ofResult result))

/-- The entry of a session after a batch of completions: the first one for it counts. -/
def Entry.settledBy (completions : List Completion) (entry : Entry) : Entry :=
  if entry.progress = .starting then
    match completions.find? fun completion => completion.session = entry.handle.id with
    | some completion => { entry with progress := .ofResult completion.result }
    | none => entry
  else entry

namespace Entry

@[simp]
theorem handle_settledBy (completions : List Completion) (entry : Entry) :
    (entry.settledBy completions).handle = entry.handle := by
  unfold settledBy
  split
  · split <;> rfl
  · rfl

@[simp]
theorem settledBy_nil (entry : Entry) : entry.settledBy [] = entry := by
  simp [settledBy]

theorem settledBy_of_settled {entry : Entry} (completions : List Completion)
    (settled : entry.progress ≠ .starting) : entry.settledBy completions = entry := by
  simp [settledBy, settled]

theorem settledBy_cons_of_other {entry : Entry} {completion : Completion}
    {rest : List Completion} (other : completion.session ≠ entry.handle.id) :
    entry.settledBy (completion :: rest) = entry.settledBy rest := by
  simp [settledBy, List.find?_cons_of_neg, other]

theorem settledBy_cons_of_starting {entry : Entry} {completion : Completion}
    {rest : List Completion} (starting : entry.progress = .starting)
    (own : completion.session = entry.handle.id) :
    entry.settledBy (completion :: rest) =
      { entry with progress := .ofResult completion.result } := by
  simp [settledBy, starting, own]

theorem settledBy_of_absent {entry : Entry} {completions : List Completion}
    (absent : ∀ completion ∈ completions, completion.session ≠ entry.handle.id) :
    entry.settledBy completions = entry := by
  have none : completions.find? (fun completion => completion.session = entry.handle.id) = none :=
    List.find?_eq_none.mpr (by simpa using absent)
  simp [settledBy, none]

/-- In a batch that reports no session twice, any completion for a session counts. -/
theorem settledBy_of_mem {entry : Entry} {completions : List Completion} {completion : Completion}
    (distinct : (completions.map Completion.session).Nodup)
    (completionMem : completion ∈ completions) (starting : entry.progress = .starting)
    (own : completion.session = entry.handle.id) :
    entry.settledBy completions = { entry with progress := .ofResult completion.result } := by
  have present : (completions.find? fun completion =>
      completion.session = entry.handle.id).isSome :=
    List.find?_isSome.mpr ⟨completion, completionMem, by simpa using own⟩
  rcases Option.isSome_iff_exists.mp present with ⟨first, located⟩
  have firstOwn : first.session = entry.handle.id := by simpa using List.find?_some located
  have same : first = completion := List.inj_on_of_nodup_map distinct
    (List.mem_of_find?_eq_some located) completionMem (firstOwn.trans own.symm)
  simp [settledBy, starting, located, same]

/-- Settling a batch is settling its first completion and then the rest. -/
theorem settledBy_cons (entry : Entry) (completion : Completion) (rest : List Completion) :
    entry.settledBy (completion :: rest) = (entry.settledBy [completion]).settledBy rest := by
  by_cases starting : entry.progress = .starting
  · by_cases own : completion.session = entry.handle.id
    · rw [settledBy_cons_of_starting starting own, settledBy_cons_of_starting starting own]
      exact (settledBy_of_settled rest (Progress.ofResult_ne_starting _)).symm
    · rw [settledBy_cons_of_other own, settledBy_cons_of_other own, settledBy_nil]
  · simp only [settledBy_of_settled _ starting]

/-- A session leaves the progress it had only by a completion that names it. -/
theorem settledBy_eq_or (completions : List Completion) (entry : Entry) :
    entry.settledBy completions = entry ∨
      entry.progress = .starting ∧ ∃ completion ∈ completions,
        completion.session = entry.handle.id ∧
          entry.settledBy completions =
            { entry with progress := .ofResult completion.result } := by
  by_cases starting : entry.progress = .starting
  · cases found : completions.find? fun completion => completion.session = entry.handle.id with
    | none =>
        left
        simp only [settledBy, starting, ↓reduceIte, found]
    | some completion =>
        right
        refine ⟨starting, completion, List.mem_of_find?_eq_some found, ?_, ?_⟩
        · simpa using List.find?_some found
        · simp only [settledBy, starting, ↓reduceIte, found]
  · left
    exact settledBy_of_settled completions starting

/-- What is live after a batch was live before it. -/
theorem isLive_of_settledBy {completions : List Completion} {entry : Entry}
    (live : (entry.settledBy completions).progress.isLive = true) :
    entry.progress.isLive = true := by
  rcases entry.settledBy_eq_or completions with kept | ⟨starting, _⟩
  · exact kept ▸ live
  · rw [starting]
    rfl

end Entry

end Session

namespace Manager

variable {σ : Type} {manager : Manager σ}

/-- Sessions are bound to the scopes that their handles name, under numbers of their own. -/
structure Numbered (manager : Manager σ) : Prop where
  named : ∀ {scope entry}, manager.entry? scope = some entry → entry.handle.scope = scope
  issued : ∀ {scope entry}, manager.entry? scope = some entry →
    entry.handle.id ≤ manager.last
  apart : ∀ {scope other entry entry'}, manager.entry? scope = some entry →
    manager.entry? other = some entry' → entry.handle.id = entry'.handle.id → scope = other

/-- Entries with the number of one session are the same. -/
theorem Numbered.entry_eq (numbered : manager.Numbered) {scope other : Scope}
    {entry entry' : Entry} (found : manager.entry? scope = some entry)
    (found' : manager.entry? other = some entry') (sameId : entry.handle.id = entry'.handle.id) :
    entry = entry' := by
  have sameScope := numbered.apart found found' sameId
  subst sameScope
  exact entry?_unique found found'

/-! ### Lookups by number -/

theorem handleOf?_eq_none_iff {session : SessionId} :
    manager.handleOf? session = none ↔
      ∀ scope entry, manager.entry? scope = some entry → entry.handle.id ≠ session := by
  simp only [handleOf?, Option.map_eq_none_iff, List.find?_eq_none, beq_iff_eq,
    Keyed.mem_values_iff]
  constructor
  · intro absent scope entry found
    exact absent entry ⟨scope, found⟩
  · intro absent entry bound
    exact bound.elim fun scope found => absent scope entry found

/-- A session that is bound to a scope is found by its number. -/
theorem Numbered.handleOf?_eq (numbered : manager.Numbered) {scope : Scope} {entry : Entry}
    (found : manager.entry? scope = some entry) :
    manager.handleOf? entry.handle.id = some entry.handle := by
  cases located : manager.handleOf? entry.handle.id with
  | none => exact absurd rfl (handleOf?_eq_none_iff.mp located scope entry found)
  | some handle =>
      simp only [handleOf?, Option.map_eq_some_iff] at located
      rcases located with ⟨other, otherFound, rfl⟩
      have sameId : other.handle.id = entry.handle.id := by
        simpa using List.find?_some otherFound
      rcases Keyed.mem_values_iff.mp (List.mem_of_find?_eq_some otherFound) with
        ⟨otherScope, otherEntry⟩
      rw [numbered.entry_eq otherEntry found sameId]

theorem awaited_of_current {entry : Entry} (requested : Progress)
    (found : manager.entry? entry.handle.scope = some entry) :
    manager.awaited entry.handle requested =
      if entry.progress = .starting then .ok ()
      else .error (.settledBefore entry.handle.id entry.progress requested) := by
  simp [awaited, found]

/-- Only the current session of a scope that is starting is awaited. -/
theorem awaited_eq_ok_iff {handle : Handle} {requested : Progress} :
    manager.awaited handle requested = .ok () ↔
      ∃ entry, manager.entry? handle.scope = some entry ∧ entry.handle.id = handle.id ∧
        entry.progress = .starting := by
  cases found : manager.entry? handle.scope with
  | none => simp [awaited, found]
  | some entry =>
      by_cases current : entry.handle.id = handle.id
      · by_cases starting : entry.progress = .starting
        · simp [awaited, found, current, starting]
        · simp [awaited, found, current, starting]
      · simp [awaited, found, current]

/-! ### Marks -/

theorem markRunning_cases (manager : Manager σ) (handle : Handle) :
    (manager.awaited handle .running = .ok () ∧
      manager.markRunning handle = (.ok (),
        (manager.setProgress handle.scope .running).note (.running handle.scope handle.id))) ∨
    ∃ error, manager.awaited handle .running = .error error ∧
      manager.markRunning handle = (.error error, manager) := by
  cases awaiting : manager.awaited handle .running with
  | error error => exact Or.inr ⟨error, rfl, by simp [markRunning, awaiting]⟩
  | ok _ => exact Or.inl ⟨rfl, by simp [markRunning, awaiting]⟩

theorem markFailed_cases (manager : Manager σ) (handle : Handle) (cause : Backend.Error) :
    (manager.awaited handle .failed = .ok () ∧
      manager.markFailed handle cause =
        (.startFailed manager.launch.integration handle.scope manager.launch.executable cause,
          (manager.setProgress handle.scope .failed).note
            (.handshakeFailed handle.scope handle.id cause))) ∨
    ∃ error, manager.awaited handle .failed = .error error ∧
      manager.markFailed handle cause = (error, manager) := by
  cases awaiting : manager.awaited handle .failed with
  | error error => exact Or.inr ⟨error, rfl, by simp [markFailed, awaiting]⟩
  | ok _ => exact Or.inl ⟨rfl, by simp [markFailed, awaiting]⟩

/-! ### Completions -/

/--
A completion is dropped, settles the session it names, or comes too late for it. The handle that a
number is resolved to is never stale.
-/
theorem settle_cases (numbered : manager.Numbered) (completion : Completion) :
    ((∀ scope entry, manager.entry? scope = some entry →
        entry.handle.id ≠ completion.session) ∧
      manager.settle completion =
        (none, manager.note (.completionDropped completion.session))) ∨
    ∃ entry, manager.entry? entry.handle.scope = some entry ∧
      entry.handle.id = completion.session ∧
      ((entry.progress = .starting ∧ ∃ event,
          (∀ session, event ≠ .completionDropped session) ∧
          manager.settle completion =
            (some (entry.handle.report manager.launch completion.result),
              (manager.setProgress entry.handle.scope (.ofResult completion.result)).note
                event)) ∨
        (entry.progress ≠ .starting ∧
          manager.settle completion =
            (some (.error (.settledBefore entry.handle.id entry.progress
              (.ofResult completion.result))), manager))) := by
  cases located : manager.handleOf? completion.session with
  | none =>
      left
      exact ⟨handleOf?_eq_none_iff.mp located, by simp [settle, located]⟩
  | some handle =>
      right
      have bound : ¬∀ scope entry, manager.entry? scope = some entry →
          entry.handle.id ≠ completion.session := by
        intro absent
        simp [handleOf?_eq_none_iff.mpr absent] at located
      simp only [not_forall, ne_eq, not_not, exists_prop] at bound
      rcases bound with ⟨scope, entry, found, sameId⟩
      have named := numbered.named found
      have resolved := numbered.handleOf?_eq found
      rw [sameId, located] at resolved
      rw [← named] at found
      refine ⟨entry, found, sameId, ?_⟩
      by_cases starting : entry.progress = .starting
      · left
        refine ⟨starting, ?_⟩
        cases result : completion.result with
        | ok _ =>
            refine ⟨.running entry.handle.scope entry.handle.id, by simp, ?_⟩
            simp [settle, located, Option.some.inj resolved, result, markRunning,
              awaited_of_current _ found, starting, Handle.report, Progress.ofResult,
              Except.map]
        | error cause =>
            refine ⟨.handshakeFailed entry.handle.scope entry.handle.id cause, by simp, ?_⟩
            simp [settle, located, Option.some.inj resolved, result, markFailed,
              awaited_of_current _ found, starting, Handle.report, Progress.ofResult]
      · right
        refine ⟨starting, ?_⟩
        cases result : completion.result with
        | ok _ =>
            simp [settle, located, Option.some.inj resolved, result, markRunning,
              awaited_of_current _ found, starting, Progress.ofResult, Except.map]
        | error cause =>
            simp [settle, located, Option.some.inj resolved, result, markFailed,
              awaited_of_current _ found, starting, Progress.ofResult]

theorem settle_of_unbound {completion : Completion}
    (unbound : ∀ scope entry, manager.entry? scope = some entry →
      entry.handle.id ≠ completion.session) :
    manager.settle completion = (none, manager.note (.completionDropped completion.session)) := by
  have located : manager.handleOf? completion.session = none := handleOf?_eq_none_iff.mpr unbound
  rw [settle, located]

theorem settle_of_bound (numbered : manager.Numbered) {scope : Scope} {entry : Entry}
    {completion : Completion} (found : manager.entry? scope = some entry)
    (named : entry.handle.id = completion.session) :
    (manager.settle completion).1 = some (entry.answer manager.launch completion.result) := by
  rcases settle_cases numbered completion with ⟨absent, settled⟩ |
    ⟨other, otherFound, sameId, ⟨starting, event, _, settled⟩ | ⟨tooLate, settled⟩⟩
  · exact absurd named (absent scope entry found)
  · cases numbered.entry_eq found otherFound (named.trans sameId.symm)
    rw [settled, Entry.answer, if_pos starting]
  · cases numbered.entry_eq found otherFound (named.trans sameId.symm)
    rw [settled, Entry.answer, if_neg tooLate]

theorem entry?_settle (numbered : manager.Numbered) (completion : Completion) (scope : Scope) :
    entry? (manager.settle completion).2 scope =
      (manager.entry? scope).map (Entry.settledBy [completion]) := by
  have unaffected : (∀ entry, manager.entry? scope = some entry →
      entry.settledBy [completion] = entry) →
        manager.entry? scope = (manager.entry? scope).map (Entry.settledBy [completion]) := by
    intro kept
    cases found : manager.entry? scope with
    | none => rfl
    | some entry => simp [kept entry found]
  rcases settle_cases numbered completion with ⟨absent, settled⟩ |
    ⟨entry, found, sameId, ⟨starting, event, _, settled⟩ | ⟨tooLate, settled⟩⟩
  · rw [settled]
    apply unaffected
    intro entry found
    rw [Entry.settledBy_cons_of_other (absent scope entry found).symm, Entry.settledBy_nil]
  · rw [settled, entry?_note, entry?_setProgress]
    by_cases same : scope = entry.handle.scope
    · subst same
      simp [found, Entry.settledBy_cons_of_starting starting sameId.symm]
    · rw [if_neg same]
      apply unaffected
      intro other otherFound
      have otherId : completion.session ≠ other.handle.id := by
        intro sameOther
        exact same (numbered.apart otherFound found (by rw [sameId, sameOther]))
      rw [Entry.settledBy_cons_of_other otherId, Entry.settledBy_nil]
  · rw [settled]
    apply unaffected
    intro other otherFound
    by_cases sameOther : completion.session = other.handle.id
    · rw [numbered.entry_eq otherFound found (by rw [sameId, sameOther])]
      exact Entry.settledBy_of_settled _ tooLate
    · rw [Entry.settledBy_cons_of_other sameOther, Entry.settledBy_nil]

/-- Nothing but the table and the journal differs. -/
structure SameBesidesTable (before after : Manager σ) : Prop where
  launch : after.launch = before.launch
  capabilities : after.capabilities = before.capabilities
  transport : after.transport = before.transport
  last : after.last = before.last

theorem SameBesidesTable.trans {before middle after : Manager σ}
    (first : before.SameBesidesTable middle) (second : middle.SameBesidesTable after) :
    before.SameBesidesTable after :=
  ⟨second.launch.trans first.launch, second.capabilities.trans first.capabilities,
    second.transport.trans first.transport, second.last.trans first.last⟩

theorem markRunning_sameBesidesTable (manager : Manager σ) (handle : Handle) :
    manager.SameBesidesTable (manager.markRunning handle).2 := by
  rcases manager.markRunning_cases handle with ⟨_, marked⟩ | ⟨error, _, marked⟩ <;>
    rw [marked] <;> exact ⟨rfl, rfl, rfl, rfl⟩

theorem markFailed_sameBesidesTable (manager : Manager σ) (handle : Handle)
    (cause : Backend.Error) : manager.SameBesidesTable (manager.markFailed handle cause).2 := by
  rcases manager.markFailed_cases handle cause with ⟨_, marked⟩ | ⟨error, _, marked⟩ <;>
    rw [marked] <;> exact ⟨rfl, rfl, rfl, rfl⟩

theorem settle_sameBesidesTable (manager : Manager σ) (completion : Completion) :
    manager.SameBesidesTable (manager.settle completion).2 := by
  unfold settle
  cases manager.handleOf? completion.session with
  | none => exact ⟨rfl, rfl, rfl, rfl⟩
  | some handle =>
      cases completion.result with
      | ok _ => exact manager.markRunning_sameBesidesTable handle
      | error cause => exact manager.markFailed_sameBesidesTable handle cause

theorem settleAll_sameBesidesTable (manager : Manager σ) (completions : List Completion) :
    manager.SameBesidesTable (manager.settleAll completions).2 := by
  induction completions generalizing manager with
  | nil => exact ⟨rfl, rfl, rfl, rfl⟩
  | cons completion rest ih =>
      exact (manager.settle_sameBesidesTable completion).trans (ih _)

/-- Changing the progress of sessions keeps them numbered. -/
theorem Numbered.of_map {after : Manager σ} (numbered : manager.Numbered)
    (change : Scope → Entry → Entry)
    (kept : ∀ scope entry, (change scope entry).handle = entry.handle)
    (last : after.last = manager.last)
    (changed : ∀ scope, after.entry? scope = (manager.entry? scope).map (change scope)) :
    after.Numbered := by
  have origin : ∀ {scope entry}, after.entry? scope = some entry →
      ∃ before, manager.entry? scope = some before ∧ before.handle = entry.handle := by
    intro scope entry found
    rw [changed, Option.map_eq_some_iff] at found
    rcases found with ⟨before, beforeFound, rfl⟩
    exact ⟨before, beforeFound, (kept scope before).symm⟩
  constructor
  · intro scope entry found
    rcases origin found with ⟨before, beforeFound, same⟩
    exact same ▸ numbered.named beforeFound
  · intro scope entry found
    rcases origin found with ⟨before, beforeFound, same⟩
    rw [last, ← same]
    exact numbered.issued beforeFound
  · intro scope other entry entry' found found' sameId
    rcases origin found with ⟨before, beforeFound, same⟩
    rcases origin found' with ⟨before', beforeFound', same'⟩
    exact numbered.apart beforeFound beforeFound' (by rw [same, same', sameId])

/-- A table that differs in the journal alone is numbered too. -/
theorem Numbered.of_same {after : Manager σ} (numbered : manager.Numbered)
    (last : after.last = manager.last)
    (same : ∀ scope, after.entry? scope = manager.entry? scope) : after.Numbered :=
  numbered.of_map (fun _ => id) (fun _ _ => rfl) last fun scope => by rw [same, Option.map_id, id]

theorem Numbered.setProgress (numbered : manager.Numbered) (scope : Scope)
    (progress : Progress) : (manager.setProgress scope progress).Numbered := by
  apply numbered.of_map
    fun other entry => if other = scope then { entry with progress } else entry
  · intro other entry
    split <;> rfl
  · rfl
  · intro other
    rw [entry?_setProgress]
    by_cases same : other = scope
    · subst same
      simp
    · simp [same]

theorem Numbered.markRunning (numbered : manager.Numbered) (handle : Handle) :
    (manager.markRunning handle).2.Numbered := by
  rcases manager.markRunning_cases handle with ⟨_, marked⟩ | ⟨error, _, marked⟩
  · rw [marked]
    exact (numbered.setProgress handle.scope .running).of_same rfl fun _ => rfl
  · rw [marked]
    exact numbered

theorem Numbered.markFailed (numbered : manager.Numbered) (handle : Handle)
    (cause : Backend.Error) : (manager.markFailed handle cause).2.Numbered := by
  rcases manager.markFailed_cases handle cause with ⟨_, marked⟩ | ⟨error, _, marked⟩
  · rw [marked]
    exact (numbered.setProgress handle.scope .failed).of_same rfl fun _ => rfl
  · rw [marked]
    exact numbered

theorem Numbered.settle (numbered : manager.Numbered) (completion : Completion) :
    (manager.settle completion).2.Numbered :=
  numbered.of_map _ (fun _ => Entry.handle_settledBy [completion])
    (manager.settle_sameBesidesTable completion).last (entry?_settle numbered completion)

/-- The table after a batch of completions. -/
theorem entry?_settleAll (numbered : manager.Numbered) (completions : List Completion)
    (scope : Scope) :
    entry? (manager.settleAll completions).2 scope =
      (manager.entry? scope).map (Entry.settledBy completions) := by
  induction completions generalizing manager with
  | nil => cases found : manager.entry? scope <;> simp [settleAll, found]
  | cons completion rest ih =>
      have first := entry?_settle numbered completion scope
      have later := ih (numbered.settle completion)
      rw [first, Option.map_map] at later
      refine later.trans (congrArg (Option.map · _) (funext fun entry => ?_))
      exact (Entry.settledBy_cons entry completion rest).symm

theorem Numbered.settleAll (numbered : manager.Numbered) (completions : List Completion) :
    (manager.settleAll completions).2.Numbered :=
  numbered.of_map _ (fun _ => Entry.handle_settledBy completions)
    (manager.settleAll_sameBesidesTable completions).last (entry?_settleAll numbered completions)

end Manager

end EditorSession
