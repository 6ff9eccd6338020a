import EditorSession.Proofs.Session.Renumbering

/-!
# The sessions of one scope by themselves

A manager that is asked about one scope alone goes through the same sessions of that scope as a
manager that is asked about other scopes in between, over a transport that treats every scope by
itself. Only the numbers differ: all scopes draw theirs from one counter, and completions are looked
up by number among the sessions of all scopes.

`Manager.Mirrors` relates the two managers. What the full one does for other scopes keeps it
(`Mirrors.ensureStarted_other`, `Mirrors.closeScope_other`), and what it does for the scope is done
by the other one too, with the same result up to the numbers.
-/

namespace EditorSession

open Session (Handle Entry Progress State)
open Transport (Call Report Conduct Agenda Renumbering sessionsOf startedSessions)

variable {scope other : Scope} {renumber : SessionId → SessionId}

open Session (renumberedResult concerns)

namespace Manager

/-- One manager has the sessions that another one has of one scope, and no others, under the numbers
that they get when no others are counted. The numbers are those of a run whose calls are given. -/
structure Mirrors (final : List Call) (scope : Scope) (renumber : SessionId → SessionId)
    (full own : Manager Agenda) : Prop where
  numbered : full.Numbered
  numberedOwn : own.Numbered
  launch : own.launch = full.launch
  capabilities : own.capabilities = full.capabilities
  counted : full.Counted
  countedOwn : own.Counted
  alone : own.last = (sessionsOf own.transport.calls scope).length
  sessions : sessionsOf own.transport.calls scope =
    (sessionsOf full.transport.calls scope).map renumber
  due : own.transport.due = full.transport.due.map (·.filter (·.scope = scope))
  calls : own.transport.calls.filter
      (Call.concerns scope ((sessionsOf final scope).map renumber)) =
    (full.transport.calls.filter (Call.concerns scope (sessionsOf final scope))).map
      (Call.renumbered renumber)
  homed : ∀ {other entry}, full.entry? other = some entry →
    entry.handle.id ∈ sessionsOf full.transport.calls other
  entry : own.entry? scope = (full.entry? scope).map (Entry.renumbered renumber)
  others : ∀ {other}, other ≠ scope → own.entry? other = none

variable {final : List Call} {full own : Manager Agenda}

/-- Tables that correspond, with nothing else changed. -/
theorem Mirrors.of_table (mirrors : full.Mirrors final scope renumber own)
    {full' own' : Manager Agenda} (same : full.SameBesidesTable full')
    (sameOwn : own.SameBesidesTable own') (numbered : full'.Numbered)
    (numberedOwn : own'.Numbered)
    (homed : ∀ {other entry}, full'.entry? other = some entry →
      entry.handle.id ∈ sessionsOf full.transport.calls other)
    (entry : own'.entry? scope = (full'.entry? scope).map (Entry.renumbered renumber))
    (others : ∀ {other}, other ≠ scope → own'.entry? other = none) :
    full'.Mirrors final scope renumber own' where
  numbered := numbered
  numberedOwn := numberedOwn
  launch := by rw [same.launch, sameOwn.launch, mirrors.launch]
  capabilities := by rw [same.capabilities, sameOwn.capabilities, mirrors.capabilities]
  counted := by rw [Counted, same.transport, same.last, mirrors.counted]
  countedOwn := by rw [Counted, sameOwn.transport, sameOwn.last, mirrors.countedOwn]
  alone := by rw [sameOwn.transport, sameOwn.last, mirrors.alone]
  sessions := by rw [same.transport, sameOwn.transport, mirrors.sessions]
  due := by rw [same.transport, sameOwn.transport, mirrors.due]
  calls := by rw [same.transport, sameOwn.transport, mirrors.calls]
  homed found := same.transport ▸ homed found
  entry := entry
  others := others

theorem Mirrors.noted (mirrors : full.Mirrors final scope renumber own) (notes : List Event) :
    (full.noteAll notes).Mirrors final scope renumber own :=
  mirrors.of_table ⟨rfl, rfl, rfl, rfl⟩ ⟨rfl, rfl, rfl, rfl⟩
    (mirrors.numbered.of_same rfl fun _ => rfl) mirrors.numberedOwn mirrors.homed mirrors.entry
    mirrors.others

theorem Mirrors.notedOwn (mirrors : full.Mirrors final scope renumber own) (notes : List Event) :
    full.Mirrors final scope renumber (own.noteAll notes) :=
  mirrors.of_table ⟨rfl, rfl, rfl, rfl⟩ ⟨rfl, rfl, rfl, rfl⟩ mirrors.numbered
    (mirrors.numberedOwn.of_same rfl fun _ => rfl) mirrors.homed mirrors.entry mirrors.others

/-! ### Starting -/

section Started

variable {started : Scope} {answer : Except Backend.Error StartOutcome}

theorem homed_answered (homed : ∀ {other entry}, full.entry? other = some entry →
      entry.handle.id ∈ sessionsOf full.transport.calls other) {other : Scope} {entry : Entry}
    (found : entry? (full.answered started answer).2 other = some entry) :
    entry.handle.id ∈ sessionsOf (full.answered started answer).2.transport.calls other := by
  rw [answered, started_transport, Transport.sessionsOf_started, nextRequest_scope]
  rw [answered, entry?_started] at found
  by_cases same : other = started
  · rw [if_pos same] at found
    cases found
    rw [if_pos same.symm]
    exact List.mem_append_right _ (List.mem_singleton_self _)
  · rw [if_neg same] at found
    rw [if_neg (Ne.symm same)]
    exact homed found

/-- A start of another scope takes a number, and changes nothing for the scope. -/
theorem Mirrors.answered_other (mirrors : full.Mirrors final scope renumber own)
    (otherScope : started ≠ scope) :
    (full.answered started answer).2.Mirrors final scope renumber own where
  numbered := mirrors.numbered.started started answer _ _
  numberedOwn := mirrors.numberedOwn
  launch := by rw [answered, started_launch, mirrors.launch]
  capabilities := by rw [answered, started_capabilities, mirrors.capabilities]
  counted := (full.answered_extends started answer).counted mirrors.counted
  countedOwn := mirrors.countedOwn
  alone := mirrors.alone
  sessions := by
    rw [answered, started_transport, Transport.sessionsOf_started, nextRequest_scope,
      if_neg otherScope, mirrors.sessions]
  due := by rw [answered, started_transport, mirrors.due]
  calls := by
    rw [answered, started_transport, List.filter_append, mirrors.calls]
    simp [Call.concerns, otherScope]
  homed := homed_answered mirrors.homed
  entry := by rw [answered, entry?_started, if_neg (Ne.symm otherScope), mirrors.entry]
  others := mirrors.others

/-- The next session of the scope is the next one of the manager that is asked about no other. -/
theorem Mirrors.answered_own (mirrors : full.Mirrors final scope renumber own)
    (renumbering : Renumbering final scope renumber)
    (extended : (full.answered scope answer).2.transport.calls <+: final) :
    own.nextHandle scope = (full.nextHandle scope).renumbered renumber ∧
      (own.answered scope answer).1 =
        renumberedResult renumber (full.answered scope answer).1 ∧
      (full.answered scope answer).2.Mirrors final scope renumber
        (own.answered scope answer).2 := by
  rw [answered, started_transport] at extended
  have next : renumber (full.last + 1) = own.last + 1 := by
    rw [mirrors.alone, mirrors.sessions, List.length_map]
    exact renumbering.next extended (nextRequest_scope full scope)
  have handle : own.nextHandle scope = (full.nextHandle scope).renumbered renumber := by
    simp only [nextHandle, Handle.renumbered, next, mirrors.capabilities]
  refine ⟨handle, ?_, ?_⟩
  · rw [answered, answered, started_result, started_result, handle, mirrors.launch]
    cases answer <;> rfl
  · refine ⟨mirrors.numbered.started scope answer _ _, mirrors.numberedOwn.started scope answer _ _,
      ?_, ?_, (full.answered_extends scope answer).counted mirrors.counted,
      (own.answered_extends scope answer).counted mirrors.countedOwn, ?_, ?_, ?_, ?_,
      homed_answered mirrors.homed, ?_, ?_⟩
    · rw [answered, answered, started_launch, started_launch, mirrors.launch]
    · rw [answered, answered, started_capabilities, started_capabilities, mirrors.capabilities]
    · rw [answered, started_transport, started_last, Transport.sessionsOf_started,
        nextRequest_scope, if_pos rfl, List.length_append, ← mirrors.alone,
        List.length_singleton]
    · rw [answered, answered, started_transport, started_transport, Transport.sessionsOf_started,
        Transport.sessionsOf_started, nextRequest_scope, nextRequest_scope, if_pos rfl, if_pos rfl,
        List.map_append, mirrors.sessions]
      simp [next]
    · rw [answered, answered, started_transport, started_transport, mirrors.due]
    · rw [answered, answered, started_transport, started_transport, List.filter_append,
        List.filter_append, List.map_append, mirrors.calls]
      have request : own.nextRequest scope =
          { full.nextRequest scope with session := renumber (full.nextRequest scope).session } := by
        simp [nextRequest, Manager.request, handle, Handle.renumbered, mirrors.launch]
      simp [Call.concerns, Call.renumbered, request]
    · rw [answered, answered, entry?_started, entry?_started, if_pos rfl, if_pos rfl, handle]
      rfl
    · intro other otherScope
      rw [answered, entry?_started, if_neg otherScope, mirrors.others otherScope]

end Started

/-- A scope is asked for in both managers, with the same result up to the number. -/
theorem Mirrors.ensureStarted_own (mirrors : full.Mirrors final scope renumber own)
    (renumbering : Renumbering final scope renumber) (conduct : Conduct)
    (extended : (full.ensureStarted conduct.transport scope).2.transport.calls <+: final) :
    (own.ensureStarted conduct.transport scope).1 =
        renumberedResult renumber (full.ensureStarted conduct.transport scope).1 ∧
      (full.ensureStarted conduct.transport scope).2.Mirrors final scope renumber
        (own.ensureStarted conduct.transport scope).2 := by
  have same := mirrors.entry
  rcases full.ensureStarted_conduct conduct scope with
    ⟨entry, event, found, live, reused⟩ | ⟨idle, begun⟩
  · rw [found, Option.map_some] at same
    rcases ensureStarted_of_live conduct.transport same live with ⟨event, ownReused⟩
    rw [reused, ownReused]
    exact ⟨rfl, (mirrors.noted _).notedOwn _⟩
  · have ownIdle : own.session? scope = none := by
      rw [session?_eq_none_iff] at idle ⊢
      intro entry found
      rw [same, Option.map_eq_some_iff] at found
      rcases found with ⟨before, beforeFound, rfl⟩
      exact idle before beforeFound
    rcases own.ensureStarted_conduct conduct scope with
      ⟨entry, event, found, live, _⟩ | ⟨_, ownBegun⟩
    · have failed := session?_eq_none_iff.mp ownIdle entry found
      exact absurd failed (Progress.isLive_iff_ne_failed.mp live)
    · rw [begun] at extended ⊢
      rw [ownBegun, mirrors.sessions, List.length_map]
      exact (mirrors.answered_own renumbering extended).2

theorem Mirrors.ensureStarted_other (mirrors : full.Mirrors final scope renumber own)
    (conduct : Conduct) (otherScope : other ≠ scope) :
    (full.ensureStarted conduct.transport other).2.Mirrors final scope renumber own := by
  rcases full.ensureStarted_conduct conduct other with
    ⟨entry, event, found, live, reused⟩ | ⟨idle, begun⟩
  · rw [reused]
    exact mirrors.noted _
  · rw [begun]
    exact mirrors.answered_other otherScope

/-! ### Closing -/

theorem Mirrors.remove_other (mirrors : full.Mirrors final scope renumber own)
    (otherScope : other ≠ scope) :
    (full.remove other).Mirrors final scope renumber own := by
  refine mirrors.of_table ⟨rfl, rfl, rfl, rfl⟩ ⟨rfl, rfl, rfl, rfl⟩
    (mirrors.numbered.of_remove other rfl fun _ => entry?_remove ..) mirrors.numberedOwn ?_ ?_
    mirrors.others
  · intro scope entry found
    rw [entry?_remove] at found
    split at found
    · cases found
    · exact mirrors.homed found
  · rw [entry?_remove, if_neg (Ne.symm otherScope), mirrors.entry]

theorem Mirrors.remove_own (mirrors : full.Mirrors final scope renumber own) :
    (full.remove scope).Mirrors final scope renumber (own.remove scope) := by
  refine mirrors.of_table ⟨rfl, rfl, rfl, rfl⟩ ⟨rfl, rfl, rfl, rfl⟩
    (mirrors.numbered.of_remove scope rfl fun _ => entry?_remove ..)
    (mirrors.numberedOwn.of_remove scope rfl fun _ => entry?_remove ..) ?_ ?_ ?_
  · intro other entry found
    rw [entry?_remove] at found
    split at found
    · cases found
    · exact mirrors.homed found
  · rw [entry?_remove, entry?_remove, if_pos rfl, if_pos rfl, Option.map_none]
  · intro other otherScope
    rw [entry?_remove, if_neg otherScope, mirrors.others otherScope]

/-- A call that is no start is made, in the full manager alone or in both. -/
theorem Mirrors.called (mirrors : full.Mirrors final scope renumber own)
    {state stateOwn : Agenda}
    (extension : sessionsOf state.calls = sessionsOf full.transport.calls)
    (extensionOwn : sessionsOf stateOwn.calls = sessionsOf own.transport.calls)
    (started : startedSessions state.calls = startedSessions full.transport.calls)
    (startedOwn : startedSessions stateOwn.calls = startedSessions own.transport.calls)
    (due : stateOwn.due = state.due.map (·.filter (·.scope = scope)))
    (calls : stateOwn.calls.filter
        (Call.concerns scope ((sessionsOf final scope).map renumber)) =
      (state.calls.filter (Call.concerns scope (sessionsOf final scope))).map
        (Call.renumbered renumber)) :
    (full.afterCall state []).Mirrors final scope renumber (own.afterCall stateOwn []) where
  numbered := mirrors.numbered.afterCall state []
  numberedOwn := mirrors.numberedOwn.afterCall stateOwn []
  launch := mirrors.launch
  capabilities := mirrors.capabilities
  counted := started.trans mirrors.counted
  countedOwn := startedOwn.trans mirrors.countedOwn
  alone := mirrors.alone.trans (by rw [← extensionOwn]; rfl)
  sessions := by
    show sessionsOf stateOwn.calls scope = (sessionsOf state.calls scope).map renumber
    rw [extension, extensionOwn, mirrors.sessions]
  due := due
  calls := calls
  homed := by
    intro other entry found
    have homed := mirrors.homed found
    rwa [← extension] at homed
  entry := mirrors.entry
  others := mirrors.others

theorem afterCall_self (manager : Manager Agenda) :
    manager.afterCall manager.transport [] = manager := by
  simp [afterCall, noteAll]

/-- A session of another scope is stopped. -/
theorem Mirrors.stopped_other (mirrors : full.Mirrors final scope renumber own)
    (otherScope : other ≠ scope) {session : SessionId}
    (foreign : session ∉ sessionsOf final scope) :
    (full.stopped other session).Mirrors final scope renumber own := by
  have removed := mirrors.remove_other otherScope
  rw [← own.afterCall_self]
  refine removed.called (funext fun _ => Transport.sessionsOf_stopped) rfl
    Transport.startedSessions_stopped rfl mirrors.due ?_
  rw [mirrors.calls, List.filter_append]
  simp [Call.concerns, foreign]

/-- A session of the scope is stopped in both managers. -/
theorem Mirrors.stopped_own (mirrors : full.Mirrors final scope renumber own) {session : SessionId}
    (known : session ∈ sessionsOf final scope) :
    (full.stopped scope session).Mirrors final scope renumber
      (own.stopped scope (renumber session)) := by
  refine mirrors.remove_own.called (funext fun _ => Transport.sessionsOf_stopped)
    (funext fun _ => Transport.sessionsOf_stopped) Transport.startedSessions_stopped
    Transport.startedSessions_stopped mirrors.due ?_
  have renamed : ∃ other ∈ sessionsOf final scope, renumber other = renumber session :=
    ⟨session, known, rfl⟩
  rw [List.filter_append, List.filter_append, List.map_append, mirrors.calls]
  simp [Call.concerns, Call.renumbered, known, renamed]

theorem Mirrors.known (mirrors : full.Mirrors final scope renumber own)
    (extended : full.transport.calls <+: final) {entry : Entry}
    (found : full.entry? other = some entry) : entry.handle.id ∈ sessionsOf final other :=
  (Transport.sessionsOf_grows extended other).subset (mirrors.homed found)

/-- The scope is closed in both managers, with the same result up to the number. -/
theorem Mirrors.closeScope_own (mirrors : full.Mirrors final scope renumber own) (conduct : Conduct)
    (extended : full.transport.calls <+: final) :
    (own.closeScope conduct.transport scope).1 =
        (full.closeScope conduct.transport scope).1.map (Handle.renumbered renumber) ∧
      (full.closeScope conduct.transport scope).2.Mirrors final scope renumber
        (own.closeScope conduct.transport scope).2 := by
  have same := mirrors.entry
  rcases full.closeScope_conduct conduct scope with ⟨absent, closed⟩ |
    ⟨entry, event, found, ended⟩
  · rw [absent, Option.map_none] at same
    rcases own.closeScope_conduct conduct scope with ⟨_, ownClosed⟩ |
      ⟨entry, event, found, _⟩
    · rw [closed, ownClosed]
      exact ⟨rfl, mirrors⟩
    · cases same.symm.trans found
  · rw [found, Option.map_some] at same
    rcases own.closeScope_conduct conduct scope with ⟨absent, _⟩ |
      ⟨ownEntry, ownEvent, ownFound, ownEnded⟩
    · cases same.symm.trans absent
    · cases same.symm.trans ownFound
      -- Both sessions have come equally far, so both are stopped or neither is.
      rcases ended with ⟨live, closed⟩ | ⟨failed, closed⟩ <;>
        rcases ownEnded with ⟨ownLive, ownClosed⟩ | ⟨ownFailed, ownClosed⟩
      · rw [closed, ownClosed]
        exact ⟨rfl, ((mirrors.stopped_own (mirrors.known extended found)).noted _).notedOwn _⟩
      · exact absurd ownFailed (Progress.isLive_iff_ne_failed.mp live)
      · exact absurd failed (Progress.isLive_iff_ne_failed.mp ownLive)
      · rw [closed, ownClosed]
        exact ⟨rfl, (mirrors.remove_own.noted _).notedOwn _⟩

theorem Mirrors.closeScope_other (mirrors : full.Mirrors final scope renumber own)
    (renumbering : Renumbering final scope renumber) (conduct : Conduct)
    (extended : full.transport.calls <+: final) (otherScope : other ≠ scope) :
    (full.closeScope conduct.transport other).2.Mirrors final scope renumber own := by
  rcases full.closeScope_conduct conduct other with ⟨absent, closed⟩ |
    ⟨entry, event, found, ⟨live, closed⟩ | ⟨failed, closed⟩⟩
  · rw [closed]
    exact mirrors
  · have foreign := renumbering.not_mem_of_other extended (mirrors.homed found) otherScope
    rw [closed]
    exact (mirrors.stopped_other otherScope foreign).noted _
  · rw [closed]
    exact (mirrors.remove_other otherScope).noted _

/-! ### Polling -/

/-- A completion tells a manager what a report says: it names the session that has the place in its
scope, or else no session that was ever started. -/
structure Conveys (manager : Manager Agenda) (report : Report) (completion : Completion) :
    Prop where
  result : completion.result = report.result
  named : ∀ {session}, (sessionsOf manager.transport.calls report.scope)[report.place]? =
    some session → completion.session = session
  unknown : (sessionsOf manager.transport.calls report.scope)[report.place]? = none →
    manager.last < completion.session

theorem Counted.conveys {manager : Manager Agenda} (counted : manager.Counted) (conduct : Conduct)
    (report : Report) :
    manager.Conveys report (conduct.completion manager.transport.calls report) := by
  unfold Conduct.completion
  cases located : (sessionsOf manager.transport.calls report.scope)[report.place]? with
  | some session => exact ⟨rfl, fun same => by simpa [located] using same, by simp [located]⟩
  | none =>
      refine ⟨rfl, by simp [located], fun _ => ?_⟩
      rw [counted, List.length_range']
      exact Nat.lt_add_right _ (Nat.lt_succ_self _)

theorem Conveys.of_same {before after : Manager Agenda} {report : Report} {completion : Completion}
    (conveys : before.Conveys report completion)
    (sessions : sessionsOf after.transport.calls = sessionsOf before.transport.calls)
    (last : after.last = before.last) : after.Conveys report completion := by
  refine ⟨conveys.result, fun located => ?_, fun absent => ?_⟩
  · rw [sessions] at located
    exact conveys.named located
  · rw [sessions] at absent
    exact last ▸ conveys.unknown absent

/-- A session that a completion names is bound to the scope of the report. -/
theorem Mirrors.scope_of_conveys (mirrors : full.Mirrors final scope renumber own) {report : Report}
    {completion : Completion} (conveys : full.Conveys report completion) {entry : Entry}
    (found : full.entry? other = some entry) (named : entry.handle.id = completion.session) :
    other = report.scope := by
  have homed := mirrors.homed found
  cases located : (sessionsOf full.transport.calls report.scope)[report.place]? with
  | none =>
      have issued := mirrors.numbered.issued found
      rw [named] at issued
      exact absurd (conveys.unknown located) (Nat.not_lt_of_le issued)
  | some session =>
      have distinct : (startedSessions full.transport.calls).Nodup :=
        mirrors.counted ▸ List.nodup_range'
      rw [named, conveys.named located] at homed
      exact Transport.scope_unique distinct homed (List.mem_of_getElem? located)

theorem homed_settle {manager : Manager Agenda} (numbered : manager.Numbered)
    (homed : ∀ {other entry}, manager.entry? other = some entry →
      entry.handle.id ∈ sessionsOf manager.transport.calls other)
    (completion : Completion) {other : Scope} {entry : Entry}
    (found : entry? (manager.settle completion).2 other = some entry) :
    entry.handle.id ∈ sessionsOf manager.transport.calls other := by
  rw [entry?_settle numbered, Option.map_eq_some_iff] at found
  rcases found with ⟨before, beforeFound, rfl⟩
  rw [Entry.handle_settledBy]
  exact homed beforeFound

/-- What is reported of another scope goes past the scope. -/
theorem Mirrors.settle_other (mirrors : full.Mirrors final scope renumber own)
    (renumbering : Renumbering final scope renumber) (extended : full.transport.calls <+: final)
    {report : Report} {completion : Completion} (conveys : full.Conveys report completion)
    (otherScope : report.scope ≠ scope) :
    (full.settle completion).1.toList.filter (concerns scope (sessionsOf final scope)) = [] ∧
      (full.settle completion).2.Mirrors final scope renumber own := by
  constructor
  · by_cases bound : ∃ other entry, full.entry? other = some entry ∧
        entry.handle.id = completion.session
    · rcases bound with ⟨other, entry, found, named⟩
      have home := mirrors.scope_of_conveys conveys found named
      have elsewhere : entry.handle.scope ≠ scope := by
        rwa [mirrors.numbered.named found, home]
      have foreign := renumbering.not_mem_of_other extended (mirrors.homed found)
        (home ▸ otherScope)
      have judged : concerns scope (sessionsOf final scope)
          (entry.answer full.launch completion.result) = false := by
        rw [Session.concerns_answer (by simp [foreign, elsewhere])]
        exact decide_eq_false elsewhere
      rw [settle_of_bound mirrors.numbered found named]
      simp [judged]
    · push Not at bound
      rw [settle_of_unbound bound]
      rfl
  · refine mirrors.of_table (full.settle_sameBesidesTable completion) ⟨rfl, rfl, rfl, rfl⟩
      (mirrors.numbered.settle completion) mirrors.numberedOwn
      (homed_settle mirrors.numbered mirrors.homed completion) ?_ mirrors.others
    rw [entry?_settle mirrors.numbered, mirrors.entry]
    cases found : full.entry? scope with
    | none => rfl
    | some entry =>
        have apart : completion.session ≠ entry.handle.id := fun same =>
          otherScope (mirrors.scope_of_conveys conveys found same.symm).symm
        rw [Option.map_some, Option.map_some, Option.map_some,
          Entry.settledBy_cons_of_other apart, Entry.settledBy_nil]

/-- A completion names the session of the scope in both managers or in neither. -/
theorem Mirrors.names_iff (mirrors : full.Mirrors final scope renumber own)
    (renumbering : Renumbering final scope renumber) (extended : full.transport.calls <+: final)
    {report : Report} {completion renamed : Completion} (conveys : full.Conveys report completion)
    (conveysOwn : own.Conveys report renamed) (ownScope : report.scope = scope) {entry : Entry}
    (found : full.entry? scope = some entry) :
    renamed.session = renumber entry.handle.id ↔ completion.session = entry.handle.id := by
  subst ownScope
  have places := congrArg (·[report.place]?) mirrors.sessions
  simp only [List.getElem?_map] at places
  have ownFound := mirrors.entry
  rw [found, Option.map_some] at ownFound
  cases located : (sessionsOf full.transport.calls report.scope)[report.place]? with
  | none =>
      -- Neither manager has started so many sessions.
      rw [located] at places
      have above := conveys.unknown located
      have aboveOwn := conveysOwn.unknown places
      constructor
      · intro same
        rw [same] at aboveOwn
        exact absurd (mirrors.numberedOwn.issued ownFound) (Nat.not_le_of_lt aboveOwn)
      · intro same
        rw [same] at above
        exact absurd (mirrors.numbered.issued found) (Nat.not_le_of_lt above)
  | some session =>
      rw [located] at places
      rw [conveys.named located, conveysOwn.named places]
      have known := (Transport.sessionsOf_grows extended _).subset (List.mem_of_getElem? located)
      exact ⟨renumbering.inj known (mirrors.known extended found), congrArg renumber⟩

/-- What is reported of the scope is answered by both managers, with the same answer up to the
number. -/
theorem Mirrors.settle_own (mirrors : full.Mirrors final scope renumber own)
    (renumbering : Renumbering final scope renumber) (extended : full.transport.calls <+: final)
    {report : Report} {completion renamed : Completion} (conveys : full.Conveys report completion)
    (conveysOwn : own.Conveys report renamed) (ownScope : report.scope = scope) :
    (own.settle renamed).1.toList =
        ((full.settle completion).1.toList.filter
          (concerns scope (sessionsOf final scope))).map (renumberedResult renumber) ∧
      (full.settle completion).2.Mirrors final scope renumber (own.settle renamed).2 := by
  have results : renamed.result = completion.result :=
    conveysOwn.result.trans conveys.result.symm
  constructor
  · by_cases bound : ∃ entry, full.entry? scope = some entry ∧
        entry.handle.id = completion.session
    · rcases bound with ⟨entry, found, named⟩
      have renamedOwn := (mirrors.names_iff renumbering extended conveys conveysOwn ownScope
        found).mpr named.symm
      have ownFound := mirrors.entry
      rw [found, Option.map_some] at ownFound
      have home := mirrors.numbered.named found
      have judged : concerns scope (sessionsOf final scope)
          (entry.answer full.launch completion.result) = true := by
        rw [Session.concerns_answer (by simp [home, mirrors.known extended found])]
        exact decide_eq_true home
      rw [settle_of_bound mirrors.numbered found named,
        settle_of_bound mirrors.numberedOwn ownFound renamedOwn.symm, mirrors.launch, results,
        Entry.answer_renumbered]
      simp [judged]
    · push Not at bound
      have unbound : ∀ other entry, full.entry? other = some entry →
          entry.handle.id ≠ completion.session := by
        intro other entry found named
        have home := mirrors.scope_of_conveys conveys found named
        exact bound entry (home.trans ownScope ▸ found) named
      have ownUnbound : ∀ other entry, own.entry? other = some entry →
          entry.handle.id ≠ renamed.session := by
        intro other entry ownFound named
        by_cases same : other = scope
        · subst same
          rw [mirrors.entry, Option.map_eq_some_iff] at ownFound
          rcases ownFound with ⟨before, found, rfl⟩
          have names := mirrors.names_iff renumbering extended conveys conveysOwn ownScope found
          exact bound before found (names.mp named.symm).symm
        · rw [mirrors.others same] at ownFound
          cases ownFound
      rw [settle_of_unbound unbound, settle_of_unbound ownUnbound]
      rfl
  · refine mirrors.of_table (full.settle_sameBesidesTable completion)
      (own.settle_sameBesidesTable renamed) (mirrors.numbered.settle completion)
      (mirrors.numberedOwn.settle renamed)
      (homed_settle mirrors.numbered mirrors.homed completion) ?_ ?_
    · rw [entry?_settle mirrors.numbered, entry?_settle mirrors.numberedOwn, mirrors.entry]
      cases found : full.entry? scope with
      | none => rfl
      | some entry =>
          have names := mirrors.names_iff renumbering extended conveys conveysOwn ownScope found
          rw [Option.map_some, Option.map_some, Option.map_some, Option.map_some,
            Entry.settledBy_renumbered names results]
    · intro other otherScope
      rw [entry?_settle mirrors.numberedOwn, mirrors.others otherScope, Option.map_none]

theorem Mirrors.settleAll (mirrors : full.Mirrors final scope renumber own)
    (renumbering : Renumbering final scope renumber) (extended : full.transport.calls <+: final)
    {say sayOwn : Report → Completion} (conveys : ∀ report, full.Conveys report (say report))
    (conveysOwn : ∀ report, own.Conveys report (sayOwn report)) (reports : List Report) :
    (own.settleAll ((reports.filter (·.scope = scope)).map sayOwn)).1 =
        ((full.settleAll (reports.map say)).1.filter
          (concerns scope (sessionsOf final scope))).map (renumberedResult renumber) ∧
      (full.settleAll (reports.map say)).2.Mirrors final scope renumber
        (own.settleAll ((reports.filter (·.scope = scope)).map sayOwn)).2 := by
  induction reports generalizing full own with
  | nil => exact ⟨rfl, mirrors⟩
  | cons report rest ih =>
      have same := full.settle_sameBesidesTable (say report)
      have sameOwn := own.settle_sameBesidesTable (sayOwn report)
      have later : ∀ report', Conveys (full.settle (say report)).2 report' (say report') :=
        fun report' => (conveys report').of_same (by rw [same.transport]) same.last
      have laterOwn : ∀ report', Conveys (own.settle (sayOwn report)).2 report' (sayOwn report') :=
        fun report' => (conveysOwn report').of_same (by rw [sameOwn.transport]) sameOwn.last
      rw [← same.transport] at extended
      by_cases ownScope : report.scope = scope
      · rcases mirrors.settle_own renumbering (same.transport ▸ extended) (conveys report)
          (conveysOwn report) ownScope with ⟨first, next⟩
        rcases ih next extended later laterOwn with ⟨others, final⟩
        simp only [List.filter_cons, ownScope, decide_true, ↓reduceIte, List.map_cons,
          Manager.settleAll, List.filter_append, List.map_append]
        exact ⟨by rw [first, others], final⟩
      · rcases mirrors.settle_other renumbering (same.transport ▸ extended) (conveys report)
          ownScope with ⟨first, next⟩
        rcases ih next extended later conveysOwn with ⟨others, final⟩
        simp only [List.filter_cons, ownScope, decide_false, Bool.false_eq_true, ↓reduceIte,
          List.map_cons, Manager.settleAll, List.filter_append, List.map_append]
        exact ⟨by rw [first, others, List.map_nil, List.nil_append], final⟩

/-- Both managers poll, and of the scope both are told the same. -/
theorem Mirrors.poll (mirrors : full.Mirrors final scope renumber own)
    (renumbering : Renumbering final scope renumber) (conduct : Conduct)
    (extended : (full.poll conduct.transport).2.transport.calls <+: final) :
    (own.poll conduct.transport).1 =
        ((full.poll conduct.transport).1.filter
          (concerns scope (sessionsOf final scope))).map (renumberedResult renumber) ∧
      (full.poll conduct.transport).2.Mirrors final scope renumber
        (own.poll conduct.transport).2 := by
  have same := full.poll_sameBesidesTable conduct.transport
  rw [same.transport] at extended
  have polled : (full.afterCall (conduct.transport.poll full.transport).2.1 []).Mirrors final scope
      renumber (own.afterCall (conduct.transport.poll own.transport).2.1 []) := by
    refine mirrors.called (funext fun _ => Transport.sessionsOf_polled _)
      (funext fun _ => Transport.sessionsOf_polled _) (Transport.startedSessions_polled _)
      (Transport.startedSessions_polled _) ?_ ?_
    · simp [Conduct.transport, mirrors.due]
    · simp [Conduct.transport, Call.concerns, mirrors.calls]
  have due : own.transport.due.headD [] =
      (full.transport.due.headD []).filter (·.scope = scope) := by
    rw [mirrors.due]
    cases full.transport.due <;> rfl
  have conveys : ∀ report,
      (full.afterCall (conduct.transport.poll full.transport).2.1 []).Conveys report
        (conduct.completion full.transport.calls report) :=
    fun report => (mirrors.counted.conveys conduct report).of_same
      (funext fun _ => Transport.sessionsOf_polled _) rfl
  have conveysOwn : ∀ report,
      (own.afterCall (conduct.transport.poll own.transport).2.1 []).Conveys report
        (conduct.completion own.transport.calls report) :=
    fun report => (mirrors.countedOwn.conveys conduct report).of_same
      (funext fun _ => Transport.sessionsOf_polled _) rfl
  have settled := polled.settleAll renumbering extended conveys conveysOwn
    (full.transport.due.headD [])
  rw [← due] at settled
  exact settled

end Manager

end EditorSession
