import EditorSession.Proofs.Integration.Run
import EditorSession.Proofs.Past
import EditorSession.Session.Scripted

/-!
# What was opened, and what documents are associated with

The history of a run lists the events with their answers. It alone decides what every document is
associated with: a path has a session exactly if it was opened in its scope, with a session for an
answer, since the scope was closed last; and all paths of a scope share the session that the last
such opening was answered with.

`Integration.Remembers` says so of an integration and the history that led to it, and every event
keeps it.
-/

namespace EditorSession

open Session (Handle Entry Progress State)

/-- What an integration answers to an event. -/
inductive EditorAnswer
  | opened (result : Except Session.Error (Option Handle))
  | polled (results : List (Except Session.Error Handle))
  | closed (handle : Option Handle)

/-- An event that was handled, with its answer. -/
abbrev Handling := EditorEvent × EditorAnswer

namespace Handling

/-- A document of a scope was opened and associated with a session. -/
def Associates (scope : Scope) (handle : Handle) (handling : Handling) : Prop :=
  ∃ document, handling = (.opened scope document, .opened (.ok (some handle)))

/-- A document at a path in a scope was opened and associated with a session. -/
def AssociatesPath (scope : Scope) (path : List Path.Part) (handling : Handling) : Prop :=
  ∃ document handle, handling = (.opened scope document, .opened (.ok (some handle))) ∧
    Path.parts document.path = path

/-- A scope was closed. -/
def Closes (scope : Scope) (handling : Handling) : Prop := handling.1 = .closed scope

end Handling

/-- A path was associated with a session since its scope was closed last. -/
def OpenedSince (past : List Handling) (scope : Scope) (path : List Path.Part) : Prop :=
  Since (Handling.AssociatesPath scope path) (Handling.Closes scope) past

/-- The last document of a scope that was associated since the scope was closed last, was
associated with this session. -/
def LastOpened (past : List Handling) (scope : Scope) (handle : Handle) : Prop :=
  Since (Handling.Associates scope handle)
    (fun later => later.Closes scope ∨ ∃ other, later.Associates scope other) past

section Append

variable {past : List Handling} {scope other : Scope} {path : List Path.Part} {handle : Handle}

/-- Nothing was associated and nothing was closed. -/
def Handling.Quiet (handling : Handling) : Prop :=
  (∀ scope, ¬handling.Closes scope) ∧ ∀ scope handle, ¬handling.Associates scope handle

theorem openedSince_quiet {handling : Handling} (quiet : handling.Quiet) :
    OpenedSince (past ++ [handling]) scope path ↔ OpenedSince past scope path := by
  have nothing : ¬handling.AssociatesPath scope path := by
    rintro ⟨document, handle, opened, _⟩
    exact quiet.2 scope handle ⟨document, opened⟩
  simp only [OpenedSince, since_append_singleton, nothing, quiet.1 scope, false_or,
    not_false_eq_true, and_true]

theorem lastOpened_quiet {handling : Handling} (quiet : handling.Quiet) :
    LastOpened (past ++ [handling]) scope handle ↔ LastOpened past scope handle := by
  simp only [LastOpened, since_append_singleton, quiet.1 scope, quiet.2 scope, exists_false,
    or_self, false_or, not_false_eq_true, and_true]

theorem openedSince_closed {found : Option Handle} :
    OpenedSince (past ++ [(.closed scope, .closed found)]) other path ↔
      other ≠ scope ∧ OpenedSince past other path := by
  simp [OpenedSince, since_append_singleton, Handling.AssociatesPath, Handling.Closes,
    eq_comm (a := scope), and_comm]

theorem lastOpened_closed {found : Option Handle} :
    LastOpened (past ++ [(.closed scope, .closed found)]) other handle ↔
      other ≠ scope ∧ LastOpened past other handle := by
  simp [LastOpened, since_append_singleton, Handling.Associates, Handling.Closes,
    eq_comm (a := scope), and_comm]

theorem openedSince_opened {document : Document} :
    OpenedSince (past ++ [(.opened scope document, .opened (.ok (some handle)))]) other path ↔
      (other = scope ∧ Path.parts document.path = path) ∨ OpenedSince past other path := by
  simp [OpenedSince, since_append_singleton, Handling.AssociatesPath, Handling.Closes,
    eq_comm (a := scope)]

theorem lastOpened_opened {document : Document} {last : Handle} :
    LastOpened (past ++ [(.opened scope document, .opened (.ok (some handle)))]) other last ↔
      if other = scope then last = handle else LastOpened past other last := by
  by_cases same : other = scope
  · simp [LastOpened, since_append_singleton, Handling.Associates, Handling.Closes, same,
      eq_comm (a := handle)]
  · simp [LastOpened, since_append_singleton, Handling.Associates, Handling.Closes, same,
      Ne.symm same]

end Append

namespace Integration

variable {σ : Type}

/-- The answer to an event, and the integration after it. -/
def respond (transport : Transport σ) (integration : Integration σ) :
    EditorEvent → EditorAnswer × Integration σ
  | .opened scope document =>
    let (result, integration) := integration.documentOpened transport scope document
    (.opened result, integration)
  | .polled =>
    let (results, integration) := integration.pollStarts transport
    (.polled results, integration)
  | .closed scope =>
    let (handle, integration) := integration.scopeClosed transport scope
    (.closed handle, integration)

/-- The history of a run: its events with their answers. -/
def history (transport : Transport σ) (integration : Integration σ) :
    List EditorEvent → List Handling
  | [] => []
  | event :: rest =>
    (event, (integration.respond transport event).1) ::
      history transport (react transport integration event) rest

/-- The associations and the live sessions of an integration are as a history has them. -/
structure Remembers (past : List Handling) (integration : Integration σ) : Prop where
  numbered : integration.manager.Numbered
  paths : ∀ scope path, (∃ linked, integration.documents.get? scope = some linked ∧
    path ∈ linked.paths) ↔ OpenedSince past scope path
  shared : ∀ scope linked, integration.documents.get? scope = some linked →
    LastOpened past scope linked.handle
  issued : ∀ scope linked, integration.documents.get? scope = some linked →
    linked.handle.id ≤ integration.manager.last
  current : ∀ scope entry, integration.manager.entry? scope = some entry →
    entry.progress.isLive = true →
      ∃ linked, integration.documents.get? scope = some linked ∧ linked.handle = entry.handle

section Handled

variable {past : List Handling} {integration after : Integration σ}

theorem Remembers.fresh (gate : Gate) (launch : LaunchSpecification)
    (capabilities : Capability.Declaration) (state : σ) :
    (Integration.fresh gate launch capabilities state).Remembers [] where
  numbered := .fresh launch capabilities state
  paths scope path := by simp [Integration.fresh, OpenedSince, not_since_nil]
  shared scope linked found := by simp [Integration.fresh] at found
  issued scope linked found := by simp [Integration.fresh] at found
  current scope entry found := by simp [Integration.fresh, Manager.fresh, Manager.entry?] at found

/-- An event that associates and closes nothing leaves the documents alone, and no session becomes
live by it. -/
theorem Remembers.quiet (remembers : integration.Remembers past) {handling : Handling}
    (quiet : handling.Quiet) (numbered : after.manager.Numbered)
    (last : integration.manager.last ≤ after.manager.last)
    (documents : after.documents = integration.documents)
    (live : ∀ scope entry, after.manager.entry? scope = some entry →
      entry.progress.isLive = true → ∃ before, integration.manager.entry? scope = some before ∧
        before.progress.isLive = true ∧ before.handle = entry.handle) :
    after.Remembers (past ++ [handling]) where
  numbered := numbered
  paths scope path := by rw [openedSince_quiet quiet, documents, remembers.paths]
  shared scope linked found := by
    rw [documents] at found
    exact (lastOpened_quiet quiet).mpr (remembers.shared scope linked found)
  issued scope linked found := by
    rw [documents] at found
    exact Nat.le_trans (remembers.issued scope linked found) last
  current scope entry found isLive := by
    rcases live scope entry found isLive with ⟨before, beforeFound, beforeLive, sameHandle⟩
    rw [documents, ← sameHandle]
    exact remembers.current scope before beforeFound beforeLive

/-- An opened document that is associated brings the documents of its scope along. -/
theorem Remembers.associated (remembers : integration.Remembers past) {manager : Manager σ}
    {scope : Scope} {document : Document} {entry : Entry} (numbered : manager.Numbered)
    (last : integration.manager.last ≤ manager.last)
    (found : manager.entry? scope = some entry)
    (others : ∀ other, other ≠ scope →
      manager.entry? other = integration.manager.entry? other)
    (agrees : ∀ linked, integration.documents.get? scope = some linked →
      linked.handle.id = entry.handle.id → linked.handle = entry.handle) :
    ((integration.withManager manager).associate entry.handle scope document).Remembers
      (past ++ [(.opened scope document, .opened (.ok (some entry.handle)))]) := by
  let joint := joined (integration.documents.get? scope) entry.handle (Path.parts document.path)
  have documents : ∀ other, ((integration.withManager manager).associate entry.handle scope
      document).documents.get? other =
        if other = scope then some joint else integration.documents.get? other :=
    get?_associate _ entry.handle scope document
  have handle : joint.handle = entry.handle := by
    cases former : integration.documents.get? scope with
    | none => simp [joint, former, joined]
    | some linked =>
        by_cases same : linked.handle.id = entry.handle.id
        · simpa [joint, former, joined, same] using agrees linked former same
        · simp [joint, former, joined, same]
  have paths : ∀ path, path ∈ joint.paths ↔ Path.parts document.path = path ∨
      ∃ linked, integration.documents.get? scope = some linked ∧ path ∈ linked.paths := by
    intro path
    cases former : integration.documents.get? scope with
    | none => simp [joint, former, joined, eq_comm]
    | some linked =>
        by_cases known : Path.parts document.path ∈ linked.paths
        · simp only [joint, former, joined, Linked.withPath, known, ↓reduceIte, Option.some.injEq,
            exists_eq_left']
          exact ⟨Or.inr, fun opened => opened.elim (· ▸ known) id⟩
        · simp [joint, former, joined, Linked.withPath, known, eq_comm]
  rcases (integration.withManager manager).associate_manager entry.handle scope document with
    ⟨notes, _, same⟩
  refine ⟨?_, ?_, ?_, ?_, ?_⟩
  · rw [same]
    exact numbered.of_same rfl fun _ => rfl
  · intro other path
    rw [documents, openedSince_opened, ← remembers.paths]
    by_cases sameScope : other = scope
    · subst sameScope
      simp [paths]
    · simp [sameScope]
  · intro other linked linkedFound
    rw [documents] at linkedFound
    rw [lastOpened_opened]
    by_cases sameScope : other = scope
    · rw [if_pos sameScope] at linkedFound
      cases linkedFound
      rw [if_pos sameScope, handle]
    · rw [if_neg sameScope] at linkedFound
      rw [if_neg sameScope]
      exact remembers.shared other linked linkedFound
  · intro other linked linkedFound
    rw [documents] at linkedFound
    rw [same]
    split at linkedFound
    · cases linkedFound
      rw [handle]
      exact numbered.issued found
    · exact Nat.le_trans (remembers.issued other linked linkedFound) last
  · intro other live liveFound isLive
    rw [same] at liveFound
    rw [documents]
    by_cases sameScope : other = scope
    · subst sameScope
      rw [Manager.entry?_unique liveFound found, if_pos rfl]
      exact ⟨joint, rfl, handle⟩
    · rw [if_neg sameScope]
      exact remembers.current other live ((others other sameScope).symm.trans liveFound) isLive

/-! ### The events -/

theorem Remembers.opened (remembers : integration.Remembers past) (transport : Transport σ)
    (scope : Scope) (document : Document) :
    (react transport integration (.opened scope document)).Remembers
      (past ++ [(.opened scope document,
        .opened (integration.documentOpened transport scope document).1)]) := by
  have consulted : (integration.consult document).2.Remembers past :=
    ⟨remembers.numbered.of_same rfl fun _ => rfl, remembers.paths, remembers.shared,
      remembers.issued, remembers.current⟩
  have numbered := consulted.numbered
  rcases integration.documentOpened_cases transport scope document with
    opened | ⟨entry, event, found, live, opened⟩ |
    ⟨idle, answer, state, events, called, ⟨outcome, accepted, opened⟩ |
      ⟨cause, error, refused, opened⟩⟩
  · rw [react, opened]
    exact consulted.quiet (by simp [Handling.Quiet, Handling.Closes, Handling.Associates])
      numbered (Nat.le_refl _) rfl
      fun scope entry found live => ⟨entry, found, live, rfl⟩
  · rw [react, opened]
    refine consulted.associated (numbered.of_same rfl fun _ => rfl) (Nat.le_refl _) found
      (fun _ _ => rfl) ?_
    intro linked linkedFound _
    rcases consulted.current scope entry found live with ⟨current, currentFound, same⟩
    rw [linkedFound] at currentFound
    cases currentFound
    exact same
  · rw [react, opened]
    let manager := (integration.consult document).2.manager
    have last := manager.started_last scope answer state events
    have current : Manager.entry? (manager.started scope answer state events).2 scope =
        some ⟨manager.nextHandle scope, .ofAnswer answer⟩ :=
      (Manager.entry?_started ..).trans (if_pos rfl)
    refine consulted.associated (numbered.started scope answer state events)
      (last ▸ Nat.le_succ _) current
      (fun other otherScope => (Manager.entry?_started ..).trans (if_neg otherScope)) ?_
    -- The new session has a number above those that documents are associated with.
    intro linked linkedFound sameId
    have issued := consulted.issued scope linked linkedFound
    rw [sameId] at issued
    exact absurd issued (Nat.not_succ_le_self _)
  · rw [react, opened]
    refine consulted.quiet (by simp [Handling.Quiet, Handling.Closes, Handling.Associates])
      (numbered.started scope answer state events)
      ((Manager.started_last ..) ▸ Nat.le_succ _) rfl ?_
    intro other entry found live
    rw [withManager, Manager.entry?_started] at found
    split at found
    · cases found
      rcases Progress.isLive_ofAnswer_iff.mp live with ⟨outcome, accepted⟩
      cases refused.symm.trans accepted
    · exact ⟨entry, found, live, rfl⟩

theorem Remembers.polled (remembers : integration.Remembers past) (transport : Transport σ) :
    (react transport integration .polled).Remembers
      (past ++ [(.polled, .polled (integration.pollStarts transport).1)]) := by
  refine remembers.quiet (by simp [Handling.Quiet, Handling.Closes, Handling.Associates])
    (remembers.numbered.poll transport)
    (Nat.le_of_eq (integration.manager.poll_sameBesidesTable transport).last.symm) rfl ?_
  intro scope entry found live
  rw [react, pollStarts, Manager.entry?_poll remembers.numbered, Option.map_eq_some_iff] at found
  rcases found with ⟨before, beforeFound, rfl⟩
  exact ⟨before, beforeFound, Entry.isLive_of_settledBy live, (Entry.handle_settledBy _ _).symm⟩

theorem Remembers.closed (remembers : integration.Remembers past) (transport : Transport σ)
    (scope : Scope) :
    (react transport integration (.closed scope)).Remembers
      (past ++ [(.closed scope, .closed (integration.scopeClosed transport scope).1)]) := by
  have entries := integration.manager.entry?_closeScope transport scope
  have last := integration.manager.closeScope_last transport scope
  have documents : ∀ other, (react transport integration (.closed scope)).documents.get? other =
      if other = scope then none else integration.documents.get? other :=
    fun other => Keyed.get?_erase ..
  refine ⟨remembers.numbered.of_remove scope last entries, ?_, ?_, ?_, ?_⟩
  · intro other path
    rw [documents, openedSince_closed, ← remembers.paths]
    by_cases same : other = scope <;> simp [same]
  · intro other linked found
    rw [documents] at found
    rcases Option.ite_none_left_eq_some.mp found with ⟨otherScope, found⟩
    exact lastOpened_closed.mpr ⟨otherScope, remembers.shared other linked found⟩
  · intro other linked found
    rw [documents] at found
    exact last ▸ remembers.issued other linked (Option.ite_none_left_eq_some.mp found).2
  · intro other entry found live
    rw [react, scopeClosed, entries] at found
    rw [documents]
    rcases Option.ite_none_left_eq_some.mp found with ⟨otherScope, found⟩
    rw [if_neg otherScope]
    exact remembers.current other entry found live

theorem Remembers.reactAll (remembers : integration.Remembers past) (transport : Transport σ)
    (events : List EditorEvent) :
    (reactAll transport integration events).Remembers
      (past ++ integration.history transport events) := by
  induction events generalizing integration past with
  | nil => simpa [Integration.reactAll, history] using remembers
  | cons event rest ih =>
      have next : (react transport integration event).Remembers
          (past ++ [(event, (integration.respond transport event).1)]) := by
        cases event with
        | opened scope document => exact remembers.opened transport scope document
        | polled => exact remembers.polled transport
        | closed scope => exact remembers.closed transport scope
      have later := ih next
      rwa [List.append_assoc, List.singleton_append] at later

end Handled

/-- A path that was opened since its scope was closed shares the last session of the scope. -/
theorem Remembers.sessionFor?_iff {past : List Handling} {integration : Integration σ}
    (remembers : integration.Remembers past) {scope : Scope} {path : Octets} {handle : Handle} :
    integration.sessionFor? scope path = some handle ↔
      OpenedSince past scope (Path.parts path) ∧
        ∃ linked, integration.documents.get? scope = some linked ∧ linked.handle = handle := by
  rw [sessionFor?_eq_some_iff, ← remembers.paths]
  constructor
  · rintro ⟨linked, found, pathMem, same⟩
    exact ⟨⟨linked, found, pathMem⟩, linked, found, same⟩
  · rintro ⟨⟨linked, found, pathMem⟩, other, otherFound, same⟩
    cases found.symm.trans otherFound
    exact ⟨linked, found, pathMem, same⟩

theorem sessionFor?_congr {before after : Integration σ} {scope : Scope}
    (same : after.documents.get? scope = before.documents.get? scope) (path : Octets) :
    after.sessionFor? scope path = before.sessionFor? scope path := by
  rw [sessionFor?, sessionFor?, same]

/-- An opened document that is declined, or whose start is refused, leaves all documents alone. -/
theorem documents_of_unassociated {transport : Transport σ} {integration : Integration σ}
    {scope : Scope} {document : Document}
    (unassociated : ∀ handle,
      (integration.documentOpened transport scope document).1 ≠ .ok (some handle)) :
    (integration.documentOpened transport scope document).2.documents =
      integration.documents := by
  rcases integration.documentOpened_cases transport scope document with
    opened | ⟨entry, event, found, live, opened⟩ |
    ⟨idle, answer, state, events, called, ⟨outcome, accepted, opened⟩ |
      ⟨cause, error, refused, opened⟩⟩
  · rw [opened]
    rfl
  · exact absurd (by rw [opened]) (unassociated entry.handle)
  · exact absurd (by rw [opened]) (unassociated _)
  · rw [opened]
    rfl

/--
In any run, a path has a session exactly if it was opened in its scope, and answered with a
session, since the scope was closed last. All paths of a scope then have the session that the last
such opening was answered with, which is the live session of the scope while it has one. Declined
and refused documents change no association, and closing a scope changes none of other scopes.
-/
theorem sessionFor?_iff_openedSince (transport : Transport σ) (gate : Gate)
    (launch : LaunchSpecification) (capabilities : Capability.Declaration) (state : σ)
    (events : List EditorEvent) :
    let integration := (fresh gate launch capabilities state).reactAll transport events
    let past := (fresh gate launch capabilities state).history transport events
    (∀ scope path, (∃ handle, integration.sessionFor? scope path = some handle) ↔
      OpenedSince past scope (Path.parts path)) ∧
      (∀ scope path handle, integration.sessionFor? scope path = some handle →
        LastOpened past scope handle ∧
          (∀ other, OpenedSince past scope (Path.parts other) →
            integration.sessionFor? scope other = some handle) ∧
          ∀ live, integration.manager.session? scope = some live → handle = live) ∧
      (∀ scope document, (∀ handle,
        (integration.documentOpened transport scope document).1 ≠ .ok (some handle)) →
          ∀ other path,
            (integration.documentOpened transport scope document).2.sessionFor? other path =
              integration.sessionFor? other path) ∧
      ∀ scope other path, other ≠ scope →
        (integration.scopeClosed transport scope).2.sessionFor? other path =
          integration.sessionFor? other path := by
  intro integration past
  have remembers : integration.Remembers past :=
    (Remembers.fresh gate launch capabilities state).reactAll transport events
  refine ⟨?_, ?_, ?_, ?_⟩
  · intro scope path
    simp only [remembers.sessionFor?_iff]
    constructor
    · rintro ⟨handle, opened, _⟩
      exact opened
    · intro opened
      rcases (remembers.paths scope _).mpr opened with ⟨linked, found, _⟩
      exact ⟨linked.handle, opened, linked, found, rfl⟩
  · intro scope path handle associated
    rcases remembers.sessionFor?_iff.mp associated with ⟨_, linked, found, rfl⟩
    refine ⟨remembers.shared scope linked found, ?_, ?_⟩
    · intro other opened
      exact remembers.sessionFor?_iff.mpr ⟨opened, linked, found, rfl⟩
    · intro live current
      rcases Manager.session?_eq_some_iff.mp current with ⟨entry, entryFound, isLive, rfl⟩
      rcases remembers.current scope entry entryFound isLive with ⟨own, ownFound, same⟩
      cases found.symm.trans ownFound
      exact same
  · intro scope document unassociated other path
    exact sessionFor?_congr (by rw [documents_of_unassociated unassociated]) path
  · intro scope other path otherScope
    exact sessionFor?_congr ((Keyed.get?_erase ..).trans (if_neg otherScope)) path

/-- A path that was opened before the session failed has the session of the path that was opened
after, in whatever way the two are spelled. -/
example :
    let script : Transport.Script :=
      { otherwise := .ok .pending
        settled := [⟨1, .error ⟨"handshake timed out", .wordings []⟩⟩] }
    let integration := (fresh ⟨"xml"⟩ default default script).reactAll (.scripted true)
      [.opened "workspace" ⟨Text.Utf8.ofString "a/pom.xml", none⟩, .polled,
        .opened "workspace" ⟨Text.Utf8.ofString "b/pom.xml", none⟩]
    integration.sessionFor? "workspace" (Text.Utf8.ofString "a//./pom.xml") =
      some ⟨2, "workspace", default⟩ := by
  decide

end Integration

end EditorSession
