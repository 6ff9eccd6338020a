import EditorSession.Proofs.Integration.Openings
import EditorSession.Proofs.Session.Renaming
import EditorSession.Proofs.Session.Renumbering

/-!
# The order in which documents are opened

Several threads open documents, and the lock puts the openings in some order. What an integration
comes to in the end is given by tallies of the openings, and these do not depend on the order. Only
the numbers of sessions do, since all scopes draw them from one counter.
-/

namespace EditorSession

open Session (Handle Entry)
open Transport (sessionsOf startedSessions)

variable {σ : Type}

/-- Opens documents in turn, each of them under the lock. -/
def Shared.openAll (transport : Transport σ) (shared : Shared σ) :
    List Opening → List (Except Session.Error (Option Handle)) × Shared σ
  | [] => ([], shared)
  | opening :: rest =>
    let (result, shared) := shared.run fun integration =>
      integration.documentOpened transport opening.scope opening.document
    let (results, shared) := shared.openAll transport rest
    (result :: results, shared)

theorem Shared.openAll_eq (transport : Transport σ) (shared : Shared σ) (openings : List Opening) :
    shared.openAll transport openings =
      ((shared.integration.openAll transport openings).1,
        { shared with integration := (shared.integration.openAll transport openings).2 }) := by
  induction openings generalizing shared with
  | nil => rfl
  | cons opening rest ih => simp only [Shared.openAll, Shared.run, Integration.openAll, ih]

theorem activePaths_perm (gate : Gate) {first second : List Opening} (reordered : first.Perm second)
    (scope : Scope) : (activePaths gate first scope).Perm (activePaths gate second scope) :=
  (reordered.filter _).map _

theorem activePaths_length_pos_iff {gate : Gate} {openings : List Opening} {scope : Scope} :
    0 < (activePaths gate openings scope).length ↔
      openings.any (Opening.activates gate scope) := by
  simp [activePaths, List.length_pos_iff_exists_mem]

theorem Linked.mem_foldl_withPath {paths known : List (List Path.Part)} {path : List Path.Part} :
    path ∈ paths.foldl Linked.withPath known ↔ path ∈ paths ∨ path ∈ known := by
  induction paths generalizing known with
  | nil => simp
  | cons first rest ih =>
      rw [List.foldl_cons, ih, Linked.withPath, List.mem_cons]
      split
      next among =>
          constructor
          · rintro (later | before)
            · exact .inl (.inr later)
            · exact .inr before
          · rintro ((rfl | later) | before)
            · exact .inr among
            · exact .inl later
            · exact .inr before
      · rw [List.mem_cons]
        tauto

/-- The state of a scope does not depend on the number of its session. -/
theorem Manager.state_of_renumbered {one other : Manager σ} {scope : Scope}
    {renumber : SessionId → SessionId}
    (same : other.entry? scope = (one.entry? scope).map (Entry.renumbered renumber)) :
    other.state scope = one.state scope := by
  unfold Manager.state
  rw [same]
  cases one.entry? scope <;> rfl

namespace Integration

section Reordered

variable {answer : Scope → Except Backend.Error StartOutcome}
  {capabilities : Capability.Declaration} {gate : Gate} {first second : List Opening}
  {one other : Integration (Transport.Recorded σ)}

theorem Tallies.starts_eq (tallies : one.Tallies answer capabilities gate first)
    (talliesToo : other.Tallies answer capabilities gate second) (reordered : first.Perm second)
    (scope : Scope) :
    (sessionsOf one.manager.transport.calls scope).length =
      (sessionsOf other.manager.transport.calls scope).length := by
  rw [tallies.manager.starts, talliesToo.manager.starts,
    (activePaths_perm gate reordered scope).length_eq]

/-- The same openings in another order bring about the same under other numbers. -/
theorem Tallies.reordered (tallies : one.Tallies answer capabilities gate first)
    (talliesToo : other.Tallies answer capabilities gate second)
    (reordered : first.Perm second) :
    ∃ renumber : Equiv.Perm SessionId, other.manager.last = one.manager.last ∧
      ∀ scope,
        sessionsOf other.manager.transport.calls scope =
          (sessionsOf one.manager.transport.calls scope).map renumber ∧
        other.manager.entry? scope = (one.manager.entry? scope).map (Entry.renumbered renumber) ∧
        ∀ path, other.sessionFor? scope path =
          (one.sessionFor? scope path).map (Handle.renumbered renumber) := by
  have distinct : (startedSessions one.manager.transport.calls).Nodup :=
    tallies.manager.counted ▸ List.nodup_range'
  have distinctToo : (startedSessions other.manager.transport.calls).Nodup :=
    talliesToo.manager.counted ▸ List.nodup_range'
  rcases Transport.exists_renaming distinct distinctToo (tallies.starts_eq talliesToo reordered)
    with ⟨renumber, carries⟩
  have last : other.manager.last = one.manager.last := by
    have lengths := (Transport.startedSessions_perm distinct distinctToo carries).length_eq
    rw [tallies.manager.counted, talliesToo.manager.counted] at lengths
    simpa using lengths
  have entries : ∀ scope, other.manager.entry? scope =
      (one.manager.entry? scope).map (Entry.renumbered renumber) := by
    intro scope
    rw [tallies.manager.entries, talliesToo.manager.entries, carries, List.getLast?_map,
      Option.map_map, Option.map_map]
    rfl
  refine ⟨renumber, last, fun scope => ⟨carries scope, entries scope, fun path => ?_⟩⟩
  rw [sessionFor?, sessionFor?, tallies.documents, talliesToo.documents, entries]
  cases accepted : answer scope with
  | error cause => rfl
  | ok outcome =>
      cases one.manager.entry? scope with
      | none => rfl
      | some entry =>
          have samePaths := (activePaths_perm gate reordered scope).mem_iff (a := Path.parts path)
          simp only [linkedFor, Option.map_some, Linked.mem_foldl_withPath, List.not_mem_nil,
            or_false, samePaths]
          split <;> rfl

/-- Where starts succeed, one session is started if some document activates its scope, and it is what
all documents that do are answered with. -/
theorem Tallies.single {transport : Transport σ} {scope : Scope} {outcome : StartOutcome}
    (tallies : one.Tallies answer capabilities gate [])
    (answers : ∀ request state, (transport.start request state).1 = answer request.scope)
    (accepted : answer scope = .ok outcome) (openings : List Opening) :
    let opened := one.openAll transport.recorded openings
    (sessionsOf opened.2.manager.transport.calls scope).length =
        (if openings.any (Opening.activates gate scope) then 1 else 0) ∧
      ∃ handle, ∀ opening result, (opening, result) ∈ openings.zip opened.1 →
        opening.scope = scope →
          result = .ok (if gate.admits opening.document then some handle else none) := by
  intro opened
  have after : opened.2.Tallies answer capabilities gate openings :=
    tallies.openAll answers openings
  constructor
  · rw [after.manager.starts, accepted]
    split
    next active =>
      have asked := activePaths_length_pos_iff.mpr active
      simp only [startsFor]
      omega
    next inactive =>
      have unasked := mt activePaths_length_pos_iff.mp inactive
      simp only [startsFor]
      omega
  · refine ⟨(opened.2.manager.entry? scope).elim default Entry.handle,
      fun opening result answered inScope => ?_⟩
    have given := tallies.openAll_results answers accepted openings answered inScope
    split at given
    next admitted =>
      rcases given with ⟨entry, found, rfl⟩
      rw [if_pos admitted, found]
      rfl
    next declined => rw [if_neg declined, given]

end Reordered

end Integration

/--
Documents that are opened in another order, each under the lock, with a transport whose starts are
answered by the scope alone: the same state, associations and number of starts come of it for every
scope, under other numbers for the sessions. Where starts succeed there is one, if any document
activates the scope, and its session is the answer to all those that do.
-/
theorem Shared.openAll_reordered (transport : Transport σ)
    (answer : Scope → Except Backend.Error StartOutcome)
    (answers : ∀ request state, (transport.start request state).1 = answer request.scope)
    (gate : Gate) (launch : LaunchSpecification) (capabilities : Capability.Declaration) (state : σ)
    {first second : List Opening} (reordered : first.Perm second) :
    let fresh : Shared σ := { integration := .fresh gate launch capabilities state }
    let recorded : Shared (Transport.Recorded σ) :=
      { integration := .fresh gate launch capabilities ⟨state, []⟩ }
    let started (openings : List Opening) : Scope → List SessionId :=
      sessionsOf
        (recorded.openAll transport.recorded openings).2.integration.manager.transport.calls
    let one := (fresh.openAll transport first).2.integration
    let other := (fresh.openAll transport second).2.integration
    (∃ renumber : SessionId → SessionId, Function.Bijective renumber ∧
      other.manager.last = one.manager.last ∧
      ∀ scope,
        other.manager.state scope = one.manager.state scope ∧
        other.manager.entry? scope = (one.manager.entry? scope).map (Entry.renumbered renumber) ∧
        (∀ path, other.sessionFor? scope path =
          (one.sessionFor? scope path).map (Handle.renumbered renumber)) ∧
        started second scope = (started first scope).map renumber) ∧
    ∀ scope outcome, answer scope = .ok outcome →
      (started first scope).length =
          (if first.any (Opening.activates gate scope) then 1 else 0) ∧
        ∃ handle, ∀ opening result,
          (opening, result) ∈ first.zip (fresh.openAll transport first).1 → opening.scope = scope →
            result = .ok (if gate.admits opening.document then some handle else none) := by
  intro fresh recorded started one other
  have tallies : recorded.integration.Tallies answer capabilities gate [] :=
    .fresh gate launch state
  -- The recorded run goes through the same states and gives the same answers.
  have through (openings : List Opening) :
      fresh.integration.openAll transport openings =
        ((recorded.integration.openAll transport.recorded openings).1,
          (recorded.integration.openAll transport.recorded openings).2.through
            Transport.Recorded.inner) :=
    Integration.openAll_through transport.recorded_refines recorded.integration openings
  have unlocked (openings : List Opening) : (fresh.openAll transport openings).2.integration =
      (recorded.integration.openAll transport.recorded openings).2.through
        Transport.Recorded.inner := by
    rw [Shared.openAll_eq, through]
  have results : (fresh.openAll transport first).1 =
      (recorded.integration.openAll transport.recorded first).1 := by
    rw [Shared.openAll_eq, through]
  have calls (openings : List Opening) : started openings = sessionsOf
      (recorded.integration.openAll transport.recorded openings).2.manager.transport.calls := by
    unfold started
    rw [Shared.openAll_eq]
  have one_eq : one = _ := unlocked first
  have other_eq : other = _ := unlocked second
  constructor
  · rcases (tallies.openAll answers first).reordered (tallies.openAll answers second) reordered with
      ⟨renumber, last, each⟩
    rw [one_eq, other_eq]
    refine ⟨renumber, renumber.bijective, last, fun scope => ?_⟩
    rcases each scope with ⟨carries, entries, paths⟩
    refine ⟨?_, entries, paths, ?_⟩
    · exact Manager.state_of_renumbered entries
    · rw [calls, calls]
      exact carries
  · intro scope outcome accepted
    rw [calls, results]
    exact tallies.single answers accepted first

/-- A scope whose start is refused comes between two others: their sessions change numbers with the
order, and each has one start in either order. -/
theorem Shared.openAll_around_refusal :
    let answer : Scope → Except Backend.Error StartOutcome := fun scope =>
      if scope = "broken" then .error ⟨"executable not found", .wordings []⟩ else .ok .pending
    let transport : Transport Unit := {
      start := fun request state => (answer request.scope, state, [])
      poll := fun state => ([], state, [])
      stop := fun _ state => (state, []) }
    let document : Document := { path := Text.Utf8.ofString "pom.xml" }
    let first : List Opening := [⟨"app", document⟩, ⟨"broken", document⟩, ⟨"lib", document⟩]
    let second : List Opening := [⟨"lib", document⟩, ⟨"broken", document⟩, ⟨"app", document⟩]
    let fresh : Shared Unit := { integration := .fresh ⟨"xml"⟩ default default () }
    (∀ request state, (transport.start request state).1 = answer request.scope) ∧
      first.Perm second ∧ answer "app" = .ok .pending ∧
      (fresh.openAll transport first).2.integration.manager.session? "app" =
        some ⟨1, "app", default⟩ ∧
      (fresh.openAll transport second).2.integration.manager.session? "app" =
        some ⟨3, "app", default⟩ ∧
      (∃ renumber : SessionId → SessionId, Function.Bijective renumber ∧
        ∀ scope, (fresh.openAll transport second).2.integration.manager.entry? scope =
          ((fresh.openAll transport first).2.integration.manager.entry? scope).map
            (Entry.renumbered renumber)) := by
  intro answer transport document first second fresh
  have answers : ∀ request state, (transport.start request state).1 = answer request.scope :=
    fun _ _ => rfl
  have reordered : first.Perm second := by decide
  rcases (Shared.openAll_reordered transport answer answers ⟨"xml"⟩ default default () reordered).1
    with ⟨renumber, bijective, _, each⟩
  exact ⟨answers, reordered, rfl, by decide, by decide, renumber, bijective,
    fun scope => (each scope).2.1⟩

end EditorSession
