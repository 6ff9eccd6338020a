import EditorSession.Proofs.Past
import EditorSession.Proofs.Session.Operation
import EditorSession.Session.Scripted

/-!
# The journal tells of every session

Whoever reads the journal of a manager from its start and keeps a `Register` of it, with the session
of each scope and how far it has come, has the manager's own table after every operation. No entry is
at odds with those before it (`Register.Bears`): a session that settles is on the register as
starting, and where an entry gives a former state it is the one on the register.

Everything is read off the entries as they are shown, by their messages and the texts of their fields.
Each change of the table goes with one entry, so the two are added together
(`Manager.Journaled.noted`); an entry that goes with no change is `Register.Quiet`.
-/

namespace EditorSession

open Session (Handle Entry Progress State HostOperation)

/-- The text of a field that is shown as it is. -/
def Journal.Entry.shown? (entry : Journal.Entry) (name : String) : Option String :=
  match entry.fields.lookup name with
  | some (.shown text) => some text
  | _ => none

/-- For each scope its session, as it is shown, and how far that has come. -/
abbrev Register := Keyed Scope (String × Progress)

/-- What a register has of the session of an entry. -/
def Session.Entry.noted (entry : Entry) : String × Progress :=
  (toString entry.handle.id, entry.progress)

/-- The session that an event tells to have settled, and how. -/
def Session.Event.settled? : Session.Event → Option (Scope × SessionId × Progress)
  | .startedRunning _ scope session | .running scope session => some (scope, session, .running)
  | .startFailed _ scope session _ _ | .handshakeFailed scope session _ =>
    some (scope, session, .failed)
  | _ => none

namespace Register

/-- The part that tells of sessions. -/
def speaker : String := "vuln_lsp_bootstrap::manager"

/-- How a session that was starting has settled, by the message of an entry. -/
def settlement? (message : String) : Option Progress :=
  if message = "session running" then some .running
  else if message = "session failed to start" ∨ message = "session handshake failed" then
    some .failed
  else none

/-- The register after one more entry. -/
def read (register : Register) (entry : Journal.Entry) : Register :=
  if entry.target = speaker then
    match entry.shown? "scope", entry.shown? "session" with
    | some scope, some session =>
      if entry.message = "starting session" then register.put scope (session, .starting)
      else if entry.message = "session terminated" then register.erase scope
      else
        match settlement? entry.message with
        | some progress => register.modify scope fun noted => (noted.1, progress)
        | none => register
    | _, _ => register
  else register

/-- The register of a journal. -/
def ofEntries (entries : List Journal.Entry) : Register := entries.foldl read .empty

theorem ofEntries_append_singleton (entries : List Journal.Entry) (entry : Journal.Entry) :
    ofEntries (entries ++ [entry]) = read (ofEntries entries) entry :=
  List.foldl_append

/-- What an entry says of the time before it is so on the register. -/
structure Bears (register : Register) (entry : Journal.Entry) : Prop where
  /-- A session that settles is the one of its scope, and was starting. -/
  settled : (settlement? entry.message).isSome → ∃ scope session,
    entry.shown? "scope" = some scope ∧ entry.shown? "session" = some session ∧
      register.get? scope = some (session, .starting)
  started : entry.message = "starting session" → ∃ scope, entry.shown? "scope" = some scope ∧
    entry.shown? "previous" =
      some (Text.quotedOption ((register.get? scope).map fun noted => noted.2.name))
  ended : entry.message = "session terminated" → ∃ scope session progress,
    entry.shown? "scope" = some scope ∧ entry.shown? "session" = some session ∧
      register.get? scope = some (session, progress) ∧
      entry.shown? "from" = some progress.label

/-! ### Entries that tell of no change -/

/-- An entry that tells of no change. -/
structure Quiet (entry : Journal.Entry) : Prop where
  read_eq : ∀ register, read register entry = register
  bears : entry.target = speaker → ∀ register, Bears register entry

theorem quiet_of_other_speaker {entry : Journal.Entry} (other : entry.target ≠ speaker) :
    Quiet entry :=
  ⟨fun _ => if_neg other, fun own => absurd own other⟩

theorem quiet_of_other_message {entry : Journal.Entry}
    (notStarted : entry.message ≠ "starting session")
    (notEnded : entry.message ≠ "session terminated")
    (notSettled : settlement? entry.message = none) : Quiet entry := by
  refine ⟨fun register => ?_, fun _ register => ⟨fun settled => ?_, fun started => ?_,
    fun ended => ?_⟩⟩
  · unfold read
    simp only [notStarted, notEnded, notSettled, ↓reduceIte]
    repeat' split
    all_goals rfl
  · rw [notSettled] at settled
    cases settled
  · exact absurd started notStarted
  · exact absurd ended notEnded

theorem quiet_backend (event : Backend.Event) : Quiet (Event.backend event).entry := by
  refine quiet_of_other_speaker ?_
  cases event <;> simp [Event.entry, Backend.Event.entry, Conversation.Event.entry, Backend.target,
    speaker]

theorem quiet_reusing (integration : String) (scope : Scope) (session : SessionId)
    (progress : Progress) :
    Quiet (Session.Event.reusing integration scope session progress).entry := by
  apply quiet_of_other_message <;> simp [settlement?, Session.Event.entry, Session.Event.parts]

theorem quiet_completionDropped (session : SessionId) :
    Quiet (Session.Event.completionDropped session).entry := by
  apply quiet_of_other_message <;> simp [settlement?, Session.Event.entry, Session.Event.parts]

/-! ### Entries that tell of a change -/

section Change

variable {register : Register} {scope : Scope} {session : SessionId}

theorem read_started (integration : String) (previous : Option Progress) :
    read register (Session.Event.starting integration scope session previous).entry =
      register.put scope (toString session, .starting) := rfl

theorem bears_started (integration : String) :
    Bears register (Session.Event.starting integration scope session
      ((register.get? scope).map Prod.snd)).entry := by
  refine ⟨fun settled => ?_, fun _ => ⟨scope, rfl, ?_⟩, fun ended => ?_⟩
  · simp [Session.Event.entry, Session.Event.parts, settlement?] at settled
  · rw [show (fun noted : String × Progress => noted.2.name) = Progress.name ∘ Prod.snd from rfl,
      ← Option.map_map]
    rfl
  · simp [Session.Event.entry, Session.Event.parts] at ended

theorem read_ended (last : Progress) :
    read register (Session.Event.terminated scope session last).entry = register.erase scope := rfl

theorem bears_ended {last : Progress} (bound : register.get? scope = some (toString session, last)) :
    Bears register (Session.Event.terminated scope session last).entry := by
  refine ⟨fun settled => ?_, fun started => ?_, fun _ => ⟨_, _, _, rfl, rfl, bound, rfl⟩⟩
  · simp [Session.Event.entry, Session.Event.parts, settlement?] at settled
  · simp [Session.Event.entry, Session.Event.parts] at started

variable {event : Session.Event} {progress : Progress}
  (settled : event.settled? = some (scope, session, progress))
include settled

theorem read_settled :
    read register event.entry = register.modify scope fun noted => (noted.1, progress) := by
  cases event <;> cases settled <;> rfl

theorem bears_settled (starting : register.get? scope = some (toString session, .starting)) :
    Bears register event.entry := by
  refine ⟨fun _ => ⟨scope, toString session, ?_, ?_, starting⟩, fun started => ?_, fun ended => ?_⟩
  · cases event <;> cases settled <;> rfl
  · cases event <;> cases settled <;> rfl
  · cases event <;> simp [Session.Event.settled?, Session.Event.entry, Session.Event.parts]
      at settled started
  · cases event <;> simp [Session.Event.settled?, Session.Event.entry, Session.Event.parts]
      at settled ended

end Change

end Register

/-! ### A manager and its journal -/

namespace Manager

variable {σ : Type} {manager after : Manager σ} {scope : Scope} {entry : Entry}

/-- The journal of a manager as it is shown. -/
def shownJournal (manager : Manager σ) : List Journal.Entry := manager.journal.map Event.entry

/-- The journal of a manager tells of all its sessions, and no entry is at odds with those before. -/
structure Journaled (manager : Manager σ) : Prop where
  current : ∀ scope, (Register.ofEntries manager.shownJournal).get? scope =
    (manager.entry? scope).map Entry.noted
  borne : ∀ earlier entry later, manager.shownJournal = earlier ++ entry :: later →
    entry.target = Register.speaker → (Register.ofEntries earlier).Bears entry

namespace Journaled

/-- An entry is added together with the change that it tells of. -/
theorem noted (journaled : manager.Journaled) {event : Event}
    (journal : after.journal = manager.journal ++ [event])
    (bears : event.entry.target = Register.speaker →
      (Register.ofEntries manager.shownJournal).Bears event.entry)
    (current : ∀ scope, ((Register.ofEntries manager.shownJournal).read event.entry).get? scope =
      (after.entry? scope).map Entry.noted) : after.Journaled := by
  have shown : after.shownJournal = manager.shownJournal ++ [event.entry] := by
    simp [shownJournal, journal]
  constructor
  · intro scope
    rw [shown, Register.ofEntries_append_singleton, current]
  · intro earlier entry later split own
    rw [shown] at split
    rcases split_append_singleton split with ⟨rfl, rfl, -⟩ | ⟨rest, before, -⟩
    · exact bears own
    · exact journaled.borne earlier entry rest before own

theorem fresh (launch : LaunchSpecification) (capabilities : Capability.Declaration)
    (transport : σ) : (Manager.fresh launch capabilities transport).Journaled := by
  constructor
  · intro scope
    rfl
  · intro earlier entry later split
    simp [shownJournal, Manager.fresh] at split

/-- An entry that tells of no change goes with none. -/
theorem quiet (journaled : manager.Journaled) {event : Event}
    (quiet : Register.Quiet event.entry) : (manager.noteAll [event]).Journaled := by
  refine journaled.noted rfl (fun own => quiet.bears own _) fun scope => ?_
  rw [quiet.read_eq, journaled.current, entry?_noteAll]

theorem backend (journaled : manager.Journaled) (events : List Backend.Event) :
    (manager.noteAll (events.map .backend)).Journaled := by
  induction events generalizing manager with
  | nil => simpa [noteAll] using journaled
  | cons event rest ih =>
      have later := ih (journaled.quiet (Register.quiet_backend event))
      simpa [noteAll] using later

theorem afterCall (journaled : manager.Journaled) (state : σ) (events : List Backend.Event) :
    (manager.afterCall state events).Journaled := by
  have moved : { manager with transport := state }.Journaled := ⟨journaled.current, journaled.borne⟩
  exact moved.backend events

/-! ### Changes of the table -/

/-- A session that was starting settles, and an entry says so. -/
theorem settled (journaled : manager.Journaled) (found : manager.entry? scope = some entry)
    (starting : entry.progress = .starting) {event : Session.Event} {progress : Progress}
    (tells : event.settled? = some (scope, entry.handle.id, progress)) :
    ((manager.setProgress scope progress).note event).Journaled := by
  have bound : (Register.ofEntries manager.shownJournal).get? scope =
      some (toString entry.handle.id, .starting) := by
    rw [journaled.current, found, Option.map_some, Entry.noted, starting]
  refine journaled.noted rfl (fun _ => Register.bears_settled tells bound) fun other => ?_
  rw [show Event.entry (.session event) = event.entry from rfl, Register.read_settled tells,
    Keyed.get?_modify, entry?_note, entry?_setProgress, journaled.current, journaled.current]
  split
  · rw [found]
    rfl
  · rfl

/-- A session is enrolled, and an entry says so. -/
theorem enrol (journaled : manager.Journaled) (scope : Scope) :
    (manager.enrol scope).2.Journaled := by
  let register := Register.ofEntries manager.shownJournal
  let former := (manager.entry? scope).map Entry.progress
  have previous : former = (register.get? scope).map Prod.snd := by
    rw [journaled.current, Option.map_map]
    rfl
  have journal : (manager.enrol scope).2.journal = manager.journal ++
      [.session (.starting manager.launch.integration scope (manager.last + 1) former)] := rfl
  refine journaled.noted journal (fun _ => ?_) fun other => ?_
  · rw [previous]
    exact Register.bears_started manager.launch.integration
  · rw [show Event.entry (.session _) = Session.Event.entry _ from rfl, Register.read_started,
      Keyed.get?_put, entry?_enrol, journaled.current]
    split <;> rfl

/-- The transport's answer to a start settles the session, or leaves it starting. -/
theorem conclude (journaled : manager.Journaled) {handle : Handle}
    (found : manager.entry? handle.scope = some ⟨handle, .starting⟩)
    (answer : Except Backend.Error StartOutcome) :
    (manager.conclude handle answer).2.Journaled := by
  rcases answer with cause | _ | _
  · exact journaled.settled found rfl rfl
  · exact journaled.settled found rfl rfl
  · exact journaled

theorem markRunning (journaled : manager.Journaled) (handle : Handle) :
    (manager.markRunning handle).2.Journaled := by
  rcases manager.markRunning_cases handle with ⟨awaited, marked⟩ | ⟨error, -, refused⟩
  · rcases awaited_eq_ok_iff.mp awaited with ⟨entry, found, current, starting⟩
    rw [marked, ← current]
    exact journaled.settled found starting rfl
  · rw [refused]
    exact journaled

theorem markFailed (journaled : manager.Journaled) (handle : Handle) (cause : Backend.Error) :
    (manager.markFailed handle cause).2.Journaled := by
  rcases manager.markFailed_cases handle cause with ⟨awaited, marked⟩ | ⟨error, -, refused⟩
  · rcases awaited_eq_ok_iff.mp awaited with ⟨entry, found, current, starting⟩
    rw [marked, ← current]
    exact journaled.settled found starting rfl
  · rw [refused]
    exact journaled

theorem settle (journaled : manager.Journaled) (completion : Completion) :
    (manager.settle completion).2.Journaled := by
  unfold Manager.settle
  split
  · exact journaled.quiet (Register.quiet_completionDropped completion.session)
  · split
    · exact journaled.markRunning _
    · exact journaled.markFailed _ _

theorem settleAll (journaled : manager.Journaled) (completions : List Completion) :
    (manager.settleAll completions).2.Journaled := by
  induction completions generalizing manager with
  | nil => exact journaled
  | cons completion rest ih => exact ih (journaled.settle completion)

/-! ### Operations -/

theorem ensureStarted (journaled : manager.Journaled) (transport : Transport σ) (scope : Scope) :
    (manager.ensureStarted transport scope).2.Journaled := by
  rcases manager.ensureStarted_cases transport scope with
    ⟨entry, found, live, reused⟩ | ⟨idle, answer, state, events, called, begun⟩
  · rw [reused]
    exact journaled.quiet (Register.quiet_reusing ..)
  · rw [begun]
    refine ((journaled.enrol scope).afterCall state events).conclude ?_ answer
    exact (manager.entry?_enrol scope scope).trans (if_pos rfl)

theorem closeScope (journaled : manager.Journaled) (transport : Transport σ) (scope : Scope) :
    (manager.closeScope transport scope).2.Journaled := by
  -- The entry comes last, behind what the transport notes while it stops the session.
  have ended {entry : Entry} (found : manager.entry? scope = some entry)
      (events : List Backend.Event) {after : Manager σ}
      (journal : after.journal = (manager.noteAll (events.map .backend)).journal ++
        [.session (.terminated scope entry.handle.id entry.progress)])
      (removed : ∀ other, after.entry? other =
        if other = scope then none else manager.entry? other) : after.Journaled := by
    have told := journaled.backend events
    refine told.noted journal (fun _ => Register.bears_ended ?_) fun other => ?_
    · rw [told.current, entry?_noteAll, found]
      rfl
    · rw [show Event.entry (.session _) = Session.Event.entry _ from rfl, Register.read_ended,
        Keyed.get?_erase, told.current, removed, entry?_noteAll]
      split <;> rfl
  have removed := manager.entry?_closeScope transport scope
  rcases manager.closeScope_cases transport scope with ⟨absent, closed⟩ |
    ⟨entry, found, ⟨live, state, events, called, closed⟩ | ⟨failed, closed⟩⟩
  · rw [closed]
    exact journaled
  · rw [closed] at removed ⊢
    exact ended found events rfl removed
  · rw [closed] at removed ⊢
    exact ended found [] (by simp [note, noteAll, remove]) removed

theorem perform (journaled : manager.Journaled) (transport : Transport σ)
    (operation : HostOperation) : (manager.perform transport operation).Journaled := by
  rcases operation with (scope | _ | scope) | handle | ⟨handle, cause⟩
  · exact journaled.ensureStarted transport scope
  · exact (journaled.afterCall _ _).settleAll _
  · exact journaled.closeScope transport scope
  · exact journaled.markRunning handle
  · exact journaled.markFailed handle cause

theorem performAll (journaled : manager.Journaled) (transport : Transport σ)
    (operations : List HostOperation) : (manager.performAll transport operations).Journaled := by
  induction operations generalizing manager with
  | nil => exact journaled
  | cons operation rest ih => exact ih (journaled.perform transport operation)

end Journaled

/--
After any operations, the register that is read off the journal has the session of every scope and
its state, and no entry of the journal was at odds with the register at its time: a session that is
told to run or to have failed was starting, and the former state that an entry gives is the one on the
register.
-/
theorem journal_tells_table (launch : LaunchSpecification) (capabilities : Capability.Declaration)
    (transport : Transport σ) (state : σ) (operations : List HostOperation) :
    let manager := (Manager.fresh launch capabilities state).performAll transport operations
    let entries := manager.journal.map Event.entry
    (∀ scope, (Register.ofEntries entries).get? scope =
      (manager.entry? scope).map fun entry => (toString entry.handle.id, entry.progress)) ∧
    (∀ scope, manager.state scope = ((Register.ofEntries entries).get? scope).elim .unstarted
      fun noted => .bound noted.2) ∧
    ∀ earlier entry later, entries = earlier ++ entry :: later →
      entry.target = Register.speaker → (Register.ofEntries earlier).Bears entry := by
  intro manager entries
  have journaled : manager.Journaled := (Journaled.fresh launch capabilities state).performAll
    transport operations
  refine ⟨journaled.current, fun scope => ?_, journaled.borne⟩
  rw [show (Register.ofEntries entries).get? scope = _ from journaled.current scope, Manager.state]
  cases manager.entry? scope <;> rfl

/-- A start that is refused, and another one that is pending when the scope is closed. -/
example :
    let script : Transport.Script :=
      { next := [.error ⟨"executable not found", .wordings []⟩], otherwise := .ok .pending }
    let entries := ((Manager.fresh default default script).performAll (.scripted true)
      [.own (.ensure "workspace"), .own (.ensure "workspace"),
        .own (.close "workspace")]).shownJournal
    entries.map (fun entry => (entry.message, entry.shown? "session")) =
        [("starting session", some "1"), ("session failed to start", some "1"),
          ("starting session", some "2"), ("session terminated", some "2")] ∧
      entries.filterMap (Journal.Entry.shown? · "previous") = ["None", "Some(Failed)"] ∧
      entries.filterMap (Journal.Entry.shown? · "from") = ["starting"] := by
  decide

end Manager

end EditorSession
