import EditorSession.Gate
import EditorSession.Keyed
import EditorSession.Session.Transport

/-!
# The session manager

The manager keeps at most one live session for each scope. A scope whose session is starting or
running keeps that session whatever is asked of it; a scope without one, or whose last start failed,
gets a new session with a new number. Pending starts are settled by what the transport reports, and
closing a scope removes its session and stops it.

Every operation is made of steps that touch the table of sessions alone (`enrol`, `conclude`,
`settle`, `remove`) and of calls of the transport between them.
-/

namespace EditorSession

namespace Session

/-- What the editor holds to name a session. -/
structure Handle where
  id : SessionId
  scope : Scope
  capabilities : Capability.Declaration
  deriving DecidableEq, Repr, Inhabited

/-- Two handles name the same session when their numbers are equal. -/
def Handle.same (first second : Handle) : Bool := first.id == second.id

/-- The session bound to a scope. -/
structure Entry where
  handle : Handle
  progress : Progress
  deriving DecidableEq, Repr, Inhabited

/-- Why the manager does not do what is asked of it. -/
inductive Error
  | startFailed (integration : String) (scope : Scope) (executable : String)
      (cause : Backend.Error)
  /-- The handle is not that of the current session of its scope. -/
  | stale (scope : Scope) (session : SessionId)
  /-- The session is not starting any more. -/
  | settledBefore (session : SessionId) (current requested : Progress)
  deriving Repr

/-- The wording of an error. -/
def Error.message : Error → String
  | startFailed integration scope executable cause =>
    "failed to start " ++ integration ++ " backend '" ++ executable ++ "' for scope " ++ scope
      ++ ": " ++ cause.message
  | stale scope session =>
    "session " ++ toString session ++ " is not the current session for scope " ++ scope
  | settledBefore session current requested =>
    "session " ++ toString session ++ " cannot move from " ++ current.label ++ " to "
      ++ requested.label

/-- The wordings of the causes of an error, outermost first. -/
def Error.causes : Error → List String
  | startFailed _ _ _ cause => cause.message :: cause.causes
  | _ => []

/-- What the manager notes. -/
inductive Event
  | reusing (integration : String) (scope : Scope) (session : SessionId) (progress : Progress)
  | starting (integration : String) (scope : Scope) (session : SessionId)
      (previous : Option Progress)
  /-- The transport said at once that the session is running. -/
  | startedRunning (integration : String) (scope : Scope) (session : SessionId)
  | startFailed (integration : String) (scope : Scope) (session : SessionId)
      (executable : String) (cause : Backend.Error)
  | running (scope : Scope) (session : SessionId)
  | handshakeFailed (scope : Scope) (session : SessionId) (cause : Backend.Error)
  | completionDropped (session : SessionId)
  | terminated (scope : Scope) (session : SessionId) (last : Progress)
  deriving Repr

/-- The level, the message and the fields of an event. -/
def Event.parts : Event → Journal.Level × String × List (String × Journal.Content)
  | reusing integration scope session progress =>
    (.debug, "reusing live session",
      [("integration", .shown integration), ("scope", .shown scope), ("session", .id session),
        ("state", .shown progress.label)])
  | starting integration scope session previous =>
    (.debug, "starting session",
      [("integration", .shown integration), ("scope", .shown scope), ("session", .id session),
        ("previous", .shown (Text.quotedOption (previous.map Progress.name)))])
  | startedRunning integration scope session =>
    (.info, "session running",
      [("integration", .shown integration), ("scope", .shown scope), ("session", .id session)])
  | startFailed integration scope session executable cause =>
    (.warn, "session failed to start",
      [("integration", .shown integration), ("scope", .shown scope), ("session", .id session),
        ("executable", .shown executable), ("error", .shown cause.message)])
  | running scope session =>
    (.info, "session running", [("scope", .shown scope), ("session", .id session)])
  | handshakeFailed scope session cause =>
    (.warn, "session handshake failed",
      [("scope", .shown scope), ("session", .id session), ("error", .shown cause.message)])
  | completionDropped session =>
    (.debug, "completion for a closed session dropped", [("session", .id session)])
  | terminated scope session last =>
    (.info, "session terminated",
      [("scope", .shown scope), ("session", .id session), ("from", .shown last.label),
        ("to", .shown State.terminated.label)])

/-- The entry of an event. -/
def Event.entry (event : Event) : Journal.Entry :=
  let (level, message, fields) := event.parts
  { level, target := "vuln_lsp_bootstrap::manager", message, fields }

end Session

/-- What is noted of the documents of a scope. -/
inductive Association.Event
  | associated (scope : Scope) (session : SessionId) (path : Octets)
  /-- The documents of a failed session follow the session that replaced it. -/
  | moved (scope : Scope) (former current : SessionId) (documents : Nat)
  deriving Repr

/-- The entry of an event. -/
def Association.Event.entry (event : Association.Event) : Journal.Entry :=
  let (message, fields) : String × List (String × Journal.Content) :=
    match event with
    | associated scope session path =>
      ("document associated with session",
        [("scope", .shown scope), ("session", .id session),
          ("path", .shown (Text.Utf8.display path))])
    | moved scope former current documents =>
      ("documents moved to replacement session",
        [("scope", .shown scope), ("from", .id former), ("to", .id current),
          ("documents", .number documents)])
  { level := .debug, target := "vuln_lsp_bootstrap::integration", message, fields }

/-- Anything that is noted while the events of an editor are handled. -/
inductive Event
  | gate (event : Gate.Event)
  | session (event : Session.Event)
  | association (event : Association.Event)
  | backend (event : Backend.Event)
  deriving Repr

/-- The entry of an event. -/
def Event.entry : Event → Journal.Entry
  | gate event => event.entry
  | session event => event.entry
  | association event => event.entry
  | backend event => event.entry

/-- Whether an event belongs to a conversation with a backend, which a worker holds. -/
def Event.isConversation : Event → Bool
  | backend (.conversation _) => true
  | _ => false

/-- The sessions of one integration, and the transport that owns their backends. -/
structure Manager (σ : Type) where
  launch : LaunchSpecification
  capabilities : Capability.Declaration
  transport : σ
  sessions : Keyed Scope Session.Entry := .empty
  /-- The number of the last session. -/
  last : SessionId := 0
  /-- What was noted, oldest first. -/
  journal : List Event := []

namespace Manager

open Session (Handle Entry Progress State)

variable {σ : Type}

/-- The manager of a configuration. -/
def ofConfiguration (configuration : Configuration) (mode : LaunchMode) (transport : σ) :
    Manager σ where
  launch := LaunchSpecification.ofConfiguration configuration mode
  capabilities := ⟨configuration.id, configuration.capabilities⟩
  transport

/-! ### Reading -/

/-- The entry of a scope. -/
def entry? (manager : Manager σ) (scope : Scope) : Option Entry := manager.sessions.get? scope

/-- The state of a scope. -/
def state (manager : Manager σ) (scope : Scope) : State :=
  match manager.entry? scope with
  | some entry => .bound entry.progress
  | none => .unstarted

/-- The state of the session that a handle names. -/
def stateOf (manager : Manager σ) (handle : Handle) : State :=
  match manager.entry? handle.scope with
  | some entry => if entry.handle.id = handle.id then .bound entry.progress else .terminated
  | none => .terminated

/-- The live session of a scope. -/
def session? (manager : Manager σ) (scope : Scope) : Option Handle :=
  match manager.entry? scope with
  | some entry => if entry.progress.isLive then some entry.handle else none
  | none => none

/-- The number of scopes whose session is starting. -/
def pendingCount (manager : Manager σ) : Nat :=
  manager.sessions.values.countP fun entry => entry.progress == .starting

/-- The handle of a session that is bound to some scope. -/
def handleOf? (manager : Manager σ) (session : SessionId) : Option Handle :=
  (manager.sessions.values.find? fun entry => entry.handle.id == session).map Entry.handle

/-! ### Steps -/

/-- Notes events. -/
def noteAll (manager : Manager σ) (events : List Event) : Manager σ :=
  { manager with journal := manager.journal ++ events }

/-- Notes an event of the manager. -/
def note (manager : Manager σ) (event : Session.Event) : Manager σ :=
  manager.noteAll [.session event]

/-- The manager after a call of the transport. -/
def afterCall (manager : Manager σ) (transport : σ) (events : List Backend.Event) : Manager σ :=
  { manager with transport }.noteAll (events.map .backend)

/-- The manager with a session's progress changed. -/
def setProgress (manager : Manager σ) (scope : Scope) (progress : Progress) : Manager σ :=
  { manager with sessions := manager.sessions.modify scope fun entry => { entry with progress } }

/-- Looks for a live session of a scope, to be used again. -/
def reuse? (manager : Manager σ) (scope : Scope) : Option (Handle × Manager σ) :=
  match manager.entry? scope with
  | some entry =>
    if entry.progress.isLive then
      some (entry.handle, manager.note
        (.reusing manager.launch.integration scope entry.handle.id entry.progress))
    else none
  | none => none

/-- Binds a new session to a scope. -/
def enrol (manager : Manager σ) (scope : Scope) : Handle × Manager σ :=
  let handle : Handle := ⟨manager.last + 1, scope, manager.capabilities⟩
  let previous := (manager.entry? scope).map Entry.progress
  (handle,
    { manager with
      last := manager.last + 1
      sessions := manager.sessions.put scope ⟨handle, .starting⟩ }.note
        (.starting manager.launch.integration scope handle.id previous))

/-- What the transport is given to start a session. -/
def request (manager : Manager σ) (handle : Handle) : StartRequest where
  session := handle.id
  scope := handle.scope
  launch := manager.launch
  capabilities := handle.capabilities

/-- Takes the transport's answer to a start. -/
def conclude (manager : Manager σ) (handle : Handle) (answer : Except Backend.Error StartOutcome) :
    Except Session.Error Handle × Manager σ :=
  let integration := manager.launch.integration
  let executable := manager.launch.executable
  match answer with
  | .ok .running =>
    (.ok handle, (manager.setProgress handle.scope .running).note
      (.startedRunning integration handle.scope handle.id))
  | .ok .pending => (.ok handle, manager)
  | .error cause =>
    (.error (.startFailed integration handle.scope executable cause),
      (manager.setProgress handle.scope .failed).note
        (.startFailed integration handle.scope handle.id executable cause))

/-! ### Operations -/

/-- Yields the session of a scope, starting one if there is no live one. -/
def ensureStarted (transport : Transport σ) (manager : Manager σ) (scope : Scope) :
    Except Session.Error Handle × Manager σ :=
  match manager.reuse? scope with
  | some (handle, manager) => (.ok handle, manager)
  | none =>
    let (handle, manager) := manager.enrol scope
    let (answer, state, events) := transport.start (manager.request handle) manager.transport
    (manager.afterCall state events).conclude handle answer

/-- The progress of the session that a handle names, if it is still starting. -/
def awaited (manager : Manager σ) (handle : Handle) (requested : Progress) :
    Except Session.Error Unit :=
  match manager.entry? handle.scope with
  | some entry =>
    if entry.handle.id ≠ handle.id then .error (.stale handle.scope handle.id)
    else if entry.progress = .starting then .ok ()
    else .error (.settledBefore handle.id entry.progress requested)
  | none => .error (.stale handle.scope handle.id)

/-- Records that a pending start ended well. -/
def markRunning (manager : Manager σ) (handle : Handle) :
    Except Session.Error Unit × Manager σ :=
  match manager.awaited handle .running with
  | .error error => (.error error, manager)
  | .ok _ =>
    (.ok (), (manager.setProgress handle.scope .running).note (.running handle.scope handle.id))

/-- Records that a pending start failed, and yields the error to report. -/
def markFailed (manager : Manager σ) (handle : Handle) (cause : Backend.Error) :
    Session.Error × Manager σ :=
  match manager.awaited handle .failed with
  | .error error => (error, manager)
  | .ok _ =>
    (.startFailed manager.launch.integration handle.scope manager.launch.executable cause,
      (manager.setProgress handle.scope .failed).note
        (.handshakeFailed handle.scope handle.id cause))

/-- Takes one completion. One for a session that is bound to no scope is dropped. -/
def settle (manager : Manager σ) (completion : Completion) :
    Option (Except Session.Error Handle) × Manager σ :=
  match manager.handleOf? completion.session with
  | none => (none, manager.note (.completionDropped completion.session))
  | some handle =>
    match completion.result with
    | .ok _ =>
      let (result, manager) := manager.markRunning handle
      (some (result.map fun _ => handle), manager)
    | .error cause =>
      let (error, manager) := manager.markFailed handle cause
      (some (.error error), manager)

/-- Takes completions in turn, and yields a result for each one that was not dropped. -/
def settleAll (manager : Manager σ) :
    List Completion → List (Except Session.Error Handle) × Manager σ
  | [] => ([], manager)
  | completion :: rest =>
    let (result, manager) := manager.settle completion
    let (results, manager) := manager.settleAll rest
    (result.toList ++ results, manager)

/-- Settles the pending starts that the transport reports. -/
def poll (transport : Transport σ) (manager : Manager σ) :
    List (Except Session.Error Handle) × Manager σ :=
  let (completions, state, events) := transport.poll manager.transport
  (manager.afterCall state events).settleAll completions

/-- Removes the session of a scope. -/
def remove (manager : Manager σ) (scope : Scope) : Manager σ :=
  { manager with sessions := manager.sessions.erase scope }

/-- Closes a scope: its session is removed, and stopped if it was live. -/
def closeScope (transport : Transport σ) (manager : Manager σ) (scope : Scope) :
    Option Handle × Manager σ :=
  match manager.entry? scope with
  | none => (none, manager)
  | some entry =>
    let manager := manager.remove scope
    let manager :=
      if entry.progress.isLive then
        let (state, events) := transport.stop entry.handle.id manager.transport
        manager.afterCall state events
      else manager
    (some entry.handle, manager.note (.terminated scope entry.handle.id entry.progress))

end Manager

end EditorSession
