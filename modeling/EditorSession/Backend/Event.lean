import EditorSession.Backend.Failure
import EditorSession.Capability
import EditorSession.Journal
import EditorSession.Session.Basic

/-!
# What is noted of backends

The events of conversations with backends and of the processes they run in, and the entries that
show them. Process numbers are part of the events; nothing depends on them. A conversation is held
by a worker while the editor goes on, so its events are kept apart from those of the transport.
-/

namespace EditorSession

/-- An event of a conversation. -/
inductive Conversation.Event
  | sendingRequest (session : SessionId) (method : String) (id : Int)
  | sendingNotification (session : SessionId) (method : String)
  | skippingResponse (session : SessionId) (expected : Int) (received : Option Int)
  | ignoringRequest (session : SessionId) (method : String)
  | skippingNotification (session : SessionId) (method : String)
  | givingUp (session : SessionId) (request : Int) (messages : Nat)
  | notAdvertised (session : SessionId) (integration : String) (kinds : List Capability.Kind)
  | handshakeComplete (session : SessionId) (server : Option String)
  | shutdownFailed (failure : Backend.Failure)
  | exitFailed (failure : Backend.Failure)
  deriving Repr

/-- The part that speaks of conversations and of backends. -/
def Backend.target : String := "vuln_lsp_bootstrap::adapter"

/-- The features of a list, as journal fields show them. -/
def Capability.showKinds (kinds : List Capability.Kind) : String :=
  "[" ++ String.intercalate ", " (kinds.map Capability.Kind.label) ++ "]"

namespace Conversation

/-- The level, the message and the fields of an event. -/
def Event.parts : Event → Journal.Level × String × List (String × Journal.Content)
  | sendingRequest session method id =>
    (.debug, "sending request",
      [("session", .id session), ("method", .words method), ("id", .number id)])
  | sendingNotification session method =>
    (.debug, "sending notification", [("session", .id session), ("method", .words method)])
  | skippingResponse session expected received =>
    (.warn, "skipping response with non-matching ID",
      [("session", .id session), ("expected", .number expected),
        ("received", .shown (Text.quotedOption (received.map toString)))])
  | ignoringRequest session method =>
    (.debug, "ignoring server-initiated request",
      [("session", .id session), ("method", .shown method)])
  | skippingNotification session method =>
    (.debug, "skipping server notification",
      [("session", .id session), ("method", .shown method)])
  | givingUp session request messages =>
    (.warn, "giving up on response after reaching maximum iterations",
      [("session", .id session), ("request_id", .number request),
        ("max_iterations", .number messages)])
  | notAdvertised session integration kinds =>
    (.warn, "backend does not advertise declared capabilities",
      [("session", .id session), ("integration", .shown integration),
        ("capabilities", .shown (Capability.showKinds kinds))])
  | handshakeComplete session server =>
    (.debug, "handshake complete",
      [("session", .id session),
        ("server", .shown (Text.quotedOption (server.map Text.quoted)))])
  | shutdownFailed failure =>
    (.debug, "shutdown request failed",
      [("operation", .words "shutdown"), ("error", .shown failure.message)])
  | exitFailed failure =>
    (.debug, "exit notification failed",
      [("operation", .words "exit"), ("error", .shown failure.message)])

/-- The entry of an event. -/
def Event.entry (event : Event) : Journal.Entry :=
  let (level, message, fields) := event.parts
  { level, target := Backend.target, message, fields }

end Conversation

namespace Backend

/-- An event of a transport. -/
inductive Event
  /-- A worker's conversation with a backend went on. -/
  | conversation (event : Conversation.Event)
  | spawning (integration command : String) (arguments : List String)
  | spawned (integration : String) (process : Nat)
  | handshakePending (session : SessionId) (scope : Scope) (process : Nat)
  | running (session : SessionId) (process : Nat)
  | handshakeFailed (session : SessionId) (failure : Failure)
  | nothingToStop (session : SessionId)
  | stoppingHandshake (session : SessionId)
  | shutdownNotSent (session : SessionId) (cause : String)
  | exited (session : SessionId) (status : Nat)
  | statusUnknown (session : SessionId) (cause : String)
  | ignoredExit (session : SessionId)
  | killFailed (session : SessionId) (cause : String)
  /-- A dry run recorded a start. -/
  | rehearsed (session : SessionId) (scope : Scope) (executable : String)
  deriving Repr

/-- The level, the part that speaks, the message and the fields of an event. -/
def Event.entry : Event → Journal.Entry
  | conversation event => event.entry
  | rehearsed session scope executable =>
    ⟨.info, "vuln_lsp_cli::dry_run", "dry run: backend not spawned",
      [("session", .id session), ("scope", .shown scope), ("executable", .shown executable)]⟩
  | spawning integration command arguments =>
    ⟨.debug, target, "spawning backend process",
      [("integration", .shown integration), ("command", .shown command),
        ("args", .shown (Text.quotedList arguments))]⟩
  | spawned integration process =>
    ⟨.debug, target, "backend process spawned",
      [("integration", .shown integration), ("pid", .number process)]⟩
  | handshakePending session scope process =>
    ⟨.debug, target, "handshake pending",
      [("session", .id session), ("scope", .shown scope), ("pid", .number process)]⟩
  | running session process =>
    ⟨.info, target, "backend running",
      [("session", .id session), ("pid", .number process)]⟩
  | handshakeFailed session failure =>
    ⟨.warn, target, "handshake failed, killing backend",
      [("session", .id session), ("error", .shown failure.message)]⟩
  | nothingToStop session =>
    ⟨.debug, target, "no backend to stop",
      [("session", .id session)]⟩
  | stoppingHandshake session =>
    ⟨.debug, target, "stopping backend mid-handshake",
      [("session", .id session)]⟩
  | shutdownNotSent session cause =>
    ⟨.warn, target, "could not send shutdown, killing backend",
      [("session", .id session), ("error", .shown cause)]⟩
  | exited session status =>
    ⟨.debug, target, "backend exited",
      [("session", .id session),
        ("status", .shown ("ExitStatus(unix_wait_status(" ++ toString status ++ "))"))]⟩
  | statusUnknown session cause =>
    ⟨.warn, target, "failed to check backend status",
      [("session", .id session), ("error", .shown cause)]⟩
  | ignoredExit session =>
    ⟨.debug, target, "backend ignored exit, killing",
      [("session", .id session)]⟩
  | killFailed session cause =>
    ⟨.warn, target, "failed to kill backend process",
      [("session", .id session), ("error", .shown cause)]⟩

end Backend

end EditorSession
