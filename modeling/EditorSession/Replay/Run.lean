import EditorSession.Integration
import EditorSession.Replay.Record

/-!
# Replays

A replay opens documents one after another in one scope, as an editor would, waits until no session
is starting any more, and closes the scope. Every document and every session that was starting is
told of once. A write that fails ends the replay where it is.
-/

namespace EditorSession.Replay

variable {σ κ : Type}

/-- What a replay runs on. -/
structure Setup (σ κ : Type) where
  transport : Transport σ
  /-- Lets a little time pass for the transport. -/
  pause : σ → σ
  console : Console κ
  scope : Scope

/-- How far a replay has come. -/
structure Stage (σ κ : Type) where
  integration : Integration σ
  console : κ
  /-- Whether a start failed. -/
  hasFailures : Bool := false

/-- Why a replay does not reach its end. -/
inductive Interruption
  /-- The console failed. -/
  | unwritten (cause : String)
  /-- Sessions were still starting after all the rounds that were allowed. -/
  | unsettled
  deriving DecidableEq, Repr

namespace Setup

/-- Tells of something. -/
def tell (setup : Setup σ κ) (record : Record) (stage : Stage σ κ) :
    Except Interruption Unit × Stage σ κ :=
  let (result, console) := setup.console.tell record stage.console
  let stage :=
    { stage with console, hasFailures := stage.hasFailures || record.isFailure }
  (result.mapError .unwritten, stage)

/-- Tells of several things in turn, up to the first write that fails. -/
def tellEach (setup : Setup σ κ) : List Record → Stage σ κ →
    Except Interruption Unit × Stage σ κ
  | [], stage => (.ok (), stage)
  | record :: rest, stage =>
    match setup.tell record stage with
    | (.ok _, stage) => tellEach setup rest stage
    | (.error interruption, stage) => (.error interruption, stage)

/-- The record of a document that was opened. -/
def openingRecord (manager : Manager σ) (document : String) :
    Except Session.Error (Option Session.Handle) → Record
  | .ok none => .skipped document
  | .ok (some handle) => .opened handle.id (manager.stateOf handle) document
  | .error error => .refused document error

/-- Opens a document. -/
def openDocument (setup : Setup σ κ) (document : String) (stage : Stage σ κ) :
    Except Interruption Unit × Stage σ κ :=
  let (result, integration) := stage.integration.documentOpened setup.transport setup.scope
    { path := Text.Utf8.ofString document, language := none }
  setup.tell (openingRecord integration.manager document result) { stage with integration }

/-- Opens documents in turn. -/
def openEach (setup : Setup σ κ) : List String → Stage σ κ →
    Except Interruption Unit × Stage σ κ
  | [], stage => (.ok (), stage)
  | document :: rest, stage =>
    match setup.openDocument document stage with
    | (.ok _, stage) => openEach setup rest stage
    | (.error interruption, stage) => (.error interruption, stage)

/-- The record of a start that settled. -/
def settledRecord (scope : Scope) : Except Session.Error Session.Handle → Record
  | .ok handle => .running handle.id
  | .error error => .failed scope error

/-- Polls once. -/
def poll (setup : Setup σ κ) (stage : Stage σ κ) : Except Interruption Unit × Stage σ κ :=
  let (results, integration) := stage.integration.pollStarts setup.transport
  setup.tellEach (results.map (settledRecord setup.scope)) { stage with integration }

/-- Whether a session is starting. -/
def isPending (stage : Stage σ κ) : Bool := stage.integration.manager.pendingCount ≠ 0

/-- The stage after a little time. -/
def wait (setup : Setup σ κ) (stage : Stage σ κ) : Stage σ κ :=
  { stage with
    integration.manager.transport := setup.pause stage.integration.manager.transport }

/-- Polls until no session is starting, so many times at most. -/
def settle (setup : Setup σ κ) : (rounds : Nat) → Stage σ κ →
    Except Interruption Unit × Stage σ κ
  | 0, stage => (if isPending stage then .error .unsettled else .ok (), stage)
  | rounds + 1, stage =>
    if isPending stage then
      match setup.poll stage with
      | (.ok _, stage) =>
        settle setup rounds (if isPending stage then setup.wait stage else stage)
      | (.error interruption, stage) => (.error interruption, stage)
    else (.ok (), stage)

/-- Closes the scope. -/
def closeScope (setup : Setup σ κ) (stage : Stage σ κ) : Stage σ κ :=
  { stage with
    integration := (stage.integration.scopeClosed setup.transport setup.scope).2 }

/-- Replays documents; sessions that are starting then are polled so many times at most. -/
def replay (setup : Setup σ κ) (rounds : Nat) (documents : List String) (stage : Stage σ κ) :
    Except Interruption Unit × Stage σ κ :=
  match setup.openEach documents stage with
  | (.error interruption, stage) => (.error interruption, stage)
  | (.ok _, stage) =>
    match setup.settle rounds stage with
    | (.error interruption, stage) => (.error interruption, stage)
    | (.ok _, stage) => (.ok (), setup.closeScope stage)

end Setup

end EditorSession.Replay
