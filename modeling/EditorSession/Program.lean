import EditorSession.Backend.Pool
import EditorSession.CommandLine.Reader
import EditorSession.Configuration.Load
import EditorSession.Journal.Filter
import EditorSession.Replay.Report
import EditorSession.Replay.Run
import EditorSession.Session.Scripted

/-!
# The program

One call of the program: the command line says which configuration and which documents to replay,
and whether to start backends or only to show what they would be started with. What goes wrong
before the replay is told in one line and ends the call.
-/

namespace EditorSession.Program

open Replay (Console Setup Stage Transcript)

/-- What shows the journal. -/
structure Listener where
  filter : Journal.Filter
  format : LogFormat
  /-- Whether the conversations with backends are heard, which are not held by the call itself. -/
  hearsConversations : Bool := true
  deriving DecidableEq, Repr, Inhabited

/-- Whether an event is shown. -/
def Listener.admits (listener : Listener) (event : Event) : Bool :=
  (listener.hearsConversations || !event.isConversation) && listener.filter.admits event.entry

/-- Why a call fails before or besides its replay. -/
inductive Failure
  | usage (error : CommandLine.UsageError)
  | configuration (error : ConfigurationError)
  | filter (error : Journal.FilterError)
  | unwritten (cause : String)
  /-- Backends were still starting, or still exiting, after all the time they were given. -/
  | unsettled

/-- The wording of a failure. -/
def Failure.message : Failure → String
  | usage error => "error: " ++ error.message
  | configuration error => error.message
  | filter error => "invalid log filter: " ++ error.message
  | unwritten cause => "failed to write output: " ++ cause
  | unsettled => "backends did not settle"

/-- What a call leaves behind. -/
structure Result where
  /-- The status that the call ends with. -/
  status : Nat
  transcript : Transcript := {}
  /-- What was noted and is shown. -/
  journal : List Journal.Entry := []
  listener : Option Listener := none
  failure : Option Failure := none

/-- What a call is made in. -/
structure Surroundings (ω : Type) where
  host : Backend.Host ω
  world : ω
  /-- Reads the configuration of a path. -/
  load : String → Except ConfigurationError Configuration
  /-- What shows the journal already; a call sets up its own if there is nothing yet. -/
  listener : Option Listener := none
  /-- How often a call looks at backends that are starting, or at one that is exiting. -/
  looks : Nat := 100000

/-! ### Before the replay -/

/-- The configuration that options ask for. -/
def configurationOf (load : String → Except ConfigurationError Configuration)
    (options : CommandLine.Options) : Except ConfigurationError Configuration := do
  let chosen ←
    match options.configuration with
    | some path => load path
    | none => Configuration.preset options.integration
  let configuration : Configuration := {
    chosen with
    logFilter := options.logFilter.getD chosen.logFilter
    logFormat := options.logFormat.getD chosen.logFormat
    capabilities := options.enabled.foldl Toggles.enable chosen.capabilities }
  configuration.validate
  return configuration

/-- What shows the journal of a configuration. -/
def listenerOf (configuration : Configuration) : Except Journal.FilterError Listener := do
  let filter ← Journal.Filter.ofText configuration.logFilter
  return { filter, format := configuration.logFormat }

/-- A call that is going to replay. -/
structure Call where
  options : CommandLine.Options
  configuration : Configuration
  listener : Listener

/-- What comes of the options of a call. -/
def prepare {ω : Type} (surroundings : Surroundings ω) (options : CommandLine.Options) :
    Except Failure Call := do
  let configuration ← (configurationOf surroundings.load options).mapError .configuration
  let listener ←
    match surroundings.listener with
    | some listener => .ok listener
    | none => (listenerOf configuration).mapError .filter
  return { options, configuration, listener }

/-! ### The replay -/

/-- The note at the end of a dry run. -/
def rehearsedEntry {σ : Type} (state : Transport.Recorded σ) : Journal.Entry where
  level := .debug
  target := "vuln_lsp_cli"
  message := "dry run complete"
  fields := [("started", .number state.starts.length), ("stopped", .number state.stops.length)]

/-- The setup of a replay. -/
def setupOf {σ : Type} (call : Call) (transport : Transport σ) (pause : σ → σ) :
    Setup σ Transcript where
  transport
  pause
  console := Console.keeping
  scope := call.options.scope

/-- The stage that a replay starts on. -/
def stageOf {σ : Type} (call : Call) (transcript : Transcript) (state : σ) :
    Stage σ Transcript where
  integration := Integration.ofConfiguration call.configuration call.options.mode state
  console := transcript

/-- The failure that an interruption is. -/
def failureOf : Replay.Interruption → Failure
  | .unwritten cause => .unwritten cause
  | .unsettled => .unsettled

/-- What is left behind by a replay that ended on a stage, with events after it and a note. -/
def conclude {σ : Type} (call : Call) (result : Except Replay.Interruption Unit)
    (stage : Stage σ Transcript) (events : List Event) (note : Option Journal.Entry) : Result :=
  let events := (stage.integration.manager.journal ++ events).filter call.listener.admits
  let journal := events.map Event.entry ++ note.toList.filter call.listener.filter.admits
  match result with
  | .ok _ =>
    { status := if stage.hasFailures then 1 else 0
      transcript := stage.console
      journal
      listener := some call.listener }
  | .error interruption =>
    let failure := failureOf interruption
    { status := 1
      transcript := stage.console.add .errors
        (CommandLine.programName ++ ": " ++ failure.message ++ "\n")
      journal
      listener := some call.listener
      failure := some failure }

/-- The replay of a dry run. What sessions would be started with is shown first. -/
def rehearsal (call : Call) (looks : Nat) :
    Except Replay.Interruption Unit × Stage (Transport.Recorded Unit) Transcript :=
  let start := stageOf call {} { inner := () }
  let manager := start.integration.manager
  let setup := setupOf call Transport.rehearsal.recorded id
  setup.replay looks call.options.documents { start with
    console := start.console.add .output
      (Replay.reportText manager.launch manager.capabilities) }

/-- Shows what sessions would be started with, and replays without backends. -/
def rehearse (call : Call) (looks : Nat) : Result :=
  let (result, stage) := rehearsal call looks
  let note :=
    match result with
    | .ok _ => some (rehearsedEntry stage.integration.manager.transport)
    | .error _ => none
  conclude call result stage [] note

/-- Replays with backends on a host, and gives them up in the end. -/
def perform {ω : Type} (surroundings : Surroundings ω) (call : Call) : Result :=
  let host := surroundings.host
  let pool : Backend.Pool ω :=
    { world := surroundings.world, patience := Backend.Pool.defaultPatience }
  let setup := setupOf call (Backend.Pool.transport host) (Backend.Pool.pause host)
  let (result, stage) :=
    setup.replay surroundings.looks call.options.documents (stageOf call {} pool)
  match stage.integration.manager.transport.close host surroundings.looks with
  | some (_, events) => conclude call result stage (events.map Event.backend) none
  | none => conclude call (result.bind fun _ => .error .unsettled) stage [] none

/-! ### The call -/

/-- What is left behind by a call that does not come to its replay. -/
def refuse (failure : Failure) : Result :=
  match failure with
  | .usage error =>
    { status := 2
      transcript := { errors :=
        (Failure.usage error).message ++ "\n\nFor more information, try '--help'.\n" }
      failure := some failure }
  | failure =>
    { status := 1
      transcript := { errors := CommandLine.programName ++ ": " ++ failure.message ++ "\n" }
      failure := some failure }

/-- The result of a call with arguments. -/
def run {ω : Type} (surroundings : Surroundings ω) (arguments : List Octets) : Result :=
  match CommandLine.read arguments with
  | .error .help => { status := 0, transcript := { output := CommandLine.helpText } }
  | .error .version => { status := 0, transcript := { output := CommandLine.versionText } }
  | .error (.wrong error) => refuse (.usage error)
  | .ok options =>
    match prepare surroundings options with
    | .error failure => refuse failure
    | .ok call =>
      if options.isDryRun then rehearse call surroundings.looks
      else perform surroundings call

end EditorSession.Program
