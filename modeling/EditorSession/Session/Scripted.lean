import EditorSession.Session.Transport

/-!
# Transports that follow a script

A transport without backends: it answers starts from a queue and then with a fixed answer, and
reports the completions that were put into it. A dry run uses one that says of every start that it
is running.
-/

namespace EditorSession.Transport

/-- The answer to a start. -/
abbrev Answer := Except Backend.Error StartOutcome

/-- What a scripted transport is going to say. -/
structure Script where
  /-- The answers to the next starts. -/
  next : List Answer := []
  /-- The answer to every start after those. -/
  otherwise : Answer := .ok .running
  /-- What the next poll reports. -/
  settled : List Completion := []

/-- Follows a script. A transport that does not report never says how a pending start ended. -/
def scripted (reports : Bool) : Transport Script where
  start _ script :=
    match script.next with
    | answer :: next => (answer, { script with next }, [])
    | [] => (script.otherwise, script, [])
  poll script :=
    if reports then (script.settled, { script with settled := [] }, []) else ([], script, [])
  stop _ script := (script, [])

/-- Says of every start that it is running, and does nothing. -/
def rehearsal : Transport Unit where
  start request state :=
    (.ok .running, state,
      [.rehearsed request.session request.scope request.launch.executable])
  poll state := ([], state, [])
  stop _ state := (state, [])

end EditorSession.Transport
