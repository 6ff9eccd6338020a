import EditorSession.Channel
import EditorSession.Proofs.Frame.Stream
import EditorSession.Proofs.Message

/-!
# What a request hears

While a request waits for its response, it receives frames in order. `Heard` says which frames these
can be and what comes of them: messages that are no response to the request, and then either the
response, or a frame that is no message, or nothing, since patience came to its end. A wait receives
exactly such frames, whatever the backend writes (`await_heard`).
-/

namespace EditorSession

open Backend (Failure)

/-- What a frame is taken for: its payload must be text, the text JSON, and the JSON a message. -/
def Incoming.ofFrame : Except Frame.Failure Octets → Except Failure Incoming
  | .error failure => .error (.frame failure)
  | .ok payload =>
    match Text.Utf8.decode payload with
    | .error malformed => .error (.encoding malformed)
    | .ok text => (Incoming.parse text).mapError .payload

namespace Channel

/-- A frame of a message that is no response to a request. -/
def PassesOver (id : Int) (frame : Except Frame.Failure Octets) : Prop :=
  ∃ incoming, Incoming.ofFrame frame = .ok incoming ∧
    ∀ response, incoming = .response response → response.id ≠ some id

/-- The frames that a request of a number receives, so many at most, and what comes of them. -/
inductive Heard (id : Int) (most : Nat) :
    List (Except Frame.Failure Octets) → Except Failure Response → Prop
  /-- A frame that is no message ends the wait. -/
  | broken {passed frame failure} (few : passed.length < most)
      (others : ∀ other ∈ passed, PassesOver id other)
      (noMessage : Incoming.ofFrame frame = .error failure) :
      Heard id most (passed ++ [frame]) (.error failure)
  /-- The first response that has the number of the request is the one to it. -/
  | answered {passed frame response} (few : passed.length < most)
      (others : ∀ other ∈ passed, PassesOver id other)
      (message : Incoming.ofFrame frame = .ok (.response response))
      (own : response.id = some id) :
      Heard id most (passed ++ [frame]) (.ok response)
  /-- As many messages as are looked at, and none of them is the response. -/
  | unanswered {passed} (all : passed.length = most)
      (others : ∀ other ∈ passed, PassesOver id other) :
      Heard id most passed (.error (.unanswered id patience))

theorem read_eq (channel : Channel) :
    channel.read = (Incoming.ofFrame (Frame.receive channel.stream).1,
      { channel with stream := (Frame.receive channel.stream).2 }) := by
  cases received : (Frame.receive channel.stream).1 with
  | error failure => simp only [read, received, Incoming.ofFrame]
  | ok payload =>
      cases decoded : Text.Utf8.decode payload with
      | error malformed => simp only [read, received, decoded, Incoming.ofFrame]
      | ok text => simp only [read, received, decoded, Incoming.ofFrame]

section Answers

variable {id : Int} {incoming : Incoming}

theorem answers_eq_some_iff {response : Response} :
    answers id incoming = some response ↔
      incoming = .response response ∧ response.id = some id := by
  cases incoming with
  | response other =>
      simp only [answers, Option.ite_none_right_eq_some, Option.some.injEq, Incoming.response.injEq]
      constructor
      · rintro ⟨own, rfl⟩
        exact ⟨rfl, own⟩
      · rintro ⟨rfl, own⟩
        exact ⟨own, rfl⟩
  | request other method => simp [answers]
  | notification method => simp [answers]

theorem answers_eq_none_iff :
    answers id incoming = none ↔ ∀ response, incoming = .response response → response.id ≠ some id := by
  rw [Option.eq_none_iff_forall_ne_some]
  simp only [ne_eq, answers_eq_some_iff, not_and]

end Answers

section Await

variable {id : Int} {channel : Channel} (most : Nat)

theorem await_of_broken {failure : Failure}
    (noMessage : Incoming.ofFrame (Frame.receive channel.stream).1 = .error failure) :
    channel.await id (most + 1) =
      (.error failure, { channel with stream := (Frame.receive channel.stream).2 }) := by
  rw [await, read_eq, noMessage]

theorem await_of_answered {response : Response}
    (message : Incoming.ofFrame (Frame.receive channel.stream).1 = .ok (.response response))
    (own : response.id = some id) :
    channel.await id (most + 1) =
      (.ok response, { channel with stream := (Frame.receive channel.stream).2 }) := by
  rw [await, read_eq, message]
  simp only [answers, own, if_pos]

theorem await_of_passing {incoming : Incoming}
    (message : Incoming.ofFrame (Frame.receive channel.stream).1 = .ok incoming)
    (other : ∀ response, incoming = .response response → response.id ≠ some id) :
    channel.await id (most + 1) =
      ({ channel with stream := (Frame.receive channel.stream).2 }.note
        (passedOver channel.session id incoming)).await id most := by
  rw [await, read_eq, message]
  simp only [answers_eq_none_iff.mpr other]

end Await

theorem Heard.broken_at_once {id : Int} {most : Nat} {frame : Except Frame.Failure Octets}
    {failure : Failure} (noMessage : Incoming.ofFrame frame = .error failure) :
    Heard id (most + 1) [frame] (.error failure) := by
  have few : ([] : List (Except Frame.Failure Octets)).length < most + 1 := Nat.succ_pos most
  exact .broken few (by simp) noMessage

theorem Heard.answered_at_once {id : Int} {most : Nat} {frame : Except Frame.Failure Octets}
    {response : Response} (message : Incoming.ofFrame frame = .ok (.response response))
    (own : response.id = some id) : Heard id (most + 1) [frame] (.ok response) := by
  have few : ([] : List (Except Frame.Failure Octets)).length < most + 1 := Nat.succ_pos most
  exact .answered few (by simp) message own

/-- A message that is passed over comes before what is heard afterwards. -/
theorem Heard.cons {id : Int} {most : Nat} {frame : Except Frame.Failure Octets}
    {frames : List (Except Frame.Failure Octets)} {outcome : Except Failure Response}
    (passed : PassesOver id frame) (heard : Heard id most frames outcome) :
    Heard id (most + 1) (frame :: frames) outcome := by
  have before {others : List (Except Frame.Failure Octets)}
      (rest : ∀ other ∈ others, PassesOver id other) :
      ∀ other ∈ frame :: others, PassesOver id other := by
    intro other mem
    rcases List.mem_cons.mp mem with rfl | mem
    · exact passed
    · exact rest other mem
  cases heard with
  | broken few others noMessage =>
      exact .broken (Nat.succ_lt_succ few) (before others) noMessage
  | answered few others message own =>
      exact .answered (Nat.succ_lt_succ few) (before others) message own
  | unanswered all others => exact .unanswered (congrArg Nat.succ all) (before others)

/-- Waiting changes the stream and the journal of a channel, nothing else. -/
structure Listens (before after : Channel) (frames : List (Except Frame.Failure Octets)) : Prop where
  received : Frame.receiveEach frames.length before.stream = (frames, after.stream)
  session : after.session = before.session
  sink : after.sink = before.sink
  lastId : after.lastId = before.lastId

/-- Waiting for a response receives frames in order, and ends as these frames have it. -/
theorem await_heard (id : Int) (most : Nat) (channel : Channel) :
    ∃ frames, Listens channel (channel.await id most).2 frames ∧
      Heard id most frames (channel.await id most).1 := by
  -- Over the messages that may still be looked at.
  induction most generalizing channel with
  | zero => exact ⟨[], ⟨rfl, rfl, rfl, rfl⟩, .unanswered rfl (by simp)⟩
  | succ most ih =>
      let frame := (Frame.receive channel.stream).1
      let next : Channel := { channel with stream := (Frame.receive channel.stream).2 }
      have one : Listens channel next [frame] := ⟨rfl, rfl, rfl, rfl⟩
      cases message : Incoming.ofFrame frame with
      | error failure =>
          rw [await_of_broken most message]
          exact ⟨[frame], one, .broken_at_once message⟩
      | ok incoming =>
          cases answer : answers id incoming with
          | some response =>
              rcases answers_eq_some_iff.mp answer with ⟨rfl, own⟩
              rw [await_of_answered most message own]
              exact ⟨[frame], one, .answered_at_once message own⟩
          | none =>
              have other := answers_eq_none_iff.mp answer
              rw [await_of_passing most message other]
              rcases ih (next.note (passedOver channel.session id incoming)) with
                ⟨frames, later, heard⟩
              refine ⟨frame :: frames, ⟨?_, later.session, later.sink, later.lastId⟩,
                heard.cons ⟨incoming, message, other⟩⟩
              have rest : Frame.receiveEach frames.length next.stream = _ := later.received
              rw [List.length_cons, Frame.receiveEach_succ]
              exact congrArg (fun later => (frame :: later.1, later.2)) rest

end Channel

end EditorSession
