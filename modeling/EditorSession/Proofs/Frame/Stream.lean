import EditorSession.Proofs.Frame.Header

/-!
# Streams of frames

A stream may hold any number of frames, one after another. What was written as frames is received
payload by payload, whatever octets the payloads are made of, and what follows the last frame stays
unread (`receiveEach_encode`). Who reads after another one goes on where that one stopped
(`receiveEach_add`).
-/

namespace EditorSession.Frame

/-- Reads so many frames in turn, going on after a fault, and yields what was read of each, with the
rest of the stream. -/
def receiveEach : (count : Nat) → (stream : Octets) → List (Except Failure Octets) × Octets
  | 0, stream => ([], stream)
  | count + 1, stream =>
    let (result, stream) := receive stream
    let (results, stream) := receiveEach count stream
    (result :: results, stream)

/-- Writes the frames of payloads in turn, going on after a failure. -/
def Sink.sendEach (sink : Sink) : List Octets → List (Except Failure Unit) × Sink
  | [] => ([], sink)
  | payload :: payloads =>
    let (result, sink) := sink.send payload
    let (results, sink) := sink.sendEach payloads
    (result :: results, sink)

/-! ### Reading in turn -/

theorem receiveEach_succ (count : Nat) (stream : Octets) :
    receiveEach (count + 1) stream =
      ((receive stream).1 :: (receiveEach count (receive stream).2).1,
        (receiveEach count (receive stream).2).2) := rfl

theorem receiveEach_length (count : Nat) (stream : Octets) :
    (receiveEach count stream).1.length = count := by
  induction count generalizing stream with
  | zero => rfl
  | succ count ih => exact congrArg Nat.succ (ih _)

/-- Who reads after another one reads what it left. -/
theorem receiveEach_add (first second : Nat) (stream : Octets) :
    receiveEach (first + second) stream =
      ((receiveEach first stream).1 ++ (receiveEach second (receiveEach first stream).2).1,
        (receiveEach second (receiveEach first stream).2).2) := by
  induction first generalizing stream with
  | zero => simp [receiveEach]
  | succ first ih =>
      rw [Nat.succ_add, receiveEach_succ, ih]
      rfl

/-- Frames that were read in turn may be taken as read by two readers. -/
theorem receiveEach_append {first second : List (Except Failure Octets)} {stream rest : Octets}
    (received : receiveEach (first ++ second).length stream = (first ++ second, rest)) :
    ∃ middle, receiveEach first.length stream = (first, middle) ∧
      receiveEach second.length middle = (second, rest) := by
  rw [List.length_append, receiveEach_add] at received
  rcases Prod.mk.inj received with ⟨all, left⟩
  rcases List.append_inj all (receiveEach_length _ _) with ⟨before, after⟩
  exact ⟨(receiveEach first.length stream).2, Prod.ext before rfl, Prod.ext after left⟩

/-! ### Reading what was written -/

theorem readHeader_encode {payload : Octets} (rest : Octets)
    (fits : payload.length < Nat.pow 2 64) :
    readHeader [] none (encode payload ++ rest) = (.ok payload.length, payload ++ rest) := by
  rw [encode, List.append_assoc, readHeader_header fits]

/-- The frame of a payload is received as the payload, and nothing beyond it is read. -/
theorem receive_encode {payload : Octets} (rest : Octets)
    (bounded : payload.length ≤ payloadLimit) :
    receive (encode payload ++ rest) = (.ok payload, rest) := by
  have fits : payload.length < Nat.pow 2 64 := Nat.lt_of_le_of_lt bounded (by decide)
  simp only [receive, readHeader_encode rest fits, Nat.not_lt.mpr bounded, ↓reduceIte,
    List.take_left, List.drop_left]

/-- The frame of a payload that is too long is refused by its header; the payload stays unread. -/
theorem receive_encode_of_longer {payload : Octets} (rest : Octets)
    (longer : payloadLimit < payload.length) (fits : payload.length < Nat.pow 2 64) :
    receive (encode payload ++ rest) = (.error (.tooLarge payload.length), payload ++ rest) := by
  simp only [receive, readHeader_encode rest fits, longer, ↓reduceIte]

theorem receiveEach_encode {payloads : List Octets} (rest : Octets)
    (bounded : ∀ payload ∈ payloads, payload.length ≤ payloadLimit) :
    receiveEach payloads.length (payloads.flatMap encode ++ rest) =
      (payloads.map .ok, rest) := by
  induction payloads with
  | nil => rfl
  | cons payload payloads ih =>
      have first := receive_encode (payloads.flatMap encode ++ rest)
        (bounded payload (List.mem_cons_self ..))
      have others := ih fun other mem => bounded other (List.mem_cons_of_mem _ mem)
      rw [List.flatMap_cons, List.append_assoc, List.length_cons, receiveEach_succ, first, others]
      rfl

/-- A sink without a bound takes every frame. -/
theorem sendEach_of_unbounded (sink : Sink) (unbounded : sink.room = none)
    (payloads : List Octets) :
    sink.sendEach payloads =
      (payloads.map fun _ => .ok (),
        { sink with written := sink.written ++ payloads.flatMap encode }) := by
  induction payloads generalizing sink with
  | nil => simp [Sink.sendEach]
  | cons payload payloads ih =>
      have sent : sink.send payload =
          (.ok (), { sink with written := sink.written ++ encode payload }) := by
        rw [Sink.send, Sink.write, unbounded]
      have others := ih { sink with written := sink.written ++ encode payload } unbounded
      simp only [Sink.sendEach, sent, others, List.append_assoc, List.map_cons, List.flatMap_cons]

/--
Whatever octets payloads are made of, and whatever follows their frames: written in turn, they are
received in turn and unchanged, and exactly what follows is left unread.
-/
theorem receiveEach_sendEach (payloads : List Octets) (rest : Octets)
    (bounded : ∀ payload ∈ payloads, payload.length ≤ payloadLimit) :
    let sent := Sink.sendEach {} payloads
    sent.1 = payloads.map (fun _ => .ok ()) ∧
      receiveEach payloads.length (sent.2.written ++ rest) = (payloads.map .ok, rest) := by
  rw [sendEach_of_unbounded {} rfl]
  exact ⟨rfl, receiveEach_encode rest bounded⟩

/-- Payloads that are empty, that are no text, or that look like headers are received as well. -/
theorem receiveEach_misleading_payloads :
    let payloads : List Octets :=
      [[], [0xFF, 0x0A], Text.Utf8.ofString "\r\n\r\nContent-Length: 9\r\n\r\n"]
    let sent := Sink.sendEach {} payloads
    (∀ payload ∈ payloads, payload.length ≤ payloadLimit) ∧
      receiveEach payloads.length (sent.2.written ++ [0x0D, 0x0A]) =
        (payloads.map .ok, [0x0D, 0x0A]) := by
  intro payloads
  have bounded : ∀ payload ∈ payloads, payload.length ≤ payloadLimit := by decide
  exact ⟨bounded, (receiveEach_sendEach payloads [0x0D, 0x0A] bounded).2⟩

end EditorSession.Frame
