import EditorSession.Proofs.Channel.Unrelated
import EditorSession.Proofs.Json.RoundTrip

/-!
# What is sent is understood

A message is written as JSON, its text as octets, and these as a frame; the other side takes the
layers off again in the opposite order. As long as a frame is no longer than the other side accepts,
the message arrives with its number, its method and its parameters (`wire_round_trip`). A longer one
is written as well, and refused (`refused_of_longer`).
-/

namespace EditorSession

namespace Message

variable {message : Message}

/-- The parameters of a message, if it has some. -/
def params? : Message → Option Datum
  | request _ _ params | notification _ params => params

/-- A message that the formats carry without loss: its number has 64 bits, and so have the integers
in its parameters, which are nested no deeper than a hundred levels. -/
structure Portable (message : Message) : Prop where
  word : ∀ id ∈ message.id?, Incoming.IsWord id
  params : ∀ params ∈ message.params?, params.Portable 100

/-- The members of a message in the order of their names. -/
def members : Message → Members
  | request id method params =>
    [("id", .integer id), ("jsonrpc", .text "2.0"), ("method", .text method)] ++ paramsMember params
  | notification method params =>
    [("jsonrpc", .text "2.0"), ("method", .text method)] ++ paramsMember params

/-- What the other side takes a message for. -/
def understood : Message → Incoming
  | request id method _ => .request (.integer id) method
  | notification method _ => .notification method

/-! ### The layers of a message -/

theorem members_ordered (message : Message) : message.members.Ordered := by
  have names : ["id", "jsonrpc", "method", "params"].Pairwise (· < ·) := by decide +kernel
  have among : (message.members.map Prod.fst).Sublist ["id", "jsonrpc", "method", "params"] := by
    cases message with
    | request id method params => cases params <;> simp [members, paramsMember]
    | notification method params => cases params <;> simp [members, paramsMember]
  exact List.pairwise_map.mp (names.sublist among)

/-- Reading puts the members that were written in the order of their names. -/
theorem exists_datum_eq (message : Message) :
    ∃ written : Members, message.datum = .record written ∧ written.arranged = message.members ∧
      ∀ member ∈ written, member ∈ message.members := by
  have ordered := message.members_ordered
  cases message with
  | request id method params =>
      refine ⟨_, rfl, ?_, by simp +contextual [members, or_imp]⟩
      -- Only the version and the number change places.
      have first : "id" < "jsonrpc" := by decide +kernel
      simp only [Members.arranged, List.cons_append, List.foldl_cons, Members.insertSorted, first,
        ↓reduceIte]
      exact Members.foldl_insertSorted_of_ordered [("id", .integer id), ("jsonrpc", .text "2.0")]
        ordered
  | notification method params => exact ⟨_, rfl, ordered.arranged_eq, by simp [members]⟩

theorem Portable.members (portable : message.Portable) :
    ∀ member ∈ message.members, member.2.Portable 126 := by
  have carried {params : Datum} (given : message.params? = some params) : params.Portable 126 :=
    (portable.params params given).mono (by decide)
  cases message with
  | request id method params =>
      have number : (Datum.integer id).Portable 126 := by
        rcases portable.word id rfl with ⟨least, most⟩
        have half : Int.ofNat (Nat.pow 2 63) = 9223372036854775808 := rfl
        exact .integer (by omega) (by omega)
      cases params with
      | none => simp [Message.members, paramsMember, number, Datum.Portable.text]
      | some params =>
          simp [Message.members, paramsMember, number, Datum.Portable.text, carried rfl]
  | notification method params =>
      cases params with
      | none => simp [Message.members, paramsMember, Datum.Portable.text]
      | some params => simp [Message.members, paramsMember, Datum.Portable.text, carried rfl]

theorem Portable.datum?_encode (portable : message.Portable) :
    Incoming.datum? message.encode = some (.record message.members) := by
  rcases message.exists_datum_eq with ⟨written, datum, arranged, among⟩
  have read : Json.read (Json.write message.datum) = some (.record message.members) := by
    rw [datum, Json.read_write_record fun member mem => portable.members member (among member mem),
      arranged]
  rw [Incoming.datum?, encode, Text.Utf8.decode_encode]
  exact read

/-- The members of a message tell what it is. -/
theorem ofDatum_members (message : Message) :
    Incoming.ofDatum (.record message.members) = .ok message.understood := by
  cases message with
  | request id method params => cases params <;> rfl
  | notification method params => cases params <;> rfl

theorem Portable.ofFrame_encode (portable : message.Portable) :
    Incoming.ofFrame (.ok message.encode) = .ok message.understood := by
  rw [Incoming.ofFrame_of_datum? portable.datum?_encode, ofDatum_members]
  rfl

/-! ### From one end of a pipe to the other -/

/--
What is sent is understood. Whatever the number, the method and the parameters of a message are, and
whatever follows its frame: if the other side accepts a payload of its length, it receives the
payload, reads from it the members of the message, and takes the message for what it is. Parameters
that are null are not written.
-/
theorem wire_round_trip :
    (∀ message : Message, message.Portable → message.encode.length ≤ Frame.payloadLimit →
      ∀ rest : Octets,
      let sent := Frame.Sink.send {} message.encode
      sent.1 = .ok () ∧
        Frame.receive (sent.2.written ++ rest) = (.ok message.encode, rest) ∧
        Incoming.datum? message.encode = some (.record message.members) ∧
        Incoming.ofFrame (.ok message.encode) = .ok message.understood) ∧
    ∀ (channel : Channel) (method : String),
      let notified := channel.sink.send (notification method none).encode
      let requested := channel.sink.send (request (channel.lastId + 1) method none).encode
      (channel.notify method .null).2.sink = notified.2 ∧
        (channel.requestRaw method .null).2.sink = requested.2 ∧
        ∀ {α : Type} (decode : Schema.Decoder α),
          (channel.requestAs decode method .null).2.sink = requested.2 := by
  constructor
  · intro message portable accepted rest sent
    have received : Frame.receive (sent.2.written ++ rest) = (.ok message.encode, rest) :=
      Frame.receive_encode rest accepted
    exact ⟨rfl, received, portable.datum?_encode, portable.ofFrame_encode⟩
  · intro channel method notified requested
    have raw := channel.requestRaw_sink method .null
    refine ⟨rfl, raw, fun decode => ?_⟩
    rw [Channel.requestAs_eq]
    exact raw

/-- A request with marks, control characters and characters of several octets arrives. -/
theorem wire_round_trip_marks :
    let params : Datum := .record [("at", .list [.integer (-5), .null, .text "\\\"\u0001"]),
      ("to", .record [])]
    let message := request 7 "a\"b\\c\né" (some params)
    message.Portable ∧ message.encode.length ≤ Frame.payloadLimit ∧
      Frame.receive (Frame.Sink.send {} message.encode).2.written = (.ok message.encode, []) ∧
      Incoming.ofFrame (.ok message.encode) = .ok message.understood := by
  intro params message
  have carried : params.Portable 100 := by
    refine .record (by unfold Members.Ordered; decide +kernel) ?_
    simp only [List.mem_cons, List.not_mem_nil, or_false, forall_eq_or_imp, forall_eq]
    refine ⟨.list ?_, .record (by simp [Members.Ordered]) (by simp)⟩
    simp only [List.mem_cons, List.not_mem_nil, or_false, forall_eq_or_imp, forall_eq]
    exact ⟨.integer (by decide) (by decide), .null, .text _⟩
  have portable : message.Portable := by
    refine ⟨?_, ?_⟩
    · rintro id ⟨⟩
      decide
    · rintro given ⟨⟩
      exact carried
  have accepted : message.encode.length ≤ Frame.payloadLimit := by decide +kernel
  rcases wire_round_trip.1 message portable accepted [] with ⟨-, received, -, understood⟩
  rw [List.append_nil] at received
  exact ⟨portable, accepted, received, understood⟩

/-- A message that is longer than the other side accepts is written, and refused unread. -/
theorem refused_of_longer (longer : Frame.payloadLimit < message.encode.length)
    (fits : message.encode.length < Nat.pow 2 64) (rest : Octets) :
    let sent := Frame.Sink.send {} message.encode
    sent.1 = .ok () ∧
      Frame.receive (sent.2.written ++ rest) =
        (.error (.tooLarge message.encode.length), message.encode ++ rest) :=
  ⟨rfl, Frame.receive_encode_of_longer rest longer fits⟩

theorem length_encode_repeated (count : Nat) :
    (request 1 (String.ofList (List.replicate count 'a')) none).encode.length = count + 36 := by
  let before : List Char := "\x7b\"jsonrpc\":\"2.0\",\"id\":1,\"method\":\"".toList
  let after : List Char := "\"\x7d".toList
  have written (method : String) : Json.write (request 1 method none).datum =
      before ++ (method.toList.flatMap Json.writeChar ++ after) := by
    simp only [datum, paramsMember, Json.write, Json.writeMembers, Json.writeText, List.isEmpty_nil,
      List.isEmpty_cons, Bool.false_eq_true, ↓reduceIte, List.append_assoc, List.cons_append,
      List.append_nil, List.nil_append]
    rfl
  have octetsBefore : (Text.Utf8.encode before).length = 34 := by decide +kernel
  have octetsAfter : (Text.Utf8.encode after).length = 2 := by decide +kernel
  have plain : Json.writeChar 'a' = ['a'] := rfl
  have octet : Text.Utf8.encodeChar 'a' = [0x61] := rfl
  have repeated : Text.Utf8.encode ((List.replicate count 'a').flatMap Json.writeChar) =
      List.replicate count 0x61 := by
    simp [Text.Utf8.encode, List.flatMap_replicate, plain, octet]
  rw [encode, written, Text.Utf8.encode_append, Text.Utf8.encode_append, String.toList_ofList,
    repeated, List.length_append, List.length_append, List.length_replicate, octetsBefore,
    octetsAfter]
  omega

/-- A request whose method is as long as a payload may be is portable, and does not arrive. -/
theorem long_method_refused :
    let message := request 1 (String.ofList (List.replicate Frame.payloadLimit 'a')) none
    let sent := Frame.Sink.send {} message.encode
    message.Portable ∧ sent.1 = .ok () ∧
      Incoming.ofFrame (Frame.receive sent.2.written).1 ≠ .ok message.understood := by
  intro message sent
  have portable : message.Portable := ⟨by rintro id ⟨⟩; decide, nofun⟩
  have length : message.encode.length = Frame.payloadLimit + 36 := length_encode_repeated _
  have limit : Frame.payloadLimit = 16777216 := rfl
  have longer : Frame.payloadLimit < message.encode.length := by omega
  have fits : message.encode.length < Nat.pow 2 64 := by
    rw [length, limit]
    decide
  rcases refused_of_longer longer fits [] with ⟨written, refused⟩
  refine ⟨portable, written, ?_⟩
  rw [List.append_nil] at refused
  rw [refused]
  nofun

end Message

end EditorSession
