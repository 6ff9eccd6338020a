import EditorSession.Text.Blank
import EditorSession.Text.Utf8

/-!
# Frames

Messages travel over a pipe in frames: header lines, a blank line, and a payload whose length in
octets the header `Content-Length` gives. Writing a frame and reading it back yields the payload,
whatever octets it is made of. A reader that meets a fault leaves the stream right after the line
or the header block in which the fault lies.
-/

namespace EditorSession.Frame

/-- The longest payload that is accepted, in octets. -/
def payloadLimit : Nat := 16 * 1024 * 1024

/-- A pipe that failed or came to its end. -/
inductive PipeFailure
  /-- The stream ended inside the header. -/
  | closed
  /-- The stream ended inside the payload. -/
  | cutShort
  /-- A header line is not text. -/
  | notText
  /-- The other side takes no more. -/
  | full
  /-- There is no other side any more. -/
  | broken
  deriving DecidableEq, Repr

/-- The wording of a failure. -/
def PipeFailure.message : PipeFailure → String
  | closed => "connection closed while reading headers"
  | cutShort => "failed to fill whole buffer"
  | notText => "stream did not contain valid UTF-8"
  | full => "failed to write whole buffer"
  | broken => "Broken pipe (os error 32)"

/-- Why there is no frame. -/
inductive Failure
  | pipe (failure : PipeFailure)
  | missingLength
  | malformedLength
  | tooLarge (length : Nat)
  deriving DecidableEq, Repr

/-- The wording of a failure. -/
def Failure.message : Failure → String
  | pipe failure => "pipe I/O failed: " ++ failure.message
  | missingLength => "frame has no Content-Length header"
  | malformedLength => "frame header is malformed"
  | tooLarge length =>
    "frame of " ++ toString length ++ " bytes exceeds the " ++ toString payloadLimit
      ++ " byte limit"

/-! ### Header lines -/

/-- The octet that ends a line. -/
def lineFeed : UInt8 := 0x0A

/-- The name of the header that gives the length, with its colon. -/
def lengthName : List Char := "Content-Length:".toList

/-- The value of decimal digits. -/
def digitsValue (digits : List Char) : Nat :=
  digits.foldl (fun total digit => total * 10 + (digit.toNat - 48)) 0

/-- An unsigned 64-bit number in decimal digits; a plus sign may stand before it. -/
def lengthOf? (text : List Char) : Option Nat :=
  let digits :=
    match text with
    | '+' :: digits => digits
    | digits => digits
  if digits.isEmpty ∨ ¬digits.all (fun digit => '0' ≤ digit ∧ digit ≤ '9') then none
  else if digitsValue digits < Nat.pow 2 64 then some (digitsValue digits)
  else none

/-- What a header line says. -/
inductive HeaderLine
  /-- Nothing: the header ends here. -/
  | blank
  | length (octets : Nat)
  /-- Something that does not matter here. -/
  | other
  deriving DecidableEq, Repr

/-- The text after a start, if it starts that way. -/
def dropStart? : (start text : List Char) → Option (List Char)
  | [], text => some text
  | expected :: start, first :: text =>
    if expected = first then dropStart? start text else none
  | _ :: _, [] => none

/-- Reads a header line that is text. -/
def HeaderLine.ofText (text : List Char) : Except Failure HeaderLine :=
  let trimmed := Text.trimBlank text
  if trimmed.isEmpty then .ok .blank
  else
    match dropStart? lengthName trimmed with
    | none => .ok .other
    | some value =>
      match lengthOf? (Text.trimBlank value) with
      | some octets => .ok (.length octets)
      | none => .error .malformedLength

/-- Reads a header line. -/
def HeaderLine.ofOctets (line : Octets) : Except Failure HeaderLine :=
  match Text.Utf8.decode line with
  | .ok text => HeaderLine.ofText text
  | .error _ => .error (.pipe .notText)

/-! ### Reading -/

/-- The length that a header declared, once the header has ended. -/
def declaredLength (declared : Option Nat) : Except Failure Nat :=
  match declared with
  | some length => .ok length
  | none => .error .missingLength

/-- Reads header lines up to the blank one and yields the last length they declare, with the rest of
the stream. `line` holds the octets of the line so far, last first. -/
def readHeader (line : Octets) (declared : Option Nat) : Octets → Except Failure Nat × Octets
  | [] =>
    if line.isEmpty then (.error (.pipe .closed), [])
    else
      match HeaderLine.ofOctets line.reverse with
      | .ok .blank => (declaredLength declared, [])
      | .ok _ => (.error (.pipe .closed), [])
      | .error failure => (.error failure, [])
  | octet :: rest =>
    if octet = lineFeed then
      match HeaderLine.ofOctets (octet :: line).reverse with
      | .ok .blank => (declaredLength declared, rest)
      | .ok (.length length) => readHeader [] (some length) rest
      | .ok .other => readHeader [] declared rest
      | .error failure => (.error failure, rest)
    else readHeader (octet :: line) declared rest

/-- Reads one frame and yields its payload, with the rest of the stream. -/
def receive (stream : Octets) : Except Failure Octets × Octets :=
  match readHeader [] none stream with
  | (.error failure, rest) => (.error failure, rest)
  | (.ok length, rest) =>
    if payloadLimit < length then (.error (.tooLarge length), rest)
    else
      let payload := rest.take length
      if payload.length = length then (.ok payload, rest.drop length)
      else (.error (.pipe .cutShort), [])

/-! ### Streams that go on -/

/-- Whether a reader of a header would go on beyond the end of the stream. -/
def headerGoesOn (line : Octets) : Octets → Bool
  | [] => true
  | octet :: rest =>
    if octet = lineFeed then
      match HeaderLine.ofOctets (octet :: line).reverse with
      | .ok .blank => false
      | .ok _ => headerGoesOn [] rest
      | .error _ => false
    else headerGoesOn (octet :: line) rest

/-- Whether a reader of a frame would go on beyond the end of the stream. -/
def goesOn (stream : Octets) : Bool :=
  headerGoesOn [] stream ||
    match readHeader [] none stream with
    | (.ok length, rest) => length ≤ payloadLimit && (rest.take length).length < length
    | (.error _, _) => false

/-- What is left of a stream after all reads that do not go beyond its end, or after so many. -/
def unsettled (reads : Nat) (stream : Octets) : Octets :=
  match reads with
  | 0 => stream
  | reads + 1 => if goesOn stream then stream else unsettled reads (receive stream).2

/-- The start of a stream that is read the same way however the stream goes on. -/
def settled (stream : Octets) : Octets :=
  stream.take (stream.length - (unsettled stream.length stream).length)

/-! ### Writing -/

/-- The header of a payload. -/
def header (payload : Octets) : Octets :=
  Text.Utf8.encode (lengthName ++ ' ' :: Nat.toDigits 10 payload.length ++ "\r\n\r\n".toList)

/-- The frame of a payload. -/
def encode (payload : Octets) : Octets :=
  header payload ++ payload

/-- The writing end of a pipe: what went through, and how many octets still may. -/
structure Sink where
  written : Octets := []
  /-- Nothing means that there is no bound. -/
  room : Option Nat := none
  /-- The failure of a write that finds no room. -/
  refusal : PipeFailure := .full
  deriving DecidableEq, Repr, Inhabited

namespace Sink

/-- Writes octets as far as there is room. -/
def write (sink : Sink) (octets : Octets) : Except Failure Unit × Sink :=
  match sink.room with
  | none => (.ok (), { sink with written := sink.written ++ octets })
  | some room =>
    let accepted := octets.take room
    let result : Except Failure Unit :=
      if accepted.length = octets.length then .ok () else .error (.pipe sink.refusal)
    (result,
      { sink with
        written := sink.written ++ accepted
        room := some (room - accepted.length) })

/-- Writes the frame of a payload. -/
def send (sink : Sink) (payload : Octets) : Except Failure Unit × Sink :=
  sink.write (encode payload)

end Sink

/-- The payloads of the frames that a stream is made of, up to the first fault. -/
def payloads (budget : Nat) (stream : Octets) : List Octets :=
  match budget with
  | 0 => []
  | budget + 1 =>
    match receive stream with
    | (.ok payload, rest) => payload :: payloads budget rest
    | (.error _, _) => []

end EditorSession.Frame
