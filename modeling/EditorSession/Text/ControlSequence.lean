import EditorSession.Text.Utf8

/-!
# Control sequences

What a terminal would do with a text and not show: control characters, and the sequences behind an
escape character that choose colours, move the cursor or carry a string to the terminal. `visible`
keeps what is left to see. Blanks and line ends stay; inside a sequence they break it off. A
sequence that the text does not end swallows the rest of it.
-/

namespace EditorSession.Text

/-- What the characters of a text are read as. -/
inductive ControlMode
  /-- Text to see. -/
  | ground
  /-- Behind an escape character. -/
  | escape
  /-- Behind an escape character and characters that choose among its sequences. -/
  | intermediate
  /-- The parameters of a sequence that ends with its first letter. -/
  | parameters
  /-- The parameters in front of a device string. -/
  | device
  /-- A string that is not shown. -/
  | string
  /-- A command to the terminal, which a bell ends. -/
  | command
  deriving DecidableEq, Repr, Inhabited

namespace ControlMode

/-- Whether controls take effect inside a sequence, so that a line end breaks it off. -/
def obeysControls : ControlMode → Bool
  | ground | escape | intermediate | parameters => true
  | device | string | command => false

/-- Whether a character is a blank or a line end that is shown as it stands. -/
def isSpacing (code : Nat) : Bool :=
  code == 0x09 || code == 0x0A || code == 0x0C || code == 0x0D

/-- The mode behind the character after an escape character. -/
def afterEscape (code : Nat) : ControlMode :=
  if code ≤ 0x2F then intermediate
  else if code = 0x5B then parameters
  else if code = 0x5D then command
  else if code = 0x50 then device
  else if code = 0x58 ∨ code = 0x5E ∨ code = 0x5F then string
  else ground

/-- Whether the encoding of a character has the octet that ends a string. -/
def holdsTerminator (character : Char) : Bool :=
  (Utf8.ofString (String.ofList [character])).contains 0x9C

/-- The mode after a printable ASCII character. -/
def afterPrintable (mode : ControlMode) (code : Nat) : ControlMode :=
  match mode with
  | ground => ground
  | escape => afterEscape code
  | intermediate => if code ≤ 0x2F then intermediate else ground
  | parameters => if 0x40 ≤ code then ground else parameters
  | device => if 0x40 ≤ code ∨ code = 0x3A then string else device
  | string => string
  | command => command

/-- The mode after a character, and whether the character is seen. -/
def step (mode : ControlMode) (character : Char) : ControlMode × Bool :=
  let code := character.toNat
  if code = 0x1B then (escape, false)
  else if code = 0x18 ∨ code = 0x1A then (ground, false)
  else if code < 0x20 then
    if isSpacing code && mode.obeysControls then (ground, true)
    else if code = 0x07 ∧ mode = command then (ground, false)
    else (mode, false)
  else if code < 0x7F then (mode.afterPrintable code, mode == ground)
  else if code = 0x7F then (mode, false)
  else if mode = string ∧ holdsTerminator character then (ground, false)
  else (mode, mode == ground)

/-- The characters that are seen, from a mode on. -/
def visibleFrom (mode : ControlMode) : List Char → List Char
  | [] => []
  | character :: rest =>
    match mode.step character with
    | (next, true) => character :: visibleFrom next rest
    | (next, false) => visibleFrom next rest

end ControlMode

/-- What is left to see of a text. -/
def visible (text : String) : String :=
  String.ofList (ControlMode.ground.visibleFrom text.toList)

end EditorSession.Text
