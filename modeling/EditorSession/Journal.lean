import EditorSession.Text.Quoted

/-!
# The journal

What the program notes down while it works: a level, the part that speaks, a message, and named
fields in order. The parts of the program note events of types of their own; here is the common form
that they are shown in.
-/

namespace EditorSession.Journal

/-- How much an entry matters, from least to most. -/
inductive Level
  | trace
  | debug
  | info
  | warn
  | error
  deriving DecidableEq, Repr, Inhabited

/-- The name of a level. -/
def Level.name : Level → String
  | trace => "TRACE"
  | debug => "DEBUG"
  | info => "INFO"
  | warn => "WARN"
  | error => "ERROR"

/-- The content of a field. -/
inductive Content
  /-- A text that is shown as it is. -/
  | shown (text : String)
  /-- A text that is quoted where the form has no quotation marks of its own. -/
  | words (text : String)
  | number (value : Int)
  | flag (value : Bool)
  deriving DecidableEq, Repr, Inhabited

/-- One entry of the journal. -/
structure Entry where
  level : Level
  /-- The part that speaks. -/
  target : String
  message : String
  fields : List (String × Content)
  deriving DecidableEq, Repr, Inhabited

/-- The names of the fields of an entry; its message is one of them. -/
def Entry.fieldNames (entry : Entry) : List String := "message" :: entry.fields.map Prod.fst

/-- A number shown as a text. -/
def Content.id (value : Nat) : Content := .shown (toString value)

end EditorSession.Journal
