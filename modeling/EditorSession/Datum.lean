import EditorSession.Decimal.Binary64

/-!
# Data

The value that a configuration document or a message payload denotes, whatever format it was written
in. Members of a record keep the order in which a reader is to meet them: the document's order, or
the order of their names where a format prescribes that.
-/

namespace EditorSession

/-- A value read from a document or a message. -/
inductive Datum
  | null
  | flag (value : Bool)
  | integer (value : Int)
  | real (value : Decimal.Binary64)
  | text (value : String)
  /-- A date, a time or both, as written. -/
  | stamp (written : String)
  | list (items : List Datum)
  /-- A list of records each of which has a header of its own. -/
  | tables (records : List Datum)
  | record (members : List (String × Datum))
  deriving Repr, Inhabited

/-- The members of a record. -/
abbrev Members := List (String × Datum)

namespace Members

/-- The member of a name. -/
def find? (name : String) (members : Members) : Option Datum :=
  members.lookup name

/-- Members in the order of their names with one more; an equal name gives way to the new member. -/
def insertSorted (name : String) (value : Datum) : Members → Members
  | [] => [(name, value)]
  | (other, kept) :: rest =>
    if name < other then (name, value) :: (other, kept) :: rest
    else if name = other then (name, value) :: rest
    else (other, kept) :: insertSorted name value rest

end Members

namespace Datum

/-- A member of a record; nothing else has members. -/
def member? (name : String) : Datum → Option Datum
  | record members => Members.find? name members
  | _ => none

/-- Whether a value is the null of its format. -/
def isNull : Datum → Bool
  | null => true
  | _ => false

/-- A text, or null where there is none. -/
def ofOption (value : Option String) : Datum :=
  match value with
  | some written => text written
  | none => null

/-- A list of texts. -/
def ofTexts (texts : List String) : Datum :=
  list (texts.map text)

/-- A natural number. -/
def ofNat (number : Nat) : Datum := integer number

end Datum

end EditorSession
