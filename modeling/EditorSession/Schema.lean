import EditorSession.Datum
import EditorSession.Decimal.Shortest
import EditorSession.Json.Writer
import EditorSession.Keyword
import EditorSession.Text.Quoted

/-!
# Fitting data to a schema

A decoder takes a `Datum` to a value of the library or says the first thing that does not fit. One
set of decoders serves both document formats; a `Dialect` holds the few points on which the formats
differ: how a keyword may be wrapped, whether surplus items of a list are refused, and how a double
is shown in a message.

A record is decoded over a preset: every member that is present replaces one field, every field that
is absent keeps its preset value, and a member that names no field is refused. A record may also be
given as a list of its fields in order.
-/

namespace EditorSession.Schema

/-- The document formats. -/
inductive Dialect
  | json
  | toml
  deriving DecidableEq, Repr

/-- What a schema asks for at a place. -/
inductive Expectation
  | text
  | flag
  | list
  | integer
  | path
  | unit
  /-- A keyword, as a text or wrapped in a record. -/
  | keyword
  | record (name : String)
  /-- A record of a given number of fields, where a list has too few. -/
  | fields (name : String) (count : Nat)
  deriving DecidableEq, Repr

/-- The wording of an expectation. -/
def Expectation.describe : Expectation → String
  | text => "a string"
  | flag => "a boolean"
  | list => "a sequence"
  | integer => "i64"
  | path => "a UTF-8 path string"
  | unit => "unit"
  | keyword => "string or map"
  | record name => "struct " ++ name
  | fields name count =>
    "struct " ++ name ++ " with " ++ toString count ++ " element" ++ (if count = 1 then "" else "s")

/-- Why a datum does not fit a schema. -/
inductive Mismatch
  | wrongType (found : Datum) (expected : Expectation)
  /-- An integer of more than 64 bits with sign. -/
  | beyondInteger (value : Int)
  /-- A wrapped keyword with other than one member. -/
  | notSingleMember
  | unknownField (name : String) (known : List String)
  | unknownVariant (name : String) (known : List String)
  | missingField (name : String)
  | tooFew (length : Nat) (expected : Expectation)
  | tooMany (length : Nat)
  /-- A value that fits none of the alternatives of a field. -/
  | noAlternative (name : String)
  /-- A keyword of a TOML document that is neither a string nor a table. -/
  | notKeyword
  | emptyWrapper
  | crowdedWrapper
  /-- A wrapped keyword of a TOML document that carries something. -/
  | loadedTable
  | loadedArray
  | wrapperNotTable (found : String)
  deriving Repr

/-- A double as the messages of a dialect show it. -/
def showReal (dialect : Dialect) (value : Decimal.Binary64) : String :=
  match dialect, value with
  | .json, value => String.ofList (Json.writeReal value)
  | .toml, .finite negative significand exponent =>
    let written := (Decimal.shortest significand exponent).positional
    String.ofList (if negative then '-' :: written else written)
  | .toml, .infinite negative => if negative then "-inf" else "inf"
  | .toml, .undefined => "NaN"

/-- The wording of what was found. -/
def showFound (dialect : Dialect) : Datum → String
  | .null => "null"
  | .flag value => "boolean `" ++ toString value ++ "`"
  | .integer value => "integer `" ++ toString value ++ "`"
  | .real value => "floating point `" ++ showReal dialect value ++ "`"
  | .text value => "string " ++ Text.quoted value
  | .list _ | .tables _ => "sequence"
  | .stamp _ | .record _ => "map"

/-- The names that would have been right. -/
def showKnown (known : List String) : String :=
  match known.map fun name => "`" ++ name ++ "`" with
  | [] => "there are none"
  | [only] => "expected " ++ only
  | [first, second] => "expected " ++ first ++ " or " ++ second
  | names => "expected one of " ++ String.intercalate ", " names

/-- The wording of a mismatch. -/
def Mismatch.message (dialect : Dialect) : Mismatch → String
  | wrongType found expected =>
    "invalid type: " ++ showFound dialect found ++ ", expected " ++ expected.describe
  | beyondInteger value => "invalid value: integer `" ++ toString value ++ "`, expected i64"
  | notSingleMember => "invalid value: map, expected map with a single key"
  | unknownField name known => "unknown field `" ++ name ++ "`, " ++ showKnown known
  | unknownVariant name known => "unknown variant `" ++ name ++ "`, " ++ showKnown known
  | missingField name => "missing field `" ++ name ++ "`"
  | tooFew length expected =>
    "invalid length " ++ toString length ++ ", expected " ++ expected.describe
  | tooMany length =>
    "invalid length " ++ toString length ++ ", expected fewer elements in array"
  | noAlternative name => "data did not match any variant of untagged enum " ++ name
  | notKeyword => "wanted string or table"
  | emptyWrapper => "wanted exactly 1 element, found 0 elements"
  | crowdedWrapper => "wanted exactly 1 element, more than 1 element"
  | loadedTable => "expected empty table"
  | loadedArray => "expected empty array"
  | wrapperNotTable found => "expected table, found " ++ found

/-- What a decoder yields. -/
abbrev Result (α : Type) := Except Mismatch α

/-- A decoder of one kind of value. -/
abbrev Decoder (α : Type) := Dialect → Datum → Result α

/-- A text. -/
def text : Decoder String
  | _, .text value => .ok value
  | _, found => .error (.wrongType found .text)

/-- A path. -/
def path : Decoder String
  | _, .text value => .ok value
  | _, found => .error (.wrongType found .path)

/-- A truth value. -/
def flag : Decoder Bool
  | _, .flag value => .ok value
  | _, found => .error (.wrongType found .flag)

/-- An integer of 64 bits with sign. -/
def integer : Decoder Int
  | _, .integer value =>
    if value < Int.ofNat (Nat.pow 2 63) then .ok value else .error (.beyondInteger value)
  | _, found => .error (.wrongType found .integer)

/-- A list of values of one kind. -/
def listOf {α : Type} (decode : Decoder α) : Decoder (List α)
  | dialect, .list items | dialect, .tables items => items.mapM (decode dialect)
  | _, found => .error (.wrongType found .list)

/-- A value that may be null. -/
def optional {α : Type} (decode : Decoder α) : Decoder (Option α)
  | _, .null => .ok none
  | dialect, datum => (decode dialect datum).map some

/-- The kind of a TOML value, as its messages name it. -/
def kindName : Datum → String
  | .null => "none"
  | .flag _ => "boolean"
  | .integer _ => "integer"
  | .real _ => "float"
  | .text _ => "string"
  | .stamp _ => "datetime"
  | .list _ => "array"
  | .tables _ => "array of tables"
  | .record _ => "inline table"

/-- The value of a name in a vocabulary. -/
def variant (α : Type) [Vocabulary α] (written : String) : Result α :=
  match Vocabulary.ofName? α written with
  | some value => .ok value
  | none => .error (.unknownVariant written (Vocabulary.names α))

/-- Nothing may come with a keyword. -/
def bare : Dialect → Datum → Result Unit
  | .json, .null => .ok ()
  | .json, found => .error (.wrongType found .unit)
  | .toml, .record [] => .ok ()
  | .toml, .record (_ :: _) => .error .loadedTable
  | .toml, .list [] => .ok ()
  | .toml, .list (_ :: _) => .error .loadedTable
  | .toml, .tables [] => .ok ()
  | .toml, .tables (_ :: _) => .error .loadedArray
  | .toml, found => .error (.wrapperNotTable (kindName found))

/-- A keyword: its name, or a record of one member that has the name and carries nothing. -/
def keyword (α : Type) [Vocabulary α] : Decoder α
  | _, .text written => variant α written
  | dialect, .record [(name, content)] => do
    let value ← variant α name
    bare dialect content
    return value
  | .json, .record _ => .error .notSingleMember
  | .json, found => .error (.wrongType found .keyword)
  | .toml, .record [] => .error .emptyWrapper
  | .toml, .record _ => .error .crowdedWrapper
  | .toml, _ => .error .notKeyword

/-- One field of a record: its name, and what a datum at that name does to the record. -/
structure Member (α : Type) where
  name : String
  assign : Dialect → Datum → α → Result α

/-- A field that is decoded and then put in its place. -/
def Member.of {α β : Type} (name : String) (decode : Decoder β) (put : β → α → α) : Member α :=
  ⟨name, fun dialect datum record => (decode dialect datum).map (put · record)⟩

/-- A record: what messages call it, and its fields in order. -/
structure Shape (α : Type) where
  name : String
  fields : List (Member α)

namespace Shape

variable {α : Type} (shape : Shape α)

/-- The names of the fields. -/
def known : List String := shape.fields.map Member.name

/-- The field of a name. -/
def field? (name : String) : Option (Member α) :=
  shape.fields.find? fun field => field.name == name

/-- One member laid over a record. -/
def overlayMember (dialect : Dialect) (record : α) (member : String × Datum) : Result α :=
  match shape.field? member.1 with
  | some field => field.assign dialect member.2 record
  | none => .error (.unknownField member.1 shape.known)

/-- The items of a list laid over the fields in order. -/
def overlayItems (dialect : Dialect) : List (Member α) → List Datum → α → Result α
  | field :: fields, item :: items, record => do
    let record ← field.assign dialect item record
    overlayItems dialect fields items record
  | _, _, record => .ok record

/-- A datum laid over a record: members in their order, or items in the order of the fields. -/
def overlay (dialect : Dialect) (datum : Datum) (record : α) : Result α :=
  match datum with
  | .record members => members.foldlM (shape.overlayMember dialect) record
  | .list items | .tables items => do
    let record ← overlayItems dialect shape.fields items record
    if dialect = .json ∧ shape.fields.length < items.length then .error (.tooMany items.length)
    else .ok record
  | .stamp _ => .error (.unknownField "$__toml_private_datetime" shape.known)
  | found => .error (.wrongType found (.record shape.name))

end Shape

/-- Members laid over a record by the fields that know them; other members do not matter. -/
def overlayKnown {α : Type} (dialect : Dialect) (fields : List (Member α)) (members : Members)
    (record : α) : Result α :=
  members.foldlM (fun record member =>
    match fields.find? fun field => field.name == member.1 with
    | some field => field.assign dialect member.2 record
    | none => .ok record) record

/-- A value that a record must have. -/
def required {α : Type} (name : String) (value : Option α) : Result α :=
  match value with
  | some value => .ok value
  | none => .error (.missingField name)

end EditorSession.Schema
