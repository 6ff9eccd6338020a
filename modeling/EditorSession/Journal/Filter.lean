import EditorSession.Journal
import EditorSession.Journal.ValuePattern
import EditorSession.Text.Alphanumeric
import EditorSession.Text.Blank

/-!
# Filters of the journal

Which entries are shown is said by a list of directives, each a level for the entries of parts whose
name has a certain start, and that have certain fields. Of the directives that speak of an entry the
one with the longest start decides; of those the one with the most fields; of those the one whose
fields come last by their names; and of directives that speak of the same entries the last one.
-/

namespace EditorSession.Journal

/-- The rank of a level; a directive admits the levels of its own rank and above. -/
def Level.rank : Level → Nat
  | trace => 0
  | debug => 1
  | info => 2
  | warn => 3
  | error => 4

/-- From which level on entries are shown. -/
inductive Threshold
  | off
  | atLeast (level : Level)
  deriving DecidableEq, Repr, Inhabited

namespace Threshold

/-- Whether entries of a level are shown. -/
def admits : Threshold → Level → Bool
  | off, _ => false
  | atLeast least, level => least.rank ≤ level.rank

/-- The thresholds by their numbers. -/
def numbered : List Threshold :=
  [off, atLeast .error, atLeast .warn, atLeast .info, atLeast .debug, atLeast .trace]

/-- The number that decimal digits spell; a plus sign may stand before them. -/
def number? (text : List Char) : Option Nat :=
  let digits :=
    match text with
    | '+' :: digits => digits
    | digits => digits
  if digits.isEmpty ∨ ¬digits.all Char.isDigit then none
  else some (digits.foldl (fun total digit => total * 10 + (digit.toNat - 48)) 0)

/-- The threshold that a name or a number stands for; letters may be of any case. -/
def ofText? (text : String) : Option Threshold :=
  match number? text.toList with
  | some number => numbered[number]?
  | none =>
    match text.toLower with
    | "off" => some off
    | "error" => some (atLeast .error)
    | "warn" => some (atLeast .warn)
    | "info" => some (atLeast .info)
    | "debug" => some (atLeast .debug)
    | "trace" => some (atLeast .trace)
    | _ => none

end Threshold

/-- A threshold for some entries. -/
structure Directive where
  /-- The start of the names of the parts it speaks of; all parts if there is none. -/
  target : Option String := none
  /-- The name of the span it speaks of entries inside of; there are no spans here. -/
  span : Option String := none
  /-- The fields that entries must have; a value is asked of spans only. -/
  fields : List (String × Option String) := []
  threshold : Threshold := .atLeast .trace
  deriving DecidableEq, Repr, Inhabited

/-- What is wrong with a filter. -/
inductive FilterError
  | directive
  | level
  /-- The value that a field should have is none. -/
  | value
  deriving DecidableEq, Repr, Inhabited

/-- The wording of what is wrong with a filter. -/
def FilterError.message : FilterError → String
  | directive => "invalid filter directive"
  | level =>
    "error parsing level filter: expected one of \"off\", \"error\", \"warn\", \"info\", "
      ++ "\"debug\", \"trace\", or a number 0-5"
  | value => "invalid field filter: error building NFA"

namespace Directive

/-! ### Reading -/

/-- How far a directive is read, with the offset at which an open part of it begins. -/
inductive Stage
  | start
  /-- In a level or the start of a target. -/
  | name (start : Nat)
  | span (start : Nat)
  | field (start : Nat)
  /-- Behind the fields. -/
  | fields
  /-- Behind the bracket of the span. -/
  | behind
  | level (start : Nat)
  deriving DecidableEq, Repr

/-- The part of a text between two offsets. -/
def part (text : List Char) (start finish : Nat) : String :=
  String.ofList ((text.drop start).take (finish - start))

/-- The threshold after an equals sign; nothing stands for all levels. -/
def thresholdOf (text : String) : Except FilterError Threshold :=
  if text.isEmpty then .ok (.atLeast .trace)
  else
    match Threshold.ofText? text with
    | some threshold => .ok threshold
    | none => .error .level

/-- A field that entries must have, perhaps with a value behind an equals sign. -/
def fieldOf (text : String) : Except FilterError (String × Option String) :=
  match text.splitOn "=" with
  | [] | [""] => .error .directive
  | name :: values =>
    if values.head?.all fun value => ValuePattern.isValue value.toList then
      .ok (name, values.head?)
    else .error .value

/-- Whether a directive may start with a character. -/
def mayStart (character : Char) : Bool :=
  character = '-' || character = ':' || character = '_' || Text.isAlphanumeric character

/-- Reads one character at an offset; the parts of a directive are taken from a text. -/
def read (text : List Char) (found : Directive × Stage) (next : Char × Nat) :
    Except FilterError (Directive × Stage) :=
  let (directive, stage) := found
  let (character, offset) := next
  match stage, character with
  | .start, '[' => .ok (directive, .span (offset + 1))
  | .start, _ =>
    if mayStart character then .ok (directive, .name offset) else .error .directive
  | .name start, '=' =>
    .ok ({ directive with target := some (part text start offset) }, .level (offset + 1))
  | .name start, '[' =>
    .ok ({ directive with target := some (part text start offset) }, .span (offset + 1))
  | .name start, _ => .ok (directive, .name start)
  | .span start, ']' => .ok ({ directive with span := some (part text start offset) }, .behind)
  | .span start, '\x7b' =>
    let name := part text start offset
    .ok ({ directive with span := if name.isEmpty then none else some name }, .field (offset + 1))
  | .span start, _ => .ok (directive, .span start)
  | .field start, '\x7d' => do
    let field ← fieldOf (part text start offset)
    return ({ directive with fields := directive.fields ++ [field] }, .fields)
  | .field start, _ => .ok (directive, .field start)
  | .fields, ']' => .ok (directive, .behind)
  | .behind, '=' => .ok (directive, .level (offset + 1))
  | .level start, _ => .ok (directive, .level start)
  | _, _ => .error .directive

/-- Ends reading at the end of a text: a name alone is a level if it can be. -/
def finish (text : List Char) (found : Directive × Stage) : Except FilterError Directive :=
  let (directive, stage) := found
  let rest (start : Nat) : String := part text start text.length
  match stage with
  | .name start =>
    match Threshold.ofText? (rest start) with
    | some threshold => .ok { directive with threshold }
    | none => .ok { directive with target := some (rest start) }
  | .level start => do return { directive with threshold := ← thresholdOf (rest start) }
  | .behind => .ok directive
  | _ => .error .directive

/-- Reads a directive: a level, or the start of a target, a span and fields with or without a level.
Where it is taken apart is found without the blanks around it, and its parts are what stands there
with them. -/
def ofText (text : List Char) : Except FilterError Directive := do
  let found ← (Text.trimBlank text).zipIdx.foldlM (read text) ({}, .start)
  finish text found

/-! ### Meaning -/

/-- The names of the fields that entries must have. -/
def names (directive : Directive) : List String := directive.fields.map Prod.fst

/-- Whether a directive speaks of entries outside of spans. -/
def isPlain (directive : Directive) : Bool :=
  directive.span.isNone && directive.fields.all fun field => field.2.isNone

/-- Whether a directive speaks of an entry. -/
def covers (directive : Directive) (entry : Entry) : Bool :=
  let isStart :=
    match directive.target with
    | none => true
    | some start => start.toList.isPrefixOf entry.target.toList
  directive.isPlain && isStart && directive.names.all fun name => entry.fieldNames.contains name

/-- How closely a directive says which parts it speaks of. -/
def closeness (directive : Directive) : Nat :=
  match directive.target with
  | none => 0
  | some start => start.utf8ByteSize + 1

/-- Whether a directive is heeded before another one, of two that speak of the same entry. -/
def precedes (first second : Directive) : Bool :=
  if first.closeness ≠ second.closeness then second.closeness < first.closeness
  else if first.fields.length ≠ second.fields.length then
    second.fields.length < first.fields.length
  else decide (second.names < first.names)

end Directive

/-- The directives that say what is shown. -/
structure Filter where
  directives : List Directive
  deriving DecidableEq, Repr, Inhabited

namespace Filter

/-- Shows errors, as a filter without directives does. -/
def errors : Filter := ⟨[{ threshold := .atLeast .error }]⟩

/-- Shows everything. -/
def everything : Filter := ⟨[{ threshold := .atLeast .trace }]⟩

/-- Reads the directives between commas; there may be nothing between two of them. -/
def ofText (text : String) : Except FilterError Filter := do
  let pieces := (text.splitOn ",").filter fun piece => !piece.isEmpty
  let directives ← pieces.mapM fun piece => Directive.ofText piece.toList
  return if directives.isEmpty then errors else ⟨directives⟩

/-- The directive of a list that decides about an entry. -/
def decisive? (entry : Entry) : List Directive → Option Directive
  | [] => none
  | directive :: rest =>
    match decisive? entry rest with
    | none => if directive.covers entry then some directive else none
    | some later =>
      if directive.covers entry && directive.precedes later then some directive else some later

/-- Whether an entry is shown. -/
def admits (filter : Filter) (entry : Entry) : Bool :=
  match decisive? entry filter.directives with
  | some directive => directive.threshold.admits entry.level
  | none => false

end Filter

end EditorSession.Journal
