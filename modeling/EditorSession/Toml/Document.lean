import EditorSession.Toml.Scalar
import EditorSession.Toml.Table

/-!
# TOML documents

Values, key-value lines and headers, and the whole document as one record. The record's members are
in the order in which the document gives them; a table that a later header claims moves to the place
of that header.
-/

namespace EditorSession.Toml

mutual

/-- A value, with `depth` levels of brackets left. -/
def readValue (budget depth : Nat) (text : List Char) : Option (Datum × List Char) :=
  match budget with
  | 0 => none
  | budget + 1 =>
    match text with
    | '[' :: rest =>
      match depth with
      | 0 => none
      | depth + 1 => (readItems budget depth rest).map fun (items, rest) => (.list items, rest)
    | '\x7b' :: rest =>
      match depth with
      | 0 => none
      | depth + 1 =>
        match skipGap rest with
        | '\x7d' :: rest => some (.record [], rest)
        | rest =>
          (readPairs budget depth [] rest).map fun (entries, rest) =>
            (.record (membersOf entries), rest)
    | 't' :: 'r' :: 'u' :: 'e' :: rest => some (.flag true, rest)
    | 'f' :: 'a' :: 'l' :: 's' :: 'e' :: rest => some (.flag false, rest)
    | first :: rest =>
      if first = '"' ∨ first = '\'' then
        (readString (first :: rest)).map fun (read, rest) => (.text read, rest)
      else readScalar (first :: rest)
    | [] => none

/-- The items of a list up to its closing bracket; a comma may come last. -/
def readItems (budget depth : Nat) (text : List Char) : Option (List Datum × List Char) :=
  match budget with
  | 0 => none
  | budget + 1 =>
    match skipLines (text.length + 1) text with
    | ']' :: rest => some ([], rest)
    | text =>
      match readValue budget depth text with
      | none => none
      | some (item, rest) =>
        match skipLines (rest.length + 1) rest with
        | ',' :: rest =>
          (readItems budget depth rest).map fun (items, rest) => (item :: items, rest)
        | ']' :: rest => some ([item], rest)
        | _ => none

/-- The pairs of an inline table up to its closing bracket, added to its entries so far. -/
def readPairs (budget depth : Nat) (entries : Entries) (text : List Char) :
    Option (Entries × List Char) :=
  match budget with
  | 0 => none
  | budget + 1 =>
    match readKey text with
    | some (path, key, '=' :: rest) =>
      match readValue budget depth (skipGap rest) with
      | none => none
      | some (datum, rest) =>
        match insertKey path key datum entries with
        | none => none
        | some entries =>
          match skipGap rest with
          | ',' :: rest => readPairs budget depth entries rest
          | '\x7d' :: rest => some (entries, rest)
          | _ => none
    | _ => none

end

/-- A value at the top of an expression. -/
def readTopValue (text : List Char) : Option (Datum × List Char) :=
  readValue (2 * text.length + 2) (nestingLimit - 1) text

/-- The section that key-value lines are added to. -/
structure Section where
  /-- Where the section goes; nothing is the document itself. -/
  place : Option (List String × String) := none
  /-- Whether its header has double brackets. -/
  listed : Bool := false
  entries : Entries := []

/-- The document so far: the finished sections and the open one. -/
structure Draft where
  root : Entries := []
  opened : Section := {}

namespace Draft

/-- Puts the open section in its place. -/
def close (draft : Draft) : Option Entries :=
  match draft.opened.place with
  | none => some draft.opened.entries
  | some (path, key) =>
    let place :=
      if draft.opened.listed then placeInTables key draft.opened.entries
      else placeTable key draft.opened.entries
    (editAt .implied place path .header draft.root).map Prod.fst

/-- Opens the section of a header. -/
def openTable (draft : Draft) (path : List String) (key : String) : Option Draft := do
  let root ← draft.close
  let (root, entries) ← editAt .implied (claimTable key) path .header root
  return { root, opened := { place := some (path, key), entries } }

/-- Opens the section of a header in double brackets. -/
def openListed (draft : Draft) (path : List String) (key : String) : Option Draft := do
  let root ← draft.close
  let (root, _) ← editAt .implied (claimTables key) path .header root
  return { root, opened := { place := some (path, key), listed := true } }

/-- Adds a key-value line. -/
def add (draft : Draft) (path : List String) (key : String) (datum : Datum) : Option Draft := do
  let entries ← insertKey path key datum draft.opened.entries
  return { draft with opened := { draft.opened with entries } }

end Draft

/-- A header and the rest of the text after it. -/
def readHeader (draft : Draft) (text : List Char) : Option (Draft × List Char) :=
  match text with
  | '[' :: rest =>
    match readKey rest with
    | some (path, key, ']' :: ']' :: rest) =>
      (draft.openListed path key).map fun draft => (draft, rest)
    | _ => none
  | rest =>
    match readKey rest with
    | some (path, key, ']' :: rest) => (draft.openTable path key).map fun draft => (draft, rest)
    | _ => none

/-- A key-value line. -/
def readPair (draft : Draft) (text : List Char) : Option (Draft × List Char) :=
  match readKey text with
  | some (path, key, '=' :: rest) =>
    match readTopValue (skipGap rest) with
    | none => none
    | some (datum, rest) => (draft.add path key datum).map fun draft => (draft, rest)
  | _ => none

/-- The expressions of a document, one a line. -/
def readExpressions (budget : Nat) (draft : Draft) (text : List Char) : Option Draft :=
  match budget with
  | 0 => none
  | budget + 1 =>
    match skipGap text with
    | [] => some draft
    | '[' :: rest =>
      match readHeader draft rest with
      | none => none
      | some (draft, rest) => (finishLine rest).bind (readExpressions budget draft)
    | first :: rest =>
      if first = '#' ∨ first = '\n' ∨ first = '\r' then
        (finishLine (first :: rest)).bind (readExpressions budget draft)
      else
        match readPair draft (first :: rest) with
        | none => none
        | some (draft, rest) => (finishLine rest).bind (readExpressions budget draft)

/-- The rest of a text after the byte-order mark it may start with. -/
def skipMark : List Char → List Char
  | '\uFEFF' :: rest => rest
  | text => text

/-- The record that a document denotes. -/
def read (text : List Char) : Option Datum := do
  let text := skipMark text
  let draft ← readExpressions (text.length + 1) {} text
  let root ← draft.close
  return .record (membersOf root)

end EditorSession.Toml
