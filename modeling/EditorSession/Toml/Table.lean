import EditorSession.Datum

/-!
# Tables under construction

The tables of a document are built piecemeal, by headers and by keys of several segments, and where
a table came from decides who may still add to it: a header may claim a table that another header
only implied, and a dotted key may add only to a table that dotted keys made.
-/

namespace EditorSession.Toml

/-- How a table came to be. -/
inductive Origin
  /-- It has a header, or it is the whole document. -/
  | header
  /-- A header names a table inside it. -/
  | implied
  /-- A dotted key runs through it. -/
  | dotted
  deriving DecidableEq, Repr

/-- What a key of a table under construction leads to. -/
inductive Node
  | value (datum : Datum)
  | table (origin : Origin) (entries : List (String × Node))
  /-- A list of tables with headers in double brackets, the latest first. -/
  | tables (latestFirst : List (List (String × Node)))

/-- The entries of a table, in the order of the document. -/
abbrev Entries := List (String × Node)

mutual

/-- The finished value of a node. -/
def Node.datum : Node → Datum
  | .value datum => datum
  | .table _ entries => .record (membersOf entries)
  | .tables latestFirst => .tables (recordsOf latestFirst).reverse

/-- The finished members of a table. -/
def membersOf : List (String × Node) → Members
  | [] => []
  | (key, node) :: rest => (key, node.datum) :: membersOf rest

/-- The finished records of a list of tables. -/
def recordsOf : List (List (String × Node)) → List Datum
  | [] => []
  | entries :: rest => .record (membersOf entries) :: recordsOf rest

end

/-- The entries with one of them replaced, at its place; a new key comes last. -/
def putEntry (key : String) (node : Node) : Entries → Entries
  | [] => [(key, node)]
  | (other, kept) :: rest =>
    if other = key then (key, node) :: rest else (other, kept) :: putEntry key node rest

/-- An edit of a table, given where it came from; it may yield something besides. -/
abbrev Edit (α : Type) := Origin → Entries → Option (Entries × α)

/-- Edits the table at the end of a path, making tables of an origin on the way. A list of tables is
entered at its latest. -/
def editAt {α : Type} (making : Origin) (edit : Edit α) :
    (path : List String) → (origin : Origin) → Entries → Option (Entries × α)
  | [], origin, entries => edit origin entries
  | key :: path, _, entries =>
    match entries.lookup key with
    | none =>
      (editAt making edit path making []).map fun (inner, yielded) =>
        (entries ++ [(key, .table making inner)], yielded)
    | some (.value _) => none
    | some (.table origin inner) =>
      if making = .dotted ∧ origin = .header then none
      else
        (editAt making edit path origin inner).map fun (inner, yielded) =>
          (putEntry key (.table origin inner) entries, yielded)
    | some (.tables []) => none
    | some (.tables (latest :: earlier)) =>
      (editAt making edit path .header latest).map fun (latest, yielded) =>
        (putEntry key (.tables (latest :: earlier)) entries, yielded)

/-- Adds a key and its value to a table reached through dotted keys or directly. -/
def addValue (direct : Bool) (key : String) (datum : Datum) : Edit Unit := fun origin entries =>
  if (origin == .dotted) == direct then none
  else if (entries.lookup key).isSome then none
  else some (entries ++ [(key, .value datum)], ())

/-- Adds a value at a key of any number of segments. -/
def insertKey (path : List String) (key : String) (datum : Datum) (entries : Entries) :
    Option Entries :=
  (editAt .dotted (addValue path.isEmpty key datum) path .header entries).map Prod.fst

/-- Takes the table that a header claims out of its parent: one that was only implied, or none. -/
def claimTable (key : String) : Edit Entries := fun _ entries =>
  match entries.lookup key with
  | none => some (entries, [])
  | some (.table .implied inner) => some (entries.filter fun entry => entry.1 ≠ key, inner)
  | some _ => none

/-- Puts a table with a header into its parent. -/
def placeTable (key : String) (inner : Entries) : Edit Unit := fun _ entries =>
  if (entries.lookup key).isSome then none
  else some (entries ++ [(key, .table .header inner)], ())

/-- Checks that a key may hold a list of tables, and makes an empty one. -/
def claimTables (key : String) : Edit Unit := fun _ entries =>
  match entries.lookup key with
  | none => some (entries ++ [(key, .tables [])], ())
  | some (.tables _) => some (entries, ())
  | some _ => none

/-- Puts one more table into a list of tables. -/
def placeInTables (key : String) (inner : Entries) : Edit Unit := fun _ entries =>
  match entries.lookup key with
  | none => some (entries ++ [(key, .tables [inner])], ())
  | some (.tables latestFirst) => some (putEntry key (.tables (inner :: latestFirst)) entries, ())
  | some _ => none

end EditorSession.Toml
