import EditorSession.Text.Utf8

/-!
# Files and directories

A file system as far as the program meets it: directories and files below one root, a working
directory, and the walk of a path through them. A walk stops at the first component that cannot be
passed, and says why.
-/

namespace EditorSession

/-- Why a file cannot be reached or read. -/
inductive FileError
  | noEntry
  | permissionDenied
  | notDirectory
  | isDirectory
  | nameTooLong
  | nulInName
  | notText
  deriving DecidableEq, Repr

/-- The wording of a failure. -/
def FileError.message : FileError → String
  | noEntry => "No such file or directory (os error 2)"
  | permissionDenied => "Permission denied (os error 13)"
  | notDirectory => "Not a directory (os error 20)"
  | isDirectory => "Is a directory (os error 21)"
  | nameTooLong => "File name too long (os error 36)"
  | nulInName => "file name contained an unexpected NUL byte"
  | notText => "stream did not contain valid UTF-8"

/-- What stands at a place of the tree. -/
inductive FileTree.Entry
  | directory
  | file (contents : Octets)
  /-- A program of the system. -/
  | program (name : String)
  deriving DecidableEq, Repr

/-- The directories and files, by the names on the way from the root. -/
structure FileTree where
  entries : List (List String × FileTree.Entry)
  /-- The working directory. -/
  working : List String
  deriving Repr

namespace FileTree

/-- The programs of a system. -/
def programNames : List String :=
  ["awk", "basename", "bash", "cat", "cut", "dash", "dd", "dirname", "echo", "expr", "false",
   "grep", "head", "ls", "paste", "printf", "sed", "sh", "sleep", "sort", "tr", "true", "wc"]

/-- What a system has before anything is put there. -/
def fresh : FileTree where
  entries := [
    (["work"], .directory), (["bin"], .directory), (["usr"], .directory),
    (["usr", "bin"], .directory), (["etc"], .directory), (["tmp"], .directory),
    (["home"], .directory), (["root"], .directory), (["proc"], .directory),
    (["dev"], .directory), (["dev", "null"], .file []), (["etc", "passwd"], .file [])]
    ++ programNames.map (fun name => (["bin", name], .program name))
    ++ programNames.map (fun name => (["usr", "bin", name], .program name))
  working := ["work"]

/-- What stands at a place. -/
def at? (tree : FileTree) (place : List String) : Option Entry :=
  if place.isEmpty then some .directory else tree.entries.lookup place

/-- The tree with something at a place. -/
def put (tree : FileTree) (place : List String) (entry : Entry) : FileTree :=
  { tree with entries := (place, entry) :: tree.entries.filter fun kept => kept.1 ≠ place }

/-- The names of what stands in a directory. -/
def namesIn (tree : FileTree) (directory : List String) : List String :=
  tree.entries.filterMap fun (place, _) =>
    if place.length = directory.length + 1 && directory.isPrefixOf place then place.getLast?
    else none

/-- The names of a path between its slashes, empty ones left out. -/
def names (path : String) : List String :=
  (path.splitOn "/").filter fun name => !name.isEmpty

/-- The tree with the directories on a walk of names from a place, and where the walk ends. -/
def putDirectories (tree : FileTree) (place : List String) :
    List String → FileTree × List String
  | [] => (tree, place)
  | name :: rest =>
    if name = "." then tree.putDirectories place rest
    else if name = ".." then tree.putDirectories place.dropLast rest
    else
      let place := place ++ [name]
      let tree := if (tree.at? place).isSome then tree else tree.put place .directory
      tree.putDirectories place rest

/-- The tree with a directory at a path. -/
def putDirectory (tree : FileTree) (path : String) : FileTree :=
  (tree.putDirectories tree.working (names path)).1

/-- The tree with a file at a path. -/
def putFile (tree : FileTree) (path : String) (contents : Octets) : FileTree :=
  let names := names path
  let (tree, place) := tree.putDirectories tree.working names.dropLast
  tree.put (place ++ names.getLast?.toList) (.file contents)

/-- The octets that a name takes. -/
def octetCount (name : String) : Nat := name.utf8ByteSize

/-- Walks names from a place that is a directory, if nothing is wrong with it. -/
def walk (tree : FileTree) (place : List String) : List String → Except FileError (List String)
  | [] => .ok place
  | name :: rest =>
    match tree.at? place with
    | some .directory =>
      if name = "." ∨ name = "" then tree.walk place rest
      else if name = ".." then tree.walk place.dropLast rest
      else if 255 < octetCount name then .error .nameTooLong
      else if (tree.at? (place ++ [name])).isSome then tree.walk (place ++ [name]) rest
      else .error .noEntry
    | some _ => .error .notDirectory
    | none => .error .noEntry

/-- The place that a path leads to from a directory. -/
def resolveFrom (tree : FileTree) (start : List String) (path : String) :
    Except FileError (List String) :=
  if path.toList.contains '\x00' then .error .nulInName
  else if path.isEmpty then .error .noEntry
  else if 4096 ≤ octetCount path then .error .nameTooLong
  else if path.startsWith "/" then tree.walk [] (path.splitOn "/")
  else tree.walk start (path.splitOn "/")

/-- The place that a path leads to from a directory, for a file that may not be there yet. -/
def placeFor (tree : FileTree) (start : List String) (path : String) :
    Except FileError (List String) :=
  match tree.resolveFrom start path with
  | .ok place => if tree.at? place = some .directory then .error .isDirectory else .ok place
  | .error .noEntry =>
    let upTo := (path.splitOn "/").dropLast
    let name := (path.splitOn "/").getLast?.getD ""
    if name.isEmpty then .error .noEntry
    else do
      let place ← if upTo.isEmpty then .ok start
        else tree.resolveFrom start (String.intercalate "/" upTo ++ "/")
      match tree.at? place with
      | some .directory => return place ++ [name]
      | some _ => throw .notDirectory
      | none => throw .noEntry
  | .error failure => .error failure

/-- The place that a path leads to. -/
def resolve (tree : FileTree) (path : String) : Except FileError (List String) :=
  tree.resolveFrom tree.working path

/-- The octets of the file at a path. -/
def readOctets (tree : FileTree) (path : String) : Except FileError Octets := do
  let place ← tree.resolve path
  match tree.at? place with
  | some (.file contents) => return contents
  | some (.program name) => return Text.Utf8.ofString name
  | some .directory => throw .isDirectory
  | none => throw .noEntry

/-- The text of the file at a path. -/
def readText (tree : FileTree) (path : String) : Except FileError (List Char) := do
  let contents ← tree.readOctets path
  match Text.Utf8.decode contents with
  | .ok text => return text
  | .error _ => throw .notText

end FileTree

end EditorSession
