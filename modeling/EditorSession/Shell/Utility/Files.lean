import EditorSession.Shell.Utility.Basic

/-!
# Listing files

The program `ls`. It goes through the paths that it is given in turn; one that fails is complained
of, and the others are listed all the same.
-/

namespace EditorSession.Shell.Files

/-- The place of a path that is there. -/
def placeOf (call : Call) (tree : FileTree) (path : String) : Except FileError (List String) :=
  tree.resolveFrom call.directory (decoded path)

/-- The names in a directory, in order. -/
def namesAt (options : Options) (tree : FileTree) (place : List String) : List String :=
  let names := ((tree.namesIn place).map encoded).filter fun name =>
    options.has 'a' || options.has 'A' || !name.startsWith "."
  let names := if options.has 'a' then "." :: ".." :: names else names
  let ordered := names.mergeSort fun first second => decide (first ≤ second)
  if options.has 'r' then ordered.reverse else ordered

/-- Lists files and directories. -/
def list : Utility :=
  withOptions { plain := ['a', 'A', '1', 'd', 'r'] } 2 fun call options =>
    let operands := if options.operands.isEmpty then ["."] else options.operands
    let operands := operands.mergeSort fun first second => decide (first ≤ second)
    let found := operands.map fun path => (path, placeOf call call.tree path)
    let errors := String.join (found.map fun (path, place) =>
      match place with
      | .error failure =>
        complaint call.name ("cannot access " ++ inQuotes path ++ ": " ++ fileCause failure)
      | .ok _ => "")
    let places := found.filterMap fun (path, place) => place.toOption.map (path, ·)
    let isListed (place : List String) : Bool :=
      !options.has 'd' && call.tree.at? place == some .directory
    let files := places.filter fun (_, place) => !isListed place
    let directories := places.filter fun (_, place) => isListed place
    let shownFiles := withEnds (files.map Prod.fst)
    let parts := directories.map fun (path, place) =>
      (if 1 < operands.length then path ++ ":\n" else "") ++
        withEnds (namesAt options call.tree place)
    let output := String.intercalate "\n" ((if files.isEmpty then [] else [shownFiles]) ++ parts)
    .finish { output, errors, status := if errors.isEmpty then 0 else 2 }

end EditorSession.Shell.Files
