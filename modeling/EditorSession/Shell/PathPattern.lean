import EditorSession.FileTree
import EditorSession.Shell.Pattern

/-!
# Patterns of paths

A field with a pattern in it becomes the paths that the pattern fits. Each component is compared
with the names in its directory; a name that begins with a dot is fitted only by a dot. A field that
fits nothing stays as it is.
-/

namespace EditorSession.Shell

/-- A place below another one, as the name of a component leads there. -/
def stepTo (place : List String) (name : String) : List String :=
  if name = "" ∨ name = "." then place
  else if name = ".." then place.dropLast
  else place ++ [decoded name]

/-- Whether a pattern fits the name of a file. -/
def Pattern.fitsName (pattern : Pattern) (name : String) : Bool :=
  let isHidden := name.startsWith "."
  let showsHidden :=
    match pattern with
    | .exactly '.' :: _ => true
    | _ => false
  (!isHidden || showsHidden) && pattern.fits name.toList

/-- The paths that components fit below a place, behind the path to it. -/
def pathsFrom (tree : FileTree) (path : String) (place : List String) :
    List (List (Char × Bool)) → List String
  | [] => [path]
  | component :: rest =>
    let pattern := Pattern.ofMarked component
    let names :=
      if pattern.isGeneral then
        ([".", ".."] ++ (tree.namesIn place).map encoded).filter pattern.fitsName
      else [String.ofList (component.map Prod.fst)]
    let slash := if rest.isEmpty then "" else "/"
    names.flatMap fun name =>
      let next := stepTo place name
      match tree.at? next with
      | some .directory => pathsFrom tree (path ++ name ++ slash) next rest
      | some _ => if rest.isEmpty then [path ++ name] else []
      | none => []

/-- The components of a path, between its slashes. -/
def componentsOf (path : List (Char × Bool)) : List (List (Char × Bool)) :=
  path.foldr (fun marked components =>
    match marked.1, components with
    | '/', components => [] :: components
    | _, component :: others => (marked :: component) :: others
    | _, [] => [[marked]]) [[]]

/-- The paths that a field fits, in order. -/
def pathsOf (tree : FileTree) (directory : List String) (field : List (Char × Bool)) :
    List String :=
  let paths :=
    match componentsOf field with
    | [] :: rest => pathsFrom tree "/" [] rest
    | components => pathsFrom tree "" directory components
  paths.mergeSort fun first second => decide (first ≤ second)

end EditorSession.Shell
