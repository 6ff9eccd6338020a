import EditorSession.Shell.Utility.Basic

/-!
# Names

Programs that take paths apart as texts: `basename` and `dirname`.
-/

namespace EditorSession.Shell.Names

/-- A text without the slashes at its end, unless it has nothing else. -/
def withoutSlashes (path : List Char) : List Char :=
  match (path.reverse.dropWhile (· = '/')).reverse with
  | [] => path.take 1
  | kept => kept

/-- What stands behind the last slash of a path. -/
def lastName (path : List Char) : List Char :=
  match withoutSlashes path with
  | ['/'] => ['/']
  | kept => (kept.reverse.takeWhile (· ≠ '/')).reverse

/-- What stands before the last slash of a path. -/
def directoryName (path : List Char) : List Char :=
  let kept := withoutSlashes path
  match kept.reverse.dropWhile (· ≠ '/') with
  | [] => ['.']
  | found => withoutSlashes found.reverse

/-- A name without an ending, unless it is nothing else. -/
def withoutEnding (ending name : List Char) : List Char :=
  if name ≠ ending ∧ ending.isSuffixOf name then name.take (name.length - ending.length)
  else name

/-- Shows the last name of a path. -/
def showLast : Utility := withOptions { mixes := false } 1 fun call options =>
  let show' (ending path : String) : Plan :=
    .finish {
      output := String.ofList (withoutEnding ending.toList (lastName path.toList)) ++ "\n" }
  match options.operands with
  | [] => call.misuse "missing operand" 1
  | [path] => show' "" path
  | [path, ending] => show' ending path
  | _ :: _ :: extra :: _ => call.misuse ("extra operand " ++ inQuotes extra) 1

/-- Shows the directories of paths. -/
def showDirectory : Utility := withOptions {} 1 fun call options =>
  if options.operands.isEmpty then call.misuse "missing operand" 1
  else
    .finish {
      output := withEnds (options.operands.map fun path =>
        String.ofList (directoryName path.toList)) }

end EditorSession.Shell.Names
