import EditorSession.Shell.Regex
import EditorSession.Shell.Utility.Basic

/-!
# Searching lines

The program `grep`: it shows the lines that one of some patterns fits, or those that none fits, and
its status tells whether there were any.
-/

namespace EditorSession.Shell.Search

/-- How lines are searched. -/
structure Query where
  patterns : List Regex
  ignoresCase : Bool := false
  isInverted : Bool := false

/-- The first and longest match of a query from an offset on. -/
def Query.find? (query : Query) (text : Array Char) (offset : Nat) : Option Regex.Found :=
  query.patterns.foldl (fun best regex =>
    match best, regex.find? query.ignoresCase text offset with
    | best, none => best
    | none, found => found
    | some best, some found =>
      if found.start < best.start || (found.start = best.start && best.finish < found.finish) then
        some found
      else some best) none

/-- Whether a line is one of those to show. -/
def Query.selects (query : Query) (line : String) : Bool :=
  (query.find? line.toList.toArray 0).isSome != query.isInverted

/-- The matches in a line that are not empty. -/
def matchesIn (budget : Nat) (query : Query) (text : Array Char) (offset : Nat) : List String :=
  match budget with
  | 0 => []
  | budget + 1 =>
    match query.find? text offset with
    | none => []
    | some found =>
      if found.finish = found.start then
        if found.finish < text.size then matchesIn budget query text (found.finish + 1) else []
      else
        String.ofList ((text.toList.drop found.start).take (found.finish - found.start))
          :: matchesIn budget query text found.finish

/-! ### The program -/

/-- The options of the program. -/
def table : OptionTable where
  plain := ['E', 'F', 'i', 'v', 'c', 'o', 'n', 'q', 's', 'x']
  valued := ['e', 'm']

/-- The pattern that fits a text by itself. -/
def literal (text : String) : Regex :=
  text.toList.foldr (fun character rest => .followed (.exactly character) rest) .empty

/-- The patterns of texts. -/
def patternsOf (options : Options) (texts : List String) : Except Regex.Flaw (List Regex) :=
  (texts.flatMap (·.splitOn "\n")).mapM fun text => do
    let regex ← if options.has 'F' then pure (literal text)
      else Regex.ofText { isExtended := options.has 'E' } text
    return if options.has 'x' then .followed .start (.followed (.group 0 regex) .finish) else regex

/-- The selected lines of a text as they are shown, and how many were selected. -/
def shownLines (query : Query) (options : Options) (name text : String) : List String × Nat :=
  let selected := ((linesOf text).1.zipIdx 1).filter fun (line, _) => query.selects line
  let selected :=
    match (options.value? 'm').bind decimal? with
    | some most => selected.take most
    | none => selected
  let shown := selected.flatMap fun (line, number) =>
    let texts :=
      if !options.has 'o' then [line]
      else if query.isInverted then []
      else matchesIn (line.length + 2) query line.toList.toArray 0
    texts.map ((name ++ if options.has 'n' then toString number ++ ":" else "") ++ ·)
  (shown, selected.length)

/-- What comes of a search in inputs, which are named if there are several. -/
def outcome (program : String) (query : Query) (options : Options) (inputs : List Input) :
    Outcome :=
  let found := inputs.map fun input =>
    match input.contents with
    | .error failure =>
      let cause := input.name ++ ": " ++ fileCause failure
      ("", if options.has 's' then "" else complaint program cause, 0, true)
    | .ok text =>
      let name := if input.name = "-" then "(standard input)" else input.name
      let name := if 1 < inputs.length then name ++ ":" else ""
      let (shown, count) := shownLines query options name text
      let output :=
        if options.has 'q' then ""
        else if options.has 'c' then name ++ toString count ++ "\n"
        else withEnds shown
      (output, "", count, false)
  let anyFound := found.any fun (_, _, count, _) => 0 < count
  let anyFailed := found.any fun (_, _, _, failed) => failed
  { output := String.join (found.map fun (output, _) => output)
    errors := String.join (found.map fun (_, errors, _) => errors)
    status :=
      if anyFound && options.has 'q' then 0
      else if anyFailed then 2
      else if anyFound then 0
      else 1 }

/-- Whether a text has a line to show that has come in whole. -/
def hasMatch (query : Query) (inputs : List Input) : Bool :=
  (textsOf inputs).any fun text =>
    let (lines, isEnded) := linesOf text
    (if isEnded then lines else lines.dropLast).any query.selects

/-- Searches sources for patterns. -/
def search (call : Call) (options : Options) (texts sources : List String) : Plan :=
  match patternsOf options texts with
  | .error flaw => call.refuse flaw.message 2
  | .ok patterns =>
    let query : Query :=
      { patterns, ignoresCase := options.has 'i', isInverted := options.has 'v' }
    .digest (sourcesOf sources) none fun inputs isAll =>
      if isAll then some (outcome call.name query options inputs)
      else if options.has 'q' && hasMatch query inputs then some {}
      else if options.value? 'm' == some "1" && sources.length ≤ 1 && hasMatch query inputs then
        some (outcome call.name query options inputs)
      else none

/-- Searches lines. -/
def grep : Utility := withOptions table 2 fun call options =>
  match options.values 'e', options.operands with
  | [], [] =>
    .finish {
      errors := "Usage: " ++ call.name ++ " [OPTION]... PATTERNS [FILE]...\nTry '" ++ call.name ++
        " --help' for more information.\n"
      status := 2 }
  | [], pattern :: sources => search call options [pattern] sources
  | texts, sources => search call options texts sources

end EditorSession.Shell.Search
