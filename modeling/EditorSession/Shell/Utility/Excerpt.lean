import EditorSession.Shell.Utility.Basic

/-!
# Excerpts

Programs that show parts of what they read: its first lines or octets (`head`), and columns of its
lines (`cut`).
-/

namespace EditorSession.Shell.Excerpt

/-! ### First lines -/

/-- How much of a text is shown. -/
structure Amount where
  inOctets : Bool := false
  count : Nat := 10

namespace Amount

/-- The first part of a text. -/
def first (amount : Amount) (text : String) : String :=
  if amount.inOctets then (text.take amount.count).toString
  else
    let (lines, isEnded) := linesOf text
    if isEnded || amount.count < lines.length then withEnds (lines.take amount.count) else text

/-- Whether the first part of a text is known before the text ends. -/
def isReached (amount : Amount) (text : String) : Bool :=
  amount.count ≤ if amount.inOctets then text.length else text.toList.countP (· = '\n')

end Amount

/-- The first parts of inputs, under headings if there are several, and what was not used of the
last one. -/
def firstParts (program : String) (amount : Amount) (sources : List String) (inputs : List Input) :
    Outcome :=
  inputs.foldl (fun outcome input =>
    match input.contents with
    | .ok text =>
      let gap := if outcome.output.isEmpty then "" else "\n"
      let name := if input.name = "-" then "standard input" else input.name
      let heading := if 1 < sources.length then gap ++ "==> " ++ name ++ " <==\n" else ""
      let shown := amount.first text
      { outcome with
        output := outcome.output ++ heading ++ shown
        unread := if amount.isReached text then text.length - shown.length else 0 }
    | .error failure =>
      let cause :=
        if failure = .isDirectory then
          "error reading " ++ inQuotes input.name ++ ": " ++ fileCause failure
        else
          "cannot open " ++ inQuotes input.name ++ " for reading: " ++ fileCause failure
      { outcome with errors := outcome.errors ++ complaint program cause, status := 1 }) {}

/-- Arguments in which a count right behind a dash is given as an option. -/
def withCount : List String → List String
  | argument :: rest =>
    match argument.toList with
    | '-' :: digit :: digits =>
      if isDigit digit then "-n" :: String.ofList (digit :: digits) :: rest else argument :: rest
    | _ => argument :: rest
  | [] => []

/-- The options of the program for first parts. -/
def firstTable : OptionTable where
  valued := ['n', 'c']

/-- Shows first parts. -/
def head : Utility := fun call =>
  let show' (call : Call) (options : Options) : Plan :=
    let (letter, text) := (options.given.getLast?).getD ('n', "10")
    let inOctets := letter = 'c'
    match decimal? text with
    | none =>
      call.refuse ("invalid number of " ++ (if inOctets then "bytes" else "lines") ++ ": " ++
        inQuotes text) 1
    | some count =>
      let amount : Amount := { inOctets, count }
      let sources := sourcesOf options.operands
      .digest sources (if inOctets then some count else none) fun inputs isAll =>
        let isReached := sources.length = 1 && (textsOf inputs).any amount.isReached
        if isAll || isReached then some (firstParts call.name amount sources inputs) else none
  withOptions firstTable 1 show' { call with arguments := withCount call.arguments }

/-! ### Columns -/

/-- Places of a line: from the first to the last one, or to the end. -/
abbrev Stretch := Nat × Option Nat

/-- Whether a place is in one of some stretches. -/
def isChosen (stretches : List Stretch) (place : Nat) : Bool :=
  stretches.any fun (first, last) =>
    first ≤ place && (match last with | some last => place ≤ last | none => true)

/-- The stretch that a text gives. -/
def stretchOf? (text : String) : Option Stretch :=
  match text.splitOn "-" with
  | [only] => (decimal? only).map fun place => (place, some place)
  | [first, ""] => (decimal? first).map (·, none)
  | ["", last] => (decimal? last).map (1, some ·)
  | [first, last] => do return (← decimal? first, some (← decimal? last))
  | _ => none

/-- The stretches that a text gives. -/
def stretchesOf? (text : String) : Option (List Stretch) :=
  (text.splitOn ",").mapM stretchOf?

/-- The options of the program for columns. -/
def cutTable : OptionTable where
  plain := ['s']
  valued := ['b', 'c', 'd', 'f']

/-- The chosen ones of some parts. -/
def choose {α : Type} (stretches : List Stretch) (parts : List α) : List α :=
  ((parts.zipIdx 1).filter fun (_, place) => isChosen stretches place).map Prod.fst

/-- A line with only its chosen fields; a line without delimiters may be left out. -/
def cutFields (stretches : List Stretch) (delimiter : String) (onlyDelimited : Bool)
    (line : String) : Option String :=
  let fields := line.splitOn delimiter
  if fields.length ≤ 1 then if onlyDelimited then none else some line
  else some (String.intercalate delimiter (choose stretches fields))

/-- Shows columns. -/
def cut : Utility := withOptions cutTable 1 fun call options =>
  let asked := options.given.find? fun (letter, _) => letter = 'b' || letter = 'c' || letter = 'f'
  match asked with
  | none => call.misuse "you must specify a list of bytes, characters, or fields" 1
  | some (letter, text) =>
    match stretchesOf? text with
    | none =>
      call.misuse ("invalid " ++ (if letter = 'f' then "field" else "byte/character") ++
        " range") 1
    | some stretches =>
      if stretches.any fun (first, last) => first = 0 || last = some 0 then
        call.misuse (if letter = 'f' then "fields are numbered from 1"
          else "byte/character positions are numbered from 1") 1
      else
        call.transformLines options.operands fun lines =>
          lines.filterMap fun line =>
            if letter = 'f' then
              cutFields stretches ((options.value? 'd').getD "\t") (options.has 's') line
            else some (String.ofList (choose stretches line.toList))

end EditorSession.Shell.Excerpt
