import EditorSession.Shell.Utility.Basic

/-!
# Order

The program `sort`, which puts lines in order. Lines are compared by keys in turn, each of which is a
stretch of fields that is read in a certain way; lines whose keys are all equal are compared as a
whole.
-/

namespace EditorSession.Shell.Order

/-! ### Keys -/

/-- How a key is read. -/
structure Reading where
  isNumber : Bool := false
  ignoresCase : Bool := false
  ignoresBlanks : Bool := false
  isReversed : Bool := false

/-- The reading with what a letter asks for. -/
def Reading.with (reading : Reading) (letter : Char) : Reading :=
  match letter with
  | 'n' => { reading with isNumber := true }
  | 'f' => { reading with ignoresCase := true }
  | 'b' => { reading with ignoresBlanks := true }
  | 'r' => { reading with isReversed := true }
  | _ => reading

/-- A key: its first and its last field, and how it is read if it says so itself. -/
structure Key where
  first : Nat
  last : Option Nat
  reading : Option Reading

/-- A field at the start of a text, and the letters behind it. -/
def fieldAt? (text : String) : Option (Nat × List Char) :=
  let digits := text.toList.takeWhile isDigit
  if digits.isEmpty then none else some (decimalValue digits, text.toList.drop digits.length)

/-- The key that a text gives. -/
def keyOf? (text : String) : Option Key := do
  match text.splitOn "," with
  | [first] =>
    let (first, letters) ← fieldAt? first
    return ⟨first, none, reading? letters⟩
  | first :: last :: _ =>
    let (first, letters) ← fieldAt? first
    let (last, further) ← fieldAt? last
    return ⟨first, some last, reading? (letters ++ further)⟩
  | [] => none
where
  /-- The reading that letters ask for, if there are any. -/
  reading? (letters : List Char) : Option Reading :=
    if letters.isEmpty then none else some (letters.foldl Reading.with {})

/-- The offset at which each field of a line but the first begins. Without a separator a field
begins with the blanks before it. -/
def fieldStarts (separator : Option Char) (offset : Nat) (inText : Bool) : List Char → List Nat
  | [] => []
  | first :: rest =>
    match separator with
    | some separator =>
      if first = separator then (offset + 1) :: fieldStarts (some separator) (offset + 1) true rest
      else fieldStarts (some separator) (offset + 1) true rest
    | none =>
      if isBlank first && inText then offset :: fieldStarts none (offset + 1) false rest
      else fieldStarts none (offset + 1) (inText || !isBlank first) rest

/-- The part of a line that a key is. -/
def Key.part (key : Key) (separator : Option Char) (ignoresBlanks : Bool) (line : List Char) :
    List Char :=
  let starts := 0 :: fieldStarts separator 0 false line
  let startOf (field : Nat) : Nat := starts[field - 1]?.getD line.length
  let start := startOf key.first
  let start :=
    if ignoresBlanks then start + ((line.drop start).takeWhile isBlank).length else start
  let finish :=
    match key.last with
    | none => line.length
    | some field =>
      let next := startOf (field + 1)
      -- The separator itself belongs to no field.
      if separator.isSome && field < starts.length then next - 1 else next
  (line.drop start).take (finish - start)

/-! ### Comparison -/

/-- The number at the start of a text, in units of a small fraction. -/
def numberAt (text : List Char) : Int :=
  let text := text.dropWhile isBlank
  let (isNegative, digits) : Bool × List Char :=
    match text with
    | '-' :: digits => (true, digits)
    | digits => (false, digits)
  let whole := digits.takeWhile isDigit
  let places :=
    match digits.drop whole.length with
    | '.' :: rest => (rest.takeWhile isDigit).take 20
    | _ => []
  let value : Int := decimalValue (whole ++ places) * Nat.pow 10 (20 - places.length)
  if isNegative then -value else value

/-- The order of two parts as they are read. -/
def Reading.order (reading : Reading) (first second : List Char) : Ordering :=
  let plain (text : List Char) : String :=
    String.ofList (if reading.ignoresCase then text.map Char.toUpper else text)
  let order :=
    if reading.isNumber then compare (numberAt first) (numberAt second)
    else compare (plain first) (plain second)
  if reading.isReversed then order.swap else order

/-- How lines are put in order. -/
structure Ranking where
  keys : List Key := []
  separator : Option Char := none
  reading : Reading := {}
  /-- Whether lines with equal keys stay in their order. -/
  isStable : Bool := false

/-- The order of two lines by their keys. -/
def Ranking.keyOrder (ranking : Ranking) (first second : String) : Ordering :=
  let keys := if ranking.keys.isEmpty then [⟨1, none, none⟩] else ranking.keys
  keys.foldl (fun order key =>
    let reading := key.reading.getD ranking.reading
    let part (line : String) : List Char :=
      key.part ranking.separator (reading.ignoresBlanks || ranking.reading.ignoresBlanks)
        line.toList
    order.then (reading.order (part first) (part second))) .eq

/-- The order of two lines. -/
def Ranking.order (ranking : Ranking) (first second : String) : Ordering :=
  let last := compare first second
  (ranking.keyOrder first second).then
    (if ranking.isStable then .eq else if ranking.reading.isReversed then last.swap else last)

/-- Lines without those whose keys equal the keys of the line before. -/
def Ranking.distinct (ranking : Ranking) : List String → List String
  | first :: second :: rest =>
    if ranking.keyOrder first second == .eq then
      ranking.distinct (first :: rest)
    else first :: ranking.distinct (second :: rest)
  | lines => lines
termination_by lines => lines.length

/-- The options of the program that puts lines in order. -/
def sortTable : OptionTable where
  plain := ['n', 'f', 'b', 'r', 'u', 's']
  valued := ['k', 't']

/-- Puts lines in order. -/
def sort : Utility := withOptions sortTable 2 fun call options =>
  match (options.values 'k').mapM keyOf? with
  | none => call.refuse "invalid number at field start" 2
  | some keys =>
    let isUnique := options.has 'u'
    let ranking : Ranking := {
      keys
      separator := (options.value? 't').bind (·.toList.head?)
      reading := (options.given.map Prod.fst).foldl Reading.with {}
      isStable := options.has 's' || isUnique }
    .digest (sourcesOf options.operands) none fun inputs isAll =>
      if !isAll then none
      else
        match inputs.find? fun input => input.contents.toOption.isNone with
        | some input =>
          some { errors := inputErrors (call.name ++ ": cannot read") [input], status := 2 }
        | none =>
          let lines := (textsOf inputs).flatMap fun text => (linesOf text).1
          let ordered := lines.mergeSort fun first second => ranking.order first second != .gt
          some { output := withEnds (if isUnique then ranking.distinct ordered else ordered) }

end EditorSession.Shell.Order
