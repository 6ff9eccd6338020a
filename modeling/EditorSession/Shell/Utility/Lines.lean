import EditorSession.Shell.Format
import EditorSession.Shell.Utility.Basic

/-!
# Lines

Programs that copy, count and put together the lines that they read: `cat`, `wc` and `paste`.
-/

namespace EditorSession.Shell.Lines

/-- Copies lines. -/
def copy : Utility := withOptions { plain := ['u'] } 1 fun _ options =>
  .copy (sourcesOf options.operands)

/-! ### Counts -/

/-- The number of words in characters. -/
def wordsIn (inWord : Bool) : List Char → Nat
  | [] => 0
  | first :: rest =>
    if isSpace first then wordsIn false rest
    else (if inWord then 0 else 1) + wordsIn true rest

/-- A number filled up with blanks. -/
def padded (width number : Nat) : String :=
  let digits := toString number
  String.ofList (List.replicate (width - digits.length) ' ') ++ digits

/-- What a letter counts in a text: its lines, its words or its octets. -/
def countOf (text : String) (letter : Char) : Nat :=
  match letter with
  | 'l' => text.toList.countP (· = '\n')
  | 'w' => wordsIn false text.toList
  | _ => text.length

/-- The width of the columns of counts. Where a size is not known beforehand, columns are wide. -/
def columnWidth (columns : Nat) (inputs : List Input) : Nat :=
  if inputs.length = 1 ∧ columns = 1 then 1
  else
    let sizes := inputs.map fun input =>
      match input.contents, input.isFile with
      | .ok text, true => some text.length
      | .ok _, false => none
      | .error _, _ => some 0
    let total := (sizes.map fun size => size.getD 0).foldl (· + ·) 0
    max (toString total).length (if sizes.any Option.isNone then 7 else 1)

/-- Counts lines, words and octets. -/
def count : Utility := withOptions { plain := ['l', 'w', 'c', 'm'] } 1 fun call options =>
  let asked := if options.given.isEmpty then ['l', 'w', 'c']
    else ['l', 'w', 'm', 'c'].filter options.has
  .digest (sourcesOf options.operands) none fun inputs isAll =>
    if !isAll then none
    else
      let width := columnWidth asked.length inputs
      let line (name : String) (counts : List Nat) : String :=
        String.intercalate " " (counts.map (padded width)) ++
          (if name.isEmpty then "" else " " ++ name) ++ "\n"
      let counts := inputs.filterMap fun input =>
        (input.contents.toOption).map fun text =>
          (if options.operands.isEmpty then "" else input.name, asked.map (countOf text))
      let total := (counts.map Prod.snd).foldl (List.zipWith (· + ·)) (asked.map fun _ => 0)
      some {
        output := String.join (counts.map fun (name, counts) => line name counts) ++
          (if 1 < inputs.length then line "total" total else "")
        errors := inputErrors call.name inputs
        status := if allRead inputs then 0 else 1 }

/-! ### Columns -/

/-- Texts joined by the characters of a list, which begins again after its end. -/
def joinWith (delimiters : List String) : List String → String
  | [] => ""
  | [last] => last
  | first :: rest =>
    match delimiters with
    | delimiter :: others => first ++ delimiter ++ joinWith (others ++ [delimiter]) rest
    | [] => first ++ joinWith [] rest

/-- The delimiters that a text lists. -/
def delimitersOf (text : String) : List String :=
  let rec go : List Char → List String
    | '\\' :: '0' :: rest => "" :: go rest
    | '\\' :: letter :: rest =>
      String.ofList [((Format.escapeCode? letter).map Char.ofNat).getD letter] :: go rest
    | first :: rest => String.ofList [first] :: go rest
    | [] => []
  go text.toList

/-- The lines of columns next to one another; a column that has ended goes on with empty lines. -/
def rows (columns : List (List String)) : List (List String) :=
  let count := columns.foldl (fun count column => max count column.length) 0
  (List.range count).map fun row => columns.map fun column => column[row]?.getD ""

/-- Puts the lines of each source, or those of all sources, next to one another. -/
def paste : Utility := withOptions { plain := ['s'], valued := ['d'] } 1 fun call options =>
  let delimiters := delimitersOf ((options.value? 'd').getD "\t")
  .digest (sourcesOf options.operands) none fun inputs isAll =>
    if !isAll then none
    else
      let columns := inputs.map fun input => (linesOf (input.contents.toOption.getD "")).1
      let joined := (if options.has 's' then columns else rows columns).map (joinWith delimiters)
      some {
        output := withEnds joined
        errors := inputErrors call.name inputs
        status := if allRead inputs then 0 else 1 }

end EditorSession.Shell.Lines
