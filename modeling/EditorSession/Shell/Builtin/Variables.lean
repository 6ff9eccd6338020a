import EditorSession.Shell.Builtin.Basic

/-!
# Commands for parameters

The commands of the shell that set and take away variables and arguments: `export`, `unset`,
`local`, `set`, `shift`, `getopts` and `read`.
-/

namespace EditorSession.Shell.Variables

/-! ### Variables -/

/-- The name and the value in a text that may bind a variable. -/
def binding (text : String) : String × Option String :=
  match text.splitOn "=" with
  | name :: value :: rest => (name, some (String.intercalate "=" (value :: rest)))
  | _ => (text, none)

/-- What is wrong with a name. -/
def badName (name : String) : String := name ++ ": bad variable name"

/-- Hands variables on to programs; some of them get values. -/
def exportAll : Builtin := fun calling => do
  Act.settle 0
  markAll calling calling.arguments
where
  /-- Marks the variables of arguments in turn. -/
  markAll (calling : Calling) : List String → Act Unit
    | [] => return
    | argument :: rest => do
      let (name, value) := binding argument
      if !isName name then calling.misuse (badName name)
      else
        Act.changeScope fun scope =>
          let scope := match value with | some value => scope.assign name value | none => scope
          scope.setVariable name (some { (scope.known? name).getD {} with isExported := true })
        markAll calling rest

/-- Forgets variables or functions. -/
def unset : Builtin := fun calling =>
  calling.withLetters ['v', 'f'] fun letters arguments => do
    Act.settle 0
    forgetAll calling (letters.getLast? == some 'f') arguments
where
  /-- Forgets what arguments name in turn. -/
  forgetAll (calling : Calling) (isFunction : Bool) : List String → Act Unit
    | [] => return
    | name :: rest => do
      if isFunction then
        Act.change fun process => { process with
          definitions := process.definitions.filter (·.1 ≠ name) }
        forgetAll calling isFunction rest
      else if !isName name then calling.misuse (badName name)
      else
        Act.changeScope (·.setVariable name none)
        forgetAll calling isFunction rest

/-- The tasks with one more variable that is given back when the innermost function ends. -/
def keepLocal (name : String) (known : Option Variable) : List Task → Option (List Task)
  | [] => none
  | .endCall frame :: rest =>
    let locals :=
      if frame.locals.any (·.1 = name) then frame.locals else (name, known) :: frame.locals
    some (.endCall { frame with locals } :: rest)
  | task :: rest => (keepLocal name known rest).map (task :: ·)

/-- Makes variables local to a function. -/
def makeLocal : Builtin := fun calling => do
  Act.settle 0
  if (keepLocal "" none (← Act.self).tasks).isNone then calling.misuse "not in a function"
  else makeAll calling calling.arguments
where
  /-- Makes variables local in turn. -/
  makeAll (calling : Calling) : List String → Act Unit
    | [] => return
    | argument :: rest => do
      let (name, value) := binding argument
      let process ← Act.self
      if name = "-" then makeAll calling rest
      else if !isName name then calling.misuse (badName name)
      else
        let known := process.scope.known? name
        Act.change fun process => { process with
          tasks := (keepLocal name known process.tasks).getD process.tasks }
        match value with
        | none => pure ()
        | some value => Act.changeScope (·.assign name value)
        makeAll calling rest

/-! ### Options and arguments -/

/-- What `set` makes of arguments. -/
structure Settings where
  flags : List Char
  arguments : Option (List String) := none

/-- The settings after letters behind a sign; a letter o takes the next argument. -/
def takeLetters (isSet : Bool) (settings : Settings) (rest : List String) :
    List Char → Except String (Settings × List String)
  | [] => .ok (settings, rest)
  | 'o' :: letters =>
    match rest with
    | [] => takeLetters isSet settings [] letters
    | name :: rest =>
      match ShellCall.optionNames.lookup name with
      | some letter =>
        let flags := ShellCall.withFlag isSet letter settings.flags
        takeLetters isSet { settings with flags } rest letters
      | none => .error ("Illegal option " ++ (if isSet then "-" else "+") ++ "o " ++ name)
  | letter :: letters =>
    if ShellCall.optionNames.any (·.2 = letter) then
      let flags := ShellCall.withFlag isSet letter settings.flags
      takeLetters isSet { settings with flags } rest letters
    else .error ("Illegal option " ++ String.ofList [if isSet then '-' else '+', letter])

/-- The settings that arguments ask for. -/
def settingsOf (budget : Nat) (settings : Settings) (arguments : List String) :
    Except String Settings :=
  match budget with
  | 0 => .ok settings
  | budget + 1 =>
    match arguments with
    | [] => .ok settings
    | "--" :: rest => .ok { settings with arguments := some rest }
    | "-" :: rest =>
      let flags := settings.flags.filter fun letter => letter ≠ 'x' && letter ≠ 'v'
      .ok { settings with flags, arguments := if rest.isEmpty then none else some rest }
    | argument :: rest =>
      match argument.toList with
      | '-' :: letters => do
        let (settings, rest) ← takeLetters true settings rest letters
        settingsOf budget settings rest
      | '+' :: letters => do
        let (settings, rest) ← takeLetters false settings rest letters
        settingsOf budget settings rest
      | _ => .ok { settings with arguments := some (argument :: rest) }

/-- Sets options and arguments. -/
def set : Builtin := fun calling => do
  let flags := (← Act.scope).flags
  match settingsOf (calling.arguments.length + 1) { flags } calling.arguments with
  | .error cause => calling.misuse cause
  | .ok settings =>
    Act.changeScope fun scope =>
      let scope := { scope with flags := settings.flags }
      match settings.arguments with
      | some arguments => { scope with arguments, optionIndex := 1, optionOffset := 0 }
      | none => scope
    Act.settle 0

/-- Takes arguments away. -/
def shift : Builtin := fun calling =>
  calling.withNumber (calling.arguments.head?.getD "1") fun count => do
    let scope ← Act.scope
    if scope.arguments.length < count then calling.misuse "can't shift that many"
    else
      Act.changeScope fun scope => { scope with
        arguments := scope.arguments.drop count, optionIndex := 1, optionOffset := 0 }
      Act.settle 0

/-! ### Options of a script -/

/-- An option that was found among arguments. -/
structure FoundOption where
  /-- The letter of the option; a question mark stands for one that is not known. -/
  letter : Char
  value : Option String
  /-- What is to be said of the option. -/
  complaint : Option String := none
  /-- The number of the argument that the next option is taken from, and the signs of the one before
  it that options were taken from already. -/
  index : Nat
  offset : Nat
  isEnd : Bool := false

/-- What a letter asks for, if it is one of the options: whether it takes a value. -/
def takesValue? (letter : Char) : List Char → Option Bool
  | [] => none
  | ':' :: rest => takesValue? letter rest
  | known :: rest =>
    if known = letter then some (rest.head? == some ':') else takesValue? letter rest

/-- The next option among arguments. -/
def nextOption (options : List Char) (arguments : List String) (index offset : Nat) :
    FoundOption :=
  let isSilent := options.head? == some ':'
  -- The signs that are left of the argument before the present one.
  let left : List Char :=
    if index ≤ 1 ∨ offset = 0 then []
    else ((arguments[index - 2]?).getD "").toList.drop offset
  let found : Option (List Char × Nat × Nat) :=
    match left with
    | _ :: _ => some (left, index, offset)
    | [] =>
      match ((arguments[index - 1]?).getD "").toList with
      | '-' :: rest => if rest.isEmpty then none else some (rest, index + 1, 1)
      | _ => none
  match found with
  | none => { letter := '?', value := none, index, offset := 0, isEnd := true }
  | some (['-'], index, 1) => { letter := '?', value := none, index, offset := 0, isEnd := true }
  | some ([], index, offset) => { letter := '?', value := none, index, offset, isEnd := true }
  | some (letter :: rest, index, offset) =>
    let next := if rest.isEmpty then 0 else offset + 1
    match takesValue? letter options with
    | none =>
      if isSilent then
        { letter := '?', value := some (String.ofList [letter]), index, offset := next }
      else
        { letter := '?', value := none, index, offset := next
          complaint := some ("Illegal option -" ++ String.ofList [letter] ++ "\n") }
    | some false => { letter, value := some "", index, offset := next }
    | some true =>
      if !rest.isEmpty then { letter, value := some (String.ofList rest), index, offset := 0 }
      else
        match arguments[index - 1]? with
        | some value => { letter, value := some value, index := index + 1, offset := 0 }
        | none =>
          if isSilent then
            { letter := ':', value := some (String.ofList [letter]), index, offset := 0 }
          else
            { letter := '?', value := none, index, offset := 0
              complaint := some ("No arg for -" ++ String.ofList [letter] ++ " option\n") }

/-- Takes the next option from the arguments. -/
def takeOption : Builtin := fun calling => do
  match calling.arguments with
  | options :: name :: given =>
    let scope ← Act.scope
    let arguments := if given.isEmpty then scope.arguments else given
    let isOut := arguments.length + 1 < scope.optionIndex
    let index := if isOut then 1 else scope.optionIndex
    let offset := if isOut then 0 else scope.optionOffset
    let found := nextOption options.toList arguments index offset
    match found.complaint with
    | some text => Act.say text
    | none => pure ()
    let isKept := found.isEnd
    Act.changeScope fun scope =>
      let scope :=
        if isKept then scope
        else
          match found.value with
          | some value => scope.assign "OPTARG" value
          | none => scope.setVariable "OPTARG" none
      let scope := scope.assign "OPTIND" (toString found.index)
      { scope with optionIndex := found.index, optionOffset := found.offset }
    Act.changeScope (·.assign name (String.ofList [found.letter]))
    Act.settleTruth (!found.isEnd)
  | _ => calling.misuse "Usage: getopts optstring var [arg...]"

/-! ### Reading lines -/

/-- The words of a line under construction. -/
structure Splitting where
  finished : List String := []
  /-- The characters of the present word, last first. -/
  present : List Char := []
  /-- How many characters of the present word stay if it ends here. -/
  kept : Option Nat := none
  /-- Whether a blank ended the word before. -/
  afterBlank : Bool := false
  /-- How many words there may still be. -/
  left : Nat

/-- Whether a character is a blank that may surround words. -/
def isGap (character : Char) : Bool :=
  character = ' ' || character = '\t' || character = '\n'

/-- Takes a character; the last word takes all that is left. -/
def Splitting.take (separators : List Char) (splitting : Splitting) :
    Char × Bool → Splitting
  | (character, isQuoted) =>
    let separates := !isQuoted && separators.contains character
    let isBlank := separates && isGap character
    if splitting.left = 0 then
      let kept :=
        if isBlank then some (splitting.kept.getD splitting.present.length)
        else if separates && splitting.afterBlank then splitting.kept
        else none
      { splitting with
        present := character :: splitting.present
        kept
        afterBlank := splitting.afterBlank && isBlank }
    else if splitting.afterBlank && isBlank then splitting
    else if splitting.afterBlank && separates then { splitting with afterBlank := false }
    else if isBlank && splitting.present.isEmpty then splitting
    else if separates then
      if splitting.left = 1 then
        { splitting with
          present := character :: splitting.present
          kept := some splitting.present.length
          afterBlank := isBlank
          left := 0 }
      else
        { splitting with
          finished := String.ofList splitting.present.reverse :: splitting.finished
          present := []
          afterBlank := isBlank
          left := splitting.left - 1 }
    else { splitting with present := character :: splitting.present, afterBlank := false }

/-- The words of a line for so many variables. -/
def splitLine (separators : List Char) (count : Nat) (line : List (Char × Bool)) : List String :=
  let splitting := line.foldl (Splitting.take separators) { left := count }
  let last := splitting.present.reverse
  let last := match splitting.kept with | some kept => last.take kept | none => last
  (String.ofList last :: splitting.finished).reverse

/-- A line of a text up to its end, the number of characters that it takes with its end, and whether
it has one. With escapes, a backslash quotes what follows it and joins lines. -/
def takeLine (escapes : Bool) : List Char → List (Char × Bool) × Nat × Bool
  | [] => ([], 0, false)
  | '\\' :: rest =>
    if escapes then
      match rest with
      | [] => ([], 1, false)
      | next :: rest =>
        let (line, count, isEnded) := takeLine escapes rest
        if next = '\n' then (line, count + 2, isEnded)
        else ((next, true) :: line, count + 2, isEnded)
    else
      let (line, count, isEnded) := takeLine escapes rest
      (('\\', false) :: line, count + 1, isEnded)
  | '\n' :: _ => ([], 1, true)
  | character :: rest =>
    let (line, count, isEnded) := takeLine escapes rest
    if character.toNat = 0 then (line, count + 1, isEnded)
    else ((character, false) :: line, count + 1, isEnded)

/-- How much of a text is looked at before all of it. -/
def usualLength : Nat := 1024

/-- A line of a text, as far as it goes. A line that ends early does not depend on what is far
behind its end. -/
def lineOf (escapes : Bool) (text : String) : List (Char × Bool) × Nat × Bool :=
  let (line, count, isEnded) := takeLine escapes (text.take usualLength).toString.toList
  if isEnded then (line, count, isEnded) else takeLine escapes text.toList

/-- Gives values to variables; those that are left over get empty ones. -/
def assignAll (command : String) : List String → List String → Act Bool
  | [], _ => return true
  | name :: names, values => do
    if !isName name then
      Act.complain command (badName name)
      return false
    else
      Act.changeScope (·.assign name (values.head?.getD ""))
      assignAll command names (values.drop 1)

/-- Reads a line into variables. -/
def readLine (command : String) (keepsEscapes : Bool) (names : List String) : Act Bool := do
  let process ← Act.self
  match process.port? 0 with
  | none => Act.settle 1; return true
  | some port =>
    let finish (text : String) (isAll : Bool) : Act Bool := do
      let (line, count, isEnded) := lineOf (!keepsEscapes) text
      if !isEnded && !isAll then Act.wait (.readLine command keepsEscapes names)
      else
        Act.consume port count
        let words := splitLine process.scope.separators names.length line
        if ← assignAll command names words then Act.settleTruth isEnded
        else Act.settle Calling.misuseStatus
        return true
    match ← Act.peek port with
    | .awaited =>
      if process.arrived.isEmpty then Act.wait (.readLine command keepsEscapes names)
      else Act.settle 1; return true
    | .failed _ => Act.settle 1; return true
    | .came text isAll => finish text isAll

/-- Reads a line into variables. -/
def read : Builtin := fun calling =>
  let rec go (budget : Nat) (keepsEscapes : Bool) (arguments : List String) : Act Unit :=
    match budget, arguments with
    | 0, _ => Act.settle 0
    | _, [] => calling.misuse "arg count"
    | budget + 1, argument :: rest =>
      match argument.toList with
      | '-' :: 'p' :: prompt =>
        go budget keepsEscapes (if prompt.isEmpty then rest.drop 1 else rest)
      | ['-', 'r'] => go budget true rest
      | '-' :: 'r' :: letters => go budget true (String.ofList ('-' :: letters) :: rest)
      | ['-', '-'] =>
        if rest.isEmpty then calling.misuse "arg count" else start keepsEscapes rest
      | '-' :: letter :: _ => calling.misuse ("Illegal option -" ++ String.ofList [letter])
      | _ => start keepsEscapes arguments
  go (2 * calling.arguments.length + 10) false calling.arguments
where
  /-- Begins to read. -/
  start (keepsEscapes : Bool) (names : List String) : Act Unit :=
    Act.push [.readLine "read" keepsEscapes names]

end EditorSession.Shell.Variables
