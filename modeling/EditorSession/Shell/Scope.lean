import EditorSession.Shell.Plain

/-!
# Scopes

What the parameters of a script stand for: its variables, its arguments, and what the shell tells of
itself. A variable may be exported to the programs that the script runs.
-/

namespace EditorSession.Shell

/-- What is known of a variable. -/
structure Variable where
  value : Option String := none
  isExported : Bool := false
  deriving DecidableEq, Repr, Inhabited

/-- What parameters stand for. -/
structure Scope where
  bindings : List (String × Variable) := []
  /-- The name of the script. -/
  name : String
  arguments : List String := []
  /-- The status of the last command. -/
  status : Nat := 0
  /-- The number of the shell. -/
  shell : Nat := 1
  /-- The number of the last command in the background. -/
  lastBackground : Option Nat := none
  /-- The letters of the options that are set. -/
  flags : List Char := []
  /-- The line of the present command. -/
  line : Nat := 1
  /-- The number of the argument that the next option is taken from. -/
  optionIndex : Nat := 1
  /-- The signs of an argument that options were already taken from. -/
  optionOffset : Nat := 0

namespace Scope

/-- What is known of a variable. -/
def known? (scope : Scope) (name : String) : Option Variable := scope.bindings.lookup name

/-- The scope with something else known of a variable, which keeps its place among the others. -/
def setVariable (scope : Scope) (name : String) (known : Option Variable) : Scope :=
  match known with
  | none => { scope with bindings := scope.bindings.filter fun kept => kept.1 ≠ name }
  | some known =>
    if scope.bindings.any (·.1 = name) then
      { scope with
        bindings := scope.bindings.map fun kept => if kept.1 = name then (name, known) else kept }
    else { scope with bindings := scope.bindings ++ [(name, known)] }

/-- Whether an option is set. -/
def hasFlag (scope : Scope) (letter : Char) : Bool := scope.flags.contains letter

/-- The letters of options in the order in which the shell shows them. -/
def flagOrder : List Char :=
  ['u', 'b', 'a', 'C', 'E', 'V', 'v', 'x', 's', 'n', 'm', 'i', 'I', 'f', 'e']

/-- The value of a variable. -/
def valueOf? (scope : Scope) (name : String) : Option String :=
  (scope.known? name).bind Variable.value

/-- The characters that separate fields. -/
def separators (scope : Scope) : List Char :=
  match scope.valueOf? "IFS" with
  | some text => text.toList
  | none => [' ', '\t', '\n']

/-- What joins arguments to one text. -/
def joint (scope : Scope) : String := String.ofList (scope.separators.take 1)

/-- The value of a parameter. -/
def value? (scope : Scope) (name : String) : Option String :=
  match decimal? name with
  | some 0 => some scope.name
  | some (position + 1) => scope.arguments[position]?
  | none =>
    match name with
    | "*" | "@" => some (String.intercalate scope.joint scope.arguments)
    | "#" => some (toString scope.arguments.length)
    | "?" => some (toString scope.status)
    | "$" => some (toString scope.shell)
    | "!" => scope.lastBackground.map toString
    | "-" => some (String.ofList (flagOrder.filter scope.flags.contains))
    | _ => scope.valueOf? name

/-- The scope with a value for a variable. -/
def assign (scope : Scope) (name value : String) : Scope :=
  let before := (scope.known? name).getD {}
  let isExported := before.isExported || scope.hasFlag 'a'
  let scope :=
    if name = "OPTIND" then
      { scope with optionIndex := (decimal? value).getD 1, optionOffset := 0 }
    else scope
  scope.setVariable name (some { before with value := some value, isExported })

/-- The number of groups that variables are kept in. -/
def groupCount : Nat := 39

/-- The group that a variable is kept in. -/
def groupOf (name : String) : Nat :=
  let first := (name.toList.head?.map Char.toNat).getD 0
  (first * 16 + (name.toList.map Char.toNat).foldl (· + ·) 0) % groupCount

/-- The variables that programs are given, with their values, in the order of their groups. -/
def environment (scope : Scope) : List (String × String) :=
  let exported := scope.bindings.filterMap fun (name, known) =>
    if known.isExported then known.value.map (name, ·) else none
  exported.mergeSort fun first second => groupOf first.1 ≤ groupOf second.1

end Scope

end EditorSession.Shell
