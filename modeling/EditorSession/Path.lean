import EditorSession.Text.Utf8

/-!
# Paths of documents

A path is a sequence of octets cut at slashes. Two spellings of a path are the same document when
they have the same parts: repeated slashes, a slash at the end and points that stand for the
directory itself do not count, except for a point at the very start.
-/

namespace EditorSession.Path

/-- The octet of the slash. -/
def slash : UInt8 := 0x2F

/-- The octet of the point. -/
def point : UInt8 := 0x2E

/-- One part of a path. -/
inductive Part
  /-- The slash that an absolute path starts with. -/
  | root
  /-- The point that a relative path starts with. -/
  | here
  | parent
  | name (octets : Octets)
  deriving DecidableEq, Repr

/-- The stretches of octets between slashes; there is one more of them than slashes. -/
def segments : Octets → List Octets
  | [] => [[]]
  | octet :: rest =>
    if octet = slash then [] :: segments rest
    else
      match segments rest with
      | first :: others => (octet :: first) :: others
      | [] => [[octet]]

/-- The part that a segment after the first is, if it is one. -/
def partOf? (segment : Octets) : Option Part :=
  if segment = [] ∨ segment = [point] then none
  else if segment = [point, point] then some .parent
  else some (.name segment)

/-- The parts of a path. -/
def parts (path : Octets) : List Part :=
  match segments path with
  | [] => []
  | first :: rest =>
    let start : List Part :=
      if first = [] then (if rest.isEmpty then [] else [.root])
      else if first = [point] then [.here]
      else (partOf? first).toList
    start ++ rest.filterMap partOf?

/-- The name of the file that a path leads to. -/
def fileName? (path : Octets) : Option Octets :=
  match (parts path).getLast? with
  | some (.name octets) => some octets
  | _ => none

/-- What follows the last point of a file name, unless that point is the first octet. -/
def extensionOf? (name : Octets) : Option Octets :=
  let reversed := name.reverse
  match reversed.dropWhile (· ≠ point) with
  | [] | [_] => none
  | _ => some (reversed.takeWhile (· ≠ point)).reverse

/-- The extension of the file that a path leads to. -/
def extension? (path : Octets) : Option Octets :=
  (fileName? path).bind extensionOf?

end EditorSession.Path
