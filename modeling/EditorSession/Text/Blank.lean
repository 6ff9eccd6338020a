/-!
# Blank characters

Names, header lines and configured values are trimmed of the characters with the Unicode property
`White_Space`. That is more than the blanks of ASCII: it has the ideographic space and the no-break
spaces, and it lacks the zero-width space.
-/

namespace EditorSession.Text

/-- Whether a character has the Unicode property `White_Space`. -/
def isBlank (character : Char) : Bool :=
  let code := character.toNat
  (0x09 ≤ code && code ≤ 0x0D) || code == 0x20 || code == 0x85 || code == 0xA0 || code == 0x1680
    || (0x2000 ≤ code && code ≤ 0x200A) || code == 0x2028 || code == 0x2029 || code == 0x202F
    || code == 0x205F || code == 0x3000

/-- A text without the blanks it starts with and the blanks it ends with. -/
def trimBlank (text : List Char) : List Char :=
  ((text.dropWhile isBlank).reverse.dropWhile isBlank).reverse

/-- A string without the blanks at either end. -/
def trim (text : String) : String :=
  String.ofList (trimBlank text.toList)

/-- Whether nothing but blanks is in a string. -/
def isBlankText (text : String) : Bool :=
  text.toList.all isBlank

end EditorSession.Text
