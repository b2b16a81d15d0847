/-
This file says which characters are blank, and takes them off the ends of a text.
-/

import AccessGraph.Text.CodePoint

namespace AccessGraph.Text

/-- The characters with the property White_Space. -/
def blankRanges : List CodeRange :=
  [(0x9, 0xD), (0x20, 0x20), (0x85, 0x85), (0xA0, 0xA0), (0x1680, 0x1680), (0x2000, 0x200A),
    (0x2028, 0x2029), (0x202F, 0x202F), (0x205F, 0x205F), (0x3000, 0x3000)]

def isBlank (character : Char) : Bool :=
  inRanges blankRanges character

/-- This function drops the blank characters at both ends and keeps those between. -/
def trimCharacters (characters : List Char) : List Char :=
  ((characters.dropWhile isBlank).reverse.dropWhile isBlank).reverse

def trim (text : String) : String :=
  String.ofList (trimCharacters text.toList)

end AccessGraph.Text
