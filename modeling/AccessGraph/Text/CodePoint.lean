/-
This file holds sets of characters written as ranges of code points.
-/

namespace AccessGraph.Text

/-- An inclusive range of code points. -/
abbrev CodeRange := Nat × Nat

/-- A character is in a set when one of the set's ranges holds its code point. -/
def inRanges (ranges : List CodeRange) (character : Char) : Bool :=
  ranges.any fun range => range.1 ≤ character.toNat && character.toNat ≤ range.2

end AccessGraph.Text
