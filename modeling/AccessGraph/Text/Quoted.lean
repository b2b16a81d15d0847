/-
This file writes a text between quotation marks so that every character of it can be seen.
-/

import AccessGraph.Text.ShownTable

namespace AccessGraph.Text

def isShown (character : Char) : Bool :=
  inRanges shownRanges character

def hexadecimal (number : Nat) : List Char :=
  Nat.toDigits 16 number

/-- Quotation marks, backslashes and the common controls have short forms; a character that cannot
be shown is written as its code point. -/
def quoteCharacter (character : Char) : List Char :=
  match character with
  | '"' => ['\\', '"']
  | '\\' => ['\\', '\\']
  | '\n' => ['\\', 'n']
  | '\r' => ['\\', 'r']
  | '\t' => ['\\', 't']
  | '\x00' => ['\\', '0']
  | _ =>
      if isShown character then [character]
      else ['\\', 'u', '{'] ++ hexadecimal character.toNat ++ ['}']

def quote (text : String) : String :=
  String.ofList ('"' :: text.toList.flatMap quoteCharacter ++ ['"'])

end AccessGraph.Text
