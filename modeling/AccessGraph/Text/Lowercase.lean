/-
This file puts a text into lower case, one character after the other, with the one letter whose
lower-case form depends on its neighbours.
-/

import AccessGraph.Text.CaseTable

namespace AccessGraph.Text

def isCased (character : Char) : Bool :=
  inRanges casedRanges character

def isCaseIgnorable (character : Char) : Bool :=
  inRanges caseIgnorableRanges character

def CaseRun.covers (run : CaseRun) (code : Nat) : Bool :=
  run.first ≤ code && code ≤ run.last && (code - run.first) % run.step == 0

/-- This is the lower-case form of a character that stands alone. Only `İ` has one of two characters. -/
def lowerCharacter (character : Char) : List Char :=
  if character.toNat < 0x80 then [character.toLower]
  else if character = 'İ' then ['i', Char.ofNat 0x307]
  else
    match caseRuns.find? (·.covers character.toNat) with
    | some run => [Char.ofNat (run.lower + (character.toNat - run.first))]
    | none => [character]

/-- The next character is cased when those that case ignores are passed over. -/
def nextIsCased (characters : List Char) : Bool :=
  match characters.dropWhile isCaseIgnorable with
  | [] => false
  | character :: _ => isCased character

/-- A `Σ` at the end of a word, with letters before it and none after, is written `ς`. -/
def lowerSigma (before after : List Char) : Char :=
  if nextIsCased before && !nextIsCased after then 'ς' else 'σ'

/-- The first list holds the characters passed so far, the last of them first. -/
def lowerAfter (before : List Char) : List Char → List Char
  | [] => []
  | character :: after =>
      (if character = 'Σ' then [lowerSigma before after] else lowerCharacter character)
        ++ lowerAfter (character :: before) after

def lowercase (text : String) : String :=
  String.ofList (lowerAfter [] text.toList)

end AccessGraph.Text
