/-
This file holds document values and writes them as text.
-/

namespace AccessGraph

/-- A document value. A number that is not a 64-bit integer is kept as its shortest decimal text. -/
inductive Json where
  | null
  | boolean (value : Bool)
  | integer (value : Int)
  | decimal (digits : String)
  | text (value : String)
  | array (elements : List Json)
  | object (members : List (String × Json))
deriving Inhabited

namespace Json

/-- The short forms of a quotation mark, a backslash and the common controls are used; other
controls are written as their code points, and all else as it is. -/
def escape (character : Char) : List Char :=
  match character with
  | '"' => ['\\', '"']
  | '\\' => ['\\', '\\']
  | '\n' => ['\\', 'n']
  | '\r' => ['\\', 'r']
  | '\t' => ['\\', 't']
  | '\x08' => ['\\', 'b']
  | '\x0c' => ['\\', 'f']
  | _ =>
      if character.toNat < 0x10 then ['\\', 'u', '0', '0', '0'] ++ Nat.toDigits 16 character.toNat
      else if character.toNat < 0x20 then ['\\', 'u', '0', '0'] ++ Nat.toDigits 16 character.toNat
      else [character]

def printText (text : String) : String :=
  String.ofList ('"' :: text.toList.flatMap escape ++ ['"'])

mutual

/-- This function appends the compact text of a value. -/
def printAfter (written : String) : Json → String
  | .null => written ++ "null"
  | .boolean value => written ++ (if value then "true" else "false")
  | .integer value => written ++ toString value
  | .decimal digits => written ++ digits
  | .text value => written ++ printText value
  | .array elements => (printElements (written.push '[') true elements).push ']'
  | .object members => (printMembers (written.push '{') true members).push '}'

def printElements (written : String) (first : Bool) : List Json → String
  | [] => written
  | element :: rest =>
      let written := if first then written else written.push ','
      printElements (printAfter written element) false rest

def printMembers (written : String) (first : Bool) : List (String × Json) → String
  | [] => written
  | (key, value) :: rest =>
      let written := if first then written else written.push ','
      printMembers (printAfter ((written ++ printText key).push ':') value) false rest

end

/-- The compact text of a value. -/
def print (value : Json) : String :=
  printAfter "" value

/-- The last member of a name counts. -/
def get? (value : Json) (name : String) : Option Json :=
  match value with
  | .object members => (members.reverse.find? (·.1 == name)).map (·.2)
  | _ => none

/-- Members go in ascending order of their keys; of two with one key the later stays. -/
def insertMember (key : String) (value : Json) : List (String × Json) → List (String × Json)
  | [] => [(key, value)]
  | (other, old) :: rest =>
      if key < other then (key, value) :: (other, old) :: rest
      else if other < key then (other, old) :: insertMember key value rest
      else (key, value) :: rest

mutual

/-- The members of every object go in ascending order. -/
def ordered : Json → Json
  | .array elements => .array (orderedElements elements)
  | .object members => .object (orderedMembers [] members)
  | value => value

def orderedElements : List Json → List Json
  | [] => []
  | element :: rest => element.ordered :: orderedElements rest

def orderedMembers (done : List (String × Json)) : List (String × Json) → List (String × Json)
  | [] => done
  | (key, value) :: rest => orderedMembers (insertMember key value.ordered done) rest

end

end Json

end AccessGraph
