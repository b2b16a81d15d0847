/-
This file reads a text into a tree that keeps every fault in its place, so that whoever looks at the
tree meets the faults in the order of the text.
-/

import AccessGraph.Json.Token
import AccessGraph.Json.Value

namespace AccessGraph

/-- A part of a document, as far as the text goes. `cut` is the fault at which the text of an array
or an object breaks off, in itself or inside it; `unkeyed` says that it does so where a key is
wanted. -/
inductive Document where
  | absent (fault : Fault)
  | literal (value : Except Fault Literal)
  | number (leaf : Leaf Number)
  | text (leaf : Leaf String)
  | array (elements : List Document) (cut : Option Fault)
  | object (members : List (Leaf String × Document)) (unkeyed : Bool) (cut : Option Fault)

namespace Document

/-- This is the fault that stops a reader who only passes over the part. -/
def broken : Document → Option Fault
  | .absent fault => some fault
  | .literal (.error fault) => some fault
  | .literal (.ok _) => none
  | .number leaf => leaf.broken
  | .text leaf => leaf.broken
  | .array _ cut => cut
  | .object _ _ cut => cut

mutual

/-- The number of parts inside one another. -/
def depth : Document → Nat
  | .array elements _ => elementsDepth elements + 1
  | .object members _ _ => membersDepth members + 1
  | _ => 0

def elementsDepth : List Document → Nat
  | [] => 0
  | element :: rest => max element.depth (elementsDepth rest)

def membersDepth : List (Leaf String × Document) → Nat
  | [] => 0
  | (_, value) :: rest => max value.depth (membersDepth rest)

end

mutual

/-- A value is a document without faults. -/
def ofJson : Json → Document
  | .null => .literal (.ok .null)
  | .boolean value => .literal (.ok (.boolean value))
  | .integer value => .number (.ok (.integer value))
  | .decimal digits => .number (.ok (.decimal digits))
  | .text value => .text (.ok value)
  | .array elements => .array (ofElements elements) none
  | .object members => .object (ofMembers members) false none

def ofElements : List Json → List Document
  | [] => []
  | element :: rest => ofJson element :: ofElements rest

def ofMembers : List (String × Json) → List (Leaf String × Document)
  | [] => []
  | (key, value) :: rest => (.ok key, ofJson value) :: ofMembers rest

end

theorem ofMembers_eq_map (members : List (String × Json)) :
    ofMembers members = members.map fun member => (.ok member.1, ofJson member.2) := by
  induction members with
  | nil => rfl
  | cons member rest inductionHypothesis => rw [ofMembers, inductionHypothesis, List.map_cons]

mutual

/-- A document without faults is a value; else its first fault is reported. -/
def toJson : Document → Except Fault Json
  | .absent fault => .error fault
  | .literal value => value.map fun
      | .null => .null
      | .boolean value => .boolean value
  | .number leaf => leaf.value.map fun
      | .integer value => .integer value
      | .decimal digits => .decimal digits
  | .text leaf => leaf.value.map .text
  | .array elements cut => do
      let elements ← toElements elements
      match cut with
      | some fault => .error fault
      | none => .ok (.array elements)
  | .object members _ cut => do
      let members ← toMembers members
      match cut with
      | some fault => .error fault
      | none => .ok (.object members)

def toElements : List Document → Except Fault (List Json)
  | [] => .ok []
  | element :: rest => do
      let element ← element.toJson
      let rest ← toElements rest
      .ok (element :: rest)

def toMembers : List (Leaf String × Document) → Except Fault (List (String × Json))
  | [] => .ok []
  | (key, value) :: rest => do
      let key ← key.value
      let value ← value.toJson
      let rest ← toMembers rest
      .ok ((key, value) :: rest)

end

/-- An array or an object whose end has not been read, with what has been found in it so far, last
first. The value of an open object's key comes next. -/
inductive Frame where
  | elements (found : List Document)
  | members (found : List (Leaf String × Document)) (key : Leaf String)

/-- What the text has to go on with. -/
inductive State where
  | atValue (frames : List Frame)
  | atElement (frames : List Frame)
  | atNextElement (found : List Document) (frames : List Frame)
  | atKey (first : Bool) (found : List (Leaf String × Document)) (frames : List Frame)
  | atColon (found : List (Leaf String × Document)) (key : Leaf String) (frames : List Frame)
  | atNextMember (found : List (Leaf String × Document)) (frames : List Frame)
  | finished (root : Document)

/-- The whole of a text: the part that was read, and the fault in what comes after it. -/
structure Reading where
  root : Document
  trailing : Option Fault

/-- A text that breaks off leaves all open arrays and objects cut. -/
def cutOff (fault : Fault) (part : Document) : List Frame → Reading
  | [] => ⟨part, none⟩
  | .elements found :: frames =>
      cutOff fault (.array (part :: found).reverse (some fault)) frames
  | .members found key :: frames =>
      cutOff fault (.object ((key, part) :: found).reverse false (some fault)) frames

/-- A part read in full goes into the array or the object around it. -/
def close (part : Document) : List Frame → State
  | [] => .finished part
  | .elements found :: frames => .atNextElement (part :: found) frames
  | .members found key :: frames => .atNextMember ((key, part) :: found) frames

/-- A token that opens no array and no object is a value by itself, or is none. -/
def leaf : Token → Document
  | .literal value => .literal value
  | .number leaf => .number leaf
  | .text leaf => .text leaf
  | _ => .absent .malformed

def takeValue (frames : List Frame) (token : Token) : Reading ⊕ State :=
  match token with
  | .openArray => .inr (.atElement frames)
  | .openObject => .inr (.atKey true [] frames)
  | _ =>
      match (leaf token).broken with
      | some fault => .inl (cutOff fault (leaf token) frames)
      | none => .inr (close (leaf token) frames)

/-- The text has no key where a key is wanted. -/
def breakAtKey (fault : Fault) (found : List (Leaf String × Document)) (frames : List Frame) :
    Reading :=
  cutOff fault (.object found.reverse true (some fault)) frames

def takeKey (found : List (Leaf String × Document)) (frames : List Frame) (token : Token) :
    Reading ⊕ State :=
  match token with
  | .text key =>
      match key.broken with
      | none => .inr (.atColon found key frames)
      | some fault =>
          .inl (cutOff fault (.object ((key, .absent fault) :: found).reverse false (some fault))
            frames)
  | _ => .inl (breakAtKey .malformed found frames)

/-- One token takes a state to the next, or the text breaks off at it. -/
def State.step (token : Token) : State → Reading ⊕ State
  | .atValue frames => takeValue frames token
  | .atElement frames =>
      match token with
      | .closeArray => .inr (close (.array [] none) frames)
      | _ => takeValue (.elements [] :: frames) token
  | .atNextElement found frames =>
      match token with
      | .closeArray => .inr (close (.array found.reverse none) frames)
      | .comma => .inr (.atValue (.elements found :: frames))
      | _ => .inl (cutOff .malformed (.array found.reverse (some .malformed)) frames)
  | .atKey first found frames =>
      match first, token with
      | true, .closeObject => .inr (close (.object found.reverse false none) frames)
      | _, _ => takeKey found frames token
  | .atColon found key frames =>
      match token with
      | .colon => .inr (.atValue (.members found key :: frames))
      | _ => .inl (cutOff .malformed (.absent .malformed) (.members found key :: frames))
  | .atNextMember found frames =>
      match token with
      | .closeObject => .inr (close (.object found.reverse false none) frames)
      | .comma => .inr (.atKey false found frames)
      | _ => .inl (cutOff .malformed (.object found.reverse false (some .malformed)) frames)
  | .finished root => .inl ⟨root, some .malformed⟩

/-- The text ends in this state. -/
def State.ending : State → Reading
  | .atValue frames => cutOff .truncated (.absent .truncated) frames
  | .atElement frames => cutOff .truncated (.absent .truncated) (.elements [] :: frames)
  | .atNextElement found frames =>
      cutOff .truncated (.array found.reverse (some .truncated)) frames
  | .atKey _ found frames => breakAtKey .truncated found frames
  | .atColon found key frames =>
      cutOff .truncated (.absent .truncated) (.members found key :: frames)
  | .atNextMember found frames =>
      cutOff .truncated (.object found.reverse false (some .truncated)) frames
  | .finished root => ⟨root, none⟩

def run (state : State) (text : List Char) : Reading :=
  match _found : Token.next text with
  | none => state.ending
  | some (token, rest) =>
      match state.step token with
      | .inl reading => reading
      | .inr state => run state rest
termination_by text.length
decreasing_by exact Token.next_shorter _found

def read (text : String) : Reading :=
  run (.atValue []) text.toList

end Document

/-- This function reads a text as a value of no particular shape. -/
def Json.parse (text : String) : Except Fault Json := do
  let reading := Document.read text
  let value ← reading.root.toJson
  match reading.trailing with
  | some fault => .error fault
  | none => .ok value

end AccessGraph
