/-
This file holds the pieces from which values are encoded.
-/

import AccessGraph.Json.Value

namespace AccessGraph.Json

def count (number : Nat) : Json :=
  .integer number

def list {α : Type} (encode : α → Json) (elements : List α) : Json :=
  .array (elements.map encode)

def texts (elements : List String) : Json :=
  list .text elements

/-- Nothing is written as null. -/
def optional {α : Type} (encode : α → Json) : Option α → Json
  | none => .null
  | some value => encode value

/-- A member that is left out unless there is something to say. -/
def member (kept : Bool) (name : String) (value : Json) : List (String × Json) :=
  if kept then [(name, value)] else []

end AccessGraph.Json
