/-
This file says why a document is refused, and in which words this is reported.
-/

import AccessGraph.Text.Quoted

namespace AccessGraph

/-- What stands in a document where something else is wanted. -/
inductive Found where
  | null
  | boolean (value : Bool)
  | integer (value : Int)
  | decimal (digits : String)
  | text (value : String)
  | sequence
  | map
deriving DecidableEq, Repr

/-- A well-formed part of a document has the wrong shape. -/
inductive ShapeFault where
  | missingField (name : String)
  | duplicateField (name : String)
  | unknownVariant (name : String) (known : List String)
  | wrongType (found : Found) (expected : String)
  | wrongValue (found : Found) (expected : String)
  | wrongLength (length : Nat) (expected : String)
deriving DecidableEq, Repr

/-- A text breaks the rules of writing, or ends too early, or has the wrong shape. -/
inductive Fault where
  | malformed
  | truncated
  | shape (fault : ShapeFault)
deriving DecidableEq, Repr

def Found.message : Found → String
  | .null => "null"
  | .boolean value => "boolean `" ++ toString value ++ "`"
  | .integer value => "integer `" ++ toString value ++ "`"
  | .decimal digits => "floating point `" ++ digits ++ "`"
  | .text value => "string " ++ Text.quote value
  | .sequence => "sequence"
  | .map => "map"

def ticked (name : String) : String :=
  "`" ++ name ++ "`"

/-- One or two names stand by themselves, and more of them make a list. -/
def alternatives : List String → String
  | [] => "nothing"
  | [only] => ticked only
  | [first, second] => ticked first ++ " or " ++ ticked second
  | names => "one of " ++ ", ".intercalate (names.map ticked)

def ShapeFault.message : ShapeFault → String
  | .missingField name => "missing field " ++ ticked name
  | .duplicateField name => "duplicate field " ++ ticked name
  | .unknownVariant name known =>
      "unknown variant " ++ ticked name ++ ", expected " ++ alternatives known
  | .wrongType found expected => "invalid type: " ++ found.message ++ ", expected " ++ expected
  | .wrongValue found expected => "invalid value: " ++ found.message ++ ", expected " ++ expected
  | .wrongLength length expected =>
      "invalid length " ++ toString length ++ ", expected " ++ expected

end AccessGraph
