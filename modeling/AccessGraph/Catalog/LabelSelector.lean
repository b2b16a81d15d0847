/-
This file holds label selectors and says which label sets they select.
-/

import AccessGraph.SortedMap
import AccessGraph.Text.Quoted

namespace AccessGraph

abbrev Labels := SortedMap String

inductive SelectorOperator where
  | within
  | notWithin
  | present
  | missing
deriving DecidableEq, Repr

def SelectorOperator.name : SelectorOperator → String
  | .within => "In"
  | .notWithin => "NotIn"
  | .present => "Exists"
  | .missing => "DoesNotExist"

/-- A condition on the value of one label. -/
structure LabelRequirement where
  key : String
  operator : SelectorOperator
  values : List String
deriving DecidableEq, Repr

/-- All label values and all requirements have to hold, so that an empty selector selects every
label set. -/
structure LabelSelector where
  matchLabels : SortedMap String
  matchExpressions : List LabelRequirement
deriving DecidableEq, Repr

/-- An operator on a list of values needs one, and an operator on presence takes none. -/
inductive RequirementFault where
  | valueNeeded (operator : SelectorOperator) (key : String)
  | valueGiven (operator : SelectorOperator) (key : String)
deriving DecidableEq, Repr

def RequirementFault.message : RequirementFault → String
  | .valueNeeded operator key =>
      "operator " ++ operator.name ++ " on key " ++ Text.quote key ++
        " requires at least one value"
  | .valueGiven operator key =>
      "operator " ++ operator.name ++ " on key " ++ Text.quote key ++ " must not have values"

namespace LabelRequirement

def fault? (requirement : LabelRequirement) : Option RequirementFault :=
  match requirement.operator, requirement.values with
  | .within, [] => some (.valueNeeded .within requirement.key)
  | .notWithin, [] => some (.valueNeeded .notWithin requirement.key)
  | .present, _ :: _ => some (.valueGiven .present requirement.key)
  | .missing, _ :: _ => some (.valueGiven .missing requirement.key)
  | _, _ => none

/-- This is what a well-formed requirement asks of the label's value. -/
def holds (requirement : LabelRequirement) (labels : Labels) : Bool :=
  match requirement.operator, labels.get? requirement.key with
  | .within, some value => requirement.values.contains value
  | .within, none => false
  | .notWithin, some value => !requirement.values.contains value
  | .notWithin, none => true
  | .present, value => value.isSome
  | .missing, value => value.isNone

end LabelRequirement

namespace LabelSelector

def empty : LabelSelector :=
  ⟨.empty, []⟩

/-- Requirements are looked at in order, and no further than the first that fails. -/
def checkRequirements (labels : Labels) : List LabelRequirement → Except RequirementFault Bool
  | [] => .ok true
  | requirement :: rest =>
      match requirement.fault? with
      | some fault => .error fault
      | none => if requirement.holds labels then checkRequirements labels rest else .ok false

/-- The label values come first; a requirement is reported as malformed only when it is reached. -/
def selects (selector : LabelSelector) (labels : Labels) : Except RequirementFault Bool :=
  if selector.matchLabels.entries.all fun entry => labels.get? entry.1 == some entry.2 then
    checkRequirements labels selector.matchExpressions
  else .ok false

end LabelSelector

end AccessGraph
