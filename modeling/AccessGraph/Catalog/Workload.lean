/-
This file holds pods, the workloads that own them, and the choice among several owners.
-/

import AccessGraph.Text.Blank
import AccessGraph.Text.Lowercase

namespace AccessGraph

inductive PodPhase where
  | pending
  | running
  | succeeded
  | failed
  | unknown
deriving DecidableEq, Repr

def PodPhase.name : PodPhase → String
  | .pending => "Pending"
  | .running => "Running"
  | .succeeded => "Succeeded"
  | .failed => "Failed"
  | .unknown => "Unknown"

structure OwnerReference where
  uid : String
  kind : String
  name : String
  apiVersion : String
  controller : Bool
deriving DecidableEq, Repr

namespace OwnerReference

/-- Owners are compared by this text, in which upper and lower case are alike but for the uid. -/
def sortKey (owner : OwnerReference) : String :=
  Text.lowercase owner.apiVersion ++ "|" ++ Text.lowercase owner.kind ++ "|" ++
    Text.lowercase owner.name ++ "|" ++ owner.uid

/-- A controller comes before the other owners. -/
def precedes (first second : OwnerReference) : Bool :=
  (first.controller && !second.controller) ||
    (first.controller == second.controller && first.sortKey < second.sortKey)

/-- The owner to follow is the earliest of those that no other precedes. -/
def choose : List OwnerReference → Option OwnerReference
  | [] => none
  | owner :: rest =>
      some (rest.foldl (fun best next => if next.precedes best then next else best) owner)

end OwnerReference

structure Pod where
  uid : String
  namespaceName : String
  name : String
  phase : PodPhase
  serviceAccountName : String
  ownerReferences : List OwnerReference
deriving DecidableEq, Repr

/-- This service account is used by a pod that names none. -/
def defaultServiceAccount : String := "default"

def Pod.serviceAccount (pod : Pod) : String :=
  let name := Text.trim pod.serviceAccountName
  if name.isEmpty then defaultServiceAccount else name

structure Workload where
  uid : String
  apiVersion : String
  kind : String
  namespaceName : String
  name : String
  ownerReferences : List OwnerReference
deriving DecidableEq, Repr

end AccessGraph
