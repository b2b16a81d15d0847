/-
This file follows the owners of a pod upwards.
-/

import AccessGraph.Catalog.Index

namespace AccessGraph

/-- Why a chain of owners ends before its last owner. -/
inductive OwnerFault where
  | noOwner
  | tooDeep
  | noUid (kind name : String)
  | circle (uid : String)
  | missing (kind name uid : String)
deriving DecidableEq, Repr

/-- The greatest number of owners that are followed. -/
def ownerLimit : Nat := 8

def OwnerFault.message (fault : OwnerFault) (pod : Pod) : String :=
  "pod " ++ pod.namespaceName ++ "/" ++ pod.name ++
    match fault with
    | .noOwner => " has no owner reference; workload chain cannot be expanded"
    | .tooDeep => " owner chain was truncated at depth " ++ toString ownerLimit
    | .noUid kind name => " owner reference " ++ kind ++ "/" ++ name ++ " has empty UID"
    | .circle uid => " owner chain has cycle at UID " ++ uid
    | .missing kind name uid =>
        " owner " ++ kind ++ "/" ++ name ++ " (" ++ uid ++ ") not found in workload catalog"

/-- The workloads above a pod, the nearest first, and what cuts them off. -/
structure OwnerChain where
  workloads : List Workload
  fault : Option OwnerFault
deriving DecidableEq, Repr

namespace OwnerChain

/-- An owner is followed when it has a uid that has not been followed yet and that the catalog
knows. -/
def follow (index : CatalogIndex) : Nat → List String → OwnerReference → OwnerChain
  | 0, _, _ => ⟨[], some .tooDeep⟩
  | depth + 1, passed, owner =>
      if owner.uid.isEmpty then ⟨[], some (.noUid owner.kind owner.name)⟩
      else if passed.contains owner.uid then ⟨[], some (.circle owner.uid)⟩
      else
        match index.workload? owner.uid with
        | none => ⟨[], some (.missing owner.kind owner.name owner.uid)⟩
        | some workload =>
            match OwnerReference.choose workload.ownerReferences with
            | none => ⟨[workload], none⟩
            | some next =>
                let above := follow index depth (owner.uid :: passed) next
                ⟨workload :: above.workloads, above.fault⟩

def of (index : CatalogIndex) (pod : Pod) : OwnerChain :=
  match OwnerReference.choose pod.ownerReferences with
  | none => ⟨[], some .noOwner⟩
  | some owner => follow index ownerLimit [] owner

end OwnerChain

end AccessGraph
