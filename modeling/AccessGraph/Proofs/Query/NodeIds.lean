/-
This file says what the nodes of workloads and of permissions are known by: the parts that their ids are
made of, if no separator stands in these.
-/

import AccessGraph.Proofs.Matching.Phantoms
import AccessGraph.Proofs.Query.AccountSteps
import AccessGraph.Proofs.Text.Joined

namespace AccessGraph

namespace Workload

/-- A workload is known by its kind, without regard to case, its namespace and its name. -/
@[ext] structure Identity where
  kind : String
  namespaceName : String
  name : String
deriving DecidableEq, Repr

def identity (workload : Workload) : Identity :=
  ⟨Text.lowercase workload.kind, workload.namespaceName, workload.name⟩

namespace Identity

/-- No separator stands in the parts of the id but in the last one. -/
def IsPlain (identity : Identity) : Prop :=
  ':' ∉ identity.kind.toList ∧ '/' ∉ identity.namespaceName.toList

instance (identity : Identity) : Decidable identity.IsPlain :=
  inferInstanceAs (Decidable (_ ∧ _))

def nodeId (identity : Identity) : String :=
  "workload:" ++ (identity.kind ++ ":" ++ (identity.namespaceName ++ "/" ++ identity.name))

theorem eq_of_nodeId_eq {first second : Identity} (plain : first.IsPlain)
    (alsoPlain : second.IsPlain) (same : first.nodeId = second.nodeId) : first = second := by
  have parts := (String.append_right_inj "workload:").mp same
  obtain ⟨kinds, others⟩ := Text.eq_of_first_joined_eq (by decide) plain.1 alsoPlain.1 parts
  obtain ⟨spaces, names⟩ := Text.eq_of_first_joined_eq (by decide) plain.2 alsoPlain.2 others
  exact Identity.ext kinds spaces names

end Identity

theorem nodeId_identity (workload : Workload) :
    workload.identity.nodeId = Inquiry.workloadId workload := by
  unfold Identity.nodeId identity Inquiry.workloadId workloadNodeId
  simp only [String.append_assoc, -String.reduceAppend]

end Workload

namespace RuleRef

namespace Identity

/-- No separator stands in the group and in the verb. -/
def IsPlain (identity : Identity) : Prop :=
  '|' ∉ identity.apiGroup.toList ∧ '|' ∉ identity.verb.toList

instance (identity : Identity) : Decidable identity.IsPlain :=
  inferInstanceAs (Decidable (_ ∧ _))

def nodeId (identity : Identity) : String :=
  "permission:" ++ (identity.apiGroup ++ "|" ++ (identity.resource ++ "|" ++ identity.verb))

/-- Separators may stand in the resource: the verb is taken off behind the last of them. -/
theorem eq_of_nodeId_eq {first second : Identity} (plain : first.IsPlain)
    (alsoPlain : second.IsPlain) (same : first.nodeId = second.nodeId) : first = second := by
  have parts := (String.append_right_inj "permission:").mp same
  obtain ⟨groups, others⟩ := Text.eq_of_first_joined_eq (by decide) plain.1 alsoPlain.1 parts
  obtain ⟨resources, verbs⟩ := Text.eq_of_joined_eq (by decide) plain.2 alsoPlain.2 others
  exact Identity.ext groups resources verbs

end Identity

theorem nodeId_identity (grant : RuleRef) :
    grant.identity.nodeId = (Inquiry.permissionNode grant).id := by
  unfold Identity.nodeId identity Inquiry.permissionNode Node.of permissionNodeId
  simp only [String.append_assoc, -String.reduceAppend]

end RuleRef

end AccessGraph
