/-
This file says which grants a role shows in the graph of an answer: those that are selected of the
bundle with its id.
-/

import AccessGraph.Proofs.Graph.Gathering
import AccessGraph.Proofs.Query.Lanes

namespace AccessGraph

namespace Inquiry

section

variable {inquiry : Inquiry}

theorem bindingNode_isRole (binding : Binding) : (bindingNode binding).isRole = false := by
  unfold bindingNode
  cases binding.isClusterScoped <;> rfl

theorem bindingSteps_bringRoles (reached : Reached) (binding : Binding) :
    ∀ step ∈ bindingSteps reached binding, step.BringsRoles := by
  intro step member
  simp only [bindingSteps, subjectSteps, List.mem_append, List.mem_flatMap, List.mem_pair] at member
  rcases member with (rfl | rfl) | ⟨subject, -, rfl | rfl⟩
  · exact bindingNode_isRole binding
  · trivial
  · rfl
  · trivial

theorem sourceSteps_bringRoles (target source : String) :
    ∀ step ∈ inquiry.sourceSteps target source, step.BringsRoles := by
  intro step member
  unfold sourceSteps at member
  split at member
  · rcases List.mem_pair.mp member with rfl | rfl <;> trivial
  · cases member

theorem relationSteps_bringRoles (reached : Reached) :
    ∀ step ∈ inquiry.relationSteps reached, step.BringsRoles := by
  intro step member
  unfold relationSteps at member
  split at member
  · cases member
  · simp only [List.mem_append, List.mem_singleton, List.mem_map] at member
    rcases member with (rfl | ⟨source, -, rfl⟩) | rfl <;> trivial

/-- A reached bundle brings no role but as a role. -/
theorem reachSteps_bringRoles (reached : Reached) :
    ∀ step ∈ inquiry.reachSteps reached, step.BringsRoles := by
  intro step member
  simp only [reachSteps, List.mem_append, List.mem_singleton, List.mem_flatMap] at member
  rcases member with (((rfl | ⟨binding, -, member⟩) | ⟨source, -, member⟩) | member) | member
  · trivial
  · exact bindingSteps_bringRoles reached binding step member
  · exact sourceSteps_bringRoles reached.id source step member
  · split at member
    · exact relationSteps_bringRoles reached step member
    · cases member
  · split at member
    · obtain ⟨grant, -, here⟩ := List.mem_flatMap.mp member
      rcases List.mem_pair.mp here with rfl | rfl <;> trivial
    · cases member

theorem chainSteps_bringRoles (owned : String) (workloads : List Workload) :
    ∀ step ∈ chainSteps owned workloads, step.BringsRoles := by
  induction workloads generalizing owned with
  | nil => simp [chainSteps]
  | cons workload rest inductionHypothesis =>
      intro step member
      rw [chainSteps, List.mem_append] at member
      rcases member with here | later
      · rcases List.mem_pair.mp here with rfl | rfl <;> trivial
      · exact inductionHypothesis _ step later

theorem workloadSteps_bringRoles (pod : Pod) :
    ∀ step ∈ inquiry.workloadSteps pod, step.BringsRoles := by
  intro step member
  rw [workloadSteps, List.mem_append] at member
  rcases member with chain | overflow
  · exact chainSteps_bringRoles _ _ step chain
  · split at overflow
    · cases overflow
    · rcases List.mem_pair.mp overflow with rfl | rfl <;> trivial

/-- A service account brings no role at all. -/
theorem accountSteps_bringRoles (account : ServiceAccount) :
    ∀ step ∈ inquiry.accountSteps account, step.BringsRoles := by
  intro step member
  simp only [accountSteps, podSteps, List.mem_append, List.mem_flatMap, List.mem_pair] at member
  rcases member with ⟨pod, -, (rfl | rfl) | member⟩ | overflow
  · rfl
  · trivial
  · split at member
    · exact workloadSteps_bringRoles pod step member
    · cases member
  · split at overflow
    · cases overflow
    · rcases List.mem_pair.mp overflow with rfl | rfl <;> trivial

theorem steps_bringRoles (reached : List Reached) (accounts : List ServiceAccount) :
    ∀ step ∈ inquiry.steps reached accounts, step.BringsRoles := by
  intro step member
  simp only [steps, List.mem_append, List.mem_flatMap] at member
  rcases member with ⟨bundle, -, here⟩ | ⟨account, -, here⟩
  · exact reachSteps_bringRoles bundle step here
  · exact accountSteps_bringRoles account step here

theorem grantKeys_roleNode (id : String) (bundle : Bundle) (refs : List RuleRef) :
    (inquiry.roleNode id bundle refs).grantKeys = refs.map RuleRef.key := by
  unfold roleNode
  cases bundle.kind <;> rfl

theorem grants_roleNode (id : String) (bundle : Bundle) (refs : List RuleRef) :
    (inquiry.roleNode id bundle refs).grants = refs := by
  unfold roleNode
  cases bundle.kind <;> rfl

theorem AccountNode.isRole {account : ServiceAccount} {node : Node}
    (brought : AccountNode inquiry account node) : node.isRole = false := by
  cases brought <;> rfl

/-- Of all that a reached bundle brings, its own role alone shows grants. -/
theorem ReachNode.mem_grantKeys_iff {reached : Reached} {id : String} {wanted : RuleKey} :
    (∃ node, ReachNode inquiry reached node ∧ node.id = id ∧ wanted ∈ node.grantKeys) ↔
      reached.id = id ∧ wanted ∈ reached.refs.map RuleRef.key := by
  constructor
  · intro given
    obtain ⟨node, brought, rfl, member⟩ := given
    cases brought with
    | role => exact ⟨(roleNode_id _ _ _).symm, grantKeys_roleNode _ _ _ ▸ member⟩
    | source => simp [grantKeys_roleNode] at member
    | binding => simp [Node.grantKeys_of_plain (bindingNode_isRole _)] at member
    | subject => cases member
    | relation => cases member
    | permission => cases member
  · intro given
    obtain ⟨rfl, member⟩ := given
    exact ⟨_, .role, roleNode_id _ _ _, (grantKeys_roleNode _ _ _).symm ▸ member⟩

theorem node?_response_of_mem {earlier : List String} {node : Node}
    (present : node ∈ (inquiry.response earlier).graph.nodes) :
    (inquiry.response earlier).graph.node? node.id = some node :=
  GraphBuilder.node?_finish_run_of_mem present

/-- A role of an answer shows the grants that were found in the bundle with its id. -/
theorem mem_grantKeys_response {earlier : List String} {id : String} {node : Node}
    (found : (inquiry.response earlier).graph.node? id = some node) (role : node.isRole = true)
    {wanted : RuleKey} : wanted ∈ node.grantKeys ↔
      ∃ reached ∈ inquiry.reached, reached.id = id ∧ wanted ∈ reached.refs.map RuleRef.key := by
  rw [GraphBuilder.mem_grantKeys_finish_run (steps_bringRoles _ _) found role]
  simp only [mem_nodes_steps]
  constructor
  · intro given
    obtain ⟨other, ⟨reached, member, brought⟩ | ⟨account, -, brought⟩, named, shown⟩ := given
    · exact ⟨reached, member, ReachNode.mem_grantKeys_iff.mp ⟨other, brought, named, shown⟩⟩
    · rw [Node.grantKeys_of_plain brought.isRole] at shown
      cases shown
  · intro given
    obtain ⟨reached, member, here⟩ := given
    obtain ⟨other, brought, named, shown⟩ := ReachNode.mem_grantKeys_iff.mpr here
    exact ⟨other, .inl ⟨reached, member, brought⟩, named, shown⟩

/-- A role of an answer shows nothing but what is shown of the bundle with its id. -/
theorem exists_reached_of_mem_grants {earlier : List String} {node : Node}
    (present : node ∈ (inquiry.response earlier).graph.nodes) {grant : RuleRef}
    (shown : grant ∈ node.grants) :
    ∃ reached ∈ inquiry.reached, reached.id = node.id ∧ grant ∈ reached.refs := by
  obtain ⟨other, brought, named, here⟩ :=
    GraphBuilder.mem_grants_of_finish_run (steps_bringRoles _ _) (node?_response_of_mem present)
      shown
  have role := Node.isRole_of_mem_grants here
  rcases mem_nodes_steps.mp brought with ⟨reached, member, brought⟩ | ⟨account, -, brought⟩
  · cases brought with
    | role =>
        rw [grants_roleNode] at here
        exact ⟨reached, member, (roleNode_id _ _ _).symm.trans named, here⟩
    | source =>
        rw [grants_roleNode] at here
        cases here
    | binding => simp [bindingNode_isRole] at role
    | subject => cases role
    | relation => cases role
    | permission => cases role
  · rw [brought.isRole] at role
    cases role

/-- The role of a bundle that is reached is shown. -/
theorem exists_role_of_reached (coherent : inquiry.Coherent) (earlier : List String)
    {reached : Reached} (member : reached ∈ inquiry.reached) :
    ∃ node ∈ (inquiry.response earlier).graph.nodes, node.isRole = true ∧ node.id = reached.id := by
  have inLane : reached.id ∈ (inquiry.response earlier).graph.nodeIdsIn .roles :=
    (mem_nodeIdsIn_of_lane coherent earlier (by decide) (by decide)).mpr
      ⟨reached, member, (roles_of_reached coherent).mpr (.inl rfl)⟩
  obtain ⟨node, present, lane, named⟩ := Graph.mem_nodeIdsIn.mp inLane
  exact ⟨node, present, Node.isRole_iff_lane.mpr lane, named⟩

end

end Inquiry

end AccessGraph
