/-
This file says exactly which nodes and which edges a service account brings into the graph.
-/

import AccessGraph.Proofs.Graph.Naming
import AccessGraph.Proofs.Graph.Validity
import AccessGraph.Query.Placement

namespace AccessGraph

namespace Inquiry

/-- The node that stands for the pods of an account that are not shown. -/
def hiddenPodsNode (inquiry : Inquiry) (account : ServiceAccount) : Node :=
  .of (podOverflowNodeId account.nodeId)
    ("+" ++ toString (inquiry.hiddenPods account) ++ " pods") (some account.namespaceName)
    (.podOverflow (inquiry.hiddenPods account))

/-- The node that stands for the owners of a pod that are not shown. -/
def hiddenWorkloadsNode (inquiry : Inquiry) (pod : Pod) : Node :=
  .of (workloadOverflowNodeId (podId pod))
    ("+" ++ toString (inquiry.hiddenWorkloads pod) ++ " workloads") (some pod.namespaceName)
    (.workloadOverflow (inquiry.hiddenWorkloads pod))

def runsEdge (account : ServiceAccount) (pod : Pod) : Edge :=
  .of account.nodeId (podId pod) .runsAs "ServiceAccount used by pod" []

def hiddenPodsEdge (account : ServiceAccount) : Edge :=
  .of account.nodeId (podOverflowNodeId account.nodeId) .runsAs "Pod list truncated by limit" []

def ownedEdge (owned owner : String) : Edge :=
  .of owned owner .ownedBy "Owner reference chain" []

def hiddenWorkloadsEdge (inquiry : Inquiry) (pod : Pod) : Edge :=
  .of (chainEnd (podId pod) (inquiry.shownWorkloads pod)) (workloadOverflowNodeId (podId pod))
    .ownedBy "Workload chain truncated by limit" []

/-- The ids of a pod and of the owners that are shown above it, one after the other. -/
def chainIds (inquiry : Inquiry) (pod : Pod) : List String :=
  podId pod :: (inquiry.shownWorkloads pod).map workloadId

/-- These are the nodes that a service account brings. -/
inductive AccountNode (inquiry : Inquiry) (account : ServiceAccount) : Node → Prop
  | pod {pod : Pod} (shown : pod ∈ inquiry.shownPods account) :
      AccountNode inquiry account (podNode pod)
  | workload {pod : Pod} {workload : Workload} (shown : pod ∈ inquiry.shownPods account)
      (included : inquiry.request.includeWorkloads = true)
      (owner : workload ∈ inquiry.shownWorkloads pod) :
      AccountNode inquiry account (workloadNode workload)
  | hiddenWorkloads {pod : Pod} (shown : pod ∈ inquiry.shownPods account)
      (included : inquiry.request.includeWorkloads = true)
      (more : inquiry.hiddenWorkloads pod ≠ 0) :
      AccountNode inquiry account (inquiry.hiddenWorkloadsNode pod)
  | hiddenPods (more : inquiry.hiddenPods account ≠ 0) :
      AccountNode inquiry account (inquiry.hiddenPodsNode account)

/-- These are the edges that a service account brings. -/
inductive AccountEdge (inquiry : Inquiry) (account : ServiceAccount) : Edge → Prop
  | runs {pod : Pod} (shown : pod ∈ inquiry.shownPods account) :
      AccountEdge inquiry account (runsEdge account pod)
  | owned {pod : Pod} {owned owner : String} (shown : pod ∈ inquiry.shownPods account)
      (included : inquiry.request.includeWorkloads = true)
      (next : [owned, owner] <:+: inquiry.chainIds pod) :
      AccountEdge inquiry account (ownedEdge owned owner)
  | hiddenWorkloads {pod : Pod} (shown : pod ∈ inquiry.shownPods account)
      (included : inquiry.request.includeWorkloads = true)
      (more : inquiry.hiddenWorkloads pod ≠ 0) :
      AccountEdge inquiry account (inquiry.hiddenWorkloadsEdge pod)
  | hiddenPods (more : inquiry.hiddenPods account ≠ 0) :
      AccountEdge inquiry account (hiddenPodsEdge account)

section

variable {inquiry : Inquiry} {account : ServiceAccount}

theorem nodes_chainSteps (owned : String) (workloads : List Workload) :
    BuildStep.nodes (chainSteps owned workloads) = workloads.map workloadNode := by
  induction workloads generalizing owned with
  | nil => rfl
  | cons workload rest inductionHypothesis =>
      rw [chainSteps, BuildStep.nodes_append, inductionHypothesis]
      rfl

/-- The edges of a chain join the ids that stand next to each other in it. -/
theorem mem_edges_chainSteps {owned : String} {workloads : List Workload} {edge : Edge} :
    edge ∈ BuildStep.edges (chainSteps owned workloads) ↔
      ∃ first second, [first, second] <:+: owned :: workloads.map workloadId ∧
        edge = ownedEdge first second := by
  induction workloads generalizing owned with
  | nil => simp [chainSteps, List.infix_cons_iff]
  | cons workload rest inductionHypothesis =>
      rw [chainSteps, BuildStep.edges_append, List.mem_append, inductionHypothesis]
      constructor
      · intro given
        rcases given with here | ⟨first, second, next, rfl⟩
        · refine ⟨owned, workloadId workload, ⟨[], rest.map workloadId, rfl⟩, ?_⟩
          simpa [ownedEdge] using here
        · exact ⟨first, second, next.trans (List.suffix_cons _ _).isInfix, rfl⟩
      · intro given
        obtain ⟨first, second, next, rfl⟩ := given
        rcases List.infix_cons_iff.mp next with start | later
        · simp only [List.map_cons, List.cons_prefix_cons, List.nil_prefix, and_true] at start
          obtain ⟨rfl, rfl⟩ := start
          exact .inl (by simp [ownedEdge])
        · exact .inr ⟨first, second, later, rfl⟩

theorem chainEnd_mem (owned : String) (workloads : List Workload) :
    chainEnd owned workloads ∈ owned :: workloads.map workloadId := by
  induction workloads generalizing owned with
  | nil => exact List.mem_singleton_self owned
  | cons workload rest inductionHypothesis =>
      exact List.mem_cons_of_mem _ (inductionHypothesis (workloadId workload))

theorem mem_nodes_workloadSteps {pod : Pod} {node : Node} :
    node ∈ BuildStep.nodes (inquiry.workloadSteps pod) ↔
      (∃ workload ∈ inquiry.shownWorkloads pod, node = workloadNode workload) ∨
        (inquiry.hiddenWorkloads pod ≠ 0 ∧ node = inquiry.hiddenWorkloadsNode pod) := by
  unfold workloadSteps hiddenWorkloadsNode
  rw [BuildStep.nodes_append, List.mem_append, nodes_chainSteps, List.mem_map]
  by_cases none : inquiry.hiddenWorkloads pod = 0 <;> simp [none, eq_comm]

theorem mem_edges_workloadSteps {pod : Pod} {edge : Edge} :
    edge ∈ BuildStep.edges (inquiry.workloadSteps pod) ↔
      (∃ owned owner, [owned, owner] <:+: inquiry.chainIds pod ∧ edge = ownedEdge owned owner) ∨
        (inquiry.hiddenWorkloads pod ≠ 0 ∧ edge = inquiry.hiddenWorkloadsEdge pod) := by
  unfold workloadSteps hiddenWorkloadsEdge chainIds
  rw [BuildStep.edges_append, List.mem_append, mem_edges_chainSteps]
  by_cases none : inquiry.hiddenWorkloads pod = 0 <;> simp [none]

theorem mem_nodes_podSteps {pod : Pod} {node : Node} :
    node ∈ BuildStep.nodes (inquiry.podSteps account pod) ↔
      node = podNode pod ∨ (inquiry.request.includeWorkloads = true ∧
        node ∈ BuildStep.nodes (inquiry.workloadSteps pod)) := by
  unfold podSteps
  rw [BuildStep.nodes_append, List.mem_append, BuildStep.mem_nodes_ite]
  simp

theorem mem_edges_podSteps {pod : Pod} {edge : Edge} :
    edge ∈ BuildStep.edges (inquiry.podSteps account pod) ↔
      edge = runsEdge account pod ∨ (inquiry.request.includeWorkloads = true ∧
        edge ∈ BuildStep.edges (inquiry.workloadSteps pod)) := by
  unfold podSteps runsEdge
  rw [BuildStep.edges_append, List.mem_append, BuildStep.mem_edges_ite]
  simp

/-- A service account brings these nodes and no others. -/
theorem mem_nodes_accountSteps {node : Node} :
    node ∈ BuildStep.nodes (inquiry.accountSteps account) ↔ AccountNode inquiry account node := by
  have hidden : node ∈ BuildStep.nodes (inquiry.accountSteps account) ↔
      (∃ pod ∈ inquiry.shownPods account,
        node ∈ BuildStep.nodes (inquiry.podSteps account pod)) ∨
      (inquiry.hiddenPods account ≠ 0 ∧ node = inquiry.hiddenPodsNode account) := by
    unfold accountSteps hiddenPodsNode
    rw [BuildStep.nodes_append, List.mem_append, BuildStep.nodes_flatMap, List.mem_flatMap]
    by_cases none : inquiry.hiddenPods account = 0 <;> simp [none]
  simp only [hidden, mem_nodes_podSteps, mem_nodes_workloadSteps]
  constructor
  · intro given
    rcases given with
      ⟨pod, shown, rfl | ⟨included, ⟨workload, owner, rfl⟩ | ⟨more, rfl⟩⟩⟩ | ⟨more, rfl⟩
    · exact .pod shown
    · exact .workload shown included owner
    · exact .hiddenWorkloads shown included more
    · exact .hiddenPods more
  · intro brought
    cases brought with
    | pod shown => exact .inl ⟨_, shown, .inl rfl⟩
    | workload shown included owner =>
        exact .inl ⟨_, shown, .inr ⟨included, .inl ⟨_, owner, rfl⟩⟩⟩
    | hiddenWorkloads shown included more =>
        exact .inl ⟨_, shown, .inr ⟨included, .inr ⟨more, rfl⟩⟩⟩
    | hiddenPods more => exact .inr ⟨more, rfl⟩

/-- A service account brings these edges and no others. -/
theorem mem_edges_accountSteps {edge : Edge} :
    edge ∈ BuildStep.edges (inquiry.accountSteps account) ↔ AccountEdge inquiry account edge := by
  have hidden : edge ∈ BuildStep.edges (inquiry.accountSteps account) ↔
      (∃ pod ∈ inquiry.shownPods account,
        edge ∈ BuildStep.edges (inquiry.podSteps account pod)) ∨
      (inquiry.hiddenPods account ≠ 0 ∧ edge = hiddenPodsEdge account) := by
    unfold accountSteps hiddenPodsEdge
    rw [BuildStep.edges_append, List.mem_append, BuildStep.edges_flatMap, List.mem_flatMap]
    by_cases none : inquiry.hiddenPods account = 0 <;> simp [none]
  simp only [hidden, mem_edges_podSteps, mem_edges_workloadSteps]
  constructor
  · intro given
    rcases given with
      ⟨pod, shown, rfl | ⟨included, ⟨owned, owner, next, rfl⟩ | ⟨more, rfl⟩⟩⟩ | ⟨more, rfl⟩
    · exact .runs shown
    · exact .owned shown included next
    · exact .hiddenWorkloads shown included more
    · exact .hiddenPods more
  · intro brought
    cases brought with
    | runs shown => exact .inl ⟨_, shown, .inl rfl⟩
    | owned shown included next =>
        exact .inl ⟨_, shown, .inr ⟨included, .inl ⟨_, _, next, rfl⟩⟩⟩
    | hiddenWorkloads shown included more =>
        exact .inl ⟨_, shown, .inr ⟨included, .inr ⟨more, rfl⟩⟩⟩
    | hiddenPods more => exact .inr ⟨more, rfl⟩

end

end Inquiry

end AccessGraph
