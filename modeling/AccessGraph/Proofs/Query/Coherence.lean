/-
This file says that what an inquiry brings into the graph hangs together: the ids tell the kinds of
nodes and edges, and every edge leads from a node to a node.
-/

import AccessGraph.Proofs.Aggregation.Selection
import AccessGraph.Proofs.Catalog.Lookup
import AccessGraph.Proofs.Query.AccountSteps
import AccessGraph.Proofs.Query.Reached
import AccessGraph.Proofs.Query.ReachSteps

namespace AccessGraph

namespace Inquiry

/-- Bundles are kept under their own ids, and the sources of a bundle are known. -/
structure Coherent (inquiry : Inquiry) : Prop where
  ids : ∀ id bundle, inquiry.index.bundles.get? id = some bundle → bundle.id = id
  sources : ∀ target, ∀ source ∈ inquiry.aggregation.sourcesOf target,
    ∃ bundle, inquiry.index.bundles.get? source = some bundle

/-- Every inquiry about a catalog is coherent, whatever the catalog holds. -/
theorem of_coherent (catalog : Catalog) (discovery : Option Discovery) (request : Request) :
    (Inquiry.of catalog discovery request).Coherent := by
  constructor
  · intro id bundle known
    exact Catalog.id_of_bundle? (CatalogIndex.get?_bundles_of.symm.trans known)
  · intro target source shown
    obtain ⟨bundle, known, -⟩ :=
      Aggregation.exists_of_mem_next (Aggregation.mem_next_of_mem_sourcesOf shown)
    exact ⟨bundle, known⟩

section

variable {inquiry : Inquiry}

theorem roleNode_id (id : String) (bundle : Bundle) (refs : List RuleRef) :
    (inquiry.roleNode id bundle refs).id = id := by
  unfold roleNode
  cases bundle.kind <;> rfl

theorem roleNode_lane (id : String) (bundle : Bundle) (refs : List RuleRef) :
    (inquiry.roleNode id bundle refs).kind.lane = .roles := by
  unfold roleNode
  cases bundle.kind <;> rfl

theorem bindingNode_lane (binding : Binding) : (bindingNode binding).kind.lane = .bindings := by
  unfold bindingNode
  cases binding.isClusterScoped <;> rfl

theorem roleNode_isLabelled {id : String} {bundle : Bundle} (named : bundle.id = id)
    (refs : List RuleRef) : (inquiry.roleNode id bundle refs).IsLabelled := by
  subst named
  unfold roleNode Bundle.id
  cases bundle.kind with
  | clusterRole => exact ⟨bundle.name, rfl⟩
  | role =>
      cases bundle.space with
      | none => exact ⟨bundle.name, rfl⟩
      | some space =>
          refine ⟨space ++ "/" ++ bundle.name, ?_⟩
          simp [Node.of, bundleId, NodeKind.label, String.append_assoc]

theorem bindingNode_isLabelled (binding : Binding) : (bindingNode binding).IsLabelled := by
  unfold bindingNode Binding.isClusterScoped Binding.id
  cases binding.kind with
  | clusterRoleBinding => exact ⟨binding.name, rfl⟩
  | roleBinding =>
      cases givenNamespace binding.namespaceName with
      | none => exact ⟨binding.name, rfl⟩
      | some space =>
          refine ⟨space ++ "/" ++ binding.name, ?_⟩
          simp [Node.of, NodeKind.label, String.append_assoc]

theorem subjectNodeId_label (subject : Subject) (space : Option String) :
    ∃ rest, subjectNodeId subject space = "subject:" ++ rest := by
  unfold subjectNodeId
  cases subject.kind with
  | user => exact ⟨"user:" ++ subject.name, by rw [← String.append_assoc]; rfl⟩
  | group => exact ⟨"group:" ++ subject.name, by rw [← String.append_assoc]; rfl⟩
  | serviceAccount =>
      cases space with
      | none => exact ⟨"serviceAccount:" ++ subject.name, by rw [← String.append_assoc]; rfl⟩
      | some space =>
          refine ⟨"serviceAccount:" ++ space ++ "/" ++ subject.name, ?_⟩
          simp only [← String.append_assoc]
          rfl

theorem subjectNode_isLabelled (binding : Binding) (subject : Subject) :
    (subjectNode binding subject).IsLabelled :=
  subjectNodeId_label subject (subject.space binding)

theorem permissionNode_isLabelled (grant : RuleRef) : (permissionNode grant).IsLabelled := by
  refine ⟨grant.permission.apiGroup ++ "|" ++ grant.permission.resource ++ "|" ++
    grant.permission.verb, ?_⟩
  simp [permissionNode, permissionNodeId, Node.of, NodeKind.label, String.append_assoc]

/-- Every node that a reached bundle brings has the label of its kind. -/
theorem ReachNode.isLabelled (coherent : inquiry.Coherent) {reached : Reached}
    (reaches : inquiry.Reaches reached) {node : Node} (brought : ReachNode inquiry reached node) :
    node.IsLabelled := by
  cases brought with
  | role => exact roleNode_isLabelled (coherent.ids _ _ reaches.known) _
  | binding granted => exact bindingNode_isLabelled _
  | subject granted targeted => exact subjectNode_isLabelled _ _
  | source shown known => exact roleNode_isLabelled (coherent.ids _ _ known) _
  | relation included leaves => exact ⟨reached.id, rfl⟩
  | permission included selected => exact permissionNode_isLabelled _

theorem podNode_isLabelled (pod : Pod) : (podNode pod).IsLabelled := by
  refine ⟨pod.namespaceName ++ "/" ++ pod.name, ?_⟩
  simp [podNode, podId, podNodeId, Node.of, NodeKind.label, String.append_assoc]

theorem workloadNode_isLabelled (workload : Workload) : (workloadNode workload).IsLabelled := by
  refine ⟨Text.lowercase workload.kind ++ ":" ++ workload.namespaceName ++ "/" ++
    workload.name, ?_⟩
  simp [workloadNode, workloadId, workloadNodeId, Node.of, NodeKind.label, String.append_assoc]

theorem hiddenWorkloadsNode_isLabelled (inquiry : Inquiry) (pod : Pod) :
    (inquiry.hiddenWorkloadsNode pod).IsLabelled :=
  ⟨podId pod, rfl⟩

theorem hiddenPodsNode_isLabelled (inquiry : Inquiry) (account : ServiceAccount) :
    (inquiry.hiddenPodsNode account).IsLabelled :=
  ⟨account.nodeId, rfl⟩

/-- Every node that a service account brings has the label of its kind. -/
theorem AccountNode.isLabelled {account : ServiceAccount} {node : Node}
    (brought : AccountNode inquiry account node) : node.IsLabelled := by
  cases brought with
  | pod shown => exact podNode_isLabelled _
  | workload shown included owner => exact workloadNode_isLabelled _
  | hiddenWorkloads shown included more => exact hiddenWorkloadsNode_isLabelled _ _
  | hiddenPods more => exact hiddenPodsNode_isLabelled _ _

/-- Every edge that a reached bundle brings is named by its ends and its kind. -/
theorem ReachEdge.isNamed {reached : Reached} {edge : Edge}
    (brought : ReachEdge inquiry reached edge) : edge.IsNamed := by
  cases brought <;> rfl

/-- Every edge that a service account brings is named by its ends and its kind. -/
theorem AccountEdge.isNamed {account : ServiceAccount} {edge : Edge}
    (brought : AccountEdge inquiry account edge) : edge.IsNamed := by
  cases brought <;> rfl

theorem ReachNode.exists_role {reached : Reached} :
    ∃ node, ReachNode inquiry reached node ∧ node.id = reached.id :=
  ⟨_, .role, roleNode_id _ _ _⟩

theorem ReachNode.exists_source (coherent : inquiry.Coherent) {reached : Reached} {source : String}
    (shown : source ∈ inquiry.aggregation.sourcesOf reached.id) :
    ∃ node, ReachNode inquiry reached node ∧ node.id = source := by
  obtain ⟨bundle, known⟩ := coherent.sources _ _ shown
  exact ⟨_, .source shown known, roleNode_id _ _ _⟩

/-- A reached bundle brings both ends of each of its edges. -/
theorem ReachEdge.ends (coherent : inquiry.Coherent) {reached : Reached} {edge : Edge}
    (brought : ReachEdge inquiry reached edge) :
    (∃ node, ReachNode inquiry reached node ∧ node.id = edge.source) ∧
      ∃ node, ReachNode inquiry reached node ∧ node.id = edge.target := by
  cases brought with
  | grants granted => exact ⟨ReachNode.exists_role, _, .binding granted, rfl⟩
  | targets granted targeted =>
      exact ⟨⟨_, .binding granted, rfl⟩, _, .subject granted targeted, rfl⟩
  | contributes shown known =>
      exact ⟨ReachNode.exists_source coherent shown, ReachNode.exists_role⟩
  | gathers included leaf =>
      have shown := (List.mem_filter.mp leaf).1
      exact ⟨ReachNode.exists_source coherent shown,
        _, .relation included (List.ne_nil_of_mem leaf), rfl⟩
  | flows included leaves => exact ⟨⟨_, .relation included leaves, rfl⟩, ReachNode.exists_role⟩
  | permits included selected =>
      exact ⟨ReachNode.exists_role, _, .permission included selected, rfl⟩

/-- The ids of a chain are those of the pod and of owners that are shown. -/
theorem AccountNode.exists_chain {account : ServiceAccount} {pod : Pod} {id : String}
    (shown : pod ∈ inquiry.shownPods account) (included : inquiry.request.includeWorkloads = true)
    (member : id ∈ inquiry.chainIds pod) :
    ∃ node, AccountNode inquiry account node ∧ node.id = id := by
  rcases List.mem_cons.mp member with same | above
  · exact ⟨_, .pod shown, same.symm⟩
  · obtain ⟨workload, owner, same⟩ := List.mem_map.mp above
    exact ⟨_, .workload shown included owner, same⟩

/-- A service account brings both ends of each of its edges, but for its own node. -/
theorem AccountEdge.ends {account : ServiceAccount} {edge : Edge}
    (brought : AccountEdge inquiry account edge) :
    (edge.source = account.nodeId ∨
      ∃ node, AccountNode inquiry account node ∧ node.id = edge.source) ∧
    ∃ node, AccountNode inquiry account node ∧ node.id = edge.target := by
  cases brought with
  | runs shown => exact ⟨.inl rfl, _, .pod shown, rfl⟩
  | owned shown included next =>
      have within := next.subset
      have first := within (List.mem_pair.mpr (.inl rfl))
      have second := within (List.mem_pair.mpr (.inr rfl))
      exact ⟨.inr (AccountNode.exists_chain shown included first),
        AccountNode.exists_chain shown included second⟩
  | hiddenWorkloads shown included more =>
      exact ⟨.inr (AccountNode.exists_chain shown included (chainEnd_mem _ _)),
        _, .hiddenWorkloads shown included more, rfl⟩
  | hiddenPods more => exact ⟨.inl rfl, _, .hiddenPods more, rfl⟩

theorem reachSteps_supplied (coherent : inquiry.Coherent) (reached : Reached) :
    BuildStep.Supplied [] (inquiry.reachSteps reached) := by
  intro edge member id isEnd
  obtain ⟨first, second⟩ := (mem_edges_reachSteps.mp member).ends coherent
  simp only [mem_nodes_reachSteps]
  rcases List.mem_pair.mp isEnd with rfl | rfl
  · exact .inr first
  · exact .inr second

theorem accountSteps_supplied (account : ServiceAccount) :
    BuildStep.Supplied [account.nodeId] (inquiry.accountSteps account) := by
  intro edge member id isEnd
  obtain ⟨first, second⟩ := (mem_edges_accountSteps.mp member).ends
  simp only [mem_nodes_accountSteps]
  rcases List.mem_pair.mp isEnd with rfl | rfl
  · exact first.imp_left List.mem_singleton.mpr
  · exact .inr second

end

end Inquiry

end AccessGraph
