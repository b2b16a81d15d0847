/-
This file says that the counts of an answer agree with its graph: they are the numbers of the nodes
of each kind, and of the roles that show grants.
-/

import AccessGraph.Proofs.Aggregation.Closure
import AccessGraph.Proofs.Query.RoleDetails

namespace AccessGraph

/-- A role shows grants that a request selects. -/
def NodeKind.showsGrants : NodeKind → Bool
  | .role details | .clusterRole details => !details.matchedRuleRefs.isEmpty
  | _ => false

/-- How many nodes there are of the kinds with these names. -/
def Graph.countOf (graph : Graph) (names : List String) : Nat :=
  graph.nodes.countP fun node => names.contains node.kind.name

/-- The counts of a response are those of the nodes in its graph. Roles that show no grants do not
count, and neither do the nodes that stand for what is hidden. -/
structure Response.CountsItsGraph (response : Response) : Prop where
  roles : response.matchedRoles = response.graph.nodes.countP (·.kind.showsGrants)
  bindings : response.matchedBindings =
    response.graph.countOf ["roleBinding", "clusterRoleBinding"]
  subjects : response.matchedSubjects = response.graph.countOf ["subject"]
  pods : response.matchedPods = response.graph.countOf ["pod"]
  workloads : response.matchedWorkloads = response.graph.countOf ["workload"]

theorem Node.showsGrants_iff {node : Node} :
    node.kind.showsGrants = true ↔ node.isRole = true ∧ ∃ wanted, wanted ∈ node.grantKeys := by
  unfold NodeKind.showsGrants isRole grantKeys
  cases node.kind <;> simp [NodeKind.roleDetails?, List.eq_nil_iff_forall_not_mem]

/-- Where ids differ, there are as many nodes of some sort as there are ids of them. -/
theorem Graph.countP_eq_length {graph : Graph} (differ : graph.nodeIds.Nodup) {test : Node → Bool}
    {ids : List String} (once : ids.Nodup)
    (same : ∀ id, (∃ node ∈ graph.nodes, test node = true ∧ node.id = id) ↔ id ∈ ids) :
    graph.nodes.countP test = ids.length := by
  have alsoDiffer : ((graph.nodes.filter test).map (·.id)).Nodup :=
    differ.sublist (List.filter_sublist.map _)
  have perm : ((graph.nodes.filter test).map (·.id)).Perm ids := by
    rw [List.perm_ext_iff_of_nodup alsoDiffer once]
    intro id
    simp only [← same, List.mem_map, List.mem_filter, and_assoc]
  rw [List.countP_eq_length_filter, ← perm.length_eq, List.length_map]

theorem NodeKind.name_eq_of_sort_eq {first second : NodeKind} (same : first.sort = second.sort) :
    first.name = second.name :=
  congrArg (·.1) same

namespace Inquiry

variable {inquiry : Inquiry}

/-- The nodes of some kinds have the ids that bundles and accounts give to those kinds. -/
theorem exists_named_response_iff (coherent : inquiry.Coherent) (earlier : List String)
    {names : List String} {id : String} :
    (∃ node ∈ (inquiry.response earlier).graph.nodes,
        names.contains node.kind.name = true ∧ node.id = id) ↔
      ∃ node, ((∃ bundle ∈ inquiry.reached, ReachNode inquiry bundle node) ∨
        ∃ account ∈ inquiry.placedAccounts inquiry.reached, AccountNode inquiry account node) ∧
        names.contains node.kind.name = true ∧ node.id = id := by
  have labelled := steps_isLabelled coherent (inquiry.placedAccounts inquiry.reached)
  have bySort (sort : String × Lane × String) :
      (∃ node ∈ (inquiry.response earlier).graph.nodes,
        node.kind.sort = sort ∧ node.id = id) ↔
      ∃ node, ((∃ bundle ∈ inquiry.reached, ReachNode inquiry bundle node) ∨
        ∃ account ∈ inquiry.placedAccounts inquiry.reached, AccountNode inquiry account node) ∧
        node.kind.sort = sort ∧ node.id = id := by
    simp only [response, GraphBuilder.mem_nodes_finish]
    rw [← Inquiry.reached, GraphBuilder.exists_sort_run_iff labelled]
    simp only [mem_nodes_steps]
  constructor
  · intro shown
    obtain ⟨node, present, named, here⟩ := shown
    obtain ⟨other, brought, sameSort, alsoHere⟩ := (bySort _).mp ⟨node, present, rfl, here⟩
    exact ⟨other, brought, NodeKind.name_eq_of_sort_eq sameSort ▸ named, alsoHere⟩
  · intro shown
    obtain ⟨node, brought, named, here⟩ := shown
    obtain ⟨other, present, sameSort, alsoHere⟩ := (bySort _).mpr ⟨node, brought, rfl, here⟩
    exact ⟨other, present, NodeKind.name_eq_of_sort_eq sameSort ▸ named, alsoHere⟩

/-- A role shows grants when its bundle is reached. -/
theorem exists_showsGrants_iff (coherent : inquiry.Coherent) (earlier : List String) {id : String} :
    (∃ node ∈ (inquiry.response earlier).graph.nodes,
        node.kind.showsGrants = true ∧ node.id = id) ↔ id ∈ inquiry.reached.map (·.id) := by
  rw [List.mem_map]
  constructor
  · intro shown
    obtain ⟨node, present, shows, rfl⟩ := shown
    obtain ⟨role, wanted, held⟩ := Node.showsGrants_iff.mp shows
    obtain ⟨reached, member, named, -⟩ :=
      (mem_grantKeys_response (node?_response_of_mem present) role).mp held
    exact ⟨reached, member, named⟩
  · intro given
    obtain ⟨reached, member, rfl⟩ := given
    obtain ⟨node, present, role, named⟩ := exists_role_of_reached coherent earlier member
    have reaches := mem_reached_iff.mp member
    obtain ⟨grant, selected⟩ := List.exists_mem_of_ne_nil _ reaches.selected
    have held : grant.key ∈ reached.refs.map RuleRef.key := by
      rw [reaches.refs, mem_keys_shownRefs]
      exact List.mem_map_of_mem selected
    refine ⟨node, present, Node.showsGrants_iff.mpr ⟨role, grant.key, ?_⟩, named⟩
    exact (mem_grantKeys_response (node?_response_of_mem present) role).mpr
      ⟨reached, member, named.symm, held⟩

theorem mem_bindingIds_iff {reached : List Reached} {id : String} :
    id ∈ bindingIds reached ↔
      ∃ bundle ∈ reached, ∃ binding ∈ bundle.bindings, binding.id = id := by
  simp only [bindingIds, mem_distinct, List.mem_flatMap, List.mem_map]

theorem mem_subjectIds_iff {reached : List Reached} {id : String} :
    id ∈ subjectIds reached ↔ ∃ bundle ∈ reached, ∃ binding ∈ bundle.bindings,
      ∃ subject ∈ binding.subjects, subjectId binding subject = id := by
  simp only [subjectIds, mem_distinct, List.mem_flatMap, List.mem_map]

theorem mem_podIds_iff {accounts : List ServiceAccount} {id : String} :
    id ∈ inquiry.podIds accounts ↔
      ∃ account ∈ accounts, ∃ pod ∈ inquiry.shownPods account, podId pod = id := by
  simp only [podIds, mem_distinct, List.mem_map, List.mem_flatMap]
  grind

theorem mem_workloadIds_iff {accounts : List ServiceAccount} {id : String} :
    id ∈ inquiry.workloadIds accounts ↔ inquiry.request.includeWorkloads = true ∧
      ∃ account ∈ accounts, ∃ pod ∈ inquiry.shownPods account,
        ∃ workload ∈ inquiry.shownWorkloads pod, workloadId workload = id := by
  unfold workloadIds
  split
  · simp only [mem_distinct, List.mem_map, List.mem_flatMap]
    grind
  · simp [*]

theorem workloadIds_nodup (accounts : List ServiceAccount) :
    (inquiry.workloadIds accounts).Nodup := by
  unfold workloadIds
  split
  · exact distinct_nodup _
  · exact .nil

/-- Bindings are counted by the ids that reached bundles bring. -/
theorem exists_binding_iff (coherent : inquiry.Coherent) (earlier : List String) {id : String} :
    (∃ node ∈ (inquiry.response earlier).graph.nodes,
        ["roleBinding", "clusterRoleBinding"].contains node.kind.name = true ∧ node.id = id) ↔
      id ∈ bindingIds inquiry.reached := by
  have inLane (kind : NodeKind) :
      ["roleBinding", "clusterRoleBinding"].contains kind.name = true ↔
        kind.lane = .bindings := by
    cases kind <;> simp [NodeKind.name, NodeKind.lane]
  simp only [inLane, ← Graph.mem_nodeIdsIn]
  rw [mem_nodeIdsIn_of_lane coherent earlier (by decide) (by decide)]
  simp only [bindings_of_reached, mem_bindingIds_iff]

/-- Subjects are counted by the ids that reached bundles bring. -/
theorem exists_subject_iff (coherent : inquiry.Coherent) (earlier : List String) {id : String} :
    (∃ node ∈ (inquiry.response earlier).graph.nodes,
        ["subject"].contains node.kind.name = true ∧ node.id = id) ↔
      id ∈ subjectIds inquiry.reached := by
  have inLane (kind : NodeKind) :
      ["subject"].contains kind.name = true ↔ kind.lane = .subjects := by
    cases kind <;> simp [NodeKind.name, NodeKind.lane]
  simp only [inLane, ← Graph.mem_nodeIdsIn]
  rw [mem_nodeIdsIn_of_lane coherent earlier (by decide) (by decide)]
  simp only [subjects_of_reached, mem_subjectIds_iff]

/-- Reached bundles bring neither pods nor workloads. -/
theorem ReachNode.lane {reached : Reached} {node : Node} (brought : ReachNode inquiry reached node) :
    node.kind.lane ≠ .pods ∧ node.kind.lane ≠ .workloads := by
  cases brought with
  | role => simp [roleNode_lane]
  | binding => simp [bindingNode_lane]
  | source => simp [roleNode_lane]
  | subject | relation | permission => constructor <;> intro here <;> cases here

/-- Pods are counted by the ids that accounts bring; what stands for hidden pods is no pod. -/
theorem exists_pod_iff (coherent : inquiry.Coherent) (earlier : List String) {id : String} :
    (∃ node ∈ (inquiry.response earlier).graph.nodes,
        ["pod"].contains node.kind.name = true ∧ node.id = id) ↔
      id ∈ inquiry.podIds (inquiry.placedAccounts inquiry.reached) := by
  have inLane (kind : NodeKind) (pod : ["pod"].contains kind.name = true) :
      kind.lane = .pods := by
    cases kind <;> simp [NodeKind.name] at pod
    rfl
  rw [exists_named_response_iff coherent, mem_podIds_iff]
  constructor
  · intro shown
    obtain ⟨node, ⟨reached, -, brought⟩ | ⟨account, placed, brought⟩, named, rfl⟩ := shown
    · exact absurd (inLane _ named) brought.lane.1
    · cases brought with
      | @pod pod shown => exact ⟨account, placed, pod, shown, rfl⟩
      | workload => cases inLane _ named
      | hiddenWorkloads => cases inLane _ named
      | hiddenPods => simp [hiddenPodsNode, Node.of, NodeKind.name] at named
  · intro given
    obtain ⟨account, placed, pod, shown, rfl⟩ := given
    exact ⟨_, .inr ⟨account, placed, .pod shown⟩, rfl, rfl⟩

/-- Workloads are counted by the ids that accounts bring; what stands for hidden workloads is no
workload. -/
theorem exists_workload_iff (coherent : inquiry.Coherent) (earlier : List String) {id : String} :
    (∃ node ∈ (inquiry.response earlier).graph.nodes,
        ["workload"].contains node.kind.name = true ∧ node.id = id) ↔
      id ∈ inquiry.workloadIds (inquiry.placedAccounts inquiry.reached) := by
  have inLane (kind : NodeKind) (workload : ["workload"].contains kind.name = true) :
      kind.lane = .workloads := by
    cases kind <;> simp [NodeKind.name] at workload
    rfl
  rw [exists_named_response_iff coherent, mem_workloadIds_iff]
  constructor
  · intro shown
    obtain ⟨node, ⟨reached, -, brought⟩ | ⟨account, placed, brought⟩, named, rfl⟩ := shown
    · exact absurd (inLane _ named) brought.lane.2
    · cases brought with
      | @workload pod workload shown included owner =>
          exact ⟨included, account, placed, pod, shown, workload, owner, rfl⟩
      | pod => cases inLane _ named
      | hiddenWorkloads => simp [hiddenWorkloadsNode, Node.of, NodeKind.name] at named
      | hiddenPods => cases inLane _ named
  · intro given
    obtain ⟨included, account, placed, pod, shown, workload, owner, rfl⟩ := given
    exact ⟨_, .inr ⟨account, placed, .workload shown included owner⟩, rfl, rfl⟩

/-- The counts of an answer are those of the nodes that it shows. -/
theorem response_countsItsGraph (coherent : inquiry.Coherent) (earlier : List String) :
    (inquiry.response earlier).CountsItsGraph := by
  have differ := (response_wellFormed coherent earlier).distinctNodes
  constructor
  · have once := inquiry.reached_ids_nodup
    rw [Graph.countP_eq_length differ once fun _ => exists_showsGrants_iff coherent earlier,
      List.length_map]
    rfl
  · exact (Graph.countP_eq_length differ (distinct_nodup _) fun _ =>
      exists_binding_iff coherent earlier).symm
  · exact (Graph.countP_eq_length differ (distinct_nodup _) fun _ =>
      exists_subject_iff coherent earlier).symm
  · exact (Graph.countP_eq_length differ (distinct_nodup _) fun _ =>
      exists_pod_iff coherent earlier).symm
  · exact (Graph.countP_eq_length differ (workloadIds_nodup _) fun _ =>
      exists_workload_iff coherent earlier).symm

end Inquiry

/-- Whatever is asked, the counts of the answer are those of the nodes in its graph. -/
theorem query_counts_its_graph {request : Request} (valid : request.validate = .ok ())
    (catalog : Catalog) (discovery : Option Discovery) :
    ∃ response, query catalog discovery request = .ok response ∧ response.CountsItsGraph :=
  ⟨_, query_of_valid valid catalog discovery,
    Inquiry.response_countsItsGraph (inquiryFor_coherent catalog discovery request) _⟩

/-- A robot runs in two pods of one job, and its role takes over another one. -/
def crowdedCatalog : Catalog where
  bundles :=
    [Aggregation.teamBundle "blue" [Aggregation.readPods] ["red"],
      ⟨.clusterRole, "red", none, SortedMap.empty.insert "team" "red", .empty,
        [Aggregation.readNodes], none⟩]
  bindings :=
    [⟨.clusterRoleBinding, "robots", none, ⟨.clusterRole, "blue"⟩,
      [⟨.serviceAccount, "robot", some "team"⟩]⟩]
  pods :=
    [⟨"1", "team", "first", .running, "robot", [⟨"9", "Job", "work", "batch/v1", true⟩]⟩,
      ⟨"2", "team", "second", .running, "robot", [⟨"9", "Job", "work", "batch/v1", true⟩]⟩]
  workloads := [⟨"9", "batch/v1", "Job", "team", "work", []⟩]

/-- Who may do something to pods, and what is one of those where it runs? The role that is taken over
grants nothing of that. -/
def onePodRequest : Request :=
  { Request.standard with
    selector := { Selector.empty with resources := ["pods"] }
    includePods := true
    includeWorkloads := true
    maxPodsPerSubject := 1 }

/-- One of the two roles counts. -/
theorem query_counts_its_graph_crowdedCatalog : onePodRequest.validate = .ok () ∧
    ∃ response, query crowdedCatalog none onePodRequest = .ok response ∧
      response.CountsItsGraph ∧ response.matchedRoles = 1 := by
  have valid : onePodRequest.validate = .ok () := rfl
  obtain ⟨response, answered, counts⟩ := query_counts_its_graph valid crowdedCatalog none
  refine ⟨valid, response, answered, counts, ?_⟩
  rw [(eq_answer_of_query answered).2]
  decide +kernel

end AccessGraph
