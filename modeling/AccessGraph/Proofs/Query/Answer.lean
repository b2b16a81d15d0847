/-
This file says when a query is answered: always when the request makes sense, and then with a graph
in which every edge leads from a node to a node.
-/

import AccessGraph.Proofs.Query.Coherence
import AccessGraph.Query.Basic

namespace AccessGraph

namespace Inquiry

variable {inquiry : Inquiry}

/-- A service account stands behind a subject of a binding that is shown. -/
theorem mem_serviceAccounts {reached : List Reached} {account : ServiceAccount} :
    account ∈ inquiry.serviceAccounts reached ↔
      ∃ bundle ∈ reached, ∃ binding ∈ bundle.bindings, ∃ subject ∈ binding.subjects,
        inquiry.serviceAccount? binding subject = some account := by
  simp only [serviceAccounts, List.mem_mergeSort, mem_distinct, List.mem_flatMap,
    List.mem_filterMap]

theorem serviceAccount?_eq_some_iff {binding : Binding} {subject : Subject}
    {account : ServiceAccount} : inquiry.serviceAccount? binding subject = some account ↔
      subject.isServiceAccount = true ∧
      inquiry.scope.allowsRuntimeSubject subject binding = true ∧
      account = ⟨(subject.space binding).getD "", subject.name, subjectId binding subject⟩ := by
  unfold serviceAccount?
  cases subject.isServiceAccount <;> cases inquiry.scope.allowsRuntimeSubject subject binding <;>
    simp [eq_comm]

theorem placedAccounts_subset (reached : List Reached) :
    inquiry.placedAccounts reached ⊆ inquiry.serviceAccounts reached := by
  unfold placedAccounts
  split
  · exact List.Subset.refl _
  · exact List.nil_subset _

/-- The nodes of the accounts for which pods are looked up come with the bundles. -/
theorem exists_node_of_mem_placedAccounts {reached : List Reached} {account : ServiceAccount}
    (placed : account ∈ inquiry.placedAccounts reached) :
    ∃ node ∈ BuildStep.nodes (reached.flatMap inquiry.reachSteps), node.id = account.nodeId := by
  obtain ⟨bundle, member, binding, granted, subject, targeted, found⟩ :=
    mem_serviceAccounts.mp (placedAccounts_subset reached placed)
  obtain ⟨-, -, rfl⟩ := serviceAccount?_eq_some_iff.mp found
  refine ⟨subjectNode binding subject, ?_, rfl⟩
  rw [BuildStep.nodes_flatMap, List.mem_flatMap]
  exact ⟨bundle, member, mem_nodes_reachSteps.mpr (.subject granted targeted)⟩

/-- The nodes of all steps come with reached bundles or with service accounts. -/
theorem mem_nodes_steps {reached : List Reached} {accounts : List ServiceAccount} {node : Node} :
    node ∈ BuildStep.nodes (inquiry.steps reached accounts) ↔
      (∃ bundle ∈ reached, ReachNode inquiry bundle node) ∨
        ∃ account ∈ accounts, AccountNode inquiry account node := by
  simp only [steps, BuildStep.nodes_append, BuildStep.nodes_flatMap, List.mem_append,
    List.mem_flatMap, mem_nodes_reachSteps, mem_nodes_accountSteps]

/-- The edges of all steps come with reached bundles or with service accounts. -/
theorem mem_edges_steps {reached : List Reached} {accounts : List ServiceAccount} {edge : Edge} :
    edge ∈ BuildStep.edges (inquiry.steps reached accounts) ↔
      (∃ bundle ∈ reached, ReachEdge inquiry bundle edge) ∨
        ∃ account ∈ accounts, AccountEdge inquiry account edge := by
  simp only [steps, BuildStep.edges_append, BuildStep.edges_flatMap, List.mem_append,
    List.mem_flatMap, mem_edges_reachSteps, mem_edges_accountSteps]

/-- Every node that is brought for a coherent inquiry has the label of its kind. -/
theorem steps_isLabelled (coherent : inquiry.Coherent) (accounts : List ServiceAccount) :
    ∀ node ∈ BuildStep.nodes (inquiry.steps inquiry.reached accounts), node.IsLabelled := by
  intro node brought
  rcases mem_nodes_steps.mp brought with ⟨bundle, member, here⟩ | ⟨account, -, here⟩
  · exact here.isLabelled coherent (mem_reached_iff.mp member)
  · exact here.isLabelled

/-- Every edge that is brought is named by its ends and its kind. -/
theorem steps_isNamed (reached : List Reached) (accounts : List ServiceAccount) :
    ∀ edge ∈ BuildStep.edges (inquiry.steps reached accounts), edge.IsNamed := by
  intro edge brought
  rcases mem_edges_steps.mp brought with ⟨bundle, -, here⟩ | ⟨account, -, here⟩
  · exact here.isNamed
  · exact here.isNamed

/-- All steps together bring both ends of each edge. -/
theorem steps_supplied (coherent : inquiry.Coherent) (reached : List Reached) :
    BuildStep.Supplied [] (inquiry.steps reached (inquiry.placedAccounts reached)) := by
  have accounts : BuildStep.Supplied ((inquiry.placedAccounts reached).map (·.nodeId))
      ((inquiry.placedAccounts reached).flatMap inquiry.accountSteps) := by
    apply BuildStep.Supplied.flatMap
    intro account placed
    apply (accountSteps_supplied account).mono
    intro id own
    rw [List.mem_singleton.mp own]
    exact List.mem_map_of_mem placed
  apply (BuildStep.Supplied.flatMap fun bundle _ =>
    reachSteps_supplied coherent bundle).append_of_known accounts
  intro id known
  obtain ⟨account, placed, rfl⟩ := List.mem_map.mp known
  exact exists_node_of_mem_placedAccounts placed

/-- The nodes of an answer have the ids that bundles and accounts bring. -/
theorem mem_nodeIds_response (earlier : List String) {id : String} :
    id ∈ (inquiry.response earlier).graph.nodeIds ↔
      ∃ node, ((∃ bundle ∈ inquiry.reached, ReachNode inquiry bundle node) ∨
        ∃ account ∈ inquiry.placedAccounts inquiry.reached, AccountNode inquiry account node) ∧
        node.id = id := by
  simp only [response, GraphBuilder.mem_nodeIds_finish, GraphBuilder.mem_nodeIds_run,
    mem_nodes_steps]
  rfl

/-- The edges of an answer have the ids that bundles and accounts bring. -/
theorem mem_edgeIds_response (earlier : List String) {id : String} :
    id ∈ (inquiry.response earlier).graph.edgeIds ↔
      ∃ edge, ((∃ bundle ∈ inquiry.reached, ReachEdge inquiry bundle edge) ∨
        ∃ account ∈ inquiry.placedAccounts inquiry.reached, AccountEdge inquiry account edge) ∧
        edge.id = id := by
  simp only [response, GraphBuilder.mem_edgeIds_finish, GraphBuilder.mem_edgeIds_run,
    mem_edges_steps]
  rfl

/-- The nodes of a lane have the ids that bundles and accounts give to that lane. -/
theorem mem_nodeIdsIn_response (coherent : inquiry.Coherent) (earlier : List String) {lane : Lane}
    {id : String} : id ∈ (inquiry.response earlier).graph.nodeIdsIn lane ↔
      ∃ node, ((∃ bundle ∈ inquiry.reached, ReachNode inquiry bundle node) ∨
        ∃ account ∈ inquiry.placedAccounts inquiry.reached, AccountNode inquiry account node) ∧
        node.kind.lane = lane ∧ node.id = id := by
  have labelled := steps_isLabelled coherent (inquiry.placedAccounts inquiry.reached)
  rw [Graph.mem_nodeIdsIn]
  simp only [response, GraphBuilder.mem_nodes_finish]
  rw [← Inquiry.reached, GraphBuilder.exists_lane_run_iff labelled]
  simp only [mem_nodes_steps]

/-- The edges of a kind have the ids that bundles and accounts give to that kind. -/
theorem mem_edgeIdsOf_response (earlier : List String) {kind : EdgeKind} {id : String} :
    id ∈ (inquiry.response earlier).graph.edgeIdsOf kind ↔
      ∃ edge, ((∃ bundle ∈ inquiry.reached, ReachEdge inquiry bundle edge) ∨
        ∃ account ∈ inquiry.placedAccounts inquiry.reached, AccountEdge inquiry account edge) ∧
        edge.kind = kind ∧ edge.id = id := by
  have named : ∀ edge ∈ BuildStep.edges (inquiry.steps inquiry.reached
      (inquiry.placedAccounts inquiry.reached)), edge.IsNamed := steps_isNamed _ _
  rw [Graph.mem_edgeIdsOf]
  simp only [response, GraphBuilder.mem_edges_finish]
  rw [← Inquiry.reached, GraphBuilder.exists_kind_run_iff named]
  simp only [mem_edges_steps]

/-- Every node of an answer is brought by a bundle or an account, but for the details of roles. -/
theorem exists_brought_of_mem_nodes {earlier : List String} {node : Node}
    (present : node ∈ (inquiry.response earlier).graph.nodes) :
    ∃ added, ((∃ bundle ∈ inquiry.reached, ReachNode inquiry bundle added) ∨
      ∃ account ∈ inquiry.placedAccounts inquiry.reached, AccountNode inquiry account added) ∧
      added.bare = node.bare := by
  obtain ⟨added, brought, same⟩ :=
    GraphBuilder.exists_step_of_mem_nodes_run ((GraphBuilder.mem_nodes_finish _).mp present)
  exact ⟨added, mem_nodes_steps.mp brought, same⟩

/-- Every edge of an answer is brought by a bundle or an account. -/
theorem brought_of_mem_edges {earlier : List String} {edge : Edge}
    (present : edge ∈ (inquiry.response earlier).graph.edges) :
    (∃ bundle ∈ inquiry.reached, ReachEdge inquiry bundle edge) ∨
      ∃ account ∈ inquiry.placedAccounts inquiry.reached, AccountEdge inquiry account edge :=
  mem_edges_steps.mp
    (GraphBuilder.mem_edges_of_mem_edges_run ((GraphBuilder.mem_edges_finish _).mp present))

/-- The graph that is built for a coherent inquiry passes the check. -/
theorem response_wellFormed (coherent : inquiry.Coherent) (earlier : List String) :
    (inquiry.response earlier).graph.WellFormed :=
  GraphBuilder.wellFormed_finish_run (steps_supplied coherent inquiry.reached)

end Inquiry

theorem Request.withPods_eq (request : Request) :
    request.withPods =
      { request with includePods := request.includePods || request.includeWorkloads } := by
  unfold withPods needsPods
  rcases request with ⟨_, _, _, _, pods, workloads, _⟩
  cases pods <;> cases workloads <;> rfl

/-- The inquiry that is made for a request. -/
def inquiryFor (catalog : Catalog) (discovery : Option Discovery) (request : Request) : Inquiry :=
  .of catalog discovery request.withPods

section

variable (catalog : Catalog) (discovery : Option Discovery) (request : Request)

theorem inquiryFor_coherent : (inquiryFor catalog discovery request).Coherent :=
  Inquiry.of_coherent catalog discovery request.withPods

/-- Pods are looked up for workloads too, and nothing else of the request changes. -/
theorem request_inquiryFor : (inquiryFor catalog discovery request).request =
    { request with includePods := request.includePods || request.includeWorkloads } :=
  request.withPods_eq

theorem scope_inquiryFor :
    (inquiryFor catalog discovery request).scope = Scope.of request.namespaceScope := by
  change Scope.of request.withPods.namespaceScope = _
  rw [Request.withPods_eq]

/-- Pods that are added to a request change nothing of what it selects. -/
theorem matcher_inquiryFor :
    (inquiryFor catalog discovery request).matcher = Matcher.of request discovery := by
  change Matcher.of request.withPods discovery = _
  rw [Request.withPods_eq]
  rfl

theorem includeAggregates_inquiryFor :
    (inquiryFor catalog discovery request).request.includeAggregates =
      request.includeAggregates := by
  rw [request_inquiryFor]

theorem includePermissions_inquiryFor :
    (inquiryFor catalog discovery request).request.includePermissions =
      request.includePermissions := by
  rw [request_inquiryFor]

theorem includeWorkloads_inquiryFor :
    (inquiryFor catalog discovery request).request.includeWorkloads =
      request.includeWorkloads := by
  rw [request_inquiryFor]

theorem maxWorkloadsPerPod_inquiryFor :
    (inquiryFor catalog discovery request).request.maxWorkloadsPerPod =
      request.maxWorkloadsPerPod := by
  rw [request_inquiryFor]

theorem includeResourceMap_inquiryFor :
    (inquiryFor catalog discovery request).request.includeResourceMap =
      request.includeResourceMap := by
  rw [request_inquiryFor]

end

/-- The answer to a request, whether or not the request makes sense. -/
def answer (catalog : Catalog) (discovery : Option Discovery) (request : Request) : Response :=
  (inquiryFor catalog discovery request).response (earlyWarnings catalog request)

theorem answer_wellFormed (catalog : Catalog) (discovery : Option Discovery) (request : Request) :
    (answer catalog discovery request).graph.WellFormed :=
  Inquiry.response_wellFormed (inquiryFor_coherent catalog discovery request) _

/-- The check of the graph never changes what is answered. -/
theorem query_eq (catalog : Catalog) (discovery : Option Discovery) (request : Request) :
    query catalog discovery request =
      (request.validate.mapError QueryError.invalidRequest).map fun _ =>
        answer catalog discovery request := by
  have accepted := Graph.validate_eq_ok_iff.mpr (answer_wellFormed catalog discovery request)
  unfold answer inquiryFor at accepted
  unfold query
  cases request.validate with
  | error fault => rfl
  | ok valid =>
      simp only [Except.mapError, bind, Except.bind, accepted]
      rfl

/-- A request that makes sense is answered. -/
theorem query_of_valid {request : Request} (valid : request.validate = .ok ()) (catalog : Catalog)
    (discovery : Option Discovery) :
    query catalog discovery request = .ok (answer catalog discovery request) := by
  rw [query_eq, valid]
  rfl

theorem eq_answer_of_query {catalog : Catalog} {discovery : Option Discovery} {request : Request}
    {response : Response} (answered : query catalog discovery request = .ok response) :
    request.validate = .ok () ∧ response = answer catalog discovery request := by
  rw [query_eq] at answered
  cases validity : request.validate with
  | error fault => simp [validity, Except.mapError, Except.map] at answered
  | ok valid =>
      rw [validity] at answered
      exact ⟨rfl, (Except.ok.inj answered).symm⟩

/-- A query is refused only for what is wrong with its request: in the graph that is built the ids
of nodes differ, and both ends of every edge are nodes. -/
theorem query_refuses_only_invalid_requests (catalog : Catalog) (discovery : Option Discovery)
    (request : Request) :
    (∀ error, query catalog discovery request = .error error ↔
      ∃ fault, request.validate = .error fault ∧ error = .invalidRequest fault) ∧
    (∀ response, query catalog discovery request = .ok response →
      response = answer catalog discovery request) ∧
    (answer catalog discovery request).graph.nodeIds.Nodup ∧
    ∀ edge ∈ (answer catalog discovery request).graph.edges,
      edge.source ∈ (answer catalog discovery request).graph.nodeIds ∧
        edge.target ∈ (answer catalog discovery request).graph.nodeIds := by
  have sound := answer_wellFormed catalog discovery request
  refine ⟨?_, ?_, sound.distinctNodes, sound.presentEnds⟩
  · intro error
    rw [query_eq]
    cases request.validate with
    | error fault => simp [Except.mapError, Except.map, eq_comm]
    | ok valid => simp [Except.mapError, Except.map]
  · intro response answered
    rw [query_eq] at answered
    cases validity : request.validate with
    | error fault => simp [validity, Except.mapError, Except.map] at answered
    | ok valid =>
        rw [validity] at answered
        exact (Except.ok.inj answered).symm

end AccessGraph
