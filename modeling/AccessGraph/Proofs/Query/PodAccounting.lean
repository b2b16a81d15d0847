/-
This file says that no pod is lost on the way from a service account to its pods: those that are
shown and those that are counted as hidden make up all of them. The same goes for the owners of a
pod.
-/

import AccessGraph.Proofs.Catalog.Rearrangement
import AccessGraph.Proofs.Query.PodIds

namespace AccessGraph

namespace Catalog

section

variable (catalog : Catalog) (request : Request)

/-- The pods that run as a service account, in a phase that a request accepts, in order. -/
def podsRunningAs (space name : String) : List Pod :=
  (catalog.pods.filter fun pod => pod.namespaceName == space && pod.serviceAccount == name &&
      pod.phase.matches request.podPhaseMode).mergeSort
    fun first second => (CatalogIndex.podOrder first second).isLE

/-- The owners above a pod, the nearest first. -/
def ownersOf (pod : Pod) : List Workload :=
  (OwnerChain.of (.of catalog) pod).workloads

/-- A graph shows the first pods of an account, as many as a request wants, and counts the rest. -/
structure ShowsPods (graph : Graph) (space name : String) : Prop where
  targets : (((graph.edgesOf .runsAs).filter (·.source == accountNodeId space name)).map
      (·.target)).Perm
    (((catalog.podsRunningAs request space name).take request.maxPodsPerSubject.toNat).map
        Inquiry.podId ++
      if request.maxPodsPerSubject.toNat < (catalog.podsRunningAs request space name).length then
        [podOverflowNodeId (accountNodeId space name)]
      else [])
  pods : ∀ pod ∈ (catalog.podsRunningAs request space name).take request.maxPodsPerSubject.toNat,
    graph.node? (Inquiry.podId pod) = some (Inquiry.podNode pod)
  hidden : (graph.node? (podOverflowNodeId (accountNodeId space name))).map (·.kind) =
    if request.maxPodsPerSubject.toNat < (catalog.podsRunningAs request space name).length then
      some (.podOverflow ((catalog.podsRunningAs request space name).length -
        request.maxPodsPerSubject.toNat))
    else none

/-- The ids of a pod and of the first of its owners, as many as a request wants. -/
def ownerPath (pod : Pod) : List String :=
  Inquiry.podId pod :: ((catalog.ownersOf pod).take request.maxWorkloadsPerPod.toNat).map
    Inquiry.workloadId

/-- A graph shows the first owners of a pod, each above the one before, and counts the others. -/
structure ShowsOwners (graph : Graph) (pod : Pod) : Prop where
  path : ∀ owned owner, [owned, owner] <:+: catalog.ownerPath request pod →
    edgeId owned owner .ownedBy ∈ graph.edgeIdsOf .ownedBy
  hidden : (graph.node? (workloadOverflowNodeId (Inquiry.podId pod))).map (·.kind) =
    if request.maxWorkloadsPerPod.toNat < (catalog.ownersOf pod).length then
      some (.workloadOverflow ((catalog.ownersOf pod).length - request.maxWorkloadsPerPod.toNat))
    else none
  hiddenEdge : request.maxWorkloadsPerPod.toNat < (catalog.ownersOf pod).length →
    edgeId ((catalog.ownerPath request pod).getLast (List.cons_ne_nil _ _))
      (workloadOverflowNodeId (Inquiry.podId pod)) .ownedBy ∈ graph.edgeIdsOf .ownedBy

end

section

variable (catalog : Catalog) (discovery : Option Discovery) (request : Request)

/-- A binding that is shown targets a service account of a namespace in scope. -/
def ReachesAccount (space name : String) : Prop :=
  ∃ binding target, Binds catalog discovery request binding target ∧
    ∃ subject ∈ binding.subjects, subject.isServiceAccount = true ∧
      subject.space binding = some space ∧ subject.name = name ∧
      (Scope.of request.namespaceScope).allowsNamespace space = true

/-- A graph accounts for the pods of every service account that is reached, and for the owners of
those that it shows. Pods of no other account are shown. -/
structure AccountsForPods (graph : Graph) : Prop where
  pods : ∀ space name, ReachesAccount catalog discovery request space name →
    ShowsPods catalog request graph space name
  owners : request.includeWorkloads = true → ∀ space name,
    ReachesAccount catalog discovery request space name →
      ∀ pod ∈ (catalog.podsRunningAs request space name).take request.maxPodsPerSubject.toNat,
        ShowsOwners catalog request graph pod
  noOthers : ∀ edge ∈ graph.edgesOf .runsAs, ∃ space name,
    ReachesAccount catalog discovery request space name ∧ edge.source = accountNodeId space name

end

end Catalog

namespace Inquiry

/-- A chain ends with the last of the owners that are shown, or else with the pod. -/
theorem getLast_chain (owned : String) (workloads : List Workload) :
    (owned :: workloads.map workloadId).getLast (List.cons_ne_nil _ _) =
      chainEnd owned workloads := by
  induction workloads generalizing owned with
  | nil => rfl
  | cons workload rest inductionHypothesis => exact inductionHypothesis (workloadId workload)

section

variable {inquiry : Inquiry} {earlier : List String}

/-- The pods and workloads of an answer are what accounts bring. -/
theorem exists_account_of_mem_nodes {node : Node}
    (present : node ∈ (inquiry.response earlier).graph.nodes)
    (lane : node.kind.lane = .pods ∨ node.kind.lane = .workloads) :
    ∃ account ∈ inquiry.placedAccounts inquiry.reached, AccountNode inquiry account node := by
  obtain ⟨added, brought, same⟩ := exists_brought_of_mem_nodes present
  have sameLane : added.kind.lane = node.kind.lane :=
    congrArg (·.2.1) (Node.sort_eq_of_bare_eq same)
  rcases brought with ⟨reached, -, brought⟩ | ⟨account, placed, brought⟩
  · rw [← sameLane] at lane
    exact absurd lane (not_or.mpr brought.lane)
  · have plain : node.isRole = false := by
      rw [← Bool.not_eq_true, Node.isRole_iff_lane]
      intro role
      simp [role] at lane
    rw [Node.bare_of_plain brought.isRole, Node.bare_of_plain plain] at same
    exact ⟨account, placed, same ▸ brought⟩

/-- A node that is brought is shown if no other node of the answer has its id. -/
theorem mem_nodes_of_brought {node : Node}
    (brought : ∃ account ∈ inquiry.placedAccounts inquiry.reached, AccountNode inquiry account node)
    (only : ∀ other ∈ (inquiry.response earlier).graph.nodes, other.id = node.id → other = node) :
    node ∈ (inquiry.response earlier).graph.nodes := by
  obtain ⟨other, present, same⟩ :=
    List.mem_map.mp ((mem_nodeIds_response earlier).mpr ⟨node, .inr brought, rfl⟩)
  exact only other present same ▸ present

section

variable (coherent : inquiry.Coherent) (apart : inquiry.TellsApart)

include coherent apart

/-- No node but that of a pod has the id of the pod. -/
theorem eq_podNode_of_id_eq {pod : Pod} (known : pod ∈ inquiry.index.pods) {node : Node}
    (present : node ∈ (inquiry.response earlier).graph.nodes) (named : node.id = podId pod) :
    node = podNode pod := by
  have sort := Node.sort_eq_of_id_eq (isLabelled_of_mem_nodes coherent present)
    (podNode_isLabelled pod) named
  have kind : node.kind.name = "pod" := congrArg (·.1) sort
  obtain ⟨account, -, brought⟩ := exists_account_of_mem_nodes present (.inl (congrArg (·.2.1) sort))
  cases brought with
  | pod shown =>
      obtain ⟨-, alsoKnown, -⟩ := mem_podsOf_iff.mp (List.mem_of_mem_take shown)
      rw [apart.pod_eq_of_podId_eq alsoKnown known named]
  | workload | hiddenWorkloads | hiddenPods =>
      simp [workloadNode, hiddenWorkloadsNode, hiddenPodsNode, Node.of, NodeKind.name] at kind

/-- No node but that of its hidden pods has the id that belongs to these. -/
theorem eq_hiddenPodsNode_of_id_eq {account : ServiceAccount}
    (placed : account ∈ inquiry.placedAccounts inquiry.reached)
    (given : inquiry.isPlaced account = true) {node : Node}
    (present : node ∈ (inquiry.response earlier).graph.nodes)
    (named : node.id = podOverflowNodeId account.nodeId) :
    inquiry.hiddenPods account ≠ 0 ∧ node = inquiry.hiddenPodsNode account := by
  have sort := Node.sort_eq_of_id_eq (isLabelled_of_mem_nodes coherent present)
    (inquiry.hiddenPodsNode_isLabelled account) named
  have kind : node.kind.name = "podOverflow" := congrArg (·.1) sort
  obtain ⟨other, alsoPlaced, brought⟩ :=
    exists_account_of_mem_nodes present (.inl (congrArg (·.2.1) sort))
  cases brought with
  | hiddenPods more =>
      obtain ⟨pod, found⟩ := exists_pod_of_hidden more
      cases apart.account_eq_of_nodeId_eq alsoPlaced placed (mem_podsOf_iff.mp found).1 given
        (podOverflowNodeId_injective named)
      exact ⟨more, rfl⟩
  | pod | workload | hiddenWorkloads =>
      simp [podNode, workloadNode, hiddenWorkloadsNode, Node.of, NodeKind.name] at kind

/-- No node but that of its hidden owners has the id that belongs to these. -/
theorem eq_hiddenWorkloadsNode_of_id_eq {pod : Pod} (known : pod ∈ inquiry.index.pods) {node : Node}
    (present : node ∈ (inquiry.response earlier).graph.nodes)
    (named : node.id = workloadOverflowNodeId (podId pod)) :
    inquiry.hiddenWorkloads pod ≠ 0 ∧ node = inquiry.hiddenWorkloadsNode pod := by
  have sort := Node.sort_eq_of_id_eq (isLabelled_of_mem_nodes coherent present)
    (inquiry.hiddenWorkloadsNode_isLabelled pod) named
  have kind : node.kind.name = "workloadOverflow" := congrArg (·.1) sort
  obtain ⟨account, -, brought⟩ :=
    exists_account_of_mem_nodes present (.inr (congrArg (·.2.1) sort))
  cases brought with
  | hiddenWorkloads shown included more =>
      obtain ⟨-, alsoKnown, -⟩ := mem_podsOf_iff.mp (List.mem_of_mem_take shown)
      cases apart.pod_eq_of_podId_eq alsoKnown known (workloadOverflowNodeId_injective named)
      exact ⟨more, rfl⟩
  | pod | workload | hiddenPods =>
      simp [podNode, workloadNode, hiddenPodsNode, Node.of, NodeKind.name] at kind

variable {account : ServiceAccount} (placed : account ∈ inquiry.placedAccounts inquiry.reached)

include placed

theorem node?_pod {pod : Pod} (shown : pod ∈ inquiry.shownPods account) :
    (inquiry.response earlier).graph.node? (podId pod) = some (podNode pod) := by
  obtain ⟨-, known, -⟩ := mem_podsOf_iff.mp (List.mem_of_mem_take shown)
  exact node?_response_of_mem (mem_nodes_of_brought ⟨account, placed, .pod shown⟩
    fun _ present named => eq_podNode_of_id_eq coherent apart known present named)

/-- Hidden pods are shown as one node exactly if there are any. -/
theorem node?_hiddenPods (given : inquiry.isPlaced account = true) :
    (inquiry.response earlier).graph.node? (podOverflowNodeId account.nodeId) =
      if inquiry.hiddenPods account = 0 then none else some (inquiry.hiddenPodsNode account) := by
  have only {node : Node} (present : node ∈ (inquiry.response earlier).graph.nodes)
      (named : node.id = podOverflowNodeId account.nodeId) :=
    eq_hiddenPodsNode_of_id_eq coherent apart placed given present named
  split
  · rename_i none
    rw [Graph.node?, List.find?_eq_none]
    intro node present named
    exact (only present (eq_of_beq named)).1 none
  · rename_i more
    exact node?_response_of_mem (mem_nodes_of_brought ⟨account, placed, .hiddenPods more⟩
      fun _ present named => (only present named).2)

/-- Hidden owners of a pod are shown as one node exactly if there are any. -/
theorem node?_hiddenWorkloads (included : inquiry.request.includeWorkloads = true) {pod : Pod}
    (shown : pod ∈ inquiry.shownPods account) :
    (inquiry.response earlier).graph.node? (workloadOverflowNodeId (podId pod)) =
      if inquiry.hiddenWorkloads pod = 0 then none
      else some (inquiry.hiddenWorkloadsNode pod) := by
  obtain ⟨-, known, -⟩ := mem_podsOf_iff.mp (List.mem_of_mem_take shown)
  have only {node : Node} (present : node ∈ (inquiry.response earlier).graph.nodes)
      (named : node.id = workloadOverflowNodeId (podId pod)) :=
    eq_hiddenWorkloadsNode_of_id_eq coherent apart known present named
  split
  · rename_i none
    rw [Graph.node?, List.find?_eq_none]
    intro node present named
    exact (only present (eq_of_beq named)).1 none
  · rename_i more
    exact node?_response_of_mem (mem_nodes_of_brought
      ⟨account, placed, .hiddenWorkloads shown included more⟩
      fun _ present named => (only present named).2)

end

/-- Edges that lead to pods are brought by the accounts that the pods run as. -/
theorem exists_leavesFor_of_mem {edge : Edge}
    (present : edge ∈ (inquiry.response earlier).graph.edgesOf .runsAs) :
    ∃ account ∈ inquiry.placedAccounts inquiry.reached, ∃ link name,
      LeavesFor inquiry account edge link name := by
  obtain ⟨shown, kind⟩ := List.mem_filter.mp present
  rcases brought_of_mem_edges shown with ⟨reached, -, brought⟩ | ⟨account, placed, brought⟩
  · cases brought <;> cases kind
  · exact ⟨account, placed, brought.leavesFor (eq_of_beq kind)⟩

section

variable (apart : inquiry.TellsApart)

include apart

/-- Every edge that leaves an account for a pod is shown, and no other edge of this kind is. -/
theorem mem_edgesOf_runsAs {edge : Edge} :
    edge ∈ (inquiry.response earlier).graph.edgesOf .runsAs ↔
      ∃ account ∈ inquiry.placedAccounts inquiry.reached, ∃ link name,
        LeavesFor inquiry account edge link name := by
  constructor
  · exact exists_leavesFor_of_mem
  · intro given
    obtain ⟨account, placed, link, name, leavesFor⟩ := given
    have brought : AccountEdge inquiry account edge ∧ edge.kind = .runsAs := by
      cases leavesFor with
      | pod shown form => exact form ▸ ⟨.runs shown, rfl⟩
      | hiddenPods more form => exact form ▸ ⟨.hiddenPods more, rfl⟩
    have id := (mem_edgeIdsOf_response earlier).mpr
      ⟨edge, .inr ⟨account, placed, brought.1⟩, brought.2, rfl⟩
    -- An edge with this id is shown, and ids tell such edges apart.
    obtain ⟨other, present, same⟩ := List.mem_map.mp id
    obtain ⟨another, alsoPlaced, second, last, alsoLeaves⟩ := exists_leavesFor_of_mem present
    rw [leavesFor.eq_of_id_eq apart placed alsoPlaced alsoLeaves same.symm]
    exact present

variable {account : ServiceAccount} (placed : account ∈ inquiry.placedAccounts inquiry.reached)
  (given : inquiry.isPlaced account = true)

include placed given

/-- The edges that leave the node of an account are those that the account brings. -/
theorem mem_edges_leaving {edge : Edge} :
    edge ∈ ((inquiry.response earlier).graph.edgesOf .runsAs).filter
        (·.source == account.nodeId) ↔ ∃ link name, LeavesFor inquiry account edge link name := by
  rw [List.mem_filter, mem_edgesOf_runsAs apart, beq_iff_eq]
  constructor
  · intro shown
    obtain ⟨⟨other, alsoPlaced, link, name, leaves⟩, source⟩ := shown
    rw [leaves.source] at source
    cases apart.account_eq_of_nodeId_eq alsoPlaced placed leaves.isPlaced given source
    exact ⟨link, name, leaves⟩
  · intro leaving
    obtain ⟨link, name, leaves⟩ := leaving
    exact ⟨⟨account, placed, link, name, leaves⟩, leaves.source⟩

omit apart placed given in
/-- The ids of the pods of an account differ. -/
theorem podIds_nodup (apart : inquiry.TellsApart) (account : ServiceAccount) :
    ((inquiry.shownPods account).map podId).Nodup := by
  have keys : ((inquiry.podsOf account).map fun pod => (pod.namespaceName, pod.name)).Nodup := by
    unfold podsOf
    split
    · refine List.Nodup.sublist (List.filter_sublist.map _) ?_
      have perm := List.mergeSort_perm (inquiry.index.pods.filter fun pod =>
        pod.namespaceName == account.namespaceName && pod.serviceAccount == account.name)
          fun first second => (CatalogIndex.podOrder first second).isLE
      exact (perm.map _).nodup_iff.mpr (apart.differ.sublist (List.filter_sublist.map _))
    · exact .nil
  have once : (inquiry.shownPods account).Nodup :=
    (List.Nodup.of_map _ keys).sublist (List.take_sublist _ _)
  refine once.map_on ?_
  intro pod member second alsoMember same
  have known := (mem_podsOf_iff.mp (List.mem_of_mem_take member)).2.1
  have alsoKnown := (mem_podsOf_iff.mp (List.mem_of_mem_take alsoMember)).2.1
  exact apart.pod_eq_of_podId_eq known alsoKnown same

/-- Edges that leave one account for one place are the same. -/
theorem targets_nodup :
    ((((inquiry.response earlier).graph.edgesOf .runsAs).filter
      (·.source == account.nodeId)).map (·.target)).Nodup := by
  have ids : ((((inquiry.response earlier).graph.edgesOf .runsAs).filter
      (·.source == account.nodeId)).map (·.id)).Nodup := by
    have all : (inquiry.response earlier).graph.edgeIds.Nodup :=
      ((GraphBuilder.edges_finish_perm _).map _).nodup_iff.mpr (GraphBuilder.edgeIds_run_nodup _)
    exact all.sublist ((List.filter_sublist.trans List.filter_sublist).map _)
  have byTarget : ∀ edge ∈ ((inquiry.response earlier).graph.edgesOf .runsAs).filter
      (·.source == account.nodeId), edge.id = edgeId account.nodeId edge.target .runsAs := by
    intro edge present
    obtain ⟨link, name, leaves⟩ := (mem_edges_leaving apart placed given).mp present
    cases leaves with
    | pod _ form | hiddenPods _ form =>
        rw [form]
        rfl
  rw [List.map_congr_left byTarget, ← Function.comp_def (edgeId account.nodeId · .runsAs),
    ← List.map_map] at ids
  exact ids.of_map

omit placed given in
/-- The ids of the pods that are shown of an account, and of the node of those that are hidden,
differ. -/
theorem podTargets_nodup : ((inquiry.shownPods account).map podId ++
    if inquiry.hiddenPods account = 0 then []
    else [podOverflowNodeId account.nodeId]).Nodup := by
  rw [List.nodup_append]
  refine ⟨podIds_nodup apart account, by split <;> simp, ?_⟩
  intro id isPod other isOverflow same
  obtain ⟨pod, -, rfl⟩ := List.mem_map.mp isPod
  split at isOverflow
  · cases isOverflow
  · rw [List.mem_singleton.mp isOverflow] at same
    have sort := Node.sort_eq_of_id_eq (podNode_isLabelled pod)
      (inquiry.hiddenPodsNode_isLabelled account) same
    have kinds : "pod" = "podOverflow" := congrArg (·.1) sort
    exact absurd kinds (by decide)

/-- The edges that leave an account lead to the pods that are shown of it, each once, and to the
node of those that are hidden if there are any. -/
theorem targets_perm :
    ((((inquiry.response earlier).graph.edgesOf .runsAs).filter
        (·.source == account.nodeId)).map (·.target)).Perm
      ((inquiry.shownPods account).map podId ++
        if inquiry.hiddenPods account = 0 then [] else [podOverflowNodeId account.nodeId]) := by
  rw [List.perm_ext_iff_of_nodup (targets_nodup apart placed given) (podTargets_nodup apart)]
  intro target
  rw [List.mem_map, List.mem_append, List.mem_map]
  constructor
  · intro led
    obtain ⟨edge, present, rfl⟩ := led
    obtain ⟨link, name, leaves⟩ := (mem_edges_leaving apart placed given).mp present
    cases leaves with
    | pod shown form => exact .inl ⟨_, shown, form ▸ rfl⟩
    | hiddenPods more form =>
        rw [form, if_neg more]
        exact .inr (List.mem_singleton_self _)
  · intro listed
    rcases listed with ⟨pod, shown, rfl⟩ | overflow
    · exact ⟨_, (mem_edges_leaving apart placed given).mpr ⟨_, _, .pod shown rfl⟩, rfl⟩
    · split at overflow
      · cases overflow
      · rename_i more
        rw [List.mem_singleton.mp overflow]
        exact ⟨_, (mem_edges_leaving apart placed given).mpr ⟨_, _, .hiddenPods more rfl⟩, rfl⟩

end

/-- Next to each other in the chain of a pod that is shown stand the ends of an edge. -/
theorem owned_mem_edgeIdsOf {account : ServiceAccount}
    (placed : account ∈ inquiry.placedAccounts inquiry.reached) {pod : Pod}
    (shown : pod ∈ inquiry.shownPods account) (included : inquiry.request.includeWorkloads = true)
    {owned owner : String} (next : [owned, owner] <:+: inquiry.chainIds pod) :
    edgeId owned owner .ownedBy ∈ (inquiry.response earlier).graph.edgeIdsOf .ownedBy :=
  (mem_edgeIdsOf_response earlier).mpr
    ⟨_, .inr ⟨account, placed, .owned shown included next⟩, rfl, rfl⟩

/-- The last owner that is shown of a pod leads to the node of those that are hidden. -/
theorem hiddenOwner_mem_edgeIdsOf {account : ServiceAccount}
    (placed : account ∈ inquiry.placedAccounts inquiry.reached) {pod : Pod}
    (shown : pod ∈ inquiry.shownPods account) (included : inquiry.request.includeWorkloads = true)
    (more : inquiry.hiddenWorkloads pod ≠ 0) :
    edgeId ((inquiry.chainIds pod).getLast (List.cons_ne_nil _ _))
      (workloadOverflowNodeId (podId pod)) .ownedBy ∈
        (inquiry.response earlier).graph.edgeIdsOf .ownedBy := by
  refine (mem_edgeIdsOf_response earlier).mpr
    ⟨_, .inr ⟨account, placed, .hiddenWorkloads shown included more⟩, rfl, ?_⟩
  simp only [chainIds, getLast_chain]
  rfl

end

end Inquiry

namespace Catalog

section

variable {catalog : Catalog} {discovery : Option Discovery} {request : Request}

/-- Ids tell apart what is found for the accounts of a request if they tell the pods apart. -/
theorem TellsPodsApart.inquiry (apart : catalog.TellsPodsApart) :
    (inquiryFor catalog discovery request).TellsApart where
  differ := apart.differ
  pods := apart.pods
  accounts := by
    intro account placed
    obtain ⟨reached, member, binding, granted, subject, targeted, isAccount, -, rfl⟩ :=
      Inquiry.exists_subject_of_placed placed
    have binds := binds_iff.mpr ⟨reached, member, rfl, granted⟩
    exact apart.accounts binding binds.listed subject targeted isAccount

/-- An account that is reached is looked up if pods are asked for. -/
theorem ReachesAccount.exists_placed {space name : String}
    (reaches : ReachesAccount catalog discovery request space name)
    (pods : request.includePods = true ∨ request.includeWorkloads = true) :
    ∃ account ∈ (inquiryFor catalog discovery request).placedAccounts
        (inquiryFor catalog discovery request).reached,
      (inquiryFor catalog discovery request).isPlaced account = true ∧
        account.namespaceName = space ∧ account.name = name := by
  obtain ⟨binding, target, binds, subject, targeted, isAccount, lives, rfl, allowed⟩ := reaches
  obtain ⟨reached, member, -, granted⟩ := binds_iff.mp binds
  have included : (inquiryFor catalog discovery request).request.includePods = true := by
    rw [request_inquiryFor]
    exact Bool.or_eq_true_iff.mpr pods
  rw [← scope_inquiryFor catalog discovery request] at allowed
  refine ⟨⟨space, subject.name, Inquiry.subjectId binding subject⟩, ?_, ?_, rfl, rfl⟩
  · rw [Inquiry.placedAccounts, if_pos included, Inquiry.mem_serviceAccounts]
    refine ⟨reached, member, binding, granted, subject, targeted,
      Inquiry.serviceAccount?_eq_some_iff.mpr ⟨isAccount, ?_, by rw [lives]; rfl⟩⟩
    rw [Scope.allowsRuntimeSubject, lives]
    exact allowed
  · obtain ⟨_, given⟩ := subject.exists_given_of_space lives
    simp [Inquiry.isPlaced, (trim_of_givenNamespace given).2, allowed]

/-- Every account that is looked up and has a namespace is reached. -/
theorem reachesAccount_of_placed {account : ServiceAccount}
    (placed : account ∈ (inquiryFor catalog discovery request).placedAccounts
      (inquiryFor catalog discovery request).reached)
    (given : (inquiryFor catalog discovery request).isPlaced account = true) :
    ReachesAccount catalog discovery request account.namespaceName account.name := by
  obtain ⟨reached, member, binding, granted, subject, targeted, isAccount, -, rfl⟩ :=
    Inquiry.exists_subject_of_placed placed
  obtain ⟨filled, allowed⟩ := Bool.and_eq_true_iff.mp given
  refine ⟨binding, _, binds_iff.mpr ⟨reached, member, rfl, granted⟩, subject, targeted, isAccount,
    ?_, rfl, ?_⟩
  · cases lives : subject.space binding with
    | none => simp [lives] at filled
    | some space => rfl
  · rw [← scope_inquiryFor catalog discovery request]
    exact allowed

section

variable {account : ServiceAccount}
  (given : (inquiryFor catalog discovery request).isPlaced account = true)
  (apart : catalog.TellsPodsApart)

include given apart

/-- It does not matter whether the pods are sorted first or those in other phases left out first. -/
theorem podsOf_inquiryFor : (inquiryFor catalog discovery request).podsOf account =
    catalog.podsRunningAs request account.namespaceName account.name := by
  rw [Inquiry.podsOf, if_pos given, request_inquiryFor, CatalogIndex.podsFor, filter_mergeSort,
    podsRunningAs, List.filter_filter]
  · apply congrArg (List.mergeSort · _)
    apply List.filter_congr
    intro pod _
    exact Bool.and_comm _ _
  · intro pod member other alsoMember same
    have keys := CatalogIndex.key_eq_of_podOrder same
    exact List.inj_on_of_nodup_map apart.differ (List.mem_of_mem_filter member)
      (List.mem_of_mem_filter alsoMember)
      (Prod.ext (congrArg (·.1) keys) (congrArg (·.2.1) keys))

theorem shownPods_inquiryFor : (inquiryFor catalog discovery request).shownPods account =
    (catalog.podsRunningAs request account.namespaceName account.name).take
      request.maxPodsPerSubject.toNat := by
  rw [Inquiry.shownPods, podsOf_inquiryFor given apart, request_inquiryFor]

theorem hiddenPods_inquiryFor : (inquiryFor catalog discovery request).hiddenPods account =
    (catalog.podsRunningAs request account.namespaceName account.name).length -
      request.maxPodsPerSubject.toNat := by
  rw [Inquiry.hiddenPods, podsOf_inquiryFor given apart, request_inquiryFor]

end

theorem chainIds_inquiryFor (pod : Pod) :
    (inquiryFor catalog discovery request).chainIds pod = catalog.ownerPath request pod := by
  rw [Inquiry.chainIds, Inquiry.shownWorkloads, maxWorkloadsPerPod_inquiryFor]
  rfl

theorem hiddenWorkloads_inquiryFor (pod : Pod) :
    (inquiryFor catalog discovery request).hiddenWorkloads pod =
      (catalog.ownersOf pod).length - request.maxWorkloadsPerPod.toNat := by
  rw [Inquiry.hiddenWorkloads, maxWorkloadsPerPod_inquiryFor]
  rfl

end

section

variable {catalog : Catalog} {request : Request} (apart : catalog.TellsPodsApart)
  (pods : request.includePods = true ∨ request.includeWorkloads = true)
  {discovery : Option Discovery} {space name : String}
  (reaches : ReachesAccount catalog discovery request space name)

include apart pods reaches

theorem answer_showsPods :
    ShowsPods catalog request (answer catalog discovery request).graph space name := by
  have coherent := inquiryFor_coherent catalog discovery request
  have tells : (inquiryFor catalog discovery request).TellsApart := apart.inquiry
  obtain ⟨account, placed, given, rfl, rfl⟩ := reaches.exists_placed pods
  have named := Inquiry.nodeId_of_placed placed given
  have shown := shownPods_inquiryFor given apart
  have hidden := hiddenPods_inquiryFor given apart
  have none : (inquiryFor catalog discovery request).hiddenPods account = 0 ↔
      ¬ request.maxPodsPerSubject.toNat <
        (catalog.podsRunningAs request account.namespaceName account.name).length := by
    rw [hidden, Nat.sub_eq_zero_iff_le, Nat.not_lt]
  constructor
  · rw [← shown, ← named, answer]
    simpa only [none, ite_not] using Inquiry.targets_perm tells placed given
  · intro pod member
    rw [← shown] at member
    exact Inquiry.node?_pod coherent tells placed member
  · rw [← named, answer, Inquiry.node?_hiddenPods coherent tells placed given]
    simp only [none, ite_not]
    split
    · rw [← hidden]
      rfl
    · rfl

theorem answer_showsOwners (included : request.includeWorkloads = true) {pod : Pod}
    (member : pod ∈ (catalog.podsRunningAs request space name).take
      request.maxPodsPerSubject.toNat) :
    ShowsOwners catalog request (answer catalog discovery request).graph pod := by
  have coherent := inquiryFor_coherent catalog discovery request
  have tells : (inquiryFor catalog discovery request).TellsApart := apart.inquiry
  obtain ⟨account, placed, given, rfl, rfl⟩ := reaches.exists_placed pods
  rw [← shownPods_inquiryFor given apart] at member
  have alsoIncluded := (includeWorkloads_inquiryFor catalog discovery request).trans included
  have hidden : (inquiryFor catalog discovery request).hiddenWorkloads pod = _ :=
    hiddenWorkloads_inquiryFor pod
  have none : (inquiryFor catalog discovery request).hiddenWorkloads pod = 0 ↔
      ¬ request.maxWorkloadsPerPod.toNat < (catalog.ownersOf pod).length := by
    rw [hidden, Nat.sub_eq_zero_iff_le, Nat.not_lt]
  have path : (inquiryFor catalog discovery request).chainIds pod =
      catalog.ownerPath request pod := chainIds_inquiryFor pod
  constructor
  · intro owned owner next
    rw [← path] at next
    exact Inquiry.owned_mem_edgeIdsOf placed member alsoIncluded next
  · rw [answer, Inquiry.node?_hiddenWorkloads coherent tells placed alsoIncluded member]
    simp only [none, ite_not]
    split
    · rw [← hidden]
      rfl
    · rfl
  · intro more
    simp only [← path]
    apply Inquiry.hiddenOwner_mem_edgeIdsOf placed member alsoIncluded
    rw [Ne, none, not_not]
    exact more

end

end Catalog

/-- If pods are asked for and ids tell them apart, the graph of an answer accounts for every pod of
every service account that is reached. -/
theorem query_accounts_for_pods {request : Request} (valid : request.validate = .ok ())
    (pods : request.includePods = true ∨ request.includeWorkloads = true) {catalog : Catalog}
    (apart : catalog.TellsPodsApart) (discovery : Option Discovery) :
    ∃ response, query catalog discovery request = .ok response ∧
      catalog.AccountsForPods discovery request response.graph := by
  refine ⟨_, query_of_valid valid catalog discovery, ?_⟩
  constructor
  · intro space name reaches
    exact Catalog.answer_showsPods apart pods reaches
  · intro included space name reaches pod member
    exact Catalog.answer_showsOwners apart pods reaches included member
  · intro edge present
    have tells : (inquiryFor catalog discovery request).TellsApart := apart.inquiry
    obtain ⟨account, placed, link, name, leaves⟩ := (Inquiry.mem_edgesOf_runsAs tells).mp present
    refine ⟨_, _, Catalog.reachesAccount_of_placed placed leaves.isPlaced, ?_⟩
    rw [leaves.source, Inquiry.nodeId_of_placed placed leaves.isPlaced]

/-- The robot has another pod, which has ended, and one more pod names no service account. -/
def idleCatalog : Catalog :=
  { crowdedCatalog with
    bindings :=
      [⟨.clusterRoleBinding, "robots", none, ⟨.clusterRole, "blue"⟩,
        [⟨.serviceAccount, "robot", some "team"⟩, ⟨.serviceAccount, "default", some "team"⟩]⟩]
    pods := crowdedCatalog.pods ++
      [⟨"3", "team", "ended", .succeeded, "robot", []⟩,
        ⟨"4", "team", "nameless", .pending, " ", []⟩] }

/-- Of the two pods in which the robot runs one is hidden. The pod that names no service account is
shown with the one that is meant then. -/
theorem query_accounts_for_pods_idleCatalog : onePodRequest.validate = .ok () ∧
    (onePodRequest.includePods = true ∨ onePodRequest.includeWorkloads = true) ∧
    idleCatalog.TellsPodsApart ∧
    ∃ response, query idleCatalog none onePodRequest = .ok response ∧
      idleCatalog.AccountsForPods none onePodRequest response.graph ∧
      (response.graph.node? (podOverflowNodeId (accountNodeId "team" "robot"))).map (·.kind) =
        some (.podOverflow 1) ∧
      ((response.graph.edgesOf .runsAs).filter (·.source == accountNodeId "team" "default")).map
        (·.target) = [podNodeId "team" "nameless"] := by
  have valid : onePodRequest.validate = .ok () := rfl
  have apart : idleCatalog.TellsPodsApart := by
    constructor <;> decide
  obtain ⟨response, answered, accounts⟩ :=
    query_accounts_for_pods valid (.inl rfl) apart none
  have answers : idleCatalog.Answered none onePodRequest "clusterrole:blue" := by
    refine ⟨idleCatalog.bundles[0], by decide, .inl (by decide), ?_, ?_⟩
    · exact Catalog.exists_offers_of_any (by decide +kernel)
    · intro _ strict
      exact absurd strict (by decide)
  have binds : idleCatalog.Binds none onePodRequest idleCatalog.bindings[0] "clusterrole:blue" :=
    ⟨by decide, by decide, answers, by decide⟩
  have robot : idleCatalog.ReachesAccount none onePodRequest "team" "robot" :=
    ⟨idleCatalog.bindings[0], "clusterrole:blue", binds, ⟨.serviceAccount, "robot", some "team"⟩,
      by decide, rfl, by decide +kernel, rfl, by decide⟩
  have nameless : idleCatalog.ReachesAccount none onePodRequest "team" "default" :=
    ⟨idleCatalog.bindings[0], "clusterrole:blue", binds, ⟨.serviceAccount, "default", some "team"⟩,
      by decide, rfl, by decide +kernel, rfl, by decide⟩
  have two : (idleCatalog.podsRunningAs onePodRequest "team" "robot").length = 2 := by
    rw [Catalog.podsRunningAs, List.length_mergeSort]
    decide +kernel
  have one : idleCatalog.podsRunningAs onePodRequest "team" "default" =
      [⟨"4", "team", "nameless", .pending, " ", []⟩] := by
    have filtered : (idleCatalog.pods.filter fun pod => pod.namespaceName == "team" &&
        pod.serviceAccount == "default" && pod.phase.matches onePodRequest.podPhaseMode) =
          [⟨"4", "team", "nameless", .pending, " ", []⟩] := by
      decide +kernel
    rw [Catalog.podsRunningAs, filtered, List.mergeSort_singleton]
  refine ⟨valid, .inl rfl, apart, response, answered, accounts, ?_, ?_⟩
  · rw [(accounts.pods _ _ robot).hidden, two]
    decide
  · have targets := (accounts.pods _ _ nameless).targets
    rw [one] at targets
    exact List.perm_singleton.mp targets

end AccessGraph
