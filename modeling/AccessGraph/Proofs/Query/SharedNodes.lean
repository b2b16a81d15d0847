/-
This file says what shares a node in an answer: workloads that are known by the same, and grants of what
is known by the same.
-/

import AccessGraph.Proofs.Query.Inheritance
import AccessGraph.Proofs.Query.NodeIds
import AccessGraph.Proofs.Query.OwnerChain
import AccessGraph.Proofs.Query.PodAccounting
import AccessGraph.Proofs.Query.Recount

namespace AccessGraph

namespace Catalog

section

variable (catalog : Catalog) (discovery : Option Discovery) (request : Request)

/-- The first pods of a service account that a request accepts, as many as it wants. -/
def acceptedPods (space name : String) : List Pod :=
  (((CatalogIndex.of catalog).podsFor space name).filter
    (·.phase.matches request.podPhaseMode)).take request.maxPodsPerSubject.toNat

/-- A workload is shown among the owners of a pod that is shown for an account that is reached. -/
def ShowsWorkload (workload : Workload) : Prop :=
  ∃ space name, ReachesAccount catalog discovery request space name ∧
    ∃ pod ∈ acceptedPods catalog request space name,
      workload ∈ (catalog.ownersOf pod).take request.maxWorkloadsPerPod.toNat

/-- The workloads of an answer are those that are shown, one for each id. Where no separator stands in
their parts, they share an id when they are known by the same. -/
structure TellsWorkloads (response : Response) : Prop where
  known : ∀ workload, ShowsWorkload catalog discovery request workload →
    ∃ other, ShowsWorkload catalog discovery request other ∧
      Inquiry.workloadNode other ∈ response.graph.nodes ∧
      Inquiry.workloadId other = Inquiry.workloadId workload
  noOthers : ∀ node ∈ response.graph.nodes, node.kind.name = "workload" →
    ∃ workload, ShowsWorkload catalog discovery request workload ∧
      node = Inquiry.workloadNode workload
  apart : ∀ first second, ShowsWorkload catalog discovery request first →
    ShowsWorkload catalog discovery request second →
    first.identity.IsPlain → second.identity.IsPlain →
    (Inquiry.workloadId first = Inquiry.workloadId second ↔ first.identity = second.identity)
  counted : (∀ workload, ShowsWorkload catalog discovery request workload →
      workload.identity.IsPlain) →
    (response.matchedWorkloads : ℕ∞) =
      {identity | ∃ workload, ShowsWorkload catalog discovery request workload ∧
        workload.identity = identity}.encard

end

section

variable {catalog : Catalog} {discovery : Option Discovery} {request : Request}

theorem shownPods_eq_acceptedPods {account : ServiceAccount}
    (given : (inquiryFor catalog discovery request).isPlaced account = true) :
    (inquiryFor catalog discovery request).shownPods account =
      acceptedPods catalog request account.namespaceName account.name := by
  rw [Inquiry.shownPods, Inquiry.podsOf, if_pos given, request_inquiryFor]
  rfl

theorem shownWorkloads_inquiryFor (pod : Pod) :
    (inquiryFor catalog discovery request).shownWorkloads pod =
      (catalog.ownersOf pod).take request.maxWorkloadsPerPod.toNat := by
  rw [Inquiry.shownWorkloads, maxWorkloadsPerPod_inquiryFor]
  rfl

theorem showsWorkload_iff (included : request.includeWorkloads = true) {workload : Workload} :
    ShowsWorkload catalog discovery request workload ↔
      ∃ account ∈ (inquiryFor catalog discovery request).placedAccounts
          (inquiryFor catalog discovery request).reached,
        ∃ pod ∈ (inquiryFor catalog discovery request).shownPods account,
          workload ∈ (inquiryFor catalog discovery request).shownWorkloads pod := by
  constructor
  · intro shows
    obtain ⟨space, name, reaches, pod, accepted, owner⟩ := shows
    obtain ⟨account, placed, given, rfl, rfl⟩ := reaches.exists_placed (.inr included)
    rw [← shownPods_eq_acceptedPods given] at accepted
    rw [← shownWorkloads_inquiryFor] at owner
    exact ⟨account, placed, pod, accepted, owner⟩
  · intro given
    obtain ⟨account, placed, pod, shown, owner⟩ := given
    obtain ⟨here, -⟩ := Inquiry.mem_podsOf_iff.mp (List.mem_of_mem_take shown)
    rw [shownPods_eq_acceptedPods here] at shown
    rw [shownWorkloads_inquiryFor] at owner
    exact ⟨_, _, reachesAccount_of_placed placed here, pod, shown, owner⟩

/-- All pods of an account are shown if a request wants as many as there are. -/
theorem mem_acceptedPods_of_few (few : catalog.pods.length ≤ request.maxPodsPerSubject.toNat)
    {space name : String} {pod : Pod} : pod ∈ acceptedPods catalog request space name ↔
      pod ∈ catalog.pods ∧ pod.namespaceName = space ∧ pod.serviceAccount = name ∧
        pod.phase.matches request.podPhaseMode = true := by
  have all : (((CatalogIndex.of catalog).podsFor space name).filter
      (·.phase.matches request.podPhaseMode)).length ≤ request.maxPodsPerSubject.toNat := by
    apply (List.length_filter_le _ _).trans
    rw [CatalogIndex.podsFor, List.length_mergeSort]
    exact (List.length_filter_le _ _).trans few
  rw [acceptedPods, List.take_of_length_le all, CatalogIndex.podsFor]
  simp [CatalogIndex.of, and_assoc]

/-- A workload that is shown stands in the catalog. -/
theorem ShowsWorkload.mem_workloads {workload : Workload}
    (shows : ShowsWorkload catalog discovery request workload) : workload ∈ catalog.workloads := by
  obtain ⟨_, _, -, pod, -, owner⟩ := shows
  have climbs := (OwnerChain.of_resolves catalog pod).climbs
  exact List.mem_of_find?_eq_some (climbs.known workload (List.mem_of_mem_take owner)).2

end

end Catalog

section

variable {catalog : Catalog} {discovery : Option Discovery} {request : Request}

theorem mem_workloadIds_inquiryFor (included : request.includeWorkloads = true) {id : String} :
    id ∈ (inquiryFor catalog discovery request).workloadIds
        ((inquiryFor catalog discovery request).placedAccounts
          (inquiryFor catalog discovery request).reached) ↔
      ∃ workload, Catalog.ShowsWorkload catalog discovery request workload ∧
        workload.identity.nodeId = id := by
  simp only [Inquiry.mem_workloadIds_iff, includeWorkloads_inquiryFor, included, true_and,
    Catalog.showsWorkload_iff included, Workload.nodeId_identity]
  grind

/-- Workloads are counted by the ids of their nodes. -/
theorem matchedWorkloads_answer (included : request.includeWorkloads = true) :
    ((answer catalog discovery request).matchedWorkloads : ℕ∞) =
      {id | ∃ workload, Catalog.ShowsWorkload catalog discovery request workload ∧
        workload.identity.nodeId = id}.encard := by
  simp only [← mem_workloadIds_inquiryFor included]
  exact encard_eq_length (Inquiry.workloadIds_nodup _)

/-- Every node of a workload in an answer is that of one that is shown. -/
theorem exists_workload_of_mem_nodes (included : request.includeWorkloads = true) {node : Node}
    (present : node ∈ (answer catalog discovery request).graph.nodes)
    (kind : node.kind.name = "workload") :
    ∃ workload, Catalog.ShowsWorkload catalog discovery request workload ∧
      node = Inquiry.workloadNode workload := by
  have lane : node.kind.lane = .workloads := by
    cases form : node.kind <;> simp [form, NodeKind.name] at kind
    rfl
  obtain ⟨account, placed, brought⟩ := Inquiry.exists_account_of_mem_nodes present (.inr lane)
  cases brought with
  | @workload pod workload shown _ owner =>
      exact ⟨workload, (Catalog.showsWorkload_iff included).mpr
        ⟨account, placed, pod, shown, owner⟩, rfl⟩
  | pod => cases lane
  | hiddenWorkloads => simp [Inquiry.hiddenWorkloadsNode, Node.of, NodeKind.name] at kind
  | hiddenPods => cases lane

theorem answer_tellsWorkloads (included : request.includeWorkloads = true) :
    Catalog.TellsWorkloads catalog discovery request (answer catalog discovery request) := by
  have coherent := inquiryFor_coherent catalog discovery request
  constructor
  · intro workload shows
    have listed := (mem_workloadIds_inquiryFor included).mpr ⟨workload, shows, rfl⟩
    obtain ⟨node, present, kind, named⟩ :=
      (Inquiry.exists_workload_iff coherent (earlyWarnings catalog request)).mpr listed
    obtain ⟨other, alsoShows, rfl⟩ :=
      exists_workload_of_mem_nodes included present (by simpa using kind)
    exact ⟨other, alsoShows, present, named.trans workload.nodeId_identity⟩
  · intro node present kind
    exact exists_workload_of_mem_nodes included present kind
  · intro first second _ _ plain alsoPlain
    rw [← Workload.nodeId_identity, ← Workload.nodeId_identity]
    exact ⟨Workload.Identity.eq_of_nodeId_eq plain alsoPlain, congrArg _⟩
  · intro plain
    have injective : Set.InjOn Workload.Identity.nodeId
        {identity | ∃ workload, Catalog.ShowsWorkload catalog discovery request workload ∧
          workload.identity = identity} := by
      rintro _ ⟨first, shows, rfl⟩ _ ⟨second, alsoShows, rfl⟩ same
      exact Workload.Identity.eq_of_nodeId_eq (plain _ shows) (plain _ alsoShows) same
    rw [matchedWorkloads_answer included, ← injective.encard_image]
    apply congrArg Set.encard
    ext id
    constructor
    · rintro ⟨workload, shows, rfl⟩
      exact ⟨_, ⟨workload, shows, rfl⟩, rfl⟩
    · rintro ⟨_, ⟨workload, shows, rfl⟩, rfl⟩
      exact ⟨workload, shows, rfl⟩

end

/-- What a permission says holds of a grant, but that it may be one on a resource where the grant is one
on a URL of that name, or the other way round. -/
structure PermissionDetails.Describes (details : PermissionDetails) (grant : RuleRef) : Prop where
  apiGroup : details.apiGroup = grant.permission.apiGroup
  resource : details.resource = grant.permission.resource
  verb : details.verb = grant.permission.verb
  phantom : details.nonResource = grant.isNonResource → details.phantom = grant.phantom

namespace Graph

/-- Nodes that have few ids are few. -/
theorem countOf_le {graph : Graph} (differ : graph.nodeIds.Nodup) {names : List String}
    (ids : List String)
    (within : ∀ node ∈ graph.nodes, names.contains node.kind.name = true → node.id ∈ ids) :
    graph.countOf names ≤ ids.length := by
  have once : ((graph.nodes.filter (names.contains ·.kind.name)).map (·.id)).Nodup :=
    differ.sublist (List.filter_sublist.map _)
  have shorter : ((graph.nodes.filter (names.contains ·.kind.name)).map (·.id)).length ≤
      ids.length := by
    apply once.length_le_of_subset
    intro id member
    obtain ⟨node, kept, rfl⟩ := List.mem_map.mp member
    obtain ⟨present, named⟩ := List.mem_filter.mp kept
    exact within node present named
  rwa [List.length_map, ← List.countP_eq_length_filter] at shorter

/-- Some role of a graph shows a grant. -/
def ShowsGrant (graph : Graph) (grant : RuleRef) : Prop :=
  ∃ role ∈ graph.nodes, grant ∈ role.grants

/-- Every role of a graph leads to one permission for each of its grants, and each permission is that of
some grant. Where no separator stands in their parts, grants share a permission when they are known by
the same, and then it describes all of them. -/
structure TellsPermissions (graph : Graph) : Prop where
  linked : ∀ role ∈ graph.nodes, ∀ grant ∈ role.grants, ∃ node ∈ graph.nodes,
    node.id = (Inquiry.permissionNode grant).id ∧
      edgeId role.id node.id .permits ∈ graph.edgeIds ∧
      ∃ details, node.kind = .permission details ∧
        ((∀ other, graph.ShowsGrant other → (Inquiry.permissionNode other).id = node.id →
            other.identity.IsPlain) →
          details.Describes grant)
  noOthers : ∀ node ∈ graph.nodes, node.kind.name = "permission" →
    ∃ grant, graph.ShowsGrant grant ∧ node = Inquiry.permissionNode grant
  apart : ∀ first second, graph.ShowsGrant first → graph.ShowsGrant second →
    first.identity.IsPlain → second.identity.IsPlain →
    ((Inquiry.permissionNode first).id = (Inquiry.permissionNode second).id ↔
      first.identity = second.identity)

end Graph

theorem RuleRef.nonResource_permission (grant : RuleRef) :
    grant.permission.nonResource = grant.isNonResource := by
  unfold permission
  split
  · exact (Bool.eq_true_of_not_eq_false (by simpa using ‹_›)).symm
  · exact (Bool.eq_false_of_not_eq_true ‹_›).symm

namespace Inquiry

variable {inquiry : Inquiry} {earlier : List String}

/-- Grants that are shown of what is known by the same are marked alike. -/
theorem phantom_eq_of_mem_refs {reached other : Reached} (member : reached ∈ inquiry.reached)
    (alsoMember : other ∈ inquiry.reached) {first second : RuleRef} (shown : first ∈ reached.refs)
    (alsoShown : second ∈ other.refs) (same : first.identity = second.identity)
    (alike : first.isNonResource = second.isNonResource) : first.phantom = second.phantom := by
  obtain ⟨found, matched, key, source⟩ :=
    exists_found_of_mem_refs (mem_reached_iff.mp member) shown
  obtain ⟨further, alsoMatched, alsoKey, alsoSource⟩ :=
    exists_found_of_mem_refs (mem_reached_iff.mp alsoMember) alsoShown
  have marks : found.phantom = further.phantom := by
    apply Matcher.phantom_eq_of_identity_eq matched alsoMatched
    · rw [RuleRef.identity_eq_of_key_eq key, RuleRef.identity_eq_of_key_eq alsoKey, same]
    · rw [RuleRef.isNonResource_eq_of_key_eq key, RuleRef.isNonResource_eq_of_key_eq alsoKey, alike]
  rw [← (RuleRef.sameButForSource_iff.mpr source).phantom,
    ← (RuleRef.sameButForSource_iff.mpr alsoSource).phantom, marks]

/-- A grant that a bundle is reached for is shown by some role, if perhaps with another source. -/
theorem exists_grant_of_mem_refs (coherent : inquiry.Coherent) {reached : Reached}
    (member : reached ∈ inquiry.reached) {grant : RuleRef} (selected : grant ∈ reached.refs) :
    ∃ other, (inquiry.response earlier).graph.ShowsGrant other ∧
      other.permission = grant.permission ∧ other.phantom = grant.phantom := by
  obtain ⟨role, present, isRole, named⟩ := exists_role_of_reached coherent earlier member
  have held := (mem_grantKeys_response (node?_response_of_mem present) isRole).mpr
    ⟨reached, member, named.symm, List.mem_map_of_mem selected⟩
  rw [Node.grantKeys_eq_map] at held
  obtain ⟨other, shown, key⟩ := List.mem_map.mp held
  obtain ⟨further, alsoMember, -, alsoSelected⟩ := exists_reached_of_mem_grants present shown
  have marks := phantom_eq_of_mem_refs alsoMember member alsoSelected selected
    (RuleRef.identity_eq_of_key_eq key) (RuleRef.isNonResource_eq_of_key_eq key)
  exact ⟨other, ⟨role, present, shown⟩, RuleRef.permission_eq_of_key_eq key, marks⟩

/-- Every permission of an answer is that of a grant that a bundle is reached for. -/
theorem exists_refs_of_permission {node : Node}
    (present : node ∈ (inquiry.response earlier).graph.nodes)
    (kind : node.kind.name = "permission") :
    ∃ reached ∈ inquiry.reached, ∃ grant ∈ reached.refs, node = permissionNode grant := by
  obtain ⟨added, brought, same⟩ := exists_brought_of_mem_nodes present
  have lane : node.kind.lane = .permissions := by
    cases form : node.kind <;> simp [form, NodeKind.name] at kind
    rfl
  have alsoLane : added.kind.lane = .permissions :=
    (congrArg (·.2.1) (Node.sort_eq_of_bare_eq same)).trans lane
  have plain : node.isRole = false := by
    rw [← Bool.not_eq_true, Node.isRole_iff_lane, lane]
    decide
  rw [Node.bare_of_plain plain] at same
  rcases brought with ⟨reached, member, brought⟩ | ⟨account, -, brought⟩
  · cases brought with
    | @permission grant included selected => exact ⟨reached, member, grant, selected, same.symm⟩
    | role | source => simp [roleNode_lane] at alsoLane
    | binding => simp [bindingNode_lane] at alsoLane
    | subject | relation => cases alsoLane
  · cases brought <;> cases alsoLane

theorem response_tellsPermissions (coherent : inquiry.Coherent)
    (included : inquiry.request.includePermissions = true) :
    (inquiry.response earlier).graph.TellsPermissions := by
  have noOthers {node : Node} (present : node ∈ (inquiry.response earlier).graph.nodes)
      (kind : node.kind.name = "permission") :
      ∃ grant, (inquiry.response earlier).graph.ShowsGrant grant ∧ node = permissionNode grant := by
    obtain ⟨reached, member, grant, selected, rfl⟩ := exists_refs_of_permission present kind
    obtain ⟨other, shows, same, alike⟩ := exists_grant_of_mem_refs coherent member selected
    exact ⟨other, shows, by rw [permissionNode, permissionNode, same, alike]⟩
  constructor
  · intro role present grant shown
    obtain ⟨reached, member, named, selected⟩ := exists_reached_of_mem_grants present shown
    obtain ⟨node, alsoPresent, sameId⟩ := List.mem_map.mp ((mem_nodeIds_response earlier).mpr
      ⟨_, .inl ⟨reached, member, .permission included selected⟩, rfl⟩)
    have sort := Node.sort_eq_of_id_eq (isLabelled_of_mem_nodes coherent alsoPresent)
      (permissionNode_isLabelled grant) sameId
    -- The first grant with an id gives the node its details, and it may be another one.
    obtain ⟨other, ⟨holder, holds, alsoShown⟩, rfl⟩ := noOthers alsoPresent (congrArg (·.1) sort)
    obtain ⟨further, alsoMember, -, alsoSelected⟩ := exists_reached_of_mem_grants holds alsoShown
    refine ⟨_, alsoPresent, sameId, ?_, _, rfl, ?_⟩
    · rw [sameId]
      exact (mem_edgeIds_response earlier).mpr
        ⟨_, .inl ⟨reached, member, .permits included selected⟩, named ▸ rfl⟩
    · intro plain
      have same : other.identity = grant.identity := by
        apply RuleRef.Identity.eq_of_nodeId_eq (plain other ⟨holder, holds, alsoShown⟩ rfl)
          (plain grant ⟨role, present, shown⟩ sameId.symm)
        rw [RuleRef.nodeId_identity, RuleRef.nodeId_identity, sameId]
      refine ⟨congrArg (·.apiGroup) same, congrArg (·.resource) same, congrArg (·.verb) same, ?_⟩
      intro alike
      exact phantom_eq_of_mem_refs alsoMember member alsoSelected selected same
        (other.nonResource_permission.symm.trans alike)
  · intro node present kind
    exact noOthers present kind
  · intro first second _ _ plain alsoPlain
    rw [← RuleRef.nodeId_identity, ← RuleRef.nodeId_identity]
    exact ⟨RuleRef.Identity.eq_of_nodeId_eq plain alsoPlain, congrArg _⟩

end Inquiry

/-- In every answer workloads share a node when they are known by the same, and so do grants, where no
separator stands in the parts of their ids. -/
theorem query_shares_nodes {request : Request} (valid : request.validate = .ok ())
    (workloads : request.includeWorkloads = true) (permissions : request.includePermissions = true)
    (catalog : Catalog) (discovery : Option Discovery) :
    ∃ response, query catalog discovery request = .ok response ∧
      catalog.TellsWorkloads discovery request response ∧ response.graph.TellsPermissions := by
  have coherent := inquiryFor_coherent catalog discovery request
  have included := (includePermissions_inquiryFor catalog discovery request).trans permissions
  exact ⟨_, query_of_valid valid catalog discovery, answer_tellsWorkloads workloads,
    Inquiry.response_tellsPermissions coherent included⟩

/-- Who may do something to pods, and where do they run? -/
def everythingRequest : Request :=
  { Request.standard with includePods := true, includeWorkloads := true, includePermissions := true }

/-- The job that the robot runs in is counted once for both of its pods, and so is the permission of
the robot described. -/
theorem query_shares_nodes_crowdedCatalog : everythingRequest.validate = .ok () ∧
    everythingRequest.includeWorkloads = true ∧ everythingRequest.includePermissions = true ∧
    ∃ response, query crowdedCatalog none everythingRequest = .ok response ∧
      crowdedCatalog.ShowsWorkload none everythingRequest
        ⟨"9", "batch/v1", "Job", "team", "work", []⟩ ∧
      (response.matchedWorkloads : ℕ∞) =
        {identity | ∃ workload, crowdedCatalog.ShowsWorkload none everythingRequest workload ∧
          workload.identity = identity}.encard ∧
      ∃ grant, response.graph.ShowsGrant grant ∧ grant.identity = ⟨"", "pods", "get"⟩ ∧
        ∃ node ∈ response.graph.nodes, ∃ details, node.kind = .permission details ∧
          details.Describes grant := by
  have valid : everythingRequest.validate = .ok () := rfl
  obtain ⟨response, answered, workloads, permissions⟩ :=
    query_shares_nodes valid rfl rfl crowdedCatalog none
  have coherent := inquiryFor_coherent crowdedCatalog none everythingRequest
  obtain rfl := (eq_answer_of_query answered).2
  have plainWorkloads : ∀ workload ∈ crowdedCatalog.workloads, workload.identity.IsPlain := by
    decide +kernel
  have plainGrants : ∀ reached ∈ (inquiryFor crowdedCatalog none everythingRequest).reached,
      ∀ grant ∈ reached.refs, grant.identity.IsPlain := by
    decide +kernel
  have bound : ∃ reached ∈ (inquiryFor crowdedCatalog none everythingRequest).reached,
      reached.id = "clusterrole:blue" ∧ crowdedCatalog.bindings[0] ∈ reached.bindings ∧
        ∃ grant ∈ reached.refs, grant.identity = ⟨"", "pods", "get"⟩ := by
    decide +kernel
  obtain ⟨reached, member, named, granted, grant, selected, about⟩ := bound
  refine ⟨valid, rfl, rfl, _, answered, ?_, workloads.counted ?_, ?_⟩
  · have reaches : crowdedCatalog.ReachesAccount none everythingRequest "team" "robot" :=
      ⟨_, _, Catalog.binds_iff.mpr ⟨reached, member, named, granted⟩,
        ⟨.serviceAccount, "robot", some "team"⟩, by decide, rfl, by decide +kernel, rfl, by decide⟩
    refine ⟨_, _, reaches, crowdedCatalog.pods[0], ?_, by decide +kernel⟩
    exact (Catalog.mem_acceptedPods_of_few (by decide)).mpr ⟨by decide, rfl, rfl, rfl⟩
  · intro workload shows
    exact plainWorkloads workload shows.mem_workloads
  · obtain ⟨other, ⟨role, present, shown⟩, same, -⟩ :=
      Inquiry.exists_grant_of_mem_refs coherent member selected
    obtain ⟨node, alsoPresent, -, -, details, kind, describes⟩ :=
      permissions.linked role present other shown
    refine ⟨other, ⟨role, present, shown⟩, ?_, node, alsoPresent, details, kind, describes ?_⟩
    · rw [← about, RuleRef.identity, RuleRef.identity, same]
    · intro further shows _
      obtain ⟨holder, holds, alsoShown⟩ := shows
      obtain ⟨source, alsoMember, -, alsoSelected⟩ :=
        Inquiry.exists_reached_of_mem_grants holds alsoShown
      exact plainGrants source alsoMember further alsoSelected

/-- Robots run in four workloads. Two of these differ in their versions alone, and the other two are
named alike when their parts are joined; and so are two of the permissions. -/
def twinCatalog : Catalog where
  bundles :=
    [⟨.clusterRole, "reader", none, .empty, .empty,
      [⟨[""], ["*"], ["get"], [], []⟩, ⟨[], [], ["get"], [], ["*"]⟩,
        ⟨["apps|v1"], ["jobs"], ["get"], [], []⟩, ⟨["apps"], ["v1|jobs"], ["get"], [], []⟩], none⟩]
  bindings :=
    [⟨.clusterRoleBinding, "readers", none, ⟨.clusterRole, "reader"⟩,
      [⟨.serviceAccount, "robot", some "team"⟩]⟩]
  pods := ["1", "2", "3", "4"].map fun uid =>
    ⟨"pod-" ++ uid, "team", "work-" ++ uid, .running, "robot", [⟨uid, "", "work", "", true⟩]⟩
  workloads :=
    [⟨"1", "apps/v1", "Deployment", "team", "work", []⟩,
      ⟨"2", "extensions/v1beta1", "Deployment", "team", "work", []⟩,
      ⟨"3", "batch/v1", "Job:team", "x", "work", []⟩,
      ⟨"4", "batch/v1", "Job", "team:x", "work", []⟩]

/-- The permissions of the reader: each two of them share an id. -/
def twinPermissions : List RuleRef.Permission :=
  [⟨"", "*", "get", false⟩, ⟨"", "*", "get", true⟩, ⟨"apps|v1", "jobs", "get", false⟩,
    ⟨"apps", "v1|jobs", "get", false⟩]

/-- Different workloads share a node and are counted as one, and so do different grants share one: they
need not even be known by the same. -/
theorem nodes_shared_in_twinCatalog : everythingRequest.validate = .ok () ∧
    ∃ response, query twinCatalog none everythingRequest = .ok response ∧
      (∀ workload ∈ twinCatalog.workloads,
        twinCatalog.ShowsWorkload none everythingRequest workload) ∧
      (twinCatalog.workloads.map (·.uid)).Nodup ∧
      twinCatalog.workloads.map Inquiry.workloadId =
        ["workload:deployment:team/work", "workload:deployment:team/work",
          "workload:job:team:x/work", "workload:job:team:x/work"] ∧
      response.matchedWorkloads ≤ 2 ∧ response.graph.countOf ["workload"] ≤ 2 ∧
      (∀ permission ∈ twinPermissions, ∃ grant, response.graph.ShowsGrant grant ∧
        grant.permission = permission) ∧
      twinPermissions.Nodup ∧
      twinPermissions.map (fun permission => permissionNodeId permission.apiGroup
          permission.resource permission.verb) =
        ["permission:|*|get", "permission:|*|get", "permission:apps|v1|jobs|get",
          "permission:apps|v1|jobs|get"] ∧
      response.graph.countOf ["permission"] ≤ 2 := by
  have coherent := inquiryFor_coherent twinCatalog none everythingRequest
  have found : ∃ reached ∈ (inquiryFor twinCatalog none everythingRequest).reached,
      reached.id = "clusterrole:reader" ∧ twinCatalog.bindings[0] ∈ reached.bindings ∧
      ∀ permission ∈ twinPermissions, ∃ grant ∈ reached.refs, grant.permission = permission := by
    decide +kernel
  obtain ⟨reached, member, named, bound, selected⟩ := found
  have reaches : twinCatalog.ReachesAccount none everythingRequest "team" "robot" :=
    ⟨_, _, Catalog.binds_iff.mpr ⟨reached, member, named, bound⟩,
      ⟨.serviceAccount, "robot", some "team"⟩, by decide, rfl, by decide +kernel, rfl, by decide⟩
  have shows : ∀ workload ∈ twinCatalog.workloads,
      twinCatalog.ShowsWorkload none everythingRequest workload := by
    have owned : ∀ workload ∈ twinCatalog.workloads, ∃ pod ∈ twinCatalog.pods,
        pod.namespaceName = "team" ∧ pod.serviceAccount = "robot" ∧
          pod.phase.matches everythingRequest.podPhaseMode = true ∧
          workload ∈ (twinCatalog.ownersOf pod).take everythingRequest.maxWorkloadsPerPod.toNat := by
      decide +kernel
    intro workload listed
    obtain ⟨pod, runs, home, account, phase, owner⟩ := owned workload listed
    exact ⟨_, _, reaches, pod, (Catalog.mem_acceptedPods_of_few (by decide)).mpr
      ⟨runs, home, account, phase⟩, owner⟩
  have grants : ∀ permission ∈ twinPermissions, ∃ grant,
      (answer twinCatalog none everythingRequest).graph.ShowsGrant grant ∧
        grant.permission = permission := by
    intro permission listed
    obtain ⟨grant, here, same⟩ := selected permission listed
    obtain ⟨other, shown, alike, -⟩ := Inquiry.exists_grant_of_mem_refs coherent member here
    exact ⟨other, shown, alike.trans same⟩
  have differ := (answer_wellFormed twinCatalog none everythingRequest).distinctNodes
  have workloadNodes : (answer twinCatalog none everythingRequest).graph.countOf ["workload"] ≤ 2 := by
    have ids : ∀ workload ∈ twinCatalog.workloads, Inquiry.workloadId workload ∈
        ["workload:deployment:team/work", "workload:job:team:x/work"] := by
      decide +kernel
    apply Graph.countOf_le differ ["workload:deployment:team/work", "workload:job:team:x/work"]
    intro node present kind
    obtain ⟨workload, shown, rfl⟩ := exists_workload_of_mem_nodes rfl present (by simpa using kind)
    exact ids workload shown.mem_workloads
  have permissionNodes :
      (answer twinCatalog none everythingRequest).graph.countOf ["permission"] ≤ 2 := by
    have ids : ∀ reached ∈ (inquiryFor twinCatalog none everythingRequest).reached,
        ∀ grant ∈ reached.refs, (Inquiry.permissionNode grant).id ∈
          ["permission:|*|get", "permission:apps|v1|jobs|get"] := by
      decide +kernel
    apply Graph.countOf_le differ ["permission:|*|get", "permission:apps|v1|jobs|get"]
    intro node present kind
    obtain ⟨reached, alsoMember, grant, shown, rfl⟩ :=
      Inquiry.exists_refs_of_permission present (by simpa using kind)
    exact ids reached alsoMember grant shown
  have counted := (Inquiry.response_countsItsGraph coherent
    (earlyWarnings twinCatalog everythingRequest)).workloads
  exact ⟨rfl, _, query_of_valid rfl twinCatalog none, shows, by decide, by decide +kernel,
    counted.trans_le workloadNodes, workloadNodes, grants, by decide, by decide, permissionNodes⟩

end AccessGraph
