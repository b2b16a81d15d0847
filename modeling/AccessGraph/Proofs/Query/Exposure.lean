/-
This file says that nothing from outside the scope of a request is shown: neither what lives in
other namespaces, nor, in a strict scope, what is granted to nobody in those that it names.
-/

import AccessGraph.Proofs.Query.Counts
import AccessGraph.Proofs.Query.Reachability

namespace AccessGraph

/-- Nodes of these kinds are shown for the namespace that they live in. Workloads are not, as they
may own pods of other namespaces, and neither are subjects, as bindings may target any. -/
def NodeKind.isNamespaced : NodeKind → Bool
  | .role _ | .roleBinding | .pod _ | .podOverflow _ | .workloadOverflow _ => true
  | _ => false

theorem NodeKind.isNamespaced_eq_of_sort_eq {first second : NodeKind}
    (same : first.sort = second.sort) : first.isNamespaced = second.isNamespaced := by
  have named := NodeKind.name_eq_of_sort_eq same
  revert named
  cases first <;> cases second <;> simp [name, isNamespaced]

/-- A node of one of these kinds lives in a namespace that the scope names. -/
def Scope.Holds (scope : Scope) (node : Node) : Prop :=
  node.kind.isNamespaced = true → ∃ space, node.namespaceName = some space ∧ scope.Names space

/-- A subject is a service account of a namespace that the scope names. -/
structure Scope.Hosts (scope : Scope) (subject : Subject) (binding : Binding) : Prop where
  isServiceAccount : subject.isServiceAccount = true
  named : ∃ space, subject.space binding = some space ∧ scope.Names space

namespace Catalog

/-- A graph shows nothing from outside the scope of a request. Pods hang on accounts of the
namespaces in scope, and a strict scope shows cluster bindings for such accounts alone, and grants
only of cluster roles that some binding in the graph grants. -/
structure Encloses (catalog : Catalog) (discovery : Option Discovery) (request : Request)
    (graph : Graph) : Prop where
  nodes : ∀ node ∈ graph.nodes, (Scope.of request.namespaceScope).Holds node
  accounts : ∀ edge ∈ graph.edgesOf .runsAs, ∃ binding target,
    Binds catalog discovery request binding target ∧ ∃ subject ∈ binding.subjects,
      (Scope.of request.namespaceScope).Hosts subject binding ∧
        subjectNodeId subject (subject.space binding) = edge.source
  bindings : (Scope.of request.namespaceScope).isStrict = true →
    ∀ node ∈ graph.nodes, node.kind = .clusterRoleBinding →
      ∃ binding ∈ catalog.bindings, binding.id = node.id ∧ binding.isClusterScoped = true ∧
        ∃ subject ∈ binding.subjects, (Scope.of request.namespaceScope).Hosts subject binding
  roles : (Scope.of request.namespaceScope).isStrict = true →
    ∀ node ∈ graph.nodes, ∀ details, node.kind = .clusterRole details →
      details.matchedRuleRefs ≠ [] →
        ∃ binding ∈ catalog.bindings, binding.bundleId? = some node.id ∧
          binding.id ∈ graph.nodeIdsIn .bindings

end Catalog

/-- The namespace of a subject is given by the subject or by the binding. -/
theorem Subject.exists_given_of_space {subject : Subject} {binding : Binding} {space : String}
    (lives : subject.space binding = some space) :
    ∃ namespaceName, givenNamespace namespaceName = some space := by
  have account : (givenNamespace subject.namespaceName).or binding.space = some space := by
    unfold Subject.space at lives
    cases kind : subject.kind <;> simp_all
  rcases Option.or_eq_some_iff.mp account with own | ⟨-, inherited⟩
  · exact ⟨_, own⟩
  · exact ⟨_, Binding.givenNamespace_of_space inherited⟩

namespace Scope

section

variable {scope : Scope} (active : scope.isActive = true)

include active

/-- What an active scope allows of the given namespaces is what it names. -/
theorem names_of_allowsNamespace {namespaceName : Option String} {space : String}
    (given : givenNamespace namespaceName = some space)
    (allowed : scope.allowsNamespace space = true) : scope.Names space := by
  rcases (allowsNamespace_of_given_iff given).mp allowed with inactive | named
  · rw [active] at inactive
    cases inactive
  · exact named

/-- Only service accounts have a namespace, so whoever is in scope is hosted. -/
theorem hosts_of_space {subject : Subject} {binding : Binding} {space : String}
    (lives : subject.space binding = some space) (allowed : scope.allowsNamespace space = true) :
    scope.Hosts subject binding := by
  obtain ⟨_, given⟩ := subject.exists_given_of_space lives
  refine ⟨?_, space, lives, names_of_allowsNamespace active given allowed⟩
  unfold Subject.space at lives
  unfold Subject.isServiceAccount
  cases kind : subject.kind <;> simp_all

/-- A role that an active scope allows lives in a namespace that it names. -/
theorem exists_space_of_allowsBundle {bundle : Bundle} (role : bundle.isClusterScoped = false)
    (allowed : scope.allowsBundle bundle = true) :
    ∃ space, bundle.space = some space ∧ scope.Names space := by
  rcases allowsBundle_iff.mp allowed with cluster | inactive | named
  · rw [role] at cluster
    cases cluster
  · rw [active] at inactive
    cases inactive
  · exact named

/-- A binding of a namespace that an active scope allows lives in a namespace that it names. -/
theorem exists_space_of_allowsBinding {binding : Binding}
    (placed : binding.isClusterScoped = false) (allowed : scope.allowsBinding binding = true) :
    ∃ space, binding.space = some space ∧ scope.Names space := by
  unfold allowsBinding at allowed
  simp only [active, placed, Bool.not_true, Bool.false_eq_true, if_false, Bool.not_false,
    if_true, Option.any_eq_true] at allowed
  obtain ⟨space, lives, here⟩ := allowed
  exact ⟨space, lives,
    names_of_allowsNamespace active (Binding.givenNamespace_of_space lives) here⟩

/-- A service account for which pods are looked up in an active scope is hosted. -/
theorem hosts_of_allowsRuntimeSubject {subject : Subject} {binding : Binding}
    (account : subject.isServiceAccount = true)
    (allowed : scope.allowsRuntimeSubject subject binding = true) :
    scope.Hosts subject binding := by
  unfold allowsRuntimeSubject at allowed
  cases lives : subject.space binding with
  | none => simp [lives, account, active] at allowed
  | some space =>
      rw [lives] at allowed
      exact hosts_of_space active lives allowed

end

/-- A strict scope allows a cluster binding only for somebody whom it hosts. -/
theorem exists_hosted_of_strict {scope : Scope} (strict : scope.isStrict = true)
    {binding : Binding} (cluster : binding.isClusterScoped = true)
    (allowed : scope.allowsBinding binding = true) :
    ∃ subject ∈ binding.subjects, scope.Hosts subject binding := by
  obtain ⟨active, always⟩ := Bool.and_eq_true_iff.mp strict
  unfold allowsBinding at allowed
  simp only [active, always, cluster, Bool.not_true, Bool.false_eq_true, if_false,
    List.any_eq_true, Option.any_eq_true] at allowed
  obtain ⟨subject, targeted, space, lives, here⟩ := allowed
  exact ⟨subject, targeted, hosts_of_space active lives here⟩

end Scope

namespace Inquiry

variable {inquiry : Inquiry}

/-- Every node of an answer has the label of its kind. -/
theorem isLabelled_of_mem_nodes (coherent : inquiry.Coherent) {earlier : List String} {node : Node}
    (present : node ∈ (inquiry.response earlier).graph.nodes) : node.IsLabelled := by
  obtain ⟨added, brought, same⟩ := exists_brought_of_mem_nodes present
  obtain ⟨rest, named⟩ := steps_isLabelled coherent _ added (mem_nodes_steps.mpr brought)
  have label : added.kind.label = node.kind.label :=
    congrArg (·.2.2) (Node.sort_eq_of_bare_eq same)
  exact ⟨rest, by rw [← Node.id_eq_of_bare_eq same, named, label]⟩

/-- Behind an account for which pods are looked up stands a subject of a binding that is shown. -/
theorem exists_subject_of_placed {account : ServiceAccount}
    (placed : account ∈ inquiry.placedAccounts inquiry.reached) :
    ∃ reached ∈ inquiry.reached, ∃ binding ∈ reached.bindings, ∃ subject ∈ binding.subjects,
      subject.isServiceAccount = true ∧
      inquiry.scope.allowsRuntimeSubject subject binding = true ∧
      account = ⟨(subject.space binding).getD "", subject.name, subjectId binding subject⟩ := by
  obtain ⟨reached, member, binding, granted, subject, targeted, found⟩ :=
    mem_serviceAccounts.mp (placedAccounts_subset inquiry.reached placed)
  exact ⟨reached, member, binding, granted, subject, targeted,
    serviceAccount?_eq_some_iff.mp found⟩

/-- The pods of an account are those of its namespace that use it. -/
theorem mem_podsOf_iff {account : ServiceAccount} {pod : Pod} :
    pod ∈ inquiry.podsOf account ↔ inquiry.isPlaced account = true ∧ pod ∈ inquiry.index.pods ∧
      pod.namespaceName = account.namespaceName ∧ pod.serviceAccount = account.name ∧
      pod.phase.matches inquiry.request.podPhaseMode = true := by
  unfold podsOf CatalogIndex.podsFor
  cases inquiry.isPlaced account <;> simp [and_assoc]

section

variable (active : inquiry.scope.isActive = true)

include active

theorem names_of_placed {account : ServiceAccount}
    (placed : account ∈ inquiry.placedAccounts inquiry.reached) :
    inquiry.scope.Names account.namespaceName := by
  obtain ⟨_, -, binding, -, subject, -, isAccount, allowed, rfl⟩ :=
    exists_subject_of_placed placed
  obtain ⟨space, lives, named⟩ :=
    (Scope.hosts_of_allowsRuntimeSubject active isAccount allowed).named
  rw [lives]
  exact named

theorem holds_roleNode {bundle : Bundle} (allowed : inquiry.scope.allowsBundle bundle = true)
    (id : String) (refs : List RuleRef) :
    inquiry.scope.Holds (inquiry.roleNode id bundle refs) := by
  unfold Scope.Holds roleNode
  cases kind : bundle.kind with
  | clusterRole =>
      intro namespaced
      cases namespaced
  | role =>
      intro _
      have placed : bundle.isClusterScoped = false := by
        rw [Bundle.isClusterScoped, kind]
        rfl
      exact Scope.exists_space_of_allowsBundle active placed allowed

theorem holds_bindingNode {binding : Binding}
    (allowed : inquiry.scope.allowsBinding binding = true) :
    inquiry.scope.Holds (bindingNode binding) := by
  unfold Scope.Holds bindingNode
  cases placed : binding.isClusterScoped with
  | true =>
      intro namespaced
      cases namespaced
  | false =>
      intro _
      exact Scope.exists_space_of_allowsBinding active placed allowed

/-- What a reached bundle brings is in scope, since the sources of bundles belong to the cluster. -/
theorem ReachNode.held
    (clustered : ∀ target, ∀ source ∈ inquiry.aggregation.sourcesOf target,
      ∀ bundle, inquiry.index.bundles.get? source = some bundle → bundle.isClusterScoped = true)
    {reached : Reached} (reaches : inquiry.Reaches reached) {node : Node}
    (brought : ReachNode inquiry reached node) : inquiry.scope.Holds node := by
  cases brought with
  | role => exact holds_roleNode active reaches.inScope _ _
  | binding granted =>
      rw [reaches.bindings, List.mem_filter] at granted
      exact holds_bindingNode active granted.2
  | source shown known =>
      have cluster := clustered _ _ shown _ known
      exact holds_roleNode active (Scope.allowsBundle_iff.mpr (.inl cluster)) _ _
  | subject | relation | permission =>
      intro namespaced
      cases namespaced

/-- What an account brings is in the namespace of the account, but for workloads. -/
theorem AccountNode.held {account : ServiceAccount}
    (placed : account ∈ inquiry.placedAccounts inquiry.reached) {node : Node}
    (brought : AccountNode inquiry account node) : inquiry.scope.Holds node := by
  have named := names_of_placed active placed
  have home {pod : Pod} (shown : pod ∈ inquiry.shownPods account) :
      pod.namespaceName = account.namespaceName :=
    (mem_podsOf_iff.mp (List.mem_of_mem_take shown)).2.2.1
  cases brought with
  | pod shown => exact fun _ => ⟨_, rfl, home shown ▸ named⟩
  | hiddenWorkloads shown => exact fun _ => ⟨_, rfl, home shown ▸ named⟩
  | hiddenPods => exact fun _ => ⟨_, rfl, named⟩
  | workload =>
      intro namespaced
      cases namespaced

end

end Inquiry

namespace Catalog

section

variable {catalog : Catalog} {discovery : Option Discovery} {request : Request}
  (active : (Scope.of request.namespaceScope).isActive = true)

include active

theorem holds_answer {node : Node}
    (present : node ∈ (answer catalog discovery request).graph.nodes) :
    (Scope.of request.namespaceScope).Holds node := by
  have scope := scope_inquiryFor catalog discovery request
  rw [← scope] at active ⊢
  obtain ⟨added, brought, same⟩ := Inquiry.exists_brought_of_mem_nodes present
  have held : (inquiryFor catalog discovery request).scope.Holds added := by
    rcases brought with ⟨reached, member, brought⟩ | ⟨account, placed, brought⟩
    · refine brought.held active ?_ (Inquiry.mem_reached_iff.mp member)
      intro target source shown bundle known
      obtain ⟨other, found, cluster, -⟩ :=
        Aggregation.exists_of_mem_next (Aggregation.mem_next_of_mem_sourcesOf shown)
      rw [Option.some.inj (known.symm.trans found)]
      exact cluster
    · exact brought.held active placed
  intro namespaced
  rw [← NodeKind.isNamespaced_eq_of_sort_eq (Node.sort_eq_of_bare_eq same)] at namespaced
  have space : added.namespaceName = node.namespaceName := congrArg (·.namespaceName) same
  rw [← space]
  exact held namespaced

/-- Pods hang on accounts of the namespaces in scope. -/
theorem exists_hosted_of_runsAs {edge : Edge}
    (present : edge ∈ (answer catalog discovery request).graph.edgesOf .runsAs) :
    ∃ binding target, Binds catalog discovery request binding target ∧
      ∃ subject ∈ binding.subjects, (Scope.of request.namespaceScope).Hosts subject binding ∧
        subjectNodeId subject (subject.space binding) = edge.source := by
  obtain ⟨shown, kind⟩ := List.mem_filter.mp present
  rcases Inquiry.brought_of_mem_edges shown with ⟨reached, -, brought⟩ | ⟨account, placed, brought⟩
  · cases brought <;> cases kind
  · obtain ⟨reached, member, binding, granted, subject, targeted, isAccount, allowed, rfl⟩ :=
      Inquiry.exists_subject_of_placed placed
    rw [scope_inquiryFor] at allowed
    refine ⟨binding, reached.id, binds_iff.mpr ⟨reached, member, rfl, granted⟩, subject, targeted,
      Scope.hosts_of_allowsRuntimeSubject active isAccount allowed, ?_⟩
    cases brought with
    | runs | hiddenPods => rfl
    | owned | hiddenWorkloads => cases kind

end

section

variable {catalog : Catalog} {discovery : Option Discovery} {request : Request}
  (strict : (Scope.of request.namespaceScope).isStrict = true) {node : Node}
  (present : node ∈ (answer catalog discovery request).graph.nodes)

include strict present

/-- A strict scope shows cluster bindings for accounts of its namespaces alone. -/
theorem exists_hosted_of_clusterRoleBinding (kind : node.kind = .clusterRoleBinding) :
    ∃ binding ∈ catalog.bindings, binding.id = node.id ∧ binding.isClusterScoped = true ∧
      ∃ subject ∈ binding.subjects, (Scope.of request.namespaceScope).Hosts subject binding := by
  have lane : node.kind.lane = .bindings := by rw [kind, NodeKind.lane]
  obtain ⟨binding, target, binds, named⟩ := (mem_bindings_answer catalog discovery request _).mp
    (Graph.mem_nodeIdsIn.mpr ⟨node, present, lane, rfl⟩)
  -- The id tells that the binding, too, is one of the cluster.
  have sameSort : (Inquiry.bindingNode binding).kind.sort = node.kind.sort :=
    Node.sort_eq_of_id_eq (Inquiry.bindingNode_isLabelled binding)
      (Inquiry.isLabelled_of_mem_nodes (inquiryFor_coherent catalog discovery request) present)
      named
  have cluster : binding.isClusterScoped = true := by
    have sameName := NodeKind.name_eq_of_sort_eq sameSort
    rw [kind] at sameName
    cases placed : binding.isClusterScoped with
    | true => rfl
    | false => simp [Inquiry.bindingNode, placed, Node.of, NodeKind.name] at sameName
  exact ⟨binding, binds.listed, named, cluster,
    Scope.exists_hosted_of_strict strict cluster binds.allowed⟩

/-- A strict scope shows grants only of cluster roles that some binding in the graph grants. -/
theorem exists_binding_of_clusterRole {details : RoleDetails}
    (kind : node.kind = .clusterRole details) (shows : details.matchedRuleRefs ≠ []) :
    ∃ binding ∈ catalog.bindings, binding.bundleId? = some node.id ∧
      binding.id ∈ (answer catalog discovery request).graph.nodeIdsIn .bindings := by
  have coherent := inquiryFor_coherent catalog discovery request
  obtain ⟨grant, held⟩ := List.exists_mem_of_ne_nil _ shows
  have shown : grant ∈ node.grants := by
    simpa [Node.grants, kind, NodeKind.roleDetails?] using held
  obtain ⟨reached, member, named, -⟩ := Inquiry.exists_reached_of_mem_grants present shown
  have reaches := Inquiry.mem_reached_iff.mp member
  -- The id tells that the bundle, too, is one of the cluster.
  have sameSort : ((inquiryFor catalog discovery request).roleNode reached.id reached.bundle
      reached.refs).kind.sort = node.kind.sort :=
    Node.sort_eq_of_id_eq (Inquiry.roleNode_isLabelled (coherent.ids _ _ reaches.known) _)
      (Inquiry.isLabelled_of_mem_nodes coherent present)
      ((Inquiry.roleNode_id _ _ _).trans named)
  have cluster : reached.bundle.isClusterScoped = true := by
    have sameName := NodeKind.name_eq_of_sort_eq sameSort
    rw [kind] at sameName
    cases role : reached.bundle.kind with
    | clusterRole => simp [Bundle.isClusterScoped, role]
    | role => simp [Inquiry.roleNode, role, Node.of, NodeKind.name] at sameName
  have bound : reached.bindings ≠ [] := by
    apply reaches.bound cluster
    rw [scope_inquiryFor]
    exact strict
  obtain ⟨binding, granted⟩ := List.exists_mem_of_ne_nil _ bound
  have binds := binds_iff.mpr ⟨reached, member, rfl, granted⟩
  exact ⟨binding, binds.listed, binds.named.trans (congrArg some named),
    (mem_bindings_answer catalog discovery request _).mpr ⟨binding, _, binds, rfl⟩⟩

end

theorem answer_encloses {catalog : Catalog} {discovery : Option Discovery} {request : Request}
    (active : (Scope.of request.namespaceScope).isActive = true) :
    catalog.Encloses discovery request (answer catalog discovery request).graph where
  nodes _ present := holds_answer active present
  accounts _ present := exists_hosted_of_runsAs active present
  bindings strict _ present kind := exists_hosted_of_clusterRoleBinding strict present kind
  roles strict _ present _ kind shows := exists_binding_of_clusterRole strict present kind shows

end Catalog

/-- A request with an active scope is answered with a graph that shows nothing from outside it. -/
theorem query_shows_only_scope {request : Request} (valid : request.validate = .ok ())
    (active : (Scope.of request.namespaceScope).isActive = true) (catalog : Catalog)
    (discovery : Option Discovery) :
    ∃ response, query catalog discovery request = .ok response ∧
      catalog.Encloses discovery request response.graph :=
  ⟨_, query_of_valid valid catalog discovery, Catalog.answer_encloses active⟩

/-- Where do those run who may do something to pods, in the namespace of the team alone? -/
def teamPodsRequest : Request :=
  { onePodRequest with namespaceScope := some ⟨["team"], true⟩ }

/-- A cluster role is shown with its cluster binding, which is for an account of the team. -/
theorem query_shows_only_scope_crowdedCatalog : teamPodsRequest.validate = .ok () ∧
    (Scope.of teamPodsRequest.namespaceScope).isActive = true ∧
    ∃ response, query crowdedCatalog none teamPodsRequest = .ok response ∧
      crowdedCatalog.Encloses none teamPodsRequest response.graph ∧
      (Scope.of teamPodsRequest.namespaceScope).isStrict = true ∧
      response.matchedRoles = 1 ∧ response.matchedBindings = 1 := by
  have valid : teamPodsRequest.validate = .ok () := rfl
  have active : (Scope.of teamPodsRequest.namespaceScope).isActive = true := by decide
  obtain ⟨response, answered, encloses⟩ := query_shows_only_scope valid active crowdedCatalog none
  refine ⟨valid, active, response, answered, encloses, by decide, ?_⟩
  rw [(eq_answer_of_query answered).2]
  decide +kernel

end AccessGraph
