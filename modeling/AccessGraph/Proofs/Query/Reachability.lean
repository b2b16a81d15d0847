/-
This file says that the graph of an answer shows what grants access and nothing else: its roles,
bindings, subjects and permissions, and the edges that lead from one to the other.
-/

import AccessGraph.Proofs.Query.Access
import AccessGraph.Proofs.Query.Lanes

namespace AccessGraph

namespace Catalog

section

variable (catalog : Catalog) (discovery : Option Discovery) (request : Request) (id : String)

/-- The lanes before the pods hold what the bundles bring that are reached for a request. -/
theorem mem_nodeIdsIn_answer {lane : Lane} (notPods : lane ≠ .pods)
    (notWorkloads : lane ≠ .workloads) :
    id ∈ (answer catalog discovery request).graph.nodeIdsIn lane ↔
      ∃ reached ∈ (inquiryFor catalog discovery request).reached, ∃ node,
        Inquiry.ReachNode (inquiryFor catalog discovery request) reached node ∧
          node.kind.lane = lane ∧ node.id = id :=
  Inquiry.mem_nodeIdsIn_of_lane (inquiryFor_coherent catalog discovery request) _ notPods
    notWorkloads

/-- All edges but those to pods and to workloads come with bundles that are reached for a
request. -/
theorem mem_edgeIdsOf_answer {kind : EdgeKind} (notRuns : kind ≠ .runsAs)
    (notOwned : kind ≠ .ownedBy) :
    id ∈ (answer catalog discovery request).graph.edgeIdsOf kind ↔
      ∃ reached ∈ (inquiryFor catalog discovery request).reached, ∃ edge,
        Inquiry.ReachEdge (inquiryFor catalog discovery request) reached edge ∧
          edge.kind = kind ∧ edge.id = id :=
  Inquiry.mem_edgeIdsOf_of_kind _ notRuns notOwned

theorem mem_roles_answer : id ∈ (answer catalog discovery request).graph.nodeIdsIn .roles ↔
    Answered catalog discovery request id ∨
      ∃ target, Answered catalog discovery request target ∧
        id ∈ catalog.aggregation.sourcesOf target := by
  rw [mem_nodeIdsIn_answer catalog discovery request id (by decide) (by decide)]
  simp only [Inquiry.roles_of_reached (inquiryFor_coherent catalog discovery request),
    answered_iff]
  constructor
  · intro shown
    obtain ⟨reached, member, named | source⟩ := shown
    · exact .inl ⟨reached, member, named⟩
    · exact .inr ⟨_, ⟨reached, member, rfl⟩, source⟩
  · intro shown
    rcases shown with ⟨reached, member, named⟩ | ⟨_, ⟨reached, member, rfl⟩, source⟩
    · exact ⟨reached, member, .inl named⟩
    · exact ⟨reached, member, .inr source⟩

theorem mem_bindings_answer : id ∈ (answer catalog discovery request).graph.nodeIdsIn .bindings ↔
    ∃ binding target, Binds catalog discovery request binding target ∧ binding.id = id := by
  rw [mem_nodeIdsIn_answer catalog discovery request id (by decide) (by decide)]
  simp only [Inquiry.bindings_of_reached, binds_iff]
  constructor
  · intro shown
    obtain ⟨reached, member, binding, granted, named⟩ := shown
    exact ⟨binding, _, ⟨reached, member, rfl, granted⟩, named⟩
  · intro shown
    obtain ⟨binding, _, ⟨reached, member, rfl, granted⟩, named⟩ := shown
    exact ⟨reached, member, binding, granted, named⟩

theorem mem_subjects_answer : id ∈ (answer catalog discovery request).graph.nodeIdsIn .subjects ↔
    ∃ binding target, Binds catalog discovery request binding target ∧
      ∃ subject ∈ binding.subjects, subjectNodeId subject (subject.space binding) = id := by
  rw [mem_nodeIdsIn_answer catalog discovery request id (by decide) (by decide)]
  simp only [Inquiry.subjects_of_reached, binds_iff]
  constructor
  · intro shown
    obtain ⟨reached, member, binding, granted, subject, targeted, named⟩ := shown
    exact ⟨binding, _, ⟨reached, member, rfl, granted⟩, subject, targeted, named⟩
  · intro shown
    obtain ⟨binding, _, ⟨reached, member, rfl, granted⟩, subject, targeted, named⟩ := shown
    exact ⟨reached, member, binding, granted, subject, targeted, named⟩

theorem mem_permissions_answer :
    id ∈ (answer catalog discovery request).graph.nodeIdsIn .permissions ↔
      request.includePermissions = true ∧
        ∃ target permission, Permits catalog discovery request target permission ∧
          permissionNodeId permission.apiGroup permission.resource permission.verb = id := by
  rw [mem_nodeIdsIn_answer catalog discovery request id (by decide) (by decide)]
  simp only [Inquiry.permissions_of_reached, permits_iff, includePermissions_inquiryFor]
  constructor
  · intro shown
    obtain ⟨reached, member, included, grant, present, named⟩ := shown
    exact ⟨included, _, _, ⟨reached, member, rfl, grant, present, rfl⟩, named⟩
  · intro shown
    obtain ⟨included, _, _, ⟨reached, member, rfl, grant, present, rfl⟩, named⟩ := shown
    exact ⟨reached, member, included, grant, present, named⟩

theorem mem_relations_answer :
    id ∈ (answer catalog discovery request).graph.nodeIdsIn .aggregation ↔
      request.includeAggregates = true ∧
        ∃ source target, Gathers catalog discovery request source target ∧
          aggregationNodeId target = id := by
  rw [mem_nodeIdsIn_answer catalog discovery request id (by decide) (by decide)]
  simp only [Inquiry.relations_of_reached, gathers_iff, includeAggregates_inquiryFor]
  constructor
  · intro shown
    obtain ⟨reached, member, included, source, leaf, named⟩ := shown
    exact ⟨included, source, _, ⟨reached, member, rfl, leaf⟩, named⟩
  · intro shown
    obtain ⟨included, source, _, ⟨reached, member, rfl, leaf⟩, named⟩ := shown
    exact ⟨reached, member, included, source, leaf, named⟩

theorem mem_grantsEdges_answer :
    id ∈ (answer catalog discovery request).graph.edgeIdsOf .grants ↔
      ∃ binding target, Binds catalog discovery request binding target ∧
        edgeId target binding.id .grants = id := by
  rw [mem_edgeIdsOf_answer catalog discovery request id (by decide) (by decide)]
  simp only [Inquiry.grants_of_reached, binds_iff]
  constructor
  · intro shown
    obtain ⟨reached, member, binding, granted, named⟩ := shown
    exact ⟨binding, _, ⟨reached, member, rfl, granted⟩, named⟩
  · intro shown
    obtain ⟨binding, _, ⟨reached, member, rfl, granted⟩, named⟩ := shown
    exact ⟨reached, member, binding, granted, named⟩

theorem mem_subjectsEdges_answer :
    id ∈ (answer catalog discovery request).graph.edgeIdsOf .subjects ↔
      ∃ binding target, Binds catalog discovery request binding target ∧
        ∃ subject ∈ binding.subjects,
          edgeId binding.id (subjectNodeId subject (subject.space binding)) .subjects = id := by
  rw [mem_edgeIdsOf_answer catalog discovery request id (by decide) (by decide)]
  simp only [Inquiry.targets_of_reached, binds_iff]
  constructor
  · intro shown
    obtain ⟨reached, member, binding, granted, subject, targeted, named⟩ := shown
    exact ⟨binding, _, ⟨reached, member, rfl, granted⟩, subject, targeted, named⟩
  · intro shown
    obtain ⟨binding, _, ⟨reached, member, rfl, granted⟩, subject, targeted, named⟩ := shown
    exact ⟨reached, member, binding, granted, subject, targeted, named⟩

theorem mem_aggregatesEdges_answer :
    id ∈ (answer catalog discovery request).graph.edgeIdsOf .aggregates ↔
      (∃ target source, Answered catalog discovery request target ∧
        source ∈ catalog.aggregation.sourcesOf target ∧ edgeId source target .aggregates = id) ∨
      (request.includeAggregates = true ∧
        ∃ source target, Gathers catalog discovery request source target ∧
          (edgeId source (aggregationNodeId target) .aggregates = id ∨
            edgeId (aggregationNodeId target) target .aggregates = id)) := by
  rw [mem_edgeIdsOf_answer catalog discovery request id (by decide) (by decide)]
  simp only [Inquiry.aggregates_of_reached (inquiryFor_coherent catalog discovery request),
    answered_iff, gathers_iff, includeAggregates_inquiryFor]
  constructor
  · intro shown
    obtain ⟨reached, member, ⟨source, known, named⟩ | ⟨included, source, leaf, named⟩⟩ := shown
    · exact .inl ⟨_, source, ⟨reached, member, rfl⟩, known, named⟩
    · exact .inr ⟨included, source, _, ⟨reached, member, rfl, leaf⟩, named⟩
  · intro shown
    rcases shown with ⟨_, source, ⟨reached, member, rfl⟩, known, named⟩ |
      ⟨included, source, _, ⟨reached, member, rfl, leaf⟩, named⟩
    · exact ⟨reached, member, .inl ⟨source, known, named⟩⟩
    · exact ⟨reached, member, .inr ⟨included, source, leaf, named⟩⟩

theorem mem_permitsEdges_answer :
    id ∈ (answer catalog discovery request).graph.edgeIdsOf .permits ↔
      request.includePermissions = true ∧
        ∃ target permission, Permits catalog discovery request target permission ∧
          edgeId target
            (permissionNodeId permission.apiGroup permission.resource permission.verb)
              .permits = id := by
  rw [mem_edgeIdsOf_answer catalog discovery request id (by decide) (by decide)]
  simp only [Inquiry.permits_of_reached, permits_iff, includePermissions_inquiryFor]
  constructor
  · intro shown
    obtain ⟨reached, member, included, grant, present, named⟩ := shown
    exact ⟨included, _, _, ⟨reached, member, rfl, grant, present, rfl⟩, named⟩
  · intro shown
    obtain ⟨included, _, _, ⟨reached, member, rfl, grant, present, rfl⟩, named⟩ := shown
    exact ⟨reached, member, included, grant, present, named⟩

/-- The graph that is built for a request shows exactly what grants access. -/
theorem answer_explains : Explains catalog discovery request
    (answer catalog discovery request).graph where
  roles := mem_roles_answer catalog discovery request
  bindings := mem_bindings_answer catalog discovery request
  subjects := mem_subjects_answer catalog discovery request
  permissions := mem_permissions_answer catalog discovery request
  relations := mem_relations_answer catalog discovery request
  grantsEdges := mem_grantsEdges_answer catalog discovery request
  subjectsEdges := mem_subjectsEdges_answer catalog discovery request
  aggregatesEdges := mem_aggregatesEdges_answer catalog discovery request
  permitsEdges := mem_permitsEdges_answer catalog discovery request

end

end Catalog

/-- A request that makes sense is answered with a graph that shows exactly what grants access. -/
theorem query_explains {request : Request} (valid : request.validate = .ok ())
    (catalog : Catalog) (discovery : Option Discovery) :
    ∃ response, query catalog discovery request = .ok response ∧
      catalog.Explains discovery request response.graph :=
  ⟨_, query_of_valid valid catalog discovery, Catalog.answer_explains _ _ _⟩

/-- The service account of a team may read pods there, and an administrator everywhere. -/
def readerCatalog : Catalog where
  bundles :=
    [⟨.clusterRole, "reader", none, .empty, .empty, [⟨[""], ["pods"], ["get"], [], []⟩], none⟩]
  bindings :=
    [⟨.roleBinding, "readers", some "team", ⟨.clusterRole, "reader"⟩,
        [⟨.serviceAccount, "robot", none⟩]⟩,
      ⟨.clusterRoleBinding, "admins", none, ⟨.clusterRole, "reader"⟩, [⟨.user, "admin", none⟩]⟩]
  pods := []
  workloads := []

/-- Who may do something to pods by what is granted in one namespace? -/
def teamRequest : Request :=
  { Request.standard with
    selector := { Selector.empty with resources := ["pods"] }
    namespaceScope := some ⟨["team"], true⟩
    includePermissions := true }

/-- The binding of the team is shown, and that of the administrators is not. -/
theorem query_explains_reader : teamRequest.validate = .ok () ∧
    ∃ response, query readerCatalog none teamRequest = .ok response ∧
      readerCatalog.Explains none teamRequest response.graph ∧
      "rolebinding:team/readers" ∈ response.graph.nodeIdsIn .bindings ∧
      "clusterrolebinding:admins" ∉ response.graph.nodeIdsIn .bindings := by
  have valid : teamRequest.validate = .ok () := rfl
  obtain ⟨response, answered, explains⟩ := query_explains valid readerCatalog none
  have answers : readerCatalog.Answered none teamRequest "clusterrole:reader" := by
    refine ⟨readerCatalog.bundles[0], by decide, .inl (by decide), ?_, ?_⟩
    · have offered : ((readerCatalog.aggregation.effectiveRules "clusterrole:reader"
          readerCatalog.bundles[0]).flatMap SourcedRule.refs).any (fun grant =>
            (Matcher.of teamRequest none).selects grant &&
              (Matcher.of teamRequest none).keeps grant) = true := by decide
      obtain ⟨grant, held, found⟩ := List.any_eq_true.mp offered
      obtain ⟨selected, kept⟩ := Bool.and_eq_true_iff.mp found
      exact ⟨grant, List.mem_flatMap.mp held, selected, kept⟩
    · intro _ _
      exact ⟨readerCatalog.bindings[0], by decide, by decide, by decide⟩
  refine ⟨valid, response, answered, explains, ?_, ?_⟩
  · apply (explains.bindings _).mpr
    exact ⟨readerCatalog.bindings[0], "clusterrole:reader",
      ⟨by decide, by decide, answers, by decide⟩, by decide⟩
  · intro shown
    obtain ⟨binding, target, binds, named⟩ := (explains.bindings _).mp shown
    have others : ∀ binding ∈ readerCatalog.bindings, binding.id = "clusterrolebinding:admins" →
        (Scope.of teamRequest.namespaceScope).allowsBinding binding = false := by decide
    exact Bool.false_ne_true ((others binding binds.listed named).symm.trans binds.allowed)

end AccessGraph
