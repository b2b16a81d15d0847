/-
This file says which ids each lane and each kind of edge holds, bundle by bundle.
-/

import AccessGraph.Proofs.Query.Answer

namespace AccessGraph

namespace Inquiry

variable {inquiry : Inquiry}

/-- Service accounts bring pods and workloads alone. -/
theorem AccountNode.lane {account : ServiceAccount} {node : Node}
    (brought : AccountNode inquiry account node) :
    node.kind.lane = .pods ∨ node.kind.lane = .workloads := by
  cases brought with
  | pod shown => exact .inl rfl
  | workload shown included owner => exact .inr rfl
  | hiddenWorkloads shown included more => exact .inr rfl
  | hiddenPods more => exact .inl rfl

/-- Service accounts bring edges to pods and to workloads alone. -/
theorem AccountEdge.kind {account : ServiceAccount} {edge : Edge}
    (brought : AccountEdge inquiry account edge) : edge.kind = .runsAs ∨ edge.kind = .ownedBy := by
  cases brought with
  | runs shown => exact .inl rfl
  | owned shown included next => exact .inr rfl
  | hiddenWorkloads shown included more => exact .inr rfl
  | hiddenPods more => exact .inl rfl

/-- The lanes before the pods hold what reached bundles bring. -/
theorem mem_nodeIdsIn_of_lane (coherent : inquiry.Coherent) (earlier : List String) {lane : Lane}
    (notPods : lane ≠ .pods) (notWorkloads : lane ≠ .workloads) {id : String} :
    id ∈ (inquiry.response earlier).graph.nodeIdsIn lane ↔
      ∃ reached ∈ inquiry.reached, ∃ node, ReachNode inquiry reached node ∧
        node.kind.lane = lane ∧ node.id = id := by
  rw [mem_nodeIdsIn_response coherent]
  constructor
  · intro shown
    obtain ⟨node, ⟨reached, member, brought⟩ | ⟨account, -, brought⟩, here, named⟩ := shown
    · exact ⟨reached, member, node, brought, here, named⟩
    · rcases brought.lane with pods | workloads
      · exact absurd (here.symm.trans pods) notPods
      · exact absurd (here.symm.trans workloads) notWorkloads
  · intro shown
    obtain ⟨reached, member, node, brought, here, named⟩ := shown
    exact ⟨node, .inl ⟨reached, member, brought⟩, here, named⟩

/-- All edges but those to pods and to workloads come with reached bundles. -/
theorem mem_edgeIdsOf_of_kind (earlier : List String) {kind : EdgeKind}
    (notRuns : kind ≠ .runsAs) (notOwned : kind ≠ .ownedBy) {id : String} :
    id ∈ (inquiry.response earlier).graph.edgeIdsOf kind ↔
      ∃ reached ∈ inquiry.reached, ∃ edge, ReachEdge inquiry reached edge ∧
        edge.kind = kind ∧ edge.id = id := by
  rw [mem_edgeIdsOf_response]
  constructor
  · intro shown
    obtain ⟨edge, ⟨reached, member, brought⟩ | ⟨account, -, brought⟩, here, named⟩ := shown
    · exact ⟨reached, member, edge, brought, here, named⟩
    · rcases brought.kind with runs | owned
      · exact absurd (here.symm.trans runs) notRuns
      · exact absurd (here.symm.trans owned) notOwned
  · intro shown
    obtain ⟨reached, member, edge, brought, here, named⟩ := shown
    exact ⟨edge, .inl ⟨reached, member, brought⟩, here, named⟩

section

variable {reached : Reached} {id : String}

theorem roles_of_reached (coherent : inquiry.Coherent) :
    (∃ node, ReachNode inquiry reached node ∧ node.kind.lane = .roles ∧ node.id = id) ↔
      reached.id = id ∨ id ∈ inquiry.aggregation.sourcesOf reached.id := by
  constructor
  · intro shown
    obtain ⟨node, brought, here, rfl⟩ := shown
    cases brought with
    | role => exact .inl (roleNode_id _ _ _).symm
    | source shown known =>
        rw [roleNode_id]
        exact .inr shown
    | binding granted => simp [bindingNode_lane] at here
    | subject granted targeted => cases here
    | relation included leaves => cases here
    | permission included selected => cases here
  · intro shown
    rcases shown with rfl | shown
    · exact ⟨_, .role, roleNode_lane _ _ _, roleNode_id _ _ _⟩
    · obtain ⟨bundle, known⟩ := coherent.sources _ _ shown
      exact ⟨_, .source shown known, roleNode_lane _ _ _, roleNode_id _ _ _⟩

theorem bindings_of_reached :
    (∃ node, ReachNode inquiry reached node ∧ node.kind.lane = .bindings ∧ node.id = id) ↔
      ∃ binding ∈ reached.bindings, binding.id = id := by
  constructor
  · intro shown
    obtain ⟨node, brought, here, rfl⟩ := shown
    cases brought with
    | @binding binding granted => exact ⟨binding, granted, rfl⟩
    | role => simp [roleNode_lane] at here
    | source shown known => simp [roleNode_lane] at here
    | subject granted targeted => cases here
    | relation included leaves => cases here
    | permission included selected => cases here
  · intro shown
    obtain ⟨binding, granted, rfl⟩ := shown
    exact ⟨_, .binding granted, bindingNode_lane binding, rfl⟩

theorem subjects_of_reached :
    (∃ node, ReachNode inquiry reached node ∧ node.kind.lane = .subjects ∧ node.id = id) ↔
      ∃ binding ∈ reached.bindings, ∃ subject ∈ binding.subjects,
        subjectId binding subject = id := by
  constructor
  · intro shown
    obtain ⟨node, brought, here, rfl⟩ := shown
    cases brought with
    | @subject binding subject granted targeted => exact ⟨binding, granted, subject, targeted, rfl⟩
    | role => simp [roleNode_lane] at here
    | source shown known => simp [roleNode_lane] at here
    | binding granted => simp [bindingNode_lane] at here
    | relation included leaves => cases here
    | permission included selected => cases here
  · intro shown
    obtain ⟨binding, granted, subject, targeted, rfl⟩ := shown
    exact ⟨_, .subject granted targeted, rfl, rfl⟩

theorem permissions_of_reached :
    (∃ node, ReachNode inquiry reached node ∧ node.kind.lane = .permissions ∧ node.id = id) ↔
      inquiry.request.includePermissions = true ∧
        ∃ grant ∈ reached.refs, (permissionNode grant).id = id := by
  constructor
  · intro shown
    obtain ⟨node, brought, here, rfl⟩ := shown
    cases brought with
    | @permission grant included selected => exact ⟨included, grant, selected, rfl⟩
    | role => simp [roleNode_lane] at here
    | source shown known => simp [roleNode_lane] at here
    | binding granted => simp [bindingNode_lane] at here
    | subject granted targeted => cases here
    | relation included leaves => cases here
  · intro shown
    obtain ⟨included, grant, selected, rfl⟩ := shown
    exact ⟨_, .permission included selected, rfl, rfl⟩

theorem relations_of_reached :
    (∃ node, ReachNode inquiry reached node ∧ node.kind.lane = .aggregation ∧ node.id = id) ↔
      inquiry.request.includeAggregates = true ∧
        ∃ source ∈ inquiry.leafSources reached.id, aggregationNodeId reached.id = id := by
  constructor
  · intro shown
    obtain ⟨node, brought, here, rfl⟩ := shown
    cases brought with
    | relation included leaves =>
        obtain ⟨source, leaf⟩ := List.exists_mem_of_ne_nil _ leaves
        exact ⟨included, source, leaf, rfl⟩
    | role => simp [roleNode_lane] at here
    | source shown known => simp [roleNode_lane] at here
    | binding granted => simp [bindingNode_lane] at here
    | subject granted targeted => cases here
    | permission included selected => cases here
  · intro shown
    obtain ⟨included, source, leaf, rfl⟩ := shown
    exact ⟨_, .relation included (List.ne_nil_of_mem leaf), rfl, rfl⟩

theorem grants_of_reached :
    (∃ edge, ReachEdge inquiry reached edge ∧ edge.kind = .grants ∧ edge.id = id) ↔
      ∃ binding ∈ reached.bindings, edgeId reached.id binding.id .grants = id := by
  constructor
  · intro shown
    obtain ⟨edge, brought, here, rfl⟩ := shown
    cases brought with
    | @grants binding granted => exact ⟨binding, granted, rfl⟩
    | targets granted targeted => cases here
    | contributes shown known => cases here
    | gathers included leaf => cases here
    | flows included leaves => cases here
    | permits included selected => cases here
  · intro shown
    obtain ⟨binding, granted, rfl⟩ := shown
    exact ⟨_, .grants granted, rfl, rfl⟩

theorem targets_of_reached :
    (∃ edge, ReachEdge inquiry reached edge ∧ edge.kind = .subjects ∧ edge.id = id) ↔
      ∃ binding ∈ reached.bindings, ∃ subject ∈ binding.subjects,
        edgeId binding.id (subjectId binding subject) .subjects = id := by
  constructor
  · intro shown
    obtain ⟨edge, brought, here, rfl⟩ := shown
    cases brought with
    | @targets binding subject granted targeted => exact ⟨binding, granted, subject, targeted, rfl⟩
    | grants granted => cases here
    | contributes shown known => cases here
    | gathers included leaf => cases here
    | flows included leaves => cases here
    | permits included selected => cases here
  · intro shown
    obtain ⟨binding, granted, subject, targeted, rfl⟩ := shown
    exact ⟨_, .targets granted targeted, rfl, rfl⟩

theorem aggregates_of_reached (coherent : inquiry.Coherent) :
    (∃ edge, ReachEdge inquiry reached edge ∧ edge.kind = .aggregates ∧ edge.id = id) ↔
      (∃ source ∈ inquiry.aggregation.sourcesOf reached.id,
        edgeId source reached.id .aggregates = id) ∨
      (inquiry.request.includeAggregates = true ∧ ∃ source ∈ inquiry.leafSources reached.id,
        edgeId source (aggregationNodeId reached.id) .aggregates = id ∨
          edgeId (aggregationNodeId reached.id) reached.id .aggregates = id) := by
  constructor
  · intro shown
    obtain ⟨edge, brought, here, rfl⟩ := shown
    cases brought with
    | @contributes source bundle shown known => exact .inl ⟨source, shown, rfl⟩
    | @gathers source included leaf => exact .inr ⟨included, source, leaf, .inl rfl⟩
    | flows included leaves =>
        obtain ⟨source, leaf⟩ := List.exists_mem_of_ne_nil _ leaves
        exact .inr ⟨included, source, leaf, .inr rfl⟩
    | grants granted => cases here
    | targets granted targeted => cases here
    | permits included selected => cases here
  · intro shown
    rcases shown with ⟨source, shown, rfl⟩ | ⟨included, source, leaf, rfl | rfl⟩
    · obtain ⟨bundle, known⟩ := coherent.sources _ _ shown
      exact ⟨_, .contributes shown known, rfl, rfl⟩
    · exact ⟨_, .gathers included leaf, rfl, rfl⟩
    · exact ⟨_, .flows included (List.ne_nil_of_mem leaf), rfl, rfl⟩

theorem permits_of_reached :
    (∃ edge, ReachEdge inquiry reached edge ∧ edge.kind = .permits ∧ edge.id = id) ↔
      inquiry.request.includePermissions = true ∧
        ∃ grant ∈ reached.refs, edgeId reached.id (permissionNode grant).id .permits = id := by
  constructor
  · intro shown
    obtain ⟨edge, brought, here, rfl⟩ := shown
    cases brought with
    | @permits grant included selected => exact ⟨included, grant, selected, rfl⟩
    | grants granted => cases here
    | targets granted targeted => cases here
    | contributes shown known => cases here
    | gathers included leaf => cases here
    | flows included leaves => cases here
  · intro shown
    obtain ⟨included, grant, selected, rfl⟩ := shown
    exact ⟨_, .permits included selected, rfl, rfl⟩

end

end Inquiry

end AccessGraph
