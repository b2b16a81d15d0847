/-
This file says exactly which nodes and which edges a reached bundle brings into the graph.
-/

import AccessGraph.Proofs.Graph.Naming
import AccessGraph.Proofs.Graph.Validity
import AccessGraph.Query.Reachability

namespace AccessGraph

namespace Inquiry

/-- The node that stands between the sources of a bundle and the bundle. -/
def relationNode (inquiry : Inquiry) (reached : Reached) : Node :=
  .of (aggregationNodeId reached.id) ("aggregate -> " ++ reached.bundle.name) none
    (.aggregationRelation reached.id (inquiry.leafSources reached.id).length)

def grantsEdge (reached : Reached) (binding : Binding) : Edge :=
  .of reached.id binding.id .grants "Role referenced by binding" reached.refs

def targetsEdge (binding : Binding) (subject : Subject) : Edge :=
  .of binding.id (subjectId binding subject) .subjects "Binding targets subject" []

def contributesEdge (source target : String) : Edge :=
  .of source target .aggregates "ClusterRole contributes rules via aggregationRule" []

def flowsEdge (target : String) : Edge :=
  .of (aggregationNodeId target) target .aggregates
    "Aggregated rules flow into the target ClusterRole" []

def permitsEdge (reached : Reached) (grant : RuleRef) : Edge :=
  .of reached.id (permissionNode grant).id .permits "Role grants permission" []

/-- These are the nodes that a reached bundle brings. -/
inductive ReachNode (inquiry : Inquiry) (reached : Reached) : Node → Prop
  | role : ReachNode inquiry reached (inquiry.roleNode reached.id reached.bundle reached.refs)
  | binding {binding : Binding} (granted : binding ∈ reached.bindings) :
      ReachNode inquiry reached (bindingNode binding)
  | subject {binding : Binding} {subject : Subject} (granted : binding ∈ reached.bindings)
      (targeted : subject ∈ binding.subjects) :
      ReachNode inquiry reached (subjectNode binding subject)
  | source {source : String} {bundle : Bundle}
      (shown : source ∈ inquiry.aggregation.sourcesOf reached.id)
      (known : inquiry.index.bundles.get? source = some bundle) :
      ReachNode inquiry reached (inquiry.roleNode source bundle [])
  | relation (included : inquiry.request.includeAggregates = true)
      (leaves : inquiry.leafSources reached.id ≠ []) :
      ReachNode inquiry reached (inquiry.relationNode reached)
  | permission {grant : RuleRef} (included : inquiry.request.includePermissions = true)
      (selected : grant ∈ reached.refs) : ReachNode inquiry reached (permissionNode grant)

/-- These are the edges that a reached bundle brings. -/
inductive ReachEdge (inquiry : Inquiry) (reached : Reached) : Edge → Prop
  | grants {binding : Binding} (granted : binding ∈ reached.bindings) :
      ReachEdge inquiry reached (grantsEdge reached binding)
  | targets {binding : Binding} {subject : Subject} (granted : binding ∈ reached.bindings)
      (targeted : subject ∈ binding.subjects) :
      ReachEdge inquiry reached (targetsEdge binding subject)
  | contributes {source : String} {bundle : Bundle}
      (shown : source ∈ inquiry.aggregation.sourcesOf reached.id)
      (known : inquiry.index.bundles.get? source = some bundle) :
      ReachEdge inquiry reached (contributesEdge source reached.id)
  | gathers {source : String} (included : inquiry.request.includeAggregates = true)
      (leaf : source ∈ inquiry.leafSources reached.id) :
      ReachEdge inquiry reached (contributesEdge source (aggregationNodeId reached.id))
  | flows (included : inquiry.request.includeAggregates = true)
      (leaves : inquiry.leafSources reached.id ≠ []) :
      ReachEdge inquiry reached (flowsEdge reached.id)
  | permits {grant : RuleRef} (included : inquiry.request.includePermissions = true)
      (selected : grant ∈ reached.refs) : ReachEdge inquiry reached (permitsEdge reached grant)

section

variable {inquiry : Inquiry} {reached : Reached}

theorem mem_nodes_bindingSteps {binding : Binding} {node : Node} :
    node ∈ BuildStep.nodes (bindingSteps reached binding) ↔
      node = bindingNode binding ∨
        ∃ subject ∈ binding.subjects, node = subjectNode binding subject := by
  simp [bindingSteps, subjectSteps]

theorem mem_edges_bindingSteps {binding : Binding} {edge : Edge} :
    edge ∈ BuildStep.edges (bindingSteps reached binding) ↔
      edge = grantsEdge reached binding ∨
        ∃ subject ∈ binding.subjects, edge = targetsEdge binding subject := by
  simp [bindingSteps, subjectSteps, grantsEdge, targetsEdge]

@[simp] theorem nodes_cons_contributes (source target : String) (steps : List BuildStep) :
    BuildStep.nodes (contributes source target :: steps) = BuildStep.nodes steps := rfl

@[simp] theorem edges_cons_contributes (source target : String) (steps : List BuildStep) :
    BuildStep.edges (contributes source target :: steps) =
      contributesEdge source target :: BuildStep.edges steps := rfl

theorem mem_nodes_sourceSteps {source target : String} {node : Node} :
    node ∈ BuildStep.nodes (inquiry.sourceSteps target source) ↔
      ∃ bundle, inquiry.index.bundles.get? source = some bundle ∧
        node = inquiry.roleNode source bundle [] := by
  unfold sourceSteps
  cases inquiry.index.bundles.get? source <;> simp

theorem mem_edges_sourceSteps {source target : String} {edge : Edge} :
    edge ∈ BuildStep.edges (inquiry.sourceSteps target source) ↔
      ∃ bundle, inquiry.index.bundles.get? source = some bundle ∧
        edge = contributesEdge source target := by
  unfold sourceSteps
  cases inquiry.index.bundles.get? source <;> simp

theorem nodes_map_contributes (sources : List String) (target : String) :
    BuildStep.nodes (sources.map (contributes · target)) = [] := by
  induction sources with
  | nil => rfl
  | cons source rest inductionHypothesis =>
      rw [List.map_cons, nodes_cons_contributes, inductionHypothesis]

theorem edges_map_contributes (sources : List String) (target : String) :
    BuildStep.edges (sources.map (contributes · target)) =
      sources.map (contributesEdge · target) := by
  induction sources with
  | nil => rfl
  | cons source rest inductionHypothesis =>
      rw [List.map_cons, edges_cons_contributes, inductionHypothesis, List.map_cons]

theorem mem_nodes_relationSteps {node : Node} :
    node ∈ BuildStep.nodes (inquiry.relationSteps reached) ↔
      inquiry.leafSources reached.id ≠ [] ∧ node = inquiry.relationNode reached := by
  unfold relationSteps relationNode
  cases inquiry.leafSources reached.id <;> simp [nodes_map_contributes]

theorem mem_edges_relationSteps {edge : Edge} :
    edge ∈ BuildStep.edges (inquiry.relationSteps reached) ↔
      (∃ source ∈ inquiry.leafSources reached.id,
        edge = contributesEdge source (aggregationNodeId reached.id)) ∨
      (inquiry.leafSources reached.id ≠ [] ∧ edge = flowsEdge reached.id) := by
  unfold relationSteps
  cases inquiry.leafSources reached.id <;>
    simp [edges_map_contributes, flowsEdge, or_assoc, eq_comm]

/-- A reached bundle brings these nodes and no others. -/
theorem mem_nodes_reachSteps {node : Node} :
    node ∈ BuildStep.nodes (inquiry.reachSteps reached) ↔ ReachNode inquiry reached node := by
  simp only [reachSteps, BuildStep.nodes_append, BuildStep.nodes_flatMap, List.mem_append,
    List.mem_flatMap, BuildStep.mem_nodes_ite, mem_nodes_bindingSteps, mem_nodes_sourceSteps,
    mem_nodes_relationSteps, permissionSteps, BuildStep.nodes_cons_role,
    BuildStep.nodes_cons_node, BuildStep.nodes_cons_edge, BuildStep.nodes_nil,
    List.mem_singleton]
  constructor
  · intro given
    rcases given with (((rfl | ⟨binding, granted, rfl | ⟨subject, targeted, rfl⟩⟩) |
      ⟨source, shown, bundle, known, rfl⟩) | ⟨included, leaves, rfl⟩) |
      ⟨included, grant, selected, rfl⟩
    · exact .role
    · exact .binding granted
    · exact .subject granted targeted
    · exact .source shown known
    · exact .relation included leaves
    · exact .permission included selected
  · intro brought
    cases brought with
    | role => exact .inl (.inl (.inl (.inl rfl)))
    | binding granted => exact .inl (.inl (.inl (.inr ⟨_, granted, .inl rfl⟩)))
    | subject granted targeted =>
        exact .inl (.inl (.inl (.inr ⟨_, granted, .inr ⟨_, targeted, rfl⟩⟩)))
    | source shown known => exact .inl (.inl (.inr ⟨_, shown, _, known, rfl⟩))
    | relation included leaves => exact .inl (.inr ⟨included, leaves, rfl⟩)
    | permission included selected => exact .inr ⟨included, _, selected, rfl⟩

/-- A reached bundle brings these edges and no others. -/
theorem mem_edges_reachSteps {edge : Edge} :
    edge ∈ BuildStep.edges (inquiry.reachSteps reached) ↔ ReachEdge inquiry reached edge := by
  simp only [reachSteps, BuildStep.edges_append, BuildStep.edges_flatMap, List.mem_append,
    List.mem_flatMap, BuildStep.mem_edges_ite, mem_edges_bindingSteps, mem_edges_sourceSteps,
    mem_edges_relationSteps, permissionSteps, BuildStep.edges_cons_role,
    BuildStep.edges_cons_node, BuildStep.edges_cons_edge, BuildStep.edges_nil,
    List.mem_singleton, List.not_mem_nil, false_or]
  constructor
  · intro given
    rcases given with ((⟨binding, granted, rfl | ⟨subject, targeted, rfl⟩⟩ |
      ⟨source, shown, bundle, known, rfl⟩) |
      ⟨included, ⟨source, leaf, rfl⟩ | ⟨leaves, rfl⟩⟩) | ⟨included, grant, selected, rfl⟩
    · exact .grants granted
    · exact .targets granted targeted
    · exact .contributes shown known
    · exact .gathers included leaf
    · exact .flows included leaves
    · exact .permits included selected
  · intro brought
    cases brought with
    | grants granted => exact .inl (.inl (.inl ⟨_, granted, .inl rfl⟩))
    | targets granted targeted => exact .inl (.inl (.inl ⟨_, granted, .inr ⟨_, targeted, rfl⟩⟩))
    | contributes shown known => exact .inl (.inl (.inr ⟨_, shown, _, known, rfl⟩))
    | gathers included leaf => exact .inl (.inr ⟨included, .inl ⟨_, leaf, rfl⟩⟩)
    | flows included leaves => exact .inl (.inr ⟨included, .inr ⟨leaves, rfl⟩⟩)
    | permits included selected => exact .inr ⟨included, _, selected, rfl⟩

end

end Inquiry

end AccessGraph
