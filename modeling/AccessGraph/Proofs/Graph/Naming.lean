/-
This file says that the ids of nodes and edges tell their kinds: no id of one kind of node is an id
of another, whatever names stand in it.
-/

import AccessGraph.Proofs.Graph.Run
import AccessGraph.Proofs.Text.Joined

namespace AccessGraph

namespace NodeKind

/-- The ids of the nodes of a kind start with this text. -/
def label : NodeKind → String
  | .role _ => "role:"
  | .clusterRole _ => "clusterrole:"
  | .roleBinding => "rolebinding:"
  | .clusterRoleBinding => "clusterrolebinding:"
  | .subject _ => "subject:"
  | .pod _ => "pod:"
  | .podOverflow _ => "overflow:pod:"
  | .workload _ => "workload:"
  | .workloadOverflow _ => "overflow:workload:"
  | .permission _ => "permission:"
  | .aggregationRelation _ _ => "aggregation:"

/-- A kind without what its nodes say: its name, its lane and its label. -/
def sort (kind : NodeKind) : String × Lane × String :=
  (kind.name, kind.lane, kind.label)

/-- All kinds there are. -/
def sorts : List (String × Lane × String) :=
  [("role", .roles, "role:"), ("clusterRole", .roles, "clusterrole:"),
    ("roleBinding", .bindings, "rolebinding:"),
    ("clusterRoleBinding", .bindings, "clusterrolebinding:"), ("subject", .subjects, "subject:"),
    ("pod", .pods, "pod:"), ("podOverflow", .pods, "overflow:pod:"),
    ("workload", .workloads, "workload:"), ("workloadOverflow", .workloads, "overflow:workload:"),
    ("permission", .permissions, "permission:"),
    ("aggregationRelation", .aggregation, "aggregation:")]

theorem sort_mem_sorts (kind : NodeKind) : kind.sort ∈ sorts := by
  cases kind <;> simp [sort, sorts, name, lane, label]

/-- No label starts with the label of another kind. -/
theorem eq_of_labelled : ∀ first ∈ sorts, ∀ second ∈ sorts,
    first.2.2.toList <+: second.2.2.toList → first = second := by
  decide

/-- Texts that start with the labels of two kinds are the same only if the kinds are. -/
theorem sort_eq_of_label_append_eq {first second : NodeKind} {rest others : String}
    (same : first.label ++ rest = second.label ++ others) : first.sort = second.sort := by
  have characters : first.label.toList ++ rest.toList = second.label.toList ++ others.toList := by
    rw [← String.toList_append, ← String.toList_append, same]
  have left : first.label.toList <+: first.label.toList ++ rest.toList := List.prefix_append _ _
  have right : second.label.toList <+: first.label.toList ++ rest.toList := by
    rw [characters]
    exact List.prefix_append _ _
  rcases List.prefix_or_prefix_of_prefix left right with shorter | longer
  · exact eq_of_labelled _ first.sort_mem_sorts _ second.sort_mem_sorts shorter
  · exact (eq_of_labelled _ second.sort_mem_sorts _ first.sort_mem_sorts longer).symm

end NodeKind

namespace Node

/-- The id of the node starts with the label of its kind. -/
def IsLabelled (node : Node) : Prop :=
  ∃ rest, node.id = node.kind.label ++ rest

theorem bare_kind_sort (node : Node) : node.bare.kind.sort = node.kind.sort := by
  rcases node with ⟨id, name, space, lane, kind⟩
  cases kind <;> rfl

theorem sort_eq_of_bare_eq {first second : Node} (same : first.bare = second.bare) :
    first.kind.sort = second.kind.sort := by
  rw [← bare_kind_sort first, same, bare_kind_sort second]

/-- Nodes with labels share an id only if they are of one kind. -/
theorem sort_eq_of_id_eq {first second : Node} (labelled : first.IsLabelled)
    (alsoLabelled : second.IsLabelled) (same : first.id = second.id) :
    first.kind.sort = second.kind.sort := by
  obtain ⟨rest, named⟩ := labelled
  obtain ⟨others, alsoNamed⟩ := alsoLabelled
  exact NodeKind.sort_eq_of_label_append_eq (named.symm.trans (same.trans alsoNamed))

end Node

namespace Edge

/-- The id of the edge names its ends and its kind. -/
def IsNamed (edge : Edge) : Prop :=
  edge.id = edgeId edge.source edge.target edge.kind

end Edge

theorem EdgeKind.name_injective {first second : EdgeKind} (same : first.name = second.name) :
    first = second := by
  revert same
  cases first <;> cases second <;> decide

theorem EdgeKind.noColon (kind : EdgeKind) : ':' ∉ kind.name.toList := by
  cases kind <;> decide

/-- The id of an edge ends in its kind, which has no colon in it. -/
theorem kind_eq_of_edgeId_eq {source target otherSource otherTarget : String}
    {kind other : EdgeKind}
    (same : edgeId source target kind = edgeId otherSource otherTarget other) :
    kind = other := by
  have single : ":".toList = [':'] := by decide
  exact EdgeKind.name_injective
    (Text.eq_of_joined_eq single kind.noColon other.noColon same).2

/-- Named edges share an id only if they are of one kind. -/
theorem Edge.kind_eq_of_id_eq {first second : Edge} (named : first.IsNamed)
    (alsoNamed : second.IsNamed) (same : first.id = second.id) : first.kind = second.kind :=
  kind_eq_of_edgeId_eq (named.symm.trans (same.trans alsoNamed))

namespace GraphBuilder

variable {steps : List BuildStep}

/-- If all nodes have labels, the nodes of a kind have the ids that the steps give to that kind. -/
theorem exists_sort_run_iff (labelled : ∀ node ∈ BuildStep.nodes steps, node.IsLabelled)
    {sort : String × Lane × String} {id : String} :
    (∃ node ∈ (run steps).nodes, node.kind.sort = sort ∧ node.id = id) ↔
      ∃ node ∈ BuildStep.nodes steps, node.kind.sort = sort ∧ node.id = id := by
  constructor
  · intro given
    obtain ⟨node, present, rfl, rfl⟩ := given
    obtain ⟨added, brought, same⟩ := exists_step_of_mem_nodes_run present
    exact ⟨added, brought, Node.sort_eq_of_bare_eq same, Node.id_eq_of_bare_eq same⟩
  · intro given
    obtain ⟨added, brought, rfl, rfl⟩ := given
    obtain ⟨node, present, sameId⟩ :=
      List.mem_map.mp (mem_nodeIds_run.mpr ⟨added, brought, rfl⟩)
    obtain ⟨first, alsoBrought, same⟩ := exists_step_of_mem_nodes_run present
    have firstId : first.id = added.id := (Node.id_eq_of_bare_eq same).trans sameId
    refine ⟨node, present, ?_, sameId⟩
    rw [← Node.sort_eq_of_bare_eq same]
    exact Node.sort_eq_of_id_eq (labelled first alsoBrought) (labelled added brought) firstId

/-- If all nodes have labels, the nodes of a lane have the ids that the steps give to that lane. -/
theorem exists_lane_run_iff (labelled : ∀ node ∈ BuildStep.nodes steps, node.IsLabelled)
    {lane : Lane} {id : String} :
    (∃ node ∈ (run steps).nodes, node.kind.lane = lane ∧ node.id = id) ↔
      ∃ node ∈ BuildStep.nodes steps, node.kind.lane = lane ∧ node.id = id := by
  constructor
  · intro given
    obtain ⟨node, present, rfl, rfl⟩ := given
    obtain ⟨added, brought, sameSort, sameId⟩ :=
      (exists_sort_run_iff labelled).mp ⟨node, present, rfl, rfl⟩
    exact ⟨added, brought, congrArg (·.2.1) sameSort, sameId⟩
  · intro given
    obtain ⟨added, brought, rfl, rfl⟩ := given
    obtain ⟨node, present, sameSort, sameId⟩ :=
      (exists_sort_run_iff labelled).mpr ⟨added, brought, rfl, rfl⟩
    exact ⟨node, present, congrArg (·.2.1) sameSort, sameId⟩

/-- If all edges are named, the edges of a kind have the ids that the steps give to that kind. -/
theorem exists_kind_run_iff (named : ∀ edge ∈ BuildStep.edges steps, edge.IsNamed)
    {kind : EdgeKind} {id : String} :
    (∃ edge ∈ (run steps).edges, edge.kind = kind ∧ edge.id = id) ↔
      ∃ edge ∈ BuildStep.edges steps, edge.kind = kind ∧ edge.id = id := by
  constructor
  · intro given
    obtain ⟨edge, present, rfl, rfl⟩ := given
    exact ⟨edge, mem_edges_of_mem_edges_run present, rfl, rfl⟩
  · intro given
    obtain ⟨added, brought, rfl, rfl⟩ := given
    obtain ⟨edge, present, sameId⟩ := List.mem_map.mp (mem_edgeIds_run.mpr ⟨added, brought, rfl⟩)
    have alsoBrought := mem_edges_of_mem_edges_run present
    exact ⟨edge, present,
      Edge.kind_eq_of_id_eq (named edge alsoBrought) (named added brought) sameId, sameId⟩

end GraphBuilder

end AccessGraph
