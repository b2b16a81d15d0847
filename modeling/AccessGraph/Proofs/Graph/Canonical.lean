/-
This file says what holds of a graph that is built step by step, whatever the steps are: ids stay
apart, a node is the first that has been brought with its id, a role gathers all that is brought of
it and loses none of it, and the finished graph does not depend on the order of the steps.
-/

import AccessGraph.Proofs.Graph.Gathering

namespace AccessGraph

open Std (LawfulEqOrd OrientedCmp TransCmp)

namespace GraphBuilder

/-- The order of two nodes is that of their keys. -/
def compareNodes (first second : Node) : Ordering :=
  nodeOrder (nodeKey first) (nodeKey second)

instance : TransCmp nodeOrder := by
  unfold nodeOrder
  infer_instance

instance : TransCmp compareNodes where
  eq_swap := by
    intro first second
    unfold compareNodes
    exact OrientedCmp.eq_swap
  isLE_trans := by
    intro first second third
    unfold compareNodes
    exact TransCmp.isLE_trans

instance : TransCmp edgeOrder := by
  unfold edgeOrder
  infer_instance

theorem id_eq_of_compareNodes {first second : Node} (same : compareNodes first second = .eq) :
    first.id = second.id := by
  simp only [compareNodes, nodeOrder, nodeKey, compareLex_eq_eq, compareOn,
    LawfulEqOrd.compare_eq_iff_eq] at same
  exact same.2.2

theorem id_eq_of_edgeOrder {first second : Edge} (same : edgeOrder first second = .eq) :
    first.id = second.id := by
  simp only [edgeOrder, compareLex_eq_eq, compareOn, LawfulEqOrd.compare_eq_iff_eq] at same
  exact same.2.2.2

theorem sortNodes_eq_mergeSort (nodes : List Node) :
    sortNodes nodes =
      nodes.mergeSort fun first second => (compareNodes first second).isLE := by
  have decorated := List.map_mergeSort (f := fun node => (nodeKey node, node))
    (r := fun first second => (compareNodes first second).isLE)
    (s := fun first second => (nodeOrder first.1 second.1).isLE) (l := nodes)
    (fun _ _ _ _ => rfl)
  rw [sortNodes, ← decorated, List.map_map]
  exact List.map_id _

/-- Elements whose ids differ are different, and none of them is equal to another in an order that
tells ids apart. -/
theorem strict_of_ids {α : Type} {id : α → String} {order : α → α → Ordering} {elements : List α}
    (differ : (elements.map id).Nodup)
    (tells : ∀ element other, order element other = .eq → id element = id other) :
    ∀ element ∈ elements, ∀ other ∈ elements, order element other = .eq → element = other := by
  intro element member other alsoMember same
  exact List.inj_on_of_nodup_map differ member alsoMember (tells element other same)

section

variable {builder : GraphBuilder}

theorem nodes_finish_ascending (differ : builder.nodeIds.Nodup) :
    builder.finish.nodes.Pairwise fun first second => compareNodes first second = .lt := by
  change (sortNodes builder.nodes).Pairwise _
  rw [sortNodes_eq_mergeSort]
  exact mergeSort_ascending_of_strict (strict_of_ids differ fun _ _ => id_eq_of_compareNodes)
    differ.of_map

theorem edges_finish_ascending (differ : builder.edgeIds.Nodup) :
    builder.finish.edges.Pairwise fun first second => edgeOrder first second = .lt :=
  mergeSort_ascending_of_strict (strict_of_ids differ fun _ _ => id_eq_of_edgeOrder) differ.of_map

/-- What is finished does not depend on the order in which nodes and edges have come. -/
theorem finish_eq_iff {other : GraphBuilder} (nodesDiffer : builder.nodeIds.Nodup)
    (edgesDiffer : builder.edgeIds.Nodup) (otherNodesDiffer : other.nodeIds.Nodup)
    (otherEdgesDiffer : other.edgeIds.Nodup) :
    builder.finish = other.finish ↔ (∀ node, node ∈ builder.nodes ↔ node ∈ other.nodes) ∧
      ∀ edge, edge ∈ builder.edges ↔ edge ∈ other.edges := by
  constructor
  · intro same
    constructor
    · intro node
      rw [← builder.mem_nodes_finish, same, other.mem_nodes_finish]
    · intro edge
      rw [← builder.mem_edges_finish, same, other.mem_edges_finish]
  · intro given
    obtain ⟨sameNodes, sameEdges⟩ := given
    have nodes : builder.nodes.Perm other.nodes :=
      (List.perm_ext_iff_of_nodup nodesDiffer.of_map otherNodesDiffer.of_map).mpr sameNodes
    have edges : builder.edges.Perm other.edges :=
      (List.perm_ext_iff_of_nodup edgesDiffer.of_map otherEdgesDiffer.of_map).mpr sameEdges
    have strictNodes := strict_of_ids nodesDiffer fun _ _ => id_eq_of_compareNodes
    have strictEdges := strict_of_ids edgesDiffer fun _ _ => id_eq_of_edgeOrder
    simp only [finish, sortEdges, sortNodes_eq_mergeSort, mergeSort_eq_of_perm strictNodes nodes,
      mergeSort_eq_of_perm strictEdges edges]

end

/-- Whatever the steps, ids stay apart, and the node and the edge of an id are the first that the
steps bring with it. If the node is a role, it has gathered all that the steps bring of it as a
role, and goes on to gather what further steps bring, without losing anything. -/
structure KeepsFirst (steps : List BuildStep) : Prop where
  differentNodes : (run steps).nodeIds.Nodup
  differentEdges : (run steps).edgeIds.Nodup
  missing : ∀ id, (run steps).node? id = none ↔ ∀ node ∈ BuildStep.nodes steps, node.id ≠ id
  first : ∀ id node, (run steps).node? id = some node →
    ∃ first, (BuildStep.nodes steps).find? (·.id == id) = some first ∧ first.GrowsInto node ∧
      first.Gathers (BuildStep.details id steps) node
  grows : ∀ more id node, (run steps).node? id = some node →
    ∃ grown, (run (steps ++ more)).node? id = some grown ∧ node.GrowsInto grown ∧
      node.Gathers (BuildStep.details id more) grown
  plain : ∀ more id node, (run steps).node? id = some node → node.isRole = false →
    (run (steps ++ more)).node? id = some node
  firstEdges : ∀ id, (run steps).edges.find? (·.id == id) =
    (BuildStep.edges steps).find? (·.id == id)

/-- Whatever the steps, the finished graph has the nodes and edges of the builder in strict order,
is the same for all builders that have them, and is valid if no edge lacks an end. -/
structure FinishesInOrder (steps : List BuildStep) : Prop where
  nodes : (run steps).finish.nodes.Perm (run steps).nodes
  edges : (run steps).finish.edges.Perm (run steps).edges
  ascendingNodes : (run steps).finish.nodes.Pairwise fun first second =>
    nodeOrder (nodeKey first) (nodeKey second) = .lt
  ascendingEdges : (run steps).finish.edges.Pairwise fun first second =>
    edgeOrder first second = .lt
  canonical : ∀ others, (run steps).finish = (run others).finish ↔
    (∀ node, node ∈ (run steps).nodes ↔ node ∈ (run others).nodes) ∧
      ∀ edge, edge ∈ (run steps).edges ↔ edge ∈ (run others).edges
  valid : (run steps).finish.validate = .ok () ↔
    ∀ edge ∈ (run steps).edges, (∃ node ∈ BuildStep.nodes steps, node.id = edge.source) ∧
      ∃ node ∈ BuildStep.nodes steps, node.id = edge.target

section

variable (steps : List BuildStep)

theorem node?_run_eq_none_iff (id : String) :
    (run steps).node? id = none ↔ ∀ node ∈ BuildStep.nodes steps, node.id ≠ id := by
  have absent : (run steps).node? id = none ↔ id ∉ (run steps).nodeIds := by
    rw [node?, List.find?_eq_none, nodeIds]
    simp
  rw [absent, mem_nodeIds_run]
  simp

theorem keepsFirst_run : KeepsFirst steps where
  differentNodes := nodeIds_run_nodup steps
  differentEdges := edgeIds_run_nodup steps
  missing := node?_run_eq_none_iff steps
  first := by
    intro id node found
    rw [run, node?_foldl_afterStep] at found
    obtain ⟨first, isFirst, gathers⟩ := gathers_of_foldl found
    exact ⟨first, isFirst, gathers.growsInto, gathers⟩
  grows := by
    intro more id node found
    obtain ⟨grown, foundLater, gathers⟩ := gathers_run_append more found
    exact ⟨grown, foundLater, gathers.growsInto, gathers⟩
  plain := by
    intro more id node found plain
    obtain ⟨grown, foundLater, gathers⟩ := gathers_run_append more found
    rw [foundLater, gathers.growsInto.eq_of_plain plain]
  firstEdges := by
    intro id
    rw [edges_run, find?_distinctBy]

theorem validate_finish_run_iff : (run steps).finish.validate = .ok () ↔
    ∀ edge ∈ (run steps).edges, (∃ node ∈ BuildStep.nodes steps, node.id = edge.source) ∧
      ∃ node ∈ BuildStep.nodes steps, node.id = edge.target := by
  rw [Graph.validate_eq_ok_iff]
  constructor
  · intro wellFormed edge present
    rw [← mem_nodeIds_run, ← mem_nodeIds_run, ← mem_nodeIds_finish, ← mem_nodeIds_finish]
    exact wellFormed.presentEnds edge ((run steps).mem_edges_finish.mpr present)
  · intro given
    refine ⟨((run steps).nodes_finish_perm.map _).nodup_iff.mpr (nodeIds_run_nodup steps), ?_⟩
    intro edge present
    rw [mem_nodeIds_finish, mem_nodeIds_finish, mem_nodeIds_run, mem_nodeIds_run]
    exact given edge ((run steps).mem_edges_finish.mp present)

theorem finishesInOrder_run : FinishesInOrder steps where
  nodes := (run steps).nodes_finish_perm
  edges := (run steps).edges_finish_perm
  ascendingNodes := nodes_finish_ascending (nodeIds_run_nodup steps)
  ascendingEdges := edges_finish_ascending (edgeIds_run_nodup steps)
  canonical := fun others =>
    finish_eq_iff (nodeIds_run_nodup steps) (edgeIds_run_nodup steps) (nodeIds_run_nodup others)
      (edgeIds_run_nodup others)
  valid := validate_finish_run_iff steps

end

/-- Whatever nodes, roles and edges have been added, ids differ, a node is found as it came first
but that a role has gathered all that came of it, and the nodes and edges alone decide on the
finished graph. -/
theorem run_keeps_first_and_finishes_in_order (steps : List BuildStep) :
    KeepsFirst steps ∧ FinishesInOrder steps :=
  ⟨keepsFirst_run steps, finishesInOrder_run steps⟩

end GraphBuilder

end AccessGraph
