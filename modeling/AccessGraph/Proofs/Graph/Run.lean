/-
This file says which nodes and edges a run of build steps leaves: the first of every id, in the
order of the steps.
-/

import AccessGraph.Graph.Builder

namespace AccessGraph

namespace BuildStep

/-- The node that a step brings. -/
def node? : BuildStep → Option Node
  | .node added => some added
  | .role added => some added
  | .edge _ => none

/-- The edge that a step brings. -/
def edge? : BuildStep → Option Edge
  | .edge added => some added
  | _ => none

/-- The nodes that some steps bring, those with an id that is there already included. -/
def nodes (steps : List BuildStep) : List Node :=
  steps.filterMap node?

/-- The edges that some steps bring, those with an id that is there already included. -/
def edges (steps : List BuildStep) : List Edge :=
  steps.filterMap edge?

@[simp] theorem nodes_nil : nodes [] = [] := rfl

@[simp] theorem edges_nil : edges [] = [] := rfl

@[simp] theorem nodes_cons_node (added : Node) (steps : List BuildStep) :
    nodes (.node added :: steps) = added :: nodes steps := rfl

@[simp] theorem nodes_cons_role (added : Node) (steps : List BuildStep) :
    nodes (.role added :: steps) = added :: nodes steps := rfl

@[simp] theorem nodes_cons_edge (added : Edge) (steps : List BuildStep) :
    nodes (.edge added :: steps) = nodes steps := rfl

@[simp] theorem edges_cons_node (added : Node) (steps : List BuildStep) :
    edges (.node added :: steps) = edges steps := rfl

@[simp] theorem edges_cons_role (added : Node) (steps : List BuildStep) :
    edges (.role added :: steps) = edges steps := rfl

@[simp] theorem edges_cons_edge (added : Edge) (steps : List BuildStep) :
    edges (.edge added :: steps) = added :: edges steps := rfl

@[simp] theorem nodes_append (first second : List BuildStep) :
    nodes (first ++ second) = nodes first ++ nodes second :=
  List.filterMap_append

@[simp] theorem edges_append (first second : List BuildStep) :
    edges (first ++ second) = edges first ++ edges second :=
  List.filterMap_append

@[simp] theorem nodes_flatMap {α : Type} (elements : List α) (steps : α → List BuildStep) :
    nodes (elements.flatMap steps) = elements.flatMap fun element => nodes (steps element) := by
  induction elements with
  | nil => rfl
  | cons element rest inductionHypothesis =>
      simp only [List.flatMap_cons, nodes_append, inductionHypothesis]

@[simp] theorem edges_flatMap {α : Type} (elements : List α) (steps : α → List BuildStep) :
    edges (elements.flatMap steps) = elements.flatMap fun element => edges (steps element) := by
  induction elements with
  | nil => rfl
  | cons element rest inductionHypothesis =>
      simp only [List.flatMap_cons, edges_append, inductionHypothesis]

theorem mem_nodes_ite {condition : Bool} {steps : List BuildStep} {added : Node} :
    added ∈ nodes (if condition then steps else []) ↔ condition = true ∧ added ∈ nodes steps := by
  cases condition <;> simp

theorem mem_edges_ite {condition : Bool} {steps : List BuildStep} {added : Edge} :
    added ∈ edges (if condition then steps else []) ↔ condition = true ∧ added ∈ edges steps := by
  cases condition <;> simp

end BuildStep

/-- A node without what may change of it: the details of a role. -/
def Node.bare (node : Node) : Node :=
  { node with kind := node.kind.mapRoleDetails fun _ => .empty }

namespace Node

@[simp] theorem bare_id (node : Node) : node.bare.id = node.id := rfl

theorem id_eq_of_bare_eq {first second : Node} (same : first.bare = second.bare) :
    first.id = second.id := by
  rw [← bare_id first, same, bare_id]

/-- A role absorbs nothing but details. -/
@[simp] theorem bare_absorb (node incoming : Node) : (node.absorb incoming).bare = node.bare := by
  rcases node with ⟨id, name, space, lane, kind⟩
  unfold absorb
  split
  · cases kind <;> rfl
  · rfl

end Node

namespace GraphBuilder

variable (builder : GraphBuilder)

/-- The ids of the nodes that are there. -/
def nodeIds : List String :=
  builder.nodes.map (·.id)

/-- The ids of the edges that are there. -/
def edgeIds : List String :=
  builder.edges.map (·.id)

theorem hasNode_eq_contains (id : String) : builder.hasNode id = builder.nodeIds.contains id := by
  rw [Bool.eq_iff_iff, List.contains_iff_mem]
  simp [hasNode, nodeIds]

theorem hasEdge_eq_contains (id : String) : builder.hasEdge id = builder.edgeIds.contains id := by
  rw [Bool.eq_iff_iff, List.contains_iff_mem]
  simp [hasEdge, edgeIds]

/-- A node or a role is added at the end, unless its id is there; no other node changes but for the
details of roles. -/
theorem bare_nodes_apply (step : BuildStep) :
    (builder.apply step).nodes.map Node.bare =
      builder.nodes.map Node.bare ++
        distinctAfter Node.id builder.nodeIds ((BuildStep.nodes [step]).map Node.bare) := by
  have added (node : Node) : (builder.addNode node).nodes.map Node.bare =
      builder.nodes.map Node.bare ++ distinctAfter Node.id builder.nodeIds [node.bare] := by
    rw [addNode, hasNode_eq_contains, distinctAfter, Node.bare_id]
    cases builder.nodeIds.contains node.id <;> simp [distinctAfter]
  cases step with
  | node node => exact added node
  | edge edge =>
      change (builder.addEdge edge).nodes.map Node.bare = _
      unfold addEdge
      split <;> simp [distinctAfter]
  | role node =>
      change (builder.upsertRole node).nodes.map Node.bare =
        _ ++ distinctAfter Node.id builder.nodeIds [node.bare]
      unfold upsertRole
      split
      · rename_i known
        rw [hasNode_eq_contains] at known
        have unchanged : ∀ other ∈ builder.nodes,
            (if other.id == node.id then other.absorb node else other).bare = other.bare := by
          intro other _
          split <;> simp
        rw [distinctAfter, Node.bare_id, if_pos known, distinctAfter, List.append_nil, List.map_map]
        exact List.map_congr_left unchanged
      · exact added node

/-- An edge is added at the end, unless its id is there. -/
theorem edges_apply (step : BuildStep) :
    (builder.apply step).edges =
      builder.edges ++ distinctAfter Edge.id builder.edgeIds (BuildStep.edges [step]) := by
  have unchanged (node : Node) : (builder.addNode node).edges = builder.edges := by
    unfold addNode
    split <;> rfl
  cases step with
  | node node => simp [apply, unchanged, distinctAfter]
  | edge edge =>
      rw [apply, addEdge, hasEdge_eq_contains, BuildStep.edges_cons_edge, BuildStep.edges_nil,
        distinctAfter]
      cases builder.edgeIds.contains edge.id <;> simp [distinctAfter]
  | role node =>
      change (builder.upsertRole node).edges = _
      unfold upsertRole
      split <;> simp [unchanged, distinctAfter]

/-- A run keeps what is there and adds the first node of every new id. -/
theorem bare_nodes_foldl_apply (steps : List BuildStep) :
    (steps.foldl apply builder).nodes.map Node.bare =
      builder.nodes.map Node.bare ++
        distinctAfter Node.id builder.nodeIds ((BuildStep.nodes steps).map Node.bare) := by
  induction steps generalizing builder with
  | nil => simp [distinctAfter]
  | cons step rest inductionHypothesis =>
      have ids : (builder.apply step).nodeIds = builder.nodeIds ++
          (distinctAfter Node.id builder.nodeIds
            ((BuildStep.nodes [step]).map Node.bare)).map Node.id := by
        have named := congrArg (List.map Node.id) (bare_nodes_apply builder step)
        rw [List.map_append, List.map_map, List.map_map] at named
        exact named
      have split : BuildStep.nodes (step :: rest) =
          BuildStep.nodes [step] ++ BuildStep.nodes rest := BuildStep.nodes_append [step] rest
      rw [List.foldl_cons, inductionHypothesis, bare_nodes_apply, ids, split, List.map_append,
        distinctAfter_append, List.append_assoc]

/-- A run keeps what is there and adds the first edge of every new id. -/
theorem edges_foldl_apply (steps : List BuildStep) :
    (steps.foldl apply builder).edges =
      builder.edges ++ distinctAfter Edge.id builder.edgeIds (BuildStep.edges steps) := by
  induction steps generalizing builder with
  | nil => simp [distinctAfter]
  | cons step rest inductionHypothesis =>
      have ids : (builder.apply step).edgeIds = builder.edgeIds ++
          (distinctAfter Edge.id builder.edgeIds (BuildStep.edges [step])).map Edge.id := by
        rw [edgeIds, edges_apply, List.map_append]
        rfl
      have split : BuildStep.edges (step :: rest) =
          BuildStep.edges [step] ++ BuildStep.edges rest := BuildStep.edges_append [step] rest
      rw [List.foldl_cons, inductionHypothesis, edges_apply, ids, split, distinctAfter_append,
        List.append_assoc]

/-- Up to the details of roles, the nodes of a graph are the first of every id. -/
theorem bare_nodes_run (steps : List BuildStep) :
    (run steps).nodes.map Node.bare =
      distinctBy Node.id ((BuildStep.nodes steps).map Node.bare) :=
  bare_nodes_foldl_apply empty steps

/-- The edges of a graph are the first of every id. -/
theorem edges_run (steps : List BuildStep) :
    (run steps).edges = distinctBy Edge.id (BuildStep.edges steps) :=
  edges_foldl_apply empty steps

theorem nodeIds_run_eq_map (steps : List BuildStep) :
    (run steps).nodeIds =
      (distinctBy Node.id ((BuildStep.nodes steps).map Node.bare)).map Node.id := by
  rw [← bare_nodes_run, List.map_map]
  rfl

/-- No two nodes of a graph share an id. -/
theorem nodeIds_run_nodup (steps : List BuildStep) : (run steps).nodeIds.Nodup := by
  rw [nodeIds_run_eq_map]
  exact distinctBy_keys Node.id _

/-- No two edges of a graph share an id. -/
theorem edgeIds_run_nodup (steps : List BuildStep) : (run steps).edgeIds.Nodup := by
  rw [edgeIds, edges_run]
  exact distinctBy_keys Edge.id _

/-- Every node that a step brings leaves its id. -/
theorem mem_nodeIds_run {steps : List BuildStep} {id : String} :
    id ∈ (run steps).nodeIds ↔ ∃ node ∈ BuildStep.nodes steps, node.id = id := by
  rw [nodeIds_run_eq_map, key_mem_distinctBy, List.map_map, List.mem_map]
  rfl

/-- Every edge that a step brings leaves its id. -/
theorem mem_edgeIds_run {steps : List BuildStep} {id : String} :
    id ∈ (run steps).edgeIds ↔ ∃ edge ∈ BuildStep.edges steps, edge.id = id := by
  rw [edgeIds, edges_run, key_mem_distinctBy, List.mem_map]

/-- Every node of a graph comes from a step that brings it, up to the details of a role. -/
theorem exists_step_of_mem_nodes_run {steps : List BuildStep} {node : Node}
    (present : node ∈ (run steps).nodes) :
    ∃ added ∈ BuildStep.nodes steps, added.bare = node.bare := by
  have kept : node.bare ∈ (run steps).nodes.map Node.bare := List.mem_map_of_mem present
  rw [bare_nodes_run] at kept
  exact List.mem_map.mp ((distinctBy_sublist Node.id _).subset kept)

/-- Every edge of a graph comes from a step that brings it. -/
theorem mem_edges_of_mem_edges_run {steps : List BuildStep} {edge : Edge}
    (present : edge ∈ (run steps).edges) : edge ∈ BuildStep.edges steps := by
  rw [edges_run] at present
  exact (distinctBy_sublist Edge.id _).subset present

end GraphBuilder

end AccessGraph
