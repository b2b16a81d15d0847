/-
This file says when a graph is valid, and which steps of building lead to a valid graph.
-/

import AccessGraph.Proofs.Graph.Run

namespace AccessGraph

namespace Graph

def nodeIds (graph : Graph) : List String :=
  graph.nodes.map (·.id)

def edgeIds (graph : Graph) : List String :=
  graph.edges.map (·.id)

/-- The ids of the nodes whose kind belongs to a lane. -/
def nodeIdsIn (graph : Graph) (lane : Lane) : List String :=
  (graph.nodes.filter (·.kind.lane == lane)).map (·.id)

/-- The ids of the edges of a kind. -/
def edgeIdsOf (graph : Graph) (kind : EdgeKind) : List String :=
  (graph.edgesOf kind).map (·.id)

theorem mem_nodeIdsIn {graph : Graph} {lane : Lane} {id : String} :
    id ∈ graph.nodeIdsIn lane ↔ ∃ node ∈ graph.nodes, node.kind.lane = lane ∧ node.id = id := by
  simp [nodeIdsIn, and_assoc]

theorem mem_edgeIdsOf {graph : Graph} {kind : EdgeKind} {id : String} :
    id ∈ graph.edgeIdsOf kind ↔ ∃ edge ∈ graph.edges, edge.kind = kind ∧ edge.id = id := by
  simp [edgeIdsOf, edgesOf, and_assoc]

/-- The ids of nodes differ, and every edge leads from a node to a node of the graph. -/
structure WellFormed (graph : Graph) : Prop where
  distinctNodes : graph.nodeIds.Nodup
  presentEnds : ∀ edge ∈ graph.edges, edge.source ∈ graph.nodeIds ∧ edge.target ∈ graph.nodeIds

/-- No id is found repeated exactly when all differ from each other and from those passed. -/
theorem repeated?_eq_none_iff {passed ids : List String} :
    repeated? passed ids = none ↔ ids.Nodup ∧ ∀ id ∈ ids, id ∉ passed := by
  induction ids generalizing passed with
  | nil => simp [repeated?]
  | cons id rest inductionHypothesis =>
      rw [repeated?]
      split
      · rename_i known
        have again : id ∈ passed := List.contains_iff_mem.mp known
        simp [again]
      · rename_i fresh
        rw [List.contains_iff_mem] at fresh
        rw [inductionHypothesis, List.nodup_cons, List.forall_mem_cons]
        constructor
        · intro given
          obtain ⟨distinct, later⟩ := given
          have absent : id ∉ rest := by
            intro again
            exact later id again List.mem_cons_self
          refine ⟨⟨absent, distinct⟩, fresh, ?_⟩
          intro other member known
          exact later other member (List.mem_cons_of_mem _ known)
        · intro given
          obtain ⟨⟨absent, distinct⟩, _, later⟩ := given
          refine ⟨distinct, ?_⟩
          intro other member known
          rcases List.mem_cons.mp known with same | known
          · exact absent (same ▸ member)
          · exact later other member known

/-- No end is found missing exactly when both are among the ids. -/
theorem missingEnd?_eq_none_iff {ids : List String} {edge : Edge} :
    missingEnd? ids edge = none ↔ edge.source ∈ ids ∧ edge.target ∈ ids := by
  simp [missingEnd?]

/-- The check accepts exactly the well-formed graphs. -/
theorem validate_eq_ok_iff {graph : Graph} : graph.validate = .ok () ↔ graph.WellFormed := by
  have opened : graph.validate = .ok () ↔ repeated? [] graph.nodeIds = none ∧
      graph.edges.findSome? (missingEnd? graph.nodeIds) = none := by
    unfold validate nodeIds
    dsimp only
    cases repeated? [] (graph.nodes.map (·.id)) with
    | some id => simp
    | none => cases graph.edges.findSome? (missingEnd? (graph.nodes.map (·.id))) <;> simp
  simp only [opened, repeated?_eq_none_iff, List.findSome?_eq_none_iff, missingEnd?_eq_none_iff]
  constructor
  · intro given
    obtain ⟨⟨distinct, -⟩, ends⟩ := given
    exact ⟨distinct, ends⟩
  · intro given
    obtain ⟨distinct, ends⟩ := given
    exact ⟨⟨distinct, by simp⟩, ends⟩

end Graph

namespace BuildStep

/-- Both ends of every edge that the steps bring are known before or brought as nodes. -/
def Supplied (known : List String) (steps : List BuildStep) : Prop :=
  ∀ edge ∈ edges steps, ∀ id ∈ [edge.source, edge.target],
    id ∈ known ∨ ∃ node ∈ nodes steps, node.id = id

theorem Supplied.mono {known more : List String} {steps : List BuildStep}
    (supplied : Supplied known steps) (within : known ⊆ more) : Supplied more steps := by
  intro edge brought id isEnd
  exact (supplied edge brought id isEnd).imp_left fun before => within before

theorem Supplied.append {known : List String} {first second : List BuildStep}
    (supplied : Supplied known first) (alsoSupplied : Supplied known second) :
    Supplied known (first ++ second) := by
  intro edge brought id isEnd
  rw [edges_append, List.mem_append] at brought
  simp only [nodes_append, List.mem_append]
  rcases brought with early | late
  · rcases supplied edge early id isEnd with before | ⟨node, member, same⟩
    · exact .inl before
    · exact .inr ⟨node, .inl member, same⟩
  · rcases alsoSupplied edge late id isEnd with before | ⟨node, member, same⟩
    · exact .inl before
    · exact .inr ⟨node, .inr member, same⟩

theorem Supplied.flatMap {α : Type} {known : List String} {elements : List α}
    {steps : α → List BuildStep} (each : ∀ element ∈ elements, Supplied known (steps element)) :
    Supplied known (elements.flatMap steps) := by
  induction elements with
  | nil =>
      intro edge brought
      simp at brought
  | cons element rest inductionHypothesis =>
      rw [List.flatMap_cons]
      exact (each element List.mem_cons_self).append
        (inductionHypothesis fun other member => each other (List.mem_cons_of_mem _ member))

/-- What some steps bring is known to the steps that come with them. -/
theorem Supplied.append_of_known {known : List String} {first second : List BuildStep}
    (supplied : Supplied [] first) (rest : Supplied known second)
    (brought : ∀ id ∈ known, ∃ node ∈ nodes first, node.id = id) :
    Supplied [] (first ++ second) := by
  intro edge member id isEnd
  rw [edges_append, List.mem_append] at member
  simp only [nodes_append, List.mem_append]
  refine .inr ?_
  rcases member with early | late
  · rcases supplied edge early id isEnd with before | ⟨node, member, same⟩
    · simp at before
    · exact ⟨node, .inl member, same⟩
  · rcases rest edge late id isEnd with before | ⟨node, member, same⟩
    · obtain ⟨node, member, same⟩ := brought id before
      exact ⟨node, .inl member, same⟩
    · exact ⟨node, .inr member, same⟩

end BuildStep

namespace GraphBuilder

variable (builder : GraphBuilder)

/-- Sorting for display neither adds nor drops a node. -/
theorem nodes_finish_perm : builder.finish.nodes.Perm builder.nodes := by
  have sorted := (List.mergeSort_perm (builder.nodes.map fun node => (nodeKey node, node))
    fun first second => (nodeOrder first.1 second.1).isLE).map (·.2)
  rw [List.map_map] at sorted
  simpa [finish, sortNodes, Function.comp_def] using sorted

/-- Sorting for display neither adds nor drops an edge. -/
theorem edges_finish_perm : builder.finish.edges.Perm builder.edges :=
  List.mergeSort_perm builder.edges _

theorem mem_nodes_finish {node : Node} : node ∈ builder.finish.nodes ↔ node ∈ builder.nodes :=
  builder.nodes_finish_perm.mem_iff

theorem mem_edges_finish {edge : Edge} : edge ∈ builder.finish.edges ↔ edge ∈ builder.edges :=
  builder.edges_finish_perm.mem_iff

theorem mem_nodeIds_finish {id : String} : id ∈ builder.finish.nodeIds ↔ id ∈ builder.nodeIds :=
  (builder.nodes_finish_perm.map _).mem_iff

theorem mem_edgeIds_finish {id : String} : id ∈ builder.finish.edgeIds ↔ id ∈ builder.edgeIds :=
  (builder.edges_finish_perm.map _).mem_iff

/-- Supplied steps build a well-formed graph. -/
theorem wellFormed_finish_run {steps : List BuildStep} (supplied : BuildStep.Supplied [] steps) :
    (run steps).finish.WellFormed := by
  constructor
  · exact ((run steps).nodes_finish_perm.map _).nodup_iff.mpr (nodeIds_run_nodup steps)
  · intro edge present
    rw [mem_edges_finish] at present
    have ends : ∀ id ∈ [edge.source, edge.target], id ∈ (run steps).finish.nodeIds := by
      intro id isEnd
      rw [mem_nodeIds_finish, mem_nodeIds_run]
      exact (supplied edge (mem_edges_of_mem_edges_run present) id isEnd).resolve_left (by simp)
    exact ⟨ends _ (by simp), ends _ (by simp)⟩

end GraphBuilder

end AccessGraph
