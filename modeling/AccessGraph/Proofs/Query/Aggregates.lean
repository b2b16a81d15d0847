/-
This file says that the aggregation that a graph shows goes round in no circle, with relations
between the bundles or without.
-/

import AccessGraph.Proofs.Aggregation.Sources
import AccessGraph.Proofs.Catalog.Restriction
import AccessGraph.Proofs.Query.Reachability

namespace AccessGraph

open Relation

/-- An edge of this kind leads from one node to the other. -/
def Graph.Joins (graph : Graph) (kind : EdgeKind) (source target : String) : Prop :=
  ∃ edge ∈ graph.edges, edge.kind = kind ∧ edge.source = source ∧ edge.target = target

/-- Some bundle goes by this id. -/
def IsBundleId (id : String) : Prop :=
  ∃ bundle : Bundle, bundle.id = id

theorem aggregationNodeId_injective {first second : String}
    (same : aggregationNodeId first = aggregationNodeId second) : first = second :=
  (String.append_right_inj "aggregation:").mp same

theorem IsBundleId.ne_aggregationNodeId {id : String} (named : IsBundleId id) (target : String) :
    id ≠ aggregationNodeId target := by
  intro same
  obtain ⟨bundle, rfl⟩ := named
  have heads := bundle.head?_id
  rw [same] at heads
  cases cluster : bundle.isClusterScoped <;>
    simp [aggregationNodeId, String.toList_append, cluster] at heads

/-- An id stands for a bundle when it is the bundle's own or that of the relation before it. -/
structure StandsFor (id target : String) : Prop where
  named : IsBundleId target
  either : id = target ∨ id = aggregationNodeId target

theorem StandsFor.unique {id first second : String} (stands : StandsFor id first)
    (alsoStands : StandsFor id second) : first = second := by
  rcases stands.either with rfl | rfl
  · rcases alsoStands.either with same | relation
    · exact same
    · exact absurd relation (stands.named.ne_aggregationNodeId second)
  · rcases alsoStands.either with same | relation
    · exact absurd same.symm (alsoStands.named.ne_aggregationNodeId first)
    · exact aggregationNodeId_injective relation

/-- Rules flow from a bundle and the relation before it to those that the bundle contributes to,
and from the relation into its bundle. -/
inductive Flows (bundles : SortedMap Bundle) (before after : String) : Prop
  | onward {source target : String} (leaves : StandsFor before source)
      (enters : StandsFor after target)
      (contributes : TransGen (Aggregation.Contributes bundles) source target)
  | inward (named : IsBundleId after) (relation : before = aggregationNodeId after)

namespace Flows

variable {bundles : SortedMap Bundle} {first second third : String}

/-- The id in between stands for one bundle alone, so that both steps are about the same one. -/
theorem trans (flows : Flows bundles first second) (further : Flows bundles second third) :
    Flows bundles first third := by
  cases flows with
  | onward leaves enters contributes =>
      cases further with
      | onward alsoLeaves alsoEnters alsoContributes =>
          cases enters.unique alsoLeaves
          exact .onward leaves alsoEnters (contributes.trans alsoContributes)
      | inward named relation =>
          cases enters.unique ⟨named, .inr relation⟩
          exact .onward leaves ⟨named, .inl rfl⟩ contributes
  | inward named relation =>
      cases further with
      | onward alsoLeaves alsoEnters alsoContributes =>
          cases alsoLeaves.unique ⟨named, .inl rfl⟩
          exact .onward ⟨named, .inr relation⟩ alsoEnters alsoContributes
      | inward alsoNamed alsoRelation =>
          exact absurd alsoRelation (named.ne_aggregationNodeId third)

theorem irrefl (id : String) : ¬ Flows bundles id id := by
  intro circle
  cases circle with
  | onward leaves enters contributes =>
      cases leaves.unique enters
      exact Aggregation.contributes_acyclic _ contributes
  | inward named relation => exact named.ne_aggregationNodeId id relation

end Flows

section

variable {catalog : Catalog} {discovery : Option Discovery} {request : Request}

/-- Every edge of aggregation in an answer leads where rules flow. -/
theorem flows_of_joins {source target : String}
    (joins : (answer catalog discovery request).graph.Joins .aggregates source target) :
    Flows (CatalogIndex.of catalog).bundles source target := by
  obtain ⟨edge, present, kind, rfl, rfl⟩ := joins
  have coherent := inquiryFor_coherent catalog discovery request
  rcases Inquiry.brought_of_mem_edges present with ⟨reached, member, edge⟩ | ⟨account, -, edge⟩
  · have named : IsBundleId reached.id :=
      ⟨_, coherent.ids _ _ (Inquiry.mem_reached_iff.mp member).known⟩
    cases edge with
    | grants => cases kind
    | targets => cases kind
    | contributes shown known =>
        exact .onward ⟨⟨_, coherent.ids _ _ known⟩, .inl rfl⟩ ⟨named, .inl rfl⟩ (.single shown)
    | gathers _ leaf =>
        have shown := (List.mem_filter.mp leaf).1
        obtain ⟨bundle, known⟩ := coherent.sources _ _ shown
        exact .onward ⟨⟨_, coherent.ids _ _ known⟩, .inl rfl⟩ ⟨named, .inr rfl⟩ (.single shown)
    | flows => exact .inward named rfl
    | permits => cases kind
  · cases edge <;> cases kind

theorem answer_aggregates_acyclic (id : String) :
    ¬ TransGen ((answer catalog discovery request).graph.Joins .aggregates) id id := by
  intro circle
  have flows {after : String}
      (path : TransGen ((answer catalog discovery request).graph.Joins .aggregates) id after) :
      Flows (CatalogIndex.of catalog).bundles id after := by
    induction path with
    | single joins => exact flows_of_joins joins
    | tail _ joins inductionHypothesis => exact inductionHypothesis.trans (flows_of_joins joins)
  exact Flows.irrefl id (flows circle)

end

/-- Exactly those sources are shown that a bundle selects and that do not take it over, in order and
each once; neither these nor the edges of aggregation in a graph lead round in a circle. -/
theorem shown_aggregation_exact_and_acyclic :
    (∀ bundles target, ((Aggregation.resolve bundles).sourcesOf target).Pairwise (· < ·) ∧
      ∀ source, source ∈ (Aggregation.resolve bundles).sourcesOf target ↔
        Aggregation.Selects bundles target source ∧
          ¬ TransGen (Aggregation.Selects bundles) source target) ∧
    (∀ bundles id, ¬ TransGen (fun source target =>
      source ∈ (Aggregation.resolve bundles).sourcesOf target) id id) ∧
    ∀ catalog discovery request response, query catalog discovery request = .ok response →
      ∀ id, ¬ TransGen (response.graph.Joins .aggregates) id id := by
  refine ⟨?_, ?_, ?_⟩
  · intro bundles target
    exact ⟨Aggregation.sourcesOf_ascending target, fun source => Aggregation.mem_sourcesOf_iff⟩
  · intro bundles id
    exact Aggregation.contributes_acyclic id
  · intro catalog discovery request response answered
    rw [(eq_answer_of_query answered).2]
    exact answer_aggregates_acyclic

/-- Two teams take over each other's rules, and one of them those of a third team as well. -/
def circleCatalog : Catalog where
  bundles :=
    [Aggregation.teamBundle "blue" [Aggregation.readPods] ["green", "red"],
      Aggregation.teamBundle "green" [Aggregation.readNodes] ["blue"],
      ⟨.clusterRole, "red", none, SortedMap.empty.insert "team" "red", .empty,
        [Aggregation.readNodes], none⟩]
  bindings := []
  pods := []
  workloads := []

/-- Who may do anything at all, and where does it come from? -/
def originRequest : Request :=
  { Request.standard with includeAggregates := true }

theorem shown_aggregation_circleCatalog :
    (∃ response, query circleCatalog none originRequest = .ok response ∧
      edgeId "clusterrole:red" (aggregationNodeId "clusterrole:blue") .aggregates ∈
        response.graph.edgeIdsOf .aggregates ∧
      ∀ id, ¬ TransGen (response.graph.Joins .aggregates) id id) ∧
    TransGen (Aggregation.Selects (CatalogIndex.of circleCatalog).bundles)
      "clusterrole:blue" "clusterrole:blue" := by
  have valid : originRequest.validate = .ok () := rfl
  have answered := query_of_valid valid circleCatalog none
  refine ⟨⟨_, answered, ?_, shown_aggregation_exact_and_acyclic.2.2 _ _ _ _ answered⟩, ?_⟩
  · apply (Catalog.mem_aggregatesEdges_answer _ _ _ _).mpr
    refine .inr ⟨rfl, "clusterrole:red", "clusterrole:blue", ⟨?_, by decide, by decide⟩, .inl rfl⟩
    refine ⟨circleCatalog.bundles[0], by decide, .inl (by decide), ?_, ?_⟩
    · exact Catalog.exists_offers_of_any (by decide)
    · intro _ strict
      cases strict
  · apply TransGen.tail (.single (Aggregation.mem_next_iff.mp _)) (Aggregation.mem_next_iff.mp _)
    · exact "clusterrole:green"
    · decide
    · decide

end AccessGraph
