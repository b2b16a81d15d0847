/-
This file says which edges lead to the bindings and the subjects of an answer: those that belong there,
but where the ends of two of them clash only one is left.
-/

import AccessGraph.Proofs.Graph.EdgeIds
import AccessGraph.Proofs.Query.Aggregates

namespace AccessGraph

namespace Catalog

section

variable (catalog : Catalog) (discovery : Option Discovery) (request : Request)

/-- A bundle that answers a request is granted by a binding that is shown. -/
def BoundBy (source target : String) : Prop :=
  ∃ binding, Binds catalog discovery request binding source ∧ binding.id = target

/-- A binding that is shown has a subject. -/
def Targets (source target : String) : Prop :=
  ∃ binding bundle, Binds catalog discovery request binding bundle ∧ binding.id = source ∧
    ∃ subject ∈ binding.subjects, subjectNodeId subject (subject.space binding) = target

end

end Catalog

/-- The edges of a kind join some pairs, none of which clash, and as many pairs as they can. -/
structure Graph.Links (graph : Graph) (kind : EdgeKind) (pairs : String → String → Prop) :
    Prop where
  justified : ∀ source target, graph.Joins kind source target → pairs source target
  apart : ∀ source target otherSource otherTarget, graph.Joins kind source target →
    graph.Joins kind otherSource otherTarget →
      ¬ Edge.Clash source target otherSource otherTarget
  kept : ∀ source target, pairs source target → graph.Joins kind source target ∨
    ∃ otherSource otherTarget, Edge.Clash otherSource otherTarget source target ∧
      graph.Joins kind otherSource otherTarget

/-- Where no pairs clash, there is an edge for each. -/
theorem Graph.Links.joins_iff {graph : Graph} {kind : EdgeKind} {pairs : String → String → Prop}
    (links : graph.Links kind pairs)
    (apart : ∀ source target otherSource otherTarget, pairs source target →
      pairs otherSource otherTarget → ¬ Edge.Clash otherSource otherTarget source target)
    (source target : String) : graph.Joins kind source target ↔ pairs source target := by
  refine ⟨links.justified source target, fun paired => ?_⟩
  rcases links.kept source target paired with joins | ⟨otherSource, otherTarget, clash, joins⟩
  · exact joins
  · exact absurd clash (apart _ _ _ _ paired (links.justified _ _ joins))

namespace Inquiry

section

variable {inquiry : Inquiry} {earlier : List String}

/-- Every edge of an answer is named by its ends and its kind. -/
theorem isNamed_of_mem_edges {edge : Edge}
    (present : edge ∈ (inquiry.response earlier).graph.edges) : edge.IsNamed := by
  rcases brought_of_mem_edges present with ⟨reached, -, brought⟩ | ⟨account, -, brought⟩
  · exact brought.isNamed
  · exact brought.isNamed

/-- The edges of an answer differ in their ids. -/
theorem edge_eq_of_id_eq {edge other : Edge}
    (present : edge ∈ (inquiry.response earlier).graph.edges)
    (alsoPresent : other ∈ (inquiry.response earlier).graph.edges) (same : edge.id = other.id) :
    edge = other :=
  List.inj_on_of_nodup_map (GraphBuilder.edgeIds_run_nodup _)
    ((GraphBuilder.mem_edges_finish _).mp present)
    ((GraphBuilder.mem_edges_finish _).mp alsoPresent) same

/-- Edges of a kind link some pairs if their ids are those of the pairs and their ends are paired. -/
theorem response_links {kind : EdgeKind} {pairs : String → String → Prop}
    (brought : ∀ edge ∈ (inquiry.response earlier).graph.edges, edge.kind = kind →
      pairs edge.source edge.target)
    (present : ∀ source target, pairs source target →
      edgeId source target kind ∈ (inquiry.response earlier).graph.edgeIdsOf kind) :
    (inquiry.response earlier).graph.Links kind pairs where
  justified := by
    intro source target joins
    obtain ⟨edge, shown, here, rfl, rfl⟩ := joins
    exact brought edge shown here
  apart := by
    intro source target otherSource otherTarget joins alsoJoins clash
    obtain ⟨edge, shown, here, rfl, rfl⟩ := joins
    obtain ⟨other, alsoShown, there, rfl, rfl⟩ := alsoJoins
    have sameId : edge.id = other.id := by
      rw [isNamed_of_mem_edges shown, isNamed_of_mem_edges alsoShown]
      exact edgeId_eq_iff.mpr ⟨here.trans there.symm, .inr clash⟩
    cases edge_eq_of_id_eq shown alsoShown sameId
    exact clash.irrefl
  kept := by
    intro source target paired
    obtain ⟨edge, shown, here, named⟩ := Graph.mem_edgeIdsOf.mp (present source target paired)
    rw [isNamed_of_mem_edges shown, here] at named
    rcases (edgeId_eq_iff.mp named).2 with ⟨rfl, rfl⟩ | clash
    · exact .inl ⟨edge, shown, here, rfl, rfl⟩
    · exact .inr ⟨_, _, clash, edge, shown, here, rfl, rfl⟩

end

end Inquiry

section

variable (catalog : Catalog) (discovery : Option Discovery) (request : Request)

theorem answer_links_grants : (answer catalog discovery request).graph.Links .grants
    (catalog.BoundBy discovery request) := by
  apply Inquiry.response_links
  · intro edge shown kind
    rcases Inquiry.brought_of_mem_edges shown with ⟨reached, member, here⟩ | ⟨account, -, here⟩
    · cases here with
      | @grants binding granted =>
          exact ⟨binding, Catalog.binds_iff.mpr ⟨reached, member, rfl, granted⟩, rfl⟩
      | targets | contributes | gathers | flows | permits => cases kind
    · cases here <;> cases kind
  · intro source target paired
    obtain ⟨binding, binds, rfl⟩ := paired
    exact (Catalog.mem_grantsEdges_answer ..).mpr ⟨binding, source, binds, rfl⟩

theorem answer_links_subjects : (answer catalog discovery request).graph.Links .subjects
    (catalog.Targets discovery request) := by
  apply Inquiry.response_links
  · intro edge shown kind
    rcases Inquiry.brought_of_mem_edges shown with ⟨reached, member, here⟩ | ⟨account, -, here⟩
    · cases here with
      | @targets binding subject granted targeted =>
          exact ⟨binding, _, Catalog.binds_iff.mpr ⟨reached, member, rfl, granted⟩, rfl,
            subject, targeted, rfl⟩
      | grants | contributes | gathers | flows | permits => cases kind
    · cases here <;> cases kind
  · intro source target paired
    obtain ⟨binding, bundle, binds, rfl, subject, targeted, rfl⟩ := paired
    exact (Catalog.mem_subjectsEdges_answer ..).mpr
      ⟨binding, bundle, binds, subject, targeted, rfl⟩

end

namespace Catalog

/-- No binding has an arrow in its id. -/
def PlainBindings (catalog : Catalog) : Prop :=
  ∀ binding ∈ catalog.bindings, '>' ∉ binding.id.toList

instance (catalog : Catalog) : Decidable catalog.PlainBindings :=
  inferInstanceAs (Decidable (∀ binding ∈ catalog.bindings, _))

variable {catalog : Catalog} {discovery : Option Discovery} {request : Request}
  {source target otherSource otherTarget : String}

theorem PlainBindings.boundBy_apart (plain : catalog.PlainBindings)
    (bound : catalog.BoundBy discovery request source target)
    (alsoBound : catalog.BoundBy discovery request otherSource otherTarget) :
    ¬ Edge.Clash otherSource otherTarget source target := by
  intro clash
  obtain ⟨binding, binds, rfl⟩ := bound
  obtain ⟨other, alsoBinds, rfl⟩ := alsoBound
  rcases clash.arrow with ⟨-, arrow⟩ | ⟨-, arrow⟩
  · exact plain binding binds.listed arrow
  · exact plain other alsoBinds.listed arrow

theorem PlainBindings.targets_apart (plain : catalog.PlainBindings)
    (targets : catalog.Targets discovery request source target)
    (alsoTargets : catalog.Targets discovery request otherSource otherTarget) :
    ¬ Edge.Clash otherSource otherTarget source target := by
  intro clash
  obtain ⟨binding, bundle, binds, rfl, -⟩ := targets
  obtain ⟨other, further, alsoBinds, rfl, -⟩ := alsoTargets
  rcases clash.arrow with ⟨arrow, -⟩ | ⟨arrow, -⟩
  · exact plain other alsoBinds.listed arrow
  · exact plain binding binds.listed arrow

end Catalog

/-- An edge is left out only when one of its kind is there between the same ends or between ends that
clash with its own; and so every binding that is shown and every subject of it is linked, but for
clashes, and without fail where no binding has an arrow in its id. -/
theorem edges_kept_unless_they_clash {steps : List BuildStep}
    (named : ∀ edge ∈ BuildStep.edges steps, edge.IsNamed) {request : Request}
    (valid : request.validate = .ok ()) (catalog : Catalog) (discovery : Option Discovery) :
    (∀ source target kind explain refs,
      (GraphBuilder.run steps).addEdge (.of source target kind explain refs) =
          GraphBuilder.run steps ↔
        ∃ known ∈ (GraphBuilder.run steps).edges, known.kind = kind ∧
          (known.source = source ∧ known.target = target ∨
            Edge.Clash known.source known.target source target)) ∧
    ∃ response, query catalog discovery request = .ok response ∧
      response.graph.Links .grants (catalog.BoundBy discovery request) ∧
      response.graph.Links .subjects (catalog.Targets discovery request) ∧
      (catalog.PlainBindings → ∀ source target,
        (response.graph.Joins .grants source target ↔
          catalog.BoundBy discovery request source target) ∧
        (response.graph.Joins .subjects source target ↔
          catalog.Targets discovery request source target)) := by
  have grants := answer_links_grants catalog discovery request
  have targets := answer_links_subjects catalog discovery request
  refine ⟨GraphBuilder.addEdge_run_eq_self_iff named, _,
    query_of_valid valid catalog discovery, grants, targets, ?_⟩
  intro plain source target
  constructor
  · exact grants.joins_iff (fun _ _ _ _ => plain.boundBy_apart) source target
  · exact targets.joins_iff (fun _ _ _ _ => plain.targets_apart) source target

/-- A role that contributes to another one. -/
def viewSteps : List BuildStep :=
  [Inquiry.contributes "clusterrole:view" "clusterrole:edit"]

/-- A second edge is added, and the administrators and the robots of a team are linked to what they
may do. -/
theorem edges_kept_readerCatalog :
    (∀ edge ∈ BuildStep.edges viewSteps, edge.IsNamed) ∧
    (GraphBuilder.run viewSteps).addEdge
        (Inquiry.contributesEdge "clusterrole:edit" "clusterrole:admin") ≠
      GraphBuilder.run viewSteps ∧
    Request.standard.validate = .ok () ∧ readerCatalog.PlainBindings ∧
    ∃ response, query readerCatalog none Request.standard = .ok response ∧
      response.graph.Joins .grants "clusterrole:reader" "clusterrolebinding:admins" ∧
      response.graph.Joins .subjects "rolebinding:team/readers"
        "subject:serviceAccount:team/robot" := by
  have named : ∀ edge ∈ BuildStep.edges viewSteps, edge.IsNamed := by
    intro edge member
    cases List.mem_singleton.mp member
    rfl
  have valid : Request.standard.validate = .ok () := rfl
  have plain : readerCatalog.PlainBindings := by decide
  obtain ⟨added, response, found, -, -, linked⟩ :=
    edges_kept_unless_they_clash named valid readerCatalog none
  have binds : ∀ binding ∈ readerCatalog.bindings,
      readerCatalog.Binds none Request.standard binding "clusterrole:reader" := by
    have shown : ∀ binding ∈ readerCatalog.bindings,
        ∃ reached ∈ (inquiryFor readerCatalog none Request.standard).reached,
          reached.id = "clusterrole:reader" ∧ binding ∈ reached.bindings := by
      decide +kernel
    exact fun binding listed => Catalog.binds_iff.mpr (shown binding listed)
  refine ⟨named, ?_, valid, plain, response, found, ?_, ?_⟩
  · intro same
    obtain ⟨known, present, -, ends⟩ := (added _ _ _ _ _).mp same
    have plainEnds : ∀ edge ∈ (GraphBuilder.run viewSteps).edges,
        edge.source ≠ "clusterrole:edit" ∧ '>' ∉ edge.source.toList := by
      decide
    obtain ⟨other, noArrow⟩ := plainEnds known present
    rcases ends with ⟨sameSource, -⟩ | clash
    · exact other sameSource
    · rcases clash.arrow with ⟨arrow, -⟩ | ⟨arrow, -⟩
      · exact noArrow arrow
      · exact absurd arrow (by decide)
  · apply (linked plain _ _).1.mpr
    exact ⟨_, binds _ (List.mem_cons_of_mem _ List.mem_cons_self), by decide⟩
  · apply (linked plain _ _).2.mpr
    exact ⟨_, _, binds _ List.mem_cons_self, by decide, _, List.mem_cons_self, by decide⟩

/-- A cluster role and a binding have an arrow in their names. -/
def arrowCatalog : Catalog where
  bundles :=
    ["view", "view->clusterrolebinding:ops"].map fun name =>
      ⟨.clusterRole, name, none, .empty, .empty, [⟨[""], ["pods"], ["get"], [], []⟩], none⟩
  bindings :=
    [⟨.clusterRoleBinding, "ops->clusterrolebinding:dev", none, ⟨.clusterRole, "view"⟩, []⟩,
      ⟨.clusterRoleBinding, "dev", none, ⟨.clusterRole, "view->clusterrolebinding:ops"⟩, []⟩]
  pods := []
  workloads := []

/-- The graph of the arrows before it is sorted. -/
def arrowGraph : GraphBuilder :=
  .run ((inquiryFor arrowCatalog none Request.standard).steps
    (inquiryFor arrowCatalog none Request.standard).reached [])

/-- An edge may be left out though none is there between its ends; and so a binding may be shown
without the edge from the bundle that it grants. -/
theorem edge_swallowed_in_arrowCatalog :
    (∃ steps, (∀ edge ∈ BuildStep.edges steps, edge.IsNamed) ∧
      (GraphBuilder.run steps).addEdge (.of "a->b" "c" .grants "" []) = GraphBuilder.run steps ∧
      ∀ known ∈ (GraphBuilder.run steps).edges, known.source ≠ "a->b") ∧
    Request.standard.validate = .ok () ∧
    ∃ response, query arrowCatalog none Request.standard = .ok response ∧
      arrowCatalog.BoundBy none Request.standard "clusterrole:view->clusterrolebinding:ops"
        "clusterrolebinding:dev" ∧
      ¬ response.graph.Joins .grants "clusterrole:view->clusterrolebinding:ops"
        "clusterrolebinding:dev" := by
  refine ⟨⟨[.edge (.of "a" "b->c" .grants "" [])], ?_, by decide, by decide⟩, rfl, ?_⟩
  · intro edge member
    cases List.mem_singleton.mp member
    rfl
  have links := answer_links_grants arrowCatalog none Request.standard
  have grants : ∃ reached ∈ (inquiryFor arrowCatalog none Request.standard).reached,
      reached.id = "clusterrole:view->clusterrolebinding:ops" ∧
        arrowCatalog.bindings[1] ∈ reached.bindings := by
    decide +kernel
  have joined : ∃ edge ∈ arrowGraph.edges, edge.kind = .grants ∧ edge.source = "clusterrole:view" ∧
      edge.target = "clusterrolebinding:ops->clusterrolebinding:dev" := by
    decide +kernel
  have joins : (answer arrowCatalog none Request.standard).graph.Joins .grants "clusterrole:view"
      "clusterrolebinding:ops->clusterrolebinding:dev" := by
    obtain ⟨edge, present, ends⟩ := joined
    exact ⟨edge, (GraphBuilder.mem_edges_finish _).mpr present, ends⟩
  refine ⟨_, query_of_valid rfl arrowCatalog none, ?_, ?_⟩
  · exact ⟨_, Catalog.binds_iff.mpr grants, by decide⟩
  · intro swallowed
    refine links.apart _ _ _ _ joins swallowed (.inl ⟨"clusterrolebinding:ops", ?_, ?_⟩)
    · decide
    · decide

end AccessGraph
