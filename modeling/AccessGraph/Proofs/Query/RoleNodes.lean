/-
This file says what an answer shows of a role: always the same, whether the role came for its own
grants or as a source of other roles, whichever was first and however often it came.
-/

import AccessGraph.Proofs.Aggregation.Sources
import AccessGraph.Proofs.Query.Aggregates
import AccessGraph.Proofs.Query.RoleDetails

namespace AccessGraph

namespace RuleRef

theorem dedupe_dedupe (grants : List RuleRef) : dedupe (dedupe grants) = dedupe grants :=
  distinctBy_eq_self key (distinctBy_keys key grants)

/-- Grants that come a second time are not kept. -/
theorem dedupe_append_self (grants : List RuleRef) :
    dedupe (dedupe grants ++ dedupe grants) = dedupe grants := by
  have none : distinctAfter key ((dedupe (dedupe grants)).map key) (dedupe grants) = [] := by
    apply distinctAfter_eq_nil
    intro grant member
    exact key_mem_dedupe.mpr (List.mem_map_of_mem member)
  rw [dedupe, distinctBy_append, ← dedupe, none, List.append_nil, dedupe_dedupe]

end RuleRef

namespace RoleDetails

/-- A role that absorbs itself with other grants keeps everything else. -/
theorem absorb_same (details : RoleDetails)
    (ascending : details.aggregationSources.Pairwise (· < ·)) (refs : List RuleRef) :
    details.absorb { details with matchedRuleRefs := refs } =
      { details with
        matchedRuleRefs :=
          if refs.isEmpty then details.matchedRuleRefs
          else RuleRef.dedupe (details.matchedRuleRefs ++ refs) } := by
  have twice : SortedSet.ofList (details.aggregationSources ++ details.aggregationSources) =
      ⟨details.aggregationSources, ascending⟩ := by
    apply SortedSet.eq_of_mem
    simp [SortedSet.mem_ofList]
  simp [absorb, twice]

end RoleDetails

namespace Inquiry

variable {inquiry : Inquiry}

theorem roleDetails?_roleNode (id : String) (bundle : Bundle) (refs : List RuleRef) :
    (inquiry.roleNode id bundle refs).kind.roleDetails? =
      some ⟨inquiry.aggregation.isAggregated id, inquiry.aggregation.sourcesOf id, refs,
        bundle.labels, bundle.annotations⟩ := by
  unfold roleNode
  cases bundle.kind <;> rfl

/-- The node of a bundle that absorbs a node of the same bundle takes nothing but grants. -/
theorem absorb_roleNode {id : String}
    (ascending : (inquiry.aggregation.sourcesOf id).Pairwise (· < ·)) (bundle : Bundle)
    (first second : List RuleRef) :
    (inquiry.roleNode id bundle first).absorb (inquiry.roleNode id bundle second) =
      inquiry.roleNode id bundle
        (if second.isEmpty then first else RuleRef.dedupe (first ++ second)) := by
  rw [Node.absorb, roleDetails?_roleNode]
  have same := RoleDetails.absorb_same ⟨inquiry.aggregation.isAggregated id,
    inquiry.aggregation.sourcesOf id, first, bundle.labels, bundle.annotations⟩ ascending second
  unfold roleNode
  cases bundle.kind <;> simp only [Node.of, NodeKind.mapRoleDetails, NodeKind.lane, same]

/-- What is shown of the grants of a bundle: nothing if the bundle is not reached. -/
def refsOf (inquiry : Inquiry) (id : String) : List RuleRef :=
  ((inquiry.reached.find? (·.id == id)).map (·.refs)).getD []

theorem refsOf_of_mem {reached : Reached} (member : reached ∈ inquiry.reached) :
    inquiry.refsOf reached.id = reached.refs := by
  have found : inquiry.reached.find? (·.id == reached.id) = some reached :=
    (find?_key_eq_some_iff inquiry.reached_ids_nodup).mpr ⟨member, rfl⟩
  rw [refsOf, found, Option.map_some, Option.getD_some]

theorem refsOf_eq_nil {id : String} (absent : ∀ reached ∈ inquiry.reached, reached.id ≠ id) :
    inquiry.refsOf id = [] := by
  have none : inquiry.reached.find? (·.id == id) = none := by
    rw [List.find?_eq_none]
    simpa using absent
  rw [refsOf, none, Option.map_none, Option.getD_none]

/-- What is shown of grants has been through the removal of repetitions. -/
theorem exists_dedupe_eq_refsOf (id : String) :
    ∃ grants, inquiry.refsOf id = RuleRef.dedupe grants := by
  by_cases shown : ∃ reached ∈ inquiry.reached, reached.id = id
  · obtain ⟨reached, member, rfl⟩ := shown
    exact ⟨_, (refsOf_of_mem member).trans (mem_reached_iff.mp member).refs⟩
  · refine ⟨[], refsOf_eq_nil ?_⟩
    intro reached member named
    exact shown ⟨reached, member, named⟩

/-- A node in the lane of roles is brought under the id of a known bundle, with what is shown of the
grants of this bundle or with no grants. -/
theorem brought_role {other : Node}
    (brought : other ∈ BuildStep.nodes
      (inquiry.steps inquiry.reached (inquiry.placedAccounts inquiry.reached)))
    (lane : other.kind.lane = .roles) :
    ∃ bundle, inquiry.index.bundles.get? other.id = some bundle ∧
      (other = inquiry.roleNode other.id bundle [] ∨
        other = inquiry.roleNode other.id bundle (inquiry.refsOf other.id)) := by
  rcases mem_nodes_steps.mp brought with ⟨reached, member, here⟩ | ⟨account, -, here⟩
  · cases here with
    | role =>
        refine ⟨reached.bundle, ?_, .inr ?_⟩
        · rw [roleNode_id]
          exact (mem_reached_iff.mp member).known
        · rw [roleNode_id, refsOf_of_mem member]
    | @source source bundle shown known =>
        refine ⟨bundle, ?_, .inl ?_⟩
        · rw [roleNode_id]
          exact known
        · rw [roleNode_id]
    | binding => simp [bindingNode_lane] at lane
    | subject => cases lane
    | relation => cases lane
    | permission => cases lane
  · rcases here.lane with pods | workloads
    · cases lane.symm.trans pods
    · cases lane.symm.trans workloads

/-- Nodes that are brought with the id of a role are roles. -/
theorem lane_of_brought (coherent : inquiry.Coherent) {earlier : List String} {node other : Node}
    (present : node ∈ (inquiry.response earlier).graph.nodes) (role : node.isRole = true)
    (brought : other ∈ BuildStep.nodes
      (inquiry.steps inquiry.reached (inquiry.placedAccounts inquiry.reached)))
    (named : other.id = node.id) : other.kind.lane = .roles := by
  obtain ⟨added, alsoBrought, same⟩ := exists_brought_of_mem_nodes present
  have labelled := steps_isLabelled coherent (inquiry.placedAccounts inquiry.reached)
  have sameSort : other.kind.sort = node.kind.sort :=
    (Node.sort_eq_of_id_eq (labelled other brought)
      (labelled added (mem_nodes_steps.mpr alsoBrought))
      (named.trans (Node.id_eq_of_bare_eq same).symm)).trans (Node.sort_eq_of_bare_eq same)
  exact (congrArg (·.2.1) sameSort).trans (Node.isRole_iff_lane.mp role)

/-- A role of an answer is the node of the bundle with its id, with the grants that are shown of
this bundle, whatever the order in which it has been brought. -/
theorem eq_roleNode_of_mem (coherent : inquiry.Coherent)
    (ascending : ∀ id, (inquiry.aggregation.sourcesOf id).Pairwise (· < ·)) {earlier : List String}
    {node : Node} (present : node ∈ (inquiry.response earlier).graph.nodes)
    (role : node.isRole = true) :
    ∃ bundle, inquiry.index.bundles.get? node.id = some bundle ∧
      node = inquiry.roleNode node.id bundle (inquiry.refsOf node.id) := by
  obtain ⟨added, alsoBrought, same⟩ := exists_brought_of_mem_nodes present
  have brought := mem_nodes_steps.mpr alsoBrought
  have sameId : added.id = node.id := Node.id_eq_of_bare_eq same
  obtain ⟨bundle, known, -⟩ :=
    brought_role brought (lane_of_brought coherent present role brought sameId)
  rw [sameId] at known
  refine ⟨bundle, known, ?_⟩
  obtain ⟨grants, kept⟩ := inquiry.exists_dedupe_eq_refsOf node.id
  -- Both forms in which the node may come lead, one with the other, to one of the two again.
  have form : node = inquiry.roleNode node.id bundle [] ∨
      node = inquiry.roleNode node.id bundle (inquiry.refsOf node.id) := by
    refine GraphBuilder.of_finish_run (steps_bringRoles _ _)
      (fun other => other = inquiry.roleNode node.id bundle [] ∨
        other = inquiry.roleNode node.id bundle (inquiry.refsOf node.id)) ?_ ?_
      (node?_response_of_mem present)
    · rintro _ _ (rfl | rfl) (rfl | rfl)
      all_goals rw [absorb_roleNode (ascending _)]
      · exact .inl rfl
      · right
        rw [kept, List.nil_append, RuleRef.dedupe_dedupe]
        cases RuleRef.dedupe grants <;> rfl
      · exact .inr rfl
      · right
        rw [kept, RuleRef.dedupe_append_self, ite_self]
    · intro other member named
      obtain ⟨otherBundle, alsoKnown, form⟩ :=
        brought_role member (lane_of_brought coherent present role member named)
      rw [named] at alsoKnown form
      obtain rfl : otherBundle = bundle := Option.some.inj (alsoKnown.symm.trans known)
      exact form
  -- Which of the two it is can be seen from its grants.
  rcases form with blank | full
  · have empty : inquiry.refsOf node.id = [] := by
      by_cases shown : ∃ reached ∈ inquiry.reached, reached.id = node.id
      · obtain ⟨reached, member, named⟩ := shown
        rw [← named, refsOf_of_mem member, List.eq_nil_iff_forall_not_mem]
        intro grant listed
        have inNode := (mem_grantKeys_response (node?_response_of_mem present) role).mpr
          ⟨reached, member, named, List.mem_map_of_mem listed⟩
        rw [blank, grantKeys_roleNode] at inNode
        cases inNode
      · apply refsOf_eq_nil
        intro reached member named
        exact shown ⟨reached, member, named⟩
    rw [empty]
    exact blank
  · exact full

/-- An edge from a role to a binding carries the grants that the role shows. -/
theorem ruleRefs_of_grants {earlier : List String} {edge : Edge}
    (present : edge ∈ (inquiry.response earlier).graph.edges) (kind : edge.kind = .grants) :
    (∃ reached ∈ inquiry.reached, edge.source = reached.id) ∧
      edge.ruleRefs = inquiry.refsOf edge.source := by
  rcases brought_of_mem_edges present with ⟨reached, member, brought⟩ | ⟨account, -, brought⟩
  · cases brought with
    | grants granted => exact ⟨⟨reached, member, rfl⟩, (refsOf_of_mem member).symm⟩
    | targets => cases kind
    | contributes => cases kind
    | gathers => cases kind
    | flows => cases kind
    | permits => cases kind
  · rcases brought.kind with runs | owned
    · cases kind.symm.trans runs
    · cases kind.symm.trans owned

end Inquiry

namespace Matcher

/-- What is found of a grant: nothing if it is not selected, or if it is a phantom to be dropped. -/
def found? (matcher : Matcher) (grant : RuleRef) : Option RuleRef :=
  if matcher.selects grant then (matcher.process grant).1 else none

/-- What is found in rules is what is found of their grants, one after the other. -/
theorem refs_matchRules (matcher : Matcher) (rules : List SourcedRule) :
    (matcher.matchRules rules).refs =
      (rules.flatMap SourcedRule.refs).filterMap matcher.found? := by
  rw [matchRules, List.filterMap_map, List.filterMap_filter]
  rfl

end Matcher

namespace Catalog

section

variable (catalog : Catalog) (discovery : Option Discovery) (request : Request)

/-- What is found in a bundle, in the order of the rules that it has and of those that it takes
over; each once, and without its source unless this is asked for. -/
def shownGrants (id : String) (bundle : Bundle) : List RuleRef :=
  let found := ((catalog.aggregation.effectiveRules id bundle).flatMap SourcedRule.refs).filterMap
    (Matcher.of request discovery).found?
  RuleRef.dedupe
    (if request.includeRuleMetadata then found else found.map RuleRef.withoutSource)

/-- A role says of its bundle what the catalog says, and shows grants if the bundle answers the
request. -/
structure TellsRole (id : String) (bundle : Bundle) (details : RoleDetails) : Prop where
  labels : details.labels = bundle.labels
  annotations : details.annotations = bundle.annotations
  aggregated : details.aggregated = catalog.aggregation.isAggregated id
  aggregationSources : details.aggregationSources = catalog.aggregation.sourcesOf id
  answered : Answered catalog discovery request id →
    details.matchedRuleRefs = shownGrants catalog discovery request id bundle
  unanswered : ¬ Answered catalog discovery request id → details.matchedRuleRefs = []

/-- Every role of a graph is a bundle of the catalog and says what there is to say of it, and the
edges that lead from it to bindings say the same of its grants. -/
structure TellsRoles (graph : Graph) : Prop where
  roles : ∀ node ∈ graph.nodes, ∀ details, node.kind.roleDetails? = some details →
    ∃ bundle, catalog.bundle? node.id = some bundle ∧
      TellsRole catalog discovery request node.id bundle details
  grants : ∀ edge ∈ graph.edges, edge.kind = .grants →
    ∃ node details, graph.node? edge.source = some node ∧
      node.kind.roleDetails? = some details ∧ edge.ruleRefs = details.matchedRuleRefs

end

section

variable {catalog : Catalog} {discovery : Option Discovery} {request : Request}

theorem refsOf_of_answered {id : String} {bundle : Bundle}
    (first : catalog.bundle? id = some bundle)
    (answered : Answered catalog discovery request id) :
    (inquiryFor catalog discovery request).refsOf id =
      shownGrants catalog discovery request id bundle := by
  obtain ⟨reached, member, rfl⟩ := answered_iff.mp answered
  have reaches := Inquiry.mem_reached_iff.mp member
  have same : reached.bundle = bundle :=
    Option.some.inj ((CatalogIndex.get?_bundles_of.symm.trans reaches.known).symm.trans first)
  rw [Inquiry.refsOf_of_mem member, reaches.refs, same, Inquiry.shownRefs, Inquiry.grants,
    matcher_inquiryFor, Matcher.refs_matchRules, request_inquiryFor]
  rfl

theorem refsOf_of_not_answered {id : String}
    (unanswered : ¬ Answered catalog discovery request id) :
    (inquiryFor catalog discovery request).refsOf id = [] := by
  apply Inquiry.refsOf_eq_nil
  intro reached member named
  exact unanswered (answered_iff.mpr ⟨reached, member, named⟩)

theorem answer_tellsRoles :
    TellsRoles catalog discovery request (answer catalog discovery request).graph := by
  have coherent := inquiryFor_coherent catalog discovery request
  have shown {node : Node} (present : node ∈ (answer catalog discovery request).graph.nodes)
      (role : node.isRole = true) :=
    Inquiry.eq_roleNode_of_mem coherent (fun _ => Aggregation.sourcesOf_ascending _) present role
  constructor
  · intro node present details found
    obtain ⟨bundle, known, same⟩ := shown present (Option.isSome_iff_exists.mpr ⟨details, found⟩)
    have first : catalog.bundle? node.id = some bundle :=
      CatalogIndex.get?_bundles_of.symm.trans known
    rw [same, Inquiry.roleDetails?_roleNode] at found
    cases found
    exact ⟨bundle, first, rfl, rfl, rfl, rfl, refsOf_of_answered first, refsOf_of_not_answered⟩
  · intro edge present kind
    obtain ⟨⟨reached, member, leads⟩, refs⟩ := Inquiry.ruleRefs_of_grants present kind
    obtain ⟨node, alsoPresent, role, named⟩ :=
      Inquiry.exists_role_of_reached coherent (earlyWarnings catalog request) member
    obtain ⟨bundle, -, same⟩ := shown alsoPresent role
    have found := Inquiry.node?_response_of_mem alsoPresent
    rw [named, ← leads] at found
    rw [named, ← leads] at same
    have told := congrArg (·.kind.roleDetails?) same
    rw [Inquiry.roleDetails?_roleNode] at told
    exact ⟨node, _, found, told, refs⟩

end

end Catalog

/-- A role says in an answer what its bundle says, and shows all that is found in the bundle if this
answers the request and nothing otherwise, whatever brings the role into the graph. -/
theorem query_tells_roles {request : Request} (valid : request.validate = .ok ())
    (catalog : Catalog) (discovery : Option Discovery) :
    ∃ response, query catalog discovery request = .ok response ∧
      Catalog.TellsRoles catalog discovery request response.graph :=
  ⟨_, query_of_valid valid catalog discovery, Catalog.answer_tellsRoles⟩

/-- The red team comes first as a source of the blue one, and then for its own grants. -/
theorem query_tells_roles_circleCatalog :
    originRequest.validate = .ok () ∧
    "clusterrole:red" ∈ circleCatalog.aggregation.sourcesOf "clusterrole:blue" ∧
    Catalog.Answered circleCatalog none originRequest "clusterrole:red" ∧
    ∃ response, query circleCatalog none originRequest = .ok response ∧
      Catalog.TellsRoles circleCatalog none originRequest response.graph := by
  refine ⟨rfl, by decide, ⟨circleCatalog.bundles[2], by decide, .inl (by decide), ?_, ?_⟩,
    query_tells_roles rfl circleCatalog none⟩
  · exact Catalog.exists_offers_of_any (by decide)
  · intro _ strict
    cases strict

end AccessGraph
