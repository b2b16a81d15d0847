/-
This file says that a role shows at least what the roles show that contribute to it: the same grants
but for their sources, and an edge to the permission of each.
-/

import AccessGraph.Proofs.Matching.Provenance
import AccessGraph.Proofs.Query.Aggregates
import AccessGraph.Proofs.Query.RoleDetails

namespace AccessGraph

open Relation

/-- A role shows all grants that another one shows, and says the same of them but where they come
from. -/
structure Node.ShowsAllOf (target source : Node) : Prop where
  keys : source.grants.map RuleRef.key ⊆ target.grants.map RuleRef.key
  alike : ∀ grant ∈ source.grants, ∀ other ∈ target.grants, other.key = grant.key →
    other.SameButForSource grant

/-- Where an edge of aggregation leads from a role to a role, the second shows all grants of the
first, and has an edge to the permission of each if permissions are shown. -/
structure Response.PassesOn (response : Response) (permissions : Bool) (source target : Node) :
    Prop where
  grants : target.ShowsAllOf source
  permits : permissions = true → ∀ grant ∈ source.grants,
    edgeId target.id (Inquiry.permissionNode grant).id .permits ∈ response.graph.edgeIds

namespace Aggregation

/-- What a bundle ends up with has all rules of its sources. -/
theorem effectiveRules_subset_of_contributes {bundles : SortedMap Bundle} {source target : String}
    {bundle holder : Bundle} (known : bundles.get? source = some bundle)
    (alsoKnown : bundles.get? target = some holder) (contributes : Contributes bundles source target) :
    ((resolve bundles).effectiveRules source bundle).map SourcedRule.rule ⊆
      ((resolve bundles).effectiveRules target holder).map SourcedRule.rule := by
  intro rule member
  obtain ⟨origin, reaches, held⟩ := (rule_mem_effectiveRules_iff known).mp member
  have selects := (mem_sourcesOf_iff.mp contributes).1
  exact (rule_mem_effectiveRules_iff alsoKnown).mpr ⟨origin, reaches.head selects, held⟩

end Aggregation

namespace Inquiry

section

variable {inquiry : Inquiry}

/-- A grant that is shown has been found in the rules of its bundle. -/
theorem exists_found_of_mem_refs {reached : Reached} (reaches : inquiry.Reaches reached)
    {grant : RuleRef} (shown : grant ∈ reached.refs) :
    ∃ found ∈ inquiry.grants reached.id reached.bundle,
      found.key = grant.key ∧ found.withoutSource = grant.withoutSource := by
  rw [reaches.refs] at shown
  obtain ⟨found, member, rfl | rfl⟩ := exists_found_of_mem_shownRefs shown
  · exact ⟨grant, member, rfl, rfl⟩
  · exact ⟨found, member, found.key_withoutSource.symm, found.withoutSource_withoutSource.symm⟩

/-- Two roles of an answer say the same of a grant that both show, but where it comes from. -/
theorem sameButForSource_of_mem_grants {earlier : List String} {first second : Node}
    (present : first ∈ (inquiry.response earlier).graph.nodes)
    (alsoPresent : second ∈ (inquiry.response earlier).graph.nodes) {grant other : RuleRef}
    (shown : grant ∈ first.grants) (alsoShown : other ∈ second.grants)
    (same : other.key = grant.key) : other.SameButForSource grant := by
  obtain ⟨reached, member, -, here⟩ := exists_reached_of_mem_grants present shown
  obtain ⟨further, alsoMember, -, there⟩ := exists_reached_of_mem_grants alsoPresent alsoShown
  obtain ⟨found, matched, key, source⟩ :=
    exists_found_of_mem_refs (mem_reached_iff.mp member) here
  obtain ⟨alsoFound, alsoMatched, alsoKey, alsoSource⟩ :=
    exists_found_of_mem_refs (mem_reached_iff.mp alsoMember) there
  rw [RuleRef.sameButForSource_iff, ← source, ← alsoSource]
  exact Matcher.withoutSource_eq_of_key_eq alsoMatched matched
    (alsoKey.trans (same.trans key.symm))

/-- The roles of an answer have the ids of bundles. -/
theorem isBundleId_of_isRole (coherent : inquiry.Coherent) {earlier : List String} {node : Node}
    (present : node ∈ (inquiry.response earlier).graph.nodes) (role : node.isRole = true) :
    IsBundleId node.id := by
  have inLane : node.id ∈ (inquiry.response earlier).graph.nodeIdsIn .roles :=
    Graph.mem_nodeIdsIn.mpr ⟨node, present, Node.isRole_iff_lane.mp role, rfl⟩
  obtain ⟨reached, member, brought⟩ :=
    (mem_nodeIdsIn_of_lane coherent earlier (by decide) (by decide)).mp inLane
  rcases (roles_of_reached coherent).mp brought with named | shown
  · exact ⟨reached.bundle, named ▸ coherent.ids _ _ (mem_reached_iff.mp member).known⟩
  · obtain ⟨bundle, known⟩ := coherent.sources _ _ shown
    exact ⟨bundle, coherent.ids _ _ known⟩

/-- An edge of aggregation between two roles leads from a source to a bundle that is reached. -/
theorem exists_reached_of_joins (coherent : inquiry.Coherent) {earlier : List String}
    {source target : Node} (present : source ∈ (inquiry.response earlier).graph.nodes)
    (alsoPresent : target ∈ (inquiry.response earlier).graph.nodes)
    (role : source.isRole = true) (alsoRole : target.isRole = true)
    (joins : (inquiry.response earlier).graph.Joins .aggregates source.id target.id) :
    ∃ reached ∈ inquiry.reached, reached.id = target.id ∧
      source.id ∈ inquiry.aggregation.sourcesOf reached.id := by
  obtain ⟨edge, shown, kind, leaves, enters⟩ := joins
  rcases brought_of_mem_edges shown with ⟨reached, member, brought⟩ | ⟨account, -, brought⟩
  · cases brought with
    | contributes contributes known => exact ⟨reached, member, enters, leaves ▸ contributes⟩
    | gathers included leaf =>
        -- A relation is no role.
        exact absurd enters.symm
          ((isBundleId_of_isRole coherent alsoPresent alsoRole).ne_aggregationNodeId _)
    | flows included nonempty =>
        exact absurd leaves.symm
          ((isBundleId_of_isRole coherent present role).ne_aggregationNodeId _)
    | grants | targets | permits => cases kind
  · rcases brought.kind with other | other
    · cases kind.symm.trans other
    · cases kind.symm.trans other

end

end Inquiry

section

variable {catalog : Catalog} {discovery : Option Discovery} {request : Request}

/-- A bundle is found to grant all that its sources are found to grant. -/
theorem keys_grants_subset_of_contributes {source target : String} {bundle holder : Bundle}
    (known : (CatalogIndex.of catalog).bundles.get? source = some bundle)
    (alsoKnown : (CatalogIndex.of catalog).bundles.get? target = some holder)
    (contributes : source ∈ catalog.aggregation.sourcesOf target) :
    ((inquiryFor catalog discovery request).grants source bundle).map RuleRef.key ⊆
      ((inquiryFor catalog discovery request).grants target holder).map RuleRef.key :=
  Matcher.key_mem_matchRules_of_rules_subset
    (Aggregation.effectiveRules_subset_of_contributes known alsoKnown contributes)

/-- Whatever a role shows is shown by the roles to which it contributes. -/
theorem answer_passesOn {source target : Node}
    (present : source ∈ (answer catalog discovery request).graph.nodes)
    (alsoPresent : target ∈ (answer catalog discovery request).graph.nodes)
    (role : source.isRole = true) (alsoRole : target.isRole = true)
    (joins : (answer catalog discovery request).graph.Joins .aggregates source.id target.id) :
    (answer catalog discovery request).PassesOn request.includePermissions source target := by
  have coherent := inquiryFor_coherent catalog discovery request
  obtain ⟨large, alsoReached, enters, contributes⟩ :=
    Inquiry.exists_reached_of_joins coherent present alsoPresent role alsoRole joins
  have alsoReaches := Inquiry.mem_reached_iff.mp alsoReached
  have keys : source.grants.map RuleRef.key ⊆ large.refs.map RuleRef.key := by
    intro wanted shown
    obtain ⟨grant, held, rfl⟩ := List.mem_map.mp shown
    obtain ⟨small, reached, leaves, here⟩ := Inquiry.exists_reached_of_mem_grants present held
    have reaches := Inquiry.mem_reached_iff.mp reached
    have found : grant.key ∈ small.refs.map RuleRef.key := List.mem_map_of_mem here
    rw [reaches.refs, Inquiry.mem_keys_shownRefs] at found
    rw [alsoReaches.refs, Inquiry.mem_keys_shownRefs]
    exact keys_grants_subset_of_contributes reaches.known alsoReaches.known
      (leaves ▸ contributes) found
  refine ⟨⟨?_, ?_⟩, ?_⟩
  · intro wanted shown
    rw [← Node.grantKeys_eq_map]
    exact (Inquiry.mem_grantKeys_response (Inquiry.node?_response_of_mem alsoPresent) alsoRole).mpr
      ⟨large, alsoReached, enters, keys shown⟩
  · intro grant held other alsoHeld same
    exact Inquiry.sameButForSource_of_mem_grants present alsoPresent held alsoHeld same
  · intro permissions grant held
    obtain ⟨other, selected, same⟩ := List.mem_map.mp (keys (List.mem_map_of_mem held))
    have included := (includePermissions_inquiryFor catalog discovery request).trans permissions
    refine (Inquiry.mem_edgeIds_response _).mpr
      ⟨_, .inl ⟨large, alsoReached, .permits included selected⟩, ?_⟩
    rw [← enters, ← Inquiry.permissionNode_id_congr same]
    rfl

end

/-- Wherever rules are aggregated, the role that takes them over shows at least what it takes over,
on every edge of aggregation between two roles. -/
theorem query_passes_on {request : Request} (valid : request.validate = .ok ())
    (catalog : Catalog) (discovery : Option Discovery) :
    ∃ response, query catalog discovery request = .ok response ∧
      ∀ source ∈ response.graph.nodes, ∀ target ∈ response.graph.nodes,
        source.isRole = true → target.isRole = true →
        response.graph.Joins .aggregates source.id target.id →
        response.PassesOn request.includePermissions source target := by
  refine ⟨_, query_of_valid valid catalog discovery, ?_⟩
  intro source present target alsoPresent role alsoRole joins
  exact answer_passesOn present alsoPresent role alsoRole joins

/-- Who may do what, and from where? -/
def permissionsRequest : Request :=
  { Request.standard with includePermissions := true }

/-- The graph of the teams before it is sorted. -/
def circleGraph : GraphBuilder :=
  .run ((inquiryFor circleCatalog none permissionsRequest).steps
    (inquiryFor circleCatalog none permissionsRequest).reached [])

/-- The third team passes its rule on to the first. -/
theorem query_passes_on_circleCatalog : permissionsRequest.validate = .ok () ∧
    ∃ response, query circleCatalog none permissionsRequest = .ok response ∧
      ∃ source ∈ response.graph.nodes, ∃ target ∈ response.graph.nodes,
        source.isRole = true ∧ target.isRole = true ∧ source.grants ≠ [] ∧
        response.graph.Joins .aggregates source.id target.id ∧
        response.PassesOn true source target := by
  have valid : permissionsRequest.validate = .ok () := rfl
  obtain ⟨response, answered, passesOn⟩ := query_passes_on valid circleCatalog none
  have built : response.graph = circleGraph.finish :=
    congrArg Response.graph (eq_answer_of_query answered).2
  have roles : ∀ id ∈ ["clusterrole:red", "clusterrole:blue"], ∃ node ∈ circleGraph.nodes,
      node.id = id ∧ node.isRole = true ∧ node.grants ≠ [] := by
    decide +kernel
  have edge : Inquiry.contributesEdge "clusterrole:red" "clusterrole:blue" ∈ circleGraph.edges := by
    decide +kernel
  obtain ⟨source, present, named, role, shows⟩ := roles _ (List.mem_pair.mpr (.inl rfl))
  obtain ⟨target, alsoPresent, alsoNamed, alsoRole, -⟩ := roles _ (List.mem_pair.mpr (.inr rfl))
  rw [← circleGraph.mem_nodes_finish, ← built] at present alsoPresent
  rw [← circleGraph.mem_edges_finish, ← built] at edge
  have joins : response.graph.Joins .aggregates source.id target.id :=
    ⟨_, edge, rfl, named.symm, alsoNamed.symm⟩
  exact ⟨valid, response, answered, source, present, target, alsoPresent, role, alsoRole, shows,
    joins, passesOn source present target alsoPresent role alsoRole joins⟩

end AccessGraph
