/-
This file says that the graph and the resource map of an answer agree where nothing is selected
away: a permission has a row when some role shows a grant of it, and its row counts those roles.
-/

import AccessGraph.Proofs.Query.Counts
import AccessGraph.Proofs.Query.Recount

namespace AccessGraph

/-- A node is a role that shows a grant of a permission. -/
def Node.shows (node : Node) (permission : RuleRef.Permission) : Bool :=
  node.grants.any (·.permission == permission)

theorem Node.shows_iff {node : Node} {permission : RuleRef.Permission} :
    node.shows permission = true ↔ ∃ grant ∈ node.grants, grant.permission = permission := by
  simp [shows]

/-- Nothing of what is granted is selected away, neither by values, nor as a phantom, nor by
namespaces. -/
structure Request.SelectsEverything (request : Request) : Prop where
  selector : request.selector = .empty
  scope : (Scope.of request.namespaceScope).isActive = false
  phantoms : request.filterPhantoms = false

/-- The rows of the map are about the permissions that roles of the graph show, and each row counts
the roles that show its permission. -/
structure Response.MapsItsGraph (response : Response) : Prop where
  counts : ∀ row ∈ response.resourceMap,
    row.roleCount = response.graph.nodes.countP (·.shows row.permission)
  listed : ∀ node ∈ response.graph.nodes, ∀ grant ∈ node.grants,
    ∃ row ∈ response.resourceMap, row.permission = grant.permission

namespace Inquiry

/-- A role shows grants of the permissions of which the reached bundle with its id has a grant. -/
theorem exists_shows_response_iff {inquiry : Inquiry} (coherent : inquiry.Coherent)
    (earlier : List String) {permission : RuleRef.Permission} {id : String} :
    (∃ node ∈ (inquiry.response earlier).graph.nodes,
        node.shows permission = true ∧ node.id = id) ↔
      ∃ reached ∈ inquiry.reached,
        reached.id = id ∧ ∃ grant ∈ reached.refs, grant.permission = permission := by
  have keys {node : Node} (present : node ∈ (inquiry.response earlier).graph.nodes)
      (role : node.isRole = true) {wanted : RuleKey} : wanted ∈ node.grants.map RuleRef.key ↔
        ∃ reached ∈ inquiry.reached, reached.id = node.id ∧
          wanted ∈ reached.refs.map RuleRef.key := by
    rw [← Node.grantKeys_eq_map]
    exact mem_grantKeys_response (node?_response_of_mem present) role
  constructor
  · intro given
    obtain ⟨node, present, shows, rfl⟩ := given
    obtain ⟨grant, held, same⟩ := Node.shows_iff.mp shows
    have role := Node.isRole_of_mem_grants held
    obtain ⟨wanted, shown, about⟩ := RuleRef.exists_permission_iff.mp ⟨grant, held, same⟩
    obtain ⟨reached, member, named, found⟩ := (keys present role).mp shown
    exact ⟨reached, member, named, RuleRef.exists_permission_iff.mpr ⟨wanted, found, about⟩⟩
  · intro given
    obtain ⟨reached, member, rfl, granted⟩ := given
    obtain ⟨node, present, role, named⟩ := exists_role_of_reached coherent earlier member
    obtain ⟨wanted, found, about⟩ := RuleRef.exists_permission_iff.mp granted
    refine ⟨node, present, Node.shows_iff.mpr (RuleRef.exists_permission_iff.mpr ?_), named⟩
    exact ⟨wanted, (keys present role).mpr ⟨reached, member, named.symm, found⟩, about⟩

end Inquiry

section

variable {request : Request} (everything : request.SelectsEverything)

include everything

theorem Request.SelectsEverything.selects (discovery : Option Discovery) (grant : RuleRef) :
    (Matcher.of request discovery).selects grant = true := by
  have noChecks : (Matcher.of request discovery).checks grant = [] := by
    simp [Matcher.checks, Matcher.of, everything.selector, Selector.empty]
  rw [Matcher.selects, noChecks]
  simp [Matcher.selectsAll, Matcher.of, everything.selector, Selector.empty]

theorem Request.SelectsEverything.keeps (discovery : Option Discovery) (grant : RuleRef) :
    (Matcher.of request discovery).keeps grant = true := by
  simp [Matcher.keeps, Matcher.of, everything.phantoms]

/-- What is permitted for a request that selects everything is what is granted. -/
theorem Request.SelectsEverything.permits_iff {catalog : Catalog} {discovery : Option Discovery}
    {id : String} {permission : RuleRef.Permission} :
    catalog.Permits discovery request id permission ↔ catalog.Grants permission id := by
  rw [← ResourceMap.mem_grants_iff, ResourceMap.mem_grants_iff_exists]
  constructor
  · intro permits
    obtain ⟨bundle, grant, answers, offers, same⟩ := permits
    obtain ⟨sourced, effective, member⟩ := offers.held
    exact ⟨bundle, answers.first, sourced, effective, grant, member, same⟩
  · intro granted
    obtain ⟨bundle, first, sourced, effective, grant, member, same⟩ := granted
    have offers : catalog.Offers discovery request id bundle grant :=
      ⟨⟨sourced, effective, member⟩, everything.selects discovery grant,
        everything.keeps discovery grant⟩
    refine ⟨bundle, grant, ⟨first, .inr (.inl everything.scope), ⟨grant, offers⟩, ?_⟩, offers,
      same⟩
    intro _ strict
    rw [Scope.isStrict, everything.scope] at strict
    cases strict

/-- The roles that show a permission are those of the bundles that grant it. -/
theorem Request.SelectsEverything.exists_shows_iff (catalog : Catalog)
    (discovery : Option Discovery) {id : String} {permission : RuleRef.Permission} :
    (∃ node ∈ (answer catalog discovery request).graph.nodes,
        node.shows permission = true ∧ node.id = id) ↔ catalog.Grants permission id := by
  have permits : catalog.Permits discovery request id permission ↔
      catalog.Grants permission id := everything.permits_iff
  rw [← permits, Catalog.permits_iff]
  exact Inquiry.exists_shows_response_iff (inquiryFor_coherent catalog discovery request) _

theorem Request.SelectsEverything.answer_mapsItsGraph (mapped : request.includeResourceMap = true)
    (catalog : Catalog) (discovery : Option Discovery) :
    (answer catalog discovery request).MapsItsGraph := by
  have rows : (answer catalog discovery request).resourceMap =
      ResourceMap.rows (.of catalog) catalog.aggregation := by
    have included := (includeResourceMap_inquiryFor catalog discovery request).trans mapped
    change (if (inquiryFor catalog discovery request).request.includeResourceMap then _ else _) = _
    rw [included, if_pos rfl]
    rfl
  have differ := (answer_wellFormed catalog discovery request).distinctNodes
  constructor
  · intro row member
    rw [rows, ResourceMap.rows_eq, List.mem_map] at member
    obtain ⟨permission, -, rfl⟩ := member
    refine (Graph.countP_eq_length differ (ResourceMap.grantors_nodup _ _ permission) ?_).symm
    intro id
    rw [ResourceMap.mem_grantors_iff]
    exact everything.exists_shows_iff catalog discovery
  · intro node present grant shown
    have shows : node.shows grant.permission = true := Node.shows_iff.mpr ⟨grant, shown, rfl⟩
    have granted := (everything.exists_shows_iff catalog discovery).mp ⟨node, present, shows, rfl⟩
    have listed : grant.permission ∈
        (ResourceMap.rows (.of catalog) catalog.aggregation).map ResourceMapRow.permission := by
      rw [ResourceMap.map_permission_rows]
      exact ResourceMap.mem_permissions_iff.mpr ⟨node.id, granted⟩
    rw [rows]
    exact List.mem_map.mp listed

end

/-- Where a request selects everything, its graph and its resource map say the same about who grants
what. -/
theorem query_maps_its_graph {request : Request} (valid : request.validate = .ok ())
    (everything : request.SelectsEverything) (mapped : request.includeResourceMap = true)
    (catalog : Catalog) (discovery : Option Discovery) :
    ∃ response, query catalog discovery request = .ok response ∧ response.MapsItsGraph :=
  ⟨_, query_of_valid valid catalog discovery,
    everything.answer_mapsItsGraph mapped catalog discovery⟩

/-- One team takes over the rules of another one, of which it has some itself, and a role in a
namespace reads the same. -/
def overlapCatalog : Catalog where
  bundles :=
    [Aggregation.teamBundle "blue" [Aggregation.readPods, Aggregation.readPods] ["red"],
      ⟨.clusterRole, "red", none, SortedMap.empty.insert "team" "red", .empty,
        [Aggregation.readPods, Aggregation.readNodes], none⟩,
      ⟨.role, "reader", some "team", .empty, .empty,
        [⟨["", " "], ["PODS", "pods/log"], ["get"], [], []⟩, ⟨[], [], ["get"], [], ["/healthz"]⟩],
        none⟩]
  bindings := []
  pods := []
  workloads := []

/-- Who may do anything at all, in words and in numbers? -/
def mapRequest : Request :=
  { Request.standard with
    matchMode := .all
    wildcardMode := .exact
    includeRuleMetadata := true
    includeResourceMap := true }

theorem query_maps_its_graph_overlapCatalog :
    mapRequest.validate = .ok () ∧ mapRequest.SelectsEverything ∧
    mapRequest.includeResourceMap = true ∧
    ∃ response, query overlapCatalog none mapRequest = .ok response ∧ response.MapsItsGraph := by
  have valid : mapRequest.validate = .ok () := rfl
  have everything : mapRequest.SelectsEverything := ⟨rfl, rfl, rfl⟩
  exact ⟨valid, everything, rfl, query_maps_its_graph valid everything rfl overlapCatalog none⟩

end AccessGraph
