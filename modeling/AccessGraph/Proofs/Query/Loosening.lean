/-
This file says that a request that is loosened hides nothing: all nodes and edges stay, no count
goes down, and no role shows fewer grants.
-/

import AccessGraph.Proofs.Matching.Loosening
import AccessGraph.Proofs.Query.Reachability
import AccessGraph.Proofs.Query.RoleDetails
import AccessGraph.Proofs.Query.Widening

namespace AccessGraph

/-- Every role of a response is a role of another one, and shows there all grants that it shows
here. -/
def Response.RolesWithin (small large : Response) : Prop :=
  ∀ node ∈ small.graph.nodes, ∀ details, node.kind.roleDetails? = some details →
    ∃ other more, large.graph.node? node.id = some other ∧ other.kind.roleDetails? = some more ∧
      details.matchedRuleRefs.map RuleRef.key ⊆ more.matchedRuleRefs.map RuleRef.key

namespace Inquiry

section

variable {narrow wide : Inquiry} (within : narrow.Within wide)

include within

/-- What is brought to a lane narrowly has its counterpart in the same lane widely. -/
theorem Within.nodeIdsIn_subset (coherent : narrow.Coherent) (wideCoherent : wide.Coherent)
    (earlier others : List String) (lane : Lane) :
    (narrow.response earlier).graph.nodeIdsIn lane ⊆
      (wide.response others).graph.nodeIdsIn lane := by
  intro id member
  obtain ⟨node, brought, rfl, rfl⟩ := (mem_nodeIdsIn_response coherent earlier).mp member
  apply (mem_nodeIdsIn_response wideCoherent others).mpr
  rcases brought with ⟨small, shown, brought⟩ | ⟨account, placed, brought⟩
  · obtain ⟨large, present, larger⟩ := within.exists_reached shown
    obtain ⟨other, also, same⟩ := within.reachNode larger brought
    have sorts := Node.sort_eq_of_id_eq
      (also.isLabelled wideCoherent (mem_reached_iff.mp present))
      (brought.isLabelled coherent (mem_reached_iff.mp shown)) same
    exact ⟨other, .inl ⟨large, present, also⟩, congrArg (·.2.1) sorts, same⟩
  · obtain ⟨other, also, same⟩ := within.accountNode brought
    have sorts := Node.sort_eq_of_id_eq also.isLabelled brought.isLabelled same
    exact ⟨other, .inr ⟨account, within.placedAccounts_subset placed, also⟩,
      congrArg (·.2.1) sorts, same⟩

/-- No role shows fewer grants widely. -/
theorem Within.rolesWithin (coherent : narrow.Coherent) (wideCoherent : wide.Coherent)
    (earlier others : List String) :
    (narrow.response earlier).RolesWithin (wide.response others) := by
  intro node present details found
  have role : node.isRole = true := Option.isSome_iff_exists.mpr ⟨details, found⟩
  have inLane : node.id ∈ (narrow.response earlier).graph.nodeIdsIn .roles :=
    Graph.mem_nodeIdsIn.mpr ⟨node, present, Node.isRole_iff_lane.mp role, rfl⟩
  obtain ⟨other, alsoPresent, lane, named⟩ := Graph.mem_nodeIdsIn.mp
    (within.nodeIdsIn_subset coherent wideCoherent earlier others .roles inLane)
  have alsoRole : other.isRole = true := Node.isRole_iff_lane.mpr lane
  obtain ⟨more, alsoFound⟩ := Option.isSome_iff_exists.mp alsoRole
  have here : (narrow.response earlier).graph.node? node.id = some node :=
    GraphBuilder.node?_finish_run_of_mem present
  have there : (wide.response others).graph.node? node.id = some other :=
    named ▸ GraphBuilder.node?_finish_run_of_mem alsoPresent
  refine ⟨other, more, there, alsoFound, ?_⟩
  rw [← Node.grantKeys_of_details found, ← Node.grantKeys_of_details alsoFound]
  intro wanted shown
  obtain ⟨small, reached, same, grants⟩ := (mem_grantKeys_response here role).mp shown
  obtain ⟨large, alsoReached, larger⟩ := within.exists_reached reached
  exact (mem_grantKeys_response there alsoRole).mpr
    ⟨large, alsoReached, larger.id.symm.trans same, larger.grants grants⟩

end

end Inquiry

section

variable {strict loose : Request} (loosens : strict.Loosens loose)

include loosens

theorem Request.Loosens.display_withPods : strict.withPods.display = loose.withPods.display := by
  rw [← loosens.others]
  unfold Request.withPods Request.needsPods
  dsimp only
  split <;> rfl

/-- A loosened request finds all that was found, about the same things. -/
theorem inquiryFor_within_of_loosens (catalog : Catalog) (discovery : Option Discovery) :
    (inquiryFor catalog discovery strict).Within (inquiryFor catalog discovery loose) := by
  constructor
  · rfl
  · rfl
  · exact loosens.display_withPods
  · have sameScope : strict.namespaceScope = loose.namespaceScope := by
      rw [← loosens.others]
    rw [scope_inquiryFor, scope_inquiryFor, sameScope]
    exact ⟨fun _ allowed => allowed, id, id⟩
  · intro id bundle
    rw [Inquiry.grants, Inquiry.grants, matcher_inquiryFor, matcher_inquiryFor]
    exact (Matcher.loosens_of loosens discovery).matchRules _

end

/-- A request that is loosened is answered with all that was shown, and with no smaller counts. -/
theorem query_within_loosened {strict loose : Request} (valid : strict.validate = .ok ())
    (alsoValid : loose.validate = .ok ()) (loosens : strict.Loosens loose) (catalog : Catalog)
    (discovery : Option Discovery) :
    ∃ first second, query catalog discovery strict = .ok first ∧
      query catalog discovery loose = .ok second ∧ first.Within second ∧
      first.RolesWithin second := by
  have within := inquiryFor_within_of_loosens loosens catalog discovery
  refine ⟨_, _, query_of_valid valid _ _, query_of_valid alsoValid _ _, within.response _ _, ?_⟩
  exact within.rolesWithin (inquiryFor_coherent _ _ _) (inquiryFor_coherent _ _ _) _ _

/-- One role may read pods, and the other may do everything everywhere. -/
def operatorCatalog : Catalog where
  bundles :=
    [⟨.clusterRole, "reader", none, .empty, .empty, [⟨[""], ["pods"], ["get"], [], []⟩], none⟩,
      ⟨.clusterRole, "operator", none, .empty, .empty, [⟨["*"], ["*"], ["*"], [], []⟩], none⟩]
  bindings := []
  pods := []
  workloads := []

/-- Who is granted reading pods, in so many words? -/
def literalRequest : Request :=
  { Request.standard with
    selector := { Selector.empty with resources := ["pods"], verbs := ["get"] }
    matchMode := .all
    wildcardMode := .exact
    filterPhantoms := true }

/-- Who may read or watch anything, or do something to pods? -/
def broadRequest : Request :=
  { Request.standard with
    selector := { Selector.empty with resources := ["pods"], verbs := ["watch", "get"] } }

/-- The role that was shown stays, and the one with wildcards is added. -/
theorem query_within_loosened_broadRequest : literalRequest.Loosens broadRequest ∧
    ∃ first second, query operatorCatalog none literalRequest = .ok first ∧
      query operatorCatalog none broadRequest = .ok second ∧ first.Within second ∧
      first.RolesWithin second ∧ "clusterrole:reader" ∈ first.graph.nodeIdsIn .roles ∧
      "clusterrole:operator" ∈ second.graph.nodeIdsIn .roles := by
  have loosens : literalRequest.Loosens broadRequest := by
    refine ⟨⟨?_, ?_, ?_, ?_, ?_⟩, .inr ⟨rfl, rfl⟩, .inr ⟨rfl, rfl⟩, .inr ⟨rfl, rfl⟩, rfl⟩ <;>
      exact ⟨by decide, by decide⟩
  have valid : literalRequest.validate = .ok () := rfl
  have alsoValid : broadRequest.validate = .ok () := rfl
  obtain ⟨first, second, answered, alsoAnswered, within, roles⟩ :=
    query_within_loosened valid alsoValid loosens operatorCatalog none
  refine ⟨loosens, first, second, answered, alsoAnswered, within, roles, ?_, ?_⟩
  · rw [(eq_answer_of_query answered).2, Catalog.mem_roles_answer]
    refine .inl ⟨operatorCatalog.bundles[0], by decide, .inl (by decide), ?_, ?_⟩
    · exact Catalog.exists_offers_of_any (by decide)
    · intro _ strict
      cases strict
  · rw [(eq_answer_of_query alsoAnswered).2, Catalog.mem_roles_answer]
    refine .inl ⟨operatorCatalog.bundles[1], by decide, .inl (by decide), ?_, ?_⟩
    · exact Catalog.exists_offers_of_any (by decide)
    · intro _ strict
      cases strict

end AccessGraph
