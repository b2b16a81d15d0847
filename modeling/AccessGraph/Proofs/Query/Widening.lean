/-
This file says that whoever asks for more is shown more: a wider inquiry shows all nodes and edges
of a narrower one, and counts no less.
-/

import AccessGraph.Proofs.Permutation
import AccessGraph.Proofs.Query.Answer
import AccessGraph.Proofs.Scope

namespace AccessGraph

/-- How a request wants things to be shown, whatever it asks for. -/
def Request.display (request : Request) : Request :=
  { request with
    selector := .empty
    matchMode := .any
    wildcardMode := .expand
    filterPhantoms := false
    namespaceScope := none }

/-- A response is within another that has all its nodes and edges, by their ids, and counts no
less. -/
structure Response.Within (small large : Response) : Prop where
  nodes : small.graph.nodeIds ⊆ large.graph.nodeIds
  edges : small.graph.edgeIds ⊆ large.graph.edgeIds
  roles : small.matchedRoles ≤ large.matchedRoles
  bindings : small.matchedBindings ≤ large.matchedBindings
  subjects : small.matchedSubjects ≤ large.matchedSubjects
  pods : small.matchedPods ≤ large.matchedPods
  workloads : small.matchedWorkloads ≤ large.matchedWorkloads

/-- The same bundle is reached with further bindings and further grants. -/
structure Reached.Within (small large : Reached) : Prop where
  id : small.id = large.id
  bundle : small.bundle = large.bundle
  bindings : small.bindings ⊆ large.bindings
  grants : small.refs.map RuleRef.key ⊆ large.refs.map RuleRef.key

namespace Inquiry

/-- An inquiry is within another about the same things that allows more and finds more. -/
structure Within (narrow wide : Inquiry) : Prop where
  index : narrow.index = wide.index
  aggregation : narrow.aggregation = wide.aggregation
  display : narrow.request.display = wide.request.display
  scope : narrow.scope.Within wide.scope
  grants : ∀ id bundle,
    (narrow.grants id bundle).map RuleRef.key ⊆ (wide.grants id bundle).map RuleRef.key

section

variable {narrow wide : Inquiry} (within : narrow.Within wide)

include within

/-- What is reached narrowly is reached widely. -/
theorem Within.exists_reached {small : Reached} (member : small ∈ narrow.reached) :
    ∃ large ∈ wide.reached, small.Within large := by
  obtain ⟨known, inScope, selected, refs, bindings, bound⟩ := mem_reached_iff.mp member
  have moreBindings : small.bindings ⊆ (wide.present small.id small.bundle).bindings := by
    intro binding granted
    rw [bindings, List.mem_filter] at granted
    exact List.mem_filter.mpr ⟨within.index ▸ granted.1, within.scope.allowsBinding granted.2⟩
  have moreGrants : small.refs.map RuleRef.key ⊆
      (wide.present small.id small.bundle).refs.map RuleRef.key := by
    intro wanted shown
    rw [refs, mem_keys_shownRefs] at shown
    exact mem_keys_shownRefs.mpr (within.grants _ _ shown)
  refine ⟨wide.present small.id small.bundle, mem_reached_iff.mpr ?_,
    ⟨rfl, rfl, moreBindings, moreGrants⟩⟩
  constructor
  · exact within.index ▸ known
  · exact within.scope.allowsBundle inScope
  · intro none
    obtain ⟨grant, found⟩ := List.exists_mem_of_ne_nil _ selected
    have shown := within.grants _ _ (List.mem_map_of_mem found)
    rw [show wide.grants small.id small.bundle = [] from none] at shown
    exact absurd shown List.not_mem_nil
  · rfl
  · rfl
  · -- A wide scope that is strict is so narrowly, where a binding has been found already.
    intro cluster strict
    obtain ⟨binding, granted⟩ := List.exists_mem_of_ne_nil _
      (bound cluster (within.scope.strict strict))
    exact List.ne_nil_of_mem (moreBindings granted)

/-- The requests of both inquiries agree on what they want to be shown. -/
theorem Within.displayed {α : Type} (field : Request → α)
    (kept : ∀ request, field request.display = field request) :
    field narrow.request = field wide.request := by
  rw [← kept, within.display, kept]

theorem Within.includeAggregates :
    narrow.request.includeAggregates = wide.request.includeAggregates :=
  within.displayed Request.includeAggregates fun _ => rfl

theorem Within.includePermissions :
    narrow.request.includePermissions = wide.request.includePermissions :=
  within.displayed Request.includePermissions fun _ => rfl

theorem Within.includeWorkloads :
    narrow.request.includeWorkloads = wide.request.includeWorkloads :=
  within.displayed Request.includeWorkloads fun _ => rfl

theorem Within.leafSources_eq (target : String) :
    narrow.leafSources target = wide.leafSources target := by
  rw [leafSources, leafSources, within.aggregation]

/-- The nodes of a bundle have their counterparts in the wider inquiry. -/
theorem Within.reachNode {small large : Reached} (larger : small.Within large) {node : Node}
    (brought : ReachNode narrow small node) :
    ∃ other, ReachNode wide large other ∧ other.id = node.id := by
  have same := larger.id
  cases brought with
  | role => exact ⟨_, .role, by rw [roleNode_id, roleNode_id, same]⟩
  | binding granted => exact ⟨_, .binding (larger.bindings granted), rfl⟩
  | subject granted targeted => exact ⟨_, .subject (larger.bindings granted) targeted, rfl⟩
  | source shown known =>
      rw [within.aggregation, same] at shown
      rw [within.index] at known
      exact ⟨_, .source shown known, by rw [roleNode_id, roleNode_id]⟩
  | relation included leaves =>
      rw [within.leafSources_eq, same] at leaves
      rw [within.includeAggregates] at included
      refine ⟨_, .relation included leaves, ?_⟩
      exact congrArg aggregationNodeId same.symm
  | permission included selected =>
      rw [within.includePermissions] at included
      obtain ⟨grant, present, key⟩ :=
        List.mem_map.mp (larger.grants (List.mem_map_of_mem selected))
      exact ⟨_, .permission included present, permissionNode_id_congr key⟩

/-- The edges of a bundle have their counterparts in the wider inquiry. -/
theorem Within.reachEdge {small large : Reached} (larger : small.Within large) {edge : Edge}
    (brought : ReachEdge narrow small edge) :
    ∃ other, ReachEdge wide large other ∧ other.id = edge.id := by
  have same := larger.id
  cases brought with
  | @grants binding granted =>
      refine ⟨_, .grants (larger.bindings granted), ?_⟩
      exact congrArg (edgeId · binding.id .grants) same.symm
  | targets granted targeted => exact ⟨_, .targets (larger.bindings granted) targeted, rfl⟩
  | @contributes source bundle shown known =>
      rw [within.aggregation, same] at shown
      rw [within.index] at known
      refine ⟨_, .contributes shown known, ?_⟩
      exact congrArg (edgeId source · .aggregates) same.symm
  | @gathers source included leaf =>
      rw [within.leafSources_eq, same] at leaf
      rw [within.includeAggregates] at included
      refine ⟨_, .gathers included leaf, ?_⟩
      exact congrArg (fun id => edgeId source (aggregationNodeId id) .aggregates) same.symm
  | flows included leaves =>
      rw [within.leafSources_eq, same] at leaves
      rw [within.includeAggregates] at included
      refine ⟨_, .flows included leaves, ?_⟩
      exact congrArg (fun id => edgeId (aggregationNodeId id) id .aggregates) same.symm
  | @permits selected included present =>
      rw [within.includePermissions] at included
      obtain ⟨grant, found, key⟩ := List.mem_map.mp (larger.grants (List.mem_map_of_mem present))
      refine ⟨_, .permits included found, ?_⟩
      change edgeId large.id (permissionNode grant).id .permits =
        edgeId small.id (permissionNode selected).id .permits
      rw [same, permissionNode_id_congr key]

theorem Within.shownWorkloads_eq : narrow.shownWorkloads = wide.shownWorkloads := by
  funext pod
  rw [shownWorkloads, shownWorkloads, within.index,
    within.displayed Request.maxWorkloadsPerPod fun _ => rfl]

theorem Within.hiddenWorkloads_eq : narrow.hiddenWorkloads = wide.hiddenWorkloads := by
  funext pod
  rw [hiddenWorkloads, hiddenWorkloads, within.index,
    within.displayed Request.maxWorkloadsPerPod fun _ => rfl]

/-- Where pods are looked up narrowly, the same are found widely. -/
theorem Within.podsOf_eq {account : ServiceAccount} (placed : narrow.isPlaced account = true) :
    narrow.podsOf account = wide.podsOf account := by
  have placedToo : wide.isPlaced account = true := by
    rw [isPlaced, Bool.and_eq_true] at placed ⊢
    exact ⟨placed.1, within.scope.namespaces _ placed.2⟩
  rw [podsOf, podsOf, placed, placedToo, within.index,
    within.displayed Request.podPhaseMode fun _ => rfl]

omit within in
theorem isPlaced_of_podsOf_ne_nil {account : ServiceAccount} (found : narrow.podsOf account ≠ []) :
    narrow.isPlaced account = true := by
  by_contra absent
  rw [podsOf, if_neg absent] at found
  exact found rfl

theorem Within.shownPods_subset (account : ServiceAccount) :
    narrow.shownPods account ⊆ wide.shownPods account := by
  intro pod shown
  have placed := isPlaced_of_podsOf_ne_nil (List.ne_nil_of_mem (List.mem_of_mem_take shown))
  rw [shownPods, within.podsOf_eq placed,
    within.displayed Request.maxPodsPerSubject fun _ => rfl] at shown
  exact shown

theorem Within.hiddenPods_ne_zero {account : ServiceAccount}
    (more : narrow.hiddenPods account ≠ 0) : wide.hiddenPods account ≠ 0 := by
  have found : narrow.podsOf account ≠ [] := by
    intro none
    rw [hiddenPods, none] at more
    simp at more
  rw [hiddenPods, within.podsOf_eq (isPlaced_of_podsOf_ne_nil found),
    within.displayed Request.maxPodsPerSubject fun _ => rfl] at more
  exact more

/-- The nodes of an account have their counterparts in the wider inquiry. -/
theorem Within.accountNode {account : ServiceAccount} {node : Node}
    (brought : AccountNode narrow account node) :
    ∃ other, AccountNode wide account other ∧ other.id = node.id := by
  cases brought with
  | pod shown => exact ⟨_, .pod (within.shownPods_subset account shown), rfl⟩
  | workload shown included owner =>
      rw [within.shownWorkloads_eq] at owner
      rw [within.includeWorkloads] at included
      exact ⟨_, .workload (within.shownPods_subset account shown) included owner, rfl⟩
  | hiddenWorkloads shown included more =>
      rw [within.hiddenWorkloads_eq] at more
      rw [within.includeWorkloads] at included
      exact ⟨_, .hiddenWorkloads (within.shownPods_subset account shown) included more, rfl⟩
  | hiddenPods more => exact ⟨_, .hiddenPods (within.hiddenPods_ne_zero more), rfl⟩

/-- The edges of an account have their counterparts in the wider inquiry. -/
theorem Within.accountEdge {account : ServiceAccount} {edge : Edge}
    (brought : AccountEdge narrow account edge) :
    ∃ other, AccountEdge wide account other ∧ other.id = edge.id := by
  cases brought with
  | runs shown => exact ⟨_, .runs (within.shownPods_subset account shown), rfl⟩
  | owned shown included next =>
      rw [chainIds, within.shownWorkloads_eq] at next
      rw [within.includeWorkloads] at included
      exact ⟨_, .owned (within.shownPods_subset account shown) included next, rfl⟩
  | hiddenWorkloads shown included more =>
      rw [within.hiddenWorkloads_eq] at more
      rw [within.includeWorkloads] at included
      refine ⟨_, .hiddenWorkloads (within.shownPods_subset account shown) included more, ?_⟩
      rw [hiddenWorkloadsEdge, hiddenWorkloadsEdge, within.shownWorkloads_eq]
  | hiddenPods more => exact ⟨_, .hiddenPods (within.hiddenPods_ne_zero more), rfl⟩

/-- The accounts that are reached narrowly are reached widely. -/
theorem Within.placedAccounts_subset :
    narrow.placedAccounts narrow.reached ⊆ wide.placedAccounts wide.reached := by
  intro account placed
  have included : narrow.request.includePods = true := by
    by_contra absent
    rw [placedAccounts, if_neg absent] at placed
    exact List.not_mem_nil placed
  rw [placedAccounts, if_pos included] at placed
  rw [within.displayed Request.includePods fun _ => rfl] at included
  rw [placedAccounts, if_pos included]
  obtain ⟨small, member, binding, granted, subject, targeted, found⟩ :=
    mem_serviceAccounts.mp placed
  obtain ⟨large, present, larger⟩ := within.exists_reached member
  obtain ⟨isAccount, allowed, same⟩ := serviceAccount?_eq_some_iff.mp found
  exact mem_serviceAccounts.mpr ⟨large, present, binding, larger.bindings granted, subject,
    targeted, serviceAccount?_eq_some_iff.mpr
      ⟨isAccount, within.scope.allowsRuntimeSubject allowed, same⟩⟩

theorem Within.length_reached_le : narrow.reached.length ≤ wide.reached.length := by
  apply Inquiry.length_reached_le
  intro small shown
  obtain ⟨large, present, larger⟩ := within.exists_reached shown
  exact ⟨large, present, larger.id.symm⟩

theorem Within.length_bindingIds_le :
    (bindingIds narrow.reached).length ≤ (bindingIds wide.reached).length := by
  apply length_distinct_flatMap_le
  intro small shown
  obtain ⟨large, present, larger⟩ := within.exists_reached shown
  exact ⟨large, present, List.map_subset _ larger.bindings⟩

theorem Within.length_subjectIds_le :
    (subjectIds narrow.reached).length ≤ (subjectIds wide.reached).length := by
  apply length_distinct_flatMap_le
  intro small shown
  obtain ⟨large, present, larger⟩ := within.exists_reached shown
  refine ⟨large, present, ?_⟩
  intro id member
  obtain ⟨binding, granted, targeted⟩ := List.mem_flatMap.mp member
  exact List.mem_flatMap.mpr ⟨binding, larger.bindings granted, targeted⟩

/-- The pods that are shown narrowly are shown widely. -/
theorem Within.flatMap_shownPods_subset :
    (narrow.placedAccounts narrow.reached).flatMap narrow.shownPods ⊆
      (wide.placedAccounts wide.reached).flatMap wide.shownPods := by
  intro pod member
  obtain ⟨account, placed, shown⟩ := List.mem_flatMap.mp member
  exact List.mem_flatMap.mpr
    ⟨account, within.placedAccounts_subset placed, within.shownPods_subset account shown⟩

theorem Within.length_podIds_le :
    (narrow.podIds (narrow.placedAccounts narrow.reached)).length ≤
      (wide.podIds (wide.placedAccounts wide.reached)).length := by
  apply length_distinct_le_of_subset
  exact List.map_subset _ within.flatMap_shownPods_subset

theorem Within.length_workloadIds_le :
    (narrow.workloadIds (narrow.placedAccounts narrow.reached)).length ≤
      (wide.workloadIds (wide.placedAccounts wide.reached)).length := by
  rw [workloadIds, workloadIds, within.includeWorkloads, within.shownWorkloads_eq]
  split
  · apply length_distinct_le_of_subset
    apply List.map_subset
    intro workload member
    obtain ⟨pod, shown, owner⟩ := List.mem_flatMap.mp member
    exact List.mem_flatMap.mpr ⟨pod, within.flatMap_shownPods_subset shown, owner⟩
  · exact Nat.le_refl _

/-- The answer to a wider inquiry has all that the answer to the narrower one has. -/
theorem Within.response (earlier others : List String) :
    (narrow.response earlier).Within (wide.response others) := by
  constructor
  · intro id member
    obtain ⟨node, brought, rfl⟩ := (mem_nodeIds_response earlier).mp member
    apply (mem_nodeIds_response others).mpr
    rcases brought with ⟨small, shown, brought⟩ | ⟨account, placed, brought⟩
    · obtain ⟨large, present, larger⟩ := within.exists_reached shown
      obtain ⟨other, also, same⟩ := within.reachNode larger brought
      exact ⟨other, .inl ⟨large, present, also⟩, same⟩
    · obtain ⟨other, also, same⟩ := within.accountNode brought
      exact ⟨other, .inr ⟨account, within.placedAccounts_subset placed, also⟩, same⟩
  · intro id member
    obtain ⟨edge, brought, rfl⟩ := (mem_edgeIds_response earlier).mp member
    apply (mem_edgeIds_response others).mpr
    rcases brought with ⟨small, shown, brought⟩ | ⟨account, placed, brought⟩
    · obtain ⟨large, present, larger⟩ := within.exists_reached shown
      obtain ⟨other, also, same⟩ := within.reachEdge larger brought
      exact ⟨other, .inl ⟨large, present, also⟩, same⟩
    · obtain ⟨other, also, same⟩ := within.accountEdge brought
      exact ⟨other, .inr ⟨account, within.placedAccounts_subset placed, also⟩, same⟩
  · exact within.length_reached_le
  · exact within.length_bindingIds_le
  · exact within.length_subjectIds_le
  · exact within.length_podIds_le
  · exact within.length_workloadIds_le

end

end Inquiry

end AccessGraph
