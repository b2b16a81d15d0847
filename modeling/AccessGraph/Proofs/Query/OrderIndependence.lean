/-
This file says that the order of a catalog does not matter: neither that of its bundles, pods and
workloads, nor, but for the order of what is shown, that of its bindings and of their subjects.
-/

import AccessGraph.Proofs.Catalog.Rearrangement
import AccessGraph.Proofs.Query.Answer
import AccessGraph.Proofs.Query.Placement

namespace AccessGraph

open Std

/-- Two responses show nodes and edges with the same ids, count and map the same, and say the same, in
whatever order. -/
structure Response.SameButForOrder (first second : Response) : Prop where
  nodes : ∀ id, id ∈ first.graph.nodeIds ↔ id ∈ second.graph.nodeIds
  edges : ∀ id, id ∈ first.graph.edgeIds ↔ id ∈ second.graph.edgeIds
  matchedRoles : first.matchedRoles = second.matchedRoles
  matchedBindings : first.matchedBindings = second.matchedBindings
  matchedSubjects : first.matchedSubjects = second.matchedSubjects
  matchedPods : first.matchedPods = second.matchedPods
  matchedWorkloads : first.matchedWorkloads = second.matchedWorkloads
  resourceMap : first.resourceMap = second.resourceMap
  knownGaps : first.knownGaps = second.knownGaps
  warnings : ∀ warning, warning ∈ first.warnings ↔ warning ∈ second.warnings

namespace ServiceAccount

instance : TransCmp order := by
  unfold order
  infer_instance

/-- Accounts of which none comes first are the same. -/
instance : LawfulEqCmp order where
  eq_of_compare := by
    intro first second same
    simp only [order, compareLex_eq_eq, compareOn, LawfulEqOrd.compare_eq_iff_eq] at same
    obtain ⟨space, name, nodeId⟩ := same
    cases first
    cases second
    simp_all

end ServiceAccount

/-- Whether a scope allows a binding does not depend on the order of its subjects. -/
theorem Scope.allowsBinding_of_reorders {first second : Binding}
    (reorders : first.Reorders second) (scope : Scope) :
    scope.allowsBinding second = scope.allowsBinding first := by
  have subjects : (first.subjects.any fun subject =>
      (subject.space first).any scope.allowsNamespace) =
      second.subjects.any fun subject => (subject.space first).any scope.allowsNamespace :=
    reorders.subjects.any_eq
  rw [allowsBinding, allowsBinding, subjects, ← reorders.others]
  rfl

/-- Bindings that are found target the same subjects. -/
theorem Binding.FoundIn.subjectIds_subset {first second : List Binding}
    (found : Binding.FoundIn first second) :
    (first.flatMap fun binding => binding.subjects.map (Inquiry.subjectId binding)) ⊆
      second.flatMap fun binding => binding.subjects.map (Inquiry.subjectId binding) := by
  intro id member
  obtain ⟨binding, present, targeted⟩ := List.mem_flatMap.mp member
  obtain ⟨subject, listed, rfl⟩ := List.mem_map.mp targeted
  obtain ⟨other, alsoPresent, reorders⟩ := found binding present
  refine List.mem_flatMap.mpr ⟨other, alsoPresent, List.mem_map.mpr ⟨subject, ?_, ?_⟩⟩
  · exact reorders.subjects.mem_iff.mp listed
  · exact reorders.unchanged (Inquiry.subjectId · subject) fun _ _ => rfl

namespace Inquiry

theorem serviceAccounts_ascending (inquiry : Inquiry) (reached : List Reached) :
    (inquiry.serviceAccounts reached).Pairwise fun first second =>
      ServiceAccount.order first second = .lt :=
  mergeSort_ascending (distinct_nodup _)

/-- Another index has the same bundles, and the bindings of this one are found in it. -/
structure Keeps (inquiry : Inquiry) (index : CatalogIndex) : Prop
    extends inquiry.FindsAlike index where
  bundles : index.bundles = inquiry.index.bundles
  bindings : ∀ id, Binding.FoundIn (inquiry.index.bindingsFor id) (index.bindingsFor id)

section

variable {inquiry : Inquiry} {index : CatalogIndex} (keeps : inquiry.Keeps index)

include keeps

theorem Keeps.get?_eq (id : String) :
    (inquiry.into index).index.bundles.get? id = inquiry.index.bundles.get? id :=
  congrArg (fun bundles : SortedMap Bundle => bundles.get? id) keeps.bundles

theorem Keeps.bundleMatches_eq : (inquiry.into index).bundleMatches = inquiry.bundleMatches := by
  unfold bundleMatches
  rw [show (inquiry.into index).index.bundles = inquiry.index.bundles from keeps.bundles]
  rfl

/-- What is reached is reached in the other index, with the same bindings. -/
theorem Keeps.exists_reached {reached : Reached} (member : reached ∈ inquiry.reached) :
    ∃ bindings, { reached with bindings := bindings } ∈ (inquiry.into index).reached ∧
      Binding.FoundIn reached.bindings bindings := by
  obtain ⟨known, inScope, selected, refs, granted, bound⟩ := mem_reached_iff.mp member
  have found : Binding.FoundIn reached.bindings
      ((index.bindingsFor reached.id).filter inquiry.scope.allowsBinding) := by
    rw [granted]
    refine (keeps.bindings reached.id).filter ?_
    intro binding other reorders
    exact Scope.allowsBinding_of_reorders reorders inquiry.scope
  refine ⟨_, mem_reached_iff.mpr ?_, found⟩
  constructor
  · exact (keeps.get?_eq reached.id).trans known
  · exact inScope
  · exact selected
  · exact refs
  · rfl
  · intro cluster strict
    obtain ⟨binding, present⟩ := List.exists_mem_of_ne_nil _ (bound cluster strict)
    obtain ⟨other, alsoPresent, -⟩ := found binding present
    exact List.ne_nil_of_mem alsoPresent

/-- A reached bundle brings the same nodes, for none of them depends on the order of subjects. -/
theorem Keeps.reachNode {reached : Reached} {bindings : List Binding}
    (found : Binding.FoundIn reached.bindings bindings) {node : Node}
    (brought : ReachNode inquiry reached node) :
    ReachNode (inquiry.into index) { reached with bindings := bindings } node := by
  cases brought with
  | role => exact .role
  | binding granted =>
      obtain ⟨other, present, reorders⟩ := found _ granted
      rw [← reorders.unchanged bindingNode fun _ _ => rfl]
      exact .binding present
  | @subject _ subject granted targeted =>
      obtain ⟨other, present, reorders⟩ := found _ granted
      rw [← reorders.unchanged (subjectNode · subject) fun _ _ => rfl]
      exact .subject present (reorders.subjects.mem_iff.mp targeted)
  | source shown known => exact .source shown ((keeps.get?_eq _).trans known)
  | relation included leaves => exact .relation included leaves
  | permission included selected => exact .permission included selected

/-- A reached bundle brings the same edges, for none of them depends on the order of subjects. -/
theorem Keeps.reachEdge {reached : Reached} {bindings : List Binding}
    (found : Binding.FoundIn reached.bindings bindings) {edge : Edge}
    (brought : ReachEdge inquiry reached edge) :
    ReachEdge (inquiry.into index) { reached with bindings := bindings } edge := by
  cases brought with
  | grants granted =>
      obtain ⟨other, present, reorders⟩ := found _ granted
      rw [← reorders.unchanged (grantsEdge reached) fun _ _ => rfl]
      exact .grants present
  | @targets _ subject granted targeted =>
      obtain ⟨other, present, reorders⟩ := found _ granted
      rw [← reorders.unchanged (targetsEdge · subject) fun _ _ => rfl]
      exact .targets present (reorders.subjects.mem_iff.mp targeted)
  | contributes shown known => exact .contributes shown ((keeps.get?_eq _).trans known)
  | gathers included leaf => exact .gathers included leaf
  | flows included leaves => exact .flows included leaves
  | permits included selected => exact .permits included selected

theorem Keeps.serviceAccounts_subset :
    inquiry.serviceAccounts inquiry.reached ⊆
      (inquiry.into index).serviceAccounts (inquiry.into index).reached := by
  intro account member
  obtain ⟨reached, shown, binding, granted, subject, targeted, behind⟩ :=
    mem_serviceAccounts.mp member
  obtain ⟨bindings, present, found⟩ := keeps.exists_reached shown
  obtain ⟨other, alsoGranted, reorders⟩ := found binding granted
  refine mem_serviceAccounts.mpr ⟨_, present, other, alsoGranted, subject,
    reorders.subjects.mem_iff.mp targeted, ?_⟩
  exact (reorders.unchanged (inquiry.serviceAccount? · subject) fun _ _ => rfl).trans behind

theorem Keeps.placedAccounts_subset :
    inquiry.placedAccounts inquiry.reached ⊆
      (inquiry.into index).placedAccounts (inquiry.into index).reached := by
  rw [placedAccounts, placedAccounts, show (inquiry.into index).request = inquiry.request from rfl]
  split
  · exact keeps.serviceAccounts_subset
  · exact List.Subset.refl _

/-- All nodes are kept, by their ids. -/
theorem Keeps.nodeIds_subset (earlier others : List String) :
    (inquiry.response earlier).graph.nodeIds ⊆
      ((inquiry.into index).response others).graph.nodeIds := by
  intro id member
  obtain ⟨node, brought, named⟩ := (mem_nodeIds_response earlier).mp member
  refine (mem_nodeIds_response others).mpr ⟨node, ?_, named⟩
  rcases brought with ⟨reached, shown, brought⟩ | ⟨account, placed, brought⟩
  · obtain ⟨bindings, present, found⟩ := keeps.exists_reached shown
    exact .inl ⟨_, present, keeps.reachNode found brought⟩
  · rw [← mem_nodes_accountSteps, ← keeps.accountSteps_eq] at brought
    exact .inr ⟨account, keeps.placedAccounts_subset placed, mem_nodes_accountSteps.mp brought⟩

/-- All edges are kept, by their ids. -/
theorem Keeps.edgeIds_subset (earlier others : List String) :
    (inquiry.response earlier).graph.edgeIds ⊆
      ((inquiry.into index).response others).graph.edgeIds := by
  intro id member
  obtain ⟨edge, brought, named⟩ := (mem_edgeIds_response earlier).mp member
  refine (mem_edgeIds_response others).mpr ⟨edge, ?_, named⟩
  rcases brought with ⟨reached, shown, brought⟩ | ⟨account, placed, brought⟩
  · obtain ⟨bindings, present, found⟩ := keeps.exists_reached shown
    exact .inl ⟨_, present, keeps.reachEdge found brought⟩
  · rw [← mem_edges_accountSteps, ← keeps.accountSteps_eq] at brought
    exact .inr ⟨account, keeps.placedAccounts_subset placed, mem_edges_accountSteps.mp brought⟩

theorem Keeps.length_reached_le :
    inquiry.reached.length ≤ (inquiry.into index).reached.length := by
  apply Inquiry.length_reached_le
  intro reached shown
  obtain ⟨bindings, present, -⟩ := keeps.exists_reached shown
  exact ⟨_, present, rfl⟩

theorem Keeps.length_bindingIds_le : (bindingIds inquiry.reached).length ≤
    (bindingIds (inquiry.into index).reached).length := by
  apply length_distinct_flatMap_le
  intro reached shown
  obtain ⟨bindings, present, found⟩ := keeps.exists_reached shown
  exact ⟨_, present, found.ids_subset⟩

theorem Keeps.length_subjectIds_le : (subjectIds inquiry.reached).length ≤
    (subjectIds (inquiry.into index).reached).length := by
  apply length_distinct_flatMap_le
  intro reached shown
  obtain ⟨bindings, present, found⟩ := keeps.exists_reached shown
  exact ⟨_, present, found.subjectIds_subset⟩

/-- The bindings of some bundles are found among the bindings of these in the other index. -/
theorem Keeps.foundIn_flatMap (bundles : List String) :
    Binding.FoundIn (bundles.flatMap inquiry.index.bindingsFor)
      (bundles.flatMap index.bindingsFor) := by
  intro binding member
  obtain ⟨id, listed, granted⟩ := List.mem_flatMap.mp member
  obtain ⟨other, found, reorders⟩ := keeps.bindings id binding granted
  exact ⟨other, List.mem_flatMap.mpr ⟨id, listed, found⟩, reorders⟩

section

variable (back : (inquiry.into index).Keeps inquiry.index)

include back

/-- The resource map counts the same bindings and subjects. -/
theorem Keeps.rows_eq : ResourceMap.rows index inquiry.aggregation =
    ResourceMap.rows inquiry.index inquiry.aggregation := by
  have grants : ResourceMap.grants index inquiry.aggregation =
      ResourceMap.grants inquiry.index inquiry.aggregation := by
    rw [ResourceMap.grants, ResourceMap.grants, keeps.bundles]
  have row : ResourceMap.row index = ResourceMap.row inquiry.index := by
    funext permission bundles
    have forth := keeps.foundIn_flatMap bundles
    have backwards := back.foundIn_flatMap bundles
    have bindings := Nat.le_antisymm (length_distinct_le_of_subset backwards.ids_subset)
      (length_distinct_le_of_subset forth.ids_subset)
    have subjects := Nat.le_antisymm (length_distinct_le_of_subset backwards.subjectIds_subset)
      (length_distinct_le_of_subset forth.subjectIds_subset)
    exact congrArg₂ (ResourceMapRow.mk permission bundles.length) bindings subjects
  rw [ResourceMap.rows, ResourceMap.rows, grants, row]

/-- Accounts are sorted, so that it does not matter where they were met. -/
theorem Keeps.placedAccounts_eq :
    (inquiry.into index).placedAccounts (inquiry.into index).reached =
      inquiry.placedAccounts inquiry.reached := by
  have accounts : (inquiry.into index).serviceAccounts (inquiry.into index).reached =
      inquiry.serviceAccounts inquiry.reached := by
    refine eq_of_mem_of_pairwise ?_ (serviceAccounts_ascending _ _)
      (serviceAccounts_ascending _ _) ?_
    · intro account other before
      exact OrientedCmp.not_lt_of_lt before
    · intro account
      exact ⟨fun member => back.serviceAccounts_subset member,
        fun member => keeps.serviceAccounts_subset member⟩
  rw [placedAccounts, placedAccounts, accounts]
  rfl

/-- Where bindings are found in both directions, the answers are the same but for the order. -/
theorem Keeps.response_sameButForOrder {earlier others : List String}
    (same : ∀ warning, warning ∈ earlier ↔ warning ∈ others) :
    (inquiry.response earlier).SameButForOrder ((inquiry.into index).response others) := by
  have accounts := keeps.placedAccounts_eq back
  constructor
  · intro id
    exact ⟨fun member => keeps.nodeIds_subset earlier others member,
      fun member => back.nodeIds_subset others earlier member⟩
  · intro id
    exact ⟨fun member => keeps.edgeIds_subset earlier others member,
      fun member => back.edgeIds_subset others earlier member⟩
  · exact Nat.le_antisymm keeps.length_reached_le back.length_reached_le
  · exact Nat.le_antisymm keeps.length_bindingIds_le back.length_bindingIds_le
  · exact Nat.le_antisymm keeps.length_subjectIds_le back.length_subjectIds_le
  · change (inquiry.podIds (inquiry.placedAccounts inquiry.reached)).length =
      ((inquiry.into index).podIds
        ((inquiry.into index).placedAccounts (inquiry.into index).reached)).length
    rw [accounts, keeps.podIds_eq]
  · change (inquiry.workloadIds (inquiry.placedAccounts inquiry.reached)).length =
      ((inquiry.into index).workloadIds
        ((inquiry.into index).placedAccounts (inquiry.into index).reached)).length
    rw [accounts, keeps.workloadIds_eq]
  · change (if inquiry.request.includeResourceMap then _ else _) =
      if inquiry.request.includeResourceMap then
        ResourceMap.rows index inquiry.aggregation else []
    rw [keeps.rows_eq back]
  · rfl
  · intro warning
    have said : (inquiry.into index).warnings (inquiry.into index).bundleMatches
        ((inquiry.into index).placedAccounts (inquiry.into index).reached) =
        inquiry.warnings inquiry.bundleMatches (inquiry.placedAccounts inquiry.reached) := by
      rw [Inquiry.warnings, Inquiry.warnings, accounts, keeps.bundleMatches_eq,
        keeps.accountWarnings_eq]
      rfl
    change warning ∈ distinct (earlier ++ inquiry.warnings inquiry.bundleMatches
      (inquiry.placedAccounts inquiry.reached)) ↔
      warning ∈ distinct (others ++ (inquiry.into index).warnings
        (inquiry.into index).bundleMatches
        ((inquiry.into index).placedAccounts (inquiry.into index).reached))
    rw [said, mem_distinct, mem_distinct, List.mem_append, List.mem_append, same]

end

end

section

variable {inquiry : Inquiry} {pods : List Pod} {workloads : List Workload}

/-- Where the same pods and workloads are found, the answer is the same. -/
theorem FindsAlike.response_eq
    (alike : inquiry.FindsAlike { inquiry.index with pods := pods, workloads := workloads })
    (earlier : List String) :
    (inquiry.into { inquiry.index with pods := pods, workloads := workloads }).response earlier =
      inquiry.response earlier := by
  have steps : (inquiry.into { inquiry.index with pods := pods, workloads := workloads }).steps =
      inquiry.steps := by
    funext reached accounts
    rw [Inquiry.steps, Inquiry.steps, alike.accountSteps_eq]
    rfl
  have said : (inquiry.into { inquiry.index with pods := pods, workloads := workloads }).warnings =
      inquiry.warnings := by
    funext found accounts
    rw [Inquiry.warnings, Inquiry.warnings, alike.accountWarnings_eq]
    rfl
  rw [response, response, steps, said, alike.podIds_eq, alike.workloadIds_eq]
  rfl

end

end Inquiry

section

variable {first second : Catalog} (discovery : Option Discovery) (request : Request)

/-- A catalog in another order is answered alike. -/
theorem answer_of_permutes (keys : first.HasDistinctKeys) (permutes : first.Permutes second) :
    answer second discovery request = answer first discovery request := by
  have index := permutes.index_eq keys
  have bundles : (CatalogIndex.of second).bundles = (CatalogIndex.of first).bundles := by
    rw [index]
  have alike : (inquiryFor first discovery request).FindsAlike (.of second) := by
    constructor
    · intro space account _
      rw [permutes.podsFor keys]
      rfl
    · exact permutes.workload? keys
  have inquiry : inquiryFor second discovery request =
      (inquiryFor first discovery request).into (.of second) :=
    inquiryFor_eq_into (congrArg Aggregation.resolve bundles) discovery request
  have early : earlyWarnings second request = earlyWarnings first request := by
    rw [earlyWarnings, earlyWarnings, permutes.warnings keys]
  rw [answer, answer, inquiry, early]
  rw [index] at alike ⊢
  exact alike.response_eq _

/-- Nothing is lost when the bindings of a catalog are exchanged for others among which they are
found. -/
theorem inquiryFor_keeps (catalog : Catalog) {bindings : List Binding}
    (found : Binding.FoundIn catalog.bindings bindings) :
    (inquiryFor catalog discovery request).Keeps (.of { catalog with bindings := bindings }) where
  pods := fun _ _ _ => rfl
  workloads := rfl
  bundles := rfl
  bindings := Catalog.foundIn_bindingsFor found

theorem earlyWarnings_subset (catalog : Catalog) {bindings : List Binding}
    (found : Binding.FoundIn catalog.bindings bindings) :
    earlyWarnings catalog request ⊆
      earlyWarnings { catalog with bindings := bindings } request := by
  apply List.append_subset.mpr ⟨List.subset_append_left _ _, _⟩
  apply List.subset_append_of_subset_right
  exact List.map_subset _ (Catalog.warnings_subset found)

/-- A catalog whose bindings are in another order is answered alike but for the order. -/
theorem answer_of_rearranges (keys : first.HasDistinctKeys)
    (rearranges : first.Rearranges second) :
    (answer first discovery request).SameButForOrder (answer second discovery request) := by
  obtain ⟨between, related, perm⟩ := rearranges.bindings
  obtain ⟨forth, back⟩ := Binding.foundIn_of_rearranged related perm
  -- First the bindings alone are exchanged, and then the rest is brought into the other order.
  have permutes : Catalog.Permutes { first with bindings := second.bindings } second :=
    ⟨rearranges.bundles, rearranges.pods, rearranges.workloads, rfl⟩
  have sameKeys : Catalog.HasDistinctKeys { first with bindings := second.bindings } :=
    ⟨keys.bundles, keys.pods, keys.workloads⟩
  rw [answer_of_permutes discovery request sameKeys permutes]
  have forthKeeps := inquiryFor_keeps discovery request first forth
  have backKeeps := inquiryFor_keeps discovery request { first with bindings := second.bindings } back
  refine forthKeeps.response_sameButForOrder backKeeps ?_
  intro warning
  exact ⟨fun said => earlyWarnings_subset request first forth said,
    fun said => earlyWarnings_subset request { first with bindings := second.bindings } back said⟩

end

/-- Where bundles, pods and workloads can be told apart, their order changes nothing of an answer,
and that of the bindings and of their subjects changes nothing but the order of what is shown. -/
theorem query_order_independent {request : Request} (valid : request.validate = .ok ())
    {first second : Catalog} (keys : first.HasDistinctKeys) (discovery : Option Discovery) :
    (first.Permutes second → ∃ response, query first discovery request = .ok response ∧
      query second discovery request = .ok response) ∧
    (first.Rearranges second → ∃ response other, query first discovery request = .ok response ∧
      query second discovery request = .ok other ∧ response.SameButForOrder other) := by
  have answered := query_of_valid valid first discovery
  have alsoAnswered := query_of_valid valid second discovery
  constructor
  · intro permutes
    rw [answer_of_permutes discovery request keys permutes] at alsoAnswered
    exact ⟨_, answered, alsoAnswered⟩
  · intro rearranges
    exact ⟨_, _, answered, alsoAnswered, answer_of_rearranges discovery request keys rearranges⟩

/-- Two roles, a binding of each, two pods and the workload that owns one of them. -/
def robotCatalog : Catalog where
  bundles :=
    [⟨.role, "reader", some "team", .empty, .empty, [⟨[""], ["pods"], ["get"], [], []⟩], none⟩,
      ⟨.clusterRole, "writer", none, .empty, .empty, [⟨[""], ["pods"], ["create"], [], []⟩], none⟩]
  bindings :=
    [⟨.roleBinding, "readers", some "team", ⟨.role, "reader"⟩,
        [⟨.serviceAccount, "robot", none⟩, ⟨.user, "guest", none⟩]⟩,
      ⟨.clusterRoleBinding, "writers", none, ⟨.clusterRole, "writer"⟩,
        [⟨.serviceAccount, "robot", some "team"⟩]⟩]
  pods :=
    [⟨"1", "team", "worker", .running, "robot", [⟨"9", "Job", "work", "batch/v1", true⟩]⟩,
      ⟨"2", "team", "helper", .pending, "robot", []⟩]
  workloads := [⟨"9", "batch/v1", "Job", "team", "work", []⟩]

/-- The same from the last to the first, but for the bindings. -/
def turnedCatalog : Catalog :=
  { robotCatalog with
    bundles := robotCatalog.bundles.reverse
    pods := robotCatalog.pods.reverse }

/-- The bindings of the catalog with their subjects turned round. -/
def turnedBindings : List Binding :=
  robotCatalog.bindings.map fun binding => { binding with subjects := binding.subjects.reverse }

/-- Everything from the last to the first, the subjects of every binding included. -/
def shuffledCatalog : Catalog :=
  { turnedCatalog with bindings := turnedBindings.reverse }

/-- Who may do something, where does it run, and who owns that? -/
def ownersRequest : Request :=
  { Request.standard with
    includePods := true
    includeWorkloads := true
    includeResourceMap := true }

theorem query_order_independent_robotCatalog :
    ownersRequest.validate = .ok () ∧ robotCatalog.HasDistinctKeys ∧
    robotCatalog.Permutes turnedCatalog ∧ robotCatalog.Rearranges shuffledCatalog ∧
    (∃ response, query robotCatalog none ownersRequest = .ok response ∧
      query turnedCatalog none ownersRequest = .ok response) ∧
    ∃ response other, query robotCatalog none ownersRequest = .ok response ∧
      query shuffledCatalog none ownersRequest = .ok other ∧ response.SameButForOrder other := by
  have valid : ownersRequest.validate = .ok () := rfl
  have keys : robotCatalog.HasDistinctKeys := ⟨by decide, by decide, by decide⟩
  have permutes : robotCatalog.Permutes turnedCatalog := ⟨by decide, by decide, by decide, rfl⟩
  have rearranges : robotCatalog.Rearranges shuffledCatalog := by
    refine ⟨by decide, by decide, by decide, turnedBindings, ?_, ?_⟩
    · exact .cons ⟨by decide, rfl⟩ (.cons ⟨by decide, rfl⟩ .nil)
    · exact (List.reverse_perm turnedBindings).symm
  exact ⟨valid, keys, permutes, rearranges, (query_order_independent valid keys none).1 permutes,
    (query_order_independent valid keys none).2 rearranges⟩

end AccessGraph
