/-
This file says that aggregation looks at the cluster bundles alone: whatever roles there are besides
them, its outcome is the same.
-/

import AccessGraph.Proofs.Aggregation.Exploration
import AccessGraph.Proofs.Aggregation.Selection
import AccessGraph.Proofs.Catalog.Lookup

namespace AccessGraph

namespace Aggregation

/-- The cluster bundles among some bundles. -/
def clusters (bundles : SortedMap Bundle) : SortedMap Bundle :=
  bundles.filter Bundle.isClusterScoped

variable {bundles : SortedMap Bundle}

theorem get?_clusters (id : String) :
    (clusters bundles).get? id = (bundles.get? id).filter Bundle.isClusterScoped :=
  bundles.get?_filter _ id

theorem entries_clusters :
    (clusters bundles).entries = bundles.entries.filter (·.2.isClusterScoped) :=
  bundles.entries_filter _

theorem get?_clusters_of_cluster {id : String} {bundle : Bundle}
    (known : bundles.get? id = some bundle) (cluster : bundle.isClusterScoped = true) :
    (clusters bundles).get? id = some bundle := by
  rw [get?_clusters, known]
  exact Option.filter_some_pos cluster

/-- Bundles with an aggregation rule are cluster bundles. -/
theorem filter_hasAggregationRule_clusters :
    (clusters bundles).entries.filter (·.2.hasAggregationRule) =
      bundles.entries.filter (·.2.hasAggregationRule) := by
  rw [entries_clusters, List.filter_filter]
  apply List.filter_congr
  intro entry _
  cases rule : entry.2.hasAggregationRule with
  | false => rfl
  | true => exact Bundle.isClusterScoped_of_hasAggregationRule rule

theorem candidates_clusters (target : String) :
    Bundle.candidates (clusters bundles) target = Bundle.candidates bundles target := by
  rw [Bundle.candidates, entries_clusters, List.filter_filter]
  apply List.filter_congr
  intro entry _
  cases entry.2.isClusterScoped <;> simp

theorem selected_clusters (target : String) (bundle : Bundle) :
    bundle.selected (clusters bundles) target = bundle.selected bundles target := by
  simp only [Bundle.selected, Bundle.selections, candidates_clusters]

theorem aggregationWarnings_clusters (target : String) (bundle : Bundle) :
    bundle.aggregationWarnings (clusters bundles) target =
      bundle.aggregationWarnings bundles target := by
  simp only [Bundle.aggregationWarnings, selected_clusters, Bundle.selections, candidates_clusters]

theorem selections_clusters : selections (clusters bundles) = selections bundles := by
  apply SortedMap.eq_of_get?
  intro id
  rw [selections, selections, SortedMap.get?_filterMap, SortedMap.get?_filterMap, get?_clusters]
  cases bundles.get? id with
  | none => rfl
  | some bundle =>
      cases rule : bundle.hasAggregationRule with
      | true =>
          rw [Option.filter_some_pos (Bundle.isClusterScoped_of_hasAggregationRule rule)]
          simp only [Option.bind_some, rule, selected_clusters]
      | false => cases bundle.isClusterScoped <;> simp [Option.filter, rule]

/-- The ids of the cluster bundles; no aggregation leads out of them. -/
theorem next_subset_clusters (target : String) :
    next (selections bundles) target ⊆ (clusters bundles).keys := by
  intro source selects
  obtain ⟨bundle, known, cluster, -⟩ := exists_of_mem_next selects
  rw [SortedMap.mem_keys_iff, SortedMap.contains, get?_clusters_of_cluster known cluster]
  rfl

theorem mem_keys_clusters_of_selections {target : String} {ids : List String}
    (aggregated : (selections bundles).get? target = some ids) :
    target ∈ (clusters bundles).keys := by
  obtain ⟨bundle, known, rule, -⟩ := get?_selections_eq_some_iff.mp aggregated
  have cluster := Bundle.isClusterScoped_of_hasAggregationRule rule
  rw [SortedMap.mem_keys_iff, SortedMap.contains, get?_clusters_of_cluster known cluster]
  rfl

theorem closure_subset {target : String} {ids : List String}
    (aggregated : (selections bundles).get? target = some ids) :
    closure bundles (selections bundles) target ⊆ (clusters bundles).keys :=
  explore_subset (fun id _ => next_subset_clusters id)
    (mem_keys_clusters_of_selections aggregated) _

theorem length_keys_clusters : (clusters bundles).keys.length ≤ bundles.entries.length := by
  rw [SortedMap.keys, List.length_map, entries_clusters]
  exact List.length_filter_le _ _

theorem closure_clusters {target : String} {ids : List String}
    (aggregated : (selections bundles).get? target = some ids) :
    closure (clusters bundles) (selections bundles) target =
      closure bundles (selections bundles) target := by
  have closed : ∀ id ∈ (clusters bundles).keys,
      next (selections bundles) id ⊆ (clusters bundles).keys := by
    intro id _
    exact next_subset_clusters id
  -- The walks differ in their limits alone, and both limits suffice for the cluster bundles.
  apply explore_eq_of_length_le closed (mem_keys_clusters_of_selections aggregated)
  · exact Nat.le_of_eq (List.length_map _)
  · exact length_keys_clusters

theorem merge_clusters {ids : List String} (within : ids ⊆ (clusters bundles).keys) :
    merge (clusters bundles) ids = merge bundles ids := by
  have same : ∀ id ∈ ids, (clusters bundles).get? id = bundles.get? id := by
    intro id member
    have known := within member
    rw [SortedMap.mem_keys_iff, SortedMap.contains, get?_clusters] at known
    rw [get?_clusters]
    cases found : bundles.get? id with
    | none => rfl
    | some bundle =>
        rw [found] at known
        cases cluster : bundle.isClusterScoped with
        | true => exact Option.filter_some_pos cluster
        | false => simp [Option.filter, cluster] at known
  apply congrArg (distinctBy SourcedRule.rule ·)
  apply List.flatMap_congr
  intro id member
  rw [same id member]

theorem closures_clusters : closures (clusters bundles) = closures bundles := by
  apply SortedMap.eq_of_get?
  intro id
  rw [get?_closures, get?_closures, selections_clusters]
  cases aggregated : (selections bundles).get? id with
  | none => rfl
  | some ids => exact congrArg some (closure_clusters aggregated)

theorem mergedRules_clusters : mergedRules (clusters bundles) = mergedRules bundles := by
  apply SortedMap.eq_of_get?
  intro id
  rw [mergedRules, mergedRules, SortedMap.get?_filterMap, SortedMap.get?_filterMap,
    closures_clusters, get?_closures]
  cases aggregated : (selections bundles).get? id with
  | none => rfl
  | some ids => exact congrArg some (merge_clusters (closure_subset aggregated))

theorem shownSources_clusters : shownSources (clusters bundles) = shownSources bundles := by
  rw [shownSources, shownSources, selections_clusters, closures_clusters]

/-- Aggregation takes account of cluster bundles alone. -/
theorem resolve_clusters : resolve (clusters bundles) = resolve bundles := by
  have opened (given : SortedMap Bundle) : resolve given =
      { selected := selections given
        sources := shownSources given
        rules := mergedRules given
        warnings := distinctBy AggregationWarning.message
          ((given.entries.filter (·.2.hasAggregationRule)).flatMap fun entry =>
            entry.2.aggregationWarnings given entry.1)
        knownGaps := distinct (((given.entries.filter (·.2.hasAggregationRule)).filter fun entry =>
          ((mergedRules given).get? entry.1).any (·.isEmpty)).map fun entry =>
            emptyRulesGap entry.2.name) } := rfl
  rw [opened, opened, filter_hasAggregationRule_clusters, selections_clusters,
    shownSources_clusters, mergedRules_clusters]
  simp only [aggregationWarnings_clusters]

end Aggregation

end AccessGraph
