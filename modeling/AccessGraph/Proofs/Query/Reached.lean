/-
This file says which bundles are reached, with which grants and bindings.
-/

import AccessGraph.Proofs.Matching.Kept
import AccessGraph.Query.Reachability
import Mathlib.Data.List.Nodup

namespace AccessGraph

namespace Inquiry

/-- The grants of a bundle that the request selects. -/
def grants (inquiry : Inquiry) (id : String) (bundle : Bundle) : List RuleRef :=
  (inquiry.matcher.matchRules (inquiry.aggregation.effectiveRules id bundle)).refs

/-- What is shown of a bundle if it is reached. -/
def present (inquiry : Inquiry) (id : String) (bundle : Bundle) : Reached :=
  ⟨id, bundle, inquiry.shownRefs (inquiry.grants id bundle),
    (inquiry.index.bindingsFor id).filter inquiry.scope.allowsBinding⟩

/-- The bundles that are shown for their own grants, in the order of their ids. -/
def reached (inquiry : Inquiry) : List Reached :=
  inquiry.bundleMatches.filterMap inquiry.reach?

/-- A bundle is reached when it is in scope and has grants that are selected. A cluster bundle in a
strict scope needs a binding as well. -/
structure Reaches (inquiry : Inquiry) (reached : Reached) : Prop where
  known : inquiry.index.bundles.get? reached.id = some reached.bundle
  inScope : inquiry.scope.allowsBundle reached.bundle = true
  selected : inquiry.grants reached.id reached.bundle ≠ []
  refs : reached.refs = inquiry.shownRefs (inquiry.grants reached.id reached.bundle)
  bindings : reached.bindings =
    (inquiry.index.bindingsFor reached.id).filter inquiry.scope.allowsBinding
  bound : reached.bundle.isClusterScoped = true → inquiry.scope.isStrict = true →
    reached.bindings ≠ []

/-- What is shown of some grants is about the same grants. -/
theorem mem_keys_shownRefs {inquiry : Inquiry} {refs : List RuleRef} {wanted : RuleKey} :
    wanted ∈ (inquiry.shownRefs refs).map RuleRef.key ↔ wanted ∈ refs.map RuleRef.key := by
  rw [shownRefs, RuleRef.key_mem_dedupe]
  split
  · exact Iff.rfl
  · have same : RuleRef.key ∘ RuleRef.withoutSource = RuleRef.key :=
      funext RuleRef.key_withoutSource
    rw [List.map_map, same]

/-- What is shown of some grants is one of them, if perhaps without its source. -/
theorem exists_found_of_mem_shownRefs {inquiry : Inquiry} {refs : List RuleRef} {grant : RuleRef}
    (shown : grant ∈ inquiry.shownRefs refs) :
    ∃ found ∈ refs, grant = found ∨ grant = found.withoutSource := by
  have kept := (distinctBy_sublist RuleRef.key _).subset shown
  split at kept
  · exact ⟨grant, kept, .inl rfl⟩
  · obtain ⟨found, member, same⟩ := List.mem_map.mp kept
    exact ⟨found, member, .inr same.symm⟩

/-- Grants with one key have one permission node. -/
theorem permissionNode_id_congr {first second : RuleRef} (same : first.key = second.key) :
    (permissionNode first).id = (permissionNode second).id := by
  change permissionNodeId first.permission.apiGroup first.permission.resource
    first.permission.verb = _
  rw [RuleRef.permission_eq_of_key_eq same]
  rfl

theorem reach?_eq_some_iff {inquiry : Inquiry} {found : BundleMatch} {reached : Reached} :
    inquiry.reach? found = some reached ↔
      found.outcome.refs ≠ [] ∧
      (found.bundle.isClusterScoped = true → inquiry.scope.isStrict = true →
        (inquiry.index.bindingsFor found.id).filter inquiry.scope.allowsBinding ≠ []) ∧
      reached = ⟨found.id, found.bundle, inquiry.shownRefs found.outcome.refs,
        (inquiry.index.bindingsFor found.id).filter inquiry.scope.allowsBinding⟩ := by
  unfold reach? Scope.keepsClusterBundle
  dsimp only
  generalize (inquiry.index.bindingsFor found.id).filter inquiry.scope.allowsBinding = bindings
  cases found.outcome.refs <;> cases found.bundle.isClusterScoped <;>
    cases inquiry.scope.isStrict <;> cases bindings <;> simp [eq_comm]

theorem mem_bundleMatches {inquiry : Inquiry} {found : BundleMatch} :
    found ∈ inquiry.bundleMatches ↔
      inquiry.index.bundles.get? found.id = some found.bundle ∧
      inquiry.scope.allowsBundle found.bundle = true ∧
      found.outcome =
        inquiry.matcher.matchRules (inquiry.aggregation.effectiveRules found.id found.bundle) := by
  simp only [bundleMatches, List.mem_map, List.mem_filter, SortedMap.get?_eq_some_iff]
  constructor
  · intro given
    obtain ⟨entry, ⟨member, allowed⟩, rfl⟩ := given
    exact ⟨member, allowed, rfl⟩
  · intro given
    obtain ⟨member, allowed, same⟩ := given
    refine ⟨(found.id, found.bundle), ⟨member, allowed⟩, ?_⟩
    rw [← same]

theorem mem_reached_iff {inquiry : Inquiry} {reached : Reached} :
    reached ∈ inquiry.reached ↔ inquiry.Reaches reached := by
  rw [Inquiry.reached, List.mem_filterMap]
  constructor
  · intro given
    obtain ⟨found, member, shown⟩ := given
    obtain ⟨known, inScope, matched⟩ := mem_bundleMatches.mp member
    obtain ⟨selected, bound, rfl⟩ := reach?_eq_some_iff.mp shown
    rw [matched] at selected
    exact ⟨known, inScope, selected, by simp only [matched, grants], rfl, bound⟩
  · intro given
    obtain ⟨known, inScope, selected, refs, bindings, bound⟩ := given
    obtain ⟨id, bundle, shownRefs, shownBindings⟩ := reached
    dsimp only at *
    subst refs bindings
    exact ⟨⟨id, bundle, _⟩, mem_bundleMatches.mpr ⟨known, inScope, rfl⟩,
      reach?_eq_some_iff.mpr ⟨selected, bound, rfl⟩⟩

/-- Every reached bundle stands in the list once. -/
theorem reached_ids_nodup (inquiry : Inquiry) : (inquiry.reached.map (·.id)).Nodup := by
  have ascending : inquiry.bundleMatches.Pairwise fun first second => first.id < second.id := by
    refine List.pairwise_map.mpr ((inquiry.index.bundles.ascending.filter _).imp ?_)
    intro first second before
    exact before
  refine List.pairwise_map.mpr (List.pairwise_filterMap.mpr (ascending.imp ?_))
  intro first second before reached found other shown
  obtain ⟨-, -, rfl⟩ := reach?_eq_some_iff.mp found
  obtain ⟨-, -, rfl⟩ := reach?_eq_some_iff.mp shown
  change first.id ≠ second.id
  intro same
  rw [same] at before
  exact String.lt_irrefl _ before

theorem length_reached_le {narrow wide : Inquiry}
    (each : ∀ small ∈ narrow.reached, ∃ large ∈ wide.reached, large.id = small.id) :
    narrow.reached.length ≤ wide.reached.length := by
  have ids : narrow.reached.map (·.id) ⊆ wide.reached.map (·.id) := by
    intro id member
    obtain ⟨small, shown, rfl⟩ := List.mem_map.mp member
    obtain ⟨large, present, same⟩ := each small shown
    exact List.mem_map.mpr ⟨large, present, same⟩
  have shorter := narrow.reached_ids_nodup.length_le_of_subset ids
  rwa [List.length_map, List.length_map] at shorter

end Inquiry

end AccessGraph
