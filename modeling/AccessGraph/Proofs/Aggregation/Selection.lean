/-
This file says which bundles a bundle selects for aggregation: the other cluster bundles whose
labels one of its selectors matches. Aggregation relates cluster bundles and no others.
-/

import AccessGraph.Aggregation.Basic
import AccessGraph.Proofs.Catalog.Selectors

namespace AccessGraph

/-- Candidates after one at which a selector turns out malformed would not be selected either. -/
theorem LabelSelector.mem_selectFrom_iff {selector : LabelSelector}
    {candidates : List (String × Bundle)} {id : String} :
    id ∈ (selector.selectFrom candidates).1 ↔
      ∃ candidate, (id, candidate) ∈ candidates ∧ selector.Matches candidate.labels := by
  induction candidates with
  | nil => simp [selectFrom]
  | cons entry rest inductionHypothesis =>
      rcases entry with ⟨first, candidate⟩
      rw [selectFrom]
      cases answer : selector.selects candidate.labels with
      | error fault =>
          have never (others : Labels) : ¬ selector.Matches others :=
            not_matches_of_error answer others
          simp [never]
      | ok selected =>
          have here : selector.Matches candidate.labels ↔ selected = true := by
            rw [← selects_eq_ok_true_iff, answer, Except.ok.injEq]
          cases selected with
          | false =>
              have absent : ¬ selector.Matches candidate.labels := by simp [here]
              simp only [Bool.false_eq_true, if_false, inductionHypothesis, List.mem_cons]
              constructor
              · intro given
                obtain ⟨other, member, matched⟩ := given
                exact ⟨other, .inr member, matched⟩
              · intro given
                obtain ⟨other, same | member, matched⟩ := given
                · obtain ⟨rfl, rfl⟩ := Prod.mk.inj same
                  exact absurd matched absent
                · exact ⟨other, member, matched⟩
          | true =>
              simp only [if_true, List.mem_cons, inductionHypothesis]
              constructor
              · intro given
                rcases given with rfl | ⟨other, member, matched⟩
                · exact ⟨candidate, .inl rfl, here.mpr rfl⟩
                · exact ⟨other, .inr member, matched⟩
              · intro given
                obtain ⟨other, same | member, matched⟩ := given
                · exact .inl (Prod.mk.inj same).1
                · exact .inr ⟨other, member, matched⟩

namespace Bundle

/-- Only a cluster bundle can have an aggregation rule that counts. -/
theorem isClusterScoped_of_hasAggregationRule {bundle : Bundle}
    (rule : bundle.hasAggregationRule = true) : bundle.isClusterScoped = true := by
  unfold hasAggregationRule selectors at rule
  unfold isClusterScoped
  cases kind : bundle.kind with
  | role => simp [kind] at rule
  | clusterRole => rfl

theorem mem_candidates {bundles : SortedMap Bundle} {target : String} {entry : String × Bundle} :
    entry ∈ candidates bundles target ↔
      entry ∈ bundles.entries ∧ entry.2.isClusterScoped = true ∧ entry.1 ≠ target := by
  simp [candidates]

/-- A bundle selects the other cluster bundles that one of its selectors matches. -/
theorem mem_selected_iff {bundles : SortedMap Bundle} {target source : String} {bundle : Bundle} :
    source ∈ bundle.selected bundles target ↔
      ∃ other, bundles.get? source = some other ∧ other.isClusterScoped = true ∧
        source ≠ target ∧ ∃ selector ∈ bundle.selectors, selector.Matches other.labels := by
  simp only [selected, selections, List.mem_filter, List.mem_map, List.any_map, List.any_eq_true,
    Function.comp_apply, List.contains_iff_mem, LabelSelector.mem_selectFrom_iff, mem_candidates,
    SortedMap.get?_eq_some_iff]
  constructor
  · intro given
    obtain ⟨-, selector, listed, other, ⟨known, cluster, different⟩, matched⟩ := given
    exact ⟨other, known, cluster, different, selector, listed, matched⟩
  · intro given
    obtain ⟨other, known, cluster, different, selector, listed, matched⟩ := given
    exact ⟨⟨(source, other), ⟨known, cluster, different⟩, rfl⟩, selector, listed, other,
      ⟨known, cluster, different⟩, matched⟩

/-- Selectors that count stand in the aggregation rule of a cluster bundle. -/
theorem mem_selectors_iff {bundle : Bundle} {selector : LabelSelector} :
    selector ∈ bundle.selectors ↔ bundle.isClusterScoped = true ∧
      ∃ rule, bundle.aggregationRule = some rule ∧ selector ∈ rule.selectors := by
  unfold selectors isClusterScoped
  cases bundle.kind <;> cases bundle.aggregationRule <;> simp

end Bundle

namespace Aggregation

variable {bundles : SortedMap Bundle}

/-- What each bundle with an aggregation rule selects. -/
def selections (bundles : SortedMap Bundle) : SortedMap (List String) :=
  bundles.filterMap fun id bundle =>
    if bundle.hasAggregationRule then some (bundle.selected bundles id) else none

/-- The bundles whose rules each aggregated bundle takes over. -/
def closures (bundles : SortedMap Bundle) : SortedMap (List String) :=
  (selections bundles).filterMap fun id _ => some (closure bundles (selections bundles) id)

/-- The rules that each aggregated bundle ends up with. -/
def mergedRules (bundles : SortedMap Bundle) : SortedMap (List SourcedRule) :=
  (closures bundles).filterMap fun _ ids => some (merge bundles ids)

/-- What of a selection is shown as sources. -/
def shownSources (bundles : SortedMap Bundle) : SortedMap (List String) :=
  (selections bundles).filterMap fun id ids =>
    some (shown (selections bundles) (closures bundles) id ids)

theorem get?_closures {id : String} :
    (closures bundles).get? id =
      ((selections bundles).get? id).map fun _ => closure bundles (selections bundles) id := by
  rw [closures, SortedMap.get?_filterMap]
  cases (selections bundles).get? id <;> rfl

theorem get?_selections_eq_some_iff {id : String} {ids : List String} :
    (selections bundles).get? id = some ids ↔
      ∃ bundle, bundles.get? id = some bundle ∧ bundle.hasAggregationRule = true ∧
        bundle.selected bundles id = ids := by
  rw [selections, SortedMap.get?_filterMap, Option.bind_eq_some_iff]
  simp

/-- A cluster bundle selects another one when a selector of its aggregation rule matches the
labels of the other. -/
structure Selects (bundles : SortedMap Bundle) (target source : String) : Prop where
  different : target ≠ source
  matched : ∃ bundle other rule selector,
    bundles.get? target = some bundle ∧ bundle.isClusterScoped = true ∧
    bundles.get? source = some other ∧ other.isClusterScoped = true ∧
    bundle.aggregationRule = some rule ∧ selector ∈ rule.selectors ∧
    selector.Matches other.labels

/-- Aggregation follows exactly what is selected. -/
theorem mem_next_iff {target source : String} :
    source ∈ next (selections bundles) target ↔ Selects bundles target source := by
  have opened : source ∈ next (selections bundles) target ↔
      ∃ bundle, bundles.get? target = some bundle ∧ bundle.hasAggregationRule = true ∧
        source ∈ bundle.selected bundles target := by
    unfold next
    cases found : (selections bundles).get? target with
    | none =>
        simp only [Option.getD_none, List.not_mem_nil, false_iff]
        intro given
        obtain ⟨bundle, known, rule, -⟩ := given
        rw [get?_selections_eq_some_iff.mpr ⟨bundle, known, rule, rfl⟩] at found
        cases found
    | some ids =>
        obtain ⟨bundle, known, rule, rfl⟩ := get?_selections_eq_some_iff.mp found
        simp [known, rule]
  rw [opened]
  constructor
  · intro given
    obtain ⟨bundle, known, -, selected⟩ := given
    obtain ⟨other, alsoKnown, cluster, different, selector, listed, matched⟩ :=
      Bundle.mem_selected_iff.mp selected
    obtain ⟨alsoCluster, rule, given, member⟩ := Bundle.mem_selectors_iff.mp listed
    exact ⟨different.symm, bundle, other, rule, selector, known, alsoCluster, alsoKnown, cluster,
      given, member, matched⟩
  · intro selects
    obtain ⟨bundle, other, rule, selector, known, alsoCluster, alsoKnown, cluster, given, member,
      matched⟩ := selects.matched
    have listed : selector ∈ bundle.selectors :=
      Bundle.mem_selectors_iff.mpr ⟨alsoCluster, rule, given, member⟩
    have counts : bundle.hasAggregationRule = true := by
      simpa [Bundle.hasAggregationRule] using List.ne_nil_of_mem listed
    exact ⟨bundle, known, counts, Bundle.mem_selected_iff.mpr
      ⟨other, alsoKnown, cluster, selects.different.symm, selector, listed, matched⟩⟩

/-- The bundles that an aggregated bundle takes over directly are cluster bundles, and so is it. -/
theorem exists_of_mem_next {target source : String}
    (selects : source ∈ next (selections bundles) target) :
    ∃ other, bundles.get? source = some other ∧ other.isClusterScoped = true ∧
      source ≠ target := by
  have selected := mem_next_iff.mp selects
  obtain ⟨-, other, -, -, -, -, known, cluster, -⟩ := selected.matched
  exact ⟨other, known, cluster, selected.different.symm⟩

theorem sourcesOf_eq (target : String) :
    (resolve bundles).sourcesOf target =
      (next (selections bundles) target).filter fun source =>
        !takesOver (selections bundles) (closures bundles) source target := by
  rw [sourcesOf, show (resolve bundles).sources = shownSources bundles from rfl, shownSources,
    SortedMap.get?_filterMap, next]
  cases (selections bundles).get? target <;> rfl

/-- The sources that are shown of a bundle are among those that it selects. -/
theorem mem_next_of_mem_sourcesOf {target source : String}
    (shown : source ∈ (resolve bundles).sourcesOf target) :
    source ∈ next (selections bundles) target := by
  rw [sourcesOf_eq] at shown
  exact (List.mem_filter.mp shown).1

end Aggregation

end AccessGraph
