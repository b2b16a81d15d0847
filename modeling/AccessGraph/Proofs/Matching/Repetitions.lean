/-
This file says that grants which are found more than once differ in their sources alone, so that
nothing else is lost when repetitions are dropped, and the order of the rules does not show.
-/

import AccessGraph.Proofs.Matching.Expansion
import AccessGraph.Proofs.Matching.Provenance

namespace AccessGraph

section

variable {α β κ : Type} [BEq κ] {key : α → κ} {keyAfter : β → κ} {change : α → β}

/-- Elements may be changed before or after repetitions are dropped, if they keep their keys. -/
theorem distinctAfter_map (kept : ∀ element, keyAfter (change element) = key element)
    (passed : List κ) (elements : List α) :
    distinctAfter keyAfter passed (elements.map change) =
      (distinctAfter key passed elements).map change := by
  induction elements generalizing passed with
  | nil => rfl
  | cons element rest inductionHypothesis =>
      rw [List.map_cons, distinctAfter, distinctAfter, kept]
      split
      · exact inductionHypothesis passed
      · rw [inductionHypothesis, List.map_cons]

theorem distinctBy_map (kept : ∀ element, keyAfter (change element) = key element)
    (elements : List α) :
    distinctBy keyAfter (elements.map change) = (distinctBy key elements).map change :=
  distinctAfter_map kept [] elements

end

namespace RuleRef

/-- Repetitions and sources are taken away in any order. -/
theorem dedupe_map_withoutSource (grants : List RuleRef) :
    dedupe (grants.map withoutSource) = (dedupe grants).map withoutSource :=
  distinctBy_map key_withoutSource grants

theorem dedupe_nodup (grants : List RuleRef) : (dedupe grants).Nodup :=
  (distinctBy_keys key grants).of_map

/-- Grants with one key are the same once their sources are taken away. -/
def DifferInSourcesAlone (grants : List RuleRef) : Prop :=
  ∀ first ∈ grants, ∀ second ∈ grants, first.key = second.key →
    first.SameButForSource second ∧ first.withoutSource = second.withoutSource

/-- Where grants with one key differ in their sources alone, every grant is still there without its
source after repetitions are dropped. -/
theorem DifferInSourcesAlone.mem_dedupe_iff {grants : List RuleRef}
    (alike : DifferInSourcesAlone grants) {wanted : RuleRef} :
    wanted ∈ dedupe (grants.map withoutSource) ↔
      ∃ grant ∈ grants, grant.withoutSource = wanted := by
  rw [dedupe_map_withoutSource, List.mem_map]
  constructor
  · intro given
    obtain ⟨grant, kept, same⟩ := given
    exact ⟨grant, (distinctBy_sublist key grants).subset kept, same⟩
  · intro given
    obtain ⟨grant, listed, rfl⟩ := given
    -- The first of its repetitions is the one that is left.
    obtain ⟨first, kept, sameKey⟩ :=
      List.mem_map.mp (key_mem_dedupe.mpr (List.mem_map_of_mem listed))
    have alsoListed := (distinctBy_sublist key grants).subset kept
    exact ⟨first, kept, (alike first alsoListed grant listed sameKey).2⟩

/-- Repetitions among these grants are repetitions of everything but the source: it does not matter
whether they or the sources are taken away first, nothing is left twice, and nothing is lost. -/
structure RepeatOnlySources (grants : List RuleRef) : Prop where
  alike : DifferInSourcesAlone grants
  commutes : (dedupe grants).map withoutSource = dedupe (grants.map withoutSource)
  once : (dedupe (grants.map withoutSource)).Nodup
  complete : ∀ wanted, wanted ∈ dedupe (grants.map withoutSource) ↔
    ∃ grant ∈ grants, grant.withoutSource = wanted

end RuleRef

namespace Matcher

theorem matchRules_differInSourcesAlone (matcher : Matcher) (rules : List SourcedRule) :
    RuleRef.DifferInSourcesAlone (matcher.matchRules rules).refs := by
  intro first found second alsoFound sameKey
  have same := withoutSource_eq_of_key_eq found alsoFound sameKey
  exact ⟨RuleRef.sameButForSource_iff.mpr same, same⟩

/-- What is found in rules is found in all lists that hold these rules, but for the source. -/
theorem exists_found_of_rules_subset {matcher : Matcher} {rules others : List SourcedRule}
    (within : rules.map SourcedRule.rule ⊆ others.map SourcedRule.rule) {grant : RuleRef}
    (found : grant ∈ (matcher.matchRules rules).refs) :
    ∃ other ∈ (matcher.matchRules others).refs, other.withoutSource = grant.withoutSource := by
  obtain ⟨other, alsoFound, sameKey⟩ :=
    List.mem_map.mp (key_mem_matchRules_of_rules_subset within (List.mem_map_of_mem found))
  exact ⟨other, alsoFound, withoutSource_eq_of_key_eq alsoFound found sameKey⟩

/-- What is shown without sources depends on the rules alone, and not on their order, their sources
and how often they come. -/
theorem dedupe_matchRules_perm {matcher : Matcher} {rules others : List SourcedRule}
    (within : rules.map SourcedRule.rule ⊆ others.map SourcedRule.rule)
    (back : others.map SourcedRule.rule ⊆ rules.map SourcedRule.rule) :
    (RuleRef.dedupe ((matcher.matchRules rules).refs.map RuleRef.withoutSource)).Perm
      (RuleRef.dedupe ((matcher.matchRules others).refs.map RuleRef.withoutSource)) := by
  rw [List.perm_ext_iff_of_nodup (RuleRef.dedupe_nodup _) (RuleRef.dedupe_nodup _)]
  intro wanted
  rw [(matcher.matchRules_differInSourcesAlone rules).mem_dedupe_iff,
    (matcher.matchRules_differInSourcesAlone others).mem_dedupe_iff]
  constructor
  · intro given
    obtain ⟨grant, found, rfl⟩ := given
    exact exists_found_of_rules_subset within found
  · intro given
    obtain ⟨grant, found, rfl⟩ := given
    exact exists_found_of_rules_subset back found

end Matcher

/-- Whatever is asked for and whatever a cluster serves, dropping repetitions among the grants that
are found takes nothing away but sources, and what is left without sources is the same in whatever
order the rules come. -/
theorem matchRules_repeat_only_sources (matcher : Matcher) (rules : List SourcedRule) :
    RuleRef.RepeatOnlySources (matcher.matchRules rules).refs ∧
      ∀ others : List SourcedRule, others.Perm rules →
        (RuleRef.dedupe ((matcher.matchRules others).refs.map RuleRef.withoutSource)).Perm
          (RuleRef.dedupe ((matcher.matchRules rules).refs.map RuleRef.withoutSource)) := by
  have alike := matcher.matchRules_differInSourcesAlone rules
  constructor
  · exact {
      alike := alike
      commutes := (RuleRef.dedupe_map_withoutSource _).symm
      once := RuleRef.dedupe_nodup _
      complete := fun _ => alike.mem_dedupe_iff }
  · intro others perm
    have sameRules := perm.map SourcedRule.rule
    exact Matcher.dedupe_matchRules_perm sameRules.subset sameRules.symm.subset

/-- Another role may read everything, and pods besides. -/
def readAgain : List SourcedRule :=
  [⟨⟨["*"], ["*"], ["get"], [], []⟩, "clusterrole:auditor", 1⟩,
    ⟨⟨[""], ["pods"], ["get"], [], []⟩, "clusterrole:auditor", 2⟩]

/-- Two roles may read everything. Of their grants, which list the same under two sources, one is
left, whichever role comes first. -/
theorem matchRules_repeat_only_sources_readAgain :
    let matcher := Matcher.of Request.standard (some smallDiscovery)
    let rules := readEverything :: readAgain
    let turned := readAgain ++ [readEverything]
    turned.Perm rules ∧
    (matcher.matchRules rules).refs.length = 3 ∧
    (∃ first ∈ (matcher.matchRules rules).refs, ∃ second ∈ (matcher.matchRules rules).refs,
      first.key = second.key ∧ first.expandedRefs ≠ [] ∧
      first.expandedRefs ≠ second.expandedRefs ∧ first.SameButForSource second) ∧
    (RuleRef.dedupe ((matcher.matchRules rules).refs.map RuleRef.withoutSource)).length = 2 ∧
    RuleRef.RepeatOnlySources (matcher.matchRules rules).refs ∧
    (RuleRef.dedupe ((matcher.matchRules turned).refs.map RuleRef.withoutSource)).Perm
      (RuleRef.dedupe ((matcher.matchRules rules).refs.map RuleRef.withoutSource)) := by
  intro matcher rules turned
  have perm : turned.Perm rules := List.perm_append_singleton readEverything readAgain
  obtain ⟨repeats, ordered⟩ := matchRules_repeat_only_sources matcher rules
  have twice : ∃ first ∈ (matcher.matchRules rules).refs,
      ∃ second ∈ (matcher.matchRules rules).refs, first.key = second.key ∧
        first.expandedRefs ≠ [] ∧ first.expandedRefs ≠ second.expandedRefs := by
    decide +kernel
  obtain ⟨first, found, second, alsoFound, sameKey, listed, differ⟩ := twice
  refine ⟨perm, by decide +kernel, ⟨first, found, second, alsoFound, sameKey, listed, differ, ?_⟩,
    by decide +kernel, repeats, ordered turned perm⟩
  exact (repeats.alike first found second alsoFound sameKey).1

end AccessGraph
