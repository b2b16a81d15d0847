/-
This file says that matching does not look at where a grant comes from: what is found of a grant is
known from its key, but for the source.
-/

import AccessGraph.Proofs.Matching.Kept
import AccessGraph.Proofs.Rule.Parts

namespace AccessGraph

namespace RuleRef

theorem withoutSource_eq (grant : RuleRef) : grant.withoutSource =
    { grant with
      sourceBundle := none
      sourceRuleIndex := none
      expandedRefs := grant.expandedRefs.map withoutSource } := by
  cases grant
  rw [withoutSource, allWithoutSource_eq_map]

mutual

/-- A source that has been taken away is gone. -/
theorem withoutSource_withoutSource : (grant : RuleRef) →
    grant.withoutSource.withoutSource = grant.withoutSource
  | ⟨_, _, _, _, _, _, _, _, _, _, expandedRefs⟩ => by
      rw [withoutSource, withoutSource, allWithoutSource_allWithoutSource expandedRefs]

theorem allWithoutSource_allWithoutSource : (grants : List RuleRef) →
    allWithoutSource (allWithoutSource grants) = allWithoutSource grants
  | [] => rfl
  | grant :: rest => by
      rw [allWithoutSource, allWithoutSource, withoutSource_withoutSource grant,
        allWithoutSource_allWithoutSource rest]

end

/-- What two grants have in common that differ in their sources alone. -/
structure SameButForSource (first second : RuleRef) : Prop where
  key : first.key = second.key
  phantom : first.phantom = second.phantom
  unsupportedVerb : first.unsupportedVerb = second.unsupportedVerb
  expandedRefs : first.expandedRefs.map withoutSource = second.expandedRefs.map withoutSource

theorem sameButForSource_iff {first second : RuleRef} :
    first.SameButForSource second ↔ first.withoutSource = second.withoutSource := by
  rw [withoutSource_eq, withoutSource_eq, eq_iff]
  constructor
  · intro same
    refine ⟨?_, same.expandedRefs⟩
    simp only [own, Prod.mk.injEq, true_and]
    exact ⟨same.key, same.phantom, same.unsupportedVerb⟩
  · intro given
    obtain ⟨own, expandedRefs⟩ := given
    simp only [RuleRef.own, Prod.mk.injEq, true_and] at own
    exact ⟨own.1, own.2.1, own.2.2, expandedRefs⟩

end RuleRef

namespace SourcedRule

/-- A rule says nothing of its grants but their keys and where they come from. -/
theorem withoutSource_of_mem_refs {sourced : SourcedRule} {grant : RuleRef}
    (member : grant ∈ sourced.refs) : grant.withoutSource = grant.key.grant := by
  rcases mem_refs_iff.mp member with ⟨group, -, resource, -, verb, -, rfl⟩ | ⟨url, -, verb, -, rfl⟩
  · rw [RuleRef.withoutSource_eq]
    rfl
  · rw [RuleRef.withoutSource_eq]
    rfl

/-- A rule grants the same wherever it stands. -/
theorem key_mem_refs_of_rule_eq {first second : SourcedRule} (same : first.rule = second.rule)
    {wanted : RuleKey} (member : wanted ∈ first.refs.map RuleRef.key) :
    wanted ∈ second.refs.map RuleRef.key := by
  obtain ⟨rule, source, index⟩ := first
  obtain ⟨other, otherSource, otherIndex⟩ := second
  dsimp only at same
  subst same
  have keys : (SourcedRule.mk rule source index).refs.map RuleRef.key =
      (SourcedRule.mk rule otherSource otherIndex).refs.map RuleRef.key := by
    simp only [refs, resourceRefs, urlRefs, List.map_append, List.map_flatMap, List.map_map]
    rfl
  rwa [← keys]

end SourcedRule

namespace Discovery

/-- A grant is marked alike wherever it comes from. -/
theorem annotate_withoutSource (discovery : Discovery) (grant : RuleRef) :
    discovery.annotate grant.withoutSource =
      ((discovery.annotate grant).1.withoutSource, (discovery.annotate grant).2) := by
  have nonResource : grant.withoutSource.isNonResource = grant.isNonResource := by
    rw [RuleRef.withoutSource_eq]
    rfl
  have urls : discovery.unknownUrls grant.withoutSource = discovery.unknownUrls grant := by
    rw [RuleRef.withoutSource_eq]
    rfl
  have part : discovery.unknownPart grant.withoutSource = discovery.unknownPart grant := by
    rw [RuleRef.withoutSource_eq]
    rfl
  have unsupported : discovery.isUnsupported grant.withoutSource =
      discovery.isUnsupported grant := by
    rw [RuleRef.withoutSource_eq]
    rfl
  rw [annotate, annotate, nonResource, urls, part, unsupported]
  cases grant.isNonResource with
  | true => cases discovery.unknownUrls grant <;> simp [RuleRef.withoutSource_eq]
  | false => cases discovery.unknownPart grant <;> simp [RuleRef.withoutSource_eq]

/-- A grant stands for the same grants wherever it comes from, and they come from there. -/
theorem expansions_withoutSource (discovery : Discovery) (grant : RuleRef) :
    discovery.expansions grant.withoutSource =
      (discovery.expansions grant).map RuleRef.withoutSource := by
  rw [RuleRef.withoutSource_eq grant]
  simp only [expansions, List.map_flatMap, List.map_map, Function.comp_def,
    RuleRef.withoutSource_eq]
  rfl

end Discovery

namespace Matcher

/-- Whether a grant is selected can be told from its key. -/
theorem selects_eq_of_key_eq (matcher : Matcher) {first second : RuleRef}
    (same : first.key = second.key) : matcher.selects first = matcher.selects second := by
  cases first
  cases second
  simp only [RuleRef.key, RuleKey.mk.injEq] at same
  obtain ⟨rfl, rfl, rfl, rfl, rfl, rfl⟩ := same
  rfl

theorem selects_withoutSource (matcher : Matcher) (grant : RuleRef) :
    matcher.selects grant.withoutSource = matcher.selects grant :=
  matcher.selects_eq_of_key_eq grant.key_withoutSource

theorem keeps_withoutSource (matcher : Matcher) (grant : RuleRef) :
    matcher.keeps grant.withoutSource = matcher.keeps grant := by
  have phantom (marked : RuleRef) : marked.withoutSource.phantom = marked.phantom := by
    rw [RuleRef.withoutSource_eq]
  simp only [keeps, Discovery.annotate_withoutSource, phantom]

theorem expand_withoutSource (matcher : Matcher) (discovery : Discovery) (grant : RuleRef) :
    matcher.expand discovery grant.withoutSource =
      ((matcher.expand discovery grant).1.withoutSource,
        (matcher.expand discovery grant).2) := by
  have selected : (discovery.expansions grant.withoutSource).filter matcher.selects =
      ((discovery.expansions grant).filter matcher.selects).map RuleRef.withoutSource := by
    rw [discovery.expansions_withoutSource, List.filter_map]
    exact congrArg (fun test => ((discovery.expansions grant).filter test).map _)
      (funext matcher.selects_withoutSource)
  simp only [expand, selected, List.length_map, ← List.map_take]
  rw [RuleRef.withoutSource_eq, RuleRef.withoutSource_eq]
  rfl

/-- What becomes of a grant does not depend on where it comes from, and neither does what is said
about it. -/
theorem process_withoutSource (matcher : Matcher) (grant : RuleRef) :
    matcher.process grant.withoutSource =
      ((matcher.process grant).1.map RuleRef.withoutSource, (matcher.process grant).2) := by
  unfold process
  cases matcher.discovery with
  | none => rfl
  | some discovery =>
      have phantom (marked : RuleRef) : marked.withoutSource.phantom = marked.phantom := by
        rw [RuleRef.withoutSource_eq]
      have hasWildcard (marked : RuleRef) :
          marked.withoutSource.hasWildcard = marked.hasWildcard := by
        rw [RuleRef.withoutSource_eq]
        rfl
      simp only [discovery.annotate_withoutSource, phantom, hasWildcard, expand_withoutSource]
      split
      · rfl
      · split <;> rfl

/-- What is found of a grant is what would be found of its key, but for the source. -/
theorem process_key_of_mem_matchRules {matcher : Matcher} {rules : List SourcedRule}
    {found : RuleRef} (member : found ∈ (matcher.matchRules rules).refs) :
    (matcher.process found.key.grant).1 = some found.withoutSource := by
  simp only [matchRules, List.mem_filterMap, List.mem_map, List.mem_filter, List.mem_flatMap]
    at member
  obtain ⟨_, ⟨grant, ⟨⟨sourced, -, held⟩, -⟩, rfl⟩, processed⟩ := member
  have sameKey : found.key = grant.key := by
    have keys := matcher.process_fst grant
    rw [processed, Option.map_some] at keys
    split at keys
    · exact Option.some.inj keys
    · cases keys
  rw [sameKey, ← SourcedRule.withoutSource_of_mem_refs held, process_withoutSource, processed]
  rfl

/-- What two bundles have in common is found alike in both. -/
theorem withoutSource_eq_of_key_eq {matcher : Matcher} {rules others : List SourcedRule}
    {first second : RuleRef} (found : first ∈ (matcher.matchRules rules).refs)
    (alsoFound : second ∈ (matcher.matchRules others).refs) (same : first.key = second.key) :
    first.withoutSource = second.withoutSource := by
  have here := process_key_of_mem_matchRules found
  rw [same, process_key_of_mem_matchRules alsoFound] at here
  exact (Option.some.inj here).symm

/-- Further rules hide none of the grants that are found. -/
theorem key_mem_matchRules_of_rules_subset {matcher : Matcher} {rules others : List SourcedRule}
    (within : rules.map SourcedRule.rule ⊆ others.map SourcedRule.rule) :
    (matcher.matchRules rules).refs.map RuleRef.key ⊆
      (matcher.matchRules others).refs.map RuleRef.key := by
  intro wanted found
  obtain ⟨sourced, held, grant, member, selected, kept, rfl⟩ := key_mem_matchRules.mp found
  obtain ⟨other, alsoHeld, sameRule⟩ := List.mem_map.mp (within (List.mem_map_of_mem held))
  obtain ⟨again, alsoMember, sameKey⟩ := List.mem_map.mp
    (SourcedRule.key_mem_refs_of_rule_eq sameRule.symm (List.mem_map_of_mem member))
  have same : again.withoutSource = grant.withoutSource := by
    rw [SourcedRule.withoutSource_of_mem_refs member,
      SourcedRule.withoutSource_of_mem_refs alsoMember, sameKey]
  refine key_mem_matchRules.mpr ⟨other, alsoHeld, again, alsoMember, ?_, ?_, sameKey⟩
  · rw [← matcher.selects_withoutSource, same, matcher.selects_withoutSource, selected]
  · rw [← matcher.keeps_withoutSource, same, matcher.keeps_withoutSource, kept]

end Matcher

end AccessGraph
