/-
This file says which grants of some rules are found: those that are selected and that are no phantom
to be dropped. Marks and expansions never change what a grant is.
-/

import AccessGraph.Matching.Outcome

namespace AccessGraph

/-- A grant of a key without anything else. -/
def RuleKey.grant (key : RuleKey) : RuleRef :=
  { RuleRef.empty with
    apiGroup := key.apiGroup
    resource := key.resource
    subresource := key.subresource
    verb := key.verb
    resourceNames := key.resourceNames
    nonResourceUrls := key.nonResourceUrls }

namespace RuleRef

/-- Grants with one key grant one permission. -/
theorem permission_eq_of_key_eq {first second : RuleRef} (same : first.key = second.key) :
    first.permission = second.permission := by
  simp only [key, RuleKey.mk.injEq] at same
  obtain ⟨group, resource, subresource, verb, -, urls⟩ := same
  rw [permission, permission, isNonResource, isNonResource, resourceKey, resourceKey, group,
    resource, subresource, verb, urls]

/-- A list holds a grant of a permission if it holds a key of such a grant. -/
theorem exists_permission_iff {grants : List RuleRef} {permission : Permission} :
    (∃ grant ∈ grants, grant.permission = permission) ↔
      ∃ wanted ∈ grants.map key, wanted.grant.permission = permission := by
  have same (grant : RuleRef) : grant.key.grant.permission = grant.permission :=
    permission_eq_of_key_eq rfl
  constructor
  · intro given
    obtain ⟨grant, member, rfl⟩ := given
    exact ⟨grant.key, List.mem_map_of_mem member, same grant⟩
  · intro given
    obtain ⟨wanted, member, rfl⟩ := given
    obtain ⟨grant, present, rfl⟩ := List.mem_map.mp member
    exact ⟨grant, present, (same grant).symm⟩

theorem key_withoutSource (grant : RuleRef) : grant.withoutSource.key = grant.key := by
  cases grant
  rw [withoutSource]
  rfl

/-- Every grant is left after repeated keys are dropped, at least by another of its key. -/
theorem key_mem_dedupe {grants : List RuleRef} {wanted : RuleKey} :
    wanted ∈ (dedupe grants).map key ↔ wanted ∈ grants.map key :=
  key_mem_distinctBy key

end RuleRef

/-- Marks leave everything else of a grant as it is. -/
theorem Discovery.annotate_marked (discovery : Discovery) (grant : RuleRef) :
    (discovery.annotate grant).1 =
      { grant with
        phantom := (discovery.annotate grant).1.phantom
        unsupportedVerb := (discovery.annotate grant).1.unsupportedVerb } := by
  cases grant
  unfold annotate
  split
  · split <;> rfl
  · split <;> rfl

/-- Marking a grant does not change what it grants. -/
theorem Discovery.key_annotate (discovery : Discovery) (grant : RuleRef) :
    (discovery.annotate grant).1.key = grant.key := by
  rw [annotate_marked]
  rfl

namespace Matcher

/-- A grant is dropped when it is a phantom and phantoms are to be left out. -/
def keeps (matcher : Matcher) (grant : RuleRef) : Bool :=
  !(matcher.filterPhantoms &&
    matcher.discovery.any fun discovery => (discovery.annotate grant).1.phantom)

/-- A grant that is kept is still the same grant, marked and expanded. -/
theorem process_fst (matcher : Matcher) (grant : RuleRef) :
    ((matcher.process grant).1.map RuleRef.key) =
      if matcher.keeps grant then some grant.key else none := by
  unfold process keeps
  cases matcher.discovery with
  | none => simp
  | some discovery =>
      have marked := discovery.key_annotate grant
      dsimp only [Option.any_some]
      by_cases dropped : (matcher.filterPhantoms && (discovery.annotate grant).1.phantom) = true
      · simp [dropped]
      · have kept : (if (!(matcher.filterPhantoms && (discovery.annotate grant).1.phantom)) = true
            then some grant.key else none) = some grant.key :=
          if_pos ((Bool.not_eq_true' _).mpr (Bool.eq_false_iff.mpr dropped))
        rw [if_neg dropped, kept]
        split
        · exact congrArg some marked
        · exact congrArg some marked

/-- The grants that are found are those that are selected and kept. -/
theorem key_mem_matchRules {matcher : Matcher} {rules : List SourcedRule} {wanted : RuleKey} :
    wanted ∈ (matcher.matchRules rules).refs.map RuleRef.key ↔
      ∃ sourced ∈ rules, ∃ grant ∈ sourced.refs,
        matcher.selects grant = true ∧ matcher.keeps grant = true ∧ grant.key = wanted := by
  have each (grant : RuleRef) : (∃ marked, (matcher.process grant).1 = some marked ∧
      marked.key = wanted) ↔ matcher.keeps grant = true ∧ grant.key = wanted := by
    rw [← Option.map_eq_some_iff, process_fst]
    cases matcher.keeps grant <;> simp
  simp only [matchRules, List.mem_map, List.mem_filterMap, List.mem_filter, List.mem_flatMap]
  constructor
  · intro given
    obtain ⟨marked, ⟨processed, ⟨grant, ⟨⟨sourced, rule, member⟩, selected⟩, rfl⟩, kept⟩, same⟩ :=
      given
    exact ⟨sourced, rule, grant, member, selected, (each grant).mp ⟨marked, kept, same⟩⟩
  · intro given
    obtain ⟨sourced, rule, grant, member, selected, kept⟩ := given
    obtain ⟨marked, found, same⟩ := (each grant).mpr kept
    exact ⟨marked, ⟨_, ⟨grant, ⟨⟨sourced, rule, member⟩, selected⟩, rfl⟩, found⟩, same⟩

end Matcher

end AccessGraph
