/-
This file says that being a phantom is a matter of what a grant is about: grants on the same resource or
the same URL are marked alike, whatever else they say.
-/

import AccessGraph.Proofs.Matching.Kept
import AccessGraph.Proofs.Rule.Parts

namespace AccessGraph

namespace RuleRef

/-- A permission is known by its group, its resource or URLs, and its verb. -/
@[ext] structure Identity where
  apiGroup : String
  resource : String
  verb : String
deriving DecidableEq, Repr

def identity (grant : RuleRef) : Identity :=
  ⟨grant.permission.apiGroup, grant.permission.resource, grant.permission.verb⟩

/-- Grants are about the same when they share a group, a resource with its subresource, and URLs. -/
structure AboutSame (first second : RuleRef) : Prop where
  apiGroup : first.apiGroup = second.apiGroup
  resource : first.resource = second.resource
  subresource : first.subresource = second.subresource
  nonResourceUrls : first.nonResourceUrls = second.nonResourceUrls

theorem identity_eq_of_key_eq {first second : RuleRef} (same : first.key = second.key) :
    first.identity = second.identity := by
  rw [identity, identity, permission_eq_of_key_eq same]

theorem isNonResource_eq_of_key_eq {first second : RuleRef} (same : first.key = second.key) :
    first.isNonResource = second.isNonResource := by
  have urls : first.nonResourceUrls = second.nonResourceUrls :=
    congrArg RuleKey.nonResourceUrls same
  rw [isNonResource, isNonResource, urls]

end RuleRef

namespace SourcedRule

theorem identity_resourceRef (sourced : SourcedRule) (objectNames : List String)
    (group resource verb : String) : (sourced.resourceRef objectNames group resource verb).identity =
      ⟨group, resourceKey (splitResource resource).1 (splitResource resource).2, verb⟩ := by
  rw [RuleRef.identity, permission_resourceRef]

theorem identity_urlRef (sourced : SourcedRule) (url verb : String) :
    (sourced.urlRef url verb).identity = ⟨"", url, verb⟩ := by
  rw [RuleRef.identity, permission_urlRef]

/-- What grants of rules are about can be told from their permissions. -/
theorem aboutSame_of_identity_eq {sourced other : SourcedRule} {first second : RuleRef}
    (held : first ∈ sourced.refs) (alsoHeld : second ∈ other.refs)
    (same : first.identity = second.identity)
    (alike : first.isNonResource = second.isNonResource) : first.AboutSame second := by
  rw [mem_refs_iff] at held alsoHeld
  rcases held with ⟨group, -, resource, -, verb, -, rfl⟩ | ⟨url, -, verb, -, rfl⟩
  · rcases alsoHeld with ⟨otherGroup, -, otherResource, -, otherVerb, -, rfl⟩ | ⟨_, -, _, -, rfl⟩
    · rw [identity_resourceRef, identity_resourceRef] at same
      obtain ⟨groups, keys, -⟩ := RuleRef.Identity.mk.inj same
      have parts : splitResource resource = splitResource otherResource := by
        rw [← splitResource_again resource, keys, splitResource_again]
      exact ⟨groups, congrArg (·.1) parts, congrArg (·.2) parts, rfl⟩
    · cases alike
  · rcases alsoHeld with ⟨_, -, _, -, _, -, rfl⟩ | ⟨otherUrl, -, otherVerb, -, rfl⟩
    · cases alike
    · rw [identity_urlRef, identity_urlRef] at same
      obtain ⟨-, urls, -⟩ := RuleRef.Identity.mk.inj same
      exact ⟨rfl, rfl, rfl, congrArg (fun url => [url]) urls⟩

/-- Rules mark none of their grants. -/
theorem phantom_of_mem_refs {sourced : SourcedRule} {grant : RuleRef}
    (held : grant ∈ sourced.refs) : grant.phantom = false := by
  rcases mem_refs_iff.mp held with ⟨_, -, _, -, _, -, rfl⟩ | ⟨_, -, _, -, rfl⟩
  · rfl
  · rfl

end SourcedRule

/-- Grants about the same are marked alike. -/
theorem Discovery.phantom_annotate_eq (discovery : Discovery) {first second : RuleRef}
    (same : first.AboutSame second) (alike : first.phantom = second.phantom) :
    (discovery.annotate first).1.phantom = (discovery.annotate second).1.phantom := by
  obtain ⟨apiGroup, resource, subresource, nonResourceUrls⟩ := same
  have part : discovery.unknownPart first = discovery.unknownPart second := by
    rw [unknownPart, unknownPart, RuleRef.resourceKey, RuleRef.resourceKey, apiGroup, resource,
      subresource]
  have urls : discovery.unknownUrls first = discovery.unknownUrls second := by
    simp only [unknownUrls, nonResourceUrls]
  have nonResource : first.isNonResource = second.isNonResource := by
    simp only [RuleRef.isNonResource, nonResourceUrls]
  rw [annotate, annotate, part, urls, nonResource]
  split
  · split
    · exact alike
    · rfl
  · split
    · rfl
    · exact alike

namespace Matcher

/-- A grant that is found bears the mark that discovery puts on it. -/
theorem phantom_of_process {matcher : Matcher} {grant found : RuleRef}
    (processed : (matcher.process grant).1 = some found) :
    found.phantom = match matcher.discovery with
      | none => grant.phantom
      | some discovery => (discovery.annotate grant).1.phantom := by
  unfold process at processed
  cases known : matcher.discovery with
  | none =>
      rw [known] at processed
      cases processed
      rfl
  | some discovery =>
      rw [known] at processed
      dsimp only at processed ⊢
      split at processed
      · cases processed
      · split at processed
        · cases processed
          rfl
        · cases processed
          rfl

/-- What is found is about what a rule grants. -/
theorem exists_held_of_mem_matchRules {matcher : Matcher} {rules : List SourcedRule}
    {found : RuleRef} (member : found ∈ (matcher.matchRules rules).refs) :
    ∃ sourced ∈ rules, ∃ grant ∈ sourced.refs, grant.key = found.key ∧
      (matcher.process grant).1 = some found := by
  simp only [matchRules, List.mem_filterMap, List.mem_map, List.mem_filter, List.mem_flatMap]
    at member
  obtain ⟨_, ⟨grant, ⟨⟨sourced, rule, held⟩, -⟩, rfl⟩, processed⟩ := member
  have keys := matcher.process_fst grant
  rw [processed, Option.map_some] at keys
  refine ⟨sourced, rule, grant, held, ?_, processed⟩
  split at keys
  · exact (Option.some.inj keys).symm
  · cases keys

/-- Grants that are found are marked alike when their permissions are the same. -/
theorem phantom_eq_of_identity_eq {matcher : Matcher} {rules others : List SourcedRule}
    {first second : RuleRef} (found : first ∈ (matcher.matchRules rules).refs)
    (alsoFound : second ∈ (matcher.matchRules others).refs)
    (same : first.identity = second.identity)
    (alike : first.isNonResource = second.isNonResource) : first.phantom = second.phantom := by
  obtain ⟨sourced, -, grant, held, key, processed⟩ := exists_held_of_mem_matchRules found
  obtain ⟨further, -, other, alsoHeld, alsoKey, alsoProcessed⟩ :=
    exists_held_of_mem_matchRules alsoFound
  rw [← RuleRef.identity_eq_of_key_eq key, ← RuleRef.identity_eq_of_key_eq alsoKey] at same
  rw [← RuleRef.isNonResource_eq_of_key_eq key, ← RuleRef.isNonResource_eq_of_key_eq alsoKey]
    at alike
  have about := SourcedRule.aboutSame_of_identity_eq held alsoHeld same alike
  have fresh : grant.phantom = other.phantom := by
    rw [SourcedRule.phantom_of_mem_refs held, SourcedRule.phantom_of_mem_refs alsoHeld]
  rw [phantom_of_process processed, phantom_of_process alsoProcessed]
  cases matcher.discovery with
  | none => exact fresh
  | some discovery => exact discovery.phantom_annotate_eq about fresh

end Matcher

end AccessGraph
