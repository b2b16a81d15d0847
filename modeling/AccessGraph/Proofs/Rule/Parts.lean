/-
This file says how resources are divided from their subresources and joined with them again, and so
what the grants of a rule are about.
-/

import AccessGraph.Proofs.Text.Joined
import AccessGraph.Rule.Normalize

namespace AccessGraph

/-- A resource without a slash is not divided. -/
theorem splitResource_of_not_mem {key : String} (absent : '/' ∉ key.toList) :
    splitResource key = (key, "") := by
  have others : ∀ character ∈ key.toList, decide (character ≠ '/') = true := by
    intro character member
    exact decide_eq_true fun equal => absent (equal ▸ member)
  rw [splitResource, List.takeWhile_eq_self_iff.mpr others, List.dropWhile_eq_nil_iff.mpr others]
  simp

/-- A resource is divided at its first slash. -/
theorem splitResource_of_toList {key : String} {base sub : List Char} (absent : '/' ∉ base)
    (divided : key.toList = base ++ '/' :: sub) :
    splitResource key = (String.ofList base, String.ofList sub) := by
  have others : ∀ character ∈ base, decide (character ≠ '/') = true := by
    intro character member
    exact decide_eq_true fun equal => absent (equal ▸ member)
  rw [splitResource, divided, Text.takeWhile_append_separator absent,
    List.dropWhile_append_of_pos others]
  simp

/-- There is no slash in what stands before the first one. -/
theorem slash_not_mem_splitResource (key : String) : '/' ∉ (splitResource key).1.toList := by
  by_cases slash : '/' ∈ key.toList
  · obtain ⟨base, sub, divided, absent⟩ := List.eq_append_cons_of_mem slash
    simpa [splitResource_of_toList absent divided] using absent
  · rwa [splitResource_of_not_mem slash]

theorem toList_resourceKey (resource subresource : String) :
    (resourceKey resource subresource).toList =
      if subresource.toList = [] then resource.toList
      else resource.toList ++ '/' :: subresource.toList := by
  have slash : "/".toList = ['/'] := by decide
  rw [resourceKey]
  by_cases whole : subresource = "" <;> simp [whole, slash, String.isEmpty_iff]

/-- A resource is put together again, unless its subresource has no name. -/
theorem resourceKey_splitResource {key : String} (tidy : key.toList.getLast? ≠ some '/') :
    resourceKey (splitResource key).1 (splitResource key).2 = key := by
  apply String.toList_injective
  rw [toList_resourceKey]
  by_cases slash : '/' ∈ key.toList
  · obtain ⟨base, sub, divided, absent⟩ := List.eq_append_cons_of_mem slash
    have named : sub ≠ [] := by
      rintro rfl
      simp [divided] at tidy
    simp [splitResource_of_toList absent divided, named, divided]
  · simp [splitResource_of_not_mem slash]

/-- A resource without a slash is found again in what it is joined to. -/
theorem splitResource_resourceKey {resource : String} (absent : '/' ∉ resource.toList)
    (subresource : String) :
    splitResource (resourceKey resource subresource) = (resource, subresource) := by
  by_cases whole : subresource = ""
  · have same : resourceKey resource subresource = resource := by
      simp [resourceKey, whole]
    rw [same, splitResource_of_not_mem absent, whole]
  · have divided : (resourceKey resource subresource).toList =
        resource.toList ++ '/' :: subresource.toList := by
      simp [toList_resourceKey, whole]
    rw [splitResource_of_toList absent divided, String.ofList_toList, String.ofList_toList]

/-- What was divided and joined is divided as before. -/
theorem splitResource_again (key : String) :
    splitResource (resourceKey (splitResource key).1 (splitResource key).2) = splitResource key :=
  splitResource_resourceKey (slash_not_mem_splitResource key) _

namespace SourcedRule

/-- A rule grants verbs on the resources of its groups and on its URLs, and nothing else. -/
theorem mem_refs_iff {sourced : SourcedRule} {grant : RuleRef} : grant ∈ sourced.refs ↔
    (∃ group ∈ sourced.rule.groups, ∃ resource ∈ sourced.rule.resourceKeys,
      ∃ verb ∈ sourced.rule.verbNames,
        sourced.resourceRef sourced.rule.objectNames group resource verb = grant) ∨
    ∃ url ∈ sourced.rule.urls, ∃ verb ∈ sourced.rule.verbNames, sourced.urlRef url verb = grant := by
  simp only [refs, resourceRefs, urlRefs, List.mem_append, List.mem_flatMap, List.mem_map]

theorem permission_resourceRef (sourced : SourcedRule) (objectNames : List String)
    (group resource verb : String) :
    (sourced.resourceRef objectNames group resource verb).permission =
      ⟨group, resourceKey (splitResource resource).1 (splitResource resource).2, verb, false⟩ :=
  rfl

theorem permission_urlRef (sourced : SourcedRule) (url verb : String) :
    (sourced.urlRef url verb).permission = ⟨"", url, verb, true⟩ :=
  rfl

end SourcedRule

end AccessGraph
