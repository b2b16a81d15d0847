/-
This file says that a rule grants every combination of what it names once, and nothing else. The only
thing that is lost is a slash at the end of a resource, behind which no subresource is named.
-/

import AccessGraph.Proofs.Rule.Parts
import Mathlib.Data.Finset.Prod

namespace AccessGraph

/-- A subresource without a name is none, and the slash before it is left out. -/
def withoutEmptyPart (resource : String) : String :=
  if resource.toList.getLast? = some '/' ∧ '/' ∉ resource.toList.dropLast then
    String.ofList resource.toList.dropLast
  else resource

/-- What was divided is put together again without an empty part. -/
theorem resourceKey_splitResource_eq (resource : String) :
    resourceKey (splitResource resource).1 (splitResource resource).2 =
      withoutEmptyPart resource := by
  rw [withoutEmptyPart]
  split
  · rename_i given
    obtain ⟨ends, only⟩ := given
    have divided : resource.toList = resource.toList.dropLast ++ '/' :: [] :=
      (List.dropLast_append_getLast? '/' ends).symm
    rw [splitResource_of_toList only divided]
    rfl
  · rename_i given
    by_cases ends : resource.toList.getLast? = some '/'
    · have earlier : '/' ∈ resource.toList.dropLast := by simpa [ends] using given
      obtain ⟨base, sub, divided, absent⟩ := List.eq_append_cons_of_mem earlier
      have whole : resource.toList = base ++ '/' :: (sub ++ ['/']) := by
        rw [← List.dropLast_append_getLast? '/' ends, divided]
        simp
      apply String.toList_injective
      rw [toList_resourceKey, splitResource_of_toList absent whole]
      simp [whole]
    · exact resourceKey_splitResource ends

/-- Two resources are divided alike when they are the same but for an empty part. -/
theorem splitResource_eq_iff {first second : String} :
    splitResource first = splitResource second ↔
      withoutEmptyPart first = withoutEmptyPart second := by
  rw [← resourceKey_splitResource_eq, ← resourceKey_splitResource_eq]
  constructor
  · intro same
    rw [same]
  · intro same
    rw [← splitResource_again first, same, splitResource_again]

/-- A resource is kept whole, or a slash is left out that nothing follows and no other comes before. -/
theorem withoutEmptyPart_cases (resource : String) :
    withoutEmptyPart resource = resource ∨
      ('/' ∉ (withoutEmptyPart resource).toList ∧ resource = withoutEmptyPart resource ++ "/") := by
  rw [withoutEmptyPart]
  split
  · rename_i given
    obtain ⟨ends, only⟩ := given
    refine .inr ⟨by simpa using only, ?_⟩
    apply String.toList_injective
    have slash : "/".toList = ['/'] := by decide
    rw [String.toList_append, String.toList_ofList, slash, List.dropLast_append_getLast? '/' ends]
  · exact .inl rfl

theorem withoutEmptyPart_of_not_mem {resource : String} (absent : '/' ∉ resource.toList) :
    withoutEmptyPart resource = resource := by
  rw [← resourceKey_splitResource_eq, splitResource_of_not_mem absent]
  rfl

theorem withoutEmptyPart_append_slash {resource : String} (absent : '/' ∉ resource.toList) :
    withoutEmptyPart (resource ++ "/") = resource := by
  have divided : (resource ++ "/").toList = resource.toList ++ '/' :: [] := by
    rw [String.toList_append]
    rfl
  rw [← resourceKey_splitResource_eq, splitResource_of_toList absent divided, String.ofList_toList]
  rfl

/-- Among some resources, no two are divided alike exactly if none is there with an empty part and
without it. -/
theorem splitResource_injOn_iff {resources : Finset String} :
    Set.InjOn splitResource (resources : Set String) ↔
      ∀ resource ∈ resources, '/' ∉ resource.toList → resource ++ "/" ∉ resources := by
  constructor
  · intro injective resource member absent again
    have same : splitResource resource = splitResource (resource ++ "/") := by
      rw [splitResource_eq_iff, withoutEmptyPart_of_not_mem absent,
        withoutEmptyPart_append_slash absent]
    have equal := congrArg String.length (injective member again same)
    simp [String.length_append] at equal
  · intro apart first member second alsoMember same
    -- If they were not the same, one would be the other with a slash behind it.
    rw [splitResource_eq_iff] at same
    rcases withoutEmptyPart_cases first with whole | ⟨absent, cut⟩
    · rcases withoutEmptyPart_cases second with alsoWhole | ⟨absent, cut⟩
      · rw [← whole, same, alsoWhole]
      · rw [← same, whole] at absent cut
        exact absurd (cut ▸ alsoMember) (apart first member absent)
    · rcases withoutEmptyPart_cases second with whole | ⟨-, alsoCut⟩
      · rw [same, whole] at absent cut
        exact absurd (cut ▸ member) (apart second alsoMember absent)
      · rw [cut, same, ← alsoCut]

/-- A list without repetitions is the set of its members. -/
theorem coe_eq_val {values : List String} {set : Finset String} (nodup : values.Nodup)
    (same : ∀ value, value ∈ values ↔ value ∈ set) : (values : Multiset String) = set.val :=
  (Multiset.Nodup.ext (Multiset.coe_nodup.mpr nodup) set.nodup).mpr same

namespace PolicyRule

/-- The groups that a rule names. -/
def groupSet (rule : PolicyRule) : Finset String :=
  (rule.apiGroups.map normalizeName).toFinset

/-- The resources that a rule names; a blank one is none, and so with verbs and URLs. -/
def resourceSet (rule : PolicyRule) : Finset String :=
  (rule.resources.map normalizeName).toFinset.erase ""

def verbSet (rule : PolicyRule) : Finset String :=
  (rule.verbs.map normalizeName).toFinset.erase ""

def urlSet (rule : PolicyRule) : Finset String :=
  (rule.nonResourceUrls.map Text.trim).toFinset.erase ""

theorem coe_distinct (values : List String) :
    (distinct values : Multiset String) = values.toFinset.val :=
  coe_eq_val (distinct_nodup values) fun value => by rw [mem_distinct, List.mem_toFinset]

theorem coe_filter_distinct (values : List String) :
    ((distinct values).filter (!·.isEmpty) : Multiset String) =
      (values.toFinset.erase "").val := by
  apply coe_eq_val ((distinct_nodup values).filter _)
  intro value
  rw [List.mem_filter, mem_distinct, Finset.mem_erase, List.mem_toFinset, Bool.not_eq_true',
    ← Bool.not_eq_true, String.isEmpty_iff, and_comm]

/-- Names of objects are sorted and do not repeat. -/
theorem objectNames_ascending (rule : PolicyRule) : rule.objectNames.Pairwise (· < ·) := by
  have sorted : rule.objectNames.Pairwise fun first second => decide (first ≤ second) = true := by
    apply List.pairwise_mergeSort
    · intro first second third
      simpa using String.le_trans
    · intro first second
      simpa using String.le_total first second
  have differ : rule.objectNames.Nodup :=
    (List.mergeSort_perm _ _).nodup_iff.mpr (distinct_nodup _)
  refine (sorted.and differ).imp fun given => ?_
  obtain ⟨notAfter, different⟩ := given
  exact Std.lt_of_le_of_ne (of_decide_eq_true notAfter) different

theorem mem_objectNames {rule : PolicyRule} {name : String} :
    name ∈ rule.objectNames ↔ name ∈ rule.resourceNames.map Text.trim := by
  rw [objectNames, List.mem_mergeSort, mem_distinct]

end PolicyRule

namespace SourcedRule

variable (sourced : SourcedRule)

theorem resourceRefs_eq_map : sourced.resourceRefs =
    (sourced.rule.groups ×ˢ sourced.rule.resourceKeys ×ˢ sourced.rule.verbNames).map
      fun named => sourced.resourceRef sourced.rule.objectNames named.1 named.2.1 named.2.2 := by
  simp only [resourceRefs, SProd.sprod, List.product, List.map_flatMap, List.map_map,
    Function.comp_def]

theorem urlRefs_eq_map : sourced.urlRefs =
    (sourced.rule.urls ×ˢ sourced.rule.verbNames).map
      fun named => sourced.urlRef named.1 named.2 := by
  simp only [urlRefs, SProd.sprod, List.product, List.map_flatMap, List.map_map,
    Function.comp_def]

/-- Grants of a rule on resources and on URLs are told apart by what they are about. -/
theorem filter_refs : sourced.refs.filter (!·.isNonResource) = sourced.resourceRefs ∧
    sourced.refs.filter (·.isNonResource) = sourced.urlRefs := by
  have onResources : ∀ grant ∈ sourced.resourceRefs, grant.isNonResource = false := by
    intro grant member
    rw [resourceRefs_eq_map] at member
    obtain ⟨named, -, rfl⟩ := List.mem_map.mp member
    rfl
  have onUrls : ∀ grant ∈ sourced.urlRefs, grant.isNonResource = true := by
    intro grant member
    rw [urlRefs_eq_map] at member
    obtain ⟨named, -, rfl⟩ := List.mem_map.mp member
    rfl
  constructor
  · rw [refs, List.filter_append, List.filter_eq_self.mpr, List.filter_eq_nil_iff.mpr,
      List.append_nil]
    · simpa using onUrls
    · simpa using onResources
  · rw [refs, List.filter_append, List.filter_eq_nil_iff.mpr, List.filter_eq_self.mpr,
      List.nil_append]
    · exact onUrls
    · simpa using onResources

/-- The combinations that are listed are those of what the rule names. -/
theorem coe_named :
    ((sourced.rule.groups ×ˢ sourced.rule.resourceKeys ×ˢ sourced.rule.verbNames :
      List (String × String × String)) : Multiset (String × String × String)) =
    (sourced.rule.groupSet ×ˢ sourced.rule.resourceSet ×ˢ sourced.rule.verbSet).val := by
  rw [Finset.product_val, Finset.product_val, PolicyRule.groupSet, PolicyRule.resourceSet,
    PolicyRule.verbSet, ← PolicyRule.coe_distinct, ← PolicyRule.coe_filter_distinct,
    ← PolicyRule.coe_filter_distinct, Multiset.coe_product, Multiset.coe_product]
  rfl

theorem coe_namedUrls :
    ((sourced.rule.urls ×ˢ sourced.rule.verbNames : List (String × String)) :
      Multiset (String × String)) = (sourced.rule.urlSet ×ˢ sourced.rule.verbSet).val := by
  rw [Finset.product_val, PolicyRule.urlSet, PolicyRule.verbSet, ← PolicyRule.coe_filter_distinct,
    ← PolicyRule.coe_filter_distinct, Multiset.coe_product]
  rfl

/-- A rule grants every verb on every resource of every group once, and every verb on every URL, where
resources may be read in some way. All grants on resources are for the same names, which are sorted
and do not repeat. -/
structure GrantsEach (sourced : SourcedRule) (read : String → String) : Prop where
  onResources : ((sourced.refs.filter (!·.isNonResource)).map
      fun grant => (grant.apiGroup, grant.resourceKey, grant.verb) :
        Multiset (String × String × String)) =
    (sourced.rule.groupSet ×ˢ sourced.rule.resourceSet ×ˢ sourced.rule.verbSet).val.map
      fun named => (named.1, read named.2.1, named.2.2)
  onUrls : ((sourced.refs.filter (·.isNonResource)).map
      fun grant => (grant.nonResourceUrls, grant.verb) : Multiset (List String × String)) =
    (sourced.rule.urlSet ×ˢ sourced.rule.verbSet).val.map fun named => ([named.1], named.2)
  names : ∀ grant ∈ sourced.refs, grant.isNonResource = false →
    grant.resourceNames.Pairwise (· < ·) ∧
      ∀ name, name ∈ grant.resourceNames ↔ name ∈ sourced.rule.resourceNames.map Text.trim

/-- Every rule grants each combination of what it names. -/
theorem grantsEach : sourced.GrantsEach withoutEmptyPart where
  onResources := by
    rw [sourced.filter_refs.1, resourceRefs_eq_map, ← coe_named, List.map_map, Multiset.map_coe]
    refine congrArg _ (List.map_congr_left fun named _ => ?_)
    rw [← resourceKey_splitResource_eq]
    rfl
  onUrls := by
    rw [sourced.filter_refs.2, urlRefs_eq_map, ← coe_namedUrls, List.map_map, Multiset.map_coe]
    rfl
  names := by
    intro grant member onResources
    have listed : grant ∈ sourced.refs.filter (!·.isNonResource) :=
      List.mem_filter.mpr ⟨member, by rw [onResources]; rfl⟩
    rw [sourced.filter_refs.1, resourceRefs_eq_map] at listed
    obtain ⟨named, -, rfl⟩ := List.mem_map.mp listed
    exact ⟨sourced.rule.objectNames_ascending, fun name => PolicyRule.mem_objectNames⟩

theorem mem_named_iff {named : String × String × String} :
    named ∈ sourced.rule.groups ×ˢ sourced.rule.resourceKeys ×ˢ sourced.rule.verbNames ↔
      named.1 ∈ sourced.rule.groupSet ∧ named.2.1 ∈ sourced.rule.resourceSet ∧
        named.2.2 ∈ sourced.rule.verbSet := by
  rw [← Multiset.mem_coe, coe_named, Finset.mem_val, Finset.mem_product, Finset.mem_product]

/-- What is listed of a rule does not repeat. -/
theorem named_nodup :
    (sourced.rule.groups ×ˢ sourced.rule.resourceKeys ×ˢ sourced.rule.verbNames).Nodup := by
  rw [← Multiset.coe_nodup, coe_named]
  exact Finset.nodup _

theorem namedUrls_nodup : (sourced.rule.urls ×ˢ sourced.rule.verbNames).Nodup := by
  rw [← Multiset.coe_nodup, coe_namedUrls]
  exact Finset.nodup _

/-- Grants on URLs have keys of their own. -/
theorem keys_refs_nodup_iff :
    (sourced.refs.map RuleRef.key).Nodup ↔ (sourced.resourceRefs.map RuleRef.key).Nodup := by
  have onUrls : (sourced.urlRefs.map RuleRef.key).Nodup := by
    rw [urlRefs_eq_map, List.map_map]
    refine sourced.namedUrls_nodup.map fun first second same => ?_
    have urls := congrArg RuleKey.nonResourceUrls same
    exact Prod.ext (List.singleton_injective urls) (congrArg RuleKey.verb same)
  have apart : ∀ key ∈ sourced.resourceRefs.map RuleRef.key,
      ∀ other ∈ sourced.urlRefs.map RuleRef.key, key ≠ other := by
    intro key member other alsoMember same
    rw [resourceRefs_eq_map, List.map_map] at member
    rw [urlRefs_eq_map, List.map_map] at alsoMember
    obtain ⟨named, -, rfl⟩ := List.mem_map.mp member
    obtain ⟨alsoNamed, -, rfl⟩ := List.mem_map.mp alsoMember
    cases congrArg RuleKey.nonResourceUrls same
  rw [refs, List.map_append, List.nodup_append]
  exact ⟨fun given => given.1, fun given => ⟨given, onUrls, apart⟩⟩

/-- Grants on resources have one key when they name the same, but for how the resource is written. -/
theorem key_resourceRef_eq_iff {objectNames : List String} {first second : String × String × String} :
    (sourced.resourceRef objectNames first.1 first.2.1 first.2.2).key =
        (sourced.resourceRef objectNames second.1 second.2.1 second.2.2).key ↔
      first.1 = second.1 ∧ splitResource first.2.1 = splitResource second.2.1 ∧
        first.2.2 = second.2.2 := by
  simp [RuleRef.key, resourceRef, blankRef, RuleRef.empty, Prod.ext_iff, and_assoc]

/-- The keys of a rule's grants differ, unless the rule grants something on a resource that it names
with an empty part and without it. -/
theorem keys_nodup_iff : (sourced.refs.map RuleRef.key).Nodup ↔
    sourced.rule.groupSet = ∅ ∨ sourced.rule.verbSet = ∅ ∨
      ∀ resource ∈ sourced.rule.resourceSet, '/' ∉ resource.toList →
        resource ++ "/" ∉ sourced.rule.resourceSet := by
  rw [keys_refs_nodup_iff, resourceRefs_eq_map, List.map_map,
    List.nodup_map_iff_inj_on sourced.named_nodup, ← splitResource_injOn_iff]
  simp only [Function.comp_apply, key_resourceRef_eq_iff, mem_named_iff]
  constructor
  · intro differ
    rcases sourced.rule.groupSet.eq_empty_or_nonempty with none | ⟨group, inGroups⟩
    · exact .inl none
    · rcases sourced.rule.verbSet.eq_empty_or_nonempty with none | ⟨verb, inVerbs⟩
      · exact .inr (.inl none)
      · refine .inr (.inr fun first member second alsoMember same => ?_)
        have equal := differ (group, first, verb) ⟨inGroups, member, inVerbs⟩
          (group, second, verb) ⟨inGroups, alsoMember, inVerbs⟩ ⟨rfl, same, rfl⟩
        exact congrArg (·.2.1) equal
  · intro apart first member second alsoMember same
    rcases apart with none | none | injective
    · simp [none] at member
    · simp [none] at member
    · exact Prod.ext same.1 (Prod.ext (injective member.2.1 alsoMember.2.1 same.2.1) same.2.2)

end SourcedRule

/-- A rule grants every combination of what it names once, but that a slash at the end of a resource is
lost where nothing else is divided by one; and its grants have different keys, unless a resource is
named with such a slash and without it. -/
theorem refs_of_rule (sourced : SourcedRule) :
    sourced.GrantsEach withoutEmptyPart ∧
    ((sourced.refs.map RuleRef.key).Nodup ↔
      sourced.rule.groupSet = ∅ ∨ sourced.rule.verbSet = ∅ ∨
        ∀ resource ∈ sourced.rule.resourceSet, '/' ∉ resource.toList →
          resource ++ "/" ∉ sourced.rule.resourceSet) :=
  ⟨sourced.grantsEach, sourced.keys_nodup_iff⟩

/-- A rule that names pods twice, with a slash and without. -/
def slashRule : SourcedRule :=
  ⟨⟨[""], ["pods", "pods/"], ["get"], [], []⟩, "clusterrole:viewer", 0⟩

/-- Resources are not always kept as they are written, and so a rule may grant the same twice. -/
theorem refs_lose_slash : ¬ slashRule.GrantsEach id ∧ ¬ (slashRule.refs.map RuleRef.key).Nodup := by
  constructor
  · intro given
    have named : ("", "pods/", "get") ∈ slashRule.rule.groupSet ×ˢ slashRule.rule.resourceSet ×ˢ
        slashRule.rule.verbSet := by
      decide +kernel
    have granted : ("", "pods/", "get") ∈ (slashRule.refs.filter (!·.isNonResource)).map
        fun grant => (grant.apiGroup, grant.resourceKey, grant.verb) := by
      rw [← Multiset.mem_coe, given.onResources]
      exact Multiset.mem_map_of_mem _ (Finset.mem_val.mpr named)
    exact absurd granted (by decide +kernel)
  · decide +kernel

end AccessGraph
