/-
This file says that where wildcards expand, a grant that covers another one is selected with it: the
broadest grants are never missed.
-/

import AccessGraph.Proofs.Matching.Loosening
import AccessGraph.Proofs.Rule.Parts

namespace AccessGraph

/-- A value is covered by itself and by the wildcard. -/
def Broadens (broad narrow : String) : Prop :=
  broad = narrow ∨ broad = wildcard

namespace RuleRef

/-- A resource is covered by itself and by the wildcard alone, and one with a subresource by another
with a subresource that covers both of its parts. -/
inductive CoversResource (broad narrow : RuleRef) : Prop
  | same (resource : broad.resource = narrow.resource)
      (subresource : broad.subresource = narrow.subresource)
  | every (resource : broad.resource = wildcard) (subresource : broad.subresource = "")
  | parts (divided : broad.subresource ≠ "") (alsoDivided : narrow.subresource ≠ "")
      (resource : Broadens broad.resource narrow.resource)
      (subresource : Broadens broad.subresource narrow.subresource)

/-- A grant without names is one for all names. -/
def CoversNames (broad narrow : RuleRef) : Prop :=
  broad.resourceNames = [] ∨
    (narrow.resourceNames ≠ [] ∧ narrow.resourceNames ⊆ broad.resourceNames)

/-- A grant on resources covers another in every part. Of grants on URLs only the URLs count. -/
inductive Covers (broad narrow : RuleRef) : Prop
  | resource (onResources : broad.isNonResource = false)
      (alsoOnResources : narrow.isNonResource = false)
      (group : Broadens broad.apiGroup narrow.apiGroup) (verb : Broadens broad.verb narrow.verb)
      (resource : broad.CoversResource narrow) (names : broad.CoversNames narrow)
  | url {wanted given : String} (named : broad.nonResourceUrls = [wanted])
      (alsoNamed : narrow.nonResourceUrls = [given]) (url : Broadens wanted given)

end RuleRef

/-- No slash is left in the resource of what a rule grants. -/
theorem SourcedRule.slash_not_mem_of_granted {sourced : SourcedRule} {grant : RuleRef}
    (granted : grant.key ∈ sourced.refs.map RuleRef.key) : '/' ∉ grant.resource.toList := by
  obtain ⟨held, member, same⟩ := List.mem_map.mp granted
  have resource : held.resource = grant.resource := congrArg RuleKey.resource same
  rw [← resource]
  rcases mem_refs_iff.mp member with ⟨_, -, key, -, _, -, rfl⟩ | ⟨_, -, _, -, rfl⟩
  · exact slash_not_mem_splitResource key
  · exact List.not_mem_nil

namespace Matcher

theorem covers_self (value : String) : covers value value = true := by
  simp [covers]

theorem covers_wildcard (value : String) : covers wildcard value = true := by
  simp [covers]

/-- The parts of a resource compare with those that are wanted, one by one. -/
theorem partsMatch_iff {wanted : String} {grant : RuleRef} :
    partsMatch wanted grant = true ↔
      (covers grant.resource (splitResource wanted).1 ||
        covers (splitResource wanted).1 grant.resource) = true ∧
      ((splitResource wanted).2 = "" ↔ grant.subresource = "") ∧
      (covers grant.subresource (splitResource wanted).2 ||
        covers (splitResource wanted).2 grant.subresource) = true := by
  have alike : ((splitResource wanted).2.isEmpty == grant.subresource.isEmpty) = true ↔
      ((splitResource wanted).2 = "" ↔ grant.subresource = "") := by
    rw [beq_iff_eq, Bool.eq_iff_iff, String.isEmpty_iff, String.isEmpty_iff]
  rw [← alike, partsMatch, Bool.and_eq_true, Bool.and_eq_true, and_assoc]

/-- What compares with a value compares with whatever is broader. -/
theorem compares_of_broadens {wanted narrow broad : String} (broader : Broadens broad narrow)
    (compares : (covers narrow wanted || covers wanted narrow) = true) :
    (covers broad wanted || covers wanted broad) = true := by
  rcases broader with rfl | rfl
  · exact compares
  · rw [covers_wildcard, Bool.true_or]

/-- A resource compares with what covers both of its parts. -/
theorem partsMatch_of_broadens {wanted : String} {narrow broad : RuleRef}
    (divided : broad.subresource ≠ "") (alsoDivided : narrow.subresource ≠ "")
    (resource : Broadens broad.resource narrow.resource)
    (subresource : Broadens broad.subresource narrow.subresource)
    (fits : partsMatch wanted narrow = true) : partsMatch wanted broad = true := by
  rw [partsMatch_iff] at fits ⊢
  obtain ⟨base, alike, sub⟩ := fits
  refine ⟨compares_of_broadens resource base, ?_, compares_of_broadens subresource sub⟩
  simpa only [divided, alsoDivided] using alike

section

variable {matcher : Matcher} (expands : matcher.expands = true) {narrow broad : RuleRef}

include expands

theorem valueMatches_of_broadens (wanted : List String) {value other : String}
    (broader : Broadens other value) :
    Implies (matcher.valueMatches wanted value) (matcher.valueMatches wanted other) := by
  intro fits
  rcases broader with rfl | rfl
  · exact fits
  · simp [valueMatches, expands]

/-- These are the ways in which a grant fits the wanted resources. -/
theorem resourceMatches_iff {grant : RuleRef} :
    matcher.resourceMatches grant = true ↔
      matcher.resources = [] ∨ ∃ wanted ∈ matcher.resources,
        wanted = grant.resourceKey ∨ wanted = wildcard ∨ grant.resourceKey = wildcard ∨
          partsMatch wanted grant = true := by
  simp only [resourceMatches, expands, Bool.true_and, Bool.or_eq_true, List.any_eq_true,
    List.isEmpty_iff, beq_iff_eq, or_assoc]

/-- Whatever way a grant fits the wanted resources in, what covers it fits them too. -/
theorem resourceMatches_of_covers (undivided : '/' ∉ narrow.resource.toList)
    (covering : broad.CoversResource narrow) :
    Implies (matcher.resourceMatches narrow) (matcher.resourceMatches broad) := by
  intro fits
  rw [resourceMatches_iff expands] at fits ⊢
  refine fits.imp_right fun given => ?_
  obtain ⟨wanted, listed, fit⟩ := given
  refine ⟨wanted, listed, ?_⟩
  cases covering with
  | same resource subresource =>
      have key : broad.resourceKey = narrow.resourceKey := by
        rw [RuleRef.resourceKey, RuleRef.resourceKey, resource, subresource]
      have parts : partsMatch wanted broad = partsMatch wanted narrow := by
        rw [partsMatch, partsMatch, resource, subresource]
      rwa [key, parts]
  | every resource subresource =>
      have everything : broad.resourceKey = wildcard := by
        simp [RuleRef.resourceKey, resourceKey, resource, subresource]
      exact .inr (.inr (.inl everything))
  | parts divided alsoDivided resource subresource =>
      have byParts : partsMatch wanted narrow = true → partsMatch wanted broad = true :=
        partsMatch_of_broadens divided alsoDivided resource subresource
      rcases fit with same | wild | wild | fit
      · -- The wanted resource is divided where the grant is, since no slash comes earlier.
        have split : splitResource wanted = (narrow.resource, narrow.subresource) := by
          rw [same]
          exact splitResource_resourceKey undivided _
        refine .inr (.inr (.inr (byParts ?_)))
        simp [partsMatch_iff, split, covers_self]
      · exact .inr (.inl wild)
      · -- A resource with a subresource is never the wildcard alone.
        have slash : '/' ∈ narrow.resourceKey.toList := by
          simp [RuleRef.resourceKey, toList_resourceKey, alsoDivided]
        rw [wild] at slash
        exact absurd slash (by decide)
      · exact .inr (.inr (.inr (byParts fit)))

omit expands in
theorem resourceNamesMatch_of_covers (covering : broad.CoversNames narrow) :
    Implies (matcher.resourceNamesMatch narrow) (matcher.resourceNamesMatch broad) := by
  simp only [Implies, resourceNamesMatch, Bool.or_eq_true, List.any_eq_true, List.isEmpty_iff]
  intro fits
  rcases covering with unnamed | ⟨named, held⟩
  · exact .inl (.inr unnamed)
  · rcases fits with (isOpen | unnamed) | ⟨name, member, wanted⟩
    · exact .inl (.inl isOpen)
    · exact absurd unnamed named
    · exact .inr ⟨name, held member, wanted⟩

/-- The same fields take part for a grant and for what covers it, and the second fits where the first
does. -/
theorem checks_of_covers (undivided : '/' ∉ narrow.resource.toList)
    (covering : broad.Covers narrow) :
    List.Forall₂ Implies (matcher.checks narrow) (matcher.checks broad) := by
  cases covering with
  | resource onResources alsoOnResources group verb resource names =>
      simp only [checks, onResources, alsoOnResources, Bool.false_eq_true, if_false]
      apply List.rel_append
      · apply List.rel_append
        · apply List.rel_append
          · exact forall₂_field (.refl _) (valueMatches_of_broadens expands _ group)
          · exact forall₂_field (.refl _) (resourceMatches_of_covers expands undivided resource)
        · exact forall₂_field (.refl _) (valueMatches_of_broadens expands _ verb)
      · exact forall₂_field (.refl _) (resourceNamesMatch_of_covers names)
  | url named alsoNamed url =>
      have onUrls : broad.isNonResource = true := by
        simp [RuleRef.isNonResource, named]
      have alsoOnUrls : narrow.isNonResource = true := by
        simp [RuleRef.isNonResource, alsoNamed]
      have fits : Implies (matcher.urlMatches narrow) (matcher.urlMatches broad) := by
        simp only [urlMatches, named, alsoNamed, List.any_cons, List.any_nil, Bool.or_false]
        exact valueMatches_of_broadens expands _ url
      simp only [checks, onUrls, alsoOnUrls, if_true]
      exact forall₂_field (.refl _) fits

end

/-- Where wildcards expand, whatever covers a grant of a rule is selected with it. -/
theorem selects_of_covers {matcher : Matcher} (mode : matcher.wildcardMode = .expand)
    {sourced : SourcedRule} {narrow broad : RuleRef}
    (granted : narrow.key ∈ sourced.refs.map RuleRef.key) (covering : broad.Covers narrow)
    (selected : matcher.selects narrow = true) : matcher.selects broad = true := by
  have expands : matcher.expands = true := by
    simp [Matcher.expands, mode]
  have checks := checks_of_covers expands (SourcedRule.slash_not_mem_of_granted granted) covering
  rw [selects_eq_verdict] at selected ⊢
  exact verdict_implies id checks _ selected

end Matcher

/-- Whoever may open a shell in two of the pods is asked for. -/
def shellRequest : Request :=
  { Request.standard with
    selector := ⟨["apps"], ["pods/exec"], ["create"], ["web", "store"], []⟩
    matchMode := .all }

/-- A shell may be opened in one of the pods. -/
def webShell : SourcedRule :=
  ⟨⟨["apps"], ["pods/exec"], ["create"], ["web"], []⟩, "role:team/web", 0⟩

/-- Everything may be done in all pods and with them. -/
def podMaster : SourcedRule :=
  ⟨⟨["*"], ["pods/*"], ["*"], [], []⟩, "clusterrole:master", 0⟩

theorem selects_podMaster :
    (Matcher.of shellRequest none).wildcardMode = .expand ∧
    ∃ narrow ∈ webShell.refs, ∃ broad ∈ podMaster.refs, broad.Covers narrow ∧
      (Matcher.of shellRequest none).selects narrow = true ∧
      (Matcher.of shellRequest none).selects broad = true := by
  have mode : (Matcher.of shellRequest none).wildcardMode = .expand := rfl
  have granted : ∃ narrow ∈ webShell.refs, narrow.isNonResource = false ∧
      narrow.resource = "pods" ∧ narrow.subresource = "exec" ∧
      (Matcher.of shellRequest none).selects narrow = true := by
    decide +kernel
  have alsoGranted : ∃ broad ∈ podMaster.refs, broad.isNonResource = false ∧
      broad.apiGroup = wildcard ∧ broad.verb = wildcard ∧ broad.resource = "pods" ∧
      broad.subresource = wildcard ∧ broad.resourceNames = [] := by
    decide +kernel
  obtain ⟨narrow, member, onResources, resource, subresource, selected⟩ := granted
  obtain ⟨broad, alsoMember, alsoOnResources, group, verb, alsoResource, everything, unnamed⟩ :=
    alsoGranted
  have covering : broad.Covers narrow :=
    .resource alsoOnResources onResources (.inr group) (.inr verb)
      (.parts (by simp [everything, wildcard]) (by simp [subresource])
        (.inl (alsoResource.trans resource.symm)) (.inr everything))
      (.inl unnamed)
  exact ⟨mode, narrow, member, broad, alsoMember, covering, selected,
    Matcher.selects_of_covers mode (List.mem_map_of_mem member) covering selected⟩

end AccessGraph
