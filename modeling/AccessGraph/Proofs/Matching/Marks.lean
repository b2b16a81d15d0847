/-
This file says that the marks of a grant agree with what the grant lists: what is listed for a phantom
is in a group that is not known, what is listed for another grant is served, and nothing is listed for
a grant of a verb that no group supports.
-/

import AccessGraph.Proofs.Matching.Expansion
import AccessGraph.Proofs.Matching.Phantoms

namespace AccessGraph

/-- A rule leaves its grants without marks, and it lists nothing for them. -/
theorem SourcedRule.unmarked_of_mem_refs {sourced : SourcedRule} {grant : RuleRef}
    (held : grant ∈ sourced.refs) : grant.unsupportedVerb = false ∧ grant.expandedRefs = [] := by
  rcases mem_refs_iff.mp held with ⟨_, -, _, -, _, -, rfl⟩ | ⟨_, -, _, -, rfl⟩
  · exact ⟨rfl, rfl⟩
  · exact ⟨rfl, rfl⟩

namespace Discovery

/-- A single grant is served when its verb is one of those that are known for its resource. -/
def Serves (discovery : Discovery) (single : RuleRef) : Prop :=
  ∃ verbs, discovery.verbsFor single.apiGroup single.resourceKey = some verbs ∧ single.verb ∈ verbs

variable {discovery : Discovery} {grant single : RuleRef}

theorem hasGroup_of_verbsFor {group key : String} {verbs : List String}
    (known : discovery.verbsFor group key = some verbs) : discovery.hasGroup group = true := by
  by_contra unknown
  have nothing := (nothing_of_unknown (Bool.not_eq_true _ ▸ unknown)).2 key
  rw [known] at nothing
  cases nothing

/-- A group whose name is known is among those that it stands for, even if its name is the wildcard. -/
theorem mem_groupsOf_self (known : discovery.hasGroup grant.apiGroup = true) :
    grant.apiGroup ∈ discovery.groupsOf grant := by
  by_cases wild : grant.apiGroup = wildcard
  · have plain : normalizeName wildcard = wildcard := by decide +kernel
    rw [wild, hasGroup, plain] at known
    rw [mem_groupsOf_iff, wild]
    exact .known wild (SortedMap.mem_keys_iff.mpr known)
  · exact mem_groupsOf_iff.mpr (.own wild)

section

variable (onResources : grant.isNonResource = false)

include onResources

/-- A grant on resources is a phantom when part of it is unknown. -/
theorem phantom_annotate (unmarked : grant.phantom = false) :
    (discovery.annotate grant).1.phantom = (discovery.unknownPart grant).isSome := by
  rw [annotate, onResources]
  cases discovery.unknownPart grant with
  | none => exact unmarked
  | some warning => rfl

/-- Whether a verb is supported is asked of known grants alone. -/
theorem unsupportedVerb_annotate (unmarked : grant.unsupportedVerb = false) :
    (discovery.annotate grant).1.unsupportedVerb =
      ((discovery.unknownPart grant).isNone && discovery.isUnsupported grant) := by
  rw [annotate, onResources]
  cases discovery.unknownPart grant with
  | none => rfl
  | some warning => exact unmarked

end

/-- Grants on URLs are never marked for their verb. -/
theorem unsupportedVerb_annotate_of_urls (onUrls : grant.isNonResource = true) :
    (discovery.annotate grant).1.unsupportedVerb = grant.unsupportedVerb := by
  rw [annotate, if_pos onUrls]
  split <;> rfl

/-- Grants on resources are marked for their verb only where they are no phantoms. -/
theorem annotate_marks_once (discovery : Discovery) (unmarked : grant.phantom = false)
    (alsoUnmarked : grant.unsupportedVerb = false) :
    ¬ ((discovery.annotate grant).1.phantom = true ∧
      (discovery.annotate grant).1.unsupportedVerb = true) := by
  cases kind : grant.isNonResource with
  | true => simp [unsupportedVerb_annotate_of_urls kind, alsoUnmarked]
  | false =>
      rw [phantom_annotate kind unmarked, unsupportedVerb_annotate kind alsoUnmarked]
      cases discovery.unknownPart grant <;> simp

/-- Marks leave what a grant lists as it is. -/
theorem expandedRefs_annotate (discovery : Discovery) (grant : RuleRef) :
    (discovery.annotate grant).1.expandedRefs = grant.expandedRefs := by
  rw [annotate_marked]

theorem unknownPart_annotate (discovery : Discovery) (grant : RuleRef) :
    discovery.unknownPart (discovery.annotate grant).1 = discovery.unknownPart grant := by
  rw [annotate_marked]
  rfl

theorem isUnsupported_annotate (discovery : Discovery) (grant : RuleRef) :
    discovery.isUnsupported (discovery.annotate grant).1 = discovery.isUnsupported grant := by
  rw [annotate_marked]
  rfl

/-- Nothing of what is served is unknown. -/
theorem unknownPart_of_serves (serves : discovery.Serves single) :
    discovery.unknownPart single = none := by
  obtain ⟨verbs, known, -⟩ := serves
  have listed : discovery.hasResource single.apiGroup single.resourceKey = true := by
    rw [hasResource, known, Option.isSome_some]
  simp [unknownPart, hasGroup_of_verbsFor known, listed]

/-- A verb is not supported when the resource is known and every group that serves it lacks the verb. -/
theorem isUnsupported_iff : discovery.isUnsupported grant = true ↔
    (grant.verb ≠ wildcard ∧ grant.resource ≠ wildcard ∧ grant.subresource ≠ wildcard) ∧
      (∃ group ∈ discovery.groupsOf grant,
        (discovery.verbsFor group grant.resourceKey).isSome = true) ∧
      ∀ group ∈ discovery.groupsOf grant, ∀ verbs,
        discovery.verbsFor group grant.resourceKey = some verbs → grant.verb ∉ verbs := by
  have wild : (grant.verb == wildcard || grant.resource == wildcard ||
      grant.subresource == wildcard) = true ↔
        ¬ (grant.verb ≠ wildcard ∧ grant.resource ≠ wildcard ∧ grant.subresource ≠ wildcard) := by
    simp only [Bool.or_eq_true, beq_iff_eq]
    tauto
  rw [isUnsupported]
  split
  · rename_i given
    simp [wild.mp given]
  · rename_i plain
    rw [wild, not_not] at plain
    rw [Bool.and_eq_true, Bool.not_eq_true', Bool.not_eq_true',
      List.isEmpty_eq_false_iff_exists_mem, List.any_eq_false]
    simp only [List.mem_filterMap, List.contains_iff_mem, Option.isSome_iff_exists]
    constructor
    · rintro ⟨⟨verbs, group, member, known⟩, lacks⟩
      exact ⟨plain, ⟨group, member, verbs, known⟩,
        fun other alsoMember others alsoKnown => lacks others ⟨other, alsoMember, alsoKnown⟩⟩
    · rintro ⟨-, ⟨group, member, verbs, known⟩, lacks⟩
      exact ⟨⟨verbs, group, member, known⟩,
        fun others ⟨other, alsoMember, alsoKnown⟩ => lacks other alsoMember others alsoKnown⟩

/-- What is served with its verb has a group that supports it. -/
theorem isUnsupported_of_serves (serves : discovery.Serves single) :
    discovery.isUnsupported single = false := by
  obtain ⟨verbs, known, supported⟩ := serves
  rw [← Bool.not_eq_true, isUnsupported_iff]
  rintro ⟨-, -, lacks⟩
  exact lacks _ (mem_groupsOf_self (hasGroup_of_verbsFor known)) verbs known supported

theorem unknownPart_of_unknown (plain : grant.apiGroup ≠ wildcard)
    (alsoPlain : grant.resource ≠ wildcard) (unknown : discovery.hasGroup grant.apiGroup = false) :
    discovery.unknownPart grant = some (.unknownGroup grant.apiGroup) := by
  simp [unknownPart, plain, alsoPlain, unknown]

theorem StandsForGroup.eq_of_plain {group : String}
    (stands : StandsForGroup discovery grant group) (plain : grant.apiGroup ≠ wildcard) :
    group = grant.apiGroup := by
  cases stands with
  | own => rfl
  | known wild => exact absurd wild plain

/-- The wildcard stands for groups that are known. -/
theorem StandsForGroup.plain_of_unknown (built : discovery.Built) {group : String}
    (stands : StandsForGroup discovery grant group) (unknown : discovery.hasGroup group = false) :
    grant.apiGroup ≠ wildcard := by
  cases stands with
  | own plain => exact plain
  | known _ listed => cases (built.hasGroup listed).symm.trans unknown

theorem StandsForResource.eq_of_plain {group resource subresource : String}
    (stands : StandsForResource discovery grant group resource subresource)
    (plain : grant.resource ≠ wildcard) (alsoPlain : grant.subresource ≠ wildcard) :
    resource = grant.resource ∧ subresource = grant.subresource := by
  cases stands with
  | own => exact ⟨rfl, rfl⟩
  | listed wild => exact absurd wild (not_or.mpr ⟨plain, alsoPlain⟩)

/-- Nothing is listed for a wildcard in a group that is not known. -/
theorem StandsForResource.plain_of_unknown {group resource subresource : String}
    (stands : StandsForResource discovery grant group resource subresource)
    (unknown : discovery.hasGroup group = false) :
    grant.resource ≠ wildcard ∧ grant.subresource ≠ wildcard := by
  cases stands with
  | own plain alsoPlain => exact ⟨plain, alsoPlain⟩
  | listed _ known =>
      rw [(nothing_of_unknown unknown).1] at known
      cases known

theorem StandsForVerb.served_or_unknown {group key verb : String}
    (stands : StandsForVerb discovery grant group key verb) :
    (∃ verbs, discovery.verbsFor group key = some verbs ∧ verb ∈ verbs ∧
      (grant.verb ≠ wildcard → verb = grant.verb)) ∨
    (discovery.hasGroup group = false ∧ grant.verb = wildcard) := by
  cases stands with
  | served known member same => exact .inl ⟨_, known, member, same⟩
  | anywhere unknown wild => exact .inr ⟨unknown, wild⟩

namespace StandsFor

variable (stands : discovery.StandsFor grant single)

include stands

/-- A grant without wildcards in its resource stands for that one alone. -/
theorem resourceKey_eq (plain : grant.resource ≠ wildcard)
    (alsoPlain : grant.subresource ≠ wildcard) : single.resourceKey = grant.resourceKey := by
  obtain ⟨resource, subresource⟩ := stands.resource.eq_of_plain plain alsoPlain
  rw [RuleRef.resourceKey, RuleRef.resourceKey, resource, subresource]

/-- A single grant is served, unless its group is unknown. -/
theorem serves_or_unknown :
    discovery.Serves single ∨ discovery.hasGroup single.apiGroup = false := by
  rcases stands.verb.served_or_unknown with ⟨verbs, known, member, -⟩ | ⟨unknown, -⟩
  · exact .inl ⟨verbs, known, member⟩
  · exact .inr unknown

/-- A grant that stands for something that is served is no phantom: what of it is no wildcard is
known. -/
theorem unknownPart_of_serves (serves : discovery.Serves single) :
    discovery.unknownPart grant = none := by
  obtain ⟨verbs, known, -⟩ := serves
  by_cases wild : grant.apiGroup = wildcard ∨ grant.resource = wildcard
  · rcases wild with wild | wild
    · simp [unknownPart, wild]
    · simp [unknownPart, wild]
  · obtain ⟨plain, alsoPlain⟩ := not_or.mp wild
    have group := stands.group.eq_of_plain plain
    have present := hasGroup_of_verbsFor known
    rw [group] at known present
    by_cases everySubresource : grant.subresource = wildcard
    · simp [unknownPart, present, everySubresource]
    · have listed : discovery.hasResource grant.apiGroup grant.resourceKey = true := by
        rw [hasResource, ← stands.resourceKey_eq alsoPlain everySubresource, known,
          Option.isSome_some]
      simp [unknownPart, present, listed]

/-- A grant of a verb that is not supported stands for nothing. -/
theorem isUnsupported_eq_false : discovery.isUnsupported grant = false := by
  rw [← Bool.not_eq_true, isUnsupported_iff]
  rintro ⟨⟨verb, resource, subresource⟩, -, lacks⟩
  rcases stands.verb.served_or_unknown with ⟨verbs, known, member, same⟩ | ⟨-, wild⟩
  · rw [stands.resourceKey_eq resource subresource] at known
    exact lacks _ (mem_groupsOf_iff.mpr stands.group) verbs known (same verb ▸ member)
  · exact verb wild

section

variable (built : discovery.Built)

include built

/-- In an unknown group a grant stands for its own resource, and is a phantom like what it stands
for. -/
theorem unknownPart_of_unknown (unknown : discovery.hasGroup single.apiGroup = false) :
    discovery.unknownPart grant = some (.unknownGroup grant.apiGroup) ∧
      discovery.unknownPart single = some (.unknownGroup single.apiGroup) := by
  have plain := stands.group.plain_of_unknown built unknown
  obtain ⟨plainResource, plainSubresource⟩ := stands.resource.plain_of_unknown unknown
  have group := stands.group.eq_of_plain plain
  obtain ⟨resource, -⟩ := stands.resource.eq_of_plain plainResource plainSubresource
  constructor
  · exact Discovery.unknownPart_of_unknown plain plainResource (group ▸ unknown)
  · exact Discovery.unknownPart_of_unknown (group ▸ plain) (resource ▸ plainResource) unknown

/-- What a grant stands for is served exactly if the grant is no phantom. -/
theorem serves_iff : discovery.Serves single ↔ discovery.unknownPart grant = none := by
  constructor
  · exact stands.unknownPart_of_serves
  · intro known
    refine stands.serves_or_unknown.resolve_right fun unknown => ?_
    cases (stands.unknownPart_of_unknown built unknown).1.symm.trans known

/-- What a grant stands for is marked as a phantom like the grant, and never for its verb. -/
theorem annotate_marks :
    (discovery.annotate single).1.unsupportedVerb = false ∧
      (discovery.annotate single).1.phantom = (discovery.unknownPart grant).isSome := by
  have unmarked : single.isNonResource = false ∧ single.phantom = false ∧
      single.unsupportedVerb = false := by
    rw [stands.plain]
    exact ⟨rfl, rfl, rfl⟩
  obtain ⟨onResources, noPhantom, noVerb⟩ := unmarked
  rw [phantom_annotate onResources noPhantom, unsupportedVerb_annotate onResources noVerb]
  rcases stands.serves_or_unknown with serves | unknown
  · simp [Discovery.unknownPart_of_serves serves, isUnsupported_of_serves serves,
      stands.unknownPart_of_serves serves]
  · obtain ⟨phantom, alsoPhantom⟩ := stands.unknownPart_of_unknown built unknown
    simp [phantom, alsoPhantom]

end

end StandsFor

end Discovery

/-- The marks of a grant agree with what it lists: it bears one mark at most, nothing is listed for a
verb that is not supported, and whatever is listed would be marked like the grant itself. What is
listed for a grant is served, but for a phantom, whose group is unknown. -/
structure RuleRef.MarksAgree (discovery : Discovery) (grant : RuleRef) : Prop where
  once : ¬ (grant.phantom = true ∧ grant.unsupportedVerb = true)
  unlisted : grant.unsupportedVerb = true → grant.expandedRefs = []
  supported : ∀ single ∈ grant.expandedRefs, (discovery.annotate single).1.unsupportedVerb = false
  alike : ∀ single ∈ grant.expandedRefs,
    (discovery.annotate single).1.phantom = grant.phantom
  served : grant.phantom = false → ∀ single ∈ grant.expandedRefs, discovery.Serves single
  unknown : grant.phantom = true →
    ∀ single ∈ grant.expandedRefs, discovery.hasGroup single.apiGroup = false

namespace RuleRef

variable {discovery : Discovery} {grant : RuleRef}

/-- A grant that lists nothing agrees with its marks. -/
theorem marksAgree_of_unlisted
    (once : ¬ (grant.phantom = true ∧ grant.unsupportedVerb = true))
    (unlisted : grant.expandedRefs = []) : grant.MarksAgree discovery where
  once := once
  unlisted := fun _ => unlisted
  supported := by simp [unlisted]
  alike := by simp [unlisted]
  served := by simp [unlisted]
  unknown := by simp [unlisted]

/-- A grant that is marked for what it is, and lists only what it stands for, agrees with its marks. -/
theorem marksAgree_of_standsFor (built : discovery.Built)
    (phantom : grant.phantom = (discovery.unknownPart grant).isSome)
    (unsupported : grant.unsupportedVerb =
      ((discovery.unknownPart grant).isNone && discovery.isUnsupported grant))
    (listed : ∀ single ∈ grant.expandedRefs, discovery.StandsFor grant single) :
    grant.MarksAgree discovery where
  once := by
    rw [phantom, unsupported]
    cases discovery.unknownPart grant <;> simp
  unlisted := by
    intro marked
    rw [unsupported, Bool.and_eq_true] at marked
    refine List.eq_nil_iff_forall_not_mem.mpr fun single member => ?_
    cases (listed single member).isUnsupported_eq_false.symm.trans marked.2
  supported := fun single member => ((listed single member).annotate_marks built).1
  alike := fun single member =>
    phantom ▸ ((listed single member).annotate_marks built).2
  served := by
    intro known single member
    rw [phantom, Option.isSome_eq_false_iff, Option.isNone_iff_eq_none] at known
    exact ((listed single member).serves_iff built).mpr known
  unknown := by
    intro marked single member
    refine (listed single member).serves_or_unknown.resolve_left fun serves => ?_
    rw [phantom, (listed single member).unknownPart_of_serves serves] at marked
    cases marked

end RuleRef

/-- Marking and expanding a grant of a rule keeps its marks and what it lists in agreement. -/
theorem Matcher.marksAgree_of_process {matcher : Matcher} {discovery : Discovery}
    (known : matcher.discovery = some discovery) (expands : matcher.expands = true)
    (built : discovery.Built) {sourced : SourcedRule} {held grant : RuleRef}
    (member : held ∈ sourced.refs) (processed : (matcher.process held).1 = some grant) :
    grant.MarksAgree discovery := by
  have noPhantom := SourcedRule.phantom_of_mem_refs member
  obtain ⟨noVerb, unlisted⟩ := SourcedRule.unmarked_of_mem_refs member
  rcases process_cases known expands held with ⟨_, dropped, -⟩ | ⟨_, rfl, -, kept⟩ |
    ⟨_, rfl, wild, expanded⟩
  · rw [dropped] at processed
    cases processed
  · -- What is not expanded lists nothing, and only its own marks are to be compared.
    rw [kept] at processed
    cases processed
    exact RuleRef.marksAgree_of_unlisted (discovery.annotate_marks_once noPhantom noVerb)
      ((discovery.expandedRefs_annotate held).trans unlisted)
  · rw [expanded] at processed
    cases processed
    have onResources : held.isNonResource = false := by
      rw [← RuleRef.isNonResource_eq_of_key_eq (discovery.key_annotate held)]
      simpa [RuleRef.hasWildcard] using (Bool.and_eq_true_iff.mp wild).1
    have lists : ListsExactly matcher discovery
        (matcher.expand discovery (discovery.annotate held).1).1 :=
      listsExactly_expand built wild
    refine RuleRef.marksAgree_of_standsFor built ?_ ?_ fun single listed =>
      (lists.sound single listed).standsFor
    · exact (Discovery.phantom_annotate onResources noPhantom).trans
        (congrArg Option.isSome (discovery.unknownPart_annotate held).symm)
    · change (discovery.annotate held).1.unsupportedVerb =
        ((discovery.unknownPart (discovery.annotate held).1).isNone &&
          discovery.isUnsupported (discovery.annotate held).1)
      rw [discovery.unknownPart_annotate, discovery.isUnsupported_annotate]
      exact Discovery.unsupportedVerb_annotate onResources noVerb

/-- Whatever is found in a catalog of what is served, the marks of every grant agree with what the
grant lists. -/
theorem matchRules_marks_agree {request : Request} (mode : request.wildcardMode = .expand)
    {discovery : Discovery} (built : discovery.Built) (serves : discovery.isEmpty = false)
    (rules : List SourcedRule) :
    ∀ grant ∈ ((Matcher.of request (some discovery)).matchRules rules).refs,
      grant.MarksAgree discovery := by
  intro grant found
  have known : (Matcher.of request (some discovery)).discovery = some discovery := by
    simp [Matcher.of, serves]
  have expands : (Matcher.of request (some discovery)).expands = true := by
    simp [Matcher.expands, Matcher.of, mode]
  obtain ⟨sourced, -, held, member, -, processed⟩ := Matcher.exists_held_of_mem_matchRules found
  exact Matcher.marksAgree_of_process known expands built member processed

/-- Everything may be done with widgets, whose group is not known. -/
def widgetMaster : SourcedRule :=
  ⟨⟨["example.io"], ["widgets"], ["*"], [], []⟩, "clusterrole:widgets", 0⟩

/-- Pods may be deleted, in whatever group they are; none supports it. -/
def podCleaner : SourcedRule :=
  ⟨⟨["*"], ["pods"], ["delete"], [], []⟩, "clusterrole:cleaner", 0⟩

/-- A phantom lists verbs that are known from elsewhere, and a grant of a verb that is not supported
lists nothing. -/
theorem matchRules_marks_agree_smallDiscovery :
    Request.standard.wildcardMode = .expand ∧ smallDiscovery.Built ∧
    smallDiscovery.isEmpty = false ∧
    (∃ grant ∈ ((Matcher.of Request.standard (some smallDiscovery)).matchRules
        [readEverything, widgetMaster, podCleaner]).refs,
      grant.phantom = true ∧
      grant.expandedRefs.map (·.verb) = ["get", "list", "patch"] ∧
      grant.MarksAgree smallDiscovery) ∧
    ∃ grant ∈ ((Matcher.of Request.standard (some smallDiscovery)).matchRules
        [readEverything, widgetMaster, podCleaner]).refs,
      grant.hasWildcard = true ∧ grant.unsupportedVerb = true ∧
      grant.MarksAgree smallDiscovery := by
  have mode : Request.standard.wildcardMode = .expand := rfl
  have built : smallDiscovery.Built := Discovery.ofEntries_built _ _
  have serves : smallDiscovery.isEmpty = false := by decide +kernel
  have agree := matchRules_marks_agree mode built serves [readEverything, widgetMaster, podCleaner]
  have phantom : ∃ grant ∈ ((Matcher.of Request.standard (some smallDiscovery)).matchRules
      [readEverything, widgetMaster, podCleaner]).refs, grant.phantom = true ∧
        grant.expandedRefs.map (·.verb) = ["get", "list", "patch"] := by
    decide +kernel
  have unsupported : ∃ grant ∈ ((Matcher.of Request.standard (some smallDiscovery)).matchRules
      [readEverything, widgetMaster, podCleaner]).refs, grant.hasWildcard = true ∧
        grant.unsupportedVerb = true := by
    decide +kernel
  obtain ⟨ghost, ghostFound, marked, listed⟩ := phantom
  obtain ⟨useless, uselessFound, wild, alsoMarked⟩ := unsupported
  exact ⟨mode, built, serves, ⟨ghost, ghostFound, marked, listed, agree ghost ghostFound⟩,
    useless, uselessFound, wild, alsoMarked, agree useless uselessFound⟩

end AccessGraph
