/-
This file says which grants a grant with wildcards stands for, in terms of what the cluster is known to
serve.
-/

import AccessGraph.Matching.Annotation
import AccessGraph.Proofs.Discovery.Insertions
import AccessGraph.Proofs.Rule.Parts
import Mathlib.Data.List.Nodup

namespace AccessGraph

namespace Discovery

/-- What is known was put together step by step. -/
inductive Built : Discovery → Prop
  | empty : Built empty
  | insert {discovery : Discovery} (built : Built discovery) (group resource : String)
      (verbs : List String) : Built (discovery.insert group resource verbs)
  | insertUrl {discovery : Discovery} (built : Built discovery) (url : String) :
      Built (discovery.insertUrl url)

theorem build_built (insertions : List Insertion) : (build insertions).Built := by
  refine List.foldlRecOn insertions apply .empty fun discovery built insertion _ => ?_
  cases insertion with
  | resource entry => exact built.insert entry.group entry.resource entry.verbs
  | url url => exact built.insertUrl url

/-- What a document lists is put together step by step. -/
theorem ofEntries_built (entries : List Entry) (urls : List String) :
    (ofEntries entries urls).Built := by
  rw [ofEntries_eq_build]
  exact build_built _

/-- What was put together step by step was told one after the other. -/
theorem Built.exists_insertions {discovery : Discovery} (built : discovery.Built) :
    ∃ insertions, discovery = build insertions := by
  induction built with
  | empty => exact ⟨[], rfl⟩
  | insert _ group resource verbs inductionHypothesis =>
      obtain ⟨insertions, rfl⟩ := inductionHypothesis
      exact ⟨insertions ++ [.resource ⟨group, resource, verbs⟩], by simp [build, apply]⟩
  | insertUrl _ url inductionHypothesis =>
      obtain ⟨insertions, rfl⟩ := inductionHypothesis
      exact ⟨insertions ++ [.url url], by simp [build, apply]⟩

/-- Groups are known by their normalized names. -/
theorem Built.normalizeName_eq {discovery : Discovery} (built : discovery.Built) {group : String}
    (known : group ∈ discovery.groupNames) : normalizeName group = group := by
  obtain ⟨insertions, rfl⟩ := built.exists_insertions
  exact (build_represents insertions).answers.namedGroups group known

/-- Every group whose name is listed is found by it. -/
theorem Built.hasGroup {discovery : Discovery} (built : discovery.Built) {group : String}
    (known : group ∈ discovery.groupNames) : discovery.hasGroup group = true := by
  rw [Discovery.hasGroup, built.normalizeName_eq known]
  exact SortedMap.mem_keys_iff.mp known

/-- Nothing is served in a group that is not known. -/
theorem nothing_of_unknown {discovery : Discovery} {group : String}
    (unknown : discovery.hasGroup group = false) :
    discovery.resources group = [] ∧ ∀ key, discovery.verbsFor group key = none := by
  have none : discovery.groups.get? (normalizeName group) = none :=
    Option.not_isSome_iff_eq_none.mp (Bool.eq_false_iff.mp unknown)
  constructor
  · rw [resources, none]
    rfl
  · intro key
    rw [verbsFor, none]
    rfl

section

variable (discovery : Discovery) (grant : RuleRef)

/-- A group other than the wildcard stands for itself, and the wildcard for the groups that are
known. -/
inductive StandsForGroup : String → Prop
  | own (plain : grant.apiGroup ≠ wildcard) : StandsForGroup grant.apiGroup
  | known {group : String} (wild : grant.apiGroup = wildcard)
      (listed : group ∈ discovery.groupNames) : StandsForGroup group

/-- A resource and a subresource without wildcards stand for themselves. A wildcard stands for what is
listed for the group; the other part must be the same, and a subresource is there or not as it is in
the grant. -/
inductive StandsForResource (group : String) : String → String → Prop
  | own (plain : grant.resource ≠ wildcard) (alsoPlain : grant.subresource ≠ wildcard) :
      StandsForResource group grant.resource grant.subresource
  | listed {key resource subresource : String}
      (wild : grant.resource = wildcard ∨ grant.subresource = wildcard)
      (known : key ∈ discovery.resources group)
      (parts : splitResource key = (resource, subresource))
      (sameResource : grant.resource ≠ wildcard → resource = grant.resource)
      (alike : subresource = "" ↔ grant.subresource = "")
      (sameSubresource : grant.subresource ≠ wildcard → subresource = grant.subresource) :
      StandsForResource group resource subresource

/-- A verb stands for those that are served with the resource, and the wildcard in a group that is not
known for all verbs there are. -/
inductive StandsForVerb (group key : String) : String → Prop
  | served {verbs : List String} {verb : String}
      (known : discovery.verbsFor group key = some verbs) (member : verb ∈ verbs)
      (same : grant.verb ≠ wildcard → verb = grant.verb) : StandsForVerb group key verb
  | anywhere {verb : String} (unknown : discovery.hasGroup group = false)
      (wild : grant.verb = wildcard) (member : verb ∈ discovery.allVerbs) :
      StandsForVerb group key verb

end

end Discovery

/-- A single grant with the names and the source of a grant. -/
def RuleRef.single (grant : RuleRef) (group resource subresource verb : String) : RuleRef :=
  { RuleRef.empty with
    apiGroup := group
    resource := resource
    subresource := subresource
    verb := verb
    resourceNames := grant.resourceNames
    sourceBundle := grant.sourceBundle
    sourceRuleIndex := grant.sourceRuleIndex }

namespace Discovery

/-- A grant with wildcards stands for single grants with its names and its source, in every part of
which it stands for theirs. -/
structure StandsFor (discovery : Discovery) (grant single : RuleRef) : Prop where
  plain : single =
    grant.single single.apiGroup single.resource single.subresource single.verb
  group : StandsForGroup discovery grant single.apiGroup
  resource : StandsForResource discovery grant single.apiGroup single.resource single.subresource
  verb : StandsForVerb discovery grant single.apiGroup single.resourceKey single.verb

section

variable {discovery : Discovery} {grant : RuleRef} {group resource subresource verb : String}

theorem mem_groupsOf_iff : group ∈ discovery.groupsOf grant ↔ StandsForGroup discovery grant group := by
  rw [groupsOf]
  split
  · rename_i wild
    have everything := beq_iff_eq.mp wild
    constructor
    · exact .known everything
    · intro stands
      cases stands with
      | own plain => exact absurd everything plain
      | known _ listed => exact listed
  · rename_i plain
    rw [beq_iff_eq] at plain
    constructor
    · intro same
      exact List.mem_singleton.mp same ▸ .own plain
    · intro stands
      cases stands with
      | own => exact List.mem_singleton_self _
      | known wild _ => exact absurd wild plain

theorem covers_iff {pattern value : String} :
    Matcher.covers pattern value = true ↔ (pattern ≠ wildcard → value = pattern) := by
  rw [Matcher.covers, Bool.or_eq_true, beq_iff_eq, beq_iff_eq, eq_comm (a := value)]
  tauto

theorem mem_resourcesOf_iff : (resource, subresource) ∈ discovery.resourcesOf group grant ↔
    StandsForResource discovery grant group resource subresource := by
  rw [resourcesOf]
  split
  · rename_i plain
    rw [Bool.and_eq_true, bne_iff_ne, bne_iff_ne] at plain
    constructor
    · intro same
      cases List.mem_singleton.mp same
      exact .own plain.1 plain.2
    · intro stands
      cases stands with
      | own => exact List.mem_singleton_self _
      | listed wild => exact absurd wild (not_or.mpr plain)
  · rename_i wild
    rw [Bool.and_eq_true, bne_iff_ne, bne_iff_ne, not_and_or, not_not, not_not] at wild
    simp only [List.mem_filter, List.mem_map, Bool.and_eq_true, covers_iff]
    constructor
    · intro given
      obtain ⟨⟨key, known, parts⟩, ⟨sameResource, alike⟩, sameSubresource⟩ := given
      refine .listed wild known parts sameResource ?_ sameSubresource
      rw [beq_iff_eq, Bool.eq_iff_iff, String.isEmpty_iff, String.isEmpty_iff] at alike
      exact alike.symm
    · intro stands
      cases stands with
      | own plain alsoPlain => exact absurd wild (not_or.mpr ⟨plain, alsoPlain⟩)
      | listed _ known parts sameResource alike sameSubresource =>
          refine ⟨⟨_, known, parts⟩, ⟨sameResource, ?_⟩, sameSubresource⟩
          rw [beq_iff_eq, Bool.eq_iff_iff, String.isEmpty_iff, String.isEmpty_iff]
          exact alike.symm

/-- The verb of a grant passes through unseen only where its group is unknown and it is no wildcard. -/
theorem mem_verbsOf_iff {key : String}
    (seen : discovery.hasGroup group = false → grant.verb = wildcard) :
    verb ∈ discovery.verbsOf group key grant.verb ↔
      StandsForVerb discovery grant group key verb := by
  rw [verbsOf]
  cases known : discovery.verbsFor group key with
  | some verbs =>
      have served : verb ∈ (if grant.verb == wildcard then verbs
          else verbs.filter (· == grant.verb)) ↔
            verb ∈ verbs ∧ (grant.verb ≠ wildcard → verb = grant.verb) := by
        by_cases wild : grant.verb = wildcard <;> simp [wild]
      refine served.trans ⟨fun given => .served known given.1 given.2, ?_⟩
      intro stands
      cases stands with
      | served alsoKnown member same =>
          cases Option.some.inj (known.symm.trans alsoKnown)
          exact ⟨member, same⟩
      | anywhere unknown =>
          simp [(nothing_of_unknown unknown).2] at known
  | none =>
      dsimp only
      cases present : discovery.hasGroup group with
      | true =>
          simp only [if_true, List.not_mem_nil, false_iff]
          intro stands
          cases stands with
          | served alsoKnown => simp [known] at alsoKnown
          | anywhere unknown => simp [present] at unknown
      | false =>
          have wild := seen present
          simp only [Bool.false_eq_true, if_false, wild, BEq.rfl, if_true]
          constructor
          · exact .anywhere present wild
          · intro stands
            cases stands with
            | served alsoKnown => simp [known] at alsoKnown
            | anywhere _ _ member => exact member

theorem expansions_eq (discovery : Discovery) (grant : RuleRef) : discovery.expansions grant =
    (discovery.groupsOf grant).flatMap fun group =>
      (discovery.resourcesOf group grant).flatMap fun parts =>
        (discovery.verbsOf group (resourceKey parts.1 parts.2) grant.verb).map
          (grant.single group parts.1 parts.2) :=
  rfl

/-- Where the group of a single grant is unknown, the wildcard stands for its verb: no other part is
left that could hold one. -/
theorem verb_eq_of_unknown (built : discovery.Built) (wild : grant.hasWildcard = true)
    (inGroup : StandsForGroup discovery grant group)
    (inResource : StandsForResource discovery grant group resource subresource)
    (unknown : discovery.hasGroup group = false) : grant.verb = wildcard := by
  cases inGroup with
  | known _ listed => simp [built.hasGroup listed] at unknown
  | own plain =>
      cases inResource with
      | listed _ known => simp [(nothing_of_unknown unknown).1] at known
      | own plainResource plainSubresource =>
          simpa [RuleRef.hasWildcard, plain, plainResource, plainSubresource] using
            (Bool.and_eq_true_iff.mp wild).2

/-- The grants that are listed for one with wildcards are those that it stands for. -/
theorem mem_expansions_iff (built : discovery.Built) (wild : grant.hasWildcard = true)
    {single : RuleRef} :
    single ∈ discovery.expansions grant ↔ discovery.StandsFor grant single := by
  simp only [expansions_eq, List.mem_flatMap, List.mem_map]
  constructor
  · intro listed
    obtain ⟨group, inGroup, ⟨resource, subresource⟩, inResource, verb, inVerb, rfl⟩ := listed
    have standsGroup := mem_groupsOf_iff.mp inGroup
    have standsResource := mem_resourcesOf_iff.mp inResource
    exact ⟨rfl, standsGroup, standsResource,
      (mem_verbsOf_iff (verb_eq_of_unknown built wild standsGroup standsResource)).mp inVerb⟩
  · intro stands
    exact ⟨_, mem_groupsOf_iff.mpr stands.group, (_, _), mem_resourcesOf_iff.mpr stands.resource, _,
      (mem_verbsOf_iff (verb_eq_of_unknown built wild stands.group stands.resource)).mpr stands.verb,
      stands.plain.symm⟩

end

/-- No resource is listed with a slash at its end, as if it had a subresource without a name. -/
def Tidy (discovery : Discovery) : Prop :=
  ∀ group, ∀ key ∈ discovery.resources group, key.toList.getLast? ≠ some '/'

section

variable {discovery : Discovery}

theorem groupsOf_nodup (discovery : Discovery) (grant : RuleRef) :
    (discovery.groupsOf grant).Nodup := by
  rw [groupsOf]
  split
  · exact discovery.groups.keys_ascending.imp fun before => String.ne_of_lt before
  · exact List.nodup_singleton _

theorem resources_nodup (discovery : Discovery) (group : String) :
    (discovery.resources group).Nodup := by
  rw [resources]
  cases discovery.groups.get? (normalizeName group) with
  | none => exact .nil
  | some served => exact served.keys_ascending.imp fun before => String.ne_of_lt before

theorem Tidy.resourcesOf_nodup (tidy : discovery.Tidy) (group : String) (grant : RuleRef) :
    (discovery.resourcesOf group grant).Nodup := by
  rw [resourcesOf]
  split
  · exact List.nodup_singleton _
  · apply List.Nodup.filter
    apply List.Nodup.map_on _ (discovery.resources_nodup group)
    intro key known other alsoKnown same
    rw [← resourceKey_splitResource (tidy group key known), same,
      resourceKey_splitResource (tidy group other alsoKnown)]

theorem verbsOf_nodup (discovery : Discovery) (group key verb : String) :
    (discovery.verbsOf group key verb).Nodup := by
  have ascending (set : SortedSet) : set.toList.Nodup :=
    set.ascending.imp fun before => String.ne_of_lt before
  rw [verbsOf]
  cases known : discovery.verbsFor group key with
  | some verbs =>
      have distinct : verbs.Nodup := by
        simp only [verbsFor, Option.bind_eq_bind, Option.bind_eq_some_iff, Option.some.injEq]
          at known
        obtain ⟨-, -, served, -, rfl⟩ := known
        exact ascending served
      dsimp only
      split
      · exact distinct
      · exact distinct.filter _
  | none =>
      dsimp only
      split
      · exact .nil
      · split
        · exact ascending discovery.verbs
        · exact List.nodup_singleton _

/-- A tidy catalog lists every grant once. -/
theorem Tidy.expansions_nodup (tidy : discovery.Tidy) (grant : RuleRef) :
    (discovery.expansions grant).Nodup := by
  rw [expansions_eq, List.nodup_flatMap]
  constructor
  · intro group _
    rw [List.nodup_flatMap]
    constructor
    · intro parts _
      apply (discovery.verbsOf_nodup _ _ _).map
      intro verb other same
      exact congrArg (·.verb) same
    · apply (tidy.resourcesOf_nodup group grant).imp
      intro parts others different single member again
      obtain ⟨verb, -, rfl⟩ := List.mem_map.mp member
      obtain ⟨other, -, same⟩ := List.mem_map.mp again
      exact different (Prod.ext (congrArg (·.resource) same).symm
        (congrArg (·.subresource) same).symm)
  · apply (discovery.groupsOf_nodup grant).imp
    intro group other different single member again
    simp only [List.mem_flatMap, List.mem_map] at member again
    obtain ⟨_, _, _, _, rfl⟩ := member
    obtain ⟨_, _, _, _, same⟩ := again
    exact different (congrArg (·.apiGroup) same).symm

end

end Discovery

end AccessGraph
