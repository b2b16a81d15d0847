/-
This file says that what is known of a cluster answers as the plain set of all that was told of it,
whatever order it was told in and however it was spelled and split.
-/

import AccessGraph.Proofs.Text.Lowercase
import AccessGraph.Discovery.Decode

namespace AccessGraph

theorem SortedMap.isEmpty_iff {α : Type} {map : SortedMap α} :
    map.isEmpty = true ↔ ∀ key, ¬ map.contains key = true := by
  have keys : map.isEmpty = true ↔ map.keys = [] := by
    rw [isEmpty, SortedMap.keys, List.isEmpty_iff, List.map_eq_nil_iff]
  rw [keys, List.eq_nil_iff_forall_not_mem]
  simp only [mem_keys_iff]

namespace Discovery

/-- What is told of a cluster: a resource with some of its verbs, or a URL. -/
inductive Insertion where
  | resource (entry : Entry)
  | url (url : String)
deriving DecidableEq, Repr

def apply (discovery : Discovery) : Insertion → Discovery
  | .resource entry => discovery.insert entry.group entry.resource entry.verbs
  | .url url => discovery.insertUrl url

/-- What is known once all has been told, one after the other. -/
def build (insertions : List Insertion) : Discovery :=
  insertions.foldl apply empty

/-- A document tells its resources first and then its URLs. -/
theorem ofEntries_eq_build (entries : List Entry) (urls : List String) :
    ofEntries entries urls = build (entries.map .resource ++ urls.map .url) := by
  simp only [build, List.foldl_append, List.foldl_map]
  rfl

/-- An entry is about a resource, by normalized names. An entry with a blank resource is about
none. -/
structure Entry.IsAbout (entry : Entry) (group resource : String) : Prop where
  named : normalizeName entry.group = group
  alsoNamed : normalizeName entry.resource = resource
  notBlank : resource ≠ ""

section

variable (insertions : List Insertion)

/-- Some entry is about the resource. -/
def Lists (group resource : String) : Prop :=
  ∃ entry, .resource entry ∈ insertions ∧ entry.IsAbout group resource

/-- Some entry about the resource names the verb. Blank verbs are not named. -/
def Offers (group resource verb : String) : Prop :=
  ∃ entry, .resource entry ∈ insertions ∧ entry.IsAbout group resource ∧
    verb ∈ entry.verbs.map normalizeName ∧ verb ≠ ""

/-- The URL was told, if perhaps with blank characters around it. -/
def Knows (url : String) : Prop :=
  ∃ spelled, .url spelled ∈ insertions ∧ Text.trim spelled = url ∧ url ≠ ""

end

/-- The same resources, verbs and URLs are told, in whatever order and spelling, and however
often. -/
structure SameContent (first second : List Insertion) : Prop where
  lists : ∀ group resource, Lists first group resource ↔ Lists second group resource
  offers : ∀ group resource verb,
    Offers first group resource verb ↔ Offers second group resource verb
  knows : ∀ url, Knows first url ↔ Knows second url

/-- All lookups are answered from what was told, and all listings are in ascending order. -/
structure Answers (discovery : Discovery) (insertions : List Insertion) : Prop where
  verbsFor : ∀ group resource verbs, discovery.verbsFor group resource = some verbs ↔
    Lists insertions (normalizeName group) (normalizeName resource) ∧ verbs.Pairwise (· < ·) ∧
      ∀ verb, verb ∈ verbs ↔
        Offers insertions (normalizeName group) (normalizeName resource) verb
  unlisted : ∀ group resource, discovery.verbsFor group resource = none ↔
    ¬ Lists insertions (normalizeName group) (normalizeName resource)
  hasResource : ∀ group resource, discovery.hasResource group resource = true ↔
    Lists insertions (normalizeName group) (normalizeName resource)
  hasGroup : ∀ group, discovery.hasGroup group = true ↔
    ∃ resource, Lists insertions (normalizeName group) resource
  groupNames : ∀ group, group ∈ discovery.groupNames ↔ ∃ resource, Lists insertions group resource
  resources : ∀ group resource, resource ∈ discovery.resources group ↔
    Lists insertions (normalizeName group) resource
  allVerbs : ∀ verb, verb ∈ discovery.allVerbs ↔
    ∃ group resource verbs, discovery.verbsFor group resource = some verbs ∧ verb ∈ verbs
  hasUrl : ∀ url, discovery.hasUrl url = true ↔ ∃ known, Knows insertions known ∧
    (known = Text.trim url ∨
      ∃ stem, known = stem ++ "*" ∧ stem.toList <+: (Text.trim url).toList)
  isEmpty : discovery.isEmpty = true ↔
    (∀ group resource, ¬ Lists insertions group resource) ∧ ∀ url, ¬ Knows insertions url
  ascendingGroups : discovery.groupNames.Pairwise (· < ·)
  ascendingResources : ∀ group, (discovery.resources group).Pairwise (· < ·)
  ascendingVerbs : discovery.allVerbs.Pairwise (· < ·)
  namedGroups : ∀ group ∈ discovery.groupNames, normalizeName group = group
  namedResources : ∀ group, ∀ resource ∈ discovery.resources group,
    normalizeName resource = resource

section

variable {first second : List Insertion} {group resource verb url : String}

@[simp] theorem lists_nil : ¬ Lists [] group resource := by
  simp [Lists]

@[simp] theorem offers_nil : ¬ Offers [] group resource verb := by
  simp [Offers]

@[simp] theorem knows_nil : ¬ Knows [] url := by
  simp [Knows]

@[simp] theorem lists_entry {entry : Entry} : Lists (.resource entry :: first) group resource ↔
    entry.IsAbout group resource ∨ Lists first group resource := by
  simp [Lists, or_and_right, exists_or]

@[simp] theorem offers_entry {entry : Entry} :
    Offers (.resource entry :: first) group resource verb ↔
      entry.IsAbout group resource ∧ verb ∈ entry.verbs.map normalizeName ∧ verb ≠ "" ∨
        Offers first group resource verb := by
  simp [Offers, or_and_right, exists_or]

@[simp] theorem knows_entry {entry : Entry} :
    Knows (.resource entry :: first) url ↔ Knows first url := by
  simp [Knows]

@[simp] theorem lists_url {spelled : String} :
    Lists (.url spelled :: first) group resource ↔ Lists first group resource := by
  simp [Lists]

@[simp] theorem offers_url {spelled : String} :
    Offers (.url spelled :: first) group resource verb ↔ Offers first group resource verb := by
  simp [Offers]

@[simp] theorem knows_url {spelled : String} :
    Knows (.url spelled :: first) url ↔ Text.trim spelled = url ∧ url ≠ "" ∨ Knows first url := by
  simp [Knows, or_and_right, exists_or]

@[simp] theorem lists_append : Lists (first ++ second) group resource ↔
    Lists first group resource ∨ Lists second group resource := by
  simp only [Lists, List.mem_append, or_and_right, exists_or]

@[simp] theorem offers_append : Offers (first ++ second) group resource verb ↔
    Offers first group resource verb ∨ Offers second group resource verb := by
  simp only [Offers, List.mem_append, or_and_right, exists_or]

@[simp] theorem knows_append :
    Knows (first ++ second) url ↔ Knows first url ∨ Knows second url := by
  simp only [Knows, List.mem_append, or_and_right, exists_or]

/-- Nothing but resources has verbs. -/
theorem Offers.lists (offers : Offers first group resource verb) : Lists first group resource := by
  obtain ⟨entry, told, about, -⟩ := offers
  exact ⟨entry, told, about⟩

theorem Lists.normalizeName_group (lists : Lists first group resource) :
    normalizeName group = group := by
  obtain ⟨entry, -, about⟩ := lists
  rw [← about.named, normalizeName_normalizeName]

theorem Lists.normalizeName_resource (lists : Lists first group resource) :
    normalizeName resource = resource := by
  obtain ⟨entry, -, about⟩ := lists
  rw [← about.alsoNamed, normalizeName_normalizeName]

/-- The order in which things are told is no part of what is told. -/
theorem SameContent.of_perm (perm : first.Perm second) : SameContent first second := by
  constructor
  · intro group resource
    simp only [Lists, perm.mem_iff]
  · intro group resource verb
    simp only [Offers, perm.mem_iff]
  · intro url
    simp only [Knows, perm.mem_iff]

/-- Verbs may be told together or one part after the other. -/
theorem SameContent.of_split (group resource : String) (verbs more : List String)
    (rest : List Insertion) :
    SameContent (.resource ⟨group, resource, verbs ++ more⟩ :: rest)
      (.resource ⟨group, resource, verbs⟩ :: .resource ⟨group, resource, more⟩ :: rest) := by
  have about (verbs others : List String) (name key : String)
      (given : (Entry.mk group resource verbs).IsAbout name key) :
      (Entry.mk group resource others).IsAbout name key :=
    ⟨given.named, given.alsoNamed, given.notBlank⟩
  constructor
  · intro name key
    have whole := about (verbs ++ more) verbs name key
    have left := about verbs (verbs ++ more) name key
    have right := about more (verbs ++ more) name key
    simp only [lists_entry]
    tauto
  · intro name key verb
    have first := about (verbs ++ more) verbs name key
    have second := about (verbs ++ more) more name key
    have left := about verbs (verbs ++ more) name key
    have right := about more (verbs ++ more) name key
    simp only [offers_entry, List.map_append, List.mem_append]
    tauto
  · intro url
    simp only [knows_entry]

end

/-- A URL is covered by itself and by what it starts with if a `*` follows. -/
theorem covers_url_iff {known url : String} : covers known url = true ↔
    known = url ∨ ∃ stem, known = stem ++ "*" ∧ stem.toList <+: url.toList := by
  have star : "*".toList = ['*'] := by decide
  rw [covers, Bool.or_eq_true, beq_iff_eq, Bool.and_eq_true, beq_iff_eq, List.isPrefixOf_iff_prefix]
  apply or_congr_right
  constructor
  · intro given
    obtain ⟨last, start⟩ := given
    refine ⟨String.ofList known.toList.dropLast, String.toList_injective ?_, ?_⟩
    · rw [String.toList_append, String.toList_ofList, star]
      exact (List.dropLast_append_getLast? '*' last).symm
    · rwa [String.toList_ofList]
  · intro given
    obtain ⟨stem, rfl, start⟩ := given
    rw [String.toList_append, star, List.getLast?_concat, List.dropLast_concat]
    exact ⟨rfl, start⟩

/-- What is kept of a resource, by normalized names. -/
def served (discovery : Discovery) (group resource : String) : Option SortedSet :=
  (discovery.groups.get? group).bind (·.get? resource)

section

variable {discovery : Discovery}

theorem verbsFor_eq (group resource : String) : discovery.verbsFor group resource =
    (discovery.served (normalizeName group) (normalizeName resource)).map (·.toList) := by
  rw [verbsFor, served]
  cases discovery.groups.get? (normalizeName group) with
  | none => rfl
  | some resources =>
      change (resources.get? (normalizeName resource)).bind (some ·.toList) =
        (resources.get? (normalizeName resource)).map (·.toList)
      cases resources.get? (normalizeName resource) <;> rfl

theorem insert_of_blank {resource : String} (blank : normalizeName resource = "") (group : String)
    (verbs : List String) : discovery.insert group resource verbs = discovery := by
  simp [Discovery.insert, blank]

/-- An entry adds its verbs to those that are kept of its resource. -/
theorem served_insert {entry : Entry} (notBlank : normalizeName entry.resource ≠ "")
    (group resource : String) :
    (discovery.insert entry.group entry.resource entry.verbs).served group resource =
      if normalizeName entry.group = group ∧ normalizeName entry.resource = resource then
        some (((entry.verbs.map normalizeName).filter (!·.isEmpty)).foldl SortedSet.insert
          ((discovery.served group resource).getD .empty))
      else discovery.served group resource := by
  have opened : ∀ resources : Option (SortedMap SortedSet),
      (resources.getD .empty).get? resource = resources.bind (·.get? resource) := by
    intro resources
    cases resources <;> rfl
  simp only [Discovery.insert, String.isEmpty_iff, if_neg notBlank, served, SortedMap.get?_insert]
  by_cases sameGroup : normalizeName entry.group = group
  · subst sameGroup
    simp only [if_true, true_and, Option.bind_some, SortedMap.get?_insert]
    by_cases sameResource : normalizeName entry.resource = resource
    · subst sameResource
      simp only [if_true, opened]
    · simp only [if_neg sameResource, opened]
  · simp only [sameGroup, if_false, false_and]

/-- What is kept is what was told: of every resource its verbs, and all verbs once more together. -/
structure Represents (discovery : Discovery) (insertions : List Insertion) : Prop where
  groups : ∀ group, discovery.groups.contains group = true ↔
    ∃ resource, Lists insertions group resource
  resources : ∀ group resource, (discovery.served group resource).isSome = true ↔
    Lists insertions group resource
  verbs : ∀ group resource verb,
    verb ∈ ((discovery.served group resource).getD .empty).toList ↔
      Offers insertions group resource verb
  allVerbs : ∀ verb, verb ∈ discovery.verbs.toList ↔
    ∃ group resource, Offers insertions group resource verb
  urls : ∀ url, url ∈ discovery.urls.toList ↔ Knows insertions url

theorem empty_represents : empty.Represents [] := by
  constructor <;> simp [empty, served, SortedMap.contains, SortedMap.get?_empty, SortedSet.empty]

section

variable {told : List Insertion} (represents : discovery.Represents told)

include represents

theorem Represents.insertEntry (entry : Entry) :
    (discovery.insert entry.group entry.resource entry.verbs).Represents
      (told ++ [.resource entry]) := by
  by_cases blank : normalizeName entry.resource = ""
  · have none (group resource : String) : ¬ entry.IsAbout group resource := by
      intro about
      exact about.notBlank (about.alsoNamed.symm.trans blank)
    rw [insert_of_blank blank]
    constructor
    · simpa [none] using represents.groups
    · simpa [none] using represents.resources
    · simpa [none] using represents.verbs
    · simpa [none] using represents.allVerbs
    · simpa using represents.urls
  · have about (group resource : String) : entry.IsAbout group resource ↔
        normalizeName entry.group = group ∧ normalizeName entry.resource = resource := by
      constructor
      · intro given
        exact ⟨given.named, given.alsoNamed⟩
      · intro given
        exact ⟨given.1, given.2, given.2 ▸ blank⟩
    have named (verb : String) : verb ∈ (entry.verbs.map normalizeName).filter (!·.isEmpty) ↔
        verb ∈ entry.verbs.map normalizeName ∧ verb ≠ "" := by
      simp [List.mem_filter]
    constructor
    · intro group
      have known := represents.groups group
      simp only [SortedMap.contains] at known
      simp only [Discovery.insert, String.isEmpty_iff, if_neg blank, SortedMap.contains,
        SortedMap.get?_insert, lists_append, lists_entry, about, lists_nil, or_false, exists_or,
        ← known]
      split <;> simp [*]
    · intro group resource
      rw [served_insert blank]
      simp only [lists_append, lists_entry, about, lists_nil, or_false, ← represents.resources]
      split <;> simp [*]
    · intro group resource verb
      rw [served_insert blank]
      simp only [offers_append, offers_entry, about, offers_nil, or_false, ← represents.verbs,
        ← named]
      split
      · rename_i same
        rw [Option.getD_some, SortedSet.mem_foldl_insert]
        simp [same]
      · rename_i other
        simp [other]
    · intro verb
      simp only [Discovery.insert, String.isEmpty_iff, if_neg blank]
      rw [SortedSet.mem_foldl_insert, named, represents.allVerbs]
      simp only [offers_append, offers_entry, about, offers_nil, or_false, exists_or]
      apply or_congr_right
      simp
    · intro url
      simp only [Discovery.insert, String.isEmpty_iff, if_neg blank]
      simpa using represents.urls url

theorem Represents.insertUrl (url : String) :
    (discovery.insertUrl url).Represents (told ++ [.url url]) := by
  simp only [Discovery.insertUrl, String.isEmpty_iff]
  split
  · rename_i blank
    have none (known : String) : ¬ (Text.trim url = known ∧ known ≠ "") := by
      intro told
      exact told.2 (told.1.symm.trans blank)
    constructor
    · simpa using represents.groups
    · simpa using represents.resources
    · simpa using represents.verbs
    · simpa using represents.allVerbs
    · simpa [none] using represents.urls
  · rename_i notBlank
    constructor
    · simpa using represents.groups
    · simpa [served] using represents.resources
    · simpa [served] using represents.verbs
    · simpa using represents.allVerbs
    · intro known
      rw [SortedSet.mem_insert, represents.urls, knows_append, knows_url, or_comm]
      apply or_congr_right
      constructor
      · intro same
        exact .inl ⟨same.symm, same ▸ notBlank⟩
      · intro given
        exact (given.resolve_right knows_nil).1.symm

theorem Represents.foldl_apply (insertions : List Insertion) :
    (insertions.foldl apply discovery).Represents (told ++ insertions) := by
  induction insertions generalizing discovery told with
  | nil => simpa using represents
  | cons insertion rest inductionHypothesis =>
      rw [List.foldl_cons, List.append_cons]
      apply inductionHypothesis
      cases insertion with
      | resource entry => exact represents.insertEntry entry
      | url url => exact represents.insertUrl url

end

theorem build_represents (insertions : List Insertion) :
    (build insertions).Represents insertions :=
  empty_represents.foldl_apply insertions

section

variable {insertions : List Insertion} (represents : discovery.Represents insertions)

include represents

theorem Represents.served_eq_none_iff {group resource : String} :
    discovery.served group resource = none ↔ ¬ Lists insertions group resource := by
  rw [← represents.resources, Option.isSome_iff_ne_none, not_not]

theorem Represents.verbsFor_eq_some_iff (group resource : String) (verbs : List String) :
    discovery.verbsFor group resource = some verbs ↔
      Lists insertions (normalizeName group) (normalizeName resource) ∧ verbs.Pairwise (· < ·) ∧
        ∀ verb, verb ∈ verbs ↔
          Offers insertions (normalizeName group) (normalizeName resource) verb := by
  rw [verbsFor_eq, Option.map_eq_some_iff]
  constructor
  · intro found
    obtain ⟨set, kept, rfl⟩ := found
    refine ⟨(represents.resources _ _).mp (Option.isSome_iff_exists.mpr ⟨set, kept⟩),
      set.ascending, ?_⟩
    intro verb
    rw [← represents.verbs, kept, Option.getD_some]
  · intro given
    obtain ⟨listed, ascending, named⟩ := given
    obtain ⟨set, kept⟩ := Option.isSome_iff_exists.mp ((represents.resources _ _).mpr listed)
    refine ⟨set, kept, ?_⟩
    refine eq_of_mem_of_pairwise (fun _ _ => String.lt_asymm) set.ascending ascending ?_
    intro verb
    rw [named, ← represents.verbs, kept, Option.getD_some]

theorem Represents.mem_resources_iff (group resource : String) :
    resource ∈ discovery.resources group ↔ Lists insertions (normalizeName group) resource := by
  rw [← represents.resources, Discovery.resources, served]
  cases discovery.groups.get? (normalizeName group) with
  | none => simp
  | some resources =>
      rw [Option.map_some, Option.getD_some, SortedMap.mem_keys_iff, Option.bind_some,
        SortedMap.contains]

theorem Represents.mem_groupNames_iff (group : String) :
    group ∈ discovery.groupNames ↔ ∃ resource, Lists insertions group resource := by
  rw [← represents.groups, groupNames, SortedMap.mem_keys_iff]

/-- The verbs of all resources are those that the resources are found to have. -/
theorem Represents.mem_allVerbs_iff (verb : String) : verb ∈ discovery.allVerbs ↔
    ∃ group resource verbs, discovery.verbsFor group resource = some verbs ∧ verb ∈ verbs := by
  rw [Discovery.allVerbs, represents.allVerbs]
  constructor
  · intro served
    obtain ⟨group, resource, offers⟩ := served
    have lists := offers.lists
    have kept := (represents.resources group resource).mpr lists
    obtain ⟨set, found⟩ := Option.isSome_iff_exists.mp kept
    refine ⟨group, resource, set.toList, ?_, ?_⟩
    · rw [verbsFor_eq, lists.normalizeName_group, lists.normalizeName_resource, found,
        Option.map_some]
    · have member := (represents.verbs group resource verb).mpr offers
      rwa [found, Option.getD_some] at member
  · intro found
    obtain ⟨group, resource, verbs, known, member⟩ := found
    have named := ((represents.verbsFor_eq_some_iff group resource verbs).mp known).2.2
    exact ⟨_, _, (named verb).mp member⟩

theorem Represents.hasUrl_iff (url : String) : discovery.hasUrl url = true ↔
    ∃ known, Knows insertions known ∧ (known = Text.trim url ∨
      ∃ stem, known = stem ++ "*" ∧ stem.toList <+: (Text.trim url).toList) := by
  simp only [hasUrl, List.any_eq_true, represents.urls, covers_url_iff]

theorem Represents.isEmpty_iff : discovery.isEmpty = true ↔
    (∀ group resource, ¬ Lists insertions group resource) ∧ ∀ url, ¬ Knows insertions url := by
  have groups : discovery.groups.isEmpty = true ↔
      ∀ group resource, ¬ Lists insertions group resource := by
    rw [SortedMap.isEmpty_iff]
    simp only [represents.groups, not_exists]
  have urls : discovery.urls.isEmpty = true ↔ ∀ url, ¬ Knows insertions url := by
    rw [SortedSet.isEmpty, List.isEmpty_iff, List.eq_nil_iff_forall_not_mem]
    simp only [represents.urls]
  rw [isEmpty, Bool.and_eq_true, groups, urls]

theorem Represents.answers : discovery.Answers insertions where
  verbsFor := represents.verbsFor_eq_some_iff
  unlisted := by
    intro group resource
    rw [verbsFor_eq, Option.map_eq_none_iff, represents.served_eq_none_iff]
  hasResource := by
    intro group resource
    rw [hasResource, verbsFor_eq, Option.isSome_map, represents.resources]
  hasGroup := fun group => represents.groups (normalizeName group)
  groupNames := represents.mem_groupNames_iff
  resources := represents.mem_resources_iff
  allVerbs := represents.mem_allVerbs_iff
  hasUrl := represents.hasUrl_iff
  isEmpty := represents.isEmpty_iff
  ascendingGroups := discovery.groups.keys_ascending
  ascendingResources := by
    intro group
    rw [Discovery.resources]
    cases discovery.groups.get? (normalizeName group) with
    | none => exact .nil
    | some resources => exact resources.keys_ascending
  ascendingVerbs := discovery.verbs.ascending
  namedGroups := by
    intro group member
    obtain ⟨resource, lists⟩ := (represents.mem_groupNames_iff group).mp member
    exact lists.normalizeName_group
  namedResources := by
    intro group resource member
    exact ((represents.mem_resources_iff group resource).mp member).normalizeName_resource

end

/-- What is read of a document answers as the set of all that the document lists. -/
theorem parse_answers {document : String} (read : parse document = .ok discovery) :
    ∃ listing, Decoder.readText Listing.record.decode document = .ok listing ∧
      discovery.Answers (listing.resources.map .resource ++ listing.urls.map .url) := by
  cases listed : Decoder.readText Listing.record.decode document with
  | error fault =>
      rw [parse, listed] at read
      cases read
  | ok listing =>
      rw [parse, listed] at read
      obtain rfl : ofEntries listing.resources listing.urls = discovery := Except.ok.inj read
      rw [ofEntries_eq_build]
      exact ⟨listing, rfl, (build_represents _).answers⟩

/-- What is known is the same when the same is kept of every resource. -/
theorem eq_of_served {first second : Discovery}
    (groups : ∀ group, first.groups.contains group = second.groups.contains group)
    (served : ∀ group resource, first.served group resource = second.served group resource)
    (verbs : first.verbs = second.verbs) (urls : first.urls = second.urls) : first = second := by
  have same : first.groups = second.groups := by
    apply SortedMap.eq_of_get?
    intro group
    have known := groups group
    have kept := served group
    unfold SortedMap.contains at known
    unfold Discovery.served at kept
    cases here : first.groups.get? group with
    | none =>
        rw [here, Option.isSome_none, eq_comm, Option.isSome_eq_false_iff,
          Option.isNone_iff_eq_none] at known
        exact known.symm
    | some resources =>
        rw [here, Option.isSome_some, eq_comm, Option.isSome_iff_exists] at known
        obtain ⟨others, there⟩ := known
        rw [there]
        refine congrArg some (SortedMap.eq_of_get? ?_)
        intro resource
        simpa only [here, there, Option.bind_some] using kept resource
  cases first
  cases second
  simp_all

theorem Represents.served_eq {first second : Discovery} {told others : List Insertion}
    (represents : first.Represents told) (alsoRepresents : second.Represents others)
    (same : SameContent told others) (group resource : String) :
    first.served group resource = second.served group resource := by
  have known : (first.served group resource).isSome = (second.served group resource).isSome := by
    rw [Bool.eq_iff_iff, represents.resources, alsoRepresents.resources, same.lists]
  have verbs : (first.served group resource).getD .empty =
      (second.served group resource).getD .empty := by
    apply SortedSet.eq_of_mem
    intro verb
    rw [represents.verbs, alsoRepresents.verbs, same.offers]
  cases here : first.served group resource <;> cases there : second.served group resource <;>
    simp_all

/-- The same is known exactly when the same was told. -/
theorem build_eq_iff {insertions others : List Insertion} :
    build insertions = build others ↔ SameContent insertions others := by
  have represents := build_represents insertions
  have alsoRepresents := build_represents others
  constructor
  · intro same
    rw [same] at represents
    constructor
    · intro group resource
      rw [← represents.resources, alsoRepresents.resources]
    · intro group resource verb
      rw [← represents.verbs, alsoRepresents.verbs]
    · intro url
      rw [← represents.urls, alsoRepresents.urls]
  · intro same
    apply eq_of_served
    · intro group
      rw [Bool.eq_iff_iff, represents.groups, alsoRepresents.groups]
      simp only [same.lists]
    · exact represents.served_eq alsoRepresents same
    · apply SortedSet.eq_of_mem
      intro verb
      rw [represents.allVerbs, alsoRepresents.allVerbs]
      simp only [same.offers]
    · apply SortedSet.eq_of_mem
      intro url
      rw [represents.urls, alsoRepresents.urls, same.knows]

end

/-- What is known of a cluster answers as the set of all that was told of it. The same is known
exactly when the same was told; so neither the order of what is told nor the way in which it is
split matters. -/
theorem build_answers_what_was_told (insertions : List Insertion) :
    (build insertions).Answers insertions ∧
    (∀ others, build insertions = build others ↔ SameContent insertions others) ∧
    (∀ others, insertions.Perm others → build insertions = build others) ∧
    ∀ group resource verbs more,
      build (.resource ⟨group, resource, verbs ++ more⟩ :: insertions) =
        build (.resource ⟨group, resource, verbs⟩ :: .resource ⟨group, resource, more⟩ ::
          insertions) := by
  refine ⟨(build_represents insertions).answers, fun others => build_eq_iff, ?_, ?_⟩
  · intro others perm
    exact build_eq_iff.mpr (.of_perm perm)
  · intro group resource verbs more
    exact build_eq_iff.mpr (.of_split group resource verbs more insertions)

/-- Pods are served, and whatever is asked of their health. -/
def podInsertions : List Insertion :=
  [.resource ⟨"", "pods", ["get", "list"]⟩, .url "/healthz/*"]

/-- The same is told in other words, one verb after the other. -/
def scatteredInsertions : List Insertion :=
  [.url " /healthz/* ", .resource ⟨" ", "Pods", ["LIST", ""]⟩, .resource ⟨"apps", " ", ["watch"]⟩,
    .resource ⟨"", "pods ", ["Get"]⟩]

theorem build_answers_podInsertions :
    podInsertions.Perm podInsertions.reverse ∧
    build podInsertions = build podInsertions.reverse ∧
    SameContent podInsertions scatteredInsertions ∧
    (build podInsertions).hasUrl "/healthz/ready" = true ∧
    (build podInsertions).hasResource "" " PODS" = true := by
  obtain ⟨answers, same, order, -⟩ := build_answers_what_was_told podInsertions
  have perm : podInsertions.Perm podInsertions.reverse := (List.reverse_perm _).symm
  refine ⟨perm, order _ perm, (same _).mp (by decide +kernel), ?_, ?_⟩
  · apply (answers.hasUrl _).mpr
    exact ⟨"/healthz/*", ⟨"/healthz/*", by decide, by decide, by decide⟩,
      .inr ⟨"/healthz/", by decide, by decide⟩⟩
  · apply (answers.hasResource _ _).mpr
    exact ⟨⟨"", "pods", ["get", "list"]⟩, by decide, by decide, by decide, by decide⟩

end Discovery

end AccessGraph
