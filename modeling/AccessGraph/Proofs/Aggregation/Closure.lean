/-
This file says which rules a bundle has after aggregation: those of all bundles that it selects,
directly or through others, each taken from the nearest bundle that holds it.
-/

import AccessGraph.Proofs.Aggregation.Clusters
import AccessGraph.Proofs.Aggregation.Distance
import Mathlib.Data.Set.Lattice
import Mathlib.Order.Bounds.Basic

namespace AccessGraph

open Relation

namespace Aggregation

variable {bundles : SortedMap Bundle}

/-- The rules that stand in the bundle of an id. -/
def rulesOf (bundles : SortedMap Bundle) (id : String) : List PolicyRule :=
  (bundles.get? id).elim [] Bundle.rules

theorem mem_rulesOf_iff {id : String} {rule : PolicyRule} :
    rule ∈ rulesOf bundles id ↔ ∃ bundle, bundles.get? id = some bundle ∧ rule ∈ bundle.rules := by
  unfold rulesOf
  cases bundles.get? id <;> simp

/-- The same rules with their positions. -/
def ownRules (bundles : SortedMap Bundle) (id : String) : List SourcedRule :=
  match bundles.get? id with
  | some bundle => bundle.sourcedRules id
  | none => []

theorem ownRules_eq (id : String) :
    ownRules bundles id = (rulesOf bundles id).mapIdx fun index rule => ⟨rule, id, index⟩ := by
  unfold ownRules rulesOf
  cases bundles.get? id <;> rfl

theorem merge_eq (ids : List String) :
    merge bundles ids = distinctBy SourcedRule.rule (ids.flatMap (ownRules bundles)) :=
  rfl

theorem mem_ownRules_iff {id : String} {sourced : SourcedRule} :
    sourced ∈ ownRules bundles id ↔
      sourced.source = id ∧ (rulesOf bundles id)[sourced.index]? = some sourced.rule := by
  rw [ownRules_eq, List.mem_mapIdx]
  constructor
  · intro given
    obtain ⟨index, within, rfl⟩ := given
    exact ⟨rfl, List.getElem?_eq_getElem within⟩
  · intro given
    obtain ⟨rfl, held⟩ := given
    obtain ⟨within, found⟩ := List.getElem?_eq_some_iff.mp held
    exact ⟨sourced.index, within, by rw [found]⟩

theorem rule_mem_ownRules_iff {id : String} {rule : PolicyRule} :
    rule ∈ (ownRules bundles id).map SourcedRule.rule ↔ rule ∈ rulesOf bundles id := by
  rw [List.mem_map, List.mem_iff_getElem?]
  constructor
  · intro given
    obtain ⟨sourced, own, rfl⟩ := given
    exact ⟨sourced.index, (mem_ownRules_iff.mp own).2⟩
  · intro given
    obtain ⟨index, held⟩ := given
    exact ⟨⟨rule, id, index⟩, mem_ownRules_iff.mpr ⟨rfl, held⟩, rfl⟩

/-- The steps of a walk over what is selected are the selections. -/
theorem follows_next : Follows (next (selections bundles)) = Selects bundles := by
  funext target source
  exact propext mem_next_iff

/-- Only a bundle with an aggregation rule selects others. -/
theorem Selects.exists_selections {target source : String}
    (selects : Selects bundles target source) :
    ∃ ids, (selections bundles).get? target = some ids := by
  have next := mem_next_iff.mpr selects
  unfold Aggregation.next at next
  cases found : (selections bundles).get? target with
  | none => simp [found] at next
  | some ids => exact ⟨ids, rfl⟩

theorem eq_of_reaches_of_plain {target source : String}
    (plain : (selections bundles).get? target = none)
    (reaches : ReflTransGen (Selects bundles) target source) : source = target := by
  rcases reaches.cases_head with same | ⟨between, selects, -⟩
  · exact same.symm
  · obtain ⟨ids, found⟩ := selects.exists_selections
    rw [plain] at found
    cases found

section

variable {target : String} {ids : List String}
  (aggregated : (selections bundles).get? target = some ids)

include aggregated

/-- A closure holds all that can be reached by selections. -/
theorem mem_closure_iff {source : String} :
    source ∈ closure bundles (selections bundles) target ↔
      ReflTransGen (Selects bundles) target source := by
  rw [← follows_next]
  exact mem_explore_iff (fun id _ => next_subset_clusters id)
    (mem_keys_clusters_of_selections aggregated) length_keys_clusters

end

/-- The first rule comes from a bundle that is no farther, or stands before the second in one and
the same bundle. -/
structure Precedes (bundles : SortedMap Bundle) (target : String) (first second : SourcedRule) :
    Prop where
  nearer : NoFarther (Selects bundles) target first.source second.source
  earlier : first.source = second.source → first.index < second.index

/-- The rules of a closure stand in the order of their distance and of their positions. -/
theorem ownRules_precedes (target : String) :
    ((closure bundles (selections bundles) target).flatMap (ownRules bundles)).Pairwise
      (Precedes bundles target) := by
  refine List.pairwise_flatMap.mpr ⟨?_, ?_⟩
  · intro source _
    rw [ownRules_eq, List.pairwise_iff_getElem]
    intro first second within alsoWithin less
    rw [List.getElem_mapIdx, List.getElem_mapIdx]
    exact ⟨.refl source, fun _ => less⟩
  · have nearest := explore_nearestFirst (next (selections bundles)) bundles.entries.length target
    rw [follows_next] at nearest
    have noneTwice := explore_nodup (next (selections bundles)) bundles.entries.length target
    refine (nearest.and noneTwice).imp ?_
    intro source other order first firstOwn second secondOwn
    obtain ⟨rfl, -⟩ := mem_ownRules_iff.mp firstOwn
    obtain ⟨rfl, -⟩ := mem_ownRules_iff.mp secondOwn
    exact ⟨order.1, fun same => absurd same order.2⟩

/-- An entry stands for the first position of its rule in a bundle that is nearest among those with
this rule. -/
structure IsOrigin (bundles : SortedMap Bundle) (target : String) (entry : SourcedRule) :
    Prop where
  held : (rulesOf bundles entry.source)[entry.index]? = some entry.rule
  first : ∀ index < entry.index, (rulesOf bundles entry.source)[index]? ≠ some entry.rule
  nearest : ∃ distance, Leads (Selects bundles) target distance entry.source ∧
    ∀ other further, entry.rule ∈ rulesOf bundles other →
      Leads (Selects bundles) target further other → distance ≤ further

section

variable {target : String} {ids : List String}
  (aggregated : (selections bundles).get? target = some ids)

include aggregated

theorem isOrigin_of_mem_merge {entry : SourcedRule}
    (member : entry ∈ merge bundles (closure bundles (selections bundles) target)) :
    IsOrigin bundles target entry := by
  rw [merge_eq] at member
  obtain ⟨source, reached, own⟩ := List.mem_flatMap.mp ((distinctBy_sublist _ _).subset member)
  obtain ⟨rfl, held⟩ := mem_ownRules_iff.mp own
  have first (other : String) (index : Nat) (reaches : ReflTransGen (Selects bundles) target other)
      (alsoHeld : (rulesOf bundles other)[index]? = some entry.rule) :
      ⟨entry.rule, other, index⟩ = entry ∨
        Precedes bundles target entry ⟨entry.rule, other, index⟩ := by
    have present : ⟨entry.rule, other, index⟩ ∈
        (closure bundles (selections bundles) target).flatMap (ownRules bundles) :=
      List.mem_flatMap.mpr ⟨other, (mem_closure_iff aggregated).mpr reaches,
        mem_ownRules_iff.mpr ⟨rfl, alsoHeld⟩⟩
    exact distinctBy_first SourcedRule.rule (ownRules_precedes target) member present rfl
  have reaches := (mem_closure_iff aggregated).mp reached
  constructor
  · exact held
  · intro index less alsoHeld
    rcases first entry.source index reaches alsoHeld with same | later
    · exact Nat.ne_of_lt less (congrArg SourcedRule.index same)
    · have more := later.earlier rfl
      exact Nat.lt_asymm less more
  · obtain ⟨distance, led, least⟩ := exists_least_distance reaches
    refine ⟨distance, led, ?_⟩
    intro other further otherHolds otherLed
    obtain ⟨index, alsoHeld⟩ := List.mem_iff_getElem?.mp otherHolds
    have otherReaches := exists_leads_iff.mp ⟨further, otherLed⟩
    rcases first other index otherReaches alsoHeld with same | later
    · have source : other = entry.source := congrArg SourcedRule.source same
      exact least entry.source (.refl _) further (source ▸ otherLed)
    · exact least other later.nearer further otherLed

theorem rule_mem_merge_iff {rule : PolicyRule} :
    rule ∈ (merge bundles (closure bundles (selections bundles) target)).map SourcedRule.rule ↔
      ∃ source, ReflTransGen (Selects bundles) target source ∧ rule ∈ rulesOf bundles source := by
  rw [merge_eq, key_mem_distinctBy, List.map_flatMap, List.mem_flatMap]
  constructor
  · intro given
    obtain ⟨source, reached, held⟩ := given
    exact ⟨source, (mem_closure_iff aggregated).mp reached, rule_mem_ownRules_iff.mp held⟩
  · intro given
    obtain ⟨source, reaches, held⟩ := given
    exact ⟨source, (mem_closure_iff aggregated).mpr reaches, rule_mem_ownRules_iff.mpr held⟩

end

/-- What is aggregated ends up with the rules of its closure, and anything else with its own. -/
theorem effectiveRules_eq (id : String) (bundle : Bundle) :
    (resolve bundles).effectiveRules id bundle =
      match (selections bundles).get? id with
      | some _ => merge bundles (closure bundles (selections bundles) id)
      | none => bundle.sourcedRules id := by
  rw [effectiveRules, show (resolve bundles).rules = mergedRules bundles from rfl, mergedRules,
    SortedMap.get?_filterMap, get?_closures]
  cases (selections bundles).get? id <;> rfl

section

variable {id : String} {bundle : Bundle} (known : bundles.get? id = some bundle)

include known

theorem effectiveRules_of_aggregated (rule : bundle.hasAggregationRule = true) :
    (selections bundles).get? id = some (bundle.selected bundles id) ∧
      (resolve bundles).effectiveRules id bundle =
        merge bundles (closure bundles (selections bundles) id) := by
  have aggregated : (selections bundles).get? id = some (bundle.selected bundles id) :=
    get?_selections_eq_some_iff.mpr ⟨bundle, known, rule, rfl⟩
  rw [effectiveRules_eq, aggregated]
  exact ⟨rfl, rfl⟩

theorem effectiveRules_of_plain (plain : bundle.hasAggregationRule = false) :
    (selections bundles).get? id = none ∧
      (resolve bundles).effectiveRules id bundle = bundle.sourcedRules id := by
  have unaggregated : (selections bundles).get? id = none := by
    rw [selections, SortedMap.get?_filterMap, known]
    simp [plain]
  rw [effectiveRules_eq, unaggregated]
  exact ⟨rfl, rfl⟩

/-- A bundle ends up with the rules of all bundles that it selects, directly or through others. -/
theorem rule_mem_effectiveRules_iff {rule : PolicyRule} :
    rule ∈ ((resolve bundles).effectiveRules id bundle).map SourcedRule.rule ↔
      ∃ source, ReflTransGen (Selects bundles) id source ∧ rule ∈ rulesOf bundles source := by
  cases counts : bundle.hasAggregationRule with
  | true =>
      obtain ⟨aggregated, rules⟩ := effectiveRules_of_aggregated known counts
      rw [rules]
      exact rule_mem_merge_iff aggregated
  | false =>
      obtain ⟨plain, rules⟩ := effectiveRules_of_plain known counts
      have own : bundle.sourcedRules id = ownRules bundles id := by
        rw [ownRules, known]
      rw [rules, own, rule_mem_ownRules_iff]
      constructor
      · intro held
        exact ⟨id, .refl, held⟩
      · intro given
        obtain ⟨source, reaches, held⟩ := given
        exact eq_of_reaches_of_plain plain reaches ▸ held

end

/-- The rules that a bundle has after aggregation. -/
def effectiveSet (bundles : SortedMap Bundle) (id : String) : Set PolicyRule :=
  {rule | ∃ bundle, bundles.get? id = some bundle ∧
    rule ∈ ((resolve bundles).effectiveRules id bundle).map SourcedRule.rule}

/-- Every bundle has its own rules and all those of the bundles that it selects, and no others. -/
def Solves (bundles : SortedMap Bundle) (effective : String → Set PolicyRule) : Prop :=
  ∀ id, effective id = {rule | rule ∈ rulesOf bundles id} ∪
    {rule | ∃ source, Selects bundles id source ∧ rule ∈ effective source}

/-- What becomes of the rules of a bundle: they are those of all bundles that it reaches by
selections, in its own order if it is not aggregated, and else without repetition, the first of the
nearest. -/
structure HasClosedRules (bundles : SortedMap Bundle) (id : String) (bundle : Bundle)
    (rules : List SourcedRule) : Prop where
  values : ∀ rule, rule ∈ rules.map SourcedRule.rule ↔
    ∃ source, ReflTransGen (Selects bundles) id source ∧ rule ∈ rulesOf bundles source
  plain : bundle.hasAggregationRule = false →
    rules = bundle.rules.mapIdx fun index rule => ⟨rule, id, index⟩
  distinct : bundle.hasAggregationRule = true → (rules.map SourcedRule.rule).Nodup
  origins : bundle.hasAggregationRule = true → ∀ entry ∈ rules, IsOrigin bundles id entry

theorem hasClosedRules {id : String} {bundle : Bundle} (known : bundles.get? id = some bundle) :
    HasClosedRules bundles id bundle ((resolve bundles).effectiveRules id bundle) where
  values := fun _ => rule_mem_effectiveRules_iff known
  plain := fun plain => (effectiveRules_of_plain known plain).2
  distinct := by
    intro counts
    rw [(effectiveRules_of_aggregated known counts).2]
    exact distinctBy_keys SourcedRule.rule _
  origins := by
    intro counts entry member
    obtain ⟨aggregated, rules⟩ := effectiveRules_of_aggregated known counts
    exact isOrigin_of_mem_merge aggregated (rules ▸ member)

theorem mem_effectiveSet_iff {id : String} {rule : PolicyRule} :
    rule ∈ effectiveSet bundles id ↔
      ∃ source, ReflTransGen (Selects bundles) id source ∧ rule ∈ rulesOf bundles source := by
  constructor
  · intro given
    obtain ⟨bundle, known, member⟩ := given
    exact (rule_mem_effectiveRules_iff known).mp member
  · intro given
    cases known : bundles.get? id with
    | some bundle => exact ⟨bundle, known, (rule_mem_effectiveRules_iff known).mpr given⟩
    | none =>
        -- An unknown bundle selects nothing and has no rules of its own.
        obtain ⟨source, reaches, held⟩ := given
        have unaggregated : (selections bundles).get? id = none := by
          rw [selections, SortedMap.get?_filterMap, known]
          rfl
        rw [eq_of_reaches_of_plain unaggregated reaches, rulesOf, known] at held
        cases held

theorem effectiveSet_solves : Solves bundles (effectiveSet bundles) := by
  intro id
  ext rule
  simp only [Set.mem_union, Set.mem_ofPred_eq, mem_effectiveSet_iff]
  constructor
  · intro given
    obtain ⟨source, reaches, held⟩ := given
    rcases reaches.cases_head with rfl | ⟨between, selects, rest⟩
    · exact .inl held
    · exact .inr ⟨between, selects, source, rest, held⟩
  · intro given
    rcases given with held | ⟨between, selects, source, rest, held⟩
    · exact ⟨id, .refl, held⟩
    · exact ⟨source, rest.head selects, held⟩

/-- Whatever solves the equations has the rules of every bundle that is reached. -/
theorem Solves.mem_of_reaches {effective : String → Set PolicyRule}
    (solves : Solves bundles effective) {id source : String} {rule : PolicyRule}
    (reaches : ReflTransGen (Selects bundles) id source) (held : rule ∈ rulesOf bundles source) :
    rule ∈ effective id := by
  induction reaches using ReflTransGen.head_induction_on with
  | refl =>
      rw [solves source]
      exact .inl held
  | head selects _ inductionHypothesis =>
      rw [solves]
      exact .inr ⟨_, selects, inductionHypothesis⟩

theorem effectiveSet_isLeast :
    IsLeast {effective | Solves bundles effective} (effectiveSet bundles) := by
  refine ⟨effectiveSet_solves, ?_⟩
  intro effective solves id rule member
  obtain ⟨source, reaches, held⟩ := mem_effectiveSet_iff.mp member
  exact solves.mem_of_reaches reaches held

/-- Aggregation gives every bundle the rules that it needs and no others, and says of each where it
comes from. Its walks end after as many levels as there are bundles, and they miss none. -/
theorem resolve_closes (bundles : SortedMap Bundle) :
    IsLeast {effective | Solves bundles effective} (effectiveSet bundles) ∧
      ∀ id bundle, bundles.get? id = some bundle →
        HasClosedRules bundles id bundle ((resolve bundles).effectiveRules id bundle) :=
  ⟨effectiveSet_isLeast, fun _ _ known => hasClosedRules known⟩

/-- A cluster role of a team that takes over the rules of other teams, by a selector for each. The
last selector is malformed. -/
def teamBundle (name : String) (rules : List PolicyRule) (others : List String) : Bundle where
  kind := .clusterRole
  name := name
  namespaceName := none
  labels := SortedMap.empty.insert "team" name
  annotations := .empty
  rules := rules
  aggregationRule := some
    ⟨others.map (fun other => ⟨SortedMap.empty.insert "team" other, []⟩) ++
      [⟨.empty, [⟨"team", .within, []⟩]⟩]⟩

def readPods : PolicyRule :=
  { PolicyRule.empty with apiGroups := [""], resources := ["pods"], verbs := ["get"] }

def readNodes : PolicyRule :=
  { PolicyRule.empty with apiGroups := [""], resources := ["nodes"], verbs := ["get"] }

/-- Two teams take over each other's rules. -/
def circle : SortedMap Bundle :=
  .ofListKeepingFirst [
    ("clusterrole:blue", teamBundle "blue" [readPods, readPods] ["green"]),
    ("clusterrole:green", teamBundle "green" [readPods, readNodes] ["blue"])]

theorem resolve_closes_circle :
    Selects circle "clusterrole:blue" "clusterrole:green" ∧
      Selects circle "clusterrole:green" "clusterrole:blue" ∧
      ∃ rules, (resolve circle).effectiveRules "clusterrole:blue"
          (teamBundle "blue" [readPods, readPods] ["green"]) = rules ∧
        HasClosedRules circle "clusterrole:blue"
          (teamBundle "blue" [readPods, readPods] ["green"]) rules ∧
        rules = [⟨readPods, "clusterrole:blue", 0⟩, ⟨readNodes, "clusterrole:green", 1⟩] ∧
        IsOrigin circle "clusterrole:blue" ⟨readNodes, "clusterrole:green", 1⟩ := by
  have closed := (resolve_closes circle).2 "clusterrole:blue"
    (teamBundle "blue" [readPods, readPods] ["green"]) (by decide)
  refine ⟨mem_next_iff.mp (by decide), mem_next_iff.mp (by decide), _, rfl, closed, by decide, ?_⟩
  exact closed.origins (by decide) _ (by decide)

end Aggregation

end AccessGraph
