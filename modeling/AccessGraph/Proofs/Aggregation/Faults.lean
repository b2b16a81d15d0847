/-
This file says which malformed selectors are reported: those that come upon a malformed requirement for
the labels of some other cluster bundle. Requirements behind one that fails are never looked at.
-/

import AccessGraph.Proofs.Aggregation.Selection
import Mathlib.Logic.Basic

namespace AccessGraph

namespace LabelSelector

/-- A selector is reported for its first malformed requirement. -/
def fault? (selector : LabelSelector) : Option RequirementFault :=
  selector.matchExpressions.findSome? LabelRequirement.fault?

/-- A selector gets to its first malformed requirement when the labels have all wanted values and meet
all requirements before that one. -/
structure GetsThrough (selector : LabelSelector) (labels : Labels) : Prop where
  values : ∀ entry ∈ selector.matchLabels.entries, labels.get? entry.1 = some entry.2
  earlier : ∀ requirement ∈ selector.matchExpressions.takeWhile (·.fault?.isNone),
    requirement.Holds labels

variable {selector : LabelSelector} {labels : Labels} {fault : RequirementFault}

/-- Some requirement is malformed exactly if there is a first one. -/
theorem exists_fault_iff : (∃ fault, selector.fault? = some fault) ↔
    ∃ requirement ∈ selector.matchExpressions, requirement.IsMalformed := by
  have malformed (requirement : LabelRequirement) :
      requirement.fault?.isSome = true ↔ requirement.IsMalformed := by
    rw [← Option.ne_none_iff_isSome, ne_eq, LabelRequirement.fault?_eq_none_iff, not_not]
  rw [fault?, ← Option.isSome_iff_exists, List.findSome?_isSome_iff]
  simp only [malformed]

/-- Requirements are found to be malformed at the first that is, when those before it are met. -/
theorem checkRequirements_eq_error_iff {requirements : List LabelRequirement} :
    checkRequirements labels requirements = .error fault ↔
      requirements.findSome? LabelRequirement.fault? = some fault ∧
        ∀ requirement ∈ requirements.takeWhile (·.fault?.isNone), requirement.Holds labels := by
  -- The induction is on the requirements that are left: those passed so far are met.
  induction requirements with
  | nil => simp [checkRequirements]
  | cons requirement rest inductionHypothesis =>
      cases found : requirement.fault? with
      | some first => simp [checkRequirements, found]
      | none =>
          cases met : requirement.holds labels with
          | false =>
              have unmet : ¬ requirement.Holds labels := by simp [← LabelRequirement.holds_iff, met]
              simp [checkRequirements, found, met, unmet]
          | true =>
              have holds := LabelRequirement.holds_iff.mp met
              simp [checkRequirements, found, met, holds, inductionHypothesis]

/-- What a selector is reported for is fixed, but whether it is depends on the labels. -/
theorem selects_eq_error_iff : selector.selects labels = .error fault ↔
    selector.fault? = some fault ∧ selector.GetsThrough labels := by
  rw [selects]
  split
  · rename_i given
    have values : ∀ entry ∈ selector.matchLabels.entries, labels.get? entry.1 = some entry.2 := by
      simpa using given
    rw [checkRequirements_eq_error_iff]
    exact ⟨fun found => ⟨found.1, values, found.2⟩, fun found => ⟨found.1, found.2.earlier⟩⟩
  · rename_i missing
    simp only [reduceCtorEq, false_iff, not_and]
    intro _ through
    exact missing (by simpa using through.values)

/-- The fault that is found among some candidates is that for one of them, whichever comes first. -/
theorem selectFrom_fault_iff {candidates : List (String × Bundle)} :
    (selector.selectFrom candidates).2 = some fault ↔
      selector.fault? = some fault ∧ ∃ entry ∈ candidates, selector.GetsThrough entry.2.labels := by
  induction candidates with
  | nil => simp [selectFrom]
  | cons entry rest inductionHypothesis =>
      rcases entry with ⟨id, candidate⟩
      rw [selectFrom]
      cases answer : selector.selects candidate.labels with
      | error first =>
          obtain ⟨named, through⟩ := selects_eq_error_iff.mp answer
          constructor
          · intro same
            exact ⟨named.trans same, (id, candidate), List.mem_cons_self, through⟩
          · intro given
            exact named.symm.trans given.1
      | ok selected =>
          constructor
          · intro found
            obtain ⟨named, other, later, through⟩ := inductionHypothesis.mp found
            exact ⟨named, other, List.mem_cons_of_mem _ later, through⟩
          · rintro ⟨named, other, member, through⟩
            rcases List.mem_cons.mp member with rfl | later
            · cases answer.symm.trans (selects_eq_error_iff.mpr ⟨named, through⟩)
            · exact inductionHypothesis.mpr ⟨named, other, later, through⟩

end LabelSelector

/-- A bundle shows a fault when one of its selectors has it and gets through to it for the labels of
another cluster bundle. -/
def Bundle.ShowsFault (bundles : SortedMap Bundle) (target : String) (bundle : Bundle)
    (fault : RequirementFault) : Prop :=
  ∃ selector ∈ bundle.selectors, selector.fault? = some fault ∧
    ∃ source other, bundles.get? source = some other ∧ other.isClusterScoped = true ∧
      source ≠ target ∧ selector.GetsThrough other.labels

/-- A bundle is warned about for the faults that it shows. -/
theorem Bundle.invalidSelector_mem_iff {bundles : SortedMap Bundle} {target name : String}
    {bundle : Bundle} {fault : RequirementFault} :
    .invalidSelector name fault ∈ bundle.aggregationWarnings bundles target ↔
      bundle.name = name ∧ bundle.ShowsFault bundles target fault := by
  have others {selector : LabelSelector} :
      (∃ entry ∈ candidates bundles target, selector.GetsThrough entry.2.labels) ↔
        ∃ source other, bundles.get? source = some other ∧ other.isClusterScoped = true ∧
          source ≠ target ∧ selector.GetsThrough other.labels := by
    simp only [mem_candidates, SortedMap.get?_eq_some_iff, Prod.exists, and_assoc]
  have nothing : AggregationWarning.invalidSelector name fault ∉
      (if (bundle.selected bundles target).isEmpty then
        [AggregationWarning.nothingSelected bundle.name] else []) := by
    split <;> simp
  rw [aggregationWarnings, List.mem_append, or_iff_left nothing]
  simp only [selections, List.mem_filterMap, List.mem_map, Option.map_eq_some_iff,
    AggregationWarning.invalidSelector.injEq, exists_exists_and_eq_and,
    LabelSelector.selectFrom_fault_iff, others, ShowsFault]
  constructor
  · rintro ⟨selector, listed, _, ⟨named, shown⟩, same, rfl⟩
    exact ⟨same, selector, listed, named, shown⟩
  · rintro ⟨same, selector, listed, named, shown⟩
    exact ⟨selector, listed, fault, ⟨named, shown⟩, same, rfl⟩

namespace Aggregation

/-- Every fault that a bundle shows is reported, and no other is. A malformed selector has one fault,
which it is reported for by labels that get it through to there. -/
theorem resolve_reports_faults (bundles : SortedMap Bundle) :
    (∀ target bundle fault, bundles.get? target = some bundle →
      bundle.ShowsFault bundles target fault →
        (AggregationWarning.invalidSelector bundle.name fault).message ∈
          (resolve bundles).warnings.map AggregationWarning.message) ∧
    (∀ name fault, .invalidSelector name fault ∈ (resolve bundles).warnings →
      ∃ target bundle, bundles.get? target = some bundle ∧ bundle.name = name ∧
        bundle.ShowsFault bundles target fault) ∧
    ∀ selector : LabelSelector,
      ((∃ fault, selector.fault? = some fault) ↔
        ∃ requirement ∈ selector.matchExpressions, requirement.IsMalformed) ∧
      ∀ labels fault, selector.selects labels = .error fault ↔
        selector.fault? = some fault ∧ selector.GetsThrough labels := by
  refine ⟨?_, ?_, fun selector =>
    ⟨LabelSelector.exists_fault_iff, fun labels fault => LabelSelector.selects_eq_error_iff⟩⟩
  · intro target bundle fault known shows
    have ⟨selector, listed, _⟩ := shows
    have counts : bundle.hasAggregationRule = true := by
      simpa [Bundle.hasAggregationRule] using List.ne_nil_of_mem listed
    have warned := Bundle.invalidSelector_mem_iff.mpr ⟨rfl, shows⟩
    rw [resolve, key_mem_distinctBy]
    apply List.mem_map_of_mem
    refine List.mem_flatMap.mpr ⟨(target, bundle), List.mem_filter.mpr ⟨?_, counts⟩, warned⟩
    exact SortedMap.get?_eq_some_iff.mp known
  · intro name fault warned
    obtain ⟨⟨target, bundle⟩, member, here⟩ :=
      List.mem_flatMap.mp ((distinctBy_sublist AggregationWarning.message _).subset warned)
    obtain ⟨named, shows⟩ := Bundle.invalidSelector_mem_iff.mp here
    exact ⟨target, bundle, SortedMap.get?_eq_some_iff.mpr (List.mem_filter.mp member).1, named,
      shows⟩

/-- A selector that wants a team and asks for a tier without naming one. -/
def teamSelector : LabelSelector :=
  ⟨.ofListKeepingFirst [("team", "a")], [⟨"tier", .within, []⟩]⟩

/-- A cluster role with this selector, and another one of a team. -/
def teamBundles (team : String) : SortedMap Bundle :=
  .ofListKeepingFirst
    [("clusterrole:broken", ⟨.clusterRole, "broken", none, .empty, .empty, [],
      some ⟨[teamSelector]⟩⟩),
    ("clusterrole:plain", ⟨.clusterRole, "plain", none, .ofListKeepingFirst [("team", team)], .empty,
      [], none⟩)]

/-- The fault is reported when the other cluster role is of the wanted team. -/
theorem resolve_reports_faults_teamBundles :
    ∃ bundle, (teamBundles "a").get? "clusterrole:broken" = some bundle ∧
      bundle.ShowsFault (teamBundles "a") "clusterrole:broken" (.valueNeeded .within "tier") ∧
      (AggregationWarning.invalidSelector bundle.name (.valueNeeded .within "tier")).message ∈
        (resolve (teamBundles "a")).warnings.map AggregationWarning.message := by
  have broken : ∃ bundle, (teamBundles "a").get? "clusterrole:broken" = some bundle ∧
      bundle.selectors = [teamSelector] := by
    decide +kernel
  have plain : ∃ other, (teamBundles "a").get? "clusterrole:plain" = some other ∧
      other.isClusterScoped = true ∧ other.labels.get? "team" = some "a" := by
    decide +kernel
  have wanted : teamSelector.matchLabels.entries = [("team", "a")] := by
    decide +kernel
  obtain ⟨bundle, known, selectors⟩ := broken
  obtain ⟨other, alsoKnown, cluster, team⟩ := plain
  have through : teamSelector.GetsThrough other.labels := by
    constructor
    · rw [wanted]
      simpa using team
    · simp [teamSelector, LabelRequirement.fault?]
  have shows : bundle.ShowsFault (teamBundles "a") "clusterrole:broken"
      (.valueNeeded .within "tier") :=
    ⟨teamSelector, by simp [selectors], rfl, _, other, alsoKnown, cluster, by decide, through⟩
  exact ⟨bundle, known, shows, (resolve_reports_faults _).1 _ bundle _ known shows⟩

/-- A malformed selector is not always reported: it is overlooked when no other cluster bundle is of the
wanted team. -/
theorem resolve_overlooks_fault :
    ¬ ∀ (bundles : SortedMap Bundle) (target source : String) (bundle other : Bundle),
      bundles.get? target = some bundle → bundle.isClusterScoped = true →
      bundles.get? source = some other → other.isClusterScoped = true → source ≠ target →
      (∃ selector ∈ bundle.selectors, ∃ requirement ∈ selector.matchExpressions,
        requirement.IsMalformed) →
      ∃ fault, .invalidSelector bundle.name fault ∈ (resolve bundles).warnings := by
  intro always
  have broken : ∃ bundle, (teamBundles "b").get? "clusterrole:broken" = some bundle ∧
      bundle.isClusterScoped = true ∧ bundle.selectors = [teamSelector] := by
    decide +kernel
  have plain : ∃ other, (teamBundles "b").get? "clusterrole:plain" = some other ∧
      other.isClusterScoped = true := by
    decide +kernel
  have warnings : (resolve (teamBundles "b")).warnings = [.nothingSelected "broken"] := by
    decide +kernel
  obtain ⟨bundle, known, cluster, selectors⟩ := broken
  obtain ⟨other, alsoKnown, alsoCluster⟩ := plain
  have malformed : LabelRequirement.IsMalformed ⟨"tier", .within, []⟩ := rfl
  obtain ⟨fault, reported⟩ := always _ _ _ bundle other known cluster alsoKnown alsoCluster
    (by decide) ⟨teamSelector, by simp [selectors], _, List.mem_singleton_self _, malformed⟩
  rw [warnings] at reported
  cases List.mem_singleton.mp reported

end Aggregation

end AccessGraph
