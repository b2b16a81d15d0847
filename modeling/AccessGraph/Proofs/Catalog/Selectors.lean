/-
This file says which label sets a selector selects, whatever the order of its requirements: those
that meet all of them, provided that none is malformed.
-/

import AccessGraph.Catalog.LabelSelector

namespace AccessGraph

namespace LabelRequirement

/-- An operator on a list of values has none, or an operator on presence has some. -/
def IsMalformed (requirement : LabelRequirement) : Prop :=
  match requirement.operator with
  | .within | .notWithin => requirement.values = []
  | .present | .missing => requirement.values ≠ []

/-- The label has one of the values, or none of them, or any value, or no value. -/
def Holds (requirement : LabelRequirement) (labels : Labels) : Prop :=
  match requirement.operator with
  | .within => ∃ value ∈ requirement.values, labels.get? requirement.key = some value
  | .notWithin => ∀ value ∈ requirement.values, labels.get? requirement.key ≠ some value
  | .present => ∃ value, labels.get? requirement.key = some value
  | .missing => labels.get? requirement.key = none

variable {requirement : LabelRequirement} {labels : Labels}

theorem fault?_eq_none_iff : requirement.fault? = none ↔ ¬ requirement.IsMalformed := by
  rcases requirement with ⟨key, operator, values⟩
  cases operator <;> cases values <;> simp [fault?, IsMalformed]

theorem holds_iff : requirement.holds labels = true ↔ requirement.Holds labels := by
  rcases requirement with ⟨key, operator, values⟩
  unfold holds Holds
  cases labels.get? key <;> cases operator <;> simp [List.forall_mem_ne]

end LabelRequirement

namespace LabelSelector

/-- No requirement is malformed, and the labels meet them all and have all wanted values. -/
structure Matches (selector : LabelSelector) (labels : Labels) : Prop where
  wellFormed : ∀ requirement ∈ selector.matchExpressions, ¬ requirement.IsMalformed
  values : ∀ entry ∈ selector.matchLabels.entries, labels.get? entry.1 = some entry.2
  requirements : ∀ requirement ∈ selector.matchExpressions, requirement.Holds labels

variable {selector : LabelSelector} {labels : Labels}

theorem checkRequirements_eq_ok_true_iff {requirements : List LabelRequirement} :
    checkRequirements labels requirements = .ok true ↔
      ∀ requirement ∈ requirements, ¬ requirement.IsMalformed ∧ requirement.Holds labels := by
  induction requirements with
  | nil => simp [checkRequirements]
  | cons requirement rest inductionHypothesis =>
      rw [checkRequirements, List.forall_mem_cons, ← LabelRequirement.fault?_eq_none_iff,
        ← LabelRequirement.holds_iff, ← inductionHypothesis]
      cases requirement.fault? with
      | some fault => simp
      | none => cases requirement.holds labels <;> simp

/-- Whoever finds a requirement malformed has come upon one that is. -/
theorem exists_isMalformed_of_error {requirements : List LabelRequirement}
    {fault : RequirementFault} (refused : checkRequirements labels requirements = .error fault) :
    ∃ requirement ∈ requirements, requirement.IsMalformed := by
  induction requirements with
  | nil => simp [checkRequirements] at refused
  | cons requirement rest inductionHypothesis =>
      by_cases malformed : requirement.IsMalformed
      · exact ⟨requirement, List.mem_cons_self, malformed⟩
      · rw [checkRequirements, LabelRequirement.fault?_eq_none_iff.mpr malformed] at refused
        cases met : requirement.holds labels with
        | false => simp [met] at refused
        | true =>
            simp only [met, if_true] at refused
            obtain ⟨other, member, found⟩ := inductionHypothesis refused
            exact ⟨other, List.mem_cons_of_mem _ member, found⟩

theorem selects_eq_ok_true_iff : selector.selects labels = .ok true ↔ selector.Matches labels := by
  have opened : selector.selects labels = .ok true ↔
      (∀ entry ∈ selector.matchLabels.entries, labels.get? entry.1 = some entry.2) ∧
        checkRequirements labels selector.matchExpressions = .ok true := by
    have found : (selector.matchLabels.entries.all fun entry =>
        labels.get? entry.1 == some entry.2) = true ↔
          ∀ entry ∈ selector.matchLabels.entries, labels.get? entry.1 = some entry.2 := by
      simp
    rw [selects, ← found]
    split
    · rename_i values
      simp [values]
    · rename_i values
      simp [values]
  rw [opened, checkRequirements_eq_ok_true_iff]
  constructor
  · intro given
    obtain ⟨values, each⟩ := given
    exact ⟨fun requirement member => (each requirement member).1, values,
      fun requirement member => (each requirement member).2⟩
  · intro given
    exact ⟨given.values, fun requirement member =>
      ⟨given.wellFormed requirement member, given.requirements requirement member⟩⟩

/-- A selector that is found malformed selects nothing at all. -/
theorem not_matches_of_error {fault : RequirementFault}
    (refused : selector.selects labels = .error fault) (others : Labels) :
    ¬ selector.Matches others := by
  intro given
  unfold selects at refused
  split at refused
  · obtain ⟨requirement, member, malformed⟩ := exists_isMalformed_of_error refused
    exact given.wellFormed requirement member malformed
  · cases refused

end LabelSelector

end AccessGraph
