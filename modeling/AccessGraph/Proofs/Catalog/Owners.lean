/-
This file says which of several owners is followed: a controller before the others, and then the one
whose parts come first, unless a part of one owner goes on from where that of another ends.
-/

import AccessGraph.Catalog.Workload
import Mathlib.Data.String.Basic

namespace AccessGraph

open Std (LawfulEqOrd OrientedCmp ReflCmp TransCmp)

namespace Text

/-- Neither of two texts goes on from where the other ends. -/
def Apart (first second : String) : Prop :=
  first.toList <+: second.toList ∨ second.toList <+: first.toList → first = second

instance (first second : String) : Decidable (Apart first second) :=
  inferInstanceAs (Decidable (_ → _))

theorem append_lt_append_of_lt {first second : List Char} (before : first < second)
    (stops : ¬ first <+: second) (rest others : List Char) : first ++ rest < second ++ others := by
  induction first generalizing second with
  | nil => exact absurd List.nil_prefix stops
  | cons character later inductionHypothesis =>
      cases second with
      | nil => exact absurd before (List.not_lt_nil _)
      | cons other remaining =>
          rw [List.cons_append, List.cons_append, List.cons_lt_cons_iff]
          rcases List.cons_lt_cons_iff.mp before with less | ⟨rfl, after⟩
          · exact .inl less
          · refine .inr ⟨rfl, inductionHypothesis after fun start => stops ?_⟩
            exact List.cons_prefix_cons.mpr ⟨rfl, start⟩

/-- The first of two texts that are apart comes first whatever follows them. -/
theorem Apart.append_lt {first second : String} (apart : Apart first second)
    (before : first < second) (rest others : String) : first ++ rest < second ++ others := by
  rw [String.lt_iff_toList_lt, String.toList_append, String.toList_append]
  apply append_lt_append_of_lt (String.lt_iff_toList_lt.mp before)
  intro start
  exact absurd (apart (.inl start)) before.ne

theorem append_lt_append_left (start : String) {first second : String} (before : first < second) :
    start ++ first < start ++ second := by
  rw [String.lt_iff_toList_lt] at before ⊢
  rw [String.toList_append, String.toList_append]
  exact List.append_left_lt before

end Text

namespace OwnerReference

/-- Owners by whether they control and by the text that they are compared by. -/
def keyOrder : OwnerReference → OwnerReference → Ordering :=
  compareLex (compareOn (!·.controller)) (compareOn (·.sortKey))

/-- Owners by whether they control, and then part by part. -/
def partOrder : OwnerReference → OwnerReference → Ordering :=
  compareLex (compareOn (!·.controller))
    (compareLex (compareOn (Text.lowercase ·.apiVersion))
      (compareLex (compareOn (Text.lowercase ·.kind))
        (compareLex (compareOn (Text.lowercase ·.name)) (compareOn (·.uid)))))

/-- No part of one owner but the uid goes on from where that of the other ends. -/
structure Apart (first second : OwnerReference) : Prop where
  apiVersion : Text.Apart (Text.lowercase first.apiVersion) (Text.lowercase second.apiVersion)
  kind : Text.Apart (Text.lowercase first.kind) (Text.lowercase second.kind)
  name : Text.Apart (Text.lowercase first.name) (Text.lowercase second.name)

instance (first second : OwnerReference) : Decidable (first.Apart second) :=
  decidable_of_iff
    (Text.Apart (Text.lowercase first.apiVersion) (Text.lowercase second.apiVersion) ∧
      Text.Apart (Text.lowercase first.kind) (Text.lowercase second.kind) ∧
      Text.Apart (Text.lowercase first.name) (Text.lowercase second.name))
    ⟨fun given => ⟨given.1, given.2.1, given.2.2⟩,
      fun apart => ⟨apart.apiVersion, apart.kind, apart.name⟩⟩

instance : TransCmp keyOrder := by
  unfold keyOrder
  infer_instance

instance : TransCmp partOrder := by
  unfold partOrder
  infer_instance

theorem precedes_iff {first second : OwnerReference} :
    first.precedes second = true ↔ keyOrder first second = .lt := by
  simp only [precedes, keyOrder, compareLex, compareOn, Ordering.then_eq_lt, Bool.or_eq_true,
    Bool.and_eq_true, beq_iff_eq, decide_eq_true_eq, compare_lt_iff_lt,
    LawfulEqOrd.compare_eq_iff_eq]
  cases first.controller <;> cases second.controller <;> simp

/-- Whoever is not preceded comes no later. -/
theorem isLE_iff_not_precedes {first second : OwnerReference} :
    (keyOrder first second).isLE = true ↔ second.precedes first = false := by
  rw [← Bool.not_eq_true, precedes_iff, ← OrientedCmp.gt_iff_lt]
  cases keyOrder first second <;> simp

/-- The owner that is left of two comes no later than either. -/
theorem isLE_left_of_two (owner next : OwnerReference) :
    (keyOrder (if next.precedes owner then next else owner) owner).isLE = true ∧
      (keyOrder (if next.precedes owner then next else owner) next).isLE = true := by
  cases before : next.precedes owner with
  | true => exact ⟨by simp [precedes_iff.mp before], ReflCmp.isLE_rfl⟩
  | false => exact ⟨ReflCmp.isLE_rfl, isLE_iff_not_precedes.mpr before⟩

/-- The owner that is left of several is one of them, and comes no later than any. -/
theorem foldl_isFirst (owner : OwnerReference) (rest : List OwnerReference) :
    rest.foldl (fun best next => if next.precedes best then next else best) owner ∈ owner :: rest ∧
      ∀ other ∈ owner :: rest,
        (keyOrder (rest.foldl (fun best next => if next.precedes best then next else best) owner)
          other).isLE = true := by
  induction rest generalizing owner with
  | nil =>
      refine ⟨List.mem_singleton_self owner, ?_⟩
      intro other member
      rw [List.mem_singleton.mp member]
      exact ReflCmp.isLE_rfl
  | cons next rest inductionHypothesis =>
      rw [List.foldl_cons]
      obtain ⟨member, first⟩ := inductionHypothesis (if next.precedes owner then next else owner)
      obtain ⟨beforeOwner, beforeNext⟩ := isLE_left_of_two owner next
      have atFirst := first _ List.mem_cons_self
      constructor
      · rcases List.mem_cons.mp member with same | later
        · rw [same]
          split <;> simp
        · exact List.mem_cons_of_mem _ (List.mem_cons_of_mem _ later)
      · intro other present
        rcases List.mem_cons.mp present with rfl | present
        · exact TransCmp.isLE_trans atFirst beforeOwner
        · rcases List.mem_cons.mp present with rfl | later
          · exact TransCmp.isLE_trans atFirst beforeNext
          · exact first other (List.mem_cons_of_mem _ later)

/-- Owners whose parts are apart are compared part by part. -/
theorem precedes_of_partOrder {first second : OwnerReference} (apart : first.Apart second)
    (before : partOrder first second = .lt) : first.precedes second = true := by
  rw [precedes_iff]
  simp only [partOrder, keyOrder, compareLex, compareOn, Ordering.then_eq_lt, compare_lt_iff_lt,
    LawfulEqOrd.compare_eq_iff_eq] at before ⊢
  refine before.imp_right fun given => ⟨given.1, ?_⟩
  simp only [sortKey, String.append_assoc]
  rcases given.2 with version | ⟨sameVersion, kind | ⟨sameKind, name | ⟨sameName, uid⟩⟩⟩
  · exact apart.apiVersion.append_lt version _ _
  · rw [sameVersion]
    apply Text.append_lt_append_left
    apply Text.append_lt_append_left
    exact apart.kind.append_lt kind _ _
  · rw [sameVersion, sameKind]
    iterate 4 apply Text.append_lt_append_left
    exact apart.name.append_lt name _ _
  · rw [sameVersion, sameKind, sameName]
    iterate 6 apply Text.append_lt_append_left
    exact uid

/-- Of several owners the one that is followed comes first by its text, and also part by part if the
parts of all are apart. -/
theorem choose_isFirst {owners : List OwnerReference} (given : owners ≠ []) :
    ∃ chosen ∈ owners, choose owners = some chosen ∧
      (∀ other ∈ owners, (keyOrder chosen other).isLE = true) ∧
      ((∀ first ∈ owners, ∀ second ∈ owners, first.Apart second) →
        ∀ other ∈ owners, (partOrder chosen other).isLE = true) := by
  cases owners with
  | nil => exact absurd rfl given
  | cons owner rest =>
      obtain ⟨member, first⟩ := foldl_isFirst owner rest
      refine ⟨_, member, rfl, first, ?_⟩
      intro apart other present
      cases order : partOrder (rest.foldl _ owner) other with
      | lt => rfl
      | eq => rfl
      | gt =>
          have before := precedes_of_partOrder (apart other present _ member)
            (OrientedCmp.gt_iff_lt.mp order)
          rw [isLE_iff_not_precedes.mp (first other present)] at before
          exact absurd before Bool.false_ne_true

/-- Jobs whose versions are apart, and the last of them controls. -/
def nightlyJobs : List OwnerReference :=
  [⟨"1", "Job", "day", "v1", false⟩, ⟨"2", "Job", "eve", "v2", false⟩,
    ⟨"3", "Job", "night", "v3", true⟩]

/-- Of these jobs the controller is followed, though the others come first by their parts. -/
theorem choose_isFirst_nightlyJobs : nightlyJobs ≠ [] ∧
    ∃ chosen ∈ nightlyJobs, choose nightlyJobs = some chosen ∧
      (∀ other ∈ nightlyJobs, (partOrder chosen other).isLE = true) ∧ chosen.controller = true := by
  have given : nightlyJobs ≠ [] := List.cons_ne_nil _ _
  have apart : ∀ first ∈ nightlyJobs, ∀ second ∈ nightlyJobs, first.Apart second := by
    decide +kernel
  obtain ⟨chosen, member, found, -, byParts⟩ := choose_isFirst given
  refine ⟨given, chosen, member, found, byParts apart, ?_⟩
  have control : ∀ other ∈ nightlyJobs, choose nightlyJobs = some other →
      other.controller = true := by
    decide +kernel
  exact control chosen member found

/-- Of two owners alike in control, one with a version that goes on from that of the other is
followed, as long as it goes on with a character below the bar. -/
theorem precedes_of_longer_version {first second : OwnerReference}
    (sameControl : first.controller = second.controller) {character : Char} {rest : List Char}
    (longer : (Text.lowercase first.apiVersion).toList =
      (Text.lowercase second.apiVersion).toList ++ character :: rest)
    (lower : character < '|') : first.precedes second = true := by
  have bar : "|".toList = ['|'] := by decide
  have before : first.sortKey < second.sortKey := by
    rw [String.lt_iff_toList_lt]
    simp only [sortKey, String.toList_append, longer, bar, List.append_assoc, List.cons_append]
    apply List.append_left_lt
    exact List.cons_lt_cons_iff.mpr (.inl lower)
  simp [precedes, sameControl, before]

/-- A job of the stable version owns a pod, and so does one of the beta version. -/
def stableJob : OwnerReference :=
  ⟨"1", "Job", "work", "v1", false⟩

def betaJob : OwnerReference :=
  ⟨"2", "Job", "work", "v1beta1", false⟩

/-- The owner that comes first part by part is not always followed. -/
theorem choose_not_first_by_parts :
    ¬ ∀ owners : List OwnerReference, owners ≠ [] →
      ∃ chosen ∈ owners, choose owners = some chosen ∧
        ∀ other ∈ owners, (partOrder chosen other).isLE = true := by
  intro always
  obtain ⟨chosen, -, found, first⟩ := always [stableJob, betaJob] (List.cons_ne_nil _ _)
  have longer : (Text.lowercase betaJob.apiVersion).toList =
      (Text.lowercase stableJob.apiVersion).toList ++ 'b' :: ['e', 't', 'a', '1'] := by
    decide +kernel
  have followed : betaJob.precedes stableJob = true :=
    precedes_of_longer_version rfl longer (by decide)
  have same : chosen = betaJob := by
    rw [choose, List.foldl_cons, List.foldl_nil, if_pos followed] at found
    exact (Option.some.inj found).symm
  have wrong := first stableJob List.mem_cons_self
  rw [same] at wrong
  exact absurd wrong (by decide +kernel)

end OwnerReference

end AccessGraph
