/-
This file says what the order of a list does not matter for: a search by keys that differ, sorting,
and how many different elements there are.
-/

import AccessGraph.Distinct
import AccessGraph.Proofs.Sorting
import Mathlib.Data.List.Nodup
import Mathlib.Data.List.Perm.Basic

namespace AccessGraph

open Std

section

variable {α κ : Type} [BEq κ] [LawfulBEq κ] {key : α → κ}

theorem key_of_find? {elements : List α} {wanted : κ} {element : α}
    (found : elements.find? (key · == wanted) = some element) : key element = wanted := by
  have named := List.find?_some found
  simpa using named

/-- Where keys differ, a search by key finds every element. -/
theorem find?_key_eq_some_iff {elements : List α} (differ : (elements.map key).Nodup) {wanted : κ}
    {element : α} :
    elements.find? (key · == wanted) = some element ↔
      element ∈ elements ∧ key element = wanted := by
  constructor
  · intro found
    exact ⟨List.mem_of_find?_eq_some found, key_of_find? found⟩
  · intro given
    obtain ⟨present, named⟩ := given
    have known : (elements.find? (key · == wanted)).isSome = true :=
      List.find?_isSome.mpr ⟨element, present, beq_iff_eq.mpr named⟩
    obtain ⟨other, found⟩ := Option.isSome_iff_exists.mp known
    have same : key other = key element := (key_of_find? found).trans named.symm
    rw [found, List.inj_on_of_nodup_map differ (List.mem_of_find?_eq_some found) present same]

/-- Where keys differ, a search by key finds the same in every order. -/
theorem find?_key_eq_of_perm {first second : List α} (differ : (first.map key).Nodup)
    (perm : first.Perm second) (wanted : κ) :
    first.find? (key · == wanted) = second.find? (key · == wanted) := by
  have alsoDiffer : (second.map key).Nodup := (perm.map key).nodup_iff.mp differ
  ext element
  rw [find?_key_eq_some_iff differ, find?_key_eq_some_iff alsoDiffer, perm.mem_iff]

end

section

variable {α : Type} {order : α → α → Ordering} [TransCmp order]

/-- Elements of which no two are equal in order are sorted alike whatever order they come in. -/
theorem mergeSort_eq_of_perm {first second : List α}
    (strict : ∀ element ∈ first, ∀ other ∈ first, order element other = .eq → element = other)
    (perm : first.Perm second) :
    (first.mergeSort fun element other => (order element other).isLE) =
      second.mergeSort fun element other => (order element other).isLE := by
  have sorted : (first.mergeSort fun element other => (order element other).isLE).Perm
      (second.mergeSort fun element other => (order element other).isLE) :=
    (List.mergeSort_perm first _).trans (perm.trans (List.mergeSort_perm second _).symm)
  refine List.Perm.eq_of_pairwise ?_ (mergeSort_sorted first) (mergeSort_sorted second) sorted
  intro element other member alsoMember notAfter notBefore
  have present : element ∈ first := List.mem_mergeSort.mp member
  have alsoPresent : other ∈ first := perm.mem_iff.mpr (List.mem_mergeSort.mp alsoMember)
  exact strict element present other alsoPresent (OrientedCmp.isLE_antisymm notAfter notBefore)

/-- What is kept of sorted elements is the same as what is kept and then sorted. -/
theorem filter_mergeSort {elements : List α}
    (strict : ∀ element ∈ elements, ∀ other ∈ elements, order element other = .eq → element = other)
    (keep : α → Bool) :
    (elements.mergeSort fun element other => (order element other).isLE).filter keep =
      (elements.filter keep).mergeSort fun element other => (order element other).isLE := by
  have sorted : ((elements.mergeSort fun element other => (order element other).isLE).filter
      keep).Pairwise fun element other => (order element other).isLE = true :=
    (mergeSort_sorted elements).filter keep
  rw [← List.mergeSort_of_pairwise sorted]
  refine mergeSort_eq_of_perm ?_ ((List.mergeSort_perm elements _).filter keep)
  intro element member other alsoMember
  exact strict element (List.mem_mergeSort.mp (List.mem_of_mem_filter member)) other
    (List.mem_mergeSort.mp (List.mem_of_mem_filter alsoMember))

end

/-- What is kept stays the same in every order if no two different elements are kept. -/
theorem filter_eq_of_perm {α : Type} {keep : α → Bool} {first second : List α}
    (single : ∀ element ∈ first, ∀ other ∈ first, keep element = true → keep other = true →
      element = other) (perm : first.Perm second) : first.filter keep = second.filter keep := by
  have anyOrder (elements : List α) : elements.Pairwise fun _ _ => True :=
    List.pairwise_of_forall fun _ _ => trivial
  refine List.Perm.eq_of_pairwise ?_ (anyOrder _) (anyOrder _) (perm.filter keep)
  intro element other member alsoMember _ _
  obtain ⟨present, kept⟩ := List.mem_filter.mp member
  obtain ⟨alsoPresent, alsoKept⟩ := List.mem_filter.mp alsoMember
  exact single element present other (perm.mem_iff.mpr alsoPresent) kept alsoKept

/-- What is arranged of kept and dropped elements falls apart into both again. -/
theorem filter_perm_of_append {α : Type} {keep : α → Bool} {elements kept dropped : List α}
    (perm : elements.Perm (kept ++ dropped)) (keeps : ∀ element ∈ kept, keep element = true)
    (drops : ∀ element ∈ dropped, keep element = false) :
    (elements.filter keep).Perm kept ∧ (elements.filter (!keep ·)).Perm dropped := by
  constructor
  · refine (perm.filter keep).trans (.of_eq ?_)
    have none : dropped.filter keep = [] :=
      List.filter_eq_nil_iff.mpr fun element member => by simp [drops element member]
    rw [List.filter_append, none, List.append_nil, List.filter_eq_self]
    exact keeps
  · refine (perm.filter (!keep ·)).trans (.of_eq ?_)
    have none : kept.filter (!keep ·) = [] :=
      List.filter_eq_nil_iff.mpr fun element member => by simp [keeps element member]
    rw [List.filter_append, none, List.nil_append, List.filter_eq_self]
    intro element member
    rw [drops element member]
    rfl

theorem exists_of_forall₂ {α β : Type} {R : α → β → Prop} {first : List α} {second : List β}
    (related : List.Forall₂ R first second) {element : β} (listed : element ∈ second) :
    ∃ other ∈ first, R other element := by
  induction related with
  | nil => cases listed
  | cons fits _ inductionHypothesis =>
      rcases List.mem_cons.mp listed with rfl | later
      · exact ⟨_, List.mem_cons_self, fits⟩
      · obtain ⟨other, found, fits⟩ := inductionHypothesis later
        exact ⟨other, List.mem_cons_of_mem _ found, fits⟩

/-- Elements can be arranged before something is made of each. -/
theorem exists_of_perm_map {α β : Type} {f : α → β} {first : List β} {second : List α}
    (perm : first.Perm (second.map f)) :
    ∃ others : List α, others.Perm second ∧ first = others.map f := by
  have composed : Relation.Comp (· = List.map f ·) List.Perm first second := by
    rw [List.eq_map_comp_perm]
    exact perm
  obtain ⟨others, made, arranged⟩ := composed
  exact ⟨others, arranged, made⟩

theorem length_distinct_le_of_subset {α : Type} [BEq α] [LawfulBEq α] {first second : List α}
    (within : first ⊆ second) : (distinct first).length ≤ (distinct second).length := by
  apply (distinct_nodup first).length_le_of_subset
  intro element member
  exact mem_distinct.mpr (within (mem_distinct.mp member))

/-- Whoever brings more for each of some elements brings no fewer different ones in all. -/
theorem length_distinct_flatMap_le {α β : Type} [BEq β] [LawfulBEq β] {first second : List α}
    {bring : α → List β}
    (each : ∀ small ∈ first, ∃ large ∈ second, bring small ⊆ bring large) :
    (distinct (first.flatMap bring)).length ≤ (distinct (second.flatMap bring)).length := by
  apply length_distinct_le_of_subset
  intro element member
  obtain ⟨small, listed, brought⟩ := List.mem_flatMap.mp member
  obtain ⟨large, present, within⟩ := each small listed
  exact List.mem_flatMap.mpr ⟨large, present, within brought⟩

end AccessGraph
