/-
This file says what the order of a catalog does not matter for: which bundles, pods and workloads are
looked up, and, but for the order of the bindings and of their subjects, which bindings.
-/

import AccessGraph.Proofs.Catalog.Lookup
import AccessGraph.Proofs.Permutation
import Mathlib.Data.List.Forall2

namespace AccessGraph

open Std

/-- Pods are told apart by their namespace, name and uid. -/
def Pod.key (pod : Pod) : String × String × String :=
  (pod.namespaceName, pod.name, pod.uid)

/-- Bundles, pods and workloads can be told apart. -/
structure Catalog.HasDistinctKeys (catalog : Catalog) : Prop where
  bundles : (catalog.bundles.map (·.id)).Nodup
  pods : (catalog.pods.map Pod.key).Nodup
  workloads : (catalog.workloads.map (·.uid)).Nodup

/-- A catalog holds the same bundles, pods and workloads in another order, and the same bindings. -/
structure Catalog.Permutes (first second : Catalog) : Prop where
  bundles : first.bundles.Perm second.bundles
  pods : first.pods.Perm second.pods
  workloads : first.workloads.Perm second.workloads
  bindings : first.bindings = second.bindings

/-- A binding names the same subjects in another order. -/
structure Binding.Reorders (first second : Binding) : Prop where
  subjects : first.subjects.Perm second.subjects
  others : { first with subjects := second.subjects } = second

/-- A catalog holds the same bundles, pods, workloads and bindings in another order, and the bindings
name their subjects in another order. -/
structure Catalog.Rearranges (first second : Catalog) : Prop where
  bundles : first.bundles.Perm second.bundles
  pods : first.pods.Perm second.pods
  workloads : first.workloads.Perm second.workloads
  bindings : ∃ between, List.Forall₂ Binding.Reorders first.bindings between ∧
    between.Perm second.bindings

namespace Binding

theorem Reorders.symm {first second : Binding} (reorders : first.Reorders second) :
    second.Reorders first where
  subjects := reorders.subjects.symm
  others := by
    rw [← reorders.others]

/-- What is said of a binding without its subjects is the same. -/
theorem Reorders.unchanged {α : Type} {first second : Binding} (reorders : first.Reorders second)
    (field : Binding → α)
    (ignores : ∀ binding subjects, field { binding with subjects := subjects } = field binding) :
    field second = field first := by
  rw [← reorders.others, ignores]

/-- Every binding of a list stands in another one, if perhaps with its subjects in another order. -/
def FoundIn (first second : List Binding) : Prop :=
  ∀ binding ∈ first, ∃ other ∈ second, binding.Reorders other

theorem foundIn_of_forall₂ {first second : List Binding}
    (related : List.Forall₂ Reorders first second) : FoundIn first second :=
  fun _ member => exists_of_forall₂ related.flip member

/-- Bindings in another order are all found, and so are they when they are looked for from there. -/
theorem foundIn_of_rearranged {first second between : List Binding}
    (related : List.Forall₂ Reorders first between) (perm : between.Perm second) :
    FoundIn first second ∧ FoundIn second first := by
  constructor
  · intro binding member
    obtain ⟨other, found, reorders⟩ := foundIn_of_forall₂ related binding member
    exact ⟨other, perm.mem_iff.mp found, reorders⟩
  · intro binding member
    have mirrored : List.Forall₂ Reorders between first :=
      List.Forall₂.flip (related.imp fun _ _ reorders => reorders.symm)
    exact foundIn_of_forall₂ mirrored binding (perm.mem_iff.mpr member)

theorem FoundIn.filter {first second : List Binding} (found : FoundIn first second)
    {keep : Binding → Bool}
    (stable : ∀ binding other, binding.Reorders other → keep other = keep binding) :
    FoundIn (first.filter keep) (second.filter keep) := by
  intro binding member
  obtain ⟨present, kept⟩ := List.mem_filter.mp member
  obtain ⟨other, alsoPresent, reorders⟩ := found binding present
  exact ⟨other, List.mem_filter.mpr ⟨alsoPresent, (stable _ _ reorders).trans kept⟩, reorders⟩

theorem FoundIn.ids_subset {first second : List Binding} (found : FoundIn first second) :
    first.map (·.id) ⊆ second.map (·.id) := by
  intro id member
  obtain ⟨binding, present, rfl⟩ := List.mem_map.mp member
  obtain ⟨other, alsoPresent, reorders⟩ := found binding present
  exact List.mem_map.mpr ⟨other, alsoPresent, reorders.unchanged Binding.id fun _ _ => rfl⟩

end Binding

namespace CatalogIndex

/-- Where ids differ, the order of the bundles does not matter. -/
theorem bundlesById_eq_of_perm {first second : List Bundle}
    (differ : (first.map (·.id)).Nodup) (perm : first.Perm second) :
    bundlesById first = bundlesById second := by
  apply SortedMap.eq_of_get?
  intro id
  rw [bundlesById, bundlesById, SortedMap.get?_ofListKeepingFirst,
    SortedMap.get?_ofListKeepingFirst, SortedMap.lookup_map_eq_find?,
    SortedMap.lookup_map_eq_find?]
  exact find?_key_eq_of_perm differ perm id

theorem duplicates_eq_nil {passed : List String} {bundles : List Bundle}
    (differ : (bundles.map (·.id)).Nodup) (fresh : ∀ bundle ∈ bundles, bundle.id ∉ passed) :
    duplicates passed bundles = [] := by
  induction bundles generalizing passed with
  | nil => rfl
  | cons bundle rest inductionHypothesis =>
      obtain ⟨absent, restDiffer⟩ := List.nodup_cons.mp differ
      obtain ⟨new, restFresh⟩ := List.forall_mem_cons.mp fresh
      rw [duplicates, if_neg (by rwa [List.contains_iff_mem])]
      apply inductionHypothesis restDiffer
      intro other member known
      rcases List.mem_cons.mp known with same | before
      · exact absent (List.mem_map.mpr ⟨other, member, same⟩)
      · exact restFresh other member before

/-- Whether a binding grants a bundle of the catalog does not depend on its subjects. -/
theorem unresolved?_of_reorders {first second : Binding} (reorders : first.Reorders second)
    (bundles : SortedMap Bundle) : unresolved? bundles second = unresolved? bundles first := by
  unfold unresolved? resolve
  rw [reorders.unchanged Binding.bundleId? fun _ _ => rfl,
    reorders.unchanged Binding.id fun _ _ => rfl,
    reorders.unchanged Binding.roleRef fun _ _ => rfl]
  cases first.bundleId? with
  | none => rfl
  | some id =>
      dsimp only
      cases bundles.contains id <;> rfl

instance : TransCmp podOrder := by
  unfold podOrder
  infer_instance

/-- Pods of which none comes first have one key. -/
theorem key_eq_of_podOrder {first second : Pod} (same : podOrder first second = .eq) :
    first.key = second.key := by
  simp only [podOrder, compareLex_eq_eq, compareOn, LawfulEqOrd.compare_eq_iff_eq] at same
  obtain ⟨space, name, uid⟩ := same
  rw [Pod.key, space, name, uid, Pod.key]

section

variable {first second : CatalogIndex}

theorem podsFor_eq_of_perm (differ : (first.pods.map Pod.key).Nodup)
    (perm : first.pods.Perm second.pods) : first.podsFor = second.podsFor := by
  funext space account
  refine mergeSort_eq_of_perm ?_ (perm.filter _)
  intro pod member other alsoMember same
  exact List.inj_on_of_nodup_map differ (List.mem_of_mem_filter member)
    (List.mem_of_mem_filter alsoMember) (key_eq_of_podOrder same)

theorem workload?_eq_of_perm (differ : (first.workloads.map (·.uid)).Nodup)
    (perm : first.workloads.Perm second.workloads) : first.workload? = second.workload? := by
  funext uid
  exact find?_key_eq_of_perm differ perm uid

end

end CatalogIndex

namespace Catalog

variable {first second : Catalog}

/-- The same bundles and bindings count, whatever order the catalog has. -/
theorem Permutes.index_eq (permutes : first.Permutes second) (keys : first.HasDistinctKeys) :
    CatalogIndex.of second = { CatalogIndex.of first with
      pods := (CatalogIndex.of second).pods
      workloads := (CatalogIndex.of second).workloads } := by
  have bundles := CatalogIndex.bundlesById_eq_of_perm keys.bundles permutes.bundles
  unfold CatalogIndex.of
  rw [← permutes.bindings, ← bundles]

theorem Permutes.podsFor (permutes : first.Permutes second) (keys : first.HasDistinctKeys) :
    (CatalogIndex.of second).podsFor = (CatalogIndex.of first).podsFor := by
  have same : (CatalogIndex.of first).podsFor = (CatalogIndex.of second).podsFor :=
    CatalogIndex.podsFor_eq_of_perm keys.pods permutes.pods
  exact same.symm

theorem Permutes.workload? (permutes : first.Permutes second) (keys : first.HasDistinctKeys) :
    (CatalogIndex.of second).workload? = (CatalogIndex.of first).workload? := by
  have differ : ((CatalogIndex.of first).workloads.map (·.uid)).Nodup :=
    keys.workloads.sublist (List.filter_sublist.map _)
  have perm : (CatalogIndex.of first).workloads.Perm (CatalogIndex.of second).workloads :=
    permutes.workloads.filter _
  exact (CatalogIndex.workload?_eq_of_perm differ perm).symm

/-- At most one workload lacks a uid, and no bundle is a duplicate. -/
theorem Permutes.warnings (permutes : first.Permutes second) (keys : first.HasDistinctKeys) :
    CatalogIndex.warnings second = CatalogIndex.warnings first := by
  have alsoDiffer : (second.bundles.map (·.id)).Nodup :=
    (permutes.bundles.map _).nodup_iff.mp keys.bundles
  have workloads : second.workloads.filter (·.uid.isEmpty) =
      first.workloads.filter (·.uid.isEmpty) := by
    refine (filter_eq_of_perm ?_ permutes.workloads).symm
    intro workload member other alsoMember empty alsoEmpty
    rw [String.isEmpty_iff] at empty alsoEmpty
    exact List.inj_on_of_nodup_map keys.workloads member alsoMember (empty.trans alsoEmpty.symm)
  rw [CatalogIndex.warnings, CatalogIndex.warnings, workloads, ← permutes.bindings,
    ← CatalogIndex.bundlesById_eq_of_perm keys.bundles permutes.bundles,
    CatalogIndex.duplicates_eq_nil keys.bundles (by simp),
    CatalogIndex.duplicates_eq_nil alsoDiffer (by simp)]

/-- The bindings of a bundle are found in every catalog with the same bindings. -/
theorem foundIn_bindingsFor {catalog : Catalog} {bindings : List Binding}
    (found : Binding.FoundIn catalog.bindings bindings) (id : String) :
    Binding.FoundIn ((CatalogIndex.of catalog).bindingsFor id)
      ((CatalogIndex.of { catalog with bindings := bindings }).bindingsFor id) := by
  rw [CatalogIndex.bindingsFor_of, CatalogIndex.bindingsFor_of]
  refine found.filter ?_
  intro binding other reorders
  rw [reorders.unchanged Binding.bundleId? fun _ _ => rfl]

/-- What is said of a catalog does not depend on the order of its bindings and their subjects. -/
theorem warnings_subset {catalog : Catalog} {bindings : List Binding}
    (found : Binding.FoundIn catalog.bindings bindings) :
    CatalogIndex.warnings catalog ⊆
      CatalogIndex.warnings { catalog with bindings := bindings } := by
  intro warning member
  simp only [CatalogIndex.warnings, List.mem_append, List.mem_filterMap] at member ⊢
  rcases member with (duplicate | ⟨binding, present, unresolved⟩) | noUid
  · exact .inl (.inl duplicate)
  · obtain ⟨other, alsoPresent, reorders⟩ := found binding present
    refine .inl (.inr ⟨other, alsoPresent, ?_⟩)
    exact (CatalogIndex.unresolved?_of_reorders reorders _).trans unresolved
  · exact .inr noUid

end Catalog

end AccessGraph
