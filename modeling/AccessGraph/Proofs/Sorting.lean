/-
This file says that elements that differ are sorted into strict order.
-/

namespace AccessGraph

open Std

variable {α : Type} {order : α → α → Ordering}

theorem mergeSort_sorted [TransCmp order] (elements : List α) :
    (elements.mergeSort fun first second => (order first second).isLE).Pairwise
      fun first second => (order first second).isLE = true := by
  apply List.pairwise_mergeSort
  · intro first second third
    exact TransCmp.isLE_trans
  · intro first second
    have mirrored : order second first = (order first second).swap := OrientedCmp.eq_swap
    rw [mirrored]
    cases order first second <;> rfl

/-- Elements of which no two different ones are equal in order stand in strict order once they are
sorted. -/
theorem mergeSort_ascending_of_strict [TransCmp order] {elements : List α}
    (strict : ∀ element ∈ elements, ∀ other ∈ elements, order element other = .eq → element = other)
    (differ : elements.Nodup) :
    (elements.mergeSort fun first second => (order first second).isLE).Pairwise
      fun first second => order first second = .lt := by
  have stillDiffer : (elements.mergeSort fun first second => (order first second).isLE).Nodup :=
    (List.mergeSort_perm elements _).nodup_iff.mpr differ
  refine ((mergeSort_sorted elements).and stillDiffer).imp_of_mem ?_
  intro first second present alsoPresent given
  obtain ⟨notAfter, different⟩ := given
  rw [List.mem_mergeSort] at present alsoPresent
  cases outcome : order first second with
  | lt => rfl
  | eq => exact absurd (strict first present second alsoPresent outcome) different
  | gt => simp [outcome] at notAfter

theorem mergeSort_ascending [TransCmp order] [LawfulEqCmp order] {elements : List α}
    (differ : elements.Nodup) :
    (elements.mergeSort fun first second => (order first second).isLE).Pairwise
      fun first second => order first second = .lt :=
  mergeSort_ascending_of_strict (fun _ _ _ _ => LawfulEqCmp.eq_of_compare) differ

end AccessGraph
