/-
This file says that a list in strict order is known by its members.
-/

namespace AccessGraph

theorem eq_of_mem_of_pairwise {α : Type} {before : α → α → Prop} {first second : List α}
    (asymmetric : ∀ element other, before element other → ¬ before other element)
    (sorted : first.Pairwise before) (alsoSorted : second.Pairwise before)
    (same : ∀ element, element ∈ first ↔ element ∈ second) : first = second := by
  induction first generalizing second with
  | nil =>
      exact (List.eq_nil_iff_forall_not_mem.mpr fun element => by simpa using same element).symm
  | cons head rest inductionHypothesis =>
      cases second with
      | nil => simpa using same head
      | cons other others =>
          obtain ⟨below, restSorted⟩ := List.pairwise_cons.mp sorted
          obtain ⟨alsoBelow, othersSorted⟩ := List.pairwise_cons.mp alsoSorted
          have heads : head = other := by
            rcases List.mem_cons.mp ((same head).mp List.mem_cons_self) with equal | later
            · exact equal
            · rcases List.mem_cons.mp ((same other).mpr List.mem_cons_self) with equal | further
              · exact equal.symm
              · exact absurd (alsoBelow head later) (asymmetric _ _ (below other further))
          subst heads
          refine congrArg (head :: ·) (inductionHypothesis restSorted othersSorted fun element => ?_)
          have agree := same element
          rw [List.mem_cons, List.mem_cons] at agree
          refine ⟨fun here => ?_, fun there => ?_⟩
          · refine (agree.mp (.inr here)).resolve_left fun equal => ?_
            have again := below element here
            rw [equal] at again
            exact asymmetric _ _ again again
          · refine (agree.mpr (.inr there)).resolve_left fun equal => ?_
            have again := alsoBelow element there
            rw [equal] at again
            exact asymmetric _ _ again again

end AccessGraph
