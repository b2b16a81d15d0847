/-
This file says which bundles are shown as the sources of a bundle: those that it selects and that
do not take over its rules themselves. Among what is shown there is no circle.
-/

import AccessGraph.Proofs.Aggregation.Closure

namespace AccessGraph

open Relation

namespace Aggregation

variable {bundles : SortedMap Bundle}

/-- A bundle takes over those that some selections, one at least, lead to. -/
theorem takesOver_iff {target source : String} :
    takesOver (selections bundles) (closures bundles) target source = true ↔
      TransGen (Selects bundles) target source := by
  rw [takesOver, List.any_eq_true, get?_closures, TransGen.tail'_iff]
  cases found : (selections bundles).get? target with
  | none =>
      constructor
      · intro given
        obtain ⟨between, member, -⟩ := given
        cases member
      · intro given
        obtain ⟨between, reaches, selects⟩ := given
        rw [eq_of_reaches_of_plain found reaches] at selects
        obtain ⟨ids, aggregated⟩ := selects.exists_selections
        rw [found] at aggregated
        cases aggregated
  | some ids =>
      simp only [Option.map_some, Option.getD_some, mem_closure_iff found, List.contains_iff_mem,
        mem_next_iff]

/-- The sources of a bundle are those that it selects and that do not take it over. -/
theorem mem_sourcesOf_iff {target source : String} :
    source ∈ (resolve bundles).sourcesOf target ↔
      Selects bundles target source ∧ ¬ TransGen (Selects bundles) source target := by
  rw [sourcesOf_eq, List.mem_filter, mem_next_iff, Bool.not_eq_true', ← Bool.not_eq_true,
    takesOver_iff]

theorem next_ascending (target : String) :
    (next (selections bundles) target).Pairwise (· < ·) := by
  unfold next
  cases found : (selections bundles).get? target with
  | none => exact .nil
  | some ids =>
      obtain ⟨bundle, -, -, rfl⟩ := get?_selections_eq_some_iff.mp found
      have sorted : ((Bundle.candidates bundles target).map (·.1)).Pairwise (· < ·) :=
        bundles.keys_ascending.sublist (List.filter_sublist.map _)
      exact sorted.filter _

/-- Sources are shown in ascending order, each once. -/
theorem sourcesOf_ascending (target : String) :
    ((resolve bundles).sourcesOf target).Pairwise (· < ·) := by
  rw [sourcesOf_eq]
  exact (next_ascending target).filter _

/-- A bundle is shown as a source of another one. -/
def Contributes (bundles : SortedMap Bundle) (source target : String) : Prop :=
  source ∈ (resolve bundles).sourcesOf target

/-- What leads from a source onwards is selected the other way round. -/
theorem selects_of_contributes {source target : String}
    (contributes : ReflTransGen (Contributes bundles) source target) :
    ReflTransGen (Selects bundles) target source := by
  induction contributes with
  | refl => exact .refl
  | tail _ shown inductionHypothesis =>
      exact inductionHypothesis.head (mem_sourcesOf_iff.mp shown).1

/-- No bundle contributes to itself, directly or through others: the target of its first step would
be taken over by it. -/
theorem contributes_acyclic (id : String) : ¬ TransGen (Contributes bundles) id id := by
  intro circle
  obtain ⟨target, shown, rest⟩ := TransGen.head'_iff.mp circle
  obtain ⟨selects, pruned⟩ := mem_sourcesOf_iff.mp shown
  rcases reflTransGen_iff_eq_or_transGen.mp (selects_of_contributes rest) with same | takesOver
  · exact selects.different same
  · exact pruned takesOver

end Aggregation

end AccessGraph
