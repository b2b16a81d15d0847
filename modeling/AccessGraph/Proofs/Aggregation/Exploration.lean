/-
This file says that a walk stays within finitely many nodes if every step does, and that it then
ends by itself: more levels change nothing.
-/

import AccessGraph.Aggregation.Exploration
import Mathlib.Data.List.Nodup
import Mathlib.Data.List.Perm.Subperm

namespace AccessGraph

section

variable {α : Type} [BEq α] {next : α → List α} {nodes visited level : List α}

/-- These are the nodes next to a level that have not been visited. -/
def freshFrom (next : α → List α) (visited level : List α) : List α :=
  (distinct (level.flatMap next)).filter (!visited.contains ·)

theorem exploreFrom_succ (levels : Nat) :
    exploreFrom next (levels + 1) visited level =
      exploreFrom next levels (visited ++ freshFrom next visited level)
        (freshFrom next visited level) := by
  rw [exploreFrom, ← freshFrom]
  cases freshFrom next visited level with
  | cons node rest => rfl
  | nil =>
      rw [List.append_nil]
      cases levels <;> rfl

/-- A walk ends where no node is new. -/
theorem exploreFrom_of_none (none : freshFrom next visited level = []) (levels : Nat) :
    exploreFrom next levels visited level = visited := by
  cases levels with
  | zero => rfl
  | succ levels =>
      rw [exploreFrom_succ, none, List.append_nil]
      cases levels <;> rfl

variable [LawfulBEq α]

theorem mem_freshFrom {node : α} :
    node ∈ freshFrom next visited level ↔
      (∃ before ∈ level, node ∈ next before) ∧ node ∉ visited := by
  simp [freshFrom, mem_distinct]

theorem nodup_append_freshFrom (distinctNodes : visited.Nodup) :
    (visited ++ freshFrom next visited level).Nodup := by
  apply List.Nodup.append distinctNodes
  · exact (distinct_nodup _).filter _
  · intro node known new
    exact (mem_freshFrom.mp new).2 known

section

variable (closed : ∀ node ∈ nodes, next node ⊆ nodes)

include closed

theorem freshFrom_subset (levelWithin : level ⊆ nodes) :
    freshFrom next visited level ⊆ nodes := by
  intro node new
  obtain ⟨⟨before, member, follows⟩, -⟩ := mem_freshFrom.mp new
  exact closed before (levelWithin member) follows

/-- A walk within closed nodes visits no others. -/
theorem exploreFrom_subset (levels : Nat) (within : visited ⊆ nodes) (levelWithin : level ⊆ nodes) :
    exploreFrom next levels visited level ⊆ nodes := by
  induction levels generalizing visited level with
  | zero => exact within
  | succ levels inductionHypothesis =>
      have fresh : freshFrom next visited level ⊆ nodes := freshFrom_subset closed levelWithin
      rw [exploreFrom_succ]
      exact inductionHypothesis (List.append_subset.mpr ⟨within, fresh⟩) fresh

/-- When as many levels are left as there are nodes to visit, further levels change nothing. -/
theorem exploreFrom_add (levels more : Nat) (distinctNodes : visited.Nodup)
    (within : visited ⊆ nodes) (levelWithin : level ⊆ nodes)
    (enough : nodes.length ≤ visited.length + levels) :
    exploreFrom next (levels + more) visited level = exploreFrom next levels visited level := by
  induction levels generalizing visited level with
  | zero =>
      -- The nodes visited are as many as there are, so that none is new.
      have complete : visited.Perm nodes :=
        (distinctNodes.subperm within).perm_of_length_le (by omega)
      have none : freshFrom next visited level = [] := by
        apply List.eq_nil_iff_forall_not_mem.mpr
        intro node new
        apply (mem_freshFrom.mp new).2
        exact complete.mem_iff.mpr (freshFrom_subset closed levelWithin new)
      rw [exploreFrom_of_none none, exploreFrom_of_none none]
  | succ levels inductionHypothesis =>
      rw [show levels + 1 + more = levels + more + 1 by omega, exploreFrom_succ, exploreFrom_succ]
      have fresh : freshFrom next visited level ⊆ nodes := freshFrom_subset closed levelWithin
      cases new : freshFrom next visited level with
      | nil =>
          have none : freshFrom next visited ([] : List α) = [] := rfl
          rw [List.append_nil, exploreFrom_of_none none, exploreFrom_of_none none]
      | cons node rest =>
          rw [← new]
          apply inductionHypothesis (nodup_append_freshFrom distinctNodes)
          · exact List.append_subset.mpr ⟨within, fresh⟩
          · exact fresh
          · have longer : 0 < (freshFrom next visited level).length := by simp [new]
            rw [List.length_append]
            omega

/-- Any two numbers of levels that are great enough lead equally far. -/
theorem explore_eq_of_length_le {start : α} (known : start ∈ nodes) {levels others : Nat}
    (enough : nodes.length ≤ levels) (alsoEnough : nodes.length ≤ others) :
    explore next levels start = explore next others start := by
  have within : [start] ⊆ nodes := List.cons_subset.mpr ⟨known, List.nil_subset nodes⟩
  have settled (more : Nat) : explore next (nodes.length + more) start =
      explore next nodes.length start := by
    apply exploreFrom_add closed _ _ (List.nodup_singleton start) within within
    omega
  rw [show levels = nodes.length + (levels - nodes.length) by omega, settled,
    show others = nodes.length + (others - nodes.length) by omega, settled]

theorem explore_subset {start : α} (known : start ∈ nodes) (levels : Nat) :
    explore next levels start ⊆ nodes := by
  have within : [start] ⊆ nodes := List.cons_subset.mpr ⟨known, List.nil_subset nodes⟩
  exact exploreFrom_subset closed levels within within

end

end

end AccessGraph
