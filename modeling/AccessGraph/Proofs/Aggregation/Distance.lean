/-
This file says how far a walk gets: to the nodes that some number of steps leads to, the nearest
first.
-/

import AccessGraph.Proofs.Aggregation.Exploration
import Mathlib.Data.Nat.Find
import Mathlib.Logic.Relation

namespace AccessGraph

open Relation

section

variable {α : Type} {step : α → α → Prop} {start : α}

/-- So many steps lead from a node to another. -/
inductive Leads (step : α → α → Prop) (start : α) : Nat → α → Prop
  | here : Leads step start 0 start
  | onward {distance : Nat} {before node : α} (led : Leads step start distance before)
      (next : step before node) : Leads step start (distance + 1) node

theorem leads_zero_iff {node : α} : Leads step start 0 node ↔ node = start := by
  constructor
  · intro led
    cases led with
    | here => rfl
  · intro same
    exact same ▸ .here

theorem exists_leads_iff {node : α} :
    (∃ distance, Leads step start distance node) ↔ ReflTransGen step start node := by
  constructor
  · intro given
    obtain ⟨distance, led⟩ := given
    induction led with
    | here => exact .refl
    | onward _ next inductionHypothesis => exact inductionHypothesis.tail next
  · intro reaches
    induction reaches with
    | refl => exact ⟨0, .here⟩
    | tail _ next inductionHypothesis =>
        obtain ⟨distance, led⟩ := inductionHypothesis
        exact ⟨distance + 1, led.onward next⟩

/-- However far the second node is, the first is no farther. -/
def NoFarther (step : α → α → Prop) (start node other : α) : Prop :=
  ∀ distance, Leads step start distance other → ∃ nearer ≤ distance, Leads step start nearer node

theorem NoFarther.refl (node : α) : NoFarther step start node node := by
  intro distance led
  exact ⟨distance, Nat.le_refl distance, led⟩

/-- A node that is reached at all and is no farther than some others has a distance that none of
them undercuts. -/
theorem exists_least_distance {node : α} (reached : ReflTransGen step start node) :
    ∃ distance, Leads step start distance node ∧
      ∀ other, NoFarther step start node other →
        ∀ further, Leads step start further other → distance ≤ further := by
  classical
  have led := exists_leads_iff.mpr reached
  refine ⟨Nat.find led, Nat.find_spec led, ?_⟩
  intro other noFarther further otherLed
  obtain ⟨nearer, shorter, nodeLed⟩ := noFarther further otherLed
  exact Nat.le_trans (Nat.find_min' led nodeLed) shorter

end

section

variable {α : Type} {next : α → List α} {start : α}

/-- A node follows another when it is next to it. -/
def Follows (next : α → List α) (node other : α) : Prop :=
  other ∈ next node

/-- After so many levels all nodes are visited that are no farther, the nearest first, and the last
level holds those that are no nearer. -/
structure Walked (next : α → List α) (start : α) (levels : Nat) (visited level : List α) :
    Prop where
  visited_iff : ∀ node, node ∈ visited ↔
    ∃ distance ≤ levels, Leads (Follows next) start distance node
  level_iff : ∀ node, node ∈ level ↔ Leads (Follows next) start levels node ∧
    ∀ distance < levels, ¬ Leads (Follows next) start distance node
  nearestFirst : visited.Pairwise (NoFarther (Follows next) start)

theorem Walked.begin (next : α → List α) (start : α) : Walked next start 0 [start] [start] := by
  constructor
  · intro node
    simp [leads_zero_iff]
  · intro node
    simp [leads_zero_iff]
  · exact List.pairwise_singleton _ _

variable [BEq α] [LawfulBEq α]

/-- One level further every node is visited that is one step farther away. -/
theorem Walked.advance {levels : Nat} {visited level : List α}
    (walked : Walked next start levels visited level) :
    Walked next start (levels + 1) (visited ++ freshFrom next visited level)
      (freshFrom next visited level) := by
  have unvisited {node : α} : node ∉ visited ↔
      ∀ distance < levels + 1, ¬ Leads (Follows next) start distance node := by
    rw [walked.visited_iff]
    constructor
    · intro absent distance short led
      exact absent ⟨distance, Nat.le_of_lt_succ short, led⟩
    · intro absent given
      obtain ⟨distance, short, led⟩ := given
      exact absent distance (Nat.lt_succ_of_le short) led
  have fresh {node : α} : node ∈ freshFrom next visited level ↔
      Leads (Follows next) start (levels + 1) node ∧
        ∀ distance < levels + 1, ¬ Leads (Follows next) start distance node := by
    rw [mem_freshFrom, unvisited]
    refine and_congr_left fun farther => ?_
    constructor
    · intro given
      obtain ⟨before, member, follows⟩ := given
      exact ((walked.level_iff before).mp member).1.onward follows
    · intro led
      cases led with
      | onward led follows =>
          -- A shorter way to the node before would be a shorter way to the node.
          refine ⟨_, (walked.level_iff _).mpr ⟨led, ?_⟩, follows⟩
          intro distance short nearer
          exact farther (distance + 1) (by omega) (nearer.onward follows)
  constructor
  · intro node
    rw [List.mem_append]
    constructor
    · intro given
      rcases given with known | new
      · obtain ⟨distance, short, led⟩ := (walked.visited_iff node).mp known
        exact ⟨distance, by omega, led⟩
      · exact ⟨levels + 1, Nat.le_refl _, (fresh.mp new).1⟩
    · intro given
      obtain ⟨distance, short, led⟩ := given
      by_cases known : node ∈ visited
      · exact .inl known
      · have last : distance = levels + 1 := by
          by_contra other
          exact unvisited.mp known distance (by omega) led
        exact .inr (fresh.mpr ⟨last ▸ led, unvisited.mp known⟩)
  · intro node
    exact fresh
  · have far {node : α} (new : node ∈ freshFrom next visited level) {distance : Nat}
        (led : Leads (Follows next) start distance node) : levels + 1 ≤ distance := by
      by_contra short
      exact (fresh.mp new).2 distance (by omega) led
    refine List.pairwise_append.mpr ⟨walked.nearestFirst, ?_, ?_⟩
    · apply List.pairwise_of_forall_mem_list
      intro node new other alsoNew distance led
      exact ⟨levels + 1, far alsoNew led, (fresh.mp new).1⟩
    · intro node known other new distance led
      obtain ⟨nearer, short, alsoLed⟩ := (walked.visited_iff node).mp known
      have longer := far new led
      exact ⟨nearer, by omega, alsoLed⟩

/-- A walk of some levels more gets as many steps farther. -/
theorem Walked.exploreFrom {levels : Nat} {visited level : List α}
    (walked : Walked next start levels visited level) (more : Nat) :
    ∃ last, Walked next start (levels + more) (exploreFrom next more visited level) last := by
  induction more generalizing levels visited level with
  | zero => exact ⟨level, walked⟩
  | succ more inductionHypothesis =>
      rw [exploreFrom_succ, show levels + (more + 1) = levels + 1 + more by omega]
      exact inductionHypothesis walked.advance

theorem mem_explore_iff_of_levels {levels : Nat} {node : α} :
    node ∈ explore next levels start ↔
      ∃ distance ≤ levels, Leads (Follows next) start distance node := by
  obtain ⟨last, walked⟩ := (Walked.begin next start).exploreFrom levels
  rw [Nat.zero_add] at walked
  exact walked.visited_iff node

/-- A walk meets the nearest nodes first. -/
theorem explore_nearestFirst (next : α → List α) (levels : Nat) (start : α) :
    (explore next levels start).Pairwise (NoFarther (Follows next) start) := by
  obtain ⟨last, walked⟩ := (Walked.begin next start).exploreFrom levels
  exact walked.nearestFirst

theorem exploreFrom_nodup (levels : Nat) {visited level : List α} (distinctNodes : visited.Nodup) :
    (exploreFrom next levels visited level).Nodup := by
  induction levels generalizing visited level with
  | zero => exact distinctNodes
  | succ levels inductionHypothesis =>
      rw [exploreFrom_succ]
      exact inductionHypothesis (nodup_append_freshFrom distinctNodes)

theorem explore_nodup (next : α → List α) (levels : Nat) (start : α) :
    (explore next levels start).Nodup :=
  exploreFrom_nodup levels (List.nodup_singleton start)

/-- With as many levels as there are nodes a walk meets all that can be reached. -/
theorem mem_explore_iff {nodes : List α} (closed : ∀ node ∈ nodes, next node ⊆ nodes)
    (known : start ∈ nodes) {levels : Nat} (enough : nodes.length ≤ levels) {node : α} :
    node ∈ explore next levels start ↔ ReflTransGen (Follows next) start node := by
  rw [← exists_leads_iff]
  constructor
  · intro member
    obtain ⟨distance, -, led⟩ := mem_explore_iff_of_levels.mp member
    exact ⟨distance, led⟩
  · intro given
    obtain ⟨distance, led⟩ := given
    -- As many levels more as are needed for this node would not change the walk.
    have longEnough : nodes.length ≤ levels + distance := by omega
    rw [explore_eq_of_length_le closed known enough longEnough]
    exact mem_explore_iff_of_levels.mpr ⟨distance, by omega, led⟩

end

end AccessGraph
