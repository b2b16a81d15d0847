/-
This file walks a relation level by level.
-/

import AccessGraph.Distinct

namespace AccessGraph

/-- The nodes next to a level that have not been visited make the next level. The walk ends when
there are none, or after so many levels. -/
def exploreFrom {α : Type} [BEq α] (next : α → List α) :
    Nat → List α → List α → List α
  | 0, visited, _ => visited
  | levels + 1, visited, level =>
      match (distinct (level.flatMap next)).filter (!visited.contains ·) with
      | [] => visited
      | fresh => exploreFrom next levels (visited ++ fresh) fresh

/-- These are the nodes that can be reached in so many steps, the nearest first. -/
def explore {α : Type} [BEq α] (next : α → List α) (levels : Nat) (start : α) : List α :=
  exploreFrom next levels [start] [start]

end AccessGraph
