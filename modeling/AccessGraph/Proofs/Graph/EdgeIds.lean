/-
This file says when two edges share an id, and so which edges are not added to a graph: those whose
ends are there already, and those whose ends only read like the ends of another edge.
-/

import AccessGraph.Proofs.Graph.Naming

namespace AccessGraph

namespace Edge

/-- The second source goes on with an arrow where the first one ends, and the first target ends with
the second one. -/
def Overlaps (source target otherSource otherTarget : String) : Prop :=
  ∃ link, otherSource = source ++ "->" ++ link ∧ target = link ++ "->" ++ otherTarget

/-- Two pairs of ends that differ read the same with an arrow between them. -/
def Clash (source target otherSource otherTarget : String) : Prop :=
  Overlaps source target otherSource otherTarget ∨ Overlaps otherSource otherTarget source target

variable {source target otherSource otherTarget : String}

/-- Ends clash only where a source holds an arrow and the other target does. -/
theorem Clash.arrow (clash : Clash source target otherSource otherTarget) :
    '>' ∈ source.toList ∧ '>' ∈ otherTarget.toList ∨
      '>' ∈ otherSource.toList ∧ '>' ∈ target.toList := by
  have holds (first second : String) : '>' ∈ (first ++ "->" ++ second).toList := by
    have arrow : "->".toList = ['-', '>'] := by decide
    simp [arrow]
  rcases clash with ⟨link, rfl, rfl⟩ | ⟨link, rfl, rfl⟩
  · exact .inr ⟨holds _ _, holds _ _⟩
  · exact .inl ⟨holds _ _, holds _ _⟩

theorem Overlaps.irrefl : ¬ Overlaps source target source target := by
  intro overlaps
  obtain ⟨link, same, -⟩ := overlaps
  have lengths := congrArg String.length same
  simp only [String.length_append] at lengths
  have arrow : "->".length = 2 := by decide
  omega

theorem Clash.irrefl : ¬ Clash source target source target := by
  simp [Clash, Overlaps.irrefl]

/-- What follows the shorter of two sources starts with the whole arrow: it cannot start within. -/
theorem overlaps_of_append_eq {further : List Char}
    (longer : otherSource.toList = source.toList ++ further) (more : further ≠ [])
    (same : '-' :: '>' :: target.toList = further ++ '-' :: '>' :: otherTarget.toList) :
    Overlaps source target otherSource otherTarget := by
  have arrow : "->".toList = ['-', '>'] := by decide
  match further with
  | [] => exact absurd rfl more
  | [dash] => simp at same
  | dash :: head :: link =>
      simp only [List.cons_append, List.cons.injEq] at same
      obtain ⟨rfl, rfl, tail⟩ := same
      refine ⟨String.ofList link, String.toList_injective ?_, String.toList_injective ?_⟩
      · simp [String.toList_append, arrow, longer]
      · simp [String.toList_append, arrow, tail]

/-- Ends joined by an arrow are known from the joined text, unless they clash with others. -/
theorem arrow_eq_iff :
    source ++ "->" ++ target = otherSource ++ "->" ++ otherTarget ↔
      source = otherSource ∧ target = otherTarget ∨
        Clash source target otherSource otherTarget := by
  have arrow : "->".toList = ['-', '>'] := by decide
  constructor
  · intro same
    have characters := congrArg String.toList same
    simp only [String.toList_append, arrow, List.append_assoc, List.cons_append,
      List.nil_append] at characters
    rcases List.append_eq_append_iff.mp characters with
      ⟨further, longer, rest⟩ | ⟨further, longer, rest⟩
    · by_cases more : further = []
      · subst more
        simp only [List.append_nil] at longer
        simp only [List.nil_append, List.cons.injEq, true_and] at rest
        exact .inl ⟨String.toList_injective longer.symm, String.toList_injective rest⟩
      · exact .inr (.inl (overlaps_of_append_eq longer more rest))
    · by_cases more : further = []
      · subst more
        simp only [List.append_nil] at longer
        simp only [List.nil_append, List.cons.injEq, true_and] at rest
        exact .inl ⟨String.toList_injective longer, String.toList_injective rest.symm⟩
      · exact .inr (.inr (overlaps_of_append_eq longer more rest))
  · intro given
    rcases given with ⟨rfl, rfl⟩ | ⟨link, rfl, rfl⟩ | ⟨link, rfl, rfl⟩
    · rfl
    · simp only [String.append_assoc]
    · simp only [String.append_assoc]

end Edge

/-- Two edges share an id when they are of one kind and their ends are the same or clash. -/
theorem edgeId_eq_iff {source target otherSource otherTarget : String} {kind other : EdgeKind} :
    edgeId source target kind = edgeId otherSource otherTarget other ↔
      kind = other ∧ (source = otherSource ∧ target = otherTarget ∨
        Edge.Clash source target otherSource otherTarget) := by
  have split (first second : String) : edgeId first second kind =
      "edge:" ++ (first ++ "->" ++ second) ++ (":" ++ kind.name) := by
    simp only [edgeId, String.append_assoc]
  rw [← Edge.arrow_eq_iff]
  constructor
  · intro same
    obtain rfl := kind_eq_of_edgeId_eq same
    rw [split, split, String.append_left_inj, String.append_right_inj] at same
    exact ⟨rfl, same⟩
  · intro given
    obtain ⟨rfl, same⟩ := given
    rw [split, split, same]

namespace GraphBuilder

/-- An edge is not added exactly when its id is there. -/
theorem addEdge_eq_self_iff {builder : GraphBuilder} {edge : Edge} :
    builder.addEdge edge = builder ↔ edge.id ∈ builder.edgeIds := by
  rw [addEdge, hasEdge_eq_contains, ← List.contains_iff_mem]
  cases builder.edgeIds.contains edge.id with
  | true => simp
  | false =>
      simp only [Bool.false_eq_true, if_false, iff_false]
      intro same
      simpa using congrArg (·.edges.length) same

/-- An edge is not added exactly when one of its kind is there between the same ends, or between ends
that clash with its own. -/
theorem addEdge_run_eq_self_iff {steps : List BuildStep}
    (named : ∀ edge ∈ BuildStep.edges steps, edge.IsNamed) (source target : String)
    (kind : EdgeKind) (explain : String) (refs : List RuleRef) :
    (run steps).addEdge (.of source target kind explain refs) = run steps ↔
      ∃ known ∈ (run steps).edges, known.kind = kind ∧
        (known.source = source ∧ known.target = target ∨
          Edge.Clash known.source known.target source target) := by
  rw [addEdge_eq_self_iff, edgeIds, List.mem_map]
  apply exists_congr
  intro known
  apply and_congr_right
  intro present
  rw [named known (mem_edges_of_mem_edges_run present)]
  exact edgeId_eq_iff

end GraphBuilder

end AccessGraph
