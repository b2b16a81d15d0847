/-
This file holds sets of texts in ascending order, so that two sets with the same members are the
same.
-/

import AccessGraph.Ascending

namespace AccessGraph

structure SortedSet where
  toList : List String
  ascending : toList.Pairwise (· < ·)
deriving DecidableEq, Repr

namespace SortedSet

/-- A text goes before the first greater one, unless it is there already. -/
def insertText (text : String) : List String → List String
  | [] => [text]
  | first :: rest =>
      if text < first then text :: first :: rest
      else if first < text then first :: insertText text rest
      else first :: rest

theorem mem_insertText {text member : String} {texts : List String} :
    member ∈ insertText text texts ↔ member = text ∨ member ∈ texts := by
  induction texts with
  | nil => simp [insertText]
  | cons first rest inductionHypothesis =>
      unfold insertText
      split
      · simp
      · split
        · rw [List.mem_cons, List.mem_cons, inductionHypothesis]
          exact or_left_comm
        · rename_i notBefore notAfter
          have same : text = first := String.le_antisymm notAfter notBefore
          simp [same]

theorem insertText_ascending (text : String) {texts : List String}
    (ascending : texts.Pairwise (· < ·)) : (insertText text texts).Pairwise (· < ·) := by
  induction texts with
  | nil => simp [insertText]
  | cons first rest inductionHypothesis =>
      obtain ⟨below, sorted⟩ := List.pairwise_cons.mp ascending
      unfold insertText
      split
      · rename_i before
        refine List.pairwise_cons.mpr ⟨fun member later => ?_, ascending⟩
        rcases List.mem_cons.mp later with same | later
        · exact same ▸ before
        · exact String.lt_trans before (below member later)
      · split
        · rename_i after
          refine List.pairwise_cons.mpr ⟨fun member later => ?_, inductionHypothesis sorted⟩
          rcases mem_insertText.mp later with same | later
          · exact same ▸ after
          · exact below member later
        · exact ascending

def empty : SortedSet :=
  ⟨[], .nil⟩

def insert (set : SortedSet) (text : String) : SortedSet :=
  ⟨insertText text set.toList, insertText_ascending text set.ascending⟩

def contains (set : SortedSet) (text : String) : Bool :=
  set.toList.contains text

def isEmpty (set : SortedSet) : Bool :=
  set.toList.isEmpty

def ofList (texts : List String) : SortedSet :=
  texts.foldl insert empty

theorem contains_iff {set : SortedSet} {text : String} :
    set.contains text = true ↔ text ∈ set.toList :=
  List.contains_iff_mem

theorem mem_insert {set : SortedSet} {text member : String} :
    member ∈ (set.insert text).toList ↔ member = text ∨ member ∈ set.toList :=
  mem_insertText

theorem mem_foldl_insert {set : SortedSet} {texts : List String} {member : String} :
    member ∈ (texts.foldl insert set).toList ↔ member ∈ set.toList ∨ member ∈ texts := by
  induction texts generalizing set with
  | nil => simp
  | cons text rest inductionHypothesis =>
      rw [List.foldl_cons, inductionHypothesis, mem_insert, List.mem_cons, or_assoc,
        or_left_comm]

theorem mem_ofList {texts : List String} {member : String} :
    member ∈ (ofList texts).toList ↔ member ∈ texts := by
  simp [ofList, mem_foldl_insert, empty]

/-- Sets with the same members are the same. -/
theorem eq_of_mem {first second : SortedSet}
    (same : ∀ text, text ∈ first.toList ↔ text ∈ second.toList) : first = second := by
  obtain ⟨firstTexts, sorted⟩ := first
  obtain ⟨secondTexts, alsoSorted⟩ := second
  obtain rfl : firstTexts = secondTexts :=
    eq_of_mem_of_pairwise (fun _ _ => String.lt_asymm) sorted alsoSorted same
  rfl

end SortedSet

end AccessGraph
