/-
This file says when a value that was written is read again, in whatever order the members of its
objects stand.
-/

import AccessGraph.Json.Decode
import AccessGraph.Json.Encode
import AccessGraph.Proofs.Json.Arrangement
import Mathlib.Data.List.Perm.Basic

namespace AccessGraph

open Json (Arrangement)

/-- However its members are arranged, a value is read as this result. -/
def Decoder.Reads {α : Type} (arrangement : Arrangement) (decoder : Decoder α) (value : Json)
    (result : α) : Prop :=
  ∀ origin, decoder origin (.ofJson (arrangement.apply value)) = .ok result

namespace Decoder

section

variable {α : Type} {arrangement : Arrangement} {decoder : Decoder α}

theorem reads_text (value : String) : Reads arrangement text (.text value) value := by
  intro origin
  rw [arrangement.text]
  rfl

theorem reads_boolean (value : Bool) : Reads arrangement boolean (.boolean value) value := by
  intro origin
  rw [arrangement.boolean]
  rfl

theorem reads_count (number : Nat) : Reads arrangement count (Json.count number) number := by
  intro origin
  rw [Json.count, arrangement.integer]
  rfl

theorem reads_word (number : UInt64) :
    Reads arrangement word (Json.count number.toNat) number := by
  intro origin
  simp only [word, reads_count number.toNat origin, bind, Except.bind]
  rw [if_pos number.toNat_lt, UInt64.ofNat_toNat]

/-- A value is read as something if null is not read as it. -/
theorem reads_option {value : Json} {result : α} (reads : Reads arrangement decoder value result)
    (refuses : ∀ origin, decoder origin (.literal (.ok .null)) ≠ .ok result) :
    Reads arrangement (option decoder) value (some result) := by
  intro origin
  have read := reads origin
  unfold option
  split
  · rename_i null
    rw [null] at read
    exact absurd read (refuses origin)
  · rw [read]
    rfl

/-- Nothing is written as null, and read as nothing. -/
theorem reads_optional {encode : α → Json}
    (reads : ∀ content, Reads arrangement decoder (encode content) content)
    (refuses : ∀ origin content, decoder origin (.literal (.ok .null)) ≠ .ok content)
    (content : Option α) :
    Reads arrangement (option decoder) (Json.optional encode content) content := by
  cases content with
  | none =>
      intro origin
      rw [Json.optional, arrangement.null]
      rfl
  | some content => exact reads_option (reads content) fun origin => refuses origin content

theorem reads_list {encode : α → Json} {elements : List α}
    (reads : ∀ element ∈ elements, Reads arrangement decoder (encode element) element) :
    Reads arrangement (list decoder) (.list encode elements) elements := by
  intro origin
  have all : Decoder.elements decoder origin
      (Document.ofElements ((elements.map encode).map arrangement.apply)) = .ok elements := by
    induction elements with
    | nil => rfl
    | cons element rest inductionHypothesis =>
        obtain ⟨first, later⟩ := List.forall_mem_cons.mp reads
        simp only [List.map_cons, Document.ofElements, Decoder.elements, first origin,
          inductionHypothesis later, bind, Except.bind]
  rw [Json.list, arrangement.array, Document.ofJson]
  simp only [list, all, bind, Except.bind]
  rfl

theorem reads_choice {names : List (String × α)} {name : String} {result : α}
    (known : variant names name = .ok result) :
    Reads arrangement (choice names) (.text name) result := by
  intro origin
  rw [arrangement.text]
  exact known

end

end Decoder

namespace Document

theorem broken_ofJson (value : Json) : (ofJson value).broken = none := by
  cases value <;> rfl

theorem filter_ofMembers {test : Leaf String × Document → Bool} {pick : String × Json → Bool}
    (agree : ∀ member : String × Json, test (.ok member.1, ofJson member.2) = pick member)
    (members : List (String × Json)) :
    (ofMembers members).filter test = ofMembers (members.filter pick) := by
  simp only [ofMembers_eq_map, List.filter_map, Function.comp_def, agree]

theorem depth_le_elementsDepth {elements : List Json} {element : Json}
    (listed : element ∈ elements) :
    (ofJson element).depth ≤ elementsDepth (ofElements elements) := by
  induction elements with
  | nil => cases listed
  | cons first rest inductionHypothesis =>
      rw [ofElements, elementsDepth]
      rcases List.mem_cons.mp listed with rfl | later
      · exact Nat.le_max_left _ _
      · exact Nat.le_trans (inductionHypothesis later) (Nat.le_max_right _ _)

theorem depth_le_membersDepth {members : List (String × Json)} {member : String × Json}
    (listed : member ∈ members) : (ofJson member.2).depth ≤ membersDepth (ofMembers members) := by
  induction members with
  | nil => cases listed
  | cons first rest inductionHypothesis =>
      rw [ofMembers, membersDepth]
      rcases List.mem_cons.mp listed with rfl | later
      · exact Nat.le_max_left _ _
      · exact Nat.le_trans (inductionHypothesis later) (Nat.le_max_right _ _)

/-- What lies in an array is not as deep as the array. -/
theorem depth_lt_of_mem_array (arrangement : Arrangement) {elements : List Json} {element : Json}
    (listed : element ∈ elements) :
    (ofJson (arrangement.apply element)).depth <
      (ofJson (arrangement.apply (.array elements))).depth := by
  rw [arrangement.array, ofJson, depth]
  exact Nat.lt_succ_of_le (depth_le_elementsDepth (List.mem_map_of_mem listed))

/-- What lies in an object is not as deep as the object. -/
theorem depth_lt_of_mem_object (arrangement : Arrangement) {members : List (String × Json)}
    (differ : (members.map (·.1)).Nodup) {member : String × Json} (listed : member ∈ members) :
    (ofJson (arrangement.apply member.2)).depth <
      (ofJson (arrangement.apply (.object members))).depth := by
  obtain ⟨others, arranged, perm⟩ := arrangement.object members differ
  have moved : (member.1, arrangement.apply member.2) ∈ others :=
    perm.mem_iff.mpr (List.mem_map_of_mem listed)
  rw [arranged, ofJson, depth]
  exact Nat.lt_succ_of_le (depth_le_membersDepth moved)

end Document

end AccessGraph
