/-
This file says which values can be written without loss: those without decimals, whose integers fit
a word.
-/

import AccessGraph.Json.Encode
import AccessGraph.Json.Token
import AccessGraph.Proofs.Json.Arrangement

namespace AccessGraph.Json

/-- A value is plain if all numbers in it are integers that fit a word of 64 bits. -/
inductive Plain : Json → Prop where
  | null : Plain .null
  | boolean (value : Bool) : Plain (.boolean value)
  | integer {value : Int} (least : -(Token.greatestNegated : Int) ≤ value)
      (greatest : value ≤ Token.greatestWord) : Plain (.integer value)
  | text (value : String) : Plain (.text value)
  | array {elements : List Json} (each : ∀ element ∈ elements, Plain element) :
      Plain (.array elements)
  | object {members : List (String × Json)} (each : ∀ member ∈ members, Plain member.2) :
      Plain (.object members)

namespace Plain

theorem word (number : UInt64) : Plain (count number.toNat) := by
  have fits := number.toNat_lt
  refine integer ?_ ?_
  · exact Int.le_trans (Int.neg_nonpos_of_nonneg (Int.natCast_nonneg _)) (Int.natCast_nonneg _)
  · exact Int.ofNat_le.mpr (Nat.le_of_lt_succ fits)

theorem list {α : Type} {encode : α → Json} (each : ∀ element, Plain (encode element))
    (elements : List α) : Plain (Json.list encode elements) := by
  refine array fun value listed => ?_
  obtain ⟨element, -, rfl⟩ := List.mem_map.mp listed
  exact each element

theorem optional {α : Type} {encode : α → Json} (each : ∀ content, Plain (encode content))
    (content : Option α) : Plain (Json.optional encode content) := by
  cases content with
  | none => exact null
  | some content => exact each content

/-- No value comes from elsewhere when a member goes to its place. -/
theorem insertMember {key : String} {value : Json} (plain : Plain value)
    {members : List (String × Json)} (each : ∀ member ∈ members, Plain member.2) :
    ∀ member ∈ Json.insertMember key value members, Plain member.2 := by
  induction members with
  | nil => simpa [Json.insertMember] using plain
  | cons first rest inductionHypothesis =>
      obtain ⟨name, old⟩ := first
      obtain ⟨here, later⟩ := List.forall_mem_cons.mp each
      rw [Json.insertMember]
      split
      · exact List.forall_mem_cons.mpr ⟨plain, each⟩
      · split
        · exact List.forall_mem_cons.mpr ⟨here, inductionHypothesis later⟩
        · exact List.forall_mem_cons.mpr ⟨plain, later⟩

theorem orderedMembers {done members : List (String × Json)}
    (before : ∀ member ∈ done, Plain member.2)
    (each : ∀ member ∈ members, Plain member.2.ordered) :
    ∀ member ∈ Json.orderedMembers done members, Plain member.2 := by
  induction members generalizing done with
  | nil => exact before
  | cons first rest inductionHypothesis =>
      obtain ⟨here, later⟩ := List.forall_mem_cons.mp each
      exact inductionHypothesis (insertMember here before) later

/-- A plain value stays plain when the members of its objects are ordered. -/
theorem ordered {value : Json} (plain : Plain value) : Plain value.ordered := by
  induction plain with
  | null => exact null
  | boolean value => exact boolean value
  | integer least greatest => exact integer least greatest
  | text value => exact text value
  | array each inductionHypothesis =>
      rw [Json.ordered, orderedElements_eq_map]
      refine array fun element listed => ?_
      obtain ⟨given, present, rfl⟩ := List.mem_map.mp listed
      exact inductionHypothesis given present
  | object each inductionHypothesis =>
      exact object (orderedMembers nofun inductionHypothesis)

end Plain

end AccessGraph.Json
