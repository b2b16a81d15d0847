/-
This file says what it means to bring the members of objects into another order, as is done when
they are ordered by their keys.
-/

import AccessGraph.Json.Value
import Mathlib.Data.List.Nodup

namespace AccessGraph.Json

/-- The values of members change, and their keys stay. -/
def mapValues (change : Json → Json) (members : List (String × Json)) : List (String × Json) :=
  members.map fun member => (member.1, change member.2)

theorem keys_mapValues (change : Json → Json) (members : List (String × Json)) :
    (mapValues change members).map (·.1) = members.map (·.1) := by
  rw [mapValues, List.map_map]
  rfl

/-- A way to arrange the members of objects, inside other values too. Nothing else changes, and an
object loses no member as long as its keys differ. -/
structure Arrangement where
  apply : Json → Json
  null : apply .null = .null
  boolean : ∀ value, apply (.boolean value) = .boolean value
  integer : ∀ value, apply (.integer value) = .integer value
  decimal : ∀ digits, apply (.decimal digits) = .decimal digits
  text : ∀ value, apply (.text value) = .text value
  array : ∀ elements, apply (.array elements) = .array (elements.map apply)
  object : ∀ members : List (String × Json), (members.map (·.1)).Nodup →
    ∃ others, apply (.object members) = .object others ∧ others.Perm (mapValues apply members)

/-- Members may stay where they are. -/
def Arrangement.asGiven : Arrangement where
  apply := id
  null := rfl
  boolean _ := rfl
  integer _ := rfl
  decimal _ := rfl
  text _ := rfl
  array elements := by rw [List.map_id, id]
  object members _ := ⟨members, rfl, .of_eq (List.map_id members).symm⟩

theorem orderedElements_eq_map (elements : List Json) :
    orderedElements elements = elements.map ordered := by
  induction elements with
  | nil => rfl
  | cons element rest inductionHypothesis =>
      rw [orderedElements, inductionHypothesis, List.map_cons]

/-- A member with a new key is put among the others. -/
theorem insertMember_perm {key : String} (value : Json) {members : List (String × Json)}
    (fresh : key ∉ members.map (·.1)) :
    (insertMember key value members).Perm ((key, value) :: members) := by
  induction members with
  | nil => exact .refl _
  | cons member rest inductionHypothesis =>
      obtain ⟨other, old⟩ := member
      rw [List.map_cons, List.mem_cons, not_or] at fresh
      obtain ⟨different, absent⟩ := fresh
      rw [insertMember]
      split
      · exact .refl _
      · split
        · exact ((inductionHypothesis absent).cons _).trans (.swap _ _ _)
        · rename_i notBefore notAfter
          exact absurd (String.le_antisymm notAfter notBefore) different

/-- Members whose keys differ are all there once they are ordered. -/
theorem orderedMembers_perm {done members : List (String × Json)}
    (differ : ((members ++ done).map (·.1)).Nodup) :
    (orderedMembers done members).Perm (mapValues ordered members ++ done) := by
  induction members generalizing done with
  | nil => exact .refl _
  | cons member rest inductionHypothesis =>
      obtain ⟨key, value⟩ := member
      have absent : key ∉ done.map (·.1) := by
        intro present
        refine (List.nodup_cons.mp differ).1 (List.mem_map.mpr ?_)
        obtain ⟨other, member, same⟩ := List.mem_map.mp present
        exact ⟨other, List.mem_append_right _ member, same⟩
      have inserted := insertMember_perm value.ordered absent
      have moved : (rest ++ insertMember key value.ordered done).Perm
          ((key, value.ordered) :: (rest ++ done)) :=
        (inserted.append_left rest).trans List.perm_middle
      have stillDiffer : ((rest ++ insertMember key value.ordered done).map (·.1)).Nodup := by
        rw [(moved.map _).nodup_iff]
        exact differ
      rw [orderedMembers]
      exact (inductionHypothesis stillDiffer).trans
        ((inserted.append_left _).trans List.perm_middle)

/-- Members may be ordered by their keys. -/
def Arrangement.byKey : Arrangement where
  apply := ordered
  null := rfl
  boolean _ := rfl
  integer _ := rfl
  decimal _ := rfl
  text _ := rfl
  array elements := by rw [ordered, orderedElements_eq_map]
  object members differ := by
    refine ⟨orderedMembers [] members, rfl, ?_⟩
    have withNone : ((members ++ ([] : List (String × Json))).map (·.1)).Nodup := by
      rwa [List.append_nil]
    have all := orderedMembers_perm withNone
    rwa [List.append_nil] at all

end AccessGraph.Json
