/-
This file proves that labels are read as they were written, in whatever order they stand.
-/

import AccessGraph.Catalog.Decode
import AccessGraph.Catalog.Encode
import AccessGraph.Proofs.Json.Reading
import AccessGraph.Proofs.Permutation

namespace AccessGraph

open Json (Arrangement)

namespace SortedMap

variable {α : Type}

/-- Entries whose keys differ go in beside what is there. -/
theorem get?_foldl_insert {entries : List (String × α)} (differ : (entries.map (·.1)).Nodup)
    (map : SortedMap α) (key : String) (value : α) :
    (entries.foldl (fun map entry => map.insert entry.1 entry.2) map).get? key = some value ↔
      (key, value) ∈ entries ∨ key ∉ entries.map (·.1) ∧ map.get? key = some value := by
  induction entries generalizing map with
  | nil => simp
  | cons first rest inductionHypothesis =>
      obtain ⟨name, content⟩ := first
      obtain ⟨once, restDiffer⟩ := List.nodup_cons.mp differ
      rw [List.foldl_cons, inductionHypothesis restDiffer, get?_insert]
      by_cases same : name = key
      · subst same
        have elsewhere : (name, value) ∉ rest := fun listed =>
          once (List.mem_map.mpr ⟨_, listed, rfl⟩)
        simp [elsewhere, once, eq_comm]
      · simp [same, Ne.symm same]

/-- A map is made of its entries, in whatever order they go in. -/
theorem foldl_insert_of_perm {map : SortedMap α} {entries : List (String × α)}
    (perm : entries.Perm map.entries) :
    entries.foldl (fun map entry => map.insert entry.1 entry.2) .empty = map := by
  have differ : (entries.map (·.1)).Nodup := by
    rw [(perm.map _).nodup_iff]
    exact map.keys_ascending.imp fun less => String.ne_of_lt less
  refine eq_of_get? fun key => Option.ext fun value => ?_
  rw [get?_foldl_insert differ, perm.mem_iff, ← get?_eq_some_iff]
  simp [get?_empty]

end SortedMap

theorem Decoder.entries_text {β : Type} (put : String → String → β → β) (origin : Origin)
    (entries : List (String × String)) (collected : β) :
    Decoder.entries text put origin collected
        (Document.ofMembers (entries.map fun entry => (entry.1, .text entry.2))) =
      .ok (entries.foldl (fun collected entry => put entry.1 entry.2 collected) collected) := by
  induction entries generalizing collected with
  | nil => rfl
  | cons first rest inductionHypothesis => exact inductionHypothesis _

theorem Labels.decode_reads (arrangement : Arrangement) (labels : SortedMap String) :
    Labels.decode.Reads arrangement (Labels.encode labels) labels := by
  intro origin
  have differ :
      ((labels.entries.map fun entry => (entry.1, Json.text entry.2)).map (·.1)).Nodup := by
    rw [List.map_map]
    exact labels.keys_ascending.imp fun less => String.ne_of_lt less
  obtain ⟨shown, shows, perm⟩ := arrangement.object _ differ
  rw [Json.mapValues, List.map_map] at perm
  obtain ⟨entries, entriesPerm, rfl⟩ := exists_of_perm_map perm
  rw [Labels.encode, shows, Document.ofJson, Labels.decode, Decoder.map]
  simp only [Function.comp_def, arrangement.text, Decoder.entries_text, Decoder.complete, bind,
    Except.bind, SortedMap.foldl_insert_of_perm entriesPerm]

end AccessGraph
