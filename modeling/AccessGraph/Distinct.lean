/-
This file keeps the first of the elements of a list that share a key.
-/

namespace AccessGraph

/-- The keys passed so far are not taken again. -/
def distinctAfter {α κ : Type} [BEq κ] (key : α → κ) (passed : List κ) : List α → List α
  | [] => []
  | element :: rest =>
      if passed.contains (key element) then distinctAfter key passed rest
      else element :: distinctAfter key (key element :: passed) rest

/-- The first element of every key stays, in the order of the list. -/
def distinctBy {α κ : Type} [BEq κ] (key : α → κ) (elements : List α) : List α :=
  distinctAfter key [] elements

def distinct {α : Type} [BEq α] (elements : List α) : List α :=
  distinctBy id elements

section

variable {α κ : Type} [BEq κ] (key : α → κ)

theorem distinctAfter_sublist (passed : List κ) (elements : List α) :
    (distinctAfter key passed elements).Sublist elements := by
  induction elements generalizing passed with
  | nil => exact .slnil
  | cons element rest inductionHypothesis =>
      unfold distinctAfter
      split
      · exact (inductionHypothesis passed).cons element
      · exact (inductionHypothesis (key element :: passed)).cons_cons element

theorem distinctBy_sublist (elements : List α) :
    (distinctBy key elements).Sublist elements :=
  distinctAfter_sublist key [] elements

variable [LawfulBEq κ]

theorem key_mem_distinctAfter {wanted : κ} {passed : List κ} {elements : List α} :
    wanted ∈ (distinctAfter key passed elements).map key ↔
      wanted ∈ elements.map key ∧ wanted ∉ passed := by
  induction elements generalizing passed with
  | nil => simp [distinctAfter]
  | cons element rest inductionHypothesis =>
      unfold distinctAfter
      split <;> rename_i seen <;> rw [List.contains_iff_mem] at seen
      · rw [inductionHypothesis, List.map_cons, List.mem_cons]
        refine ⟨fun ⟨later, fresh⟩ => ⟨.inr later, fresh⟩, fun ⟨found, fresh⟩ => ⟨?_, fresh⟩⟩
        exact found.resolve_left fun same => fresh (same ▸ seen)
      · rw [List.map_cons, List.mem_cons, inductionHypothesis, List.map_cons, List.mem_cons,
          List.mem_cons]
        by_cases same : wanted = key element
        · simp [same, seen]
        · simp [same]

/-- No key is lost. -/
theorem key_mem_distinctBy {wanted : κ} {elements : List α} :
    wanted ∈ (distinctBy key elements).map key ↔ wanted ∈ elements.map key := by
  simp [distinctBy, key_mem_distinctAfter key]

theorem distinctAfter_keys (passed : List κ) (elements : List α) :
    ((distinctAfter key passed elements).map key).Nodup := by
  induction elements generalizing passed with
  | nil => exact .nil
  | cons element rest inductionHypothesis =>
      unfold distinctAfter
      split
      · exact inductionHypothesis passed
      · refine List.nodup_cons.mpr ⟨fun again => ?_, inductionHypothesis (key element :: passed)⟩
        exact ((key_mem_distinctAfter key).mp again).2 List.mem_cons_self

/-- No key occurs twice. -/
theorem distinctBy_keys (elements : List α) : ((distinctBy key elements).map key).Nodup :=
  distinctAfter_keys key [] elements

theorem distinctAfter_first {before : α → α → Prop} {passed : List κ} {elements : List α}
    (ordered : elements.Pairwise before) {kept other : α}
    (member : kept ∈ distinctAfter key passed elements) (present : other ∈ elements)
    (same : key other = key kept) : other = kept ∨ before kept other := by
  have fresh {passed : List κ} {rest : List α} (later : kept ∈ distinctAfter key passed rest) :
      key kept ∉ passed :=
    ((key_mem_distinctAfter key).mp (List.mem_map_of_mem later)).2
  induction elements generalizing passed with
  | nil => cases present
  | cons element rest inductionHypothesis =>
      obtain ⟨earlier, restOrdered⟩ := List.pairwise_cons.mp ordered
      unfold distinctAfter at member
      split at member
      · rename_i seen
        rcases List.mem_cons.mp present with rfl | later
        · rw [same, List.contains_iff_mem] at seen
          exact absurd seen (fresh member)
        · exact inductionHypothesis restOrdered member later
      · rcases List.mem_cons.mp member with rfl | memberLater
        · exact (List.mem_cons.mp present).imp_right (earlier other)
        · rcases List.mem_cons.mp present with rfl | later
          · exact absurd (same ▸ List.mem_cons_self) (fresh memberLater)
          · exact inductionHypothesis restOrdered memberLater later

/-- What is kept stands before everything else with its key. -/
theorem distinctBy_first {before : α → α → Prop} {elements : List α}
    (ordered : elements.Pairwise before) {kept other : α} (member : kept ∈ distinctBy key elements)
    (present : other ∈ elements) (same : key other = key kept) :
    other = kept ∨ before kept other :=
  distinctAfter_first key ordered member present same

/-- Of the keys that have been passed none counts but those of the elements, in whatever order. -/
theorem distinctAfter_congr {passed others : List κ} {elements : List α}
    (same : ∀ element ∈ elements, key element ∈ passed ↔ key element ∈ others) :
    distinctAfter key passed elements = distinctAfter key others elements := by
  induction elements generalizing passed others with
  | nil => rfl
  | cons element rest inductionHypothesis =>
      obtain ⟨here, restSame⟩ := List.forall_mem_cons.mp same
      have agree : passed.contains (key element) = others.contains (key element) := by
        rw [Bool.eq_iff_iff, List.contains_iff_mem, List.contains_iff_mem]
        exact here
      have later : ∀ other ∈ rest,
          key other ∈ key element :: passed ↔ key other ∈ key element :: others := by
        intro other member
        rw [List.mem_cons, List.mem_cons, restSame other member]
      simp only [distinctAfter, agree, inductionHypothesis restSame, inductionHypothesis later]

/-- Nothing is kept of elements whose keys have all been passed. -/
theorem distinctAfter_eq_nil {passed : List κ} {elements : List α}
    (seen : ∀ element ∈ elements, key element ∈ passed) :
    distinctAfter key passed elements = [] := by
  rw [List.eq_nil_iff_forall_not_mem]
  intro element kept
  have member := (distinctAfter_sublist key passed elements).subset kept
  exact ((key_mem_distinctAfter key).mp (List.mem_map_of_mem kept)).2 (seen element member)

/-- Elements with new keys that differ are all kept. -/
theorem distinctAfter_eq_self {passed : List κ} {elements : List α}
    (differ : (elements.map key).Nodup) (new : ∀ element ∈ elements, key element ∉ passed) :
    distinctAfter key passed elements = elements := by
  induction elements generalizing passed with
  | nil => rfl
  | cons element rest inductionHypothesis =>
      obtain ⟨absent, restDiffer⟩ := List.nodup_cons.mp differ
      obtain ⟨fresh, restNew⟩ := List.forall_mem_cons.mp new
      rw [distinctAfter, if_neg (by simpa using fresh)]
      refine congrArg (element :: ·) (inductionHypothesis restDiffer ?_)
      intro other member seen
      rcases List.mem_cons.mp seen with same | before
      · exact absent (same ▸ List.mem_map_of_mem member)
      · exact restNew other member before

theorem distinctBy_eq_self {elements : List α} (differ : (elements.map key).Nodup) :
    distinctBy key elements = elements :=
  distinctAfter_eq_self key differ fun _ _ => List.not_mem_nil

/-- What comes later is held against what has been kept. -/
theorem distinctAfter_append (passed : List κ)
    (first second : List α) :
    distinctAfter key passed (first ++ second) =
      distinctAfter key passed first ++
        distinctAfter key (passed ++ (distinctAfter key passed first).map key) second := by
  induction first generalizing passed with
  | nil => simp [distinctAfter]
  | cons element rest inductionHypothesis =>
      simp only [List.cons_append, distinctAfter]
      split
      · exact inductionHypothesis passed
      · have same : ∀ other ∈ second, key other ∈ key element :: passed ++
            (distinctAfter key (key element :: passed) rest).map key ↔
            key other ∈ passed ++
              (element :: distinctAfter key (key element :: passed) rest).map key := by
          intro other _
          simp only [List.map_cons, List.cons_append, List.mem_append, List.mem_cons]
          exact or_left_comm
        rw [inductionHypothesis, distinctAfter_congr key same, List.cons_append]

theorem distinctBy_append (first second : List α) :
    distinctBy key (first ++ second) =
      distinctBy key first ++ distinctAfter key ((distinctBy key first).map key) second :=
  distinctAfter_append key [] first second

/-- What stands in between takes nothing from what comes later, if they share no key. -/
theorem distinctBy_sublist_of_apart {first between last : List α}
    (apart : ∀ element ∈ between, ∀ other ∈ last, key element ≠ key other) :
    (distinctBy key (first ++ last)).Sublist (distinctBy key (first ++ between ++ last)) := by
  have same : ∀ other ∈ last, key other ∈ (distinctBy key first).map key ↔
      key other ∈ (distinctBy key (first ++ between)).map key := by
    intro other member
    have absent : key other ∉ between.map key := by
      intro found
      obtain ⟨element, listed, equal⟩ := List.mem_map.mp found
      exact apart element listed other member equal
    simp only [key_mem_distinctBy, List.map_append, List.mem_append, absent, or_false]
  rw [distinctBy_append, distinctAfter_congr key same, distinctBy_append key (first ++ between),
    distinctBy_append key first between, List.append_assoc]
  exact (List.Sublist.refl _).append (List.sublist_append_right _ _)

/-- A search by a key that has not been passed finds the first element of this key. -/
theorem find?_distinctAfter {wanted : κ} {passed : List κ} (new : wanted ∉ passed)
    (elements : List α) : (distinctAfter key passed elements).find? (key · == wanted) =
      elements.find? (key · == wanted) := by
  induction elements generalizing passed with
  | nil => rfl
  | cons element rest inductionHypothesis =>
      rw [distinctAfter]
      by_cases named : key element = wanted
      · rw [if_neg (by simpa [named] using new), List.find?_cons_of_pos (by simpa using named),
          List.find?_cons_of_pos (by simpa using named)]
      · have later : wanted ∉ key element :: passed := by
          simp [new, Ne.symm named]
        rw [List.find?_cons_of_neg (by simpa using named)]
        split
        · exact inductionHypothesis new
        · rw [List.find?_cons_of_neg (by simpa using named)]
          exact inductionHypothesis later

/-- A search by key does not see what is dropped. -/
theorem find?_distinctBy (wanted : κ) (elements : List α) :
    (distinctBy key elements).find? (key · == wanted) = elements.find? (key · == wanted) :=
  find?_distinctAfter key List.not_mem_nil elements

end

section

variable {α : Type} [BEq α] [LawfulBEq α]

theorem mem_distinct {element : α} {elements : List α} :
    element ∈ distinct elements ↔ element ∈ elements := by
  have kept : element ∈ (distinctBy id elements).map id ↔ element ∈ elements.map id :=
    key_mem_distinctBy id
  simpa [distinct] using kept

theorem distinct_nodup (elements : List α) : (distinct elements).Nodup := by
  simpa [distinct] using distinctBy_keys id elements

end

end AccessGraph
