/-
This file holds maps from texts in ascending order of their keys, so that two maps with the same
entries are the same.
-/

import AccessGraph.Ascending

namespace AccessGraph

structure SortedMap (α : Type) where
  entries : List (String × α)
  ascending : entries.Pairwise (fun first second => first.1 < second.1)
deriving DecidableEq, Repr

namespace SortedMap

/-- An entry goes before the first greater key, or in the place of its own key. -/
def insertEntry {α : Type} (key : String) (value : α) :
    List (String × α) → List (String × α)
  | [] => [(key, value)]
  | entry :: rest =>
      if key < entry.1 then (key, value) :: entry :: rest
      else if entry.1 < key then entry :: insertEntry key value rest
      else (key, value) :: rest

theorem mem_insertEntry {α : Type} {key : String} {value : α} {entry : String × α}
    {entries : List (String × α)} (member : entry ∈ insertEntry key value entries) :
    entry = (key, value) ∨ entry ∈ entries := by
  induction entries with
  | nil => simpa [insertEntry] using member
  | cons first rest inductionHypothesis =>
      unfold insertEntry at member
      split at member
      · simpa using member
      · split at member
        · rcases List.mem_cons.mp member with same | later
          · exact .inr (same ▸ List.mem_cons_self)
          · exact (inductionHypothesis later).imp_right (List.mem_cons_of_mem _)
        · rcases List.mem_cons.mp member with same | later
          · exact .inl same
          · exact .inr (List.mem_cons_of_mem _ later)

theorem insertEntry_ascending {α : Type} (key : String) (value : α)
    {entries : List (String × α)}
    (ascending : entries.Pairwise (fun first second => first.1 < second.1)) :
    (insertEntry key value entries).Pairwise (fun first second => first.1 < second.1) := by
  induction entries with
  | nil => simp [insertEntry]
  | cons first rest inductionHypothesis =>
      obtain ⟨below, sorted⟩ := List.pairwise_cons.mp ascending
      unfold insertEntry
      split
      · rename_i before
        refine List.pairwise_cons.mpr ⟨fun entry member => ?_, ascending⟩
        rcases List.mem_cons.mp member with same | later
        · exact same ▸ before
        · exact String.lt_trans before (below entry later)
      · split
        · rename_i after
          refine List.pairwise_cons.mpr ⟨fun entry member => ?_, inductionHypothesis sorted⟩
          rcases mem_insertEntry member with same | later
          · exact same ▸ after
          · exact below entry later
        · rename_i notBefore notAfter
          have same : key = first.1 := String.le_antisymm notAfter notBefore
          exact List.pairwise_cons.mpr ⟨fun entry later => same ▸ below entry later, sorted⟩

def empty {α : Type} : SortedMap α :=
  ⟨[], .nil⟩

/-- The value of a key that is there already is replaced. -/
def insert {α : Type} (map : SortedMap α) (key : String) (value : α) : SortedMap α :=
  ⟨insertEntry key value map.entries, insertEntry_ascending key value map.ascending⟩

/-- The value in the first entry with a key. -/
def lookup {α : Type} (key : String) : List (String × α) → Option α
  | [] => none
  | entry :: rest => if entry.1 = key then some entry.2 else lookup key rest

def get? {α : Type} (map : SortedMap α) (key : String) : Option α :=
  lookup key map.entries

def contains {α : Type} (map : SortedMap α) (key : String) : Bool :=
  (map.get? key).isSome

def keys {α : Type} (map : SortedMap α) : List String :=
  map.entries.map (·.1)

def isEmpty {α : Type} (map : SortedMap α) : Bool :=
  map.entries.isEmpty

/-- The value of a key that is there already stays. -/
def insertNew {α : Type} (map : SortedMap α) (key : String) (value : α) : SortedMap α :=
  if map.contains key then map else map.insert key value

/-- The entries that have a new value keep their keys. -/
def filterMap {α β : Type} (map : SortedMap α) (change : String → α → Option β) : SortedMap β where
  entries := map.entries.filterMap fun entry =>
    (change entry.1 entry.2).map fun value => (entry.1, value)
  ascending := by
    refine List.pairwise_filterMap.mpr (map.ascending.imp fun less new found old kept => ?_)
    obtain ⟨_, _, rfl⟩ := Option.map_eq_some_iff.mp found
    obtain ⟨_, _, rfl⟩ := Option.map_eq_some_iff.mp kept
    exact less

/-- Entries go in one after the other; the first of a key stays. -/
def ofListKeepingFirst {α : Type} (entries : List (String × α)) : SortedMap α :=
  entries.foldl (fun map entry => map.insertNew entry.1 entry.2) empty

theorem get?_empty {α : Type} (key : String) : (empty : SortedMap α).get? key = none :=
  rfl

theorem lookup_eq_some_iff {α : Type} {key : String} {value : α} {entries : List (String × α)}
    (ascending : entries.Pairwise (fun first second => first.1 < second.1)) :
    lookup key entries = some value ↔ (key, value) ∈ entries := by
  induction entries with
  | nil => simp [lookup]
  | cons first rest inductionHypothesis =>
      obtain ⟨below, sorted⟩ := List.pairwise_cons.mp ascending
      rw [lookup, List.mem_cons]
      split
      · rename_i same
        subst same
        refine ⟨fun found => .inl (Option.some.inj found ▸ rfl), fun found => ?_⟩
        rcases found with equal | later
        · exact congrArg some (congrArg Prod.snd equal).symm
        · exact absurd (below _ later) (String.lt_irrefl _)
      · rename_i different
        rw [inductionHypothesis sorted]
        exact (or_iff_right fun equal => different (congrArg Prod.fst equal).symm).symm

/-- The value of a key stands in the one entry with that key. -/
theorem get?_eq_some_iff {α : Type} {map : SortedMap α} {key : String} {value : α} :
    map.get? key = some value ↔ (key, value) ∈ map.entries :=
  lookup_eq_some_iff map.ascending

theorem mem_keys_iff {α : Type} {map : SortedMap α} {key : String} :
    key ∈ map.keys ↔ map.contains key = true := by
  rw [contains, Option.isSome_iff_exists, keys, List.mem_map]
  refine ⟨fun ⟨entry, found, same⟩ => ⟨entry.2, get?_eq_some_iff.mpr (same ▸ found)⟩, ?_⟩
  exact fun ⟨value, found⟩ => ⟨(key, value), get?_eq_some_iff.mp found, rfl⟩

theorem keys_ascending {α : Type} (map : SortedMap α) : map.keys.Pairwise (· < ·) :=
  List.pairwise_map.mpr map.ascending

theorem lookup_insertEntry {α : Type} (key other : String) (value : α)
    (entries : List (String × α)) :
    lookup other (insertEntry key value entries) =
      if key = other then some value else lookup other entries := by
  induction entries with
  | nil => rfl
  | cons first rest inductionHypothesis =>
      unfold insertEntry
      split
      · rfl
      · split
        · rename_i after
          rw [lookup, lookup, inductionHypothesis]
          split
          · rename_i found
            exact (if_neg fun same => String.lt_irrefl key (by rwa [found, ← same] at after)).symm
          · rfl
        · rename_i notBefore notAfter
          have equal : key = first.1 := String.le_antisymm notAfter notBefore
          rw [lookup, lookup, ← equal]
          split <;> rfl

theorem get?_insert {α : Type} (map : SortedMap α) (key other : String) (value : α) :
    (map.insert key value).get? other = if key = other then some value else map.get? other :=
  lookup_insertEntry key other value map.entries

theorem get?_insertNew {α : Type} (map : SortedMap α) (key other : String) (value : α) :
    (map.insertNew key value).get? other =
      (map.get? other).or (if key = other then some value else none) := by
  unfold insertNew contains
  cases held : map.get? key with
  | none =>
      rw [if_neg (by simp), get?_insert]
      split
      · rename_i same
        rw [← same, held, Option.none_or]
      · rw [Option.or_none]
  | some old =>
      rw [Option.isSome_some, if_pos rfl]
      split
      · rename_i same
        rw [← same, held, Option.some_or]
      · rw [Option.or_none]

theorem get?_filterMap {α β : Type} (map : SortedMap α) (change : String → α → Option β)
    (key : String) : (map.filterMap change).get? key = (map.get? key).bind (change key) := by
  ext value
  rw [get?_eq_some_iff, Option.bind_eq_some_iff]
  simp only [filterMap, List.mem_filterMap, Option.map_eq_some_iff, Prod.mk.injEq]
  constructor
  · rintro ⟨entry, found, new, changed, rfl, rfl⟩
    exact ⟨entry.2, get?_eq_some_iff.mpr found, changed⟩
  · rintro ⟨old, found, changed⟩
    exact ⟨(key, old), get?_eq_some_iff.mp found, value, changed, rfl, rfl⟩

theorem get?_foldl_insertNew {α : Type} (map : SortedMap α) (entries : List (String × α))
    (key : String) :
    (entries.foldl (fun map entry => map.insertNew entry.1 entry.2) map).get? key =
      (map.get? key).or (lookup key entries) := by
  induction entries generalizing map with
  | nil => exact (Option.or_none).symm
  | cons first rest inductionHypothesis =>
      rw [List.foldl_cons, inductionHypothesis, get?_insertNew, lookup, Option.or_assoc]
      split <;> rfl

/-- Of the entries with a key the first counts. -/
theorem get?_ofListKeepingFirst {α : Type} (entries : List (String × α)) (key : String) :
    (ofListKeepingFirst entries).get? key = lookup key entries := by
  rw [ofListKeepingFirst, get?_foldl_insertNew, get?_empty, Option.none_or]

/-- Maps with the same values are the same. -/
theorem eq_of_get? {α : Type} {first second : SortedMap α}
    (same : ∀ key, first.get? key = second.get? key) : first = second := by
  obtain ⟨firstEntries, sorted⟩ := first
  obtain ⟨secondEntries, alsoSorted⟩ := second
  obtain rfl : firstEntries = secondEntries :=
    eq_of_mem_of_pairwise (fun _ _ => String.lt_asymm) sorted alsoSorted fun entry => by
      rw [← lookup_eq_some_iff sorted, ← lookup_eq_some_iff alsoSorted]
      exact iff_of_eq (congrArg (· = some entry.2) (same entry.1))
  rfl

end SortedMap

end AccessGraph
