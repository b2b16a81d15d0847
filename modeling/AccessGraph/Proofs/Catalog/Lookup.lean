/-
This file says what the index of a catalog answers, in terms of the catalog alone.
-/

import AccessGraph.Catalog.Index

namespace AccessGraph

namespace SortedMap

/-- A lookup in entries that are keyed by a function finds the first element of the key. -/
theorem lookup_map_eq_find? {α : Type} (key : α → String) (wanted : String) (elements : List α) :
    lookup wanted (elements.map fun element => (key element, element)) =
      elements.find? (key · == wanted) := by
  induction elements with
  | nil => rfl
  | cons element rest inductionHypothesis =>
      rw [List.map_cons, lookup, inductionHypothesis, List.find?_cons]
      by_cases same : key element = wanted
      · simp [same]
      · simp [same, beq_eq_false_iff_ne.mpr same]

/-- The entries whose values are to be kept. -/
def filter {α : Type} (map : SortedMap α) (keep : α → Bool) : SortedMap α :=
  map.filterMap fun _ value => if keep value then some value else none

section

variable {α : Type} (map : SortedMap α) (keep : α → Bool)

theorem get?_filter (key : String) : (map.filter keep).get? key = (map.get? key).filter keep := by
  rw [filter, get?_filterMap]
  cases map.get? key with
  | none => rfl
  | some value => rfl

theorem entries_filter : (map.filter keep).entries = map.entries.filter (keep ·.2) := by
  rw [filter, filterMap, ← List.filterMap_eq_filter]
  apply congrArg (map.entries.filterMap ·)
  funext entry
  cases kept : keep entry.2 <;> simp [Option.guard, kept]

/-- What is to be kept in the end may be kept at once. -/
theorem filter_filter_of_imp {other : α → Bool}
    (narrower : ∀ value, other value = true → keep value = true) :
    (map.filter keep).filter other = map.filter other := by
  apply eq_of_get?
  intro key
  rw [get?_filter, get?_filter, get?_filter, Option.filter_filter]
  apply congrArg (fun kept => (map.get? key).filter kept)
  funext value
  cases last : other value with
  | false => simp
  | true => simp [narrower value last]

end

end SortedMap

namespace Catalog

/-- The first bundle of an id in the order of the catalog. -/
def bundle? (catalog : Catalog) (id : String) : Option Bundle :=
  catalog.bundles.find? (·.id == id)

theorem id_of_bundle? {catalog : Catalog} {id : String} {bundle : Bundle}
    (found : catalog.bundle? id = some bundle) : bundle.id = id := by
  have named := List.find?_some found
  simpa using named

end Catalog

namespace CatalogIndex

variable {catalog : Catalog} {id : String}

/-- Of the bundles with an id the first counts. -/
theorem get?_bundles_of : (CatalogIndex.of catalog).bundles.get? id = catalog.bundle? id := by
  change (bundlesById catalog.bundles).get? id = _
  rw [bundlesById, SortedMap.get?_ofListKeepingFirst, SortedMap.lookup_map_eq_find?]
  rfl

theorem contains_bundles_of :
    (CatalogIndex.of catalog).bundles.contains id = (catalog.bundle? id).isSome := by
  rw [SortedMap.contains, get?_bundles_of]

/-- A binding is kept with the id of the bundle that it grants, if there is such a bundle. -/
theorem resolved?_eq_some_iff {bundles : SortedMap Bundle} {binding : Binding}
    {entry : String × Binding} : resolved? bundles binding = some entry ↔
      binding.bundleId? = some entry.1 ∧ bundles.contains entry.1 = true ∧ entry.2 = binding := by
  obtain ⟨id, kept⟩ := entry
  unfold resolved? resolve
  cases binding.bundleId? with
  | none => simp [Except.toOption]
  | some named =>
      dsimp only
      by_cases known : bundles.contains named = true
      · rw [if_pos known]
        simp only [Except.toOption, Option.some.injEq, Prod.mk.injEq]
        constructor
        · intro given
          obtain ⟨rfl, rfl⟩ := given
          exact ⟨rfl, known, rfl⟩
        · intro given
          obtain ⟨rfl, -, rfl⟩ := given
          exact ⟨rfl, rfl⟩
      · rw [if_neg known]
        simp only [Except.toOption, Option.some.injEq, reduceCtorEq, false_iff]
        intro given
        obtain ⟨rfl, contained, -⟩ := given
        exact known contained

/-- The bindings that grant a known bundle are those of the catalog that name it. -/
theorem bindingsFor_of :
    (CatalogIndex.of catalog).bindingsFor id =
      catalog.bindings.filter fun binding =>
        binding.bundleId? == some id && (catalog.bundle? id).isSome := by
  have pointwise : ∀ binding : Binding,
      ((resolved? (CatalogIndex.of catalog).bundles binding).filter (·.1 == id)).map (·.2) =
        Option.guard (fun binding => binding.bundleId? == some id &&
          (catalog.bundle? id).isSome) binding := by
    intro binding
    ext kept
    simp only [Option.map_eq_some_iff, Option.filter_eq_some_iff, resolved?_eq_some_iff,
      Option.guard_eq_some_iff, beq_iff_eq, Bool.and_eq_true, ← contains_bundles_of]
    constructor
    · intro given
      obtain ⟨entry, ⟨⟨named, known, rfl⟩, rfl⟩, rfl⟩ := given
      exact ⟨rfl, named, known⟩
    · intro given
      obtain ⟨rfl, named, known⟩ := given
      exact ⟨(id, binding), ⟨⟨named, known, rfl⟩, rfl⟩, rfl⟩
  change (((catalog.bindings.filterMap
    (resolved? (CatalogIndex.of catalog).bundles)).filter (·.1 == id)).map (·.2)) = _
  rw [List.filter_filterMap, List.map_filterMap, ← List.filterMap_eq_filter]
  exact congrArg (catalog.bindings.filterMap ·) (funext pointwise)

theorem mem_bindingsFor_of {binding : Binding} :
    binding ∈ (CatalogIndex.of catalog).bindingsFor id ↔
      binding ∈ catalog.bindings ∧ binding.bundleId? = some id ∧
        (catalog.bundle? id).isSome = true := by
  simp [bindingsFor_of]

end CatalogIndex

end AccessGraph
