/-
This file says what the rows of the resource map count: the bundles that grant a permission, the
bindings that grant these, and the subjects of those bindings, each once.
-/

import AccessGraph.Proofs.Aggregation.Closure
import AccessGraph.Proofs.Query.Access
import AccessGraph.Proofs.Rule.Parts
import AccessGraph.Proofs.Sorting
import AccessGraph.Query.ResourceMap
import Mathlib.Data.Set.Card

namespace AccessGraph

open Relation

/-- A rule covers every verb on every resource of every group, and every verb on every URL. -/
inductive PolicyRule.Covers (rule : PolicyRule) : RuleRef.Permission → Prop
  | resource {group resource verb : String} (inGroup : group ∈ rule.groups)
      (listed : resource ∈ rule.resourceKeys) (allowed : verb ∈ rule.verbNames) :
      Covers rule ⟨group, resourceKey (splitResource resource).1 (splitResource resource).2, verb,
        false⟩
  | url {url verb : String} (listed : url ∈ rule.urls) (allowed : verb ∈ rule.verbNames) :
      Covers rule ⟨"", url, verb, true⟩

namespace SourcedRule

/-- The grants of a rule are about what the rule covers. -/
theorem exists_refs_iff {sourced : SourcedRule} {permission : RuleRef.Permission} :
    (∃ grant ∈ sourced.refs, grant.permission = permission) ↔ sourced.rule.Covers permission := by
  simp only [mem_refs_iff]
  constructor
  · intro given
    obtain ⟨grant, found, rfl⟩ := given
    rcases found with ⟨group, inGroup, resource, listed, verb, allowed, rfl⟩ |
      ⟨url, listed, verb, allowed, rfl⟩
    · exact .resource inGroup listed allowed
    · exact .url listed allowed
  · intro covers
    cases covers with
    | resource inGroup listed allowed =>
        exact ⟨_, .inl ⟨_, inGroup, _, listed, _, allowed, rfl⟩, permission_resourceRef _ _ _ _ _⟩
    | url listed allowed => exact ⟨_, .inr ⟨_, listed, _, allowed, rfl⟩, permission_urlRef _ _ _⟩

end SourcedRule

namespace RuleRef.Permission

instance : Std.TransCmp order := by
  unfold order
  infer_instance

/-- Permissions of which none comes first are the same. -/
instance : Std.LawfulEqCmp order where
  eq_of_compare := by
    intro first second same
    simp only [order, compareLex_eq_eq, compareOn, Std.LawfulEqOrd.compare_eq_iff_eq] at same
    obtain ⟨group, resource, verb, nonResource⟩ := same
    cases first
    cases second
    simp_all

end RuleRef.Permission

theorem encard_eq_length {elements : List String} (differ : elements.Nodup) :
    (elements.length : ℕ∞) = {element | element ∈ elements}.encard := by
  rw [← List.coe_toFinset, Set.encard_coe_eq_coe_finsetCard, List.toFinset_card_of_nodup differ]

/-- Without its repetitions a list is as long as there are different elements in it. -/
theorem encard_eq_length_distinct (elements : List String) :
    ((distinct elements).length : ℕ∞) = {element | element ∈ elements}.encard := by
  rw [encard_eq_length (distinct_nodup elements)]
  simp only [mem_distinct]

namespace Catalog

/-- A bundle grants a permission when it, or a bundle that it selects directly or through others,
has a rule that covers the permission. -/
structure Grants (catalog : Catalog) (permission : RuleRef.Permission) (id : String) : Prop where
  listed : ∃ bundle, catalog.bundle? id = some bundle
  covered : ∃ source holder rule,
    ReflTransGen (Aggregation.Selects (CatalogIndex.of catalog).bundles) id source ∧
    catalog.bundle? source = some holder ∧ rule ∈ holder.rules ∧ rule.Covers permission

/-- A binding of the catalog names a bundle that grants a permission. -/
structure Bound (catalog : Catalog) (permission : RuleRef.Permission) (binding : Binding) :
    Prop where
  listed : binding ∈ catalog.bindings
  granting : ∃ id, binding.bundleId? = some id ∧ catalog.Grants permission id

/-- The rows count what grants each permission, and there is one row for every permission that is
granted at all. -/
structure Recounts (catalog : Catalog) (rows : List ResourceMapRow) : Prop where
  ascending : rows.Pairwise fun first second =>
    first.permission.order second.permission = .lt
  unique : (rows.map ResourceMapRow.permission).Nodup
  permissions : ∀ permission, (∃ row ∈ rows, row.permission = permission) ↔
    ∃ id, catalog.Grants permission id
  roles : ∀ row ∈ rows, (row.roleCount : ℕ∞) = {id | catalog.Grants row.permission id}.encard
  bindings : ∀ row ∈ rows, (row.bindingCount : ℕ∞) =
    {id | ∃ binding, catalog.Bound row.permission binding ∧ binding.id = id}.encard
  subjects : ∀ row ∈ rows, (row.subjectCount : ℕ∞) =
    {id | ∃ binding, catalog.Bound row.permission binding ∧
      ∃ subject ∈ binding.subjects, subjectNodeId subject (subject.space binding) = id}.encard

end Catalog

namespace ResourceMap

variable {catalog : Catalog}

/-- A bundle has a grant of a permission when one of its rules after aggregation has. -/
theorem mem_grants_iff_exists {permission : RuleRef.Permission} {id : String} :
    (permission, id) ∈ grants (CatalogIndex.of catalog) catalog.aggregation ↔
      ∃ bundle, catalog.bundle? id = some bundle ∧
        ∃ sourced ∈ catalog.aggregation.effectiveRules id bundle,
          ∃ grant ∈ sourced.refs, grant.permission = permission := by
  simp only [grants, mem_distinct, List.mem_flatMap, List.mem_map, Prod.mk.injEq,
    ← CatalogIndex.get?_bundles_of, SortedMap.get?_eq_some_iff]
  constructor
  · intro given
    obtain ⟨entry, known, grant, ⟨sourced, effective, member⟩, rfl, rfl⟩ := given
    exact ⟨entry.2, known, sourced, effective, grant, member, rfl⟩
  · intro given
    obtain ⟨bundle, known, sourced, effective, grant, member, rfl⟩ := given
    exact ⟨(id, bundle), known, grant, ⟨sourced, effective, member⟩, rfl, rfl⟩

theorem mem_grants_iff {permission : RuleRef.Permission} {id : String} :
    (permission, id) ∈ grants (CatalogIndex.of catalog) catalog.aggregation ↔
      catalog.Grants permission id := by
  have opened : (permission, id) ∈ grants (CatalogIndex.of catalog) catalog.aggregation ↔
      ∃ bundle, catalog.bundle? id = some bundle ∧
        ∃ rule ∈ (catalog.aggregation.effectiveRules id bundle).map SourcedRule.rule,
          rule.Covers permission := by
    simp only [mem_grants_iff_exists, SourcedRule.exists_refs_iff, List.mem_map,
      exists_exists_and_eq_and]
  rw [opened]
  constructor
  · intro given
    obtain ⟨bundle, known, rule, effective, covers⟩ := given
    obtain ⟨source, reaches, held⟩ := (Aggregation.rule_mem_effectiveRules_iff
      (CatalogIndex.get?_bundles_of.trans known)).mp effective
    obtain ⟨holder, found, member⟩ := Aggregation.mem_rulesOf_iff.mp held
    exact ⟨⟨bundle, known⟩, source, holder, rule, reaches,
      CatalogIndex.get?_bundles_of.symm.trans found, member, covers⟩
  · intro given
    obtain ⟨⟨bundle, known⟩, source, holder, rule, reaches, found, member, covers⟩ := given
    refine ⟨bundle, known, rule, ?_, covers⟩
    apply (Aggregation.rule_mem_effectiveRules_iff
      (CatalogIndex.get?_bundles_of.trans known)).mpr
    exact ⟨source, reaches,
      Aggregation.mem_rulesOf_iff.mpr ⟨holder, CatalogIndex.get?_bundles_of.trans found, member⟩⟩

/-- The permissions that are granted, in ascending order. -/
def permissions (index : CatalogIndex) (aggregation : Aggregation) : List RuleRef.Permission :=
  (distinct ((grants index aggregation).map (·.1))).mergeSort fun first second =>
    (first.order second).isLE

/-- The bundles that grant a permission. -/
def grantors (index : CatalogIndex) (aggregation : Aggregation)
    (permission : RuleRef.Permission) : List String :=
  ((grants index aggregation).filter (·.1 == permission)).map (·.2)

theorem rows_eq (index : CatalogIndex) (aggregation : Aggregation) :
    rows index aggregation = (permissions index aggregation).map fun permission =>
      row index permission (grantors index aggregation permission) :=
  rfl

theorem permissions_ascending (index : CatalogIndex) (aggregation : Aggregation) :
    (permissions index aggregation).Pairwise fun first second => first.order second = .lt :=
  mergeSort_ascending (distinct_nodup _)

theorem permissions_nodup (index : CatalogIndex) (aggregation : Aggregation) :
    (permissions index aggregation).Nodup :=
  (List.mergeSort_perm _ _).nodup_iff.mpr (distinct_nodup _)

theorem mem_permissions_iff {permission : RuleRef.Permission} :
    permission ∈ permissions (CatalogIndex.of catalog) catalog.aggregation ↔
      ∃ id, catalog.Grants permission id := by
  simp [permissions, mem_distinct, mem_grants_iff]

theorem grantors_nodup (index : CatalogIndex) (aggregation : Aggregation)
    (permission : RuleRef.Permission) : (grantors index aggregation permission).Nodup := by
  apply List.Nodup.map_on _ ((distinct_nodup _).filter _)
  intro first member second alsoMember same
  have permissionOf := (List.mem_filter.mp member).2
  have alsoPermissionOf := (List.mem_filter.mp alsoMember).2
  rw [beq_iff_eq] at permissionOf alsoPermissionOf
  exact Prod.ext (permissionOf.trans alsoPermissionOf.symm) same

theorem mem_grantors_iff {permission : RuleRef.Permission} {id : String} :
    id ∈ grantors (CatalogIndex.of catalog) catalog.aggregation permission ↔
      catalog.Grants permission id := by
  rw [← mem_grants_iff]
  simp [grantors]

/-- The bindings of the bundles that grant a permission. -/
def bindingsOf (index : CatalogIndex) (aggregation : Aggregation)
    (permission : RuleRef.Permission) : List Binding :=
  (grantors index aggregation permission).flatMap index.bindingsFor

theorem mem_bindingsOf_iff {permission : RuleRef.Permission} {binding : Binding} :
    binding ∈ bindingsOf (CatalogIndex.of catalog) catalog.aggregation permission ↔
      catalog.Bound permission binding := by
  simp only [bindingsOf, List.mem_flatMap, mem_grantors_iff, CatalogIndex.mem_bindingsFor_of]
  constructor
  · intro given
    obtain ⟨id, grants, listed, named, -⟩ := given
    exact ⟨listed, id, named, grants⟩
  · intro bound
    obtain ⟨id, named, grants⟩ := bound.granting
    exact ⟨id, grants, bound.listed, named, Option.isSome_iff_exists.mpr grants.listed⟩

section

variable (catalog) (permission : RuleRef.Permission)

theorem encard_grantors :
    ((grantors (CatalogIndex.of catalog) catalog.aggregation permission).length : ℕ∞) =
      {id | catalog.Grants permission id}.encard := by
  rw [encard_eq_length (grantors_nodup _ _ _)]
  simp only [mem_grantors_iff]

theorem encard_bindingIds :
    ((distinct ((bindingsOf (CatalogIndex.of catalog) catalog.aggregation permission).map
      (·.id))).length : ℕ∞) =
      {id | ∃ binding, catalog.Bound permission binding ∧ binding.id = id}.encard := by
  rw [encard_eq_length_distinct]
  simp only [List.mem_map, mem_bindingsOf_iff]

theorem encard_subjectIds :
    ((distinct ((bindingsOf (CatalogIndex.of catalog) catalog.aggregation permission).flatMap
      fun binding => binding.subjects.map (Inquiry.subjectId binding))).length : ℕ∞) =
      {id | ∃ binding, catalog.Bound permission binding ∧
        ∃ subject ∈ binding.subjects, Inquiry.subjectId binding subject = id}.encard := by
  rw [encard_eq_length_distinct]
  simp only [List.mem_flatMap, List.mem_map, mem_bindingsOf_iff]

end

theorem map_permission_rows (index : CatalogIndex) (aggregation : Aggregation) :
    (rows index aggregation).map ResourceMapRow.permission = permissions index aggregation := by
  rw [rows_eq, List.map_map]
  exact List.map_id _

/-- The resource map says what an independent count of the catalog says. -/
theorem rows_recount (catalog : Catalog) :
    catalog.Recounts (rows (CatalogIndex.of catalog) catalog.aggregation) := by
  constructor
  · have sorted := permissions_ascending (CatalogIndex.of catalog) catalog.aggregation
    rwa [← map_permission_rows, List.pairwise_map] at sorted
  · rw [map_permission_rows]
    exact permissions_nodup _ _
  · intro permission
    rw [← mem_permissions_iff, ← map_permission_rows, List.mem_map]
  · intro row member
    obtain ⟨permission, -, rfl⟩ := List.mem_map.mp member
    exact encard_grantors catalog permission
  · intro row member
    obtain ⟨permission, -, rfl⟩ := List.mem_map.mp member
    exact encard_bindingIds catalog permission
  · intro row member
    obtain ⟨permission, -, rfl⟩ := List.mem_map.mp member
    exact encard_subjectIds catalog permission

end ResourceMap

end AccessGraph
