/-
This file says what a catalog loses without its defects: entries that are never looked up, and all
that there is to say of the catalog.
-/

import AccessGraph.Proofs.Catalog.Lookup
import AccessGraph.Proofs.Catalog.Rearrangement

namespace AccessGraph

namespace Catalog

/-- A binding counts when it grants a bundle of the catalog. -/
def grantsBundle (catalog : Catalog) (binding : Binding) : Bool :=
  binding.bundleId?.any fun id => (catalog.bundle? id).isSome

/-- The catalog without every bundle whose id has occurred before, without every binding that grants
no bundle, and without every workload that has no uid or one that has occurred before. -/
def sound (catalog : Catalog) : Catalog :=
  { catalog with
    bundles := distinctBy Bundle.id catalog.bundles
    bindings := catalog.bindings.filter catalog.grantsBundle
    workloads := distinctBy Workload.uid (catalog.workloads.filter (!·.uid.isEmpty)) }

theorem bundle?_sound (catalog : Catalog) : catalog.sound.bundle? = catalog.bundle? := by
  funext id
  exact find?_distinctBy Bundle.id id catalog.bundles

theorem grantsBundle_sound (catalog : Catalog) :
    catalog.sound.grantsBundle = catalog.grantsBundle := by
  funext binding
  rw [grantsBundle, bundle?_sound, grantsBundle]

end Catalog

namespace CatalogIndex

/-- The first bundle of an id stays. -/
theorem bundles_sound (catalog : Catalog) : (of catalog.sound).bundles = (of catalog).bundles := by
  apply SortedMap.eq_of_get?
  intro id
  rw [get?_bundles_of, get?_bundles_of, Catalog.bundle?_sound]

/-- A binding is kept or spoken of, and it is kept when it grants a bundle. -/
theorem resolve_cases (catalog : Catalog) (binding : Binding) :
    (catalog.grantsBundle binding = true ∧
      ∃ entry, resolve (of catalog).bundles binding = .ok entry) ∨
    (catalog.grantsBundle binding = false ∧
      ∃ warning, resolve (of catalog).bundles binding = .error warning) := by
  unfold resolve Catalog.grantsBundle
  cases binding.bundleId? with
  | none => simp
  | some id =>
      simp only [contains_bundles_of, Option.any_some]
      cases (catalog.bundle? id).isSome <;> simp

theorem resolved?_of_not_grantsBundle {catalog : Catalog} {binding : Binding}
    (dropped : catalog.grantsBundle binding = false) :
    resolved? (of catalog).bundles binding = none := by
  rcases resolve_cases catalog binding with ⟨grants, -⟩ | ⟨-, warning, refused⟩
  · cases dropped.symm.trans grants
  · rw [resolved?, refused, Except.toOption]

theorem unresolved?_of_grantsBundle {catalog : Catalog} {binding : Binding}
    (grants : catalog.grantsBundle binding = true) :
    unresolved? (of catalog).bundles binding = none := by
  rcases resolve_cases catalog binding with ⟨-, entry, kept⟩ | ⟨dropped, -⟩
  · rw [unresolved?, kept]
  · cases dropped.symm.trans grants

theorem bindings_sound (catalog : Catalog) :
    (of catalog.sound).bindings = (of catalog).bindings := by
  change (catalog.bindings.filter catalog.grantsBundle).filterMap
    (resolved? (of catalog.sound).bundles) = catalog.bindings.filterMap _
  rw [bundles_sound, List.filterMap_filter]
  apply congrArg (catalog.bindings.filterMap ·)
  funext binding
  split
  · rfl
  · rename_i dropped
    exact (resolved?_of_not_grantsBundle (Bool.eq_false_iff.mpr dropped)).symm

/-- The first workload of a uid stays. -/
theorem workload?_sound (catalog : Catalog) :
    (of catalog.sound).workload? = (of catalog).workload? := by
  have kept : (of catalog.sound).workloads = distinctBy Workload.uid (of catalog).workloads := by
    apply List.filter_eq_self.mpr
    intro workload member
    exact (List.mem_filter.mp ((distinctBy_sublist Workload.uid _).subset member)).2
  funext uid
  rw [workload?, kept]
  exact find?_distinctBy Workload.uid uid _

/-- Nothing but workloads whose uid has occurred before leaves the index with the defects. -/
theorem of_sound (catalog : Catalog) :
    of catalog.sound = { of catalog with workloads := (of catalog.sound).workloads } := by
  have bundles := bundles_sound catalog
  have bindings := bindings_sound catalog
  cases same : of catalog.sound
  rw [same] at bundles bindings
  rw [mk.injEq]
  exact ⟨bundles, bindings, congrArg pods same.symm, rfl⟩

/-- There is nothing to say of a catalog without defects. -/
theorem warnings_sound (catalog : Catalog) : warnings catalog.sound = [] := by
  have duplicates : duplicates [] catalog.sound.bundles = [] :=
    duplicates_eq_nil (distinctBy_keys Bundle.id _) (by simp)
  have bindings : catalog.sound.bindings.filterMap
      (unresolved? (bundlesById catalog.sound.bundles)) = [] := by
    rw [List.filterMap_eq_nil_iff]
    intro binding member
    apply unresolved?_of_grantsBundle
    rw [Catalog.grantsBundle_sound]
    exact (List.mem_filter.mp member).2
  have workloads : catalog.sound.workloads.filter (·.uid.isEmpty) = [] := by
    rw [List.filter_eq_nil_iff]
    intro workload member empty
    have named := (List.mem_filter.mp ((distinctBy_sublist Workload.uid _).subset member)).2
    rw [empty] at named
    cases named
  rw [warnings, duplicates, bindings, workloads]
  rfl

/-- A bundle is a duplicate when its id has been passed or stands before it. -/
theorem mem_duplicates {passed : List String} {before after : List Bundle} {bundle : Bundle}
    (known : bundle.id ∈ passed ∨ bundle.id ∈ before.map Bundle.id) :
    .duplicateBundle bundle.id ∈ duplicates passed (before ++ bundle :: after) := by
  induction before generalizing passed with
  | nil =>
      have seen : passed.contains bundle.id = true :=
        List.contains_iff_mem.mpr (known.resolve_right (by simp))
      rw [List.nil_append, duplicates, if_pos seen]
      exact List.mem_cons_self
  | cons first rest inductionHypothesis =>
      rw [List.map_cons, List.mem_cons] at known
      rw [List.cons_append, duplicates]
      split
      · rename_i seen
        rw [List.contains_iff_mem] at seen
        refine List.mem_cons_of_mem _ (inductionHypothesis ?_)
        rcases known with before | same | later
        · exact .inl before
        · exact .inl (same ▸ seen)
        · exact .inr later
      · apply inductionHypothesis
        rw [List.mem_cons]
        rcases known with before | same | later
        · exact .inl (.inr before)
        · exact .inl (.inl same)
        · exact .inr later

end CatalogIndex

namespace Catalog

/-- Every entry that is left out is spoken of: a bundle whose id has occurred before, a binding that
grants no bundle, and a workload without a uid. -/
structure SpeaksOfDefects (catalog : Catalog) (said : List String) : Prop where
  bundles : ∀ before bundle after, catalog.bundles = before ++ bundle :: after →
    bundle.id ∈ before.map Bundle.id → (CatalogWarning.duplicateBundle bundle.id).message ∈ said
  unresolved : ∀ binding ∈ catalog.bindings, binding.bundleId? = none →
    (CatalogWarning.unresolvedBinding binding.id binding.roleRef.kind
      binding.roleRef.name).message ∈ said
  missing : ∀ binding ∈ catalog.bindings, ∀ id, binding.bundleId? = some id →
    catalog.bundle? id = none → (CatalogWarning.missingBundle binding.id id).message ∈ said
  workloads : ∀ workload ∈ catalog.workloads, workload.uid = "" →
    (CatalogWarning.noUid workload.namespaceName workload.name workload.kind).message ∈ said

theorem SpeaksOfDefects.mono {catalog : Catalog} {said more : List String}
    (speaks : catalog.SpeaksOfDefects said) (within : said ⊆ more) :
    catalog.SpeaksOfDefects more where
  bundles := fun before bundle after split known =>
    within (speaks.bundles before bundle after split known)
  unresolved := fun binding member none => within (speaks.unresolved binding member none)
  missing := fun binding member id named absent =>
    within (speaks.missing binding member id named absent)
  workloads := fun workload member empty => within (speaks.workloads workload member empty)

theorem warnings_speakOfDefects (catalog : Catalog) :
    catalog.SpeaksOfDefects ((CatalogIndex.warnings catalog).map CatalogWarning.message) := by
  have unresolved {binding : Binding} (member : binding ∈ catalog.bindings)
      {warning : CatalogWarning}
      (found : CatalogIndex.unresolved? (CatalogIndex.of catalog).bundles binding = some warning) :
      warning ∈ CatalogIndex.warnings catalog := by
    apply List.mem_append_left
    apply List.mem_append_right
    exact List.mem_filterMap.mpr ⟨binding, member, found⟩
  constructor
  · intro before bundle after split known
    apply List.mem_map_of_mem
    apply List.mem_append_left
    apply List.mem_append_left
    rw [split]
    exact CatalogIndex.mem_duplicates (.inr known)
  · intro binding member none
    apply List.mem_map_of_mem
    apply unresolved member
    rw [CatalogIndex.unresolved?, CatalogIndex.resolve, none]
  · intro binding member id named absent
    apply List.mem_map_of_mem
    apply unresolved member
    have missing : (CatalogIndex.of catalog).bundles.contains id = false := by
      rw [CatalogIndex.contains_bundles_of, absent]
      rfl
    rw [CatalogIndex.unresolved?, CatalogIndex.resolve, named]
    simp only [missing, Bool.false_eq_true, if_false]
  · intro workload member empty
    apply List.mem_map_of_mem
    apply List.mem_append_right
    exact List.mem_map_of_mem (List.mem_filter.mpr ⟨member, by rw [empty]; rfl⟩)

end Catalog

end AccessGraph
