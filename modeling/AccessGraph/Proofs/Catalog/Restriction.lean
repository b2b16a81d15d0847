/-
This file restricts a catalog to what a scope can see of it, and says what its index loses thereby.
-/

import AccessGraph.Proofs.Catalog.Lookup
import AccessGraph.Proofs.Scope
import AccessGraph.Query.Placement

namespace AccessGraph

/-- A namespace is held by a scope that names it, trimmed. -/
def Scope.holds (scope : Scope) (namespaceName : Option String) : Bool :=
  namespaceName.any fun space => scope.namespaces.contains (Text.trim space)

namespace Catalog

/-- The roles, the bindings in namespaces and the pods go whose namespace is not held. -/
def restrict (scope : Scope) (catalog : Catalog) : Catalog where
  bundles := catalog.bundles.filter fun bundle =>
    bundle.isClusterScoped || scope.holds bundle.namespaceName
  bindings := catalog.bindings.filter fun binding =>
    binding.isClusterScoped || scope.holds binding.namespaceName
  pods := catalog.pods.filter fun pod => scope.holds (some pod.namespaceName)
  workloads := catalog.workloads

/-- No name of a bundle has a slash in it, so that it cannot be taken for a namespace and a name. -/
def HasPlainNames (catalog : Catalog) : Prop :=
  ∀ bundle ∈ catalog.bundles, '/' ∉ bundle.name.toList

instance (catalog : Catalog) : Decidable catalog.HasPlainNames :=
  inferInstanceAs (Decidable (∀ bundle ∈ catalog.bundles, '/' ∉ bundle.name.toList))

end Catalog

namespace Scope

variable {scope : Scope}

/-- A scope that names some namespaces, and none that is blank. -/
structure Confines (scope : Scope) : Prop where
  active : scope.isActive = true
  filled : scope.namespaces.contains "" = false

/-- The scope of a request names no blank namespace. -/
theorem confines_of {namespaceScope : Option NamespaceScope}
    (active : (Scope.of namespaceScope).isActive = true) : (Scope.of namespaceScope).Confines := by
  refine ⟨active, ?_⟩
  cases namespaceScope with
  | none => simp [Scope.of, unrestricted, isActive, SortedSet.isEmpty, SortedSet.empty] at active
  | some namespaceScope =>
      rw [Bool.eq_false_iff]
      intro blank
      obtain ⟨wanted, -, -, filled⟩ := names_of_iff.mp (SortedSet.contains_iff.mp blank)
      simp at filled

section

variable (confines : scope.Confines)

include confines

/-- A namespace is held when it is given and named. -/
theorem holds_eq (namespaceName : Option String) :
    scope.holds namespaceName = (givenNamespace namespaceName).any scope.allowsNamespace := by
  cases namespaceName with
  | none => rfl
  | some space =>
      change scope.namespaces.contains (Text.trim space) = _
      cases blank : (Text.trim space).isEmpty with
      | true =>
          have none : givenNamespace (some space) = none := by
            simp [givenNamespace, String.isEmpty_iff.mp blank]
          rw [none, String.isEmpty_iff.mp blank]
          exact confines.filled
      | false =>
          have given : givenNamespace (some space) = some (Text.trim space) := by
            simp [givenNamespace, blank]
          rw [given, Option.any_some, allowsNamespace, confines.active, Text.trim_trim]
          rfl

/-- A confining scope allows the bundles of the cluster and those whose namespace it holds. -/
theorem allowsBundle_eq (bundle : Bundle) :
    scope.allowsBundle bundle = (bundle.isClusterScoped || scope.holds bundle.namespaceName) := by
  rw [allowsBundle, holds_eq confines, Bundle.space]
  cases givenNamespace bundle.namespaceName with
  | none => simp [confines.active]
  | some space => rfl

/-- A binding that is allowed belongs to the cluster or lives in a namespace that is held. -/
theorem holds_of_allowsBinding {binding : Binding} (allowed : scope.allowsBinding binding = true) :
    (binding.isClusterScoped || scope.holds binding.namespaceName) = true := by
  cases cluster : binding.isClusterScoped with
  | true => rfl
  | false =>
      simp only [allowsBinding, confines.active, cluster, Bool.not_true, Bool.false_eq_true,
        if_false, Bool.not_false, if_true, Option.any_eq_true] at allowed
      obtain ⟨space, lives, within⟩ := allowed
      rw [Bool.false_or, holds_eq confines, Binding.givenNamespace_of_space lives]
      exact within

/-- Pods that are looked up in a namespace are in one that is held. -/
theorem holds_of_allowsNamespace {space : String} (allowed : scope.allowsNamespace space = true) :
    scope.holds (some space) = true := by
  rw [allowsNamespace, confines.active] at allowed
  exact allowed

end

end Scope

namespace Bundle

/-- The first character of an id tells the kind of the bundle. -/
theorem head?_id (bundle : Bundle) :
    bundle.id.toList.head? = some (if bundle.isClusterScoped then 'c' else 'r') := by
  unfold id isClusterScoped bundleId
  cases bundle.kind <;> cases bundle.space <;> simp [String.toList_append]

theorem isClusterScoped_eq_of_id_eq {first second : Bundle} (same : first.id = second.id) :
    first.isClusterScoped = second.isClusterScoped := by
  have heads := first.head?_id
  rw [same, second.head?_id] at heads
  cases cluster : first.isClusterScoped <;> cases alsoCluster : second.isClusterScoped <;>
    simp [cluster, alsoCluster] at heads ⊢

/-- The id of a role without a namespace is that of one with a namespace only through its name. -/
theorem slash_mem_of_bundleId_eq {name space other : String}
    (same : bundleId .role none name = bundleId .role (some space) other) : '/' ∈ name.toList := by
  have slash : '/' ∈ (bundleId .role none name).toList := by
    rw [same]
    simp [bundleId, String.toList_append]
  simpa [bundleId, String.toList_append] using slash

/-- The id of a role tells its namespace when the name has no slash in it. -/
theorem space_eq_of_id_eq {first second : Bundle} (plain : '/' ∉ first.name.toList)
    (alsoPlain : '/' ∉ second.name.toList) (role : first.isClusterScoped = false)
    (same : first.id = second.id) : first.space = second.space := by
  have alsoRole : second.isClusterScoped = false :=
    (isClusterScoped_eq_of_id_eq same).symm.trans role
  have kind : first.kind = .role := by
    cases kind : first.kind <;> simp_all [isClusterScoped]
  have alsoKind : second.kind = .role := by
    cases kind : second.kind <;> simp_all [isClusterScoped]
  rw [id, id, kind, alsoKind] at same
  cases lives : first.space with
  | none =>
      cases alsoLives : second.space with
      | none => rfl
      | some other =>
          rw [lives, alsoLives] at same
          exact absurd (slash_mem_of_bundleId_eq same) plain
  | some space =>
      cases alsoLives : second.space with
      | none =>
          rw [lives, alsoLives] at same
          exact absurd (slash_mem_of_bundleId_eq same.symm) alsoPlain
      | some other =>
          rw [lives, alsoLives] at same
          have spaces : "role:" ++ space = "role:" ++ other :=
            (Text.eq_of_joined_eq rfl plain alsoPlain same).1
          exact congrArg some ((String.append_right_inj "role:").mp spaces)

/-- A scope allows all bundles with plain names and one id, or none. -/
theorem allowsBundle_eq_of_id_eq {first second : Bundle} (plain : '/' ∉ first.name.toList)
    (alsoPlain : '/' ∉ second.name.toList) (same : first.id = second.id) (scope : Scope) :
    scope.allowsBundle first = scope.allowsBundle second := by
  rw [Scope.allowsBundle, Scope.allowsBundle, ← isClusterScoped_eq_of_id_eq same]
  cases role : first.isClusterScoped with
  | true => rfl
  | false => rw [space_eq_of_id_eq plain alsoPlain role same]

end Bundle

/-- To filter first or to search first is the same if all that is searched for is kept, or none. -/
theorem find?_filter_of_agree {α : Type} {wanted keep : α → Bool} {elements : List α}
    (agree : ∀ first ∈ elements, ∀ second ∈ elements, wanted first = true → wanted second = true →
      keep first = keep second) :
    (elements.filter keep).find? wanted = (elements.find? wanted).filter keep := by
  induction elements with
  | nil => rfl
  | cons element rest inductionHypothesis =>
      have later := inductionHypothesis fun first member second present =>
        agree first (List.mem_cons_of_mem _ member) second (List.mem_cons_of_mem _ present)
      rw [List.filter_cons, List.find?_cons]
      cases found : wanted element with
      | false =>
          cases kept : keep element with
          | false => simpa using later
          | true => simpa [found] using later
      | true =>
          cases kept : keep element with
          | true => simp [found, Option.filter, kept]
          | false =>
              -- The first that is wanted goes, and with it every later one that is wanted.
              have none : (rest.filter keep).find? wanted = none := by
                apply List.find?_eq_none.mpr
                intro other member also
                obtain ⟨present, keptToo⟩ := List.mem_filter.mp member
                have same := agree element List.mem_cons_self other
                  (List.mem_cons_of_mem _ present) found also
                rw [kept, keptToo] at same
                exact Bool.false_ne_true same
              simp [none, Option.filter, kept]

namespace Catalog

variable {catalog : Catalog} {scope : Scope}

section

variable (confines : scope.Confines) (plain : catalog.HasPlainNames)

include confines plain

/-- A restricted catalog knows the bundles that the scope allows. -/
theorem bundle?_restrict (id : String) :
    (catalog.restrict scope).bundle? id = (catalog.bundle? id).filter scope.allowsBundle := by
  have same : (catalog.restrict scope).bundles = catalog.bundles.filter scope.allowsBundle := by
    apply List.filter_congr
    intro bundle _
    exact (Scope.allowsBundle_eq confines bundle).symm
  rw [bundle?, same]
  apply find?_filter_of_agree
  intro first member second present named alsoNamed
  exact Bundle.allowsBundle_eq_of_id_eq (plain first member) (plain second present)
    ((beq_iff_eq.mp named).trans (beq_iff_eq.mp alsoNamed).symm) scope

theorem bundles_restrict :
    (CatalogIndex.of (catalog.restrict scope)).bundles =
      (CatalogIndex.of catalog).bundles.filter scope.allowsBundle := by
  apply SortedMap.eq_of_get?
  intro id
  rw [SortedMap.get?_filter, CatalogIndex.get?_bundles_of, CatalogIndex.get?_bundles_of,
    bundle?_restrict confines plain]

/-- Nothing of what the scope allows of the bindings of an allowed bundle is lost. -/
theorem allowedBindings_restrict {id : String} {bundle : Bundle}
    (known : catalog.bundle? id = some bundle) (allowed : scope.allowsBundle bundle = true) :
    ((CatalogIndex.of (catalog.restrict scope)).bindingsFor id).filter scope.allowsBinding =
      ((CatalogIndex.of catalog).bindingsFor id).filter scope.allowsBinding := by
  have stillKnown : (catalog.restrict scope).bundle? id = some bundle := by
    rw [bundle?_restrict confines plain, known]
    exact Option.filter_some_pos allowed
  rw [CatalogIndex.bindingsFor_of, CatalogIndex.bindingsFor_of, stillKnown, known, restrict,
    List.filter_filter, List.filter_filter, List.filter_filter]
  apply List.filter_congr
  intro binding _
  cases kept : scope.allowsBinding binding with
  | false => rfl
  | true => simp [Scope.holds_of_allowsBinding confines kept]

end

/-- No pods of an allowed namespace are lost. -/
theorem podsFor_restrict (confines : scope.Confines) {space : String}
    (allowed : scope.allowsNamespace space = true) (account : String) :
    (CatalogIndex.of (catalog.restrict scope)).podsFor space account =
      (CatalogIndex.of catalog).podsFor space account := by
  have same : (catalog.restrict scope).pods.filter (fun pod =>
      pod.namespaceName == space && pod.serviceAccount == account) =
      catalog.pods.filter fun pod =>
        pod.namespaceName == space && pod.serviceAccount == account := by
    rw [restrict, List.filter_filter]
    apply List.filter_congr
    intro pod _
    by_cases here : pod.namespaceName = space
    · rw [here, Scope.holds_of_allowsNamespace confines allowed, Bool.and_true]
    · simp [here]
  rw [CatalogIndex.podsFor, CatalogIndex.podsFor]
  exact congrArg (fun pods => List.mergeSort pods _) same

end Catalog

end AccessGraph
