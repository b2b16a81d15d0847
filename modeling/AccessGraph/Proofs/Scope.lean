/-
This file says what a scope allows in terms of the namespaces that it names.
-/

import AccessGraph.Proofs.Text.Joined
import AccessGraph.Scope

namespace AccessGraph

/-- A given namespace has no blank characters at its ends, and is not empty. -/
theorem trim_of_givenNamespace {namespaceName : Option String} {space : String}
    (given : givenNamespace namespaceName = some space) :
    Text.trim space = space ∧ space.isEmpty = false := by
  rw [givenNamespace, Option.filter_eq_some_iff, Option.map_eq_some_iff] at given
  obtain ⟨⟨name, -, rfl⟩, filled⟩ := given
  exact ⟨Text.trim_trim name, by simpa using filled⟩

theorem Binding.givenNamespace_of_space {binding : Binding} {space : String}
    (lives : binding.space = some space) : givenNamespace binding.namespaceName = some space := by
  unfold Binding.space at lives
  cases kind : binding.kind <;> simp_all

namespace Scope

variable {scope : Scope}

/-- The scope is active and names the namespace. -/
def Names (scope : Scope) (space : String) : Prop :=
  space ∈ scope.namespaces.toList

theorem allowsNamespace_iff {space : String} : scope.allowsNamespace space = true ↔
    scope.isActive = false ∨ scope.Names (Text.trim space) := by
  rw [allowsNamespace, Bool.or_eq_true, Bool.not_eq_true', SortedSet.contains_iff]
  rfl

theorem allowsNamespace_of_given_iff {namespaceName : Option String} {space : String}
    (given : givenNamespace namespaceName = some space) :
    scope.allowsNamespace space = true ↔ scope.isActive = false ∨ scope.Names space := by
  rw [allowsNamespace_iff, (trim_of_givenNamespace given).1]

/-- A bundle is allowed if it belongs to the cluster, or if the scope is open or names its
namespace. -/
theorem allowsBundle_iff {bundle : Bundle} :
    scope.allowsBundle bundle = true ↔
      bundle.isClusterScoped = true ∨ scope.isActive = false ∨
        ∃ space, bundle.space = some space ∧ scope.Names space := by
  rw [allowsBundle, Bool.or_eq_true]
  cases lives : bundle.space with
  | none => simp
  | some space => simp [allowsNamespace_of_given_iff lives]

/-- The namespaces that a scope names are those of the request, trimmed, but for blank ones. -/
theorem names_of_iff {namespaceScope : NamespaceScope} {space : String} :
    (Scope.of (some namespaceScope)).Names space ↔
      ∃ wanted ∈ namespaceScope.namespaces, Text.trim wanted = space ∧ space.isEmpty = false := by
  simp only [Names, Scope.of, SortedSet.mem_ofList, List.mem_filter, List.mem_map]
  constructor
  · intro named
    obtain ⟨⟨wanted, member, rfl⟩, filled⟩ := named
    exact ⟨wanted, member, rfl, by simpa using filled⟩
  · intro named
    obtain ⟨wanted, member, rfl, filled⟩ := named
    exact ⟨⟨wanted, member, rfl⟩, by simpa using filled⟩

/-- A scope is within a wider one that allows every namespace that it allows, and that is active or
strict only if it is so itself. -/
structure Within (narrow wide : Scope) : Prop where
  namespaces : ∀ space, narrow.allowsNamespace space = true → wide.allowsNamespace space = true
  active : wide.isActive = true → narrow.isActive = true
  strict : wide.isStrict = true → narrow.isStrict = true

section

variable {narrow wide : Scope} (within : narrow.Within wide)

include within

theorem Within.allowsBundle {bundle : Bundle} (allowed : narrow.allowsBundle bundle = true) :
    wide.allowsBundle bundle = true := by
  unfold Scope.allowsBundle at *
  cases cluster : bundle.isClusterScoped with
  | true => rfl
  | false =>
      rw [cluster, Bool.false_or] at allowed
      rw [Bool.false_or]
      cases lives : bundle.space with
      | some space =>
          rw [lives] at allowed
          exact within.namespaces space allowed
      | none =>
          rw [lives] at allowed
          cases active : wide.isActive with
          | false => rfl
          | true => simp [within.active active] at allowed

theorem Within.allowsAny {space : Option String} (allowed : space.any narrow.allowsNamespace = true) :
    space.any wide.allowsNamespace = true := by
  rw [Option.any_eq_true] at allowed ⊢
  obtain ⟨name, given, named⟩ := allowed
  exact ⟨name, given, within.namespaces name named⟩

/-- A wider scope allows the same bindings and further ones. -/
theorem Within.allowsBinding {binding : Binding} (allowed : narrow.allowsBinding binding = true) :
    wide.allowsBinding binding = true := by
  unfold Scope.allowsBinding at *
  cases active : wide.isActive with
  | false => rfl
  | true =>
      rw [within.active active] at allowed
      cases cluster : binding.isClusterScoped with
      | false =>
          simp only [cluster, Bool.not_true, Bool.false_eq_true, if_false, Bool.not_false,
            if_true] at allowed ⊢
          exact within.allowsAny allowed
      | true =>
          cases strict : wide.strict with
          | false => rfl
          | true =>
              have strictToo : narrow.strict = true := by
                have both := within.strict (by rw [isStrict, active, strict]; rfl)
                rw [isStrict, Bool.and_eq_true] at both
                exact both.2
              simp only [cluster, strictToo, Bool.not_true, Bool.false_eq_true, if_false,
                List.any_eq_true] at allowed ⊢
              obtain ⟨subject, targeted, named⟩ := allowed
              exact ⟨subject, targeted, within.allowsAny named⟩

theorem Within.allowsRuntimeSubject {subject : Subject} {binding : Binding}
    (allowed : narrow.allowsRuntimeSubject subject binding = true) :
    wide.allowsRuntimeSubject subject binding = true := by
  unfold Scope.allowsRuntimeSubject at *
  cases lives : subject.space binding with
  | some space =>
      rw [lives] at allowed
      exact within.namespaces space allowed
  | none =>
      rw [lives] at allowed
      cases active : wide.isActive with
      | false => simp
      | true =>
          rw [within.active active] at allowed
          exact allowed

end

theorem isActive_iff : scope.isActive = true ↔ ∃ space, scope.Names space := by
  rw [isActive, Bool.not_eq_true', SortedSet.isEmpty, List.isEmpty_eq_false_iff_exists_mem]
  rfl

/-- Every scope is within the open one. -/
theorem within_unrestricted (scope : Scope) : scope.Within unrestricted where
  namespaces := by
    intro space _
    rfl
  active := by
    intro active
    exact absurd active (by decide)
  strict := by
    intro strict
    exact absurd strict (by decide)

/-- Every namespace that is not blank is among others, up to blank characters around it. -/
def NamesAmong (narrow wide : List String) : Prop :=
  ∀ wanted ∈ narrow, (Text.trim wanted).isEmpty = false →
    ∃ other ∈ wide, Text.trim other = Text.trim wanted

theorem NamesAmong.refl (names : List String) : NamesAmong names names := by
  intro wanted member _
  exact ⟨wanted, member, rfl⟩

/-- A scope that names something is within another that names it too and is strict only if it is. -/
theorem within_of {narrow wide : List String} {strict alsoStrict : Bool}
    (filled : ∃ wanted ∈ narrow, (Text.trim wanted).isEmpty = false)
    (among : NamesAmong narrow wide) (laxer : alsoStrict = true → strict = true) :
    (Scope.of (some ⟨narrow, strict⟩)).Within (Scope.of (some ⟨wide, alsoStrict⟩)) := by
  have active : (Scope.of (some ⟨narrow, strict⟩)).isActive = true := by
    obtain ⟨wanted, member, given⟩ := filled
    exact isActive_iff.mpr ⟨Text.trim wanted, names_of_iff.mpr ⟨wanted, member, rfl, given⟩⟩
  constructor
  · intro space allowed
    rw [allowsNamespace_iff, active] at allowed
    have named := allowed.resolve_left (by decide)
    obtain ⟨wanted, member, same, given⟩ := names_of_iff.mp named
    obtain ⟨other, present, alsoSame⟩ := among wanted member (same ▸ given)
    exact allowsNamespace_iff.mpr
      (.inr (names_of_iff.mpr ⟨other, present, alsoSame.trans same, given⟩))
  · intro _
    exact active
  · intro both
    rw [isStrict, Bool.and_eq_true] at both ⊢
    exact ⟨active, laxer both.2⟩

end Scope

end AccessGraph
