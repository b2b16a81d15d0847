/-
This file says that a request that is loosened selects no less: one condition is enough in place of
all, wildcards count for what they cover, phantoms stay, or more values are wanted of a field.
-/

import AccessGraph.Proofs.Matching.Kept
import Mathlib.Data.List.Forall2

namespace AccessGraph

/-- More values are wanted, of a field of which some are. -/
structure Adds (values more : List String) : Prop where
  kept : values ⊆ more
  stillOpen : values = [] → more = []

namespace Adds

theorem refl (values : List String) : Adds values values where
  kept := List.Subset.refl values
  stillOpen := id

variable {values more : List String} (adds : Adds values more)

include adds

theorem isEmpty_eq : values.isEmpty = more.isEmpty := by
  cases values with
  | nil => rw [adds.stillOpen rfl]
  | cons value rest =>
      have filled := List.ne_nil_of_mem (adds.kept List.mem_cons_self)
      exact (List.isEmpty_eq_false_iff.mpr filled).symm

theorem map (change : String → String) : Adds (values.map change) (more.map change) where
  kept := List.map_subset change adds.kept
  stillOpen := by
    intro none
    rw [adds.stillOpen (List.map_eq_nil_iff.mp none), List.map_nil]

theorem contains {value : String} (wanted : values.contains value = true) :
    more.contains value = true := by
  rw [List.contains_iff_mem] at wanted ⊢
  exact adds.kept wanted

end Adds

/-- Fields that are open stay open, and the others may want more. -/
structure Selector.Extends (strict loose : Selector) : Prop where
  apiGroups : Adds strict.apiGroups loose.apiGroups
  resources : Adds strict.resources loose.resources
  verbs : Adds strict.verbs loose.verbs
  resourceNames : Adds strict.resourceNames loose.resourceNames
  nonResourceUrls : Adds strict.nonResourceUrls loose.nonResourceUrls

/-- A request is loosened in its selector, in its modes or in what it makes of phantoms, and in
nothing else. -/
structure Request.Loosens (strict loose : Request) : Prop where
  selector : strict.selector.Extends loose.selector
  matchMode : loose.matchMode = strict.matchMode ∨
    (strict.matchMode = .all ∧ loose.matchMode = .any)
  wildcardMode : loose.wildcardMode = strict.wildcardMode ∨
    (strict.wildcardMode = .exact ∧ loose.wildcardMode = .expand)
  filterPhantoms : loose.filterPhantoms = strict.filterPhantoms ∨
    (strict.filterPhantoms = true ∧ loose.filterPhantoms = false)
  others : { strict with
    selector := loose.selector
    matchMode := loose.matchMode
    wildcardMode := loose.wildcardMode
    filterPhantoms := loose.filterPhantoms } = loose

namespace Matcher

/-- What loosening a request makes of its matcher. -/
structure Loosens (strict loose : Matcher) : Prop where
  apiGroups : Adds strict.apiGroups loose.apiGroups
  resources : Adds strict.resources loose.resources
  verbs : Adds strict.verbs loose.verbs
  resourceNames : Adds strict.resourceNames loose.resourceNames
  nonResourceUrls : Adds strict.nonResourceUrls loose.nonResourceUrls
  any : strict.matchMode = .any → loose.matchMode = .any
  expands : strict.expands = true → loose.expands = true
  phantoms : loose.filterPhantoms = true → strict.filterPhantoms = true
  discovery : strict.discovery = loose.discovery

theorem loosens_of {strict loose : Request} (loosens : strict.Loosens loose)
    (discovery : Option Discovery) :
    (Matcher.of strict discovery).Loosens (.of loose discovery) where
  apiGroups := loosens.selector.apiGroups.map normalizeName
  resources := loosens.selector.resources.map normalizeName
  verbs := loosens.selector.verbs.map normalizeName
  resourceNames := loosens.selector.resourceNames.map Text.trim
  nonResourceUrls := loosens.selector.nonResourceUrls.map Text.trim
  any := by
    intro any
    rcases loosens.matchMode with same | ⟨-, loosened⟩
    · exact same.trans any
    · exact loosened
  expands := by
    unfold expands Matcher.of
    rcases loosens.wildcardMode with same | ⟨-, loosened⟩
    · rw [same]
      exact id
    · intro _
      rw [loosened]
      rfl
  phantoms := by
    intro filters
    rcases loosens.filterPhantoms with same | ⟨-, loosened⟩
    · exact same.symm.trans filters
    · cases loosened.symm.trans filters
  discovery := rfl

/-- The first of two answers implies the second. -/
def Implies (first second : Bool) : Prop :=
  first = true → second = true

section

variable {strict loose : Matcher} (loosens : strict.Loosens loose)

include loosens

theorem Loosens.valueMatches {wanted more : List String} (adds : Adds wanted more)
    (value : String) :
    Implies (strict.valueMatches wanted value) (loose.valueMatches more value) := by
  simp only [Implies, Matcher.valueMatches, Bool.or_eq_true, Bool.and_eq_true]
  intro given
  rcases given with (isOpen | listed) | ⟨expands, wildcards⟩
  · exact .inl (.inl (adds.isEmpty_eq ▸ isOpen))
  · exact .inl (.inr (adds.contains listed))
  · exact .inr ⟨loosens.expands expands, wildcards.imp_right adds.contains⟩

theorem Loosens.resourceMatches (grant : RuleRef) :
    Implies (strict.resourceMatches grant) (loose.resourceMatches grant) := by
  simp only [Implies, Matcher.resourceMatches, Bool.or_eq_true, Bool.and_eq_true, List.any_eq_true]
  intro given
  rcases given with isOpen | ⟨wanted, listed, same | ⟨expands, wildcards⟩⟩
  · exact .inl (loosens.resources.isEmpty_eq ▸ isOpen)
  · exact .inr ⟨wanted, loosens.resources.kept listed, .inl same⟩
  · exact .inr ⟨wanted, loosens.resources.kept listed, .inr ⟨loosens.expands expands, wildcards⟩⟩

theorem Loosens.resourceNamesMatch (grant : RuleRef) :
    Implies (strict.resourceNamesMatch grant) (loose.resourceNamesMatch grant) := by
  simp only [Implies, Matcher.resourceNamesMatch, Bool.or_eq_true, List.any_eq_true]
  intro given
  rcases given with (isOpen | unnamed) | ⟨name, held, listed⟩
  · exact .inl (.inl (loosens.resourceNames.isEmpty_eq ▸ isOpen))
  · exact .inl (.inr unnamed)
  · exact .inr ⟨name, held, loosens.resourceNames.contains listed⟩

theorem Loosens.urlMatches (grant : RuleRef) :
    Implies (strict.urlMatches grant) (loose.urlMatches grant) := by
  simp only [Implies, Matcher.urlMatches, List.any_eq_true]
  intro given
  obtain ⟨url, held, matched⟩ := given
  exact ⟨url, held, loosens.valueMatches loosens.nonResourceUrls url matched⟩

end

/-- A field takes part in both requests or in neither. -/
theorem forall₂_field {values more : List String} (adds : Adds values more) {first second : Bool}
    (implies : Implies first second) :
    List.Forall₂ Implies (if values.isEmpty then [] else [first])
      (if more.isEmpty then [] else [second]) := by
  rw [adds.isEmpty_eq]
  cases more.isEmpty with
  | true => exact .nil
  | false => exact .cons implies .nil

section

variable {strict loose : Matcher} (loosens : strict.Loosens loose)

include loosens

/-- The same fields take part, and a field in which a grant fits still fits. -/
theorem Loosens.checks (grant : RuleRef) :
    List.Forall₂ Implies (strict.checks grant) (loose.checks grant) := by
  unfold Matcher.checks
  split
  · exact forall₂_field loosens.nonResourceUrls (loosens.urlMatches grant)
  · apply List.rel_append
    · apply List.rel_append
      · apply List.rel_append
        · exact forall₂_field loosens.apiGroups (loosens.valueMatches loosens.apiGroups _)
        · exact forall₂_field loosens.resources (loosens.resourceMatches grant)
      · exact forall₂_field loosens.verbs (loosens.valueMatches loosens.verbs _)
    · exact forall₂_field loosens.resourceNames (loosens.resourceNamesMatch grant)

theorem Loosens.selectsAll_eq : strict.selectsAll = loose.selectsAll := by
  rw [selectsAll, selectsAll, loosens.apiGroups.isEmpty_eq, loosens.resources.isEmpty_eq,
    loosens.verbs.isEmpty_eq, loosens.resourceNames.isEmpty_eq, loosens.nonResourceUrls.isEmpty_eq]

end

theorem any_of_forall₂ {first second : List Bool} (related : List.Forall₂ Implies first second)
    (given : first.any id = true) : second.any id = true := by
  induction related with
  | nil => exact given
  | cons implies _ inductionHypothesis =>
      rw [List.any_cons, Bool.or_eq_true] at given ⊢
      exact given.imp implies inductionHypothesis

theorem all_of_forall₂ {first second : List Bool} (related : List.Forall₂ Implies first second)
    (given : first.all id = true) : second.all id = true := by
  induction related with
  | nil => exact given
  | cons implies _ inductionHypothesis =>
      rw [List.all_cons, Bool.and_eq_true] at given ⊢
      exact given.imp implies inductionHypothesis

/-- What a mode makes of the answers of the fields that take part. -/
def verdict (mode : MatchMode) (selectsAll : Bool) : List Bool → Bool
  | [] => selectsAll
  | first :: rest =>
      match mode with
      | .all => (first :: rest).all id
      | .any => (first :: rest).any id

theorem selects_eq_verdict (matcher : Matcher) (grant : RuleRef) :
    matcher.selects grant =
      verdict matcher.matchMode matcher.selectsAll (matcher.checks grant) := by
  unfold selects verdict
  cases matcher.checks grant <;> rfl

/-- Whoever asks for one answer in place of all, and gets more of them, decides no less. -/
theorem verdict_implies {strict loose : MatchMode} (any : strict = .any → loose = .any)
    {first second : List Bool} (related : List.Forall₂ Implies first second) (selectsAll : Bool) :
    Implies (verdict strict selectsAll first) (verdict loose selectsAll second) := by
  intro given
  cases related with
  | nil => exact given
  | cons implies rest =>
      cases strict with
      | any =>
          rw [any rfl]
          exact any_of_forall₂ (.cons implies rest) given
      | all =>
          have fits := all_of_forall₂ (.cons implies rest) given
          cases loose with
          | all => exact fits
          | any =>
              -- There is a first answer, and it is favourable like all others.
              rw [List.all_cons, Bool.and_eq_true] at fits
              exact Bool.or_eq_true_iff.mpr (.inl fits.1)

section

variable {strict loose : Matcher} (loosens : strict.Loosens loose)

include loosens

/-- A grant that is selected stays selected. -/
theorem Loosens.selects (grant : RuleRef) (selected : strict.selects grant = true) :
    loose.selects grant = true := by
  rw [selects_eq_verdict] at selected ⊢
  rw [loosens.selectsAll_eq] at selected
  exact verdict_implies loosens.any (loosens.checks grant) _ selected

theorem Loosens.keeps (grant : RuleRef) (kept : strict.keeps grant = true) :
    loose.keeps grant = true := by
  unfold Matcher.keeps at kept ⊢
  rw [Bool.not_eq_true', Bool.and_eq_false_imp] at kept ⊢
  intro filters
  exact loosens.discovery ▸ kept (loosens.phantoms filters)

/-- Every grant that is found is found still. -/
theorem Loosens.matchRules (rules : List SourcedRule) :
    (strict.matchRules rules).refs.map RuleRef.key ⊆
      (loose.matchRules rules).refs.map RuleRef.key := by
  intro wanted found
  obtain ⟨sourced, rule, grant, member, selected, kept, same⟩ := key_mem_matchRules.mp found
  exact key_mem_matchRules.mpr ⟨sourced, rule, grant, member, loosens.selects grant selected,
    loosens.keeps grant kept, same⟩

end

end Matcher

end AccessGraph
