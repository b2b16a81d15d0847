/-
This file says which owners are found above a pod, and why no more of them: every owner is the first
workload with the uid that was chosen before it, and a chain is cut off for one reason alone.
-/

import AccessGraph.Query.OwnerChain
import Mathlib.Data.List.Nodup

namespace AccessGraph

/-- The first workload of a uid. -/
def Catalog.workload? (catalog : Catalog) (uid : String) : Option Workload :=
  catalog.workloads.find? (·.uid == uid)

/-- Workloads without a uid are not missed when a uid is looked up. -/
theorem CatalogIndex.workload?_of (catalog : Catalog) {uid : String} (given : uid ≠ "") :
    (CatalogIndex.of catalog).workload? uid = catalog.workload? uid := by
  change (catalog.workloads.filter _).find? _ = catalog.workloads.find? _
  rw [List.find?_filter]
  apply congrArg (List.find? · catalog.workloads)
  funext workload
  by_cases same : workload.uid = uid <;> simp [same, given]

namespace OwnerChain

/-- The owner that is followed next: one of the last workload so far, or of the pod at first. -/
def next? (pod : Pod) (above : List Workload) : Option OwnerReference :=
  OwnerReference.choose (above.getLast?.elim pod.ownerReferences (·.ownerReferences))

@[simp] theorem next?_nil (pod : Pod) : next? pod [] = OwnerReference.choose pod.ownerReferences :=
  rfl

@[simp] theorem next?_concat (pod : Pod) (above : List Workload) (workload : Workload) :
    next? pod (above ++ [workload]) = OwnerReference.choose workload.ownerReferences := by
  simp [next?]

section

variable (catalog : Catalog) (pod : Pod)

/-- Some workloads stand one above the other: each is the first with the uid of the owner that is
followed from those before it. None stands there twice. -/
structure Climbs (above : List Workload) : Prop where
  bounded : above.length ≤ ownerLimit
  distinct : (above.map (·.uid)).Nodup
  follows : ∀ below workload, below ++ [workload] <+: above →
    ∃ owner, next? pod below = some owner ∧ owner.uid = workload.uid
  known : ∀ workload ∈ above, workload.uid ≠ "" ∧ catalog.workload? workload.uid = some workload

/-- A further owner is to be followed above fewer workloads than the limit. -/
structure Continues (above : List Workload) (owner : OwnerReference) : Prop where
  next : next? pod above = some owner
  within : above.length < ownerLimit

/-- This is why nothing is found above some workloads. Each reason counts only where those before it
do not apply, and nothing is wrong if the last workload has no owner. -/
inductive Ends (above : List Workload) : Option OwnerFault → Prop
  | noOwner (next : next? pod above = none) (first : above = []) : Ends above (some .noOwner)
  | complete (next : next? pod above = none) (last : above ≠ []) : Ends above none
  | tooDeep {owner : OwnerReference} (next : next? pod above = some owner)
      (full : above.length = ownerLimit) : Ends above (some .tooDeep)
  | noUid {owner : OwnerReference} (continues : Continues pod above owner)
      (blank : owner.uid = "") : Ends above (some (.noUid owner.kind owner.name))
  | circle {owner : OwnerReference} (continues : Continues pod above owner)
      (given : owner.uid ≠ "") (again : owner.uid ∈ above.map (·.uid)) :
      Ends above (some (.circle owner.uid))
  | missing {owner : OwnerReference} (continues : Continues pod above owner)
      (given : owner.uid ≠ "") (fresh : owner.uid ∉ above.map (·.uid))
      (unknown : catalog.workload? owner.uid = none) :
      Ends above (some (.missing owner.kind owner.name owner.uid))

/-- A chain goes up from a pod as far as it can. -/
structure Resolves (chain : OwnerChain) : Prop where
  climbs : Climbs catalog pod chain.workloads
  ends : Ends catalog pod chain.workloads chain.fault

end

section

variable {catalog : Catalog} {pod : Pod} {above : List Workload} {owner : OwnerReference}

theorem Climbs.nil : Climbs catalog pod [] where
  bounded := Nat.zero_le _
  distinct := .nil
  follows := by simp
  known := by simp

/-- One more workload stands above the others if its uid is new. -/
theorem Climbs.concat (climbs : Climbs catalog pod above) (continues : Continues pod above owner)
    (given : owner.uid ≠ "") (fresh : owner.uid ∉ above.map (·.uid)) {workload : Workload}
    (found : catalog.workload? owner.uid = some workload) :
    Climbs catalog pod (above ++ [workload]) := by
  have named : workload.uid = owner.uid := by
    simpa using List.find?_some found
  constructor
  · have within := continues.within
    simp only [List.length_append, List.length_singleton]
    omega
  · rw [List.map_append, List.map_singleton, List.nodup_append_comm]
    exact List.nodup_cons.mpr ⟨named ▸ fresh, climbs.distinct⟩
  · intro below other start
    rcases List.prefix_concat_iff.mp start with whole | before
    · obtain ⟨rfl, same⟩ := List.append_inj' whole rfl
      cases List.singleton_inj.mp same
      exact ⟨owner, continues.next, named.symm⟩
    · exact climbs.follows below other before
  · intro other member
    rcases List.mem_append.mp member with before | last
    · exact climbs.known other before
    · cases List.mem_singleton.mp last
      exact ⟨named ▸ given, named ▸ found⟩

/-- What is followed from some workloads goes on from them and ends where it must. The depth that is
left and the uids that have passed are those of the workloads so far. -/
theorem follow_resolves {depth : Nat} {passed : List String} (climbs : Climbs catalog pod above)
    (next : next? pod above = some owner) (left : above.length + depth = ownerLimit)
    (same : ∀ uid, uid ∈ passed ↔ uid ∈ above.map (·.uid)) :
    Resolves catalog pod
      ⟨above ++ (follow (.of catalog) depth passed owner).workloads,
        (follow (.of catalog) depth passed owner).fault⟩ := by
  induction depth generalizing above passed owner with
  | zero =>
      rw [follow, List.append_nil]
      exact ⟨climbs, .tooDeep next left⟩
  | succ depth inductionHypothesis =>
      have continues : Continues pod above owner := ⟨next, by omega⟩
      rw [follow]
      by_cases blank : owner.uid.isEmpty = true
      · rw [if_pos blank, List.append_nil]
        exact ⟨climbs, .noUid continues (String.isEmpty_iff.mp blank)⟩
      have given : owner.uid ≠ "" := fun none => blank (String.isEmpty_iff.mpr none)
      have seen : passed.contains owner.uid = true ↔ owner.uid ∈ above.map (·.uid) := by
        rw [List.contains_iff_mem, same]
      rw [if_neg blank]
      by_cases again : passed.contains owner.uid = true
      · rw [if_pos again, List.append_nil]
        exact ⟨climbs, .circle continues given (seen.mp again)⟩
      have fresh := again ∘ seen.mpr
      rw [if_neg again, CatalogIndex.workload?_of catalog given]
      cases found : catalog.workload? owner.uid with
      | none =>
          rw [List.append_nil]
          exact ⟨climbs, .missing continues given fresh found⟩
      | some workload =>
          have named : workload.uid = owner.uid := by
            simpa using List.find?_some found
          have further := climbs.concat continues given fresh found
          dsimp only
          cases onward : OwnerReference.choose workload.ownerReferences with
          | none => exact ⟨further, .complete (by simp [onward]) (by simp)⟩
          | some following =>
              have seenNow (uid : String) : uid ∈ owner.uid :: passed ↔
                  uid ∈ (above ++ [workload]).map (·.uid) := by
                simp [same, named, or_comm]
              have stillLeft : (above ++ [workload]).length + depth = ownerLimit := by
                simp only [List.length_append, List.length_singleton]
                omega
              have rest := inductionHypothesis further (next?_concat pod above workload ▸ onward)
                stillLeft seenNow
              simpa using rest

theorem of_resolves (catalog : Catalog) (pod : Pod) :
    Resolves catalog pod (of (.of catalog) pod) := by
  unfold of
  cases first : OwnerReference.choose pod.ownerReferences with
  | none => exact ⟨.nil, .noOwner first rfl⟩
  | some owner => exact follow_resolves .nil first (Nat.zero_add _) (by simp)

/-- Two ways up from a pod go together as far as both go. -/
theorem Climbs.prefix_or (shared : List Workload) {others : List Workload}
    (climbs : Climbs catalog pod (shared ++ above))
    (alsoClimbs : Climbs catalog pod (shared ++ others)) : above <+: others ∨ others <+: above := by
  induction above generalizing shared others with
  | nil => exact .inl List.nil_prefix
  | cons workload rest inductionHypothesis =>
      cases others with
      | nil => exact .inr List.nil_prefix
      | cons other more =>
          obtain ⟨owner, next, named⟩ := climbs.follows shared workload (by simp)
          obtain ⟨again, alsoNext, alsoNamed⟩ := alsoClimbs.follows shared other (by simp)
          cases Option.some.inj (next.symm.trans alsoNext)
          have known := (climbs.known workload (by simp)).2
          have alsoKnown := (alsoClimbs.known other (by simp)).2
          rw [← named] at known
          rw [← alsoNamed, known] at alsoKnown
          cases alsoKnown
          rw [List.append_cons] at climbs alsoClimbs
          simpa [List.cons_prefix_cons] using
            inductionHypothesis (shared ++ [workload]) climbs alsoClimbs

/-- Nothing stands above a chain that has ended. -/
theorem Ends.not_climbs {fault : Option OwnerFault} (ends : Ends catalog pod above fault)
    {workload : Workload} {rest : List Workload} :
    ¬ Climbs catalog pod (above ++ workload :: rest) := by
  intro climbs
  obtain ⟨owner, next, named⟩ := climbs.follows above workload (by simp)
  have bounded := climbs.bounded
  have distinct := climbs.distinct
  have known := climbs.known workload (by simp)
  simp only [List.length_append, List.length_cons] at bounded
  rw [← named] at known
  cases ends with
  | noOwner none | complete none => simp [none] at next
  | tooDeep _ full => omega
  | noUid continues blank =>
      cases Option.some.inj (continues.next.symm.trans next)
      exact known.1 blank
  | circle continues given again =>
      cases Option.some.inj (continues.next.symm.trans next)
      rw [List.map_append, List.map_cons, ← named, List.nodup_append] at distinct
      exact distinct.2.2 _ again _ List.mem_cons_self rfl
  | missing continues _ _ unknown =>
      cases Option.some.inj (continues.next.symm.trans next)
      simp [known.2] at unknown

/-- A chain ends for one reason alone. -/
theorem Ends.unique {fault other : Option OwnerFault} (ends : Ends catalog pod above fault)
    (alsoEnds : Ends catalog pod above other) : fault = other := by
  have owners {first second : OwnerReference} (next : next? pod above = some first)
      (alsoNext : next? pod above = some second) : first = second :=
    Option.some.inj (next.symm.trans alsoNext)
  cases ends with
  | noOwner next first => cases alsoEnds <;> grind [Continues]
  | complete next last => cases alsoEnds <;> grind [Continues]
  | tooDeep next full => cases alsoEnds <;> grind [Continues]
  | noUid continues blank => cases alsoEnds <;> grind [Continues]
  | circle continues given again => cases alsoEnds <;> grind [Continues]
  | missing continues given fresh unknown => cases alsoEnds <;> grind [Continues]

/-- No two chains go up from a pod as far as they can. -/
theorem Resolves.unique {chain other : OwnerChain} (resolves : Resolves catalog pod chain)
    (alsoResolves : Resolves catalog pod other) : chain = other := by
  obtain ⟨workloads, fault⟩ := chain
  obtain ⟨others, otherFault⟩ := other
  obtain ⟨climbs, ends⟩ := resolves
  obtain ⟨alsoClimbs, alsoEnds⟩ := alsoResolves
  have same : workloads = others := by
    rcases Climbs.prefix_or [] climbs alsoClimbs with ⟨rest, rfl⟩ | ⟨rest, rfl⟩
    · cases rest with
      | nil => simp
      | cons => exact absurd alsoClimbs ends.not_climbs
    · cases rest with
      | nil => simp
      | cons => exact absurd climbs alsoEnds.not_climbs
  subst same
  exact congrArg (OwnerChain.mk workloads) (ends.unique alsoEnds)

/-- A chain of the greatest length is complete if its last workload has no owner. -/
theorem Ends.fault_eq_none {fault : Option OwnerFault} {workload : Workload}
    (ends : Ends catalog pod (above ++ [workload]) fault) (free : workload.ownerReferences = []) :
    fault = none := by
  have next : next? pod (above ++ [workload]) = none := by
    simp [free, OwnerReference.choose]
  exact ends.unique (.complete next (by simp))

end

/-- The owners of a pod are followed up to where they end: the chain is the only one that resolves the
pod, and nothing is wrong with it if its last workload has no owner, however long it is. -/
theorem of_eq_iff_resolves (catalog : Catalog) (pod : Pod) :
    (∀ chain, of (.of catalog) pod = chain ↔ Resolves catalog pod chain) ∧
      ∀ above workload, (of (.of catalog) pod).workloads = above ++ [workload] →
        workload.ownerReferences = [] → (of (.of catalog) pod).fault = none := by
  have found := of_resolves catalog pod
  constructor
  · intro chain
    exact ⟨fun same => same ▸ found, found.unique⟩
  · intro above workload last free
    have ends := found.ends
    rw [last] at ends
    exact ends.fault_eq_none free

/-- A reference to one of several jobs that own each other. -/
def nthJob (number : Nat) : OwnerReference :=
  ⟨toString number, "Job", "work", "batch/v1", true⟩

/-- Each of these jobs is owned by the next one. -/
def towerOf (height : Nat) : List Workload :=
  (List.range height).map fun number =>
    ⟨toString number, "batch/v1", "Job", "team", "work",
      if number + 1 = height then [] else [nthJob (number + 1)]⟩

/-- A pod of the lowest of as many jobs as are followed. -/
def towerCatalog : Catalog :=
  { Catalog.empty with workloads := towerOf ownerLimit }

def towerPod : Pod :=
  ⟨"0", "team", "pod", .running, "", [nthJob 0]⟩

/-- All of these jobs are found, and nothing is said about the chain. -/
theorem of_resolves_towerCatalog : ∃ chain, Resolves towerCatalog towerPod chain ∧
    chain.workloads.length = ownerLimit ∧ chain.fault = none := by
  obtain ⟨unique, complete⟩ := of_eq_iff_resolves towerCatalog towerPod
  have tower : (of (.of towerCatalog) towerPod).workloads = towerOf ownerLimit := by
    decide +kernel
  have last : towerOf ownerLimit = (towerOf ownerLimit).dropLast ++
      [⟨"7", "batch/v1", "Job", "team", "work", []⟩] := by
    decide +kernel
  refine ⟨_, (unique _).mp rfl, ?_, complete _ _ (tower.trans last) rfl⟩
  rw [tower]
  decide

end OwnerChain

end AccessGraph
