/-
This file says that what is shown of pods and workloads depends only on the pods and workloads that
are looked up.
-/

import AccessGraph.Proofs.Query.Answer

namespace AccessGraph

/-- A chain of owners depends only on the workloads that are found by uid. -/
theorem OwnerChain.of_congr {first second : CatalogIndex}
    (same : first.workload? = second.workload?) : OwnerChain.of first = OwnerChain.of second := by
  have follows (depth : Nat) : ∀ passed owner,
      OwnerChain.follow first depth passed owner = OwnerChain.follow second depth passed owner := by
    induction depth with
    | zero =>
        intro passed owner
        rfl
    | succ depth inductionHypothesis =>
        intro passed owner
        simp only [OwnerChain.follow, same, inductionHypothesis]
  funext pod
  simp only [OwnerChain.of, follows]

namespace Inquiry

/-- The same inquiry into another index. -/
def into (inquiry : Inquiry) (index : CatalogIndex) : Inquiry :=
  { inquiry with index := index }

/-- An inquiry finds the same pods and the same workloads in another index. -/
structure FindsAlike (inquiry : Inquiry) (index : CatalogIndex) : Prop where
  pods : ∀ space account, inquiry.scope.allowsNamespace space = true →
    index.podsFor space account = inquiry.index.podsFor space account
  workloads : index.workload? = inquiry.index.workload?

section

variable {inquiry : Inquiry} {index : CatalogIndex} (alike : inquiry.FindsAlike index)

include alike

theorem FindsAlike.podsOf_eq : (inquiry.into index).podsOf = inquiry.podsOf := by
  funext account
  unfold podsOf
  change (if inquiry.isPlaced account then (index.podsFor _ _).filter _ else []) = _
  split
  · rename_i placed
    rw [isPlaced, Bool.and_eq_true] at placed
    rw [alike.pods _ _ placed.2]
    rfl
  · rfl

theorem FindsAlike.shownPods_eq : (inquiry.into index).shownPods = inquiry.shownPods := by
  funext account
  rw [shownPods, shownPods, alike.podsOf_eq]
  rfl

theorem FindsAlike.hiddenPods_eq : (inquiry.into index).hiddenPods = inquiry.hiddenPods := by
  funext account
  rw [hiddenPods, hiddenPods, alike.podsOf_eq]
  rfl

theorem FindsAlike.ownerChain_eq :
    OwnerChain.of (inquiry.into index).index = OwnerChain.of inquiry.index :=
  OwnerChain.of_congr alike.workloads

theorem FindsAlike.shownWorkloads_eq :
    (inquiry.into index).shownWorkloads = inquiry.shownWorkloads := by
  funext pod
  unfold shownWorkloads
  rw [alike.ownerChain_eq]
  rfl

theorem FindsAlike.hiddenWorkloads_eq :
    (inquiry.into index).hiddenWorkloads = inquiry.hiddenWorkloads := by
  funext pod
  unfold hiddenWorkloads
  rw [alike.ownerChain_eq]
  rfl

/-- An account brings the same pods and workloads. -/
theorem FindsAlike.accountSteps_eq :
    (inquiry.into index).accountSteps = inquiry.accountSteps := by
  have workloads : (inquiry.into index).workloadSteps = inquiry.workloadSteps := by
    funext pod
    rw [workloadSteps, workloadSteps, alike.shownWorkloads_eq, alike.hiddenWorkloads_eq]
  have pods : (inquiry.into index).podSteps = inquiry.podSteps := by
    funext account pod
    rw [podSteps, podSteps, workloads]
    rfl
  funext account
  rw [accountSteps, accountSteps, pods, alike.shownPods_eq, alike.hiddenPods_eq]

/-- The same is said about an account. -/
theorem FindsAlike.accountWarnings_eq :
    (inquiry.into index).accountWarnings = inquiry.accountWarnings := by
  funext account
  rw [accountWarnings, accountWarnings, alike.shownPods_eq, alike.ownerChain_eq]
  rfl

theorem FindsAlike.podIds_eq : (inquiry.into index).podIds = inquiry.podIds := by
  funext accounts
  rw [podIds, podIds, alike.shownPods_eq]

theorem FindsAlike.workloadIds_eq : (inquiry.into index).workloadIds = inquiry.workloadIds := by
  funext accounts
  rw [workloadIds, workloadIds, alike.shownPods_eq, alike.shownWorkloads_eq]
  rfl

end

end Inquiry

/-- Catalogs whose bundles are aggregated alike are inquired into alike. -/
theorem inquiryFor_eq_into {first second : Catalog}
    (aggregation : Aggregation.resolve (CatalogIndex.of second).bundles =
      Aggregation.resolve (CatalogIndex.of first).bundles)
    (discovery : Option Discovery) (request : Request) :
    inquiryFor second discovery request =
      (inquiryFor first discovery request).into (.of second) :=
  congrArg (fun aggregation => Inquiry.mk request.withPods _ aggregation _ _) aggregation

end AccessGraph
