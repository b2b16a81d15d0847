/-
This file goes from service accounts to the pods that run as them and the workloads that own these.
-/

import AccessGraph.Query.OwnerChain
import AccessGraph.Query.Reachability

namespace AccessGraph

def PodPhase.matches (phase : PodPhase) : PodPhaseMode → Bool
  | .all => true
  | .active => phase == .pending || phase == .running
  | .running => phase == .running

namespace Inquiry

def podId (pod : Pod) : String :=
  podNodeId pod.namespaceName pod.name

def podNode (pod : Pod) : Node :=
  .of (podId pod) pod.name (some pod.namespaceName) (.pod pod.phase)

def workloadId (workload : Workload) : String :=
  workloadNodeId workload.kind workload.namespaceName workload.name

def workloadNode (workload : Workload) : Node :=
  .of (workloadId workload) workload.name (some workload.namespaceName) (.workload workload.kind)

/-- Pods are looked up for accounts with a namespace in scope. -/
def isPlaced (inquiry : Inquiry) (account : ServiceAccount) : Bool :=
  !account.namespaceName.isEmpty && inquiry.scope.allowsNamespace account.namespaceName

/-- The pods of an account in a phase that the request accepts. -/
def podsOf (inquiry : Inquiry) (account : ServiceAccount) : List Pod :=
  if inquiry.isPlaced account then
    (inquiry.index.podsFor account.namespaceName account.name).filter
      (·.phase.matches inquiry.request.podPhaseMode)
  else []

/-- Only so many pods of an account are shown, and the others are counted. -/
def shownPods (inquiry : Inquiry) (account : ServiceAccount) : List Pod :=
  (inquiry.podsOf account).take inquiry.request.maxPodsPerSubject.toNat

def hiddenPods (inquiry : Inquiry) (account : ServiceAccount) : Nat :=
  (inquiry.podsOf account).length - inquiry.request.maxPodsPerSubject.toNat

/-- Only so many owners of a pod are shown, and the others are counted. -/
def shownWorkloads (inquiry : Inquiry) (pod : Pod) : List Workload :=
  (OwnerChain.of inquiry.index pod).workloads.take inquiry.request.maxWorkloadsPerPod.toNat

def hiddenWorkloads (inquiry : Inquiry) (pod : Pod) : Nat :=
  (OwnerChain.of inquiry.index pod).workloads.length - inquiry.request.maxWorkloadsPerPod.toNat

/-- Each workload owns what stands before it, and the pod stands before the first. -/
def chainSteps (owned : String) : List Workload → List BuildStep
  | [] => []
  | workload :: rest =>
      [.node (workloadNode workload),
        .edge (.of owned (workloadId workload) .ownedBy "Owner reference chain" [])] ++
      chainSteps (workloadId workload) rest

/-- The id of the last workload of a chain, or what the chain starts from. -/
def chainEnd (owned : String) : List Workload → String
  | [] => owned
  | workload :: rest => chainEnd (workloadId workload) rest

def workloadSteps (inquiry : Inquiry) (pod : Pod) : List BuildStep :=
  let shown := inquiry.shownWorkloads pod
  let hidden := inquiry.hiddenWorkloads pod
  let overflow := workloadOverflowNodeId (podId pod)
  chainSteps (podId pod) shown ++
  if hidden = 0 then []
  else
    [.node (.of overflow ("+" ++ toString hidden ++ " workloads") (some pod.namespaceName)
        (.workloadOverflow hidden)),
      .edge (.of (chainEnd (podId pod) shown) overflow .ownedBy
        "Workload chain truncated by limit" [])]

def podSteps (inquiry : Inquiry) (account : ServiceAccount) (pod : Pod) : List BuildStep :=
  [.node (podNode pod),
    .edge (.of account.nodeId (podId pod) .runsAs "ServiceAccount used by pod" [])] ++
  if inquiry.request.includeWorkloads then inquiry.workloadSteps pod else []

def accountSteps (inquiry : Inquiry) (account : ServiceAccount) : List BuildStep :=
  let hidden := inquiry.hiddenPods account
  let overflow := podOverflowNodeId account.nodeId
  (inquiry.shownPods account).flatMap (inquiry.podSteps account) ++
  if hidden = 0 then []
  else
    [.node (.of overflow ("+" ++ toString hidden ++ " pods") (some account.namespaceName)
        (.podOverflow hidden)),
      .edge (.of account.nodeId overflow .runsAs "Pod list truncated by limit" [])]

/-- An account without a namespace is reported, and so is every chain that is cut off. -/
def accountWarnings (inquiry : Inquiry) (account : ServiceAccount) : List String :=
  if account.namespaceName.isEmpty then
    ["subject " ++ account.nodeId ++
      " has empty namespace and was skipped for runtime expansion"]
  else if inquiry.request.includeWorkloads then
    (inquiry.shownPods account).filterMap fun pod =>
      (OwnerChain.of inquiry.index pod).fault.map (·.message pod)
  else []

def podIds (inquiry : Inquiry) (accounts : List ServiceAccount) : List String :=
  distinct ((accounts.flatMap inquiry.shownPods).map podId)

def workloadIds (inquiry : Inquiry) (accounts : List ServiceAccount) : List String :=
  if inquiry.request.includeWorkloads then
    distinct (((accounts.flatMap inquiry.shownPods).flatMap inquiry.shownWorkloads).map workloadId)
  else []

end Inquiry

end AccessGraph
