/-
This file says that ids tell pods and service accounts apart, and the edges between them, where no
name has a slash in it.
-/

import AccessGraph.Proofs.Query.Exposure

namespace AccessGraph

/-- No two pods share a namespace and a name, and no slash stands in these, nor in the names of
service accounts. -/
structure Catalog.TellsPodsApart (catalog : Catalog) : Prop where
  differ : (catalog.pods.map fun pod => (pod.namespaceName, pod.name)).Nodup
  pods : ∀ pod ∈ catalog.pods, '/' ∉ pod.namespaceName.toList ∧ '/' ∉ pod.name.toList
  accounts : ∀ binding ∈ catalog.bindings, ∀ subject ∈ binding.subjects,
    subject.isServiceAccount = true → '/' ∉ subject.name.toList

/-- The id of the node of a service account that has a namespace. -/
def accountNodeId (space name : String) : String :=
  "subject:serviceAccount:" ++ space ++ "/" ++ name

theorem podOverflowNodeId_injective {first second : String}
    (same : podOverflowNodeId first = podOverflowNodeId second) : first = second :=
  (String.append_right_inj "overflow:pod:").mp same

theorem workloadOverflowNodeId_injective {first second : String}
    (same : workloadOverflowNodeId first = workloadOverflowNodeId second) : first = second :=
  (String.append_right_inj "overflow:workload:").mp same

theorem slash_toList : "/".toList = ['/'] := by
  decide

theorem eq_of_podNodeId_eq {space other name second : String} (plain : '/' ∉ name.toList)
    (alsoPlain : '/' ∉ second.toList) (same : podNodeId space name = podNodeId other second) :
    space = other ∧ name = second := by
  obtain ⟨spaces, names⟩ := Text.eq_of_joined_eq slash_toList plain alsoPlain same
  exact ⟨(String.append_right_inj "pod:").mp spaces, names⟩

theorem eq_of_accountNodeId_eq {space other name second : String} (plain : '/' ∉ name.toList)
    (alsoPlain : '/' ∉ second.toList)
    (same : accountNodeId space name = accountNodeId other second) :
    space = other ∧ name = second := by
  obtain ⟨spaces, names⟩ := Text.eq_of_joined_eq slash_toList plain alsoPlain same
  exact ⟨(String.append_right_inj "subject:serviceAccount:").mp spaces, names⟩

/-- The id of an edge that leaves an account. Both ends name the namespace of the account, and the
link between them tells a pod from the pods that are not shown. -/
def runsEdgeId (space account link name : String) : String :=
  "edge:" ++ "subject:serviceAccount:" ++ space ++ "/" ++ (account ++ link ++ space) ++ "/" ++
    (name ++ ":" ++ EdgeKind.runsAs.name)

/-- The text between the names of an account and of the namespace in an edge to a pod. -/
def podLink : String := "->" ++ "pod:"

/-- The same text in an edge to the pods that are not shown. -/
def overflowLink : String := "->" ++ "overflow:pod:" ++ "subject:serviceAccount:"

theorem edgeId_pod (space account name : String) :
    edgeId (accountNodeId space account) (podNodeId space name) .runsAs =
      runsEdgeId space account podLink name := by
  unfold edgeId accountNodeId podNodeId runsEdgeId podLink
  simp only [String.append_assoc, -String.reduceAppend]

theorem edgeId_overflow (space account : String) :
    edgeId (accountNodeId space account) (podOverflowNodeId (accountNodeId space account)) .runsAs =
      runsEdgeId space account overflowLink account := by
  unfold edgeId accountNodeId podOverflowNodeId runsEdgeId overflowLink
  simp only [String.append_assoc, -String.reduceAppend]

/-- The two slashes in the id of such an edge take it apart. -/
theorem eq_of_runsEdgeId_eq {space other account second link another name last : String}
    (plain : '/' ∉ (account ++ link ++ space).toList ∧ '/' ∉ name.toList)
    (alsoPlain : '/' ∉ (second ++ another ++ other).toList ∧ '/' ∉ last.toList)
    (same : runsEdgeId space account link name = runsEdgeId other second another last) :
    space = other ∧ account ++ link = second ++ another ∧ name = last := by
  have ends {name : String} (plain : '/' ∉ name.toList) :
      '/' ∉ (name ++ ":" ++ EdgeKind.runsAs.name).toList := by
    have suffix : '/' ∉ ":".toList ∧ '/' ∉ EdgeKind.runsAs.name.toList := by decide
    simpa only [String.toList_append, List.mem_append, not_or] using ⟨⟨plain, suffix.1⟩, suffix.2⟩
  obtain ⟨heads, names⟩ :=
    Text.eq_of_joined_eq slash_toList (ends plain.2) (ends alsoPlain.2) same
  obtain ⟨spaces, links⟩ := Text.eq_of_joined_eq slash_toList plain.1 alsoPlain.1 heads
  have sameSpace : space = other := by
    rw [String.append_right_inj] at spaces
    exact spaces
  subst sameSpace
  rw [String.append_left_inj] at links
  rw [String.append_left_inj, String.append_left_inj] at names
  exact ⟨rfl, links, names⟩

/-- No name makes the link to a pod the same as that to the pods that are not shown. -/
theorem append_podLink_ne (account second : String) :
    account ++ podLink ≠ second ++ overflowLink := by
  intro same
  have endings := congrArg (fun text => text.toList.reverse.take 2) same
  have pods : podLink.toList.reverse.take 2 = [':', 'd'] := by decide
  have others : overflowLink.toList.reverse.take 2 = [':', 't'] := by decide
  have long : 2 ≤ podLink.toList.reverse.length ∧ 2 ≤ overflowLink.toList.reverse.length := by
    decide
  simp only [String.toList_append, List.reverse_append, List.take_append_of_le_length long.1,
    List.take_append_of_le_length long.2, pods, others] at endings
  exact absurd endings (by decide)

namespace Inquiry

/-- Ids tell apart what is found for the accounts of an inquiry. -/
structure TellsApart (inquiry : Inquiry) : Prop where
  differ : (inquiry.index.pods.map fun pod => (pod.namespaceName, pod.name)).Nodup
  pods : ∀ pod ∈ inquiry.index.pods,
    '/' ∉ pod.namespaceName.toList ∧ '/' ∉ pod.name.toList
  accounts : ∀ account ∈ inquiry.placedAccounts inquiry.reached, '/' ∉ account.name.toList

section

variable {inquiry : Inquiry} {account other : ServiceAccount}

theorem exists_pod_of_hidden (more : inquiry.hiddenPods account ≠ 0) :
    ∃ pod, pod ∈ inquiry.podsOf account := by
  apply List.exists_mem_of_length_pos
  unfold hiddenPods at more
  omega

/-- An account in a namespace is named by it. -/
theorem nodeId_of_placed (placed : account ∈ inquiry.placedAccounts inquiry.reached)
    (given : inquiry.isPlaced account = true) :
    account.nodeId = accountNodeId account.namespaceName account.name := by
  obtain ⟨_, -, binding, -, subject, -, isAccount, -, rfl⟩ := exists_subject_of_placed placed
  have kind : subject.kind = .serviceAccount := by
    simpa [Subject.isServiceAccount] using isAccount
  cases lives : subject.space binding with
  | none => simp [isPlaced, lives] at given
  | some space =>
      unfold subjectId subjectNodeId
      rw [kind, lives]
      rfl

section

variable (apart : inquiry.TellsApart)

include apart

theorem TellsApart.pod_eq {pod second : Pod} (known : pod ∈ inquiry.index.pods)
    (alsoKnown : second ∈ inquiry.index.pods) (space : pod.namespaceName = second.namespaceName)
    (name : pod.name = second.name) : pod = second :=
  List.inj_on_of_nodup_map apart.differ known alsoKnown (Prod.ext space name)

theorem TellsApart.pod_eq_of_podId_eq {pod second : Pod} (known : pod ∈ inquiry.index.pods)
    (alsoKnown : second ∈ inquiry.index.pods) (same : podId pod = podId second) :
    pod = second := by
  obtain ⟨spaces, names⟩ :=
    eq_of_podNodeId_eq (apart.pods pod known).2 (apart.pods second alsoKnown).2 same
  exact apart.pod_eq known alsoKnown spaces names

end

section

variable (placed : account ∈ inquiry.placedAccounts inquiry.reached)
  (alsoPlaced : other ∈ inquiry.placedAccounts inquiry.reached)

include placed alsoPlaced

theorem account_eq_of_placed (given : inquiry.isPlaced account = true)
    (alsoGiven : inquiry.isPlaced other = true)
    (spaces : account.namespaceName = other.namespaceName) (names : account.name = other.name) :
    account = other := by
  have ids : account.nodeId = other.nodeId := by
    rw [nodeId_of_placed placed given, nodeId_of_placed alsoPlaced alsoGiven, spaces, names]
  cases account
  cases other
  simp_all

theorem TellsApart.account_eq_of_nodeId_eq (apart : inquiry.TellsApart)
    (given : inquiry.isPlaced account = true) (alsoGiven : inquiry.isPlaced other = true)
    (same : account.nodeId = other.nodeId) : account = other := by
  rw [nodeId_of_placed placed given, nodeId_of_placed alsoPlaced alsoGiven] at same
  obtain ⟨spaces, names⟩ :=
    eq_of_accountNodeId_eq (apart.accounts _ placed) (apart.accounts _ alsoPlaced) same
  exact account_eq_of_placed placed alsoPlaced given alsoGiven spaces names

end

/-- An edge that leaves an account leads to one of its pods, or to those that are not shown. -/
inductive LeavesFor (inquiry : Inquiry) (account : ServiceAccount) (edge : Edge) :
    String → String → Prop
  | pod {pod : Pod} (shown : pod ∈ inquiry.shownPods account)
      (form : edge = runsEdge account pod) : LeavesFor inquiry account edge podLink pod.name
  | hiddenPods (more : inquiry.hiddenPods account ≠ 0) (form : edge = hiddenPodsEdge account) :
      LeavesFor inquiry account edge overflowLink account.name

theorem AccountEdge.leavesFor {edge : Edge} (brought : AccountEdge inquiry account edge)
    (runs : edge.kind = .runsAs) : ∃ link name, LeavesFor inquiry account edge link name := by
  cases brought with
  | runs shown => exact ⟨_, _, .pod shown rfl⟩
  | hiddenPods more => exact ⟨_, _, .hiddenPods more rfl⟩
  | owned | hiddenWorkloads => cases runs

section

variable {edge : Edge} {link name : String} (leaves : LeavesFor inquiry account edge link name)

include leaves

theorem LeavesFor.exists_pod : ∃ pod, pod ∈ inquiry.podsOf account := by
  cases leaves with
  | pod shown => exact ⟨_, List.mem_of_mem_take shown⟩
  | hiddenPods more => exact exists_pod_of_hidden more

theorem LeavesFor.isPlaced : inquiry.isPlaced account = true := by
  obtain ⟨pod, found⟩ := leaves.exists_pod
  exact (mem_podsOf_iff.mp found).1

theorem LeavesFor.source : edge.source = account.nodeId := by
  cases leaves with
  | pod _ form | hiddenPods _ form =>
      rw [form]
      rfl

theorem LeavesFor.id (placed : account ∈ inquiry.placedAccounts inquiry.reached) :
    edge.id = runsEdgeId account.namespaceName account.name link name := by
  have named := nodeId_of_placed placed leaves.isPlaced
  cases leaves with
  | pod shown form =>
      obtain ⟨-, -, home, -⟩ := mem_podsOf_iff.mp (List.mem_of_mem_take shown)
      rw [form, ← edgeId_pod, ← named, ← home]
      rfl
  | hiddenPods _ form =>
      rw [form, ← edgeId_overflow, ← named]
      rfl

/-- No slash but the two that belong there stands in the id of an edge that leaves an account. -/
theorem LeavesFor.plain (apart : inquiry.TellsApart)
    (placed : account ∈ inquiry.placedAccounts inquiry.reached) :
    '/' ∉ (account.name ++ link ++ account.namespaceName).toList ∧ '/' ∉ name.toList := by
  obtain ⟨pod, found⟩ := leaves.exists_pod
  obtain ⟨-, known, home, -⟩ := mem_podsOf_iff.mp found
  have space := home ▸ (apart.pods pod known).1
  have account := apart.accounts _ placed
  have links : '/' ∉ podLink.toList ∧ '/' ∉ overflowLink.toList := by decide
  simp only [String.toList_append, List.mem_append, not_or]
  cases leaves with
  | pod shown =>
      have shown := mem_podsOf_iff.mp (List.mem_of_mem_take shown)
      exact ⟨⟨⟨account, links.1⟩, space⟩, (apart.pods _ shown.2.1).2⟩
  | hiddenPods => exact ⟨⟨⟨account, links.2⟩, space⟩, account⟩

end

/-- Edges that leave accounts are told apart by their ids, so that none of them is taken for another
one and dropped. -/
theorem LeavesFor.eq_of_id_eq (apart : inquiry.TellsApart)
    (placed : account ∈ inquiry.placedAccounts inquiry.reached)
    (alsoPlaced : other ∈ inquiry.placedAccounts inquiry.reached)
    {edge another : Edge} {link name second last : String}
    (leaves : LeavesFor inquiry account edge link name)
    (alsoLeaves : LeavesFor inquiry other another second last) (same : edge.id = another.id) :
    edge = another := by
  rw [leaves.id placed, alsoLeaves.id alsoPlaced] at same
  obtain ⟨spaces, links, names⟩ :=
    eq_of_runsEdgeId_eq (leaves.plain apart placed) (alsoLeaves.plain apart alsoPlaced) same
  have sameAccount (named : account.name = other.name) : account = other :=
    account_eq_of_placed placed alsoPlaced leaves.isPlaced alsoLeaves.isPlaced spaces named
  cases leaves with
  | pod shown form =>
      subst form
      cases alsoLeaves with
      | pod alsoShown form =>
          subst form
          cases sameAccount ((String.append_left_inj _).mp links)
          obtain ⟨-, known, home, -⟩ := mem_podsOf_iff.mp (List.mem_of_mem_take shown)
          obtain ⟨-, alsoKnown, alsoHome, -⟩ := mem_podsOf_iff.mp (List.mem_of_mem_take alsoShown)
          rw [apart.pod_eq known alsoKnown (home.trans alsoHome.symm) names]
      | hiddenPods => exact absurd links (append_podLink_ne _ _)
  | hiddenPods _ form =>
      subst form
      cases alsoLeaves with
      | pod => exact absurd links.symm (append_podLink_ne _ _)
      | hiddenPods _ form => rw [form, sameAccount names]

end

end Inquiry

end AccessGraph
