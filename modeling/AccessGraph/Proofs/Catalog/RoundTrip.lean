/-
This file proves that a catalog is read as it was written, with every bundle, binding, pod and
workload in it.
-/

import AccessGraph.Proofs.Catalog.Labels
import AccessGraph.Proofs.Json.Restoring

namespace AccessGraph

theorem Labels.decode_restores (labels : SortedMap String) :
    Labels.decode.Restores (Labels.encode labels) labels := by
  refine ⟨.object fun member listed => ?_, fun arrangement => decode_reads arrangement labels⟩
  obtain ⟨entry, -, rfl⟩ := List.mem_map.mp listed
  exact .text entry.2

theorem SelectorOperator.decode_restores (operator : SelectorOperator) :
    SelectorOperator.decode.Restores (.text operator.name) operator := by
  cases operator <;> exact .choice rfl

theorem LabelRequirement.decode_restores (requirement : LabelRequirement) :
    LabelRequirement.record.decode.Restores requirement.encode requirement := by
  apply Record.decode_restores
  case fields =>
    exact
      .cons (.of (.text requirement.key)) <|
      .cons (.of requirement.operator.decode_restores) <|
      .cons (.of (.texts requirement.values)) .nil
  case differ => decide
  case commute => simp [Written.Commute]
  all_goals rfl

theorem LabelSelector.decode_restores (selector : LabelSelector) :
    LabelSelector.record.decode.Restores selector.encode selector := by
  apply Record.decode_restores
  case fields =>
    exact
      .cons (.of (Labels.decode_restores selector.matchLabels)) <|
      .cons (.of (.list LabelRequirement.decode_restores selector.matchExpressions)) .nil
  case differ => decide
  case commute => simp [Written.Commute]
  all_goals rfl

theorem PolicyRule.decode_restores (rule : PolicyRule) :
    PolicyRule.record.decode.Restores rule.encode rule := by
  apply Record.decode_restores
  case fields =>
    exact
      .cons (.of (.texts rule.apiGroups)) <|
      .cons (.of (.texts rule.resources)) <|
      .cons (.of (.texts rule.verbs)) <|
      .cons (.of (.texts rule.resourceNames)) <|
      .cons (.of (.texts rule.nonResourceUrls)) .nil
  case differ => decide
  case commute => simp [Written.Commute]
  all_goals rfl

theorem AggregationRule.decode_restores (rule : AggregationRule) :
    AggregationRule.record.decode.Restores rule.encode rule := by
  apply Record.decode_restores
  case fields =>
    exact
      .cons (.of (.list LabelSelector.decode_restores rule.selectors)) .nil
  case differ => decide
  case commute => simp [Written.Commute]
  all_goals rfl

theorem BundleKind.decode_restores (kind : BundleKind) :
    BundleKind.decode.Restores (.text kind.name) kind := by
  cases kind <;> exact .choice rfl

theorem Bundle.decode_restores (bundle : Bundle) :
    Bundle.record.decode.Restores bundle.encode bundle := by
  apply Record.decode_restores
  case fields =>
    exact
      .cons (.of bundle.kind.decode_restores) <|
      .cons (.of (.text bundle.name)) <|
      .cons (.of (.optional .text nofun bundle.namespaceName)) <|
      .cons (.of (Labels.decode_restores bundle.labels)) <|
      .cons (.of (Labels.decode_restores bundle.annotations)) <|
      .cons (.of (.list PolicyRule.decode_restores bundle.rules)) <|
      .cons (.of (.optional AggregationRule.decode_restores nofun bundle.aggregationRule)) .nil
  case differ => decide
  case commute => simp [Written.Commute]
  all_goals rfl

theorem RoleReference.decode_restores (reference : RoleReference) :
    RoleReference.record.decode.Restores reference.encode reference := by
  apply Record.decode_restores
  case fields =>
    exact
      .cons (.of reference.kind.decode_restores) <|
      .cons (.of (.text reference.name)) .nil
  case differ => decide
  case commute => simp [Written.Commute]
  all_goals rfl

theorem SubjectKind.decode_restores (kind : SubjectKind) :
    SubjectKind.decode.Restores (.text kind.name) kind := by
  cases kind <;> exact .choice rfl

theorem Subject.decode_restores (subject : Subject) :
    Subject.record.decode.Restores subject.encode subject := by
  apply Record.decode_restores
  case fields =>
    exact
      .cons (.of subject.kind.decode_restores) <|
      .cons (.of (.text subject.name)) <|
      .cons (.of (.optional .text nofun subject.namespaceName)) .nil
  case differ => decide
  case commute => simp [Written.Commute]
  all_goals rfl

theorem BindingKind.decode_restores (kind : BindingKind) :
    BindingKind.decode.Restores (.text kind.name) kind := by
  cases kind <;> exact .choice rfl

theorem Binding.decode_restores (binding : Binding) :
    Binding.record.decode.Restores binding.encode binding := by
  apply Record.decode_restores
  case fields =>
    exact
      .cons (.of binding.kind.decode_restores) <|
      .cons (.of (.text binding.name)) <|
      .cons (.of (.optional .text nofun binding.namespaceName)) <|
      .cons (.of binding.roleRef.decode_restores) <|
      .cons (.of (.list Subject.decode_restores binding.subjects)) .nil
  case differ => decide
  case commute => simp [Written.Commute]
  all_goals rfl

theorem OwnerReference.decode_restores (owner : OwnerReference) :
    OwnerReference.record.decode.Restores owner.encode owner := by
  apply Record.decode_restores
  case fields =>
    exact
      .cons (.of (.text owner.uid)) <|
      .cons (.of (.text owner.kind)) <|
      .cons (.of (.text owner.name)) <|
      .cons (.of (.text owner.apiVersion)) <|
      .cons (.of (.boolean owner.controller)) .nil
  case differ => decide
  case commute => simp [Written.Commute]
  all_goals rfl

theorem PodPhase.decode_restores (phase : PodPhase) :
    PodPhase.decode.Restores (.text phase.name) phase := by
  cases phase <;> exact .choice rfl

theorem Pod.decode_restores (pod : Pod) :
    Pod.record.decode.Restores pod.encode pod := by
  apply Record.decode_restores
  case fields =>
    exact
      .cons (.of (.text pod.uid)) <|
      .cons (.of (.text pod.namespaceName)) <|
      .cons (.of (.text pod.name)) <|
      .cons (.of pod.phase.decode_restores) <|
      .cons (.of (.text pod.serviceAccountName)) <|
      .cons (.of (.list OwnerReference.decode_restores pod.ownerReferences)) .nil
  case differ => decide
  case commute => simp [Written.Commute]
  all_goals rfl

theorem Workload.decode_restores (workload : Workload) :
    Workload.record.decode.Restores workload.encode workload := by
  apply Record.decode_restores
  case fields =>
    exact
      .cons (.of (.text workload.uid)) <|
      .cons (.of (.text workload.apiVersion)) <|
      .cons (.of (.text workload.kind)) <|
      .cons (.of (.text workload.namespaceName)) <|
      .cons (.of (.text workload.name)) <|
      .cons (.of (.list OwnerReference.decode_restores workload.ownerReferences)) .nil
  case differ => decide
  case commute => simp [Written.Commute]
  all_goals rfl

theorem Catalog.decode_restores (catalog : Catalog) :
    Catalog.record.decode.Restores catalog.encode catalog := by
  apply Record.decode_restores
  case fields =>
    exact
      .cons (.of (.list Bundle.decode_restores catalog.bundles)) <|
      .cons (.of (.list Binding.decode_restores catalog.bindings)) <|
      .cons (.of (.list Pod.decode_restores catalog.pods)) <|
      .cons (.of (.list Workload.decode_restores catalog.workloads)) .nil
  case differ => decide
  case commute => simp [Written.Commute]
  all_goals rfl

end AccessGraph
