/-
This file writes catalogs as values, with every field in its place.
-/

import AccessGraph.Catalog.Snapshot
import AccessGraph.Json.Encode

namespace AccessGraph

open Json (texts optional)

def Labels.encode (labels : SortedMap String) : Json :=
  .object (labels.entries.map fun entry => (entry.1, .text entry.2))

def LabelRequirement.encode (requirement : LabelRequirement) : Json :=
  .object [
    ("key", .text requirement.key),
    ("operator", .text requirement.operator.name),
    ("values", texts requirement.values)]

def LabelSelector.encode (selector : LabelSelector) : Json :=
  .object [
    ("matchLabels", Labels.encode selector.matchLabels),
    ("matchExpressions", .list LabelRequirement.encode selector.matchExpressions)]

def PolicyRule.encode (rule : PolicyRule) : Json :=
  .object [
    ("apiGroups", texts rule.apiGroups),
    ("resources", texts rule.resources),
    ("verbs", texts rule.verbs),
    ("resourceNames", texts rule.resourceNames),
    ("nonResourceURLs", texts rule.nonResourceUrls)]

def AggregationRule.encode (rule : AggregationRule) : Json :=
  .object [("clusterRoleSelectors", .list LabelSelector.encode rule.selectors)]

def Bundle.encode (bundle : Bundle) : Json :=
  .object [
    ("kind", .text bundle.kind.name),
    ("name", .text bundle.name),
    ("namespace", optional .text bundle.namespaceName),
    ("labels", Labels.encode bundle.labels),
    ("annotations", Labels.encode bundle.annotations),
    ("rules", .list PolicyRule.encode bundle.rules),
    ("aggregationRule", optional AggregationRule.encode bundle.aggregationRule)]

def RoleReference.encode (reference : RoleReference) : Json :=
  .object [("kind", .text reference.kind.name), ("name", .text reference.name)]

def Subject.encode (subject : Subject) : Json :=
  .object [
    ("kind", .text subject.kind.name),
    ("name", .text subject.name),
    ("namespace", optional .text subject.namespaceName)]

def Binding.encode (binding : Binding) : Json :=
  .object [
    ("kind", .text binding.kind.name),
    ("name", .text binding.name),
    ("namespace", optional .text binding.namespaceName),
    ("roleRef", binding.roleRef.encode),
    ("subjects", .list Subject.encode binding.subjects)]

def OwnerReference.encode (owner : OwnerReference) : Json :=
  .object [
    ("uid", .text owner.uid),
    ("kind", .text owner.kind),
    ("name", .text owner.name),
    ("apiVersion", .text owner.apiVersion),
    ("controller", .boolean owner.controller)]

def Pod.encode (pod : Pod) : Json :=
  .object [
    ("uid", .text pod.uid),
    ("namespace", .text pod.namespaceName),
    ("name", .text pod.name),
    ("phase", .text pod.phase.name),
    ("serviceAccountName", .text pod.serviceAccountName),
    ("ownerReferences", .list OwnerReference.encode pod.ownerReferences)]

def Workload.encode (workload : Workload) : Json :=
  .object [
    ("uid", .text workload.uid),
    ("apiVersion", .text workload.apiVersion),
    ("kind", .text workload.kind),
    ("namespace", .text workload.namespaceName),
    ("name", .text workload.name),
    ("ownerReferences", .list OwnerReference.encode workload.ownerReferences)]

def Catalog.encode (catalog : Catalog) : Json :=
  .object [
    ("bundles", .list Bundle.encode catalog.bundles),
    ("bindings", .list Binding.encode catalog.bindings),
    ("pods", .list Pod.encode catalog.pods),
    ("workloads", .list Workload.encode catalog.workloads)]

end AccessGraph
