/-
This file reads catalogs from documents.
-/

import AccessGraph.Catalog.Snapshot
import AccessGraph.Json.Decode

namespace AccessGraph

open Decoder

/-- Of two entries with one key the later counts. -/
def Labels.decode : Decoder (SortedMap String) :=
  Decoder.map text .empty fun key value labels => labels.insert key value

def SelectorOperator.decode : Decoder SelectorOperator :=
  choice ([.within, .notWithin, .present, .missing].map fun operator => (operator.name, operator))

def LabelRequirement.record : Record LabelRequirement where
  title := "struct LabelSelectorRequirement"
  blank := ⟨"", .within, []⟩
  fields := [
    .needed "key" text fun value requirement => { requirement with key := value },
    .needed "operator" SelectorOperator.decode fun value requirement =>
      { requirement with operator := value },
    .optional "values" (list text) fun value requirement => { requirement with values := value }]

def LabelSelector.record : Record LabelSelector where
  title := "struct LabelSelector"
  blank := .empty
  fields := [
    .optional "matchLabels" Labels.decode fun value selector =>
      { selector with matchLabels := value },
    .optional "matchExpressions" (list LabelRequirement.record.decode) fun value selector =>
      { selector with matchExpressions := value }]

def PolicyRule.record : Record PolicyRule where
  title := "struct PolicyRule"
  blank := .empty
  fields := [
    .optional "apiGroups" (list text) fun value rule => { rule with apiGroups := value },
    .optional "resources" (list text) fun value rule => { rule with resources := value },
    .optional "verbs" (list text) fun value rule => { rule with verbs := value },
    .optional "resourceNames" (list text) fun value rule => { rule with resourceNames := value },
    .optional "nonResourceURLs" (list text) fun value rule =>
      { rule with nonResourceUrls := value }]

def AggregationRule.record : Record AggregationRule where
  title := "struct AggregationRule"
  blank := ⟨[]⟩
  fields := [
    .optional "clusterRoleSelectors" (list LabelSelector.record.decode) fun value _ => ⟨value⟩]

def BundleKind.decode : Decoder BundleKind :=
  choice ([.role, .clusterRole].map fun kind => (kind.name, kind))

def Bundle.record : Record Bundle where
  title := "struct Bundle"
  blank := ⟨.role, "", none, .empty, .empty, [], none⟩
  fields := [
    .needed "kind" BundleKind.decode fun value bundle => { bundle with kind := value },
    .needed "name" text fun value bundle => { bundle with name := value },
    .optional "namespace" (option text) fun value bundle =>
      { bundle with namespaceName := value },
    .optional "labels" Labels.decode fun value bundle => { bundle with labels := value },
    .optional "annotations" Labels.decode fun value bundle => { bundle with annotations := value },
    .optional "rules" (list PolicyRule.record.decode) fun value bundle =>
      { bundle with rules := value },
    .optional "aggregationRule" (option AggregationRule.record.decode) fun value bundle =>
      { bundle with aggregationRule := value }]

def RoleReference.record : Record RoleReference where
  title := "struct RoleRef"
  blank := ⟨.role, ""⟩
  fields := [
    .needed "kind" BundleKind.decode fun value reference => { reference with kind := value },
    .needed "name" text fun value reference => { reference with name := value }]

def SubjectKind.decode : Decoder SubjectKind :=
  choice ([.user, .group, .serviceAccount].map fun kind => (kind.name, kind))

def Subject.record : Record Subject where
  title := "struct Subject"
  blank := ⟨.user, "", none⟩
  fields := [
    .needed "kind" SubjectKind.decode fun value subject => { subject with kind := value },
    .needed "name" text fun value subject => { subject with name := value },
    .optional "namespace" (option text) fun value subject =>
      { subject with namespaceName := value }]

def BindingKind.decode : Decoder BindingKind :=
  choice ([.roleBinding, .clusterRoleBinding].map fun kind => (kind.name, kind))

def Binding.record : Record Binding where
  title := "struct Binding"
  blank := ⟨.roleBinding, "", none, ⟨.role, ""⟩, []⟩
  fields := [
    .needed "kind" BindingKind.decode fun value binding => { binding with kind := value },
    .needed "name" text fun value binding => { binding with name := value },
    .optional "namespace" (option text) fun value binding =>
      { binding with namespaceName := value },
    .needed "roleRef" RoleReference.record.decode fun value binding =>
      { binding with roleRef := value },
    .optional "subjects" (list Subject.record.decode) fun value binding =>
      { binding with subjects := value }]

def PodPhase.decode : Decoder PodPhase :=
  choice ([.pending, .running, .succeeded, .failed, .unknown].map fun phase =>
    (phase.name, phase))

def OwnerReference.record : Record OwnerReference where
  title := "struct OwnerReference"
  blank := ⟨"", "", "", "", false⟩
  fields := [
    .optional "uid" text fun value owner => { owner with uid := value },
    .needed "kind" text fun value owner => { owner with kind := value },
    .needed "name" text fun value owner => { owner with name := value },
    .optional "apiVersion" text fun value owner => { owner with apiVersion := value },
    .optional "controller" boolean fun value owner => { owner with controller := value }]

/-- A pod's uid also goes by the name `id`. -/
def Pod.record : Record Pod where
  title := "struct Pod"
  blank := ⟨"", "", "", .unknown, "", []⟩
  fields := [
    .of true "uid" ["id"] text fun value pod => { pod with uid := value },
    .needed "namespace" text fun value pod => { pod with namespaceName := value },
    .needed "name" text fun value pod => { pod with name := value },
    .needed "phase" PodPhase.decode fun value pod => { pod with phase := value },
    .optional "serviceAccountName" text fun value pod => { pod with serviceAccountName := value },
    .optional "ownerReferences" (list OwnerReference.record.decode) fun value pod =>
      { pod with ownerReferences := value }]

/-- A workload's uid also goes by the name `id`. -/
def Workload.record : Record Workload where
  title := "struct Workload"
  blank := ⟨"", "", "", "", "", []⟩
  fields := [
    .of true "uid" ["id"] text fun value workload => { workload with uid := value },
    .optional "apiVersion" text fun value workload => { workload with apiVersion := value },
    .needed "kind" text fun value workload => { workload with kind := value },
    .needed "namespace" text fun value workload => { workload with namespaceName := value },
    .needed "name" text fun value workload => { workload with name := value },
    .optional "ownerReferences" (list OwnerReference.record.decode) fun value workload =>
      { workload with ownerReferences := value }]

def Catalog.record : Record Catalog where
  title := "struct CatalogSnapshot"
  blank := .empty
  fields := [
    .optional "bundles" (list Bundle.record.decode) fun value catalog =>
      { catalog with bundles := value },
    .optional "bindings" (list Binding.record.decode) fun value catalog =>
      { catalog with bindings := value },
    .optional "pods" (list Pod.record.decode) fun value catalog => { catalog with pods := value },
    .optional "workloads" (list Workload.record.decode) fun value catalog =>
      { catalog with workloads := value }]

/-- This function reads a catalog from the text of a document. -/
def Catalog.parse (document : String) : Except Fault Catalog :=
  readText Catalog.record.decode document

end AccessGraph
