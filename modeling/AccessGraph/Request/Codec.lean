/-
This file reads requests from documents and writes them as values, with every field in its place.
-/

import AccessGraph.Request.Basic
import AccessGraph.Json.Decode
import AccessGraph.Json.Encode

namespace AccessGraph

open Decoder

def MatchMode.decode : Decoder MatchMode :=
  choice ([.any, .all].map fun mode => (mode.name, mode))

/-- The mode for which wildcards stand only for themselves goes by two names. -/
def WildcardMode.decode : Decoder WildcardMode :=
  choice [("expand", .expand), ("exact", .exact), ("literal", .exact)]

def PodPhaseMode.decode : Decoder PodPhaseMode :=
  choice ([.active, .all, .running].map fun mode => (mode.name, mode))

def Selector.record : Record Selector where
  title := "struct Selector"
  blank := .empty
  fields := [
    .optional "apiGroups" (list text) fun value selector => { selector with apiGroups := value },
    .optional "resources" (list text) fun value selector => { selector with resources := value },
    .optional "verbs" (list text) fun value selector => { selector with verbs := value },
    .optional "resourceNames" (list text) fun value selector =>
      { selector with resourceNames := value },
    .optional "nonResourceURLs" (list text) fun value selector =>
      { selector with nonResourceUrls := value }]

def NamespaceScope.record : Record NamespaceScope where
  title := "struct NamespaceScope"
  blank := ⟨[], false⟩
  fields := [
    .optional "namespaces" (list text) fun value scope => { scope with namespaces := value },
    .optional "strict" boolean fun value scope => { scope with strict := value }]

def Request.record : Record Request where
  title := "struct QueryRequest"
  blank := .standard
  fields := [
    .optional "selector" Selector.record.decode fun value request =>
      { request with selector := value },
    .optional "matchMode" MatchMode.decode fun value request =>
      { request with matchMode := value },
    .optional "wildcardMode" WildcardMode.decode fun value request =>
      { request with wildcardMode := value },
    .optional "includeRuleMetadata" boolean fun value request =>
      { request with includeRuleMetadata := value },
    .optional "includePods" boolean fun value request => { request with includePods := value },
    .optional "includeWorkloads" boolean fun value request =>
      { request with includeWorkloads := value },
    .optional "filterPhantomAPIs" boolean fun value request =>
      { request with filterPhantoms := value },
    .optional "podPhaseMode" PodPhaseMode.decode fun value request =>
      { request with podPhaseMode := value },
    .optional "maxPodsPerSubject" word fun value request =>
      { request with maxPodsPerSubject := value },
    .optional "maxWorkloadsPerPod" word fun value request =>
      { request with maxWorkloadsPerPod := value },
    .optional "namespaceScope" (option NamespaceScope.record.decode) fun value request =>
      { request with namespaceScope := value },
    .optional "includeAggregates" boolean fun value request =>
      { request with includeAggregates := value },
    .optional "includePermissions" boolean fun value request =>
      { request with includePermissions := value },
    .optional "includeResourceMap" boolean fun value request =>
      { request with includeResourceMap := value }]

def Selector.encode (selector : Selector) : Json :=
  .object [
    ("apiGroups", Json.texts selector.apiGroups),
    ("resources", Json.texts selector.resources),
    ("verbs", Json.texts selector.verbs),
    ("resourceNames", Json.texts selector.resourceNames),
    ("nonResourceURLs", Json.texts selector.nonResourceUrls)]

def NamespaceScope.encode (scope : NamespaceScope) : Json :=
  .object [("namespaces", Json.texts scope.namespaces), ("strict", .boolean scope.strict)]

def Request.encode (request : Request) : Json :=
  .object [
    ("selector", request.selector.encode),
    ("matchMode", .text request.matchMode.name),
    ("wildcardMode", .text request.wildcardMode.name),
    ("includeRuleMetadata", .boolean request.includeRuleMetadata),
    ("includePods", .boolean request.includePods),
    ("includeWorkloads", .boolean request.includeWorkloads),
    ("filterPhantomAPIs", .boolean request.filterPhantoms),
    ("podPhaseMode", .text request.podPhaseMode.name),
    ("maxPodsPerSubject", Json.count request.maxPodsPerSubject.toNat),
    ("maxWorkloadsPerPod", Json.count request.maxWorkloadsPerPod.toNat),
    ("namespaceScope", Json.optional NamespaceScope.encode request.namespaceScope),
    ("includeAggregates", .boolean request.includeAggregates),
    ("includePermissions", .boolean request.includePermissions),
    ("includeResourceMap", .boolean request.includeResourceMap)]

end AccessGraph
