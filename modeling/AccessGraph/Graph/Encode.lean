/-
This file writes graphs as values.
-/

import AccessGraph.Catalog.Encode
import AccessGraph.Graph.Basic
import AccessGraph.Rule.Codec

namespace AccessGraph

/-- What is empty or false is left out. -/
def RoleDetails.members (details : RoleDetails) : List (String × Json) :=
  Json.member details.aggregated "aggregated" (.boolean true) ++
  Json.member (!details.aggregationSources.isEmpty) "aggregationSources"
    (Json.texts details.aggregationSources) ++
  Json.member (!details.matchedRuleRefs.isEmpty) "matchedRuleRefs"
    (.list RuleRef.encode details.matchedRuleRefs) ++
  Json.member (!details.labels.isEmpty) "labels" (Labels.encode details.labels) ++
  Json.member (!details.annotations.isEmpty) "annotations" (Labels.encode details.annotations)

def PermissionDetails.members (details : PermissionDetails) : List (String × Json) :=
  [("apiGroup", .text details.apiGroup), ("resource", .text details.resource),
    ("verb", .text details.verb)] ++
  Json.member details.nonResource "nonResource" (.boolean true) ++
  Json.member details.phantom "phantom" (.boolean true)

/-- The fields that go with the name of the kind. -/
def NodeKind.members : NodeKind → List (String × Json)
  | .role details => details.members
  | .clusterRole details => details.members
  | .roleBinding => []
  | .clusterRoleBinding => []
  | .subject kind => [("subjectKind", .text kind.name)]
  | .pod phase => [("phase", .text phase.name)]
  | .podOverflow hidden => [("hiddenCount", Json.count hidden)]
  | .workload kind => [("workloadKind", .text kind)]
  | .workloadOverflow hidden => [("hiddenCount", Json.count hidden)]
  | .permission details => details.members
  | .aggregationRelation target sources =>
      [("target", .text target), ("sourceCount", Json.count sources)]

/-- The kind of a node and its fields stand beside the other fields of the node. -/
def Node.encode (node : Node) : Json :=
  .object (
    [("id", .text node.id), ("name", .text node.name)] ++
    Json.member node.namespaceName.isSome "namespace" (Json.optional .text node.namespaceName) ++
    [("lane", .text node.lane.name), ("type", .text node.kind.name)] ++
    node.kind.members)

def Edge.encode (edge : Edge) : Json :=
  .object (
    [("id", .text edge.id), ("from", .text edge.source), ("to", .text edge.target),
      ("type", .text edge.kind.name)] ++
    Json.member (!edge.ruleRefs.isEmpty) "ruleRefs" (.list RuleRef.encode edge.ruleRefs) ++
    Json.member (!edge.explain.isEmpty) "explain" (.text edge.explain))

def Graph.encode (graph : Graph) : Json :=
  .object [("nodes", .list Node.encode graph.nodes), ("edges", .list Edge.encode graph.edges)]

end AccessGraph
