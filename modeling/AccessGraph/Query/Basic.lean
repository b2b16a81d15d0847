/-
This file answers requests: which bundles grant what is asked for, whom they reach, and where these
run.
-/

import AccessGraph.Graph.Encode
import AccessGraph.Query.Error
import AccessGraph.Query.Placement
import AccessGraph.Query.ResourceMap

namespace AccessGraph

/-- The graph that answers a request, how many of each kind were matched, and what was noticed. -/
structure Response where
  graph : Graph
  matchedRoles : Nat
  matchedBindings : Nat
  matchedSubjects : Nat
  matchedPods : Nat
  matchedWorkloads : Nat
  resourceMap : List ResourceMapRow
  warnings : List String
  knownGaps : List String
deriving DecidableEq, Repr

def Response.encode (response : Response) : Json :=
  .object [
    ("graph", response.graph.encode),
    ("matchedRoles", Json.count response.matchedRoles),
    ("matchedBindings", Json.count response.matchedBindings),
    ("matchedSubjects", Json.count response.matchedSubjects),
    ("matchedPods", Json.count response.matchedPods),
    ("matchedWorkloads", Json.count response.matchedWorkloads),
    ("resourceMap", .list ResourceMapRow.encode response.resourceMap),
    ("warnings", Json.texts response.warnings),
    ("knownGaps", Json.texts response.knownGaps)]

/-- The request asks for workloads and not for pods. -/
def podsEnabledWarning : String :=
  "includeWorkloads=true requires includePods=true; includePods was enabled automatically"

def urlGap : String :=
  "non-resource URL wildcard prefixes are matched literally"

def runtimeGap : String :=
  "runtime chain is currently limited to serviceAccount subjects; " ++
    "user/group subject to workload mapping is not included"

namespace Inquiry

/-- The accounts for which pods are looked up, if pods are asked for. -/
def placedAccounts (inquiry : Inquiry) (reached : List Reached) : List ServiceAccount :=
  if inquiry.request.includePods then inquiry.serviceAccounts reached else []

def steps (inquiry : Inquiry) (reached : List Reached) (accounts : List ServiceAccount) :
    List BuildStep :=
  reached.flatMap inquiry.reachSteps ++ accounts.flatMap inquiry.accountSteps

def warnings (inquiry : Inquiry) (found : List BundleMatch) (accounts : List ServiceAccount) :
    List String :=
  inquiry.aggregation.warnings.map (·.message) ++
    found.flatMap (fun bundle => bundle.outcome.warnings.map (·.message)) ++
    accounts.flatMap inquiry.accountWarnings

def knownGaps (inquiry : Inquiry) : List String :=
  inquiry.aggregation.knownGaps ++
    (if inquiry.request.includePods then [runtimeGap] else []) ++
    (if inquiry.request.selector.nonResourceUrls.isEmpty then [] else [urlGap])

/-- Every warning and every gap is said once. -/
def response (inquiry : Inquiry) (earlier : List String) : Response :=
  let found := inquiry.bundleMatches
  let reached := found.filterMap inquiry.reach?
  let accounts := inquiry.placedAccounts reached
  { graph := (GraphBuilder.run (inquiry.steps reached accounts)).finish
    matchedRoles := reached.length
    matchedBindings := (bindingIds reached).length
    matchedSubjects := (subjectIds reached).length
    matchedPods := (inquiry.podIds accounts).length
    matchedWorkloads := (inquiry.workloadIds accounts).length
    resourceMap :=
      if inquiry.request.includeResourceMap then
        ResourceMap.rows inquiry.index inquiry.aggregation
      else []
    warnings := distinct (earlier ++ inquiry.warnings found accounts)
    knownGaps := distinct inquiry.knownGaps }

end Inquiry

/-- What is worth a word before anything is matched. -/
def earlyWarnings (catalog : Catalog) (request : Request) : List String :=
  (if request.needsPods then [podsEnabledWarning] else []) ++
    (CatalogIndex.warnings catalog).map (·.message)

/-- A valid request is answered, unless the graph is at fault. -/
def query (catalog : Catalog) (discovery : Option Discovery) (request : Request) :
    Except QueryError Response := do
  request.validate.mapError .invalidRequest
  let inquiry := Inquiry.of catalog discovery request.withPods
  let response := inquiry.response (earlyWarnings catalog request)
  response.graph.validate.mapError .internal
  .ok response

end AccessGraph
