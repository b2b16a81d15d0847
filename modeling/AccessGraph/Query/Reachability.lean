/-
This file goes from bundles to the bindings that grant them and the subjects of these.
-/

import AccessGraph.Aggregation.Basic
import AccessGraph.Catalog.Index
import AccessGraph.Graph.Builder
import AccessGraph.Matching.Outcome
import AccessGraph.Scope

namespace AccessGraph

/-- All that is looked at to answer one request. -/
structure Inquiry where
  request : Request
  index : CatalogIndex
  aggregation : Aggregation
  matcher : Matcher
  scope : Scope
deriving DecidableEq, Repr

namespace Inquiry

def of (catalog : Catalog) (discovery : Option Discovery) (request : Request) : Inquiry :=
  let index := CatalogIndex.of catalog
  { request := request
    index := index
    aggregation := .resolve index.bundles
    matcher := .of request discovery
    scope := .of request.namespaceScope }

end Inquiry

/-- A bundle in scope and what the request selects of its rules. -/
structure BundleMatch where
  id : String
  bundle : Bundle
  outcome : MatchOutcome
deriving DecidableEq, Repr

/-- A bundle that is shown, with its grants and the bindings in scope that grant it. -/
structure Reached where
  id : String
  bundle : Bundle
  refs : List RuleRef
  bindings : List Binding
deriving DecidableEq, Repr

/-- A service account that was reached, with the id of its node. The namespace is empty when none is
known. -/
structure ServiceAccount where
  namespaceName : String
  name : String
  nodeId : String
deriving DecidableEq, Repr

namespace ServiceAccount

def order : ServiceAccount → ServiceAccount → Ordering :=
  compareLex (compareOn (·.namespaceName)) (compareLex (compareOn (·.name)) (compareOn (·.nodeId)))

end ServiceAccount

namespace Inquiry

/-- The bundles in scope in the order of their ids. -/
def bundleMatches (inquiry : Inquiry) : List BundleMatch :=
  (inquiry.index.bundles.entries.filter fun entry => inquiry.scope.allowsBundle entry.2).map
    fun (id, bundle) =>
      ⟨id, bundle, inquiry.matcher.matchRules (inquiry.aggregation.effectiveRules id bundle)⟩

/-- The sources of grants are shown on request only. -/
def shownRefs (inquiry : Inquiry) (refs : List RuleRef) : List RuleRef :=
  RuleRef.dedupe
    (if inquiry.request.includeRuleMetadata then refs else refs.map RuleRef.withoutSource)

/-- A bundle is shown when some of its grants are selected, and a cluster bundle also needs a
binding if the scope is strict. -/
def reach? (inquiry : Inquiry) (found : BundleMatch) : Option Reached :=
  let bindings := (inquiry.index.bindingsFor found.id).filter inquiry.scope.allowsBinding
  if found.outcome.refs.isEmpty then none
  else if found.bundle.isClusterScoped &&
      !inquiry.scope.keepsClusterBundle bindings.length then none
  else some ⟨found.id, found.bundle, inquiry.shownRefs found.outcome.refs, bindings⟩

def roleNode (inquiry : Inquiry) (id : String) (bundle : Bundle) (refs : List RuleRef) : Node :=
  let details : RoleDetails :=
    { aggregated := inquiry.aggregation.isAggregated id
      aggregationSources := inquiry.aggregation.sourcesOf id
      matchedRuleRefs := refs
      labels := bundle.labels
      annotations := bundle.annotations }
  match bundle.kind with
  | .role => .of id bundle.name bundle.space (.role details)
  | .clusterRole => .of id bundle.name none (.clusterRole details)

def bindingNode (binding : Binding) : Node :=
  .of binding.id binding.name binding.space
    (if binding.isClusterScoped then .clusterRoleBinding else .roleBinding)

def subjectId (binding : Binding) (subject : Subject) : String :=
  subjectNodeId subject (subject.space binding)

def subjectNode (binding : Binding) (subject : Subject) : Node :=
  .of (subjectId binding subject) subject.name (subject.space binding) (.subject subject.kind)

def permissionNode (grant : RuleRef) : Node :=
  let permission := grant.permission
  let name :=
    if permission.apiGroup.isEmpty then permission.verb ++ " " ++ permission.resource
    else permission.verb ++ " " ++ permission.apiGroup ++ "/" ++ permission.resource
  .of (permissionNodeId permission.apiGroup permission.resource permission.verb) name none
    (.permission ⟨permission.apiGroup, permission.resource, permission.verb,
      permission.nonResource, grant.phantom⟩)

def subjectSteps (binding : Binding) (subject : Subject) : List BuildStep :=
  [.node (subjectNode binding subject),
    .edge (.of binding.id (subjectId binding subject) .subjects "Binding targets subject" [])]

/-- A binding is granted the bundle, and targets its subjects. -/
def bindingSteps (reached : Reached) (binding : Binding) : List BuildStep :=
  [.node (bindingNode binding),
    .edge (.of reached.id binding.id .grants "Role referenced by binding" reached.refs)] ++
  binding.subjects.flatMap (subjectSteps binding)

def contributes (source target : String) : BuildStep :=
  .edge (.of source target .aggregates "ClusterRole contributes rules via aggregationRule" [])

/-- A source of aggregation is shown even if the request selects none of its own grants. -/
def sourceSteps (inquiry : Inquiry) (target source : String) : List BuildStep :=
  match inquiry.index.bundles.get? source with
  | some bundle => [.role (inquiry.roleNode source bundle []), contributes source target]
  | none => []

/-- Sources that are aggregated themselves have a relation of their own. -/
def leafSources (inquiry : Inquiry) (target : String) : List String :=
  (inquiry.aggregation.sourcesOf target).filter (!inquiry.aggregation.isAggregated ·)

/-- The relation stands between the sources of a bundle and the bundle. -/
def relationSteps (inquiry : Inquiry) (reached : Reached) : List BuildStep :=
  match inquiry.leafSources reached.id with
  | [] => []
  | sources =>
      let relation := aggregationNodeId reached.id
      [.node (.of relation ("aggregate -> " ++ reached.bundle.name) none
        (.aggregationRelation reached.id sources.length))] ++
      sources.map (contributes · relation) ++
      [.edge (.of relation reached.id .aggregates
        "Aggregated rules flow into the target ClusterRole" [])]

def permissionSteps (reached : Reached) (grant : RuleRef) : List BuildStep :=
  let node := permissionNode grant
  [.node node, .edge (.of reached.id node.id .permits "Role grants permission" [])]

def reachSteps (inquiry : Inquiry) (reached : Reached) : List BuildStep :=
  [.role (inquiry.roleNode reached.id reached.bundle reached.refs)] ++
  reached.bindings.flatMap (bindingSteps reached) ++
  (inquiry.aggregation.sourcesOf reached.id).flatMap (inquiry.sourceSteps reached.id) ++
  (if inquiry.request.includeAggregates then inquiry.relationSteps reached else []) ++
  (if inquiry.request.includePermissions then reached.refs.flatMap (permissionSteps reached)
    else [])

/-- The service account behind a subject, if pods may be looked up for it. -/
def serviceAccount? (inquiry : Inquiry) (binding : Binding) (subject : Subject) :
    Option ServiceAccount :=
  if subject.isServiceAccount && inquiry.scope.allowsRuntimeSubject subject binding then
    some ⟨(subject.space binding).getD "", subject.name, subjectId binding subject⟩
  else none

def bindingIds (reached : List Reached) : List String :=
  distinct (reached.flatMap fun bundle => bundle.bindings.map (·.id))

def subjectIds (reached : List Reached) : List String :=
  distinct (reached.flatMap fun bundle => bundle.bindings.flatMap fun binding =>
    binding.subjects.map (subjectId binding))

/-- The service accounts that were reached, each once, by namespace and name. -/
def serviceAccounts (inquiry : Inquiry) (reached : List Reached) : List ServiceAccount :=
  (distinct (reached.flatMap fun bundle => bundle.bindings.flatMap fun binding =>
    binding.subjects.filterMap (inquiry.serviceAccount? binding))).mergeSort
      fun first second => (ServiceAccount.order first second).isLE

end Inquiry

end AccessGraph
