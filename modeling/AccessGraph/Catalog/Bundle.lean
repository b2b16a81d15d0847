/-
This file holds bundles of policy rules: roles, which belong to a namespace, and cluster roles.
-/

import AccessGraph.Catalog.LabelSelector
import AccessGraph.Text.Blank

namespace AccessGraph

/-- A namespace is given when something is left of it between blank characters. -/
def givenNamespace (namespaceName : Option String) : Option String :=
  (namespaceName.map Text.trim).filter (!·.isEmpty)

/-- This token stands for every API group, resource, subresource, verb or URL. -/
def wildcard : String := "*"

inductive BundleKind where
  | role
  | clusterRole
deriving DecidableEq, Repr

def BundleKind.name : BundleKind → String
  | .role => "Role"
  | .clusterRole => "ClusterRole"

/-- Only a role's id names a namespace. -/
def bundleId (kind : BundleKind) (namespaceName : Option String) (name : String) : String :=
  match kind, namespaceName with
  | .role, some space => "role:" ++ space ++ "/" ++ name
  | .role, none => "role:" ++ name
  | .clusterRole, _ => "clusterrole:" ++ name

/-- A rule grants verbs on resources of API groups, and on URLs outside of them. -/
structure PolicyRule where
  apiGroups : List String
  resources : List String
  verbs : List String
  resourceNames : List String
  nonResourceUrls : List String
deriving DecidableEq, Repr

namespace PolicyRule

def empty : PolicyRule :=
  ⟨[], [], [], [], []⟩

def isNonResource (rule : PolicyRule) : Bool :=
  rule.resources.isEmpty && !rule.nonResourceUrls.isEmpty

end PolicyRule

/-- A cluster role with such a rule takes over the rules of those that a selector selects. -/
structure AggregationRule where
  selectors : List LabelSelector
deriving DecidableEq, Repr

structure Bundle where
  kind : BundleKind
  name : String
  namespaceName : Option String
  labels : Labels
  annotations : SortedMap String
  rules : List PolicyRule
  aggregationRule : Option AggregationRule
deriving DecidableEq, Repr

namespace Bundle

def space (bundle : Bundle) : Option String :=
  givenNamespace bundle.namespaceName

def id (bundle : Bundle) : String :=
  bundleId bundle.kind bundle.space bundle.name

def isClusterScoped (bundle : Bundle) : Bool :=
  bundle.kind == .clusterRole

/-- Only the selectors of a cluster role count. -/
def selectors (bundle : Bundle) : List LabelSelector :=
  match bundle.kind, bundle.aggregationRule with
  | .clusterRole, some rule => rule.selectors
  | _, _ => []

def hasAggregationRule (bundle : Bundle) : Bool :=
  !bundle.selectors.isEmpty

end Bundle

end AccessGraph
