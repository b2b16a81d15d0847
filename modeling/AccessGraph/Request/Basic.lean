/-
This file holds requests: what is looked for, how it is matched, and what is shown.
-/

import AccessGraph.Catalog.Bundle

namespace AccessGraph

inductive MatchMode where
  | any
  | all
deriving DecidableEq, Repr

def MatchMode.name : MatchMode → String
  | .any => "any"
  | .all => "all"

/-- Wildcards stand for what they cover, or only for themselves. -/
inductive WildcardMode where
  | expand
  | exact
deriving DecidableEq, Repr

def WildcardMode.name : WildcardMode → String
  | .expand => "expand"
  | .exact => "literal"

/-- Active pods are pending or running. -/
inductive PodPhaseMode where
  | active
  | all
  | running
deriving DecidableEq, Repr

def PodPhaseMode.name : PodPhaseMode → String
  | .active => "active"
  | .all => "all"
  | .running => "running"

/-- Each list is a set of wanted values; an empty one leaves its field open. -/
structure Selector where
  apiGroups : List String
  resources : List String
  verbs : List String
  resourceNames : List String
  nonResourceUrls : List String
deriving DecidableEq, Repr

def Selector.empty : Selector :=
  ⟨[], [], [], [], []⟩

structure NamespaceScope where
  namespaces : List String
  strict : Bool
deriving DecidableEq, Repr

structure Request where
  selector : Selector
  matchMode : MatchMode
  wildcardMode : WildcardMode
  includeRuleMetadata : Bool
  includePods : Bool
  includeWorkloads : Bool
  filterPhantoms : Bool
  podPhaseMode : PodPhaseMode
  maxPodsPerSubject : UInt64
  maxWorkloadsPerPod : UInt64
  namespaceScope : Option NamespaceScope
  includeAggregates : Bool
  includePermissions : Bool
  includeResourceMap : Bool
deriving DecidableEq, Repr

/-- Nothing is selected away, and nothing but roles, bindings and subjects is shown. -/
def Request.standard : Request where
  selector := .empty
  matchMode := .any
  wildcardMode := .expand
  includeRuleMetadata := false
  includePods := false
  includeWorkloads := false
  filterPhantoms := false
  podPhaseMode := .active
  maxPodsPerSubject := 20
  maxWorkloadsPerPod := 10
  namespaceScope := none
  includeAggregates := false
  includePermissions := false
  includeResourceMap := false

/-- What makes a well-formed request unfit. -/
inductive RequestFault where
  | noPods
  | noWorkloads
  | blankValue (field : String)
  | slashes (resource : String)
  | relativeUrl (url : String)
deriving DecidableEq, Repr

def RequestFault.message : RequestFault → String
  | .noPods => "maxPodsPerSubject must be greater than 0"
  | .noWorkloads => "maxWorkloadsPerPod must be greater than 0"
  | .blankValue field => "selector." ++ field ++ " contains an empty value"
  | .slashes resource =>
      "selector.resources value " ++ Text.quote resource ++ " has more than one '/'"
  | .relativeUrl url =>
      "selector.nonResourceURLs value " ++ Text.quote url ++ " must start with '/'"

namespace Selector

def checkBlank (field : String) (values : List String) : Except RequestFault Unit :=
  if values.any fun value => (Text.trim value).isEmpty then .error (.blankValue field) else .ok ()

def isNested (resource : String) : Bool :=
  1 < resource.toList.count '/'

def checkResources (resources : List String) : Except RequestFault Unit :=
  match resources.find? isNested with
  | some resource => .error (.slashes resource)
  | none => .ok ()

def isRelative (url : String) : Bool :=
  url != wildcard && url.toList.head? != some '/'

def checkUrls (urls : List String) : Except RequestFault Unit :=
  match (urls.map Text.trim).find? isRelative with
  | some url => .error (.relativeUrl url)
  | none => .ok ()

/-- Only an API group may be blank. A resource has at most one slash, and a URL that is not the
wildcard starts with one. -/
def validate (selector : Selector) : Except RequestFault Unit := do
  checkBlank "resources" selector.resources
  checkBlank "verbs" selector.verbs
  checkBlank "resourceNames" selector.resourceNames
  checkBlank "nonResourceURLs" selector.nonResourceUrls
  checkResources selector.resources
  checkUrls selector.nonResourceUrls

end Selector

namespace Request

def validate (request : Request) : Except RequestFault Unit :=
  if request.maxPodsPerSubject = 0 then .error .noPods
  else if request.maxWorkloadsPerPod = 0 then .error .noWorkloads
  else request.selector.validate

/-- Workloads hang off pods, so that asking for them asks for pods too. -/
def needsPods (request : Request) : Bool :=
  request.includeWorkloads && !request.includePods

def withPods (request : Request) : Request :=
  if request.needsPods then { request with includePods := true } else request

end Request

end AccessGraph
