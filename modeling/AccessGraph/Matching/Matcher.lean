/-
This file says which grants a request selects.
-/

import AccessGraph.Discovery.Basic
import AccessGraph.Request.Basic

namespace AccessGraph

/-- What is asked of grants: the wanted values as they are compared, the modes, and what the cluster
is known to serve. -/
structure Matcher where
  apiGroups : List String
  resources : List String
  verbs : List String
  resourceNames : List String
  nonResourceUrls : List String
  matchMode : MatchMode
  wildcardMode : WildcardMode
  filterPhantoms : Bool
  discovery : Option Discovery
deriving DecidableEq, Repr

namespace Matcher

/-- Who serves nothing is not known to serve anything. -/
def of (request : Request) (discovery : Option Discovery) : Matcher where
  apiGroups := request.selector.apiGroups.map normalizeName
  resources := request.selector.resources.map normalizeName
  verbs := request.selector.verbs.map normalizeName
  resourceNames := request.selector.resourceNames.map Text.trim
  nonResourceUrls := request.selector.nonResourceUrls.map Text.trim
  matchMode := request.matchMode
  wildcardMode := request.wildcardMode
  filterPhantoms := request.filterPhantoms
  discovery := discovery.filter (!·.isEmpty)

def expands (matcher : Matcher) : Bool :=
  matcher.wildcardMode == .expand

def selectsAll (matcher : Matcher) : Bool :=
  matcher.apiGroups.isEmpty && matcher.resources.isEmpty && matcher.verbs.isEmpty &&
    matcher.resourceNames.isEmpty && matcher.nonResourceUrls.isEmpty

/-- A pattern is a value or the wildcard. -/
def covers (pattern value : String) : Bool :=
  pattern == wildcard || pattern == value

/-- A wildcard counts on either side when wildcards expand. -/
def valueMatches (matcher : Matcher) (wanted : List String) (value : String) : Bool :=
  wanted.isEmpty || wanted.contains value ||
    (matcher.expands && (value == wildcard || wanted.contains wildcard))

/-- The two parts of a resource cover each other one by one, and either both have a subresource or
neither has. -/
def partsMatch (wanted : String) (grant : RuleRef) : Bool :=
  let (base, sub) := splitResource wanted
  (covers grant.resource base || covers base grant.resource) &&
    sub.isEmpty == grant.subresource.isEmpty &&
    (covers grant.subresource sub || covers sub grant.subresource)

def resourceMatches (matcher : Matcher) (grant : RuleRef) : Bool :=
  let key := grant.resourceKey
  matcher.resources.isEmpty || matcher.resources.any fun wanted =>
    wanted == key ||
      (matcher.expands && (wanted == wildcard || key == wildcard || partsMatch wanted grant))

/-- A grant without names is one for all names. -/
def resourceNamesMatch (matcher : Matcher) (grant : RuleRef) : Bool :=
  matcher.resourceNames.isEmpty || grant.resourceNames.isEmpty ||
    grant.resourceNames.any matcher.resourceNames.contains

def urlMatches (matcher : Matcher) (grant : RuleRef) : Bool :=
  grant.nonResourceUrls.any (matcher.valueMatches matcher.nonResourceUrls)

/-- A field takes part when the request names values for it, and grants on URLs have no field but
the URLs. -/
def checks (matcher : Matcher) (grant : RuleRef) : List Bool :=
  if grant.isNonResource then
    if matcher.nonResourceUrls.isEmpty then [] else [matcher.urlMatches grant]
  else
    (if matcher.apiGroups.isEmpty then []
      else [matcher.valueMatches matcher.apiGroups grant.apiGroup]) ++
    (if matcher.resources.isEmpty then [] else [matcher.resourceMatches grant]) ++
    (if matcher.verbs.isEmpty then [] else [matcher.valueMatches matcher.verbs grant.verb]) ++
    (if matcher.resourceNames.isEmpty then [] else [matcher.resourceNamesMatch grant])

/-- A grant in which no field takes part is selected by an empty request alone. -/
def selects (matcher : Matcher) (grant : RuleRef) : Bool :=
  match matcher.checks grant with
  | [] => matcher.selectsAll
  | checks =>
      match matcher.matchMode with
      | .all => checks.all id
      | .any => checks.any id

end Matcher

end AccessGraph
