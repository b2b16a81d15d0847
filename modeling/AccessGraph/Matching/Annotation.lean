/-
This file marks grants on what the cluster does not serve, and lists what a grant with wildcards
stands for.
-/

import AccessGraph.Matching.Matcher

namespace AccessGraph

/-- What is worth a word about a grant. -/
inductive MatchWarning where
  | unknownUrl (url : String)
  | unknownGroup (group : String)
  | unknownResource (resource group : String)
  | truncated (group resource verb : String)
deriving DecidableEq, Repr

/-- The greatest number of grants listed for one with wildcards. -/
def expansionLimit : Nat := 2000

def MatchWarning.message : MatchWarning → String
  | .unknownUrl url =>
      "non-resource URL " ++ Text.quote url ++
        " referenced in role rules is not served by the cluster"
  | .unknownGroup group =>
      "API group " ++ Text.quote group ++
        " referenced in role rules is not installed in the cluster"
  | .unknownResource resource group =>
      "resource " ++ Text.quote resource ++ " in API group " ++ Text.quote group ++
        " is not registered in the cluster"
  | .truncated group resource verb =>
      "wildcard expansion for " ++ group ++ "/" ++ resource ++ "/" ++ verb ++
        " truncated at " ++ toString expansionLimit ++ " entries"

namespace Discovery

/-- The URLs of a grant that no known URL covers. -/
def unknownUrls (discovery : Discovery) (grant : RuleRef) : List String :=
  if discovery.knowsUrls then
    grant.nonResourceUrls.filter fun url => url != wildcard && !discovery.hasUrl url
  else []

/-- This is why a grant on resources is phantom. A wildcard is never unknown, and a subresource is
known with its resource. -/
def unknownPart (discovery : Discovery) (grant : RuleRef) : Option MatchWarning :=
  if grant.apiGroup == wildcard || grant.resource == wildcard then none
  else if !discovery.hasGroup grant.apiGroup then some (.unknownGroup grant.apiGroup)
  else if grant.subresource != wildcard &&
      !discovery.hasResource grant.apiGroup grant.resourceKey &&
      !discovery.hasResource grant.apiGroup grant.resource then
    some (.unknownResource grant.resourceKey grant.apiGroup)
  else none

/-- The groups that the group of a grant stands for. -/
def groupsOf (discovery : Discovery) (grant : RuleRef) : List String :=
  if grant.apiGroup == wildcard then discovery.groupNames else [grant.apiGroup]

/-- The verb is not supported when some group serves the resource, and none with this verb. -/
def isUnsupported (discovery : Discovery) (grant : RuleRef) : Bool :=
  if grant.verb == wildcard || grant.resource == wildcard || grant.subresource == wildcard then
    false
  else
    let key := grant.resourceKey
    let served := (discovery.groupsOf grant).filterMap (discovery.verbsFor · key)
    !served.isEmpty && !served.any (·.contains grant.verb)

/-- The marks of a grant, and the warnings that go with them. -/
def annotate (discovery : Discovery) (grant : RuleRef) : RuleRef × List MatchWarning :=
  if grant.isNonResource then
    match discovery.unknownUrls grant with
    | [] => (grant, [])
    | urls => ({ grant with phantom := true }, urls.map .unknownUrl)
  else
    match discovery.unknownPart grant with
    | some warning => ({ grant with phantom := true }, [warning])
    | none => ({ grant with unsupportedVerb := discovery.isUnsupported grant }, [])

/-- The resources of a group that a grant stands for, each with its subresource. A wildcard in place
of the resource does not reach into subresources. -/
def resourcesOf (discovery : Discovery) (group : String) (grant : RuleRef) :
    List (String × String) :=
  if grant.resource != wildcard && grant.subresource != wildcard then
    [(grant.resource, grant.subresource)]
  else
    ((discovery.resources group).map splitResource).filter fun (base, sub) =>
      Matcher.covers grant.resource base && grant.subresource.isEmpty == sub.isEmpty &&
        Matcher.covers grant.subresource sub

/-- The verbs on a resource that a verb stands for. Every verb that is known anywhere may be served
by a group that is not known. -/
def verbsOf (discovery : Discovery) (group key verb : String) : List String :=
  match discovery.verbsFor group key with
  | some served => if verb == wildcard then served else served.filter (· == verb)
  | none =>
      if discovery.hasGroup group then []
      else if verb == wildcard then discovery.allVerbs
      else [verb]

/-- All grants on single resources that a grant with wildcards stands for. -/
def expansions (discovery : Discovery) (grant : RuleRef) : List RuleRef :=
  (discovery.groupsOf grant).flatMap fun group =>
    (discovery.resourcesOf group grant).flatMap fun (resource, subresource) =>
      (discovery.verbsOf group (resourceKey resource subresource) grant.verb).map fun verb =>
        { RuleRef.empty with
          apiGroup := group
          resource := resource
          subresource := subresource
          verb := verb
          resourceNames := grant.resourceNames
          sourceBundle := grant.sourceBundle
          sourceRuleIndex := grant.sourceRuleIndex }

end Discovery

end AccessGraph
