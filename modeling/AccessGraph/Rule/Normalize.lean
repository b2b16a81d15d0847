/-
This file takes policy rules apart into single grants.
-/

import AccessGraph.Rule.Ref
import AccessGraph.Text.Lowercase

namespace AccessGraph

/-- Names are compared without the blank characters around them and in lower case. -/
def normalizeName (name : String) : String :=
  Text.lowercase (Text.trim name)

/-- A policy rule with the bundle that holds it and its position there. -/
structure SourcedRule where
  rule : PolicyRule
  source : String
  index : Nat
deriving DecidableEq, Repr

namespace PolicyRule

def groups (rule : PolicyRule) : List String :=
  distinct (rule.apiGroups.map normalizeName)

def resourceKeys (rule : PolicyRule) : List String :=
  (distinct (rule.resources.map normalizeName)).filter (!·.isEmpty)

def verbNames (rule : PolicyRule) : List String :=
  (distinct (rule.verbs.map normalizeName)).filter (!·.isEmpty)

/-- Names of single objects and URLs keep their case. -/
def objectNames (rule : PolicyRule) : List String :=
  (distinct (rule.resourceNames.map Text.trim)).mergeSort

def urls (rule : PolicyRule) : List String :=
  (distinct (rule.nonResourceUrls.map Text.trim)).filter (!·.isEmpty)

end PolicyRule

namespace SourcedRule

def blankRef (sourced : SourcedRule) : RuleRef :=
  { RuleRef.empty with
    sourceBundle := some sourced.source
    sourceRuleIndex := some sourced.index }

def resourceRef (sourced : SourcedRule) (objectNames : List String)
    (group resource verb : String) : RuleRef :=
  { sourced.blankRef with
    apiGroup := group
    resource := (splitResource resource).1
    subresource := (splitResource resource).2
    verb := verb
    resourceNames := objectNames }

def urlRef (sourced : SourcedRule) (url verb : String) : RuleRef :=
  { sourced.blankRef with
    verb := verb
    nonResourceUrls := [url] }

def resourceRefs (sourced : SourcedRule) : List RuleRef :=
  let resources := sourced.rule.resourceKeys
  let verbs := sourced.rule.verbNames
  let objectNames := sourced.rule.objectNames
  sourced.rule.groups.flatMap fun group =>
    resources.flatMap fun resource =>
      verbs.map fun verb => sourced.resourceRef objectNames group resource verb

def urlRefs (sourced : SourcedRule) : List RuleRef :=
  let verbs := sourced.rule.verbNames
  sourced.rule.urls.flatMap fun url => verbs.map fun verb => sourced.urlRef url verb

/-- A rule grants every verb on every resource of every group, and every verb on every URL. -/
def refs (sourced : SourcedRule) : List RuleRef :=
  sourced.resourceRefs ++ sourced.urlRefs

end SourcedRule

end AccessGraph
