/-
This file holds single grants: one verb on one resource of one API group, or on one URL.
-/

import AccessGraph.Catalog.Bundle
import AccessGraph.Distinct

namespace AccessGraph

/-- A grant of a rule. It names the bundle and the position of the rule it comes from; a grant with
wildcards may list the grants it stands for. -/
structure RuleRef where
  apiGroup : String
  resource : String
  subresource : String
  verb : String
  resourceNames : List String
  nonResourceUrls : List String
  sourceBundle : Option String
  sourceRuleIndex : Option Nat
  phantom : Bool
  unsupportedVerb : Bool
  expandedRefs : List RuleRef
deriving Repr

/-- Grants with one key are the same grant, whatever rule they come from. -/
structure RuleKey where
  apiGroup : String
  resource : String
  subresource : String
  verb : String
  resourceNames : List String
  nonResourceUrls : List String
deriving DecidableEq, Repr

/-- A resource is written with its subresource, if it has one. -/
def resourceKey (resource subresource : String) : String :=
  if subresource.isEmpty then resource else resource ++ "/" ++ subresource

/-- The first slash divides a resource from its subresource. -/
def splitResource (resource : String) : String × String :=
  let characters := resource.toList
  (String.ofList (characters.takeWhile (· ≠ '/')),
    String.ofList ((characters.dropWhile (· ≠ '/')).drop 1))

namespace RuleRef

def empty : RuleRef where
  apiGroup := ""
  resource := ""
  subresource := ""
  verb := ""
  resourceNames := []
  nonResourceUrls := []
  sourceBundle := none
  sourceRuleIndex := none
  phantom := false
  unsupportedVerb := false
  expandedRefs := []

def isNonResource (grant : RuleRef) : Bool :=
  !grant.nonResourceUrls.isEmpty

def resourceKey (grant : RuleRef) : String :=
  AccessGraph.resourceKey grant.resource grant.subresource

def hasWildcard (grant : RuleRef) : Bool :=
  !grant.isNonResource &&
    (grant.apiGroup == wildcard || grant.resource == wildcard ||
      grant.subresource == wildcard || grant.verb == wildcard)

def key (grant : RuleRef) : RuleKey where
  apiGroup := grant.apiGroup
  resource := grant.resource
  subresource := grant.subresource
  verb := grant.verb
  resourceNames := grant.resourceNames
  nonResourceUrls := grant.nonResourceUrls

/-- Grants of one permission share a group, a resource or URLs, a verb and whether they are outside
of the resources. -/
structure Permission where
  apiGroup : String
  resource : String
  verb : String
  nonResource : Bool
deriving DecidableEq, Repr

def permission (grant : RuleRef) : Permission :=
  if grant.isNonResource then ⟨"", ",".intercalate grant.nonResourceUrls, grant.verb, true⟩
  else ⟨grant.apiGroup, grant.resourceKey, grant.verb, false⟩

mutual

/-- A grant without its source differs from others only in what it grants. -/
def withoutSource : RuleRef → RuleRef
  | ⟨apiGroup, resource, subresource, verb, resourceNames, nonResourceUrls, _, _, phantom,
      unsupportedVerb, expandedRefs⟩ =>
      ⟨apiGroup, resource, subresource, verb, resourceNames, nonResourceUrls, none, none, phantom,
        unsupportedVerb, allWithoutSource expandedRefs⟩

def allWithoutSource : List RuleRef → List RuleRef
  | [] => []
  | grant :: rest => grant.withoutSource :: allWithoutSource rest

end

theorem allWithoutSource_eq_map (grants : List RuleRef) :
    allWithoutSource grants = grants.map withoutSource := by
  induction grants with
  | nil => rfl
  | cons grant rest inductionHypothesis => rw [allWithoutSource, inductionHypothesis, List.map_cons]

/-- This is what a grant says besides the grants it stands for. -/
def own (grant : RuleRef) : RuleKey × Option String × Option Nat × Bool × Bool :=
  (grant.key, grant.sourceBundle, grant.sourceRuleIndex, grant.phantom, grant.unsupportedVerb)

theorem eq_iff {first second : RuleRef} :
    first = second ↔ first.own = second.own ∧ first.expandedRefs = second.expandedRefs := by
  cases first
  cases second
  simp [own, key, and_assoc]

mutual

def decideEq : (first second : RuleRef) → Decidable (first = second)
  | ⟨_, _, _, _, _, _, _, _, _, _, expandedRefs⟩, second =>
      have := decideAllEq expandedRefs second.expandedRefs
      decidable_of_decidable_of_iff eq_iff.symm

def decideAllEq : (first second : List RuleRef) → Decidable (first = second)
  | [], [] => .isTrue rfl
  | [], _ :: _ => .isFalse (List.cons_ne_nil _ _).symm
  | _ :: _, [] => .isFalse (List.cons_ne_nil _ _)
  | grant :: rest, other :: others =>
      have := decideEq grant other
      have := decideAllEq rest others
      decidable_of_decidable_of_iff List.cons_eq_cons.symm

end

instance : DecidableEq RuleRef :=
  decideEq

/-- The first grant of every key stays. -/
def dedupe (grants : List RuleRef) : List RuleRef :=
  distinctBy key grants

end RuleRef

end AccessGraph
