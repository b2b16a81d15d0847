/-
This file holds what a cluster is known to serve: the verbs of every resource of every API group,
and the URLs outside of the resources.
-/

import AccessGraph.Rule.Normalize
import AccessGraph.SortedSet

namespace AccessGraph

/-- The verbs are kept by group and resource, and once more all together. -/
structure Discovery where
  groups : SortedMap (SortedMap SortedSet)
  verbs : SortedSet
  urls : SortedSet
deriving DecidableEq, Repr

namespace Discovery

def empty : Discovery :=
  ⟨.empty, .empty, .empty⟩

def isEmpty (discovery : Discovery) : Bool :=
  discovery.groups.isEmpty && discovery.urls.isEmpty

/-- Verbs are added to those of the resource, which is known from then on even without verbs. A
blank resource and blank verbs are left out. -/
def insert (discovery : Discovery) (group resource : String) (verbs : List String) : Discovery :=
  let resource := normalizeName resource
  if resource.isEmpty then discovery
  else
    let group := normalizeName group
    let verbs := (verbs.map normalizeName).filter (!·.isEmpty)
    let resources := (discovery.groups.get? group).getD .empty
    let served := (resources.get? resource).getD .empty
    { discovery with
      groups := discovery.groups.insert group
        (resources.insert resource (verbs.foldl SortedSet.insert served))
      verbs := verbs.foldl SortedSet.insert discovery.verbs }

def insertUrl (discovery : Discovery) (url : String) : Discovery :=
  let url := Text.trim url
  if url.isEmpty then discovery else { discovery with urls := discovery.urls.insert url }

def hasGroup (discovery : Discovery) (group : String) : Bool :=
  discovery.groups.contains (normalizeName group)

def groupNames (discovery : Discovery) : List String :=
  discovery.groups.keys

/-- The resources of a group, those with a subresource included. -/
def resources (discovery : Discovery) (group : String) : List String :=
  ((discovery.groups.get? (normalizeName group)).map (·.keys)).getD []

def verbsFor (discovery : Discovery) (group resource : String) : Option (List String) := do
  let resources ← discovery.groups.get? (normalizeName group)
  let served ← resources.get? (normalizeName resource)
  some served.toList

def hasResource (discovery : Discovery) (group resource : String) : Bool :=
  (discovery.verbsFor group resource).isSome

def allVerbs (discovery : Discovery) : List String :=
  discovery.verbs.toList

def knowsUrls (discovery : Discovery) : Bool :=
  !discovery.urls.isEmpty

/-- A known URL that ends in `*` covers those that start with what comes before. -/
def covers (known url : String) : Bool :=
  known == url || (known.toList.getLast? == some '*' && known.toList.dropLast.isPrefixOf url.toList)

def hasUrl (discovery : Discovery) (url : String) : Bool :=
  let url := Text.trim url
  discovery.urls.toList.any (covers · url)

/-- One entry of a document: a resource, which may name a subresource, and its verbs. -/
structure Entry where
  group : String
  resource : String
  verbs : List String
deriving DecidableEq, Repr

def ofEntries (entries : List Entry) (urls : List String) : Discovery :=
  urls.foldl insertUrl
    (entries.foldl
      (fun discovery entry => discovery.insert entry.group entry.resource entry.verbs) empty)

end Discovery

end AccessGraph
