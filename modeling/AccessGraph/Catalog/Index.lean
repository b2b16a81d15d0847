/-
This file holds the parts of a catalog that a query looks up, and says which parts are left out.
-/

import AccessGraph.Catalog.Snapshot
import AccessGraph.Distinct

namespace AccessGraph

/-- What is left out of a catalog. -/
inductive CatalogWarning where
  | duplicateBundle (id : String)
  | unresolvedBinding (binding : String) (kind : BundleKind) (name : String)
  | missingBundle (binding bundle : String)
  | noUid (space name kind : String)
deriving DecidableEq, Repr

def CatalogWarning.message : CatalogWarning → String
  | .duplicateBundle id => "duplicate bundle " ++ id ++ " ignored"
  | .unresolvedBinding binding kind name =>
      "binding " ++ binding ++ " references " ++ kind.name ++ " " ++ name ++
        " which cannot be resolved from its scope"
  | .missingBundle binding bundle => "binding " ++ binding ++ " references missing " ++ bundle
  | .noUid space name kind =>
      "workload " ++ space ++ "/" ++ name ++ " " ++ kind ++ " has no uid and cannot be linked"

/-- The bundles by id, the bindings with the ids of the bundles that they grant, the pods, and the
workloads that have a uid. -/
structure CatalogIndex where
  bundles : SortedMap Bundle
  bindings : List (String × Binding)
  pods : List Pod
  workloads : List Workload
deriving DecidableEq, Repr

namespace CatalogIndex

/-- The first bundle of an id counts. -/
def bundlesById (bundles : List Bundle) : SortedMap Bundle :=
  .ofListKeepingFirst (bundles.map fun bundle => (bundle.id, bundle))

def duplicates (passed : List String) : List Bundle → List CatalogWarning
  | [] => []
  | bundle :: rest =>
      if passed.contains bundle.id then .duplicateBundle bundle.id :: duplicates passed rest
      else duplicates (bundle.id :: passed) rest

/-- A binding counts when it grants a bundle of the catalog. -/
def resolve (bundles : SortedMap Bundle) (binding : Binding) :
    Except CatalogWarning (String × Binding) :=
  match binding.bundleId? with
  | none =>
      .error (.unresolvedBinding binding.id binding.roleRef.kind binding.roleRef.name)
  | some id =>
      if bundles.contains id then .ok (id, binding)
      else .error (.missingBundle binding.id id)

def resolved? (bundles : SortedMap Bundle) (binding : Binding) : Option (String × Binding) :=
  (resolve bundles binding).toOption

def unresolved? (bundles : SortedMap Bundle) (binding : Binding) : Option CatalogWarning :=
  match resolve bundles binding with
  | .error warning => some warning
  | .ok _ => none

def of (catalog : Catalog) : CatalogIndex :=
  let bundles := bundlesById catalog.bundles
  { bundles := bundles
    bindings := catalog.bindings.filterMap (resolved? bundles)
    pods := catalog.pods
    workloads := catalog.workloads.filter (!·.uid.isEmpty) }

def warnings (catalog : Catalog) : List CatalogWarning :=
  duplicates [] catalog.bundles ++
    catalog.bindings.filterMap (unresolved? (bundlesById catalog.bundles)) ++
    (catalog.workloads.filter (·.uid.isEmpty)).map fun workload =>
      .noUid workload.namespaceName workload.name workload.kind

/-- The bindings that grant a bundle, in the order of the catalog. -/
def bindingsFor (index : CatalogIndex) (bundle : String) : List Binding :=
  (index.bindings.filter (·.1 == bundle)).map (·.2)

def podOrder : Pod → Pod → Ordering :=
  compareLex (compareOn (·.namespaceName)) (compareLex (compareOn (·.name)) (compareOn (·.uid)))

/-- The pods that use a service account, by name and uid. -/
def podsFor (index : CatalogIndex) (space account : String) : List Pod :=
  (index.pods.filter fun pod => pod.namespaceName == space && pod.serviceAccount == account)
    |>.mergeSort fun first second => (podOrder first second).isLE

/-- The first workload of a uid counts. -/
def workload? (index : CatalogIndex) (uid : String) : Option Workload :=
  index.workloads.find? (·.uid == uid)

end CatalogIndex

end AccessGraph
