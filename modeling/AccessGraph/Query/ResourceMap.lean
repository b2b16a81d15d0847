/-
This file counts, for every permission, the bundles that grant it and the bindings and subjects that
these reach. Neither the selector nor the scope of a request counts here, and wildcards are counted
as they are written.
-/

import AccessGraph.Query.Reachability
import AccessGraph.Json.Encode

namespace AccessGraph

structure ResourceMapRow where
  permission : RuleRef.Permission
  roleCount : Nat
  bindingCount : Nat
  subjectCount : Nat
deriving DecidableEq, Repr

namespace RuleRef.Permission

def order : Permission → Permission → Ordering :=
  compareLex (compareOn (·.apiGroup))
    (compareLex (compareOn (·.resource))
      (compareLex (compareOn (·.verb)) (compareOn (·.nonResource))))

end RuleRef.Permission

namespace ResourceMapRow

/-- What a row says; a permission on URLs is marked. -/
def encode (row : ResourceMapRow) : Json :=
  .object (
    [("apiGroup", .text row.permission.apiGroup),
      ("resource", .text row.permission.resource),
      ("verb", .text row.permission.verb),
      ("roleCount", Json.count row.roleCount),
      ("bindingCount", Json.count row.bindingCount),
      ("subjectCount", Json.count row.subjectCount)] ++
    Json.member row.permission.nonResource "nonResource" (.boolean true))

end ResourceMapRow

namespace ResourceMap

/-- Every permission with every bundle that has a grant of it. -/
def grants (index : CatalogIndex) (aggregation : Aggregation) :
    List (RuleRef.Permission × String) :=
  distinct (index.bundles.entries.flatMap fun (id, bundle) =>
    ((aggregation.effectiveRules id bundle).flatMap SourcedRule.refs).map fun grant =>
      (grant.permission, id))

def row (index : CatalogIndex) (permission : RuleRef.Permission) (bundles : List String) :
    ResourceMapRow :=
  let bindings := bundles.flatMap index.bindingsFor
  { permission := permission
    roleCount := bundles.length
    bindingCount := (distinct (bindings.map (·.id))).length
    subjectCount :=
      (distinct (bindings.flatMap fun binding =>
        binding.subjects.map (Inquiry.subjectId binding))).length }

/-- One row for every permission, in ascending order. -/
def rows (index : CatalogIndex) (aggregation : Aggregation) : List ResourceMapRow :=
  let grants := grants index aggregation
  let permissions := (distinct (grants.map (·.1))).mergeSort fun first second =>
    (first.order second).isLE
  permissions.map fun permission =>
    row index permission ((grants.filter (·.1 == permission)).map (·.2))

end ResourceMap

end AccessGraph
