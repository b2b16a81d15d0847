/-
This file holds the snapshot of access-control objects that a query reads.
-/

import AccessGraph.Catalog.Binding
import AccessGraph.Catalog.Workload

namespace AccessGraph

structure Catalog where
  bundles : List Bundle
  bindings : List Binding
  pods : List Pod
  workloads : List Workload
deriving DecidableEq, Repr

def Catalog.empty : Catalog :=
  ⟨[], [], [], []⟩

end AccessGraph
