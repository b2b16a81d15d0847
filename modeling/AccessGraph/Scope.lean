/-
This file restricts a query to some namespaces.
-/

import AccessGraph.Catalog.Binding
import AccessGraph.Request.Basic
import AccessGraph.SortedSet

namespace AccessGraph

/-- The namespaces in scope. Without any the scope is open. -/
structure Scope where
  namespaces : SortedSet
  strict : Bool
deriving DecidableEq, Repr

namespace Scope

def unrestricted : Scope :=
  ⟨.empty, false⟩

/-- Blank namespaces are left out. -/
def of : Option NamespaceScope → Scope
  | none => unrestricted
  | some scope =>
      ⟨.ofList ((scope.namespaces.map Text.trim).filter (!·.isEmpty)), scope.strict⟩

def isActive (scope : Scope) : Bool :=
  !scope.namespaces.isEmpty

def isStrict (scope : Scope) : Bool :=
  scope.isActive && scope.strict

def allowsNamespace (scope : Scope) (space : String) : Bool :=
  !scope.isActive || scope.namespaces.contains (Text.trim space)

/-- Cluster bundles are always allowed; a strict scope looks at their bindings later. -/
def allowsBundle (scope : Scope) (bundle : Bundle) : Bool :=
  bundle.isClusterScoped ||
    match bundle.space with
    | some space => scope.allowsNamespace space
    | none => !scope.isActive

/-- A strict scope allows a cluster binding for a service account of the namespaces alone. -/
def allowsBinding (scope : Scope) (binding : Binding) : Bool :=
  if !scope.isActive then true
  else if !binding.isClusterScoped then binding.space.any scope.allowsNamespace
  else if !scope.strict then true
  else binding.subjects.any fun subject => (subject.space binding).any scope.allowsNamespace

/-- A strict scope keeps a cluster bundle for the bindings that are left of it. -/
def keepsClusterBundle (scope : Scope) (bindings : Nat) : Bool :=
  !scope.isStrict || 0 < bindings

/-- Pods are looked up for the subjects that this function allows. -/
def allowsRuntimeSubject (scope : Scope) (subject : Subject) (binding : Binding) : Bool :=
  match subject.space binding with
  | some space => scope.allowsNamespace space
  | none => !subject.isServiceAccount || !scope.isActive

end Scope

end AccessGraph
