/-
This file holds bindings, which grant the rules of a bundle to subjects.
-/

import AccessGraph.Catalog.Bundle

namespace AccessGraph

inductive BindingKind where
  | roleBinding
  | clusterRoleBinding
deriving DecidableEq, Repr

def BindingKind.name : BindingKind → String
  | .roleBinding => "RoleBinding"
  | .clusterRoleBinding => "ClusterRoleBinding"

structure RoleReference where
  kind : BundleKind
  name : String
deriving DecidableEq, Repr

inductive SubjectKind where
  | user
  | group
  | serviceAccount
deriving DecidableEq, Repr

def SubjectKind.name : SubjectKind → String
  | .user => "User"
  | .group => "Group"
  | .serviceAccount => "ServiceAccount"

structure Subject where
  kind : SubjectKind
  name : String
  namespaceName : Option String
deriving DecidableEq, Repr

structure Binding where
  kind : BindingKind
  name : String
  namespaceName : Option String
  roleRef : RoleReference
  subjects : List Subject
deriving DecidableEq, Repr

namespace Binding

def id (binding : Binding) : String :=
  match binding.kind, givenNamespace binding.namespaceName with
  | .roleBinding, some space => "rolebinding:" ++ space ++ "/" ++ binding.name
  | .roleBinding, none => "rolebinding:" ++ binding.name
  | .clusterRoleBinding, _ => "clusterrolebinding:" ++ binding.name

def isClusterScoped (binding : Binding) : Bool :=
  binding.kind == .clusterRoleBinding

/-- A cluster binding lives in no namespace. -/
def space (binding : Binding) : Option String :=
  match binding.kind with
  | .clusterRoleBinding => none
  | .roleBinding => givenNamespace binding.namespaceName

/-- A role can be granted only by a binding in its own namespace, and a cluster role by every
binding. -/
def bundleId? (binding : Binding) : Option String :=
  match binding.roleRef.kind with
  | .clusterRole => some (bundleId .clusterRole none binding.roleRef.name)
  | .role => binding.space.map fun space => bundleId .role (some space) binding.roleRef.name

end Binding

namespace Subject

def isServiceAccount (subject : Subject) : Bool :=
  subject.kind == .serviceAccount

/-- A service account without a namespace belongs to that of the binding. Users and groups belong to
none. -/
def space (subject : Subject) (binding : Binding) : Option String :=
  match subject.kind with
  | .serviceAccount => (givenNamespace subject.namespaceName).or binding.space
  | _ => none

end Subject

end AccessGraph
