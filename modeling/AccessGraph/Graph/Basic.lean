/-
This file holds graphs of nodes and edges with stable ids.
-/

import AccessGraph.Catalog.Snapshot
import AccessGraph.Rule.Ref

namespace AccessGraph

/-- The columns in which the nodes are shown, from left to right. -/
inductive Lane where
  | permissions
  | aggregation
  | roles
  | bindings
  | subjects
  | pods
  | workloads
deriving DecidableEq, Repr

def Lane.all : List Lane :=
  [.permissions, .aggregation, .roles, .bindings, .subjects, .pods, .workloads]

def Lane.name : Lane → String
  | .permissions => "permissions"
  | .aggregation => "aggregation"
  | .roles => "roles"
  | .bindings => "bindings"
  | .subjects => "subjects"
  | .pods => "pods"
  | .workloads => "workloads"

/-- The position of a lane from the left. -/
def Lane.rank : Lane → Nat
  | .permissions => 0
  | .aggregation => 1
  | .roles => 2
  | .bindings => 3
  | .subjects => 4
  | .pods => 5
  | .workloads => 6

/-- What a node says of a bundle beyond its name. -/
structure RoleDetails where
  aggregated : Bool
  aggregationSources : List String
  matchedRuleRefs : List RuleRef
  labels : Labels
  annotations : SortedMap String
deriving DecidableEq, Repr

def RoleDetails.empty : RoleDetails :=
  ⟨false, [], [], .empty, .empty⟩

structure PermissionDetails where
  apiGroup : String
  resource : String
  verb : String
  nonResource : Bool
  phantom : Bool
deriving DecidableEq, Repr

inductive NodeKind where
  | role (details : RoleDetails)
  | clusterRole (details : RoleDetails)
  | roleBinding
  | clusterRoleBinding
  | subject (kind : SubjectKind)
  | pod (phase : PodPhase)
  | podOverflow (hidden : Nat)
  | workload (kind : String)
  | workloadOverflow (hidden : Nat)
  | permission (details : PermissionDetails)
  | aggregationRelation (target : String) (sources : Nat)
deriving DecidableEq, Repr

namespace NodeKind

def lane : NodeKind → Lane
  | .permission _ => .permissions
  | .aggregationRelation _ _ => .aggregation
  | .role _ | .clusterRole _ => .roles
  | .roleBinding | .clusterRoleBinding => .bindings
  | .subject _ => .subjects
  | .pod _ | .podOverflow _ => .pods
  | .workload _ | .workloadOverflow _ => .workloads

def name : NodeKind → String
  | .role _ => "role"
  | .clusterRole _ => "clusterRole"
  | .roleBinding => "roleBinding"
  | .clusterRoleBinding => "clusterRoleBinding"
  | .subject _ => "subject"
  | .pod _ => "pod"
  | .podOverflow _ => "podOverflow"
  | .workload _ => "workload"
  | .workloadOverflow _ => "workloadOverflow"
  | .permission _ => "permission"
  | .aggregationRelation _ _ => "aggregationRelation"

def roleDetails? : NodeKind → Option RoleDetails
  | .role details => some details
  | .clusterRole details => some details
  | _ => none

/-- The details of a role may change, and its kind does not. -/
def mapRoleDetails (change : RoleDetails → RoleDetails) : NodeKind → NodeKind
  | .role details => .role (change details)
  | .clusterRole details => .clusterRole (change details)
  | kind => kind

def hiddenCount? : NodeKind → Option Nat
  | .podOverflow hidden => some hidden
  | .workloadOverflow hidden => some hidden
  | _ => none

end NodeKind

structure Node where
  id : String
  name : String
  namespaceName : Option String
  lane : Lane
  kind : NodeKind
deriving DecidableEq, Repr

/-- A node stands in the lane of its kind. -/
def Node.of (id name : String) (namespaceName : Option String) (kind : NodeKind) : Node :=
  ⟨id, name, namespaceName, kind.lane, kind⟩

inductive EdgeKind where
  | grants
  | subjects
  | aggregates
  | runsAs
  | ownedBy
  | permits
deriving DecidableEq, Repr

def EdgeKind.all : List EdgeKind :=
  [.grants, .subjects, .aggregates, .runsAs, .ownedBy, .permits]

def EdgeKind.name : EdgeKind → String
  | .grants => "grants"
  | .subjects => "subjects"
  | .aggregates => "aggregates"
  | .runsAs => "runsAs"
  | .ownedBy => "ownedBy"
  | .permits => "permits"

def EdgeKind.rank : EdgeKind → Nat
  | .grants => 0
  | .subjects => 1
  | .aggregates => 2
  | .runsAs => 3
  | .ownedBy => 4
  | .permits => 5

structure Edge where
  id : String
  source : String
  target : String
  kind : EdgeKind
  ruleRefs : List RuleRef
  explain : String
deriving DecidableEq, Repr

def edgeId (source target : String) (kind : EdgeKind) : String :=
  "edge:" ++ source ++ "->" ++ target ++ ":" ++ kind.name

/-- The id of an edge names its ends and its kind. -/
def Edge.of (source target : String) (kind : EdgeKind) (explain : String)
    (ruleRefs : List RuleRef) : Edge :=
  ⟨edgeId source target kind, source, target, kind, ruleRefs, explain⟩

def subjectNodeId (subject : Subject) (space : Option String) : String :=
  match subject.kind, space with
  | .serviceAccount, some space => "subject:serviceAccount:" ++ space ++ "/" ++ subject.name
  | .serviceAccount, none => "subject:serviceAccount:" ++ subject.name
  | .group, _ => "subject:group:" ++ subject.name
  | .user, _ => "subject:user:" ++ subject.name

def podNodeId (space name : String) : String :=
  "pod:" ++ space ++ "/" ++ name

def workloadNodeId (kind space name : String) : String :=
  "workload:" ++ Text.lowercase kind ++ ":" ++ space ++ "/" ++ name

def podOverflowNodeId (subject : String) : String :=
  "overflow:pod:" ++ subject

def workloadOverflowNodeId (pod : String) : String :=
  "overflow:workload:" ++ pod

def permissionNodeId (apiGroup resource verb : String) : String :=
  "permission:" ++ apiGroup ++ "|" ++ resource ++ "|" ++ verb

def aggregationNodeId (target : String) : String :=
  "aggregation:" ++ target

structure Graph where
  nodes : List Node
  edges : List Edge
deriving DecidableEq, Repr

/-- What is wrong with a graph. -/
inductive GraphFault where
  | duplicateNode (id : String)
  | missingNode (edge node : String)
deriving DecidableEq, Repr

def GraphFault.message : GraphFault → String
  | .duplicateNode id => "duplicate node id " ++ id
  | .missingNode edge node => "edge " ++ edge ++ " references missing node " ++ node

namespace Graph

def node? (graph : Graph) (id : String) : Option Node :=
  graph.nodes.find? (·.id == id)

def nodesIn (graph : Graph) (lane : Lane) : List Node :=
  graph.nodes.filter (·.lane == lane)

def edgesOf (graph : Graph) (kind : EdgeKind) : List Edge :=
  graph.edges.filter (·.kind == kind)

/-- The first id that has occurred before. -/
def repeated? (passed : List String) : List String → Option String
  | [] => none
  | id :: rest => if passed.contains id then some id else repeated? (id :: passed) rest

/-- The first end of an edge that is no node; the source is looked at before the target. -/
def missingEnd? (ids : List String) (edge : Edge) : Option GraphFault :=
  ([edge.source, edge.target].find? (!ids.contains ·)).map (.missingNode edge.id)

/-- Node ids differ, and every edge leads from a node to a node. -/
def validate (graph : Graph) : Except GraphFault Unit :=
  let ids := graph.nodes.map (·.id)
  match repeated? [] ids with
  | some id => .error (.duplicateNode id)
  | none =>
      match graph.edges.findSome? (missingEnd? ids) with
      | some fault => .error fault
      | none => .ok ()

end Graph

end AccessGraph
