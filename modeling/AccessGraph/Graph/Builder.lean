/-
This file builds graphs step by step. Nodes and edges with an id that is there already are not added
again.
-/

import AccessGraph.Graph.Basic
import AccessGraph.SortedSet

namespace AccessGraph

namespace RoleDetails

/-- What comes later adds to what is known of the aggregation and of the grants. -/
def absorb (details incoming : RoleDetails) : RoleDetails :=
  { details with
    aggregated := details.aggregated || incoming.aggregated
    aggregationSources :=
      if incoming.aggregationSources.isEmpty then details.aggregationSources
      else (SortedSet.ofList (details.aggregationSources ++ incoming.aggregationSources)).toList
    matchedRuleRefs :=
      if incoming.matchedRuleRefs.isEmpty then details.matchedRuleRefs
      else RuleRef.dedupe (details.matchedRuleRefs ++ incoming.matchedRuleRefs) }

end RoleDetails

/-- A role absorbs the details of another role, and other nodes stay as they are. -/
def Node.absorb (node incoming : Node) : Node :=
  match incoming.kind.roleDetails? with
  | some details => { node with kind := node.kind.mapRoleDetails (·.absorb details) }
  | none => node

/-- The nodes and edges added so far, in the order in which they came. -/
structure GraphBuilder where
  nodes : List Node
  edges : List Edge
deriving DecidableEq, Repr

/-- One step of building: a node, a role that may be there already, or an edge. -/
inductive BuildStep where
  | node (node : Node)
  | role (node : Node)
  | edge (edge : Edge)
deriving DecidableEq, Repr

namespace GraphBuilder

def empty : GraphBuilder :=
  ⟨[], []⟩

def node? (builder : GraphBuilder) (id : String) : Option Node :=
  builder.nodes.find? (·.id == id)

def hasNode (builder : GraphBuilder) (id : String) : Bool :=
  builder.nodes.any (·.id == id)

def hasEdge (builder : GraphBuilder) (id : String) : Bool :=
  builder.edges.any (·.id == id)

def addNode (builder : GraphBuilder) (node : Node) : GraphBuilder :=
  if builder.hasNode node.id then builder else { builder with nodes := builder.nodes ++ [node] }

/-- A role that is there already absorbs the details of the new one. -/
def upsertRole (builder : GraphBuilder) (node : Node) : GraphBuilder :=
  if builder.hasNode node.id then
    { builder with
      nodes := builder.nodes.map fun known =>
        if known.id == node.id then known.absorb node else known }
  else builder.addNode node

def addEdge (builder : GraphBuilder) (edge : Edge) : GraphBuilder :=
  if builder.hasEdge edge.id then builder else { builder with edges := builder.edges ++ [edge] }

def apply (builder : GraphBuilder) : BuildStep → GraphBuilder
  | .node node => builder.addNode node
  | .role node => builder.upsertRole node
  | .edge edge => builder.addEdge edge

def run (steps : List BuildStep) : GraphBuilder :=
  steps.foldl apply empty

/-- Nodes are shown by lane, then by name without regard to case, then by id. -/
def nodeOrder : Nat × String × String → Nat × String × String → Ordering :=
  compareLex (compareOn (·.1)) (compareLex (compareOn (·.2.1)) (compareOn (·.2.2)))

def nodeKey (node : Node) : Nat × String × String :=
  (node.lane.rank, Text.lowercase node.name, node.id)

/-- Edges are shown by kind, then by their ends, then by id. -/
def edgeOrder : Edge → Edge → Ordering :=
  compareLex (compareOn (·.kind.rank))
    (compareLex (compareOn (·.source)) (compareLex (compareOn (·.target)) (compareOn (·.id))))

def sortNodes (nodes : List Node) : List Node :=
  ((nodes.map fun node => (nodeKey node, node)).mergeSort fun first second =>
    (nodeOrder first.1 second.1).isLE).map (·.2)

def sortEdges (edges : List Edge) : List Edge :=
  edges.mergeSort fun first second => (edgeOrder first second).isLE

def finish (builder : GraphBuilder) : Graph :=
  ⟨sortNodes builder.nodes, sortEdges builder.edges⟩

end GraphBuilder

end AccessGraph
