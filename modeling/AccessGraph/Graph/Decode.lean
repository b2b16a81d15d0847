/-
This file reads graphs from values. The kind of a node is known only when all its fields have been
set aside, since the name of the kind stands among them.
-/

import AccessGraph.Catalog.Decode
import AccessGraph.Graph.Basic
import AccessGraph.Rule.Codec

namespace AccessGraph

open Decoder

def Lane.decode : Decoder Lane :=
  choice (Lane.all.map fun lane => (lane.name, lane))

def EdgeKind.decode : Decoder EdgeKind :=
  choice (EdgeKind.all.map fun kind => (kind.name, kind))

def RoleDetails.record : Record RoleDetails where
  title := "struct RoleDetails"
  blank := .empty
  fields := [
    .optional "aggregated" boolean fun value details => { details with aggregated := value },
    .optional "aggregationSources" (list text) fun value details =>
      { details with aggregationSources := value },
    .optional "matchedRuleRefs" (list RuleRef.decode) fun value details =>
      { details with matchedRuleRefs := value },
    .optional "labels" Labels.decode fun value details => { details with labels := value },
    .optional "annotations" Labels.decode fun value details =>
      { details with annotations := value }]

def PermissionDetails.record : Record PermissionDetails where
  title := "struct PermissionDetails"
  blank := ⟨"", "", "", false, false⟩
  fields := [
    .needed "apiGroup" text fun value details => { details with apiGroup := value },
    .needed "resource" text fun value details => { details with resource := value },
    .needed "verb" text fun value details => { details with verb := value },
    .optional "nonResource" boolean fun value details => { details with nonResource := value },
    .optional "phantom" boolean fun value details => { details with phantom := value }]

namespace NodeKind

/-- A kind without fields. -/
def plain (kind : NodeKind) : Record NodeKind :=
  ⟨kind.name, kind, []⟩

/-- A kind with one field. -/
def single {α : Type} (variantName field : String) (decoder : Decoder α) (blank : NodeKind)
    (of : α → NodeKind) : Record NodeKind where
  title := "struct variant NodeKind::" ++ variantName
  blank := blank
  fields := [.needed field decoder fun value _ => of value]

def withTarget (value : String) : NodeKind → NodeKind
  | .aggregationRelation _ sources => .aggregationRelation value sources
  | kind => kind

def withSources (value : Nat) : NodeKind → NodeKind
  | .aggregationRelation target _ => .aggregationRelation target value
  | kind => kind

def relation : Record NodeKind where
  title := "struct variant NodeKind::AggregationRelation"
  blank := .aggregationRelation "" 0
  fields := [.needed "target" text withTarget, .needed "sourceCount" count withSources]

def mapped {α : Type} (decoder : Decoder α) (of : α → NodeKind) : Decoder NodeKind :=
  fun origin document => (decoder origin document).map of

/-- The kinds by name, each with the decoder of its fields. -/
def decoders : List (String × Decoder NodeKind) := [
  ("role", mapped RoleDetails.record.decode .role),
  ("clusterRole", mapped RoleDetails.record.decode .clusterRole),
  ("roleBinding", (plain .roleBinding).decode),
  ("clusterRoleBinding", (plain .clusterRoleBinding).decode),
  ("subject",
    (single "Subject" "subjectKind" SubjectKind.decode (.subject .user) .subject).decode),
  ("pod", (single "Pod" "phase" PodPhase.decode (.pod .unknown) .pod).decode),
  ("podOverflow",
    (single "PodOverflow" "hiddenCount" count (.podOverflow 0) .podOverflow).decode),
  ("workload", (single "Workload" "workloadKind" text (.workload "") .workload).decode),
  ("workloadOverflow",
    (single "WorkloadOverflow" "hiddenCount" count (.workloadOverflow 0)
      .workloadOverflow).decode),
  ("permission", mapped PermissionDetails.record.decode .permission),
  ("aggregationRelation", relation.decode)]

/-- A kind goes by its name; one that was set aside also goes by its position among the kinds. -/
def byTag (origin : Origin) (tag : Document) : Except Fault (Decoder NodeKind) :=
  match origin, tag with
  | _, .text leaf => do variant decoders (← leaf.value)
  | .captured, .number ⟨.ok (.integer (.ofNat position)), _⟩ =>
      match decoders[position]? with
      | some entry => .ok entry.2
      | none =>
          refuse (.wrongValue (.integer position)
            ("variant index 0 <= i < " ++ toString decoders.length))
  | _, _ => mismatch "variant identifier" tag

def isTag (member : Leaf String × Document) : Bool :=
  match member.1.value with
  | .ok key => key == "type"
  | .error _ => false

/-- The name of the kind is one of the members, and the others are its fields. -/
def ofMembers (origin : Origin) (members : List (Leaf String × Document)) :
    Except Fault NodeKind :=
  match members.find? isTag with
  | none => refuse (.missingField "type")
  | some tag => do
      let decoder ← byTag origin tag.2
      decoder .captured (.object (members.filter (!isTag ·)) false none)

/-- A kind is written as an object, or as an array that starts with its name. -/
def decode : Decoder NodeKind := fun origin document =>
  match document with
  | .object members _ _ => ofMembers origin members
  | .array [] _ => refuse (.missingField "type")
  | .array (tag :: fields) _ => do
      let decoder ← byTag origin tag
      decoder .captured (.array fields none)
  | _ => mismatch "internally tagged enum NodeKind" document

end NodeKind

namespace Node

/-- The fields of every node. -/
def fields : List (Field Node) := [
  .needed "id" text fun value node => { node with id := value },
  .needed "name" text fun value node => { node with name := value },
  .optional "namespace" (option text) fun value node => { node with namespaceName := value },
  .needed "lane" Lane.decode fun value node => { node with lane := value }]

def isOwn (member : Leaf String × Document) : Bool :=
  match member.1.value with
  | .ok key => fields.any (·.goesBy key)
  | .error _ => false

/-- What is no field of every node belongs to the kind. -/
def decode : Decoder Node := fun origin document =>
  match document with
  | .object members _ cut => do
      let blank : Node := ⟨"", "", none, .roles, .roleBinding⟩
      let (seen, node) ← Record.takeMembers fields origin [] blank members
      complete cut ()
      Record.checkNeeded fields seen
      let kind ← NodeKind.ofMembers .captured (members.filter (!isOwn ·))
      .ok { node with kind := kind }
  | _ => mismatch "struct GraphNode" document

end Node

def Edge.record : Record Edge where
  title := "struct GraphEdge"
  blank := ⟨"", "", "", .grants, [], ""⟩
  fields := [
    .needed "id" text fun value edge => { edge with id := value },
    .needed "from" text fun value edge => { edge with source := value },
    .needed "to" text fun value edge => { edge with target := value },
    .needed "type" EdgeKind.decode fun value edge => { edge with kind := value },
    .optional "ruleRefs" (list RuleRef.decode) fun value edge => { edge with ruleRefs := value },
    .optional "explain" text fun value edge => { edge with explain := value }]

def Graph.record : Record Graph where
  title := "struct Graph"
  blank := ⟨[], []⟩
  fields := [
    .needed "nodes" (list Node.decode) fun value graph => { graph with nodes := value },
    .needed "edges" (list Edge.record.decode) fun value graph => { graph with edges := value }]

end AccessGraph
