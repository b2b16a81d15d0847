/-
This file proves that a graph is read as it was written. The kind of a node goes by its name, and
its fields stand among those of the node.
-/

import AccessGraph.Graph.Decode
import AccessGraph.Graph.Encode
import AccessGraph.Proofs.Catalog.Labels
import AccessGraph.Proofs.Rule.RoundTrip

namespace AccessGraph

open Json (Arrangement)
open Decoder (variant)

/-- Labels are left out if there are none. -/
theorem Labels.takes {α : Type} {arrangement : Arrangement} {blank : α} {name : String}
    {put : SortedMap String → α → α} (empty : put .empty blank = blank)
    (labels : SortedMap String) :
    Field.Takes arrangement blank (.optional name Labels.decode put)
      ⟨name, !labels.isEmpty, Labels.encode labels, put labels⟩ := by
  refine Field.takes_optional (fun _ => Labels.decode_reads arrangement labels) fun dropped => ?_
  have nothing : labels = .empty := by
    obtain ⟨entries, ascending⟩ := labels
    simpa [SortedMap.isEmpty, SortedMap.empty] using dropped
  rw [nothing, empty]

namespace RoleDetails

/-- The fields of the details in the order in which they are written. -/
def written (details : RoleDetails) : List (Written RoleDetails) := [
  ⟨"aggregated", details.aggregated, .boolean true,
    ({ · with aggregated := details.aggregated })⟩,
  ⟨"aggregationSources", !details.aggregationSources.isEmpty,
    Json.texts details.aggregationSources,
    ({ · with aggregationSources := details.aggregationSources })⟩,
  ⟨"matchedRuleRefs", !details.matchedRuleRefs.isEmpty,
    .list RuleRef.encode details.matchedRuleRefs,
    ({ · with matchedRuleRefs := details.matchedRuleRefs })⟩,
  ⟨"labels", !details.labels.isEmpty, Labels.encode details.labels,
    ({ · with labels := details.labels })⟩,
  ⟨"annotations", !details.annotations.isEmpty, Labels.encode details.annotations,
    ({ · with annotations := details.annotations })⟩]

theorem members_eq (details : RoleDetails) :
    details.members = Written.members details.written := by
  simp only [members, Written.members, written, List.flatMap_cons, List.flatMap_nil,
    List.append_assoc, List.append_nil]

theorem restores (arrangement : Arrangement) (details : RoleDetails) :
    record.Restores arrangement details.written details where
  takes :=
    .cons (Field.takes_flag rfl _) <|
    .cons (Field.takes_texts rfl _) <|
    .cons (Field.takes_list rfl fun grant _ => RuleRef.decode_reads arrangement grant) <|
    .cons (Labels.takes rfl _) <|
    .cons (Labels.takes rfl _) .nil
  differ := by decide
  commute := by simp [written, Written.Commute]
  whole := rfl

end RoleDetails

namespace PermissionDetails

/-- The fields of the details in the order in which they are written. -/
def written (details : PermissionDetails) : List (Written PermissionDetails) := [
  ⟨"apiGroup", true, .text details.apiGroup, ({ · with apiGroup := details.apiGroup })⟩,
  ⟨"resource", true, .text details.resource, ({ · with resource := details.resource })⟩,
  ⟨"verb", true, .text details.verb, ({ · with verb := details.verb })⟩,
  ⟨"nonResource", details.nonResource, .boolean true,
    ({ · with nonResource := details.nonResource })⟩,
  ⟨"phantom", details.phantom, .boolean true, ({ · with phantom := details.phantom })⟩]

theorem members_eq (details : PermissionDetails) :
    details.members = Written.members details.written := by
  simp only [members, Written.members, written, Json.member, List.flatMap_cons, List.flatMap_nil,
    if_true, List.append_nil, List.cons_append, List.nil_append]

theorem restores (arrangement : Arrangement) (details : PermissionDetails) :
    record.Restores arrangement details.written details where
  takes :=
    .cons (Field.takes_written (Decoder.reads_text _)) <|
    .cons (Field.takes_written (Decoder.reads_text _)) <|
    .cons (Field.takes_written (Decoder.reads_text _)) <|
    .cons (Field.takes_flag rfl _) <|
    .cons (Field.takes_flag rfl _) .nil
  differ := by decide
  commute := by simp [written, Written.Commute]
  whole := rfl

end PermissionDetails

theorem SubjectKind.decode_reads (arrangement : Arrangement) (kind : SubjectKind) :
    SubjectKind.decode.Reads arrangement (.text kind.name) kind := by
  cases kind <;> exact Decoder.reads_choice rfl

theorem PodPhase.decode_reads (arrangement : Arrangement) (phase : PodPhase) :
    PodPhase.decode.Reads arrangement (.text phase.name) phase := by
  cases phase <;> exact Decoder.reads_choice rfl

theorem Lane.decode_reads (arrangement : Arrangement) (lane : Lane) :
    Lane.decode.Reads arrangement (.text lane.name) lane := by
  cases lane <;> exact Decoder.reads_choice rfl

theorem EdgeKind.decode_reads (arrangement : Arrangement) (kind : EdgeKind) :
    EdgeKind.decode.Reads arrangement (.text kind.name) kind := by
  cases kind <;> exact Decoder.reads_choice rfl

/-- The names of the fields of every node, apart from the kind. -/
def Node.names : List String :=
  Node.fields.map (·.name)

namespace NodeKind

/-- A kind is restored from its name and its fields in any order. Its fields have other names than
those of every node. -/
structure Recovers (arrangement : Arrangement) (kind : NodeKind) : Prop where
  apart : (Node.names ++ "type" :: kind.members.map (·.1)).Nodup
  reads : ∃ decoder, variant decoders kind.name = .ok decoder ∧
    ∀ shown : List (String × Json),
      shown.Perm (Json.mapValues arrangement.apply kind.members) →
      decoder .captured (.object (Document.ofMembers shown) false none) = .ok kind

theorem recovers_of_restores {α : Type} {arrangement : Arrangement} {record : Record α}
    {written : List (Written α)} {result : α} {kind : NodeKind} {decoder : Decoder NodeKind}
    (restores : record.Restores arrangement written result)
    (members : kind.members = Written.members written)
    (apart : (Node.names ++ "type" :: record.fields.map (·.name)).Nodup)
    (known : variant decoders kind.name = .ok decoder)
    (decodes : ∀ document, record.decode .captured document = .ok result →
      decoder .captured document = .ok kind) : kind.Recovers arrangement where
  apart := by
    have names : (kind.members.map (·.1)).Sublist (record.fields.map (·.name)) := by
      rw [members, Written.members_eq_map, List.map_map, restores.names_eq]
      exact List.filter_sublist.map _
    exact apart.sublist ((names.cons_cons _).append_left _)
  reads := by
    refine ⟨decoder, known, fun shown perm => decodes _ ?_⟩
    rw [members] at perm
    exact restores.decode_eq_ok .captured perm

/-- A kind without fields. -/
theorem plain_restores (arrangement : Arrangement) (kind : NodeKind) :
    (plain kind).Restores arrangement [] kind where
  takes := .nil
  differ := .nil
  commute := .nil
  whole := rfl

/-- A kind with one field. -/
theorem single_restores {α : Type} {arrangement : Arrangement} {variantName field : String}
    {decoder : Decoder α} {blank : NodeKind} {of : α → NodeKind} {value : Json} {content : α}
    (reads : decoder.Reads arrangement value content) :
    (single variantName field decoder blank of).Restores arrangement
      [⟨field, true, value, fun _ => of content⟩] (of content) where
  takes := .cons (Field.takes_written reads) .nil
  differ := List.nodup_singleton _
  commute := List.pairwise_singleton _ _
  whole := rfl

theorem relation_restores (arrangement : Arrangement) (target : String) (sources : Nat) :
    relation.Restores arrangement
      [⟨"target", true, .text target, withTarget target⟩,
        ⟨"sourceCount", true, Json.count sources, withSources sources⟩]
      (.aggregationRelation target sources) where
  takes :=
    .cons (Field.takes_written (Decoder.reads_text target)) <|
    .cons (Field.takes_written (Decoder.reads_count sources)) .nil
  differ := by decide
  commute := by
    have apart (kind : NodeKind) : withSources sources (withTarget target kind) =
        withTarget target (withSources sources kind) := by
      cases kind <;> rfl
    simpa [Written.Commute] using apart
  whole := rfl

theorem mapped_ok {α : Type} {decoder : Decoder α} {of : α → NodeKind} {details : α}
    (document : Document) (read : decoder .captured document = .ok details) :
    mapped decoder of .captured document = .ok (of details) := by
  rw [mapped, read]
  rfl

/-- Every kind is restored, whatever it holds. -/
theorem recovers (arrangement : Arrangement) (kind : NodeKind) : kind.Recovers arrangement := by
  cases kind with
  | role details =>
      exact recovers_of_restores (details.restores arrangement) details.members_eq (by decide) rfl
        mapped_ok
  | clusterRole details =>
      exact recovers_of_restores (details.restores arrangement) details.members_eq (by decide) rfl
        mapped_ok
  | roleBinding =>
      exact recovers_of_restores (plain_restores arrangement .roleBinding) rfl (by decide) rfl
        fun _ read => read
  | clusterRoleBinding =>
      exact recovers_of_restores (plain_restores arrangement .clusterRoleBinding) rfl (by decide)
        rfl fun _ read => read
  | subject kind =>
      exact recovers_of_restores (single_restores (SubjectKind.decode_reads arrangement kind)) rfl
        (by decide) rfl fun _ read => read
  | pod phase =>
      exact recovers_of_restores (single_restores (PodPhase.decode_reads arrangement phase)) rfl
        (by decide) rfl fun _ read => read
  | podOverflow hidden =>
      exact recovers_of_restores (single_restores (Decoder.reads_count hidden)) rfl (by decide) rfl
        fun _ read => read
  | workload kind =>
      exact recovers_of_restores (single_restores (Decoder.reads_text kind)) rfl (by decide) rfl
        fun _ read => read
  | workloadOverflow hidden =>
      exact recovers_of_restores (single_restores (Decoder.reads_count hidden)) rfl (by decide) rfl
        fun _ read => read
  | permission details =>
      exact recovers_of_restores (details.restores arrangement) details.members_eq (by decide) rfl
        mapped_ok
  | aggregationRelation target sources =>
      exact recovers_of_restores (relation_restores arrangement target sources) rfl (by decide) rfl
        fun _ read => read

section

variable {arrangement : Arrangement} {kind : NodeKind} (recovers : kind.Recovers arrangement)
  {shown : List (String × Json)}
  (perm : shown.Perm ([("type", .text kind.name)] ++
    Json.mapValues arrangement.apply kind.members))

include recovers perm

/-- The name of the kind is found among its fields. -/
theorem find?_isTag :
    (Document.ofMembers shown).find? isTag = some (.ok "type", .text (.ok kind.name)) := by
  have differ : (shown.map (·.1)).Nodup := by
    rw [(perm.map _).nodup_iff, List.map_append, Json.keys_mapValues]
    exact (List.nodup_append.mp recovers.apart).2.1
  have found : shown.find? (·.1 == "type") = some ("type", .text kind.name) :=
    (find?_key_eq_some_iff differ).mpr ⟨perm.mem_iff.mpr List.mem_cons_self, rfl⟩
  rw [Document.ofMembers_eq_map, List.find?_map]
  change (shown.find? (·.1 == "type")).map _ = _
  rw [found]
  rfl

/-- The members besides the name of the kind are its fields. -/
theorem filter_isTag_perm :
    (shown.filter (!·.1 == "type")).Perm (Json.mapValues arrangement.apply kind.members) := by
  obtain ⟨-, differ, -⟩ := List.nodup_append.mp recovers.apart
  obtain ⟨once, -⟩ := List.nodup_cons.mp differ
  refine (filter_perm_of_append perm (by simp) ?_).2
  intro member listed
  have key := List.mem_map_of_mem (f := Prod.fst) listed
  rw [Json.keys_mapValues] at key
  exact beq_eq_false_iff_ne.mpr fun same => once (same ▸ key)

/-- A kind is read from the members in whatever order they stand. -/
theorem ofMembers_eq_ok : ofMembers .captured (Document.ofMembers shown) = .ok kind := by
  obtain ⟨decoder, known, reads⟩ := recovers.reads
  have fields : (Document.ofMembers shown).filter (!isTag ·) =
      Document.ofMembers (shown.filter (!·.1 == "type")) :=
    Document.filter_ofMembers (fun _ => rfl) shown
  rw [ofMembers, find?_isTag recovers perm, fields]
  simp only [byTag, Leaf.ok, known, bind, Except.bind]
  exact reads _ (filter_isTag_perm recovers perm)

end

end NodeKind

namespace Node

/-- The fields of every node make up a record, apart from the kind. -/
def record : Record Node :=
  ⟨"struct GraphNode", ⟨"", "", none, .roles, .roleBinding⟩, fields⟩

/-- The fields of every node in the order in which they are written. -/
def written (node : Node) : List (Written Node) := [
  ⟨"id", true, .text node.id, ({ · with id := node.id })⟩,
  ⟨"name", true, .text node.name, ({ · with name := node.name })⟩,
  ⟨"namespace", node.namespaceName.isSome, Json.optional .text node.namespaceName,
    ({ · with namespaceName := node.namespaceName })⟩,
  ⟨"lane", true, .text node.lane.name, ({ · with lane := node.lane })⟩]

theorem restores (arrangement : Arrangement) (node : Node) :
    record.Restores arrangement node.written { node with kind := .roleBinding } where
  takes :=
    .cons (Field.takes_written (Decoder.reads_text _)) <|
    .cons (Field.takes_written (Decoder.reads_text _)) <|
    .cons (Field.takes_option rfl Decoder.reads_text nofun _) <|
    .cons (Field.takes_written (Lane.decode_reads arrangement _)) .nil
  differ := by decide
  commute := by simp [written, Written.Commute]
  whole := rfl

theorem encode_eq (node : Node) : node.encode = .object (Written.members node.written ++
    ("type", .text node.kind.name) :: node.kind.members) := by
  simp only [encode, Written.members, written, Json.member, List.flatMap_cons, List.flatMap_nil,
    if_true, List.append_assoc, List.append_nil, List.cons_append, List.nil_append]

/-- No two members of a node have one key. -/
theorem members_nodup {node : Node}
    (apart : (names ++ "type" :: node.kind.members.map (·.1)).Nodup) :
    ((Written.members node.written ++
      ("type", .text node.kind.name) :: node.kind.members).map (·.1)).Nodup := by
  have own : ((Written.members node.written).map (·.1)).Sublist
      (node.written.map (·.name)) := by
    rw [Written.members_eq_map, List.map_map]
    exact List.filter_sublist.map _
  have all := own.append_right ("type" :: node.kind.members.map (·.1))
  rw [List.map_append, List.map_cons]
  exact apart.sublist all

theorem owns_iff {member : String × Json} : record.owns member = true ↔ member.1 ∈ names := by
  have alone : ∀ field ∈ fields, field.also = [] := by
    simp [fields, Field.needed, Field.optional, Field.of]
  rw [Record.owns, List.any_eq_true, names, List.mem_map]
  refine exists_congr fun field => and_congr_right fun listed => ?_
  simp [Field.goesBy, alone field listed]

/-- What belongs to the kind has not the name of a field of every node. -/
theorem owns_eq_false {arrangement : Arrangement} {node : Node}
    (apart : (names ++ "type" :: node.kind.members.map (·.1)).Nodup) {member : String × Json}
    (listed : member ∈ ("type", .text node.kind.name) ::
      Json.mapValues arrangement.apply node.kind.members) :
    record.owns member = false := by
  have key := List.mem_map_of_mem (f := Prod.fst) listed
  rw [List.map_cons, Json.keys_mapValues] at key
  rw [← Bool.not_eq_true, owns_iff]
  intro named
  exact (List.nodup_append.mp apart).2.2 _ named _ key rfl

/-- A node is read as it was written, whatever its kind is. -/
theorem decode_reads (arrangement : Arrangement) (node : Node) :
    decode.Reads arrangement node.encode node := by
  intro origin
  have recovers := node.kind.recovers arrangement
  have restores := node.restores arrangement
  obtain ⟨shown, shows, perm⟩ := arrangement.object _ (members_nodup recovers.apart)
  rw [Json.mapValues, List.map_append, List.map_cons, arrangement.text] at perm
  have all : ∀ member ∈ Written.arranged arrangement node.written, record.owns member = true :=
    fun member => restores.owns_of_mem (.refl _)
  have foreign : ∀ member ∈ ("type", .text node.kind.name) ::
      Json.mapValues arrangement.apply node.kind.members,
      record.owns member = false := fun member => owns_eq_false recovers.apart
  obtain ⟨own, others⟩ := filter_perm_of_append perm all foreign
  obtain ⟨seen, taken, checked⟩ := restores.takeMembers_of_perm origin own
  have rest : (Document.ofMembers shown).filter (!isOwn ·) =
      Document.ofMembers (shown.filter (!record.owns ·)) :=
    Document.filter_ofMembers (fun _ => rfl) shown
  have kindRead := NodeKind.ofMembers_eq_ok recovers others
  change Record.takeMembers fields origin [] ⟨"", "", none, .roles, .roleBinding⟩ _ = _ at taken
  change Record.checkNeeded fields seen = _ at checked
  rw [encode_eq, shows, Document.ofJson, decode]
  simp only [taken, Decoder.complete, checked, rest, kindRead, bind, Except.bind]

end Node

namespace Edge

/-- The fields of an edge in the order in which they are written. -/
def written (edge : Edge) : List (Written Edge) := [
  ⟨"id", true, .text edge.id, ({ · with id := edge.id })⟩,
  ⟨"from", true, .text edge.source, ({ · with source := edge.source })⟩,
  ⟨"to", true, .text edge.target, ({ · with target := edge.target })⟩,
  ⟨"type", true, .text edge.kind.name, ({ · with kind := edge.kind })⟩,
  ⟨"ruleRefs", !edge.ruleRefs.isEmpty, .list RuleRef.encode edge.ruleRefs,
    ({ · with ruleRefs := edge.ruleRefs })⟩,
  ⟨"explain", !edge.explain.isEmpty, .text edge.explain, ({ · with explain := edge.explain })⟩]

theorem encode_eq (edge : Edge) : edge.encode = .object (Written.members edge.written) := by
  simp only [encode, Written.members, written, Json.member, List.flatMap_cons, List.flatMap_nil,
    if_true, List.append_nil, List.cons_append, List.nil_append]

theorem restores (arrangement : Arrangement) (edge : Edge) :
    record.Restores arrangement edge.written edge where
  takes :=
    .cons (Field.takes_written (Decoder.reads_text _)) <|
    .cons (Field.takes_written (Decoder.reads_text _)) <|
    .cons (Field.takes_written (Decoder.reads_text _)) <|
    .cons (Field.takes_written (EdgeKind.decode_reads arrangement _)) <|
    .cons (Field.takes_list rfl fun grant _ => RuleRef.decode_reads arrangement grant) <|
    .cons (Field.takes_text rfl _) .nil
  differ := by decide
  commute := by simp [written, Written.Commute]
  whole := rfl

theorem decode_reads (arrangement : Arrangement) (edge : Edge) :
    record.decode.Reads arrangement edge.encode edge := by
  rw [encode_eq]
  exact (edge.restores arrangement).reads

end Edge

namespace Graph

/-- Both lists are written, be they empty or not. -/
def written (graph : Graph) : List (Written Graph) := [
  ⟨"nodes", true, .list Node.encode graph.nodes, ({ · with nodes := graph.nodes })⟩,
  ⟨"edges", true, .list Edge.encode graph.edges, ({ · with edges := graph.edges })⟩]

theorem restores (arrangement : Arrangement) (graph : Graph) :
    record.Restores arrangement graph.written graph where
  takes :=
    .cons (Field.takes_written
      (Decoder.reads_list fun node _ => Node.decode_reads arrangement node)) <|
    .cons (Field.takes_written
      (Decoder.reads_list fun edge _ => Edge.decode_reads arrangement edge)) .nil
  differ := by decide
  commute := by simp [written, Written.Commute]
  whole := rfl

theorem decode_reads (arrangement : Arrangement) (graph : Graph) :
    record.decode.Reads arrangement graph.encode graph :=
  (graph.restores arrangement).reads

/-- A graph is read as it was written, whether the members of its objects stay in their order or go
in the order of their keys. -/
theorem read_encode (graph : Graph) :
    Decoder.readValue record.decode graph.encode = .ok graph ∧
      Decoder.readValue record.decode graph.encode.ordered = .ok graph :=
  ⟨graph.decode_reads .asGiven .value, graph.decode_reads .byKey .value⟩

end Graph

end AccessGraph
