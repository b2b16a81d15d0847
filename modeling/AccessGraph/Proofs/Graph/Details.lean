/-
This file says what a run of build steps leaves of the details of a role: all that the steps bring
of it, put together.
-/

import AccessGraph.Proofs.Graph.Validity
import AccessGraph.Proofs.Matching.Kept
import AccessGraph.Proofs.Permutation

namespace AccessGraph

namespace Node

def isRole (node : Node) : Bool :=
  node.kind.roleDetails?.isSome

/-- The grants that a role shows. -/
def grants (node : Node) : List RuleRef :=
  match node.kind.roleDetails? with
  | some details => details.matchedRuleRefs
  | none => []

/-- The keys of the grants that a role shows. -/
def grantKeys (node : Node) : List RuleKey :=
  match node.kind.roleDetails? with
  | some details => details.matchedRuleRefs.map RuleRef.key
  | none => []

theorem grantKeys_of_details {node : Node} {details : RoleDetails}
    (role : node.kind.roleDetails? = some details) :
    node.grantKeys = details.matchedRuleRefs.map RuleRef.key := by
  rw [grantKeys, role]

theorem grantKeys_eq_map (node : Node) : node.grantKeys = node.grants.map RuleRef.key := by
  unfold grantKeys grants
  cases node.kind.roleDetails? <;> rfl

theorem exists_details_of_mem_grantKeys {node : Node} {wanted : RuleKey}
    (shown : wanted ∈ node.grantKeys) :
    ∃ details, node.kind.roleDetails? = some details ∧
      wanted ∈ details.matchedRuleRefs.map RuleRef.key := by
  unfold grantKeys at shown
  split at shown
  · rename_i details role
    exact ⟨details, role, shown⟩
  · cases shown

theorem isRole_of_mem_grants {node : Node} {grant : RuleRef} (shown : grant ∈ node.grants) :
    node.isRole = true := by
  unfold grants at shown
  split at shown
  · rename_i details role
    exact Option.isSome_iff_exists.mpr ⟨details, role⟩
  · cases shown

@[simp] theorem id_absorb (node incoming : Node) : (node.absorb incoming).id = node.id := by
  unfold absorb
  split <;> rfl

theorem isRole_iff_lane {node : Node} : node.isRole = true ↔ node.kind.lane = .roles := by
  unfold isRole
  cases node.kind <;> simp [NodeKind.roleDetails?, NodeKind.lane]

section

variable {node : Node} (plain : node.isRole = false)

include plain

theorem roleDetails?_of_plain : node.kind.roleDetails? = none := by
  simpa [isRole] using plain

theorem grantKeys_of_plain : node.grantKeys = [] := by
  rw [grantKeys, roleDetails?_of_plain plain]

/-- Nothing of a node that is no role may change. -/
theorem bare_of_plain : node.bare = node := by
  rcases node with ⟨id, name, space, lane, kind⟩
  cases kind with
  | role | clusterRole => cases plain
  | _ => rfl

/-- There is nothing to absorb of a node that is no role. -/
theorem absorb_of_plain (known : Node) : known.absorb node = known := by
  rw [absorb, roleDetails?_of_plain plain]

end

theorem roleDetails?_mapRoleDetails (kind : NodeKind) (change : RoleDetails → RoleDetails) :
    (kind.mapRoleDetails change).roleDetails? = kind.roleDetails?.map change := by
  cases kind <;> rfl

/-- A role that absorbs another one has the details of both. -/
theorem roleDetails?_absorb {node incoming : Node} {details further : RoleDetails}
    (known : node.kind.roleDetails? = some details)
    (more : incoming.kind.roleDetails? = some further) :
    (node.absorb incoming).kind.roleDetails? = some (details.absorb further) := by
  rw [absorb, more]
  simp [roleDetails?_mapRoleDetails, known]

theorem isRole_absorb (node incoming : Node) : (node.absorb incoming).isRole = node.isRole := by
  unfold absorb
  split
  · rw [isRole, roleDetails?_mapRoleDetails, Option.isSome_map]
    rfl
  · rfl

theorem mem_keys_absorb {details incoming : RoleDetails} {wanted : RuleKey} :
    wanted ∈ (details.absorb incoming).matchedRuleRefs.map RuleRef.key ↔
      wanted ∈ details.matchedRuleRefs.map RuleRef.key ∨
        wanted ∈ incoming.matchedRuleRefs.map RuleRef.key := by
  simp only [RoleDetails.absorb]
  cases incoming.matchedRuleRefs with
  | nil => simp
  | cons first rest =>
      rw [List.isEmpty_cons, if_neg Bool.false_ne_true, RuleRef.key_mem_dedupe, List.map_append,
        List.mem_append]

/-- A role shows no grant but those that it has shown before and those that it absorbs. -/
theorem mem_grants_of_absorb {node incoming : Node} {grant : RuleRef}
    (shown : grant ∈ (node.absorb incoming).grants) :
    grant ∈ node.grants ∨ grant ∈ incoming.grants := by
  have role := isRole_of_mem_grants shown
  rw [isRole_absorb] at role
  obtain ⟨details, found⟩ := Option.isSome_iff_exists.mp role
  cases more : incoming.kind.roleDetails? with
  | none =>
      have plain : incoming.isRole = false := by simp [isRole, more]
      rw [absorb_of_plain plain] at shown
      exact .inl shown
  | some further =>
      have absorbed := roleDetails?_absorb found more
      rw [grants, absorbed] at shown
      rw [grants, found, grants, more]
      simp only [RoleDetails.absorb] at shown
      split at shown
      · exact .inl shown
      · exact List.mem_append.mp ((distinctBy_sublist RuleRef.key _).subset shown)

end Node

/-- Roles are brought as roles, so that none of what is known of them is lost. -/
def BuildStep.BringsRoles : BuildStep → Prop
  | .node added => added.isRole = false
  | _ => True

namespace GraphBuilder

/-- What is known of the node of an id once another node has been brought. -/
def gather (id : String) (held : Option Node) (added : Node) : Option Node :=
  if added.id = id then some (held.elim added (·.absorb added)) else held

theorem hasNode_iff {builder : GraphBuilder} {id : String} :
    builder.hasNode id = true ↔ ∃ node, builder.node? id = some node := by
  rw [← Option.isSome_iff_exists, node?, List.find?_isSome]
  simp [hasNode]

/-- What is known of the node of an id once a step has been taken: nothing but a role adds to a node
that is there already. -/
def afterStep (id : String) (held : Option Node) : BuildStep → Option Node
  | .node added => if added.id = id then some (held.getD added) else held
  | .role added => gather id held added
  | .edge _ => held

theorem node?_addNode (builder : GraphBuilder) (added : Node) (id : String) :
    (builder.addNode added).node? id = afterStep id (builder.node? id) (.node added) := by
  rw [addNode, afterStep]
  by_cases same : added.id = id
  · cases found : builder.node? id with
    | some known =>
        have there : builder.hasNode added.id = true := hasNode_iff.mpr ⟨known, same ▸ found⟩
        rw [if_pos there, if_pos same, found, Option.getD_some]
    | none =>
        have new : builder.hasNode added.id = false := by
          rw [← Bool.not_eq_true, hasNode_iff, same, found]
          simp
        rw [new, if_neg Bool.false_ne_true, node?, List.find?_append, ← node?, found]
        simp [same]
  · rw [if_neg same]
    split
    · rfl
    · rw [node?, List.find?_append, ← node?]
      simp [same]

/-- The roles that are there stay where they are while one of them absorbs another. -/
theorem node?_upsertRole (builder : GraphBuilder) (added : Node) (id : String) :
    (builder.upsertRole added).node? id = gather id (builder.node? id) added := by
  cases known : builder.hasNode added.id with
  | false =>
      rw [upsertRole, known, if_neg Bool.false_ne_true, node?_addNode, afterStep, gather]
      split
      · rename_i same
        have absent : builder.node? id = none := by
          rw [← Bool.not_eq_true, hasNode_iff, same] at known
          exact Option.eq_none_iff_forall_ne_some.mpr fun node found => known ⟨node, found⟩
        rw [absent, Option.getD_none, Option.elim_none]
      · rfl
  | true =>
      have names (node : Node) :
          (if node.id == added.id then node.absorb added else node).id = node.id := by
        split <;> simp
      have searched : (builder.upsertRole added).node? id =
          (builder.node? id).map fun node =>
            if node.id == added.id then node.absorb added else node := by
        rw [upsertRole, known, if_pos rfl]
        simp only [node?, List.find?_map, Function.comp_def, names]
      rw [searched, gather]
      cases found : builder.node? id with
      | none =>
          have absent : added.id ≠ id := by
            intro same
            obtain ⟨node, other⟩ := hasNode_iff.mp (same ▸ known)
            rw [found] at other
            cases other
          simp [absent]
      | some node =>
          have named : node.id = id := key_of_find? found
          simp only [Option.map_some, Option.elim_some, named, beq_iff_eq, eq_comm (a := id)]
          split <;> rfl

theorem node?_apply (builder : GraphBuilder) (step : BuildStep) (id : String) :
    (builder.apply step).node? id = afterStep id (builder.node? id) step := by
  cases step with
  | node added => exact builder.node?_addNode added id
  | role added => exact builder.node?_upsertRole added id
  | edge added =>
      change (builder.addEdge added).node? id = builder.node? id
      unfold addEdge
      split <;> rfl

/-- What is known of the node of an id after a run is what its steps leave one after the other. -/
theorem node?_foldl_afterStep (builder : GraphBuilder) (steps : List BuildStep) (id : String) :
    (steps.foldl apply builder).node? id = steps.foldl (afterStep id) (builder.node? id) := by
  induction steps generalizing builder with
  | nil => rfl
  | cons step rest inductionHypothesis =>
      rw [List.foldl_cons, inductionHypothesis, node?_apply, List.foldl_cons]

/-- Where roles are brought as roles, every node adds to the node of its id. -/
theorem foldl_afterStep_eq_gather {steps : List BuildStep}
    (bringRoles : ∀ step ∈ steps, step.BringsRoles) (id : String) (held : Option Node) :
    steps.foldl (afterStep id) held = (BuildStep.nodes steps).foldl (gather id) held := by
  induction steps generalizing held with
  | nil => rfl
  | cons step rest inductionHypothesis =>
      obtain ⟨brings, restBring⟩ := List.forall_mem_cons.mp bringRoles
      rw [List.foldl_cons, inductionHypothesis restBring]
      cases step with
      | role added => rfl
      | edge added => rfl
      | node added =>
          have same : afterStep id held (.node added) = gather id held added := by
            cases held with
            | none => rfl
            | some known =>
                rw [afterStep, gather, Option.getD_some, Option.elim_some,
                  Node.absorb_of_plain brings]
          rw [same, BuildStep.nodes_cons_node, List.foldl_cons]

/-- A run adds the nodes of its steps one after the other. -/
theorem node?_foldl_apply (builder : GraphBuilder) {steps : List BuildStep}
    (bringRoles : ∀ step ∈ steps, step.BringsRoles) (id : String) :
    (steps.foldl apply builder).node? id =
      (BuildStep.nodes steps).foldl (gather id) (builder.node? id) := by
  rw [node?_foldl_afterStep, foldl_afterStep_eq_gather bringRoles]

/-- What holds of all nodes that are brought with an id, and passes from two nodes to the node that
one of them is when it has absorbed the other, holds of the node that is left. -/
theorem of_foldl_gather {holds : Node → Prop}
    (absorbs : ∀ known incoming, holds known → holds incoming → holds (known.absorb incoming))
    {id : String} {held : Option Node} (before : ∀ known, held = some known → holds known)
    {added : List Node} (each : ∀ node ∈ added, node.id = id → holds node) {node : Node}
    (found : added.foldl (gather id) held = some node) : holds node := by
  induction added generalizing held with
  | nil => exact before node found
  | cons first rest inductionHypothesis =>
      obtain ⟨here, later⟩ := List.forall_mem_cons.mp each
      refine inductionHypothesis ?_ later found
      intro known gathered
      unfold gather at gathered
      split at gathered
      · rename_i same
        cases held with
        | none =>
            cases gathered
            exact here same
        | some earlier =>
            cases gathered
            exact absorbs earlier first (before earlier rfl) (here same)
      · exact before known gathered

section

variable {steps : List BuildStep}

theorem node?_finish_run (id : String) : (run steps).finish.node? id = (run steps).node? id := by
  have differ : ((run steps).nodes.map (·.id)).Nodup := nodeIds_run_nodup steps
  have sorted := ((run steps).nodes_finish_perm.map (·.id)).nodup_iff.mpr differ
  ext node
  rw [Graph.node?, node?, find?_key_eq_some_iff differ, find?_key_eq_some_iff sorted,
    mem_nodes_finish]

theorem node?_finish_run_of_mem {node : Node} (present : node ∈ (run steps).finish.nodes) :
    (run steps).finish.node? node.id = some node := by
  rw [node?_finish_run]
  exact (find?_key_eq_some_iff (nodeIds_run_nodup steps)).mpr
    ⟨((run steps).mem_nodes_finish).mp present, rfl⟩

/-- What holds of all nodes that the steps bring with an id, and is kept while one absorbs another,
holds of the node of this id. -/
theorem of_finish_run (bringRoles : ∀ step ∈ steps, step.BringsRoles) (holds : Node → Prop)
    (absorbs : ∀ known incoming, holds known → holds incoming → holds (known.absorb incoming))
    {id : String} (each : ∀ node ∈ BuildStep.nodes steps, node.id = id → holds node) {node : Node}
    (found : (run steps).finish.node? id = some node) : holds node := by
  rw [node?_finish_run, run, node?_foldl_apply empty bringRoles] at found
  refine of_foldl_gather absorbs ?_ each found
  intro known nothing
  cases nothing

/-- A role shows no grant that the steps do not bring with its id. -/
theorem mem_grants_of_finish_run (bringRoles : ∀ step ∈ steps, step.BringsRoles) {id : String}
    {node : Node} (found : (run steps).finish.node? id = some node) {grant : RuleRef}
    (shown : grant ∈ node.grants) :
    ∃ other ∈ BuildStep.nodes steps, other.id = id ∧ grant ∈ other.grants := by
  refine of_finish_run bringRoles (fun node => ∀ grant ∈ node.grants,
    ∃ other ∈ BuildStep.nodes steps, other.id = id ∧ grant ∈ other.grants) ?_ ?_ found grant shown
  · intro known incoming earlier later grant shown
    rcases Node.mem_grants_of_absorb shown with here | there
    · exact earlier grant here
    · exact later grant there
  · intro node brought named grant shown
    exact ⟨node, brought, named, shown⟩

end

end GraphBuilder

end AccessGraph
