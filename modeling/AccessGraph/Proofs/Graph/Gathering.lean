/-
This file says what a run of build steps leaves of an id: the first node that is brought with it,
and of a role all that the steps bring of it, with nothing lost and nothing else.
-/

import AccessGraph.Proofs.Graph.Details

namespace AccessGraph

namespace BuildStep

/-- The details that a step has for the role with an id. -/
def details? (id : String) : BuildStep → Option RoleDetails
  | .role added => if added.id = id then added.kind.roleDetails? else none
  | _ => none

/-- All details that some steps have for the role with an id, those of the first step first. -/
def details (id : String) (steps : List BuildStep) : List RoleDetails :=
  steps.filterMap (details? id)

theorem details_cons (id : String) (step : BuildStep) (rest : List BuildStep) :
    details id (step :: rest) = (step.details? id).toList ++ details id rest := by
  cases own : step.details? id <;> simp [details, own]

/-- Where roles are brought as roles, all details of the nodes with an id are for its role. -/
theorem mem_details_iff {steps : List BuildStep} (bringRoles : ∀ step ∈ steps, step.BringsRoles)
    {id : String} {wanted : RoleDetails} : wanted ∈ details id steps ↔
      ∃ node ∈ nodes steps, node.id = id ∧ node.kind.roleDetails? = some wanted := by
  induction steps with
  | nil => simp [details]
  | cons step rest inductionHypothesis =>
      obtain ⟨brings, restBring⟩ := List.forall_mem_cons.mp bringRoles
      rw [details_cons, List.mem_append, inductionHypothesis restBring]
      cases step with
      | edge added => simp [details?]
      | node added => simp [details?, Node.roleDetails?_of_plain brings]
      | role added =>
          rw [nodes_cons_role, details?]
          split <;> simp [*]

end BuildStep

/-- Details grow: labels and annotations stay, and of the rest nothing is lost. -/
structure RoleDetails.GrowsInto (known grown : RoleDetails) : Prop where
  labels : grown.labels = known.labels
  annotations : grown.annotations = known.annotations
  aggregated : known.aggregated = true → grown.aggregated = true
  aggregationSources : known.aggregationSources ⊆ grown.aggregationSources
  grants : known.matchedRuleRefs.map RuleRef.key ⊆ grown.matchedRuleRefs.map RuleRef.key

/-- Details gather what is brought: labels and annotations stay, and of the rest everything is there
that was known or is brought, and nothing else. Of the grants with one key the first is there.
Sources are in order and grants differ, unless nothing was brought of them. -/
structure RoleDetails.Gathers (known : RoleDetails) (brought : List RoleDetails)
    (gathered : RoleDetails) : Prop where
  labels : gathered.labels = known.labels
  annotations : gathered.annotations = known.annotations
  aggregated : gathered.aggregated = true ↔
    ∃ details ∈ known :: brought, details.aggregated = true
  aggregationSources : ∀ source, source ∈ gathered.aggregationSources ↔
    ∃ details ∈ known :: brought, source ∈ details.aggregationSources
  ascending : gathered.aggregationSources = known.aggregationSources ∨
    gathered.aggregationSources.Pairwise (· < ·)
  grants : ∀ key, key ∈ gathered.matchedRuleRefs.map RuleRef.key ↔
    ∃ details ∈ known :: brought, key ∈ details.matchedRuleRefs.map RuleRef.key
  firstGrants : ∀ key, gathered.matchedRuleRefs.find? (·.key == key) =
    ((known :: brought).flatMap (·.matchedRuleRefs)).find? (·.key == key)
  differentGrants : gathered.matchedRuleRefs = known.matchedRuleRefs ∨
    (gathered.matchedRuleRefs.map RuleRef.key).Nodup

namespace RoleDetails

namespace Gathers

theorem refl (details : RoleDetails) : details.Gathers [] details where
  labels := rfl
  annotations := rfl
  aggregated := by simp
  aggregationSources := by simp
  ascending := .inl rfl
  grants := by simp
  firstGrants := by simp
  differentGrants := .inl rfl

/-- What is gathered first passes on everything that it has gathered. -/
theorem exists_append_iff {holds : RoleDetails → Prop} {first second : RoleDetails}
    {brought more : List RoleDetails}
    (early : holds second ↔ ∃ details ∈ first :: brought, holds details) :
    (∃ details ∈ second :: more, holds details) ↔
      ∃ details ∈ first :: (brought ++ more), holds details := by
  simp only [List.mem_cons, or_and_right, exists_or, exists_eq_left, List.mem_append] at early ⊢
  rw [early, or_assoc]

theorem append {first second third : RoleDetails} {brought more : List RoleDetails}
    (early : first.Gathers brought second) (late : second.Gathers more third) :
    first.Gathers (brought ++ more) third where
  labels := late.labels.trans early.labels
  annotations := late.annotations.trans early.annotations
  aggregated := late.aggregated.trans (exists_append_iff early.aggregated)
  aggregationSources := fun source =>
    (late.aggregationSources source).trans (exists_append_iff (early.aggregationSources source))
  ascending := by
    rcases late.ascending with same | ascending
    · rw [same]
      exact early.ascending
    · exact .inr ascending
  grants := fun key => (late.grants key).trans (exists_append_iff (early.grants key))
  firstGrants := by
    intro key
    rw [late.firstGrants, List.flatMap_cons, List.find?_append, early.firstGrants,
      ← List.find?_append, ← List.flatMap_append, List.cons_append]
  differentGrants := by
    rcases late.differentGrants with same | differ
    · rw [same]
      exact early.differentGrants
    · exact .inr differ

/-- Details that are brought again bring nothing. -/
theorem again {known gathered : RoleDetails} {brought : List RoleDetails}
    (gathers : known.Gathers brought gathered) : known.Gathers (known :: brought) gathered where
  labels := gathers.labels
  annotations := gathers.annotations
  aggregated := by simp [gathers.aggregated]
  aggregationSources := by simp [gathers.aggregationSources]
  ascending := gathers.ascending
  grants := by
    intro key
    simp [gathers.grants]
  firstGrants := by
    intro key
    simp [gathers.firstGrants, ← Option.or_assoc]
  differentGrants := gathers.differentGrants

theorem growsInto {known gathered : RoleDetails} {brought : List RoleDetails}
    (gathers : known.Gathers brought gathered) : known.GrowsInto gathered where
  labels := gathers.labels
  annotations := gathers.annotations
  aggregated := fun already => gathers.aggregated.mpr ⟨known, List.mem_cons_self, already⟩
  aggregationSources := fun source there =>
    (gathers.aggregationSources source).mpr ⟨known, List.mem_cons_self, there⟩
  grants := fun key there => (gathers.grants key).mpr ⟨known, List.mem_cons_self, there⟩

end Gathers

theorem gathers_absorb (known incoming : RoleDetails) :
    known.Gathers [incoming] (known.absorb incoming) where
  labels := rfl
  annotations := rfl
  aggregated := by simp [absorb]
  aggregationSources := by
    intro source
    simp only [absorb]
    split
    · rename_i nothing
      simp [List.isEmpty_iff.mp nothing]
    · simp [SortedSet.mem_ofList]
  ascending := by
    simp only [absorb]
    split
    · exact .inl rfl
    · exact .inr (SortedSet.ascending _)
  grants := by
    intro key
    rw [Node.mem_keys_absorb]
    simp
  firstGrants := by
    intro key
    simp only [absorb]
    split
    · rename_i nothing
      simp [List.isEmpty_iff.mp nothing]
    · simp [RuleRef.dedupe, find?_distinctBy]
  differentGrants := by
    simp only [absorb]
    split
    · exact .inl rfl
    · exact .inr (distinctBy_keys RuleRef.key _)

end RoleDetails

/-- A node grows: its details do if it is a role, and nothing else of it changes. -/
structure Node.GrowsInto (known grown : Node) : Prop where
  bare : grown.bare = known.bare
  details : ∀ details, known.kind.roleDetails? = some details →
    ∃ further, grown.kind.roleDetails? = some further ∧ details.GrowsInto further

/-- A node gathers what is brought of its details if it is a role, and nothing else of it
changes. -/
structure Node.Gathers (known : Node) (brought : List RoleDetails) (gathered : Node) : Prop where
  bare : gathered.bare = known.bare
  details : ∀ details, known.kind.roleDetails? = some details →
    ∃ further, gathered.kind.roleDetails? = some further ∧ details.Gathers brought further

namespace Node

namespace Gathers

theorem refl (node : Node) : node.Gathers [] node :=
  ⟨rfl, fun details role => ⟨details, role, .refl details⟩⟩

theorem append {first second third : Node} {brought more : List RoleDetails}
    (early : first.Gathers brought second) (late : second.Gathers more third) :
    first.Gathers (brought ++ more) third := by
  refine ⟨late.bare.trans early.bare, ?_⟩
  intro details role
  obtain ⟨further, alsoRole, gathers⟩ := early.details details role
  obtain ⟨last, stillRole, gathersOn⟩ := late.details further alsoRole
  exact ⟨last, stillRole, gathers.append gathersOn⟩

/-- What a role has when it comes may be counted among what is brought of it. -/
theorem again {known gathered : Node} {brought : List RoleDetails}
    (gathers : known.Gathers brought gathered) :
    known.Gathers (known.kind.roleDetails?.toList ++ brought) gathered := by
  refine ⟨gathers.bare, ?_⟩
  intro details role
  obtain ⟨further, alsoRole, gathersOn⟩ := gathers.details details role
  rw [role]
  exact ⟨further, alsoRole, gathersOn.again⟩

theorem growsInto {known gathered : Node} {brought : List RoleDetails}
    (gathers : known.Gathers brought gathered) : known.GrowsInto gathered := by
  refine ⟨gathers.bare, ?_⟩
  intro details role
  obtain ⟨further, alsoRole, gathersOn⟩ := gathers.details details role
  exact ⟨further, alsoRole, gathersOn.growsInto⟩

end Gathers

theorem gathers_absorb (node incoming : Node) :
    node.Gathers incoming.kind.roleDetails?.toList (node.absorb incoming) := by
  cases more : incoming.kind.roleDetails? with
  | none =>
      have plain : incoming.isRole = false := by simp [isRole, more]
      rw [absorb_of_plain plain]
      exact .refl node
  | some further =>
      refine ⟨bare_absorb node incoming, ?_⟩
      intro details role
      exact ⟨_, roleDetails?_absorb role more, details.gathers_absorb further⟩

theorem isRole_bare (node : Node) : node.bare.isRole = node.isRole := by
  rw [isRole, bare, roleDetails?_mapRoleDetails, Option.isSome_map, isRole]

/-- Nothing at all changes of a node that is no role. -/
theorem GrowsInto.eq_of_plain {known grown : Node} (grows : known.GrowsInto grown)
    (plain : known.isRole = false) : grown = known := by
  have alsoPlain : grown.isRole = false := by
    have sameLane : grown.bare.isRole = known.bare.isRole := by rw [grows.bare]
    rw [isRole_bare, isRole_bare, plain] at sameLane
    exact sameLane
  rw [← bare_of_plain alsoPlain, grows.bare, bare_of_plain plain]

end Node

namespace GraphBuilder

/-- A node that is there gathers what a step brings of it. -/
theorem gathers_afterStep (id : String) (known : Node) (step : BuildStep) :
    ∃ gathered, afterStep id (some known) step = some gathered ∧
      known.Gathers (step.details? id).toList gathered := by
  cases step with
  | edge added => exact ⟨known, rfl, .refl known⟩
  | node added =>
      refine ⟨known, ?_, .refl known⟩
      rw [afterStep, Option.getD_some, ite_self]
  | role added =>
      rw [afterStep, gather, BuildStep.details?]
      split
      · exact ⟨_, rfl, known.gathers_absorb added⟩
      · exact ⟨known, rfl, .refl known⟩

/-- A node that is there gathers all that a run brings of it. -/
theorem gathers_foldl_afterStep (id : String) (known : Node) (steps : List BuildStep) :
    ∃ gathered, steps.foldl (afterStep id) (some known) = some gathered ∧
      known.Gathers (BuildStep.details id steps) gathered := by
  induction steps generalizing known with
  | nil => exact ⟨known, rfl, .refl known⟩
  | cons step rest inductionHypothesis =>
      obtain ⟨next, stepped, gathers⟩ := gathers_afterStep id known step
      obtain ⟨gathered, ran, gathersOn⟩ := inductionHypothesis next
      rw [List.foldl_cons, stepped, BuildStep.details_cons]
      exact ⟨gathered, ran, gathers.append gathersOn⟩

/-- What a run leaves of an id is the first node that is brought with it, and all that is brought of
it as a role. -/
theorem gathers_of_foldl {id : String} {steps : List BuildStep} {node : Node}
    (found : steps.foldl (afterStep id) none = some node) :
    ∃ first, (BuildStep.nodes steps).find? (·.id == id) = some first ∧
      first.Gathers (BuildStep.details id steps) node := by
  have begins {added : Node} {rest : List BuildStep} (same : added.id = id)
      (found : rest.foldl (afterStep id) (some added) = some node) :
      (added :: BuildStep.nodes rest).find? (·.id == id) = some added ∧
        added.Gathers (BuildStep.details id rest) node := by
    obtain ⟨gathered, ran, gathers⟩ := gathers_foldl_afterStep id added rest
    obtain rfl : gathered = node := Option.some.inj (ran.symm.trans found)
    exact ⟨List.find?_cons_of_pos (beq_iff_eq.mpr same), gathers⟩
  -- Steps with another id are passed over until the first node with this one comes.
  induction steps with
  | nil => cases found
  | cons step rest inductionHypothesis =>
      rw [List.foldl_cons] at found
      rw [BuildStep.details_cons]
      cases step with
      | edge added => exact inductionHypothesis found
      | node added =>
          rw [BuildStep.nodes_cons_node]
          by_cases same : added.id = id
          · rw [afterStep, if_pos same] at found
            exact ⟨added, begins same found⟩
          · rw [afterStep, if_neg same] at found
            rw [List.find?_cons_of_neg (by simpa using same)]
            exact inductionHypothesis found
      | role added =>
          rw [BuildStep.nodes_cons_role, BuildStep.details?]
          by_cases same : added.id = id
          · rw [afterStep, gather, if_pos same] at found
            obtain ⟨isFirst, gathers⟩ := begins same found
            rw [if_pos same]
            exact ⟨added, isFirst, gathers.again⟩
          · rw [afterStep, gather, if_neg same] at found
            rw [List.find?_cons_of_neg (by simpa using same), if_neg same]
            exact inductionHypothesis found

section

variable {steps : List BuildStep}

/-- What comes after some steps adds to the nodes that they have left. -/
theorem gathers_run_append (more : List BuildStep) {id : String} {node : Node}
    (found : (run steps).node? id = some node) :
    ∃ gathered, (run (steps ++ more)).node? id = some gathered ∧
      node.Gathers (BuildStep.details id more) gathered := by
  obtain ⟨gathered, ran, gathers⟩ := gathers_foldl_afterStep id node more
  refine ⟨gathered, ?_, gathers⟩
  rw [run, List.foldl_append, node?_foldl_afterStep, ← run, found, ran]

/-- The role of an id shows the grants of all roles that the steps bring with this id. -/
theorem mem_grantKeys_finish_run (bringRoles : ∀ step ∈ steps, step.BringsRoles) {id : String}
    {node : Node} (found : (run steps).finish.node? id = some node) (role : node.isRole = true)
    {wanted : RuleKey} : wanted ∈ node.grantKeys ↔
      ∃ other ∈ BuildStep.nodes steps, other.id = id ∧ wanted ∈ other.grantKeys := by
  rw [node?_finish_run, run, node?_foldl_afterStep] at found
  obtain ⟨first, isFirst, gathers⟩ := gathers_of_foldl found
  -- The node that came first is a role as well, as nothing but details has changed.
  have alsoRole : first.isRole = true := by
    rw [← Node.isRole_bare, ← gathers.bare, Node.isRole_bare, role]
  obtain ⟨details, known⟩ := Option.isSome_iff_exists.mp alsoRole
  obtain ⟨further, gathered, gathersOn⟩ := gathers.details details known
  rw [Node.grantKeys_of_details gathered, gathersOn.grants]
  constructor
  · intro given
    obtain ⟨own, member, shown⟩ := given
    rcases List.mem_cons.mp member with rfl | brought
    · exact ⟨first, List.mem_of_find?_eq_some isFirst, key_of_find? isFirst,
        Node.grantKeys_of_details known ▸ shown⟩
    · obtain ⟨other, present, named, own⟩ := (BuildStep.mem_details_iff bringRoles).mp brought
      exact ⟨other, present, named, Node.grantKeys_of_details own ▸ shown⟩
  · intro given
    obtain ⟨other, present, named, shown⟩ := given
    obtain ⟨own, isOwn, here⟩ := Node.exists_details_of_mem_grantKeys shown
    exact ⟨own, List.mem_cons_of_mem _ ((BuildStep.mem_details_iff bringRoles).mpr
      ⟨other, present, named, isOwn⟩), here⟩

end

end GraphBuilder

end AccessGraph
