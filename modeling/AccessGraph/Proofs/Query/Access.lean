/-
This file says, in terms of the catalog alone, what grants access: which bundles answer a request,
which bindings grant them, and what they permit.
-/

import AccessGraph.Proofs.Aggregation.Selection
import AccessGraph.Proofs.Matching.Kept
import AccessGraph.Proofs.Query.Answer
import AccessGraph.Proofs.Scope

namespace AccessGraph

namespace Catalog

/-- What aggregation makes of the bundles of a catalog. -/
def aggregation (catalog : Catalog) : Aggregation :=
  .resolve (CatalogIndex.bundlesById catalog.bundles)

section

variable (catalog : Catalog) (discovery : Option Discovery) (request : Request)

/-- A grant is offered when the rules of a bundle, with those that it takes over, hold it, and when
it is selected and no phantom to be dropped. -/
structure Offers (id : String) (bundle : Bundle) (grant : RuleRef) : Prop where
  held : ∃ sourced ∈ catalog.aggregation.effectiveRules id bundle, grant ∈ sourced.refs
  selected : (Matcher.of request discovery).selects grant = true
  kept : (Matcher.of request discovery).keeps grant = true

/-- A bundle answers a request when it is the first of its id, is in scope and offers some grant. A
cluster bundle in a strict scope must be granted by a binding that the scope allows. -/
structure Answers (id : String) (bundle : Bundle) : Prop where
  first : catalog.bundle? id = some bundle
  inScope : bundle.isClusterScoped = true ∨ (Scope.of request.namespaceScope).isActive = false ∨
    ∃ space, bundle.space = some space ∧ (Scope.of request.namespaceScope).Names space
  offers : ∃ grant, Offers catalog discovery request id bundle grant
  bound : bundle.isClusterScoped = true → (Scope.of request.namespaceScope).isStrict = true →
    ∃ binding ∈ catalog.bindings, binding.bundleId? = some id ∧
      (Scope.of request.namespaceScope).allowsBinding binding = true

/-- The ids of the bundles that answer a request. -/
def Answered (id : String) : Prop :=
  ∃ bundle, Answers catalog discovery request id bundle

/-- A binding of the catalog that the scope allows grants a bundle that answers a request. -/
structure Binds (binding : Binding) (target : String) : Prop where
  listed : binding ∈ catalog.bindings
  named : binding.bundleId? = some target
  answered : Answered catalog discovery request target
  allowed : (Scope.of request.namespaceScope).allowsBinding binding = true

/-- A bundle that answers a request permits what a grant that it offers is about. -/
def Permits (target : String) (permission : RuleRef.Permission) : Prop :=
  ∃ bundle grant, Answers catalog discovery request target bundle ∧
    Offers catalog discovery request target bundle grant ∧ grant.permission = permission

/-- A source of a bundle that answers a request is aggregated no further. -/
structure Gathers (source target : String) : Prop where
  answered : Answered catalog discovery request target
  shown : source ∈ catalog.aggregation.sourcesOf target
  leaf : catalog.aggregation.isAggregated source = false

/-- The graph shows what grants access, and nothing else. -/
structure Explains (graph : Graph) : Prop where
  roles : ∀ id, id ∈ graph.nodeIdsIn .roles ↔
    Answered catalog discovery request id ∨
      ∃ target, Answered catalog discovery request target ∧
        id ∈ catalog.aggregation.sourcesOf target
  bindings : ∀ id, id ∈ graph.nodeIdsIn .bindings ↔
    ∃ binding target, Binds catalog discovery request binding target ∧ binding.id = id
  subjects : ∀ id, id ∈ graph.nodeIdsIn .subjects ↔
    ∃ binding target, Binds catalog discovery request binding target ∧
      ∃ subject ∈ binding.subjects, subjectNodeId subject (subject.space binding) = id
  permissions : ∀ id, id ∈ graph.nodeIdsIn .permissions ↔
    request.includePermissions = true ∧
      ∃ target permission, Permits catalog discovery request target permission ∧
        permissionNodeId permission.apiGroup permission.resource permission.verb = id
  relations : ∀ id, id ∈ graph.nodeIdsIn .aggregation ↔
    request.includeAggregates = true ∧
      ∃ source target, Gathers catalog discovery request source target ∧
        aggregationNodeId target = id
  grantsEdges : ∀ id, id ∈ graph.edgeIdsOf .grants ↔
    ∃ binding target, Binds catalog discovery request binding target ∧
      edgeId target binding.id .grants = id
  subjectsEdges : ∀ id, id ∈ graph.edgeIdsOf .subjects ↔
    ∃ binding target, Binds catalog discovery request binding target ∧
      ∃ subject ∈ binding.subjects,
        edgeId binding.id (subjectNodeId subject (subject.space binding)) .subjects = id
  aggregatesEdges : ∀ id, id ∈ graph.edgeIdsOf .aggregates ↔
    (∃ target source, Answered catalog discovery request target ∧
      source ∈ catalog.aggregation.sourcesOf target ∧ edgeId source target .aggregates = id) ∨
    (request.includeAggregates = true ∧
      ∃ source target, Gathers catalog discovery request source target ∧
        (edgeId source (aggregationNodeId target) .aggregates = id ∨
          edgeId (aggregationNodeId target) target .aggregates = id))
  permitsEdges : ∀ id, id ∈ graph.edgeIdsOf .permits ↔
    request.includePermissions = true ∧
      ∃ target permission, Permits catalog discovery request target permission ∧
        edgeId target
          (permissionNodeId permission.apiGroup permission.resource permission.verb) .permits = id

end

section

variable {catalog : Catalog} {discovery : Option Discovery} {request : Request}

/-- The grants that are found in a bundle are those that it offers. -/
theorem mem_keys_grants {id : String} {bundle : Bundle} {wanted : RuleKey} :
    wanted ∈ ((inquiryFor catalog discovery request).grants id bundle).map RuleRef.key ↔
      ∃ grant, Offers catalog discovery request id bundle grant ∧ grant.key = wanted := by
  rw [Inquiry.grants, matcher_inquiryFor, Matcher.key_mem_matchRules]
  change (∃ sourced ∈ catalog.aggregation.effectiveRules id bundle, _) ↔ _
  constructor
  · intro found
    obtain ⟨sourced, rule, grant, member, selected, kept, same⟩ := found
    exact ⟨grant, ⟨⟨sourced, rule, member⟩, selected, kept⟩, same⟩
  · intro offered
    obtain ⟨grant, ⟨⟨sourced, rule, member⟩, selected, kept⟩, same⟩ := offered
    exact ⟨sourced, rule, grant, member, selected, kept, same⟩

/-- Whether a bundle offers anything can be seen from its grants. -/
theorem exists_offers_of_any {id : String} {bundle : Bundle}
    (offered : ((catalog.aggregation.effectiveRules id bundle).flatMap SourcedRule.refs).any
      (fun grant => (Matcher.of request discovery).selects grant &&
        (Matcher.of request discovery).keeps grant) = true) :
    ∃ grant, Offers catalog discovery request id bundle grant := by
  obtain ⟨grant, held, found⟩ := List.any_eq_true.mp offered
  obtain ⟨selected, kept⟩ := Bool.and_eq_true_iff.mp found
  exact ⟨grant, List.mem_flatMap.mp held, selected, kept⟩

theorem grants_ne_nil_iff {id : String} {bundle : Bundle} :
    (inquiryFor catalog discovery request).grants id bundle ≠ [] ↔
      ∃ grant, Offers catalog discovery request id bundle grant := by
  constructor
  · intro found
    obtain ⟨grant, member⟩ := List.exists_mem_of_ne_nil _ found
    obtain ⟨offered, offers, -⟩ := mem_keys_grants.mp (List.mem_map_of_mem member)
    exact ⟨offered, offers⟩
  · intro offered none
    obtain ⟨grant, offers⟩ := offered
    have found := mem_keys_grants.mpr ⟨grant, offers, rfl⟩
    rw [none] at found
    exact absurd found List.not_mem_nil

/-- The bindings that are shown with a bundle are those of the catalog that name it and that the
scope allows. -/
theorem mem_allowedBindings {id : String} {bundle : Bundle}
    (first : catalog.bundle? id = some bundle) {binding : Binding} :
    binding ∈ ((CatalogIndex.of catalog).bindingsFor id).filter
        (Scope.of request.namespaceScope).allowsBinding ↔
      binding ∈ catalog.bindings ∧ binding.bundleId? = some id ∧
        (Scope.of request.namespaceScope).allowsBinding binding = true := by
  simp [CatalogIndex.mem_bindingsFor_of, first, and_assoc]

/-- The bundles that answer a request are those that are reached. -/
theorem answers_iff {id : String} {bundle : Bundle} :
    Answers catalog discovery request id bundle ↔
      ∃ reached ∈ (inquiryFor catalog discovery request).reached,
        reached.id = id ∧ reached.bundle = bundle := by
  have scope := scope_inquiryFor catalog discovery request
  constructor
  · intro answers
    refine ⟨(inquiryFor catalog discovery request).present id bundle,
      Inquiry.mem_reached_iff.mpr ?_, rfl, rfl⟩
    constructor
    · exact CatalogIndex.get?_bundles_of.trans answers.first
    · exact scope ▸ Scope.allowsBundle_iff.mpr answers.inScope
    · exact grants_ne_nil_iff.mpr answers.offers
    · rfl
    · rfl
    · intro cluster strict
      rw [Inquiry.present, scope] at *
      obtain ⟨binding, listed, named, allowed⟩ := answers.bound cluster strict
      exact List.ne_nil_of_mem
        ((mem_allowedBindings answers.first).mpr ⟨listed, named, allowed⟩)
  · intro shown
    obtain ⟨reached, member, rfl, rfl⟩ := shown
    obtain ⟨known, inScope, selected, -, bindings, bound⟩ := Inquiry.mem_reached_iff.mp member
    have first := CatalogIndex.get?_bundles_of.symm.trans known
    rw [scope] at inScope bindings bound
    constructor
    · exact first
    · exact Scope.allowsBundle_iff.mp inScope
    · exact grants_ne_nil_iff.mp selected
    · intro cluster strict
      obtain ⟨binding, granted⟩ := List.exists_mem_of_ne_nil _ (bound cluster strict)
      rw [bindings] at granted
      exact ⟨binding, (mem_allowedBindings first).mp granted⟩

theorem answered_iff {id : String} : Answered catalog discovery request id ↔
    ∃ reached ∈ (inquiryFor catalog discovery request).reached, reached.id = id := by
  constructor
  · intro answered
    obtain ⟨bundle, answers⟩ := answered
    obtain ⟨reached, member, named, -⟩ := answers_iff.mp answers
    exact ⟨reached, member, named⟩
  · intro shown
    obtain ⟨reached, member, named⟩ := shown
    exact ⟨reached.bundle, answers_iff.mpr ⟨reached, member, named, rfl⟩⟩

theorem binds_iff {binding : Binding} {target : String} :
    Binds catalog discovery request binding target ↔
      ∃ reached ∈ (inquiryFor catalog discovery request).reached,
        reached.id = target ∧ binding ∈ reached.bindings := by
  have granted {reached : Reached}
      (member : reached ∈ (inquiryFor catalog discovery request).reached) :
      binding ∈ reached.bindings ↔ binding ∈ catalog.bindings ∧
        binding.bundleId? = some reached.id ∧
        (Scope.of request.namespaceScope).allowsBinding binding = true := by
    have reaches := Inquiry.mem_reached_iff.mp member
    rw [reaches.bindings, scope_inquiryFor]
    exact mem_allowedBindings (CatalogIndex.get?_bundles_of.symm.trans reaches.known)
  constructor
  · intro binds
    obtain ⟨reached, member, rfl⟩ := answered_iff.mp binds.answered
    exact ⟨reached, member, rfl, (granted member).mpr ⟨binds.listed, binds.named, binds.allowed⟩⟩
  · intro shown
    obtain ⟨reached, member, rfl, present⟩ := shown
    obtain ⟨listed, named, allowed⟩ := (granted member).mp present
    exact ⟨listed, named, answered_iff.mpr ⟨reached, member, rfl⟩, allowed⟩

theorem permits_iff {target : String} {permission : RuleRef.Permission} :
    Permits catalog discovery request target permission ↔
      ∃ reached ∈ (inquiryFor catalog discovery request).reached,
        reached.id = target ∧ ∃ grant ∈ reached.refs, grant.permission = permission := by
  have keys {reached : Reached} {wanted : RuleKey}
      (member : reached ∈ (inquiryFor catalog discovery request).reached) :
      wanted ∈ reached.refs.map RuleRef.key ↔
        ∃ grant, Offers catalog discovery request reached.id reached.bundle grant ∧
          grant.key = wanted := by
    rw [(Inquiry.mem_reached_iff.mp member).refs, Inquiry.mem_keys_shownRefs, mem_keys_grants]
  constructor
  · intro permits
    obtain ⟨bundle, grant, answers, offers, rfl⟩ := permits
    obtain ⟨reached, member, rfl, rfl⟩ := answers_iff.mp answers
    obtain ⟨shown, present, same⟩ := List.mem_map.mp ((keys member).mpr ⟨grant, offers, rfl⟩)
    exact ⟨reached, member, rfl, shown, present, RuleRef.permission_eq_of_key_eq same⟩
  · intro shown
    obtain ⟨reached, member, rfl, grant, present, rfl⟩ := shown
    obtain ⟨offered, offers, same⟩ := (keys member).mp (List.mem_map_of_mem present)
    exact ⟨reached.bundle, offered, answers_iff.mpr ⟨reached, member, rfl, rfl⟩, offers,
      RuleRef.permission_eq_of_key_eq same⟩

theorem gathers_iff {source target : String} :
    Gathers catalog discovery request source target ↔
      ∃ reached ∈ (inquiryFor catalog discovery request).reached, reached.id = target ∧
        source ∈ (inquiryFor catalog discovery request).leafSources reached.id := by
  have leaf {id : String} :
      source ∈ (inquiryFor catalog discovery request).leafSources id ↔
        source ∈ catalog.aggregation.sourcesOf id ∧
          catalog.aggregation.isAggregated source = false := by
    change source ∈ (catalog.aggregation.sourcesOf id).filter _ ↔ _
    rw [List.mem_filter, Bool.not_eq_true']
    rfl
  constructor
  · intro gathers
    obtain ⟨reached, member, rfl⟩ := answered_iff.mp gathers.answered
    exact ⟨reached, member, rfl, leaf.mpr ⟨gathers.shown, gathers.leaf⟩⟩
  · intro shown
    obtain ⟨reached, member, rfl, within⟩ := shown
    obtain ⟨source, last⟩ := leaf.mp within
    exact ⟨answered_iff.mpr ⟨reached, member, rfl⟩, source, last⟩

end

end Catalog

end AccessGraph
