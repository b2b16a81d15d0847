/-
This file says that what a scope does not hold cannot be noticed: an answer is the same for a
catalog and for what the scope can see of it.
-/

import AccessGraph.Proofs.Aggregation.Clusters
import AccessGraph.Proofs.Catalog.Restriction
import AccessGraph.Proofs.Query.Answer
import AccessGraph.Proofs.Query.Placement

namespace AccessGraph

/-- A response without the parts that no scope narrows. -/
def Response.scoped (response : Response) : Response :=
  { response with
    resourceMap := []
    warnings := [] }

namespace Inquiry

/-- An inquiry sees the same bundles, bindings, pods and workloads in another index. -/
structure Agrees (inquiry : Inquiry) (index : CatalogIndex) : Prop where
  bundles : index.bundles.entries.filter (inquiry.scope.allowsBundle ·.2) =
    inquiry.index.bundles.entries.filter (inquiry.scope.allowsBundle ·.2)
  sources : ∀ target, ∀ source ∈ inquiry.aggregation.sourcesOf target,
    index.bundles.get? source = inquiry.index.bundles.get? source
  bindings : ∀ id bundle, inquiry.index.bundles.get? id = some bundle →
    inquiry.scope.allowsBundle bundle = true →
      (index.bindingsFor id).filter inquiry.scope.allowsBinding =
        (inquiry.index.bindingsFor id).filter inquiry.scope.allowsBinding
  pods : ∀ space account, inquiry.scope.allowsNamespace space = true →
    index.podsFor space account = inquiry.index.podsFor space account
  workloads : index.workloads = inquiry.index.workloads

section

variable {inquiry : Inquiry} {index : CatalogIndex} (agrees : inquiry.Agrees index)

include agrees

theorem Agrees.bundleMatches_eq : (inquiry.into index).bundleMatches = inquiry.bundleMatches := by
  unfold bundleMatches
  exact congrArg (List.map _) agrees.bundles

theorem Agrees.reached_eq : (inquiry.into index).reached = inquiry.reached := by
  rw [reached, reached, agrees.bundleMatches_eq]
  apply List.filterMap_congr
  intro found member
  obtain ⟨known, allowed, -⟩ := mem_bundleMatches.mp member
  have bindings : ((inquiry.into index).index.bindingsFor found.id).filter
      (inquiry.into index).scope.allowsBinding =
      (inquiry.index.bindingsFor found.id).filter inquiry.scope.allowsBinding :=
    agrees.bindings _ _ known allowed
  rw [reach?, reach?, bindings]
  rfl

theorem Agrees.sourceSteps_eq {target source : String}
    (shown : source ∈ inquiry.aggregation.sourcesOf target) :
    (inquiry.into index).sourceSteps target source = inquiry.sourceSteps target source := by
  unfold sourceSteps
  rw [show (inquiry.into index).index.bundles.get? source =
    inquiry.index.bundles.get? source from agrees.sources target source shown]
  rfl

theorem Agrees.reachSteps_eq : (inquiry.into index).reachSteps = inquiry.reachSteps := by
  funext reached
  have sources : (inquiry.aggregation.sourcesOf reached.id).flatMap
      ((inquiry.into index).sourceSteps reached.id) =
      (inquiry.aggregation.sourcesOf reached.id).flatMap (inquiry.sourceSteps reached.id) := by
    apply List.flatMap_congr
    intro source shown
    exact agrees.sourceSteps_eq shown
  unfold reachSteps
  rw [← sources]
  rfl

theorem Agrees.findsAlike : inquiry.FindsAlike index := by
  refine ⟨agrees.pods, ?_⟩
  funext uid
  rw [CatalogIndex.workload?, CatalogIndex.workload?, agrees.workloads]

/-- An inquiry into an index that it cannot tell from its own has the same answer. -/
theorem Agrees.response_eq (earlier others : List String) :
    ((inquiry.into index).response earlier).scoped = (inquiry.response others).scoped := by
  have placed : (inquiry.into index).placedAccounts = inquiry.placedAccounts := rfl
  have gaps : (inquiry.into index).knownGaps = inquiry.knownGaps := rfl
  have alike := agrees.findsAlike
  have steps : (inquiry.into index).steps = inquiry.steps := by
    funext reached accounts
    rw [Inquiry.steps, Inquiry.steps, agrees.reachSteps_eq, alike.accountSteps_eq]
  have shown : (inquiry.into index).bundleMatches.filterMap (inquiry.into index).reach? =
      inquiry.bundleMatches.filterMap inquiry.reach? := agrees.reached_eq
  simp only [response, Response.scoped, shown, steps, placed, gaps, alike.podIds_eq,
    alike.workloadIds_eq]

end

end Inquiry

section

variable {catalog : Catalog} {discovery : Option Discovery} {request : Request}

/-- Aggregation is the same in what a scope can see of a catalog. -/
theorem aggregation_restrict {scope : Scope} (confines : scope.Confines)
    (plain : catalog.HasPlainNames) :
    Aggregation.resolve (CatalogIndex.of (catalog.restrict scope)).bundles =
      Aggregation.resolve (CatalogIndex.of catalog).bundles := by
  have allowed : ∀ bundle : Bundle, bundle.isClusterScoped = true →
      scope.allowsBundle bundle = true := by
    intro bundle cluster
    exact Scope.allowsBundle_iff.mpr (.inl cluster)
  rw [Catalog.bundles_restrict confines plain, ← Aggregation.resolve_clusters,
    Aggregation.clusters, SortedMap.filter_filter_of_imp _ _ allowed]
  exact Aggregation.resolve_clusters

theorem inquiryFor_restrict {scope : Scope} (confines : scope.Confines)
    (plain : catalog.HasPlainNames) :
    inquiryFor (catalog.restrict scope) discovery request =
      (inquiryFor catalog discovery request).into (CatalogIndex.of (catalog.restrict scope)) :=
  inquiryFor_eq_into (aggregation_restrict confines plain) discovery request

theorem inquiryFor_agrees (confines : (Scope.of request.namespaceScope).Confines)
    (plain : catalog.HasPlainNames) :
    (inquiryFor catalog discovery request).Agrees
        (CatalogIndex.of (catalog.restrict (Scope.of request.namespaceScope))) := by
  have scope := scope_inquiryFor catalog discovery request
  have bundles := Catalog.bundles_restrict confines plain
  constructor
  · rw [scope, bundles, SortedMap.entries_filter, List.filter_filter]
    simp only [Bool.and_self]
    rfl
  · intro target source shown
    -- Sources are cluster bundles, and every scope allows these.
    obtain ⟨bundle, known, cluster, -⟩ :=
      Aggregation.exists_of_mem_next (Aggregation.mem_next_of_mem_sourcesOf shown)
    have allowed : (Scope.of request.namespaceScope).allowsBundle bundle = true :=
      Scope.allowsBundle_iff.mpr (.inl cluster)
    rw [bundles, SortedMap.get?_filter]
    change ((CatalogIndex.of catalog).bundles.get? source).filter _ =
      (CatalogIndex.of catalog).bundles.get? source
    rw [known]
    exact Option.filter_some_pos allowed
  · intro id bundle known allowed
    rw [scope] at *
    exact Catalog.allowedBindings_restrict confines plain
      (CatalogIndex.get?_bundles_of.symm.trans known) allowed
  · intro space account allowed
    rw [scope] at allowed
    exact Catalog.podsFor_restrict confines allowed account
  · rfl

/-- An answer tells nothing of a catalog but what the scope of the request can see. -/
theorem answer_restrict (active : (Scope.of request.namespaceScope).isActive = true)
    (plain : catalog.HasPlainNames) :
    (answer (catalog.restrict (Scope.of request.namespaceScope)) discovery request).scoped =
      (answer catalog discovery request).scoped := by
  have confines := Scope.confines_of active
  have agrees : (inquiryFor catalog discovery request).Agrees _ := inquiryFor_agrees confines plain
  rw [answer, answer, inquiryFor_restrict confines plain, agrees.response_eq]

end

/-- Two catalogs are answered alike if the scope of the request sees the same of both. -/
theorem query_eq_of_restrict_eq {first second : Catalog} {request : Request}
    (active : (Scope.of request.namespaceScope).isActive = true) (plain : first.HasPlainNames)
    (alsoPlain : second.HasPlainNames)
    (same : first.restrict (Scope.of request.namespaceScope) =
      second.restrict (Scope.of request.namespaceScope)) (discovery : Option Discovery) :
    (query first discovery request).map Response.scoped =
      (query second discovery request).map Response.scoped := by
  have answers : (answer first discovery request).scoped =
      (answer second discovery request).scoped := by
    rw [← answer_restrict active plain, same, answer_restrict active alsoPlain]
  rw [query_eq, query_eq]
  cases request.validate with
  | error fault => simp only [Except.mapError, Except.map]
  | ok valid => simp only [Except.mapError, Except.map, answers]

/-- A role, a binding and a pod in a namespace. -/
def readerOf (space : String) : Catalog where
  bundles :=
    [⟨.role, "reader", some space, .empty, .empty, [⟨[""], ["pods"], ["get"], [], []⟩], none⟩]
  bindings :=
    [⟨.roleBinding, "readers", some space, ⟨.role, "reader"⟩, [⟨.serviceAccount, "robot", none⟩]⟩]
  pods := [⟨"1", space, "worker", .running, "robot", []⟩]
  workloads := []

/-- Two teams that share a cluster. -/
def sharedCatalog : Catalog where
  bundles := (readerOf "other").bundles ++ (readerOf "team").bundles
  bindings := (readerOf "other").bindings ++ (readerOf "team").bindings
  pods := (readerOf "team").pods ++ (readerOf "other").pods
  workloads := []

/-- Who may do anything in the namespace of the team, and where does it run? -/
def insideRequest : Request :=
  { Request.standard with
    namespaceScope := some ⟨[" team ", ""], true⟩
    includePods := true }

theorem query_eq_of_sharedCatalog : sharedCatalog ≠ readerOf "team" ∧
    (query sharedCatalog none insideRequest).map Response.scoped =
      (query (readerOf "team") none insideRequest).map Response.scoped := by
  refine ⟨by decide, query_eq_of_restrict_eq rfl ?_ ?_ ?_ none⟩
  · decide
  · decide
  · decide

end AccessGraph
