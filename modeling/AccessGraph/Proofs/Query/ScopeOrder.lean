/-
This file compares the answers to one request in several scopes: further namespaces, a scope that is
not strict, and no scope at all each show more.
-/

import AccessGraph.Proofs.Query.Widening

namespace AccessGraph

namespace Request

/-- The same request in another scope. -/
def inScope (request : Request) (namespaceScope : Option NamespaceScope) : Request :=
  { request with namespaceScope := namespaceScope }

variable {request : Request} {namespaceScope : Option NamespaceScope}

theorem display_withPods_inScope :
    (request.inScope namespaceScope).withPods.display = request.withPods.display := by
  unfold withPods
  rw [show (request.inScope namespaceScope).needsPods = request.needsPods from rfl]
  split <;> rfl

/-- The scope of a request cannot make it unfit. -/
theorem validate_inScope : (request.inScope namespaceScope).validate = request.validate := rfl

end Request

section

variable {request : Request} {narrow wide : Option NamespaceScope}

theorem inquiryFor_within (within : (Scope.of narrow).Within (Scope.of wide)) (catalog : Catalog)
    (discovery : Option Discovery) :
    (inquiryFor catalog discovery (request.inScope narrow)).Within
      (inquiryFor catalog discovery (request.inScope wide)) := by
  constructor
  · rfl
  · rfl
  · exact Request.display_withPods_inScope.trans Request.display_withPods_inScope.symm
  · rw [scope_inquiryFor, scope_inquiryFor]
    exact within
  · intro id bundle
    rw [Inquiry.grants, Inquiry.grants, matcher_inquiryFor, matcher_inquiryFor]
    exact List.Subset.refl _

/-- A request is answered with more in a wider scope. -/
theorem answer_within (within : (Scope.of narrow).Within (Scope.of wide)) (catalog : Catalog)
    (discovery : Option Discovery) :
    (answer catalog discovery (request.inScope narrow)).Within
      (answer catalog discovery (request.inScope wide)) :=
  (inquiryFor_within within catalog discovery).response _ _

end

/-- A request is answered with more if its scope is not strict, if the scope names more, and without
a scope. -/
theorem query_within_wider_scope {request : Request} (valid : request.validate = .ok ())
    {narrow wide : List String}
    (filled : ∃ wanted ∈ narrow, (Text.trim wanted).isEmpty = false)
    (among : Scope.NamesAmong narrow wide) (catalog : Catalog) (discovery : Option Discovery) :
    ∃ strictNarrow laxNarrow strictWide laxWide unscoped,
      query catalog discovery (request.inScope (some ⟨narrow, true⟩)) = .ok strictNarrow ∧
      query catalog discovery (request.inScope (some ⟨narrow, false⟩)) = .ok laxNarrow ∧
      query catalog discovery (request.inScope (some ⟨wide, true⟩)) = .ok strictWide ∧
      query catalog discovery (request.inScope (some ⟨wide, false⟩)) = .ok laxWide ∧
      query catalog discovery (request.inScope none) = .ok unscoped ∧
      strictNarrow.Within laxNarrow ∧ strictNarrow.Within strictWide ∧
      laxNarrow.Within laxWide ∧ laxWide.Within unscoped := by
  have answered (namespaceScope : Option NamespaceScope) :
      query catalog discovery (request.inScope namespaceScope) =
        .ok (answer catalog discovery (request.inScope namespaceScope)) :=
    query_of_valid (Request.validate_inScope.trans valid) catalog discovery
  refine ⟨_, _, _, _, _, answered _, answered _, answered _, answered _, answered _, ?_, ?_, ?_, ?_⟩
  · exact answer_within (Scope.within_of filled (.refl narrow) fun _ => rfl) _ _
  · exact answer_within (Scope.within_of filled among fun strict => strict) _ _
  · exact answer_within (Scope.within_of filled among fun strict => strict) _ _
  · exact answer_within (Scope.within_unrestricted _) _ _

/-- Everyone may read pods in a team, and a robot of that team may do so everywhere. -/
def openCatalog : Catalog where
  bundles :=
    [⟨.clusterRole, "reader", none, .empty, .empty, [⟨[""], ["pods"], ["get"], [], []⟩], none⟩]
  bindings :=
    [⟨.roleBinding, "everyone", some "team", ⟨.clusterRole, "reader"⟩,
        [⟨.group, "everyone", none⟩]⟩,
      ⟨.clusterRoleBinding, "robots", none, ⟨.clusterRole, "reader"⟩,
        [⟨.serviceAccount, "robot", some "team"⟩]⟩]
  pods := [⟨"1", "team", "worker", .running, "robot", []⟩]
  workloads := []

/-- Who may do anything at all, and where does it run? -/
def runtimeRequest : Request :=
  { Request.standard with
    includeWorkloads := true
    includeAggregates := true }

theorem query_within_wider_scope_openCatalog : Scope.NamesAmong ["team "] ["other", "team"] ∧
    ∃ strictNarrow laxNarrow strictWide laxWide unscoped,
      query openCatalog none (runtimeRequest.inScope (some ⟨["team "], true⟩)) = .ok strictNarrow ∧
      query openCatalog none (runtimeRequest.inScope (some ⟨["team "], false⟩)) = .ok laxNarrow ∧
      query openCatalog none (runtimeRequest.inScope (some ⟨["other", "team"], true⟩)) =
        .ok strictWide ∧
      query openCatalog none (runtimeRequest.inScope (some ⟨["other", "team"], false⟩)) =
        .ok laxWide ∧
      query openCatalog none (runtimeRequest.inScope none) = .ok unscoped ∧
      strictNarrow.Within laxNarrow ∧ strictNarrow.Within strictWide ∧
      laxNarrow.Within laxWide ∧ laxWide.Within unscoped := by
  have among : Scope.NamesAmong ["team "] ["other", "team"] := by
    intro wanted member _
    rw [List.mem_singleton.mp member]
    exact ⟨"team", by decide, by decide⟩
  exact ⟨among, query_within_wider_scope rfl ⟨"team ", by decide, by decide⟩ among _ _⟩

end AccessGraph
