/-
This file says that the defects of a catalog change nothing of an answer but what is said: the
answer is that without the defects, and speaks of them besides.
-/

import AccessGraph.Proofs.Catalog.Defects
import AccessGraph.Proofs.Query.OrderIndependence

namespace AccessGraph

namespace Text

/-- What a message starts with is enough to tell what speaks of the catalog from what does not. -/
def start (text : String) : List Char :=
  text.toList.take 2

theorem start_append {first : String} (long : 2 ≤ first.toList.length) (rest : String) :
    start (first ++ rest) = start first := by
  rw [start, String.toList_append, List.take_append_of_le_length long, start]

end Text

/-- The starts of what is said of a catalog. -/
def catalogStarts : List (List Char) :=
  ["duplicate bundle ", "binding ", "workload "].map Text.start

/-- The starts of what is said while a request is answered. -/
def inquiryStarts : List (List Char) :=
  ["clusterrole/", "non-resource URL ", "API group ", "resource ", "wildcard expansion for ",
    "subject ", "pod "].map Text.start

theorem CatalogWarning.start_mem (warning : CatalogWarning) :
    Text.start warning.message ∈ catalogStarts := by
  unfold message
  cases warning <;> simp only [String.append_assoc] <;> rw [Text.start_append (by decide)] <;>
    decide

theorem AggregationWarning.start_mem (warning : AggregationWarning) :
    Text.start warning.message ∈ inquiryStarts := by
  unfold message
  cases warning <;> simp only [String.append_assoc] <;> rw [Text.start_append (by decide)] <;>
    decide

theorem MatchWarning.start_mem (warning : MatchWarning) :
    Text.start warning.message ∈ inquiryStarts := by
  unfold message
  cases warning <;> simp only [String.append_assoc] <;> rw [Text.start_append (by decide)] <;>
    decide

theorem OwnerFault.start_mem (fault : OwnerFault) (pod : Pod) :
    Text.start (fault.message pod) ∈ inquiryStarts := by
  simp only [message, String.append_assoc]
  rw [Text.start_append (by decide)]
  decide

namespace Inquiry

theorem accountWarnings_start_mem {inquiry : Inquiry} {account : ServiceAccount} {message : String}
    (said : message ∈ inquiry.accountWarnings account) : Text.start message ∈ inquiryStarts := by
  unfold accountWarnings at said
  split at said
  · rw [List.mem_singleton.mp said, String.append_assoc, Text.start_append (by decide)]
    decide
  · split at said
    · obtain ⟨pod, -, found⟩ := List.mem_filterMap.mp said
      obtain ⟨fault, -, rfl⟩ := Option.map_eq_some_iff.mp found
      exact fault.start_mem pod
    · cases said

theorem warnings_start_mem {inquiry : Inquiry} {found : List BundleMatch}
    {accounts : List ServiceAccount} {message : String}
    (said : message ∈ inquiry.warnings found accounts) : Text.start message ∈ inquiryStarts := by
  simp only [warnings, List.mem_append, List.mem_map, List.mem_flatMap] at said
  rcases said with (⟨warning, -, rfl⟩ | ⟨bundle, -, warning, -, rfl⟩) | ⟨account, -, here⟩
  · exact warning.start_mem
  · exact warning.start_mem
  · exact accountWarnings_start_mem here

/-- Nothing that is said of a catalog is said while a request is answered. -/
theorem ne_of_mem_warnings (inquiry : Inquiry) (found : List BundleMatch)
    (accounts : List ServiceAccount) (warning : CatalogWarning) :
    ∀ message ∈ inquiry.warnings found accounts, warning.message ≠ message := by
  intro message said same
  have apart : ∀ start ∈ catalogStarts, start ∉ inquiryStarts := by decide
  exact apart _ warning.start_mem (same ▸ warnings_start_mem said)

end Inquiry

/-- Two responses differ in nothing but what they say, and the second says all that the first says,
in the same order. -/
structure Response.SaysMore (first second : Response) : Prop where
  same : { first with warnings := second.warnings } = second
  warnings : first.warnings.Sublist second.warnings

section

variable (catalog : Catalog) (discovery : Option Discovery) (request : Request)

theorem findsAlike_sound :
    (inquiryFor catalog discovery request).FindsAlike (.of catalog.sound) where
  pods := fun _ _ _ => rfl
  workloads := CatalogIndex.workload?_sound catalog

/-- The same is found without the defects. -/
theorem response_sound (earlier : List String) :
    (inquiryFor catalog.sound discovery request).response earlier =
      (inquiryFor catalog discovery request).response earlier := by
  have alike := findsAlike_sound catalog discovery request
  have bundles := CatalogIndex.bundles_sound catalog
  rw [inquiryFor_eq_into (congrArg Aggregation.resolve bundles)]
  rw [CatalogIndex.of_sound] at alike ⊢
  exact alike.response_eq earlier

theorem earlyWarnings_sound : earlyWarnings catalog.sound request =
    if request.needsPods then [podsEnabledWarning] else [] := by
  rw [earlyWarnings, CatalogIndex.warnings_sound, List.map_nil, List.append_nil]

theorem answer_saysMore : Response.SaysMore (answer catalog.sound discovery request)
    (answer catalog discovery request) := by
  rw [answer, answer, response_sound]
  constructor
  · rfl
  · change (distinct (earlyWarnings catalog.sound request ++ _)).Sublist
      (distinct (earlyWarnings catalog request ++ _))
    rw [earlyWarnings_sound]
    apply distinctBy_sublist_of_apart id
    intro message said
    obtain ⟨warning, -, rfl⟩ := List.mem_map.mp said
    exact Inquiry.ne_of_mem_warnings _ _ _ warning

theorem answer_speaksOfDefects :
    catalog.SpeaksOfDefects (answer catalog discovery request).warnings := by
  refine (Catalog.warnings_speakOfDefects catalog).mono ?_
  intro message said
  apply mem_distinct.mpr
  exact List.mem_append_left _ (List.mem_append_right _ said)

end

/-- An answer is the same without the bundles whose id has occurred before, the bindings that grant
no bundle and the workloads without a uid or with one that has occurred before; it only says more,
and speaks of all that is left out but of workloads whose uid has occurred before. -/
theorem query_ignores_defects {request : Request} (valid : request.validate = .ok ())
    (catalog : Catalog) (discovery : Option Discovery) :
    ∃ first second, query catalog.sound discovery request = .ok first ∧
      query catalog discovery request = .ok second ∧ first.SaysMore second ∧
      catalog.SpeaksOfDefects second.warnings :=
  ⟨_, _, query_of_valid valid _ discovery, query_of_valid valid _ discovery,
    answer_saysMore catalog discovery request, answer_speaksOfDefects catalog discovery request⟩

/-- A role that is there twice, a binding of a role that is not there, one of a role that cannot be
named, and workloads without a uid or with one that is there already. -/
def defectiveCatalog : Catalog :=
  { robotCatalog with
    bundles := robotCatalog.bundles ++
      [⟨.role, "reader", some "team", .empty, .empty, [⟨["*"], ["*"], ["*"], [], []⟩], none⟩]
    bindings := robotCatalog.bindings ++
      [⟨.roleBinding, "ghosts", some "team", ⟨.role, "ghost"⟩, [⟨.user, "guest", none⟩]⟩,
        ⟨.clusterRoleBinding, "strays", none, ⟨.role, "reader"⟩, [⟨.user, "guest", none⟩]⟩]
    workloads := robotCatalog.workloads ++
      [⟨"", "batch/v1", "Job", "team", "lost", []⟩, ⟨"9", "batch/v1", "Job", "team", "late", []⟩] }

theorem query_ignores_defects_defectiveCatalog :
    ownersRequest.validate = .ok () ∧ defectiveCatalog.sound = robotCatalog ∧
    ∃ first second, query robotCatalog none ownersRequest = .ok first ∧
      query defectiveCatalog none ownersRequest = .ok second ∧ first.SaysMore second ∧
      "duplicate bundle role:team/reader ignored" ∈ second.warnings ∧
      "binding rolebinding:team/ghosts references missing role:team/ghost" ∈ second.warnings ∧
      "binding clusterrolebinding:strays references Role reader which cannot be resolved from its scope"
        ∈ second.warnings ∧
      "workload team/lost Job has no uid and cannot be linked" ∈ second.warnings := by
  have valid : ownersRequest.validate = .ok () := rfl
  have sound : defectiveCatalog.sound = robotCatalog := by decide
  obtain ⟨first, second, answered, alsoAnswered, more, speaks⟩ :=
    query_ignores_defects valid defectiveCatalog none
  refine ⟨valid, sound, first, second, sound ▸ answered, alsoAnswered, more, ?_, ?_, ?_, ?_⟩
  · exact speaks.bundles defectiveCatalog.bundles.dropLast _ [] rfl (by decide)
  · exact speaks.missing defectiveCatalog.bindings[2] (by decide) "role:team/ghost" (by decide)
      (by decide)
  · exact speaks.unresolved defectiveCatalog.bindings[3] (by decide) rfl
  · exact speaks.workloads defectiveCatalog.workloads[1] (by decide) rfl

end AccessGraph
