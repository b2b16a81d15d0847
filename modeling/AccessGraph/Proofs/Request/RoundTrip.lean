/-
This file proves that requests and catalogs are read as they were written, so that whatever text is
accepted says the same once it is read and written again.
-/

import AccessGraph.Proofs.Catalog.RoundTrip
import AccessGraph.Query.Error

namespace AccessGraph

theorem MatchMode.decode_restores (mode : MatchMode) :
    MatchMode.decode.Restores (.text mode.name) mode := by
  cases mode <;> exact .choice rfl

theorem WildcardMode.decode_restores (mode : WildcardMode) :
    WildcardMode.decode.Restores (.text mode.name) mode := by
  cases mode <;> exact .choice rfl

theorem PodPhaseMode.decode_restores (mode : PodPhaseMode) :
    PodPhaseMode.decode.Restores (.text mode.name) mode := by
  cases mode <;> exact .choice rfl

theorem Selector.decode_restores (selector : Selector) :
    Selector.record.decode.Restores selector.encode selector := by
  apply Record.decode_restores
  case fields =>
    exact
      .cons (.of (.texts selector.apiGroups)) <|
      .cons (.of (.texts selector.resources)) <|
      .cons (.of (.texts selector.verbs)) <|
      .cons (.of (.texts selector.resourceNames)) <|
      .cons (.of (.texts selector.nonResourceUrls)) .nil
  case differ => decide
  case commute => simp [Written.Commute]
  all_goals rfl

theorem NamespaceScope.decode_restores (scope : NamespaceScope) :
    NamespaceScope.record.decode.Restores scope.encode scope := by
  apply Record.decode_restores
  case fields =>
    exact
      .cons (.of (.texts scope.namespaces)) <|
      .cons (.of (.boolean scope.strict)) .nil
  case differ => decide
  case commute => simp [Written.Commute]
  all_goals rfl

theorem Request.decode_restores (request : Request) :
    Request.record.decode.Restores request.encode request := by
  apply Record.decode_restores
  case fields =>
    exact
      .cons (.of request.selector.decode_restores) <|
      .cons (.of request.matchMode.decode_restores) <|
      .cons (.of request.wildcardMode.decode_restores) <|
      .cons (.of (.boolean request.includeRuleMetadata)) <|
      .cons (.of (.boolean request.includePods)) <|
      .cons (.of (.boolean request.includeWorkloads)) <|
      .cons (.of (.boolean request.filterPhantoms)) <|
      .cons (.of request.podPhaseMode.decode_restores) <|
      .cons (.of (.word request.maxPodsPerSubject)) <|
      .cons (.of (.word request.maxWorkloadsPerPod)) <|
      .cons (.of (.optional NamespaceScope.decode_restores nofun request.namespaceScope)) <|
      .cons (.of (.boolean request.includeAggregates)) <|
      .cons (.of (.boolean request.includePermissions)) <|
      .cons (.of (.boolean request.includeResourceMap)) .nil
  case differ => decide
  case commute => simp [Written.Commute]
  all_goals rfl

/-- A request is accepted if it can be read and makes sense. -/
theorem Request.parse_eq_ok_iff {document : String} {request : Request} :
    Request.parse document = .ok request ↔
      Decoder.readText Request.record.decode document = .ok request ∧
        request.validate = .ok () := by
  unfold Request.parse
  cases read : Decoder.readText Request.record.decode document with
  | error fault => simp [bind, Except.bind, Except.mapError]
  | ok found =>
      simp only [bind, Except.bind, Except.mapError, Except.ok.injEq]
      cases valid : found.validate with
      | error fault =>
          simp only [reduceCtorEq, false_iff, not_and]
          rintro rfl sound
          rw [valid] at sound
          cases sound
      | ok nothing =>
          simp only [Except.ok.injEq]
          refine ⟨fun same => ⟨same, same ▸ valid⟩, fun given => given.1⟩

section

variable {α ε : Type}

/-- A result is read from the text that is written of it, be the members of objects in their order
or in that of their keys. -/
def RestoredFromText (parse : String → Except ε α) (encode : α → Json) (result : α) : Prop :=
  parse (encode result).print = .ok result ∧ parse (encode result).ordered.print = .ok result

/-- A text that is accepted is written anew, with everything in its place. -/
def rewrite (parse : String → Except ε α) (encode : α → Json) (document : String) :
    Except ε String :=
  (parse document).map fun result => (encode result).print

/-- A text that is written anew says the same, and is written anew as it is. -/
theorem rewrite_settles {parse : String → Except ε α} {encode : α → Json}
    (restored : ∀ document result, parse document = .ok result →
      RestoredFromText parse encode result)
    {document again : String} (written : rewrite parse encode document = .ok again) :
    parse again = parse document ∧ rewrite parse encode again = .ok again := by
  cases read : parse document with
  | error fault =>
      rw [rewrite, read] at written
      cases written
  | ok result =>
      rw [rewrite, read] at written
      cases written
      have same := (restored document result read).1
      exact ⟨same, by rw [rewrite, same]; rfl⟩

end

theorem Catalog.restoredFromText (catalog : Catalog) :
    RestoredFromText Catalog.parse Catalog.encode catalog :=
  catalog.decode_restores.readText

theorem Request.restoredFromText {request : Request} (valid : request.validate = .ok ()) :
    RestoredFromText Request.parse Request.encode request := by
  obtain ⟨written, ordered⟩ := request.decode_restores.readText
  exact ⟨parse_eq_ok_iff.mpr ⟨written, valid⟩, parse_eq_ok_iff.mpr ⟨ordered, valid⟩⟩

/-- All catalogs, and all requests that make sense, are read from the texts that are written of
them; and whatever text is accepted, written anew it says the same and does not change again. -/
theorem documents_survive_writing :
    (∀ catalog : Catalog, RestoredFromText Catalog.parse Catalog.encode catalog) ∧
    (∀ request : Request, request.validate = .ok () →
      RestoredFromText Request.parse Request.encode request) ∧
    (∀ document again, rewrite Catalog.parse Catalog.encode document = .ok again →
      Catalog.parse again = Catalog.parse document ∧
        rewrite Catalog.parse Catalog.encode again = .ok again) ∧
    ∀ document again, rewrite Request.parse Request.encode document = .ok again →
      Request.parse again = Request.parse document ∧
        rewrite Request.parse Request.encode again = .ok again := by
  refine ⟨Catalog.restoredFromText, fun _ => Request.restoredFromText, ?_, ?_⟩
  · intro document again written
    exact rewrite_settles (fun _ catalog _ => catalog.restoredFromText) written
  · intro document again written
    refine rewrite_settles (fun _ request accepted => ?_) written
    exact Request.restoredFromText (Request.parse_eq_ok_iff.mp accepted).2

/-- A role is in no namespace, and the uids of a pod and a workload go by their other name. -/
def shortCatalog : String :=
  "\x7b\"bundles\":[\x7b\"kind\":\"Role\",\"name\":\"reader\",\"namespace\":null\x7d]," ++
    "\"pods\":[\x7b\"id\":\"1\",\"namespace\":\"a\",\"name\":\"b\",\"phase\":\"Running\"\x7d]," ++
    "\"workloads\":[\x7b\"id\":\"2\",\"kind\":\"Job\",\"namespace\":\"a\",\"name\":\"c\"\x7d]\x7d"

/-- The mode goes by its other name, no scope is given, and almost everything is left out. -/
def shortRequest : String :=
  "\x7b\"wildcardMode\":\"exact\",\"namespaceScope\":null,\"maxPodsPerSubject\":3\x7d"

/-- Short texts are written anew in full, and say the same. -/
theorem documents_survive_writing_short :
    let catalog : Catalog :=
      ⟨[⟨.role, "reader", none, .empty, .empty, [], none⟩], [],
        [⟨"1", "a", "b", .running, "", []⟩], [⟨"2", "", "Job", "a", "c", []⟩]⟩
    let request : Request :=
      { Request.standard with wildcardMode := .exact, maxPodsPerSubject := 3 }
    Catalog.parse shortCatalog = .ok catalog ∧
    Request.parse shortRequest = .ok request ∧
    request.validate = .ok () ∧
    RestoredFromText Request.parse Request.encode request ∧
    rewrite Catalog.parse Catalog.encode shortCatalog = .ok catalog.encode.print ∧
    Catalog.parse catalog.encode.print = Catalog.parse shortCatalog ∧
    rewrite Request.parse Request.encode shortRequest = .ok request.encode.print ∧
    Request.parse request.encode.print = Request.parse shortRequest := by
  intro catalog request
  obtain ⟨-, restored, catalogs, requests⟩ := documents_survive_writing
  have catalogRead : Catalog.parse shortCatalog = .ok catalog := by decide +kernel
  have requestRead : Request.parse shortRequest = .ok request := by decide +kernel
  have catalogWritten : rewrite Catalog.parse Catalog.encode shortCatalog =
      .ok catalog.encode.print := by
    rw [rewrite, catalogRead]
    rfl
  have requestWritten : rewrite Request.parse Request.encode shortRequest =
      .ok request.encode.print := by
    rw [rewrite, requestRead]
    rfl
  exact ⟨catalogRead, requestRead, rfl, restored request rfl, catalogWritten,
    (catalogs _ _ catalogWritten).1, requestWritten, (requests _ _ requestWritten).1⟩

end AccessGraph
