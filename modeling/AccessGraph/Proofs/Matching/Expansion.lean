/-
This file says what a grant with wildcards lists: the grants that it stands for and that the request
selects, all of them or as many as may be listed.
-/

import AccessGraph.Proofs.Discovery.Expansions
import AccessGraph.Proofs.Matching.Kept

namespace AccessGraph

namespace Matcher

section

variable (matcher : Matcher) (discovery : Discovery) (grant : RuleRef)

/-- A grant stands for a single grant that is selected by itself. -/
structure IsCandidate (single : RuleRef) : Prop where
  standsFor : discovery.StandsFor grant single
  selected : matcher.selects single = true

/-- All candidates in the order in which they are found. -/
def candidates : List RuleRef :=
  (discovery.expansions grant).filter matcher.selects

/-- A grant lists candidates alone, no more of them than are allowed, and all of them if there is room
for more. -/
structure ListsExactly : Prop where
  sound : ∀ single ∈ grant.expandedRefs, IsCandidate matcher discovery grant single
  bounded : grant.expandedRefs.length ≤ expansionLimit
  complete : grant.expandedRefs.length < expansionLimit →
    ∀ single, IsCandidate matcher discovery grant single → single ∈ grant.expandedRefs

/-- A grant lists as many candidates as are allowed, and a further one comes after them. It is not among
them if the catalog is tidy. -/
structure Truncates : Prop where
  full : grant.expandedRefs.length = expansionLimit
  further : ∃ single, IsCandidate matcher discovery grant single ∧
    grant.expandedRefs ++ [single] <+: matcher.candidates discovery grant ∧
    (discovery.Tidy → single ∉ grant.expandedRefs)

end

section

variable {matcher : Matcher} {discovery : Discovery} {grant : RuleRef}

theorem mem_candidates_iff (built : discovery.Built) (wild : grant.hasWildcard = true)
    {single : RuleRef} :
    single ∈ matcher.candidates discovery grant ↔ IsCandidate matcher discovery grant single := by
  rw [candidates, List.mem_filter, Discovery.mem_expansions_iff built wild]
  exact ⟨fun given => ⟨given.1, given.2⟩, fun candidate => ⟨candidate.standsFor, candidate.selected⟩⟩

/-- A grant that lists the first candidates lists them exactly. -/
theorem listsExactly_of_take (built : discovery.Built) (wild : grant.hasWildcard = true)
    (first : grant.expandedRefs = (matcher.candidates discovery grant).take expansionLimit) :
    ListsExactly matcher discovery grant where
  sound := by
    intro single listed
    rw [first] at listed
    exact (mem_candidates_iff built wild).mp (List.mem_of_mem_take listed)
  bounded := by
    rw [first]
    exact List.length_take_le _ _
  complete := by
    intro room single candidate
    rw [first, List.length_take] at room
    rw [first, List.take_of_length_le (by omega)]
    exact (mem_candidates_iff built wild).mpr candidate

/-- Something is left out when there are more candidates than may be listed. -/
theorem truncates_of_take (built : discovery.Built) (wild : grant.hasWildcard = true)
    (first : grant.expandedRefs = (matcher.candidates discovery grant).take expansionLimit)
    (more : expansionLimit < (matcher.candidates discovery grant).length) :
    Truncates matcher discovery grant where
  full := by
    rw [first, List.length_take]
    omega
  further := by
    have listed : grant.expandedRefs ++ [(matcher.candidates discovery grant)[expansionLimit]] =
        (matcher.candidates discovery grant).take (expansionLimit + 1) := by
      rw [first, List.take_append_getElem]
    have start : grant.expandedRefs ++ [(matcher.candidates discovery grant)[expansionLimit]] <+:
        matcher.candidates discovery grant := by
      rw [listed]
      exact List.take_prefix _ _
    refine ⟨_, (mem_candidates_iff built wild).mp (List.getElem_mem more), start, ?_⟩
    intro tidy again
    have distinct := ((tidy.expansions_nodup grant).filter matcher.selects).sublist start.sublist
    exact (List.nodup_append.mp distinct).2.2 _ again _ (List.mem_singleton_self _) rfl

theorem Truncates.more (truncates : Truncates matcher discovery grant) :
    expansionLimit < (matcher.candidates discovery grant).length := by
  obtain ⟨single, -, start, -⟩ := truncates.further
  have lengths := start.length_le
  have full := truncates.full
  simp only [List.length_append, List.length_singleton] at lengths
  omega

/-- What becomes of a grant: it is dropped, it is kept because it has no wildcards, or it is expanded. -/
theorem process_cases (known : matcher.discovery = some discovery)
    (mode : matcher.expands = true) (grant : RuleRef) :
    (∃ warnings, matcher.process grant = (none, warnings) ∧
      warnings = (discovery.annotate grant).2) ∨
    (∃ marked, (discovery.annotate grant).1 = marked ∧ marked.hasWildcard = false ∧
      matcher.process grant = (some marked, (discovery.annotate grant).2)) ∨
    ∃ marked, (discovery.annotate grant).1 = marked ∧ marked.hasWildcard = true ∧
      matcher.process grant = (some (matcher.expand discovery marked).1,
        (discovery.annotate grant).2 ++ (matcher.expand discovery marked).2) := by
  rw [process, known]
  dsimp only
  split
  · exact .inl ⟨_, rfl, rfl⟩
  · cases wild : (discovery.annotate grant).1.hasWildcard with
    | false => exact .inr (.inl ⟨_, rfl, wild, by simp⟩)
    | true => exact .inr (.inr ⟨_, rfl, wild, by simp [mode]⟩)

/-- Marks are never put on a grant because too much is listed. -/
theorem truncated_not_mem_annotate (discovery : Discovery) (grant : RuleRef)
    (group resource verb : String) :
    .truncated group resource verb ∉ (discovery.annotate grant).2 := by
  unfold Discovery.annotate
  split
  · split
    · exact List.not_mem_nil
    · simp
  · split
    · rename_i warning found
      intro member
      rw [List.mem_singleton] at member
      subst member
      unfold Discovery.unknownPart at found
      split at found
      · cases found
      · split at found
        · cases found
        · split at found <;> cases found
    · exact List.not_mem_nil

theorem listsExactly_expand (built : discovery.Built) (wild : grant.hasWildcard = true) :
    ListsExactly matcher discovery (matcher.expand discovery grant).1 :=
  listsExactly_of_take built wild rfl

/-- What is said about an expansion is that it leaves something out. -/
theorem mem_expand_warnings_iff (built : discovery.Built) (wild : grant.hasWildcard = true)
    {warning : MatchWarning} : warning ∈ (matcher.expand discovery grant).2 ↔
      warning = .truncated grant.apiGroup grant.resourceKey grant.verb ∧
        Truncates matcher discovery (matcher.expand discovery grant).1 := by
  have truncates : Truncates matcher discovery (matcher.expand discovery grant).1 ↔
      expansionLimit < ((discovery.expansions grant).filter matcher.selects).length := by
    have expandedWild : (matcher.expand discovery grant).1.hasWildcard = true := wild
    exact ⟨fun truncates => truncates.more, truncates_of_take built expandedWild rfl⟩
  rw [truncates, expand]
  split
  · rename_i more
    simp [more]
  · rename_i room
    simp [room]

/-- Whatever is found with a wildcard comes from a grant that is expanded. -/
theorem exists_expand_of_mem_matchRules (known : matcher.discovery = some discovery)
    (mode : matcher.expands = true) {rules : List SourcedRule}
    (found : grant ∈ (matcher.matchRules rules).refs) (wild : grant.hasWildcard = true) :
    ∃ marked, marked.hasWildcard = true ∧ grant = (matcher.expand discovery marked).1 ∧
      ∀ warning ∈ (matcher.expand discovery marked).2,
        warning.message ∈ (matcher.matchRules rules).warnings.map MatchWarning.message := by
  simp only [matchRules, List.mem_filterMap, List.mem_map] at found
  obtain ⟨_, ⟨held, selected, rfl⟩, processed⟩ := found
  rcases process_cases known mode held with ⟨_, dropped, -⟩ | ⟨marked, -, plain, kept⟩ |
    ⟨marked, -, expands, expanded⟩
  · simp [dropped] at processed
  · rw [kept] at processed
    cases Option.some.inj processed
    simp [plain] at wild
  · rw [expanded] at processed
    refine ⟨marked, expands, (Option.some.inj processed).symm, ?_⟩
    intro warning said
    rw [matchRules, key_mem_distinctBy]
    apply List.mem_map_of_mem
    simp only [List.mem_flatMap, List.mem_map]
    exact ⟨_, ⟨held, selected, rfl⟩, by simp [expanded, said]⟩

/-- Where something is said to be left out, it is left out of a grant that is found. -/
theorem exists_expand_of_mem_warnings (known : matcher.discovery = some discovery)
    (mode : matcher.expands = true) {rules : List SourcedRule} {group resource verb : String}
    (said : .truncated group resource verb ∈ (matcher.matchRules rules).warnings) :
    ∃ marked, marked.hasWildcard = true ∧
      (matcher.expand discovery marked).1 ∈ (matcher.matchRules rules).refs ∧
      .truncated group resource verb ∈ (matcher.expand discovery marked).2 := by
  have every := (distinctBy_sublist MatchWarning.message _).subset said
  simp only [List.mem_flatMap, List.mem_map] at every
  obtain ⟨_, ⟨held, selected, rfl⟩, here⟩ := every
  have unmarked := truncated_not_mem_annotate discovery held group resource verb
  rcases process_cases known mode held with ⟨_, dropped, rfl⟩ | ⟨marked, -, -, kept⟩ |
    ⟨marked, -, expands, expanded⟩
  · rw [dropped] at here
    exact absurd here unmarked
  · rw [kept] at here
    exact absurd here unmarked
  · rw [expanded] at here
    refine ⟨marked, expands, ?_, (List.mem_append.mp here).resolve_left unmarked⟩
    simp only [matchRules, List.mem_filterMap, List.mem_map]
    exact ⟨_, ⟨held, selected, rfl⟩, by rw [expanded]⟩

end

end Matcher

/-- Every grant with wildcards that is found lists exactly the single grants that it stands for and that
are selected, up to the limit; and it is said of a grant that something is left out exactly when a
further one comes after those that are listed. -/
theorem matchRules_lists_exactly {request : Request} (mode : request.wildcardMode = .expand)
    {discovery : Discovery} (built : discovery.Built) (serves : discovery.isEmpty = false)
    (rules : List SourcedRule) :
    (∀ grant ∈ ((Matcher.of request (some discovery)).matchRules rules).refs,
      grant.hasWildcard = true →
        Matcher.ListsExactly (.of request (some discovery)) discovery grant ∧
        (Matcher.Truncates (.of request (some discovery)) discovery grant →
          (MatchWarning.truncated grant.apiGroup grant.resourceKey grant.verb).message ∈
            ((Matcher.of request (some discovery)).matchRules rules).warnings.map
              MatchWarning.message)) ∧
    ∀ group resource verb, .truncated group resource verb ∈
        ((Matcher.of request (some discovery)).matchRules rules).warnings →
      ∃ grant ∈ ((Matcher.of request (some discovery)).matchRules rules).refs,
        grant.hasWildcard = true ∧ grant.apiGroup = group ∧ grant.resourceKey = resource ∧
          grant.verb = verb ∧ Matcher.Truncates (.of request (some discovery)) discovery grant := by
  have known : (Matcher.of request (some discovery)).discovery = some discovery := by
    simp [Matcher.of, serves]
  have expands : (Matcher.of request (some discovery)).expands = true := by
    simp [Matcher.expands, Matcher.of, mode]
  constructor
  · intro grant found wild
    obtain ⟨marked, wildMarked, rfl, said⟩ :=
      Matcher.exists_expand_of_mem_matchRules known expands found wild
    refine ⟨Matcher.listsExactly_expand built wildMarked, fun truncates => ?_⟩
    exact said _ ((Matcher.mem_expand_warnings_iff built wildMarked).mpr ⟨rfl, truncates⟩)
  · intro group resource verb said
    obtain ⟨marked, wild, found, here⟩ :=
      Matcher.exists_expand_of_mem_warnings known expands said
    obtain ⟨same, truncates⟩ := (Matcher.mem_expand_warnings_iff built wild).mp here
    cases same
    exact ⟨_, found, wild, rfl, rfl, rfl, truncates⟩

/-- A cluster that serves pods and deployments. -/
def smallDiscovery : Discovery :=
  .ofEntries
    [⟨"", "pods", ["get", "list"]⟩, ⟨"", "pods/log", ["get"]⟩,
      ⟨"apps", "deployments", ["get", "patch"]⟩]
    ["/healthz"]

/-- Everything may be read everywhere. -/
def readEverything : SourcedRule :=
  ⟨⟨["*"], ["*"], ["get"], [], []⟩, "clusterrole:reader", 0⟩

/-- What may be read everywhere is what this cluster serves for reading, but for subresources. -/
theorem matchRules_lists_exactly_readEverything :
    Request.standard.wildcardMode = .expand ∧ smallDiscovery.Built ∧
    smallDiscovery.isEmpty = false ∧
    ∃ grant ∈ ((Matcher.of Request.standard (some smallDiscovery)).matchRules
        [readEverything]).refs,
      grant.hasWildcard = true ∧
      grant.expandedRefs.map (fun single => (single.apiGroup, single.resource, single.verb)) =
        [("", "pods", "get"), ("apps", "deployments", "get")] ∧
      Matcher.ListsExactly (.of Request.standard (some smallDiscovery)) smallDiscovery grant := by
  have mode : Request.standard.wildcardMode = .expand := rfl
  have built : smallDiscovery.Built := Discovery.ofEntries_built _ _
  have serves : smallDiscovery.isEmpty = false := by decide +kernel
  obtain ⟨lists, -⟩ := matchRules_lists_exactly mode built serves [readEverything]
  have found : ∃ grant ∈ ((Matcher.of Request.standard (some smallDiscovery)).matchRules
      [readEverything]).refs, grant.hasWildcard = true ∧
        grant.expandedRefs.map (fun single => (single.apiGroup, single.resource, single.verb)) =
          [("", "pods", "get"), ("apps", "deployments", "get")] := by
    decide +kernel
  obtain ⟨grant, member, wild, listed⟩ := found
  exact ⟨mode, built, serves, grant, member, wild, listed, (lists grant member wild).1⟩

end AccessGraph
