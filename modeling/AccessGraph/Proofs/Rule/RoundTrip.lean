/-
This file proves that a grant is read as it was written, with all the grants it stands for.
-/

import AccessGraph.Proofs.Json.Record
import AccessGraph.Rule.Codec

namespace AccessGraph.RuleRef

open Json (Arrangement)

/-- The grants that a grant stands for come last. -/
def expandedPart (grant : RuleRef) : Written RuleRef :=
  ⟨"expandedRefs", !grant.expandedRefs.isEmpty, .list encode grant.expandedRefs,
    ({ · with expandedRefs := grant.expandedRefs })⟩

/-- The fields of a grant in the order in which they are written. -/
def written (grant : RuleRef) : List (Written RuleRef) := [
  ⟨"apiGroup", true, .text grant.apiGroup, ({ · with apiGroup := grant.apiGroup })⟩,
  ⟨"resource", true, .text grant.resource, ({ · with resource := grant.resource })⟩,
  ⟨"subresource", !grant.subresource.isEmpty, .text grant.subresource,
    ({ · with subresource := grant.subresource })⟩,
  ⟨"verb", true, .text grant.verb, ({ · with verb := grant.verb })⟩,
  ⟨"resourceNames", !grant.resourceNames.isEmpty, Json.texts grant.resourceNames,
    ({ · with resourceNames := grant.resourceNames })⟩,
  ⟨"nonResourceURLs", !grant.nonResourceUrls.isEmpty, Json.texts grant.nonResourceUrls,
    ({ · with nonResourceUrls := grant.nonResourceUrls })⟩,
  ⟨"sourceBundle", grant.sourceBundle.isSome, Json.optional .text grant.sourceBundle,
    ({ · with sourceBundle := grant.sourceBundle })⟩,
  ⟨"sourceRuleIndex", grant.sourceRuleIndex.isSome,
    Json.optional Json.count grant.sourceRuleIndex,
    ({ · with sourceRuleIndex := grant.sourceRuleIndex })⟩,
  ⟨"phantom", grant.phantom, .boolean true, ({ · with phantom := grant.phantom })⟩,
  ⟨"unsupportedVerb", grant.unsupportedVerb, .boolean true,
    ({ · with unsupportedVerb := grant.unsupportedVerb })⟩,
  grant.expandedPart]

theorem encode_eq (grant : RuleRef) : grant.encode = .object (Written.members grant.written) := by
  cases grant
  simp only [encode, encodeAll_eq_map, Written.members, written, expandedPart, List.flatMap_cons,
    List.flatMap_nil, Json.member, Json.list, if_true, List.append_assoc, List.cons_append,
    List.nil_append, List.append_nil]

theorem written_nodup (grant : RuleRef) : (grant.written.map (·.name)).Nodup := by
  change ["apiGroup", "resource", "subresource", "verb", "resourceNames", "nonResourceURLs",
    "sourceBundle", "sourceRuleIndex", "phantom", "unsupportedVerb", "expandedRefs"].Nodup
  decide

/-- A grant is restored if the grants it stands for are. -/
theorem restores {arrangement : Arrangement} {expanded : Decoder RuleRef} {grant : RuleRef}
    (reads : ∀ inner ∈ grant.expandedRefs, expanded.Reads arrangement inner.encode inner) :
    (recordWith expanded).Restores arrangement grant.written grant where
  takes :=
    .cons (Field.takes_optional (fun _ => Decoder.reads_text _) nofun) <|
    .cons (Field.takes_optional (fun _ => Decoder.reads_text _) nofun) <|
    .cons (Field.takes_text rfl _) <|
    .cons (Field.takes_written (Decoder.reads_text _)) <|
    .cons (Field.takes_texts rfl _) <|
    .cons (Field.takes_texts rfl _) <|
    .cons (Field.takes_option rfl Decoder.reads_text nofun _) <|
    .cons (Field.takes_option rfl Decoder.reads_count nofun _) <|
    .cons (Field.takes_flag rfl _) <|
    .cons (Field.takes_flag rfl _) <|
    .cons (Field.takes_list rfl reads) .nil
  differ := grant.written_nodup
  commute := by
    simp [written, expandedPart, Written.Commute]
  whole := by
    cases grant
    rfl

/-- A grant inside another lies in a list in an object. -/
theorem depth_lt_of_mem_expandedRefs (arrangement : Arrangement) {grant inner : RuleRef}
    (listed : inner ∈ grant.expandedRefs) :
    (Document.ofJson (arrangement.apply inner.encode)).depth + 1 <
      (Document.ofJson (arrangement.apply grant.encode)).depth := by
  have isWritten : grant.expandedPart ∈ grant.written := by simp [written]
  have isKept : grant.expandedPart.kept = true := by
    simpa [expandedPart] using List.ne_nil_of_mem listed
  have inList := Document.depth_lt_of_mem_array arrangement
    (List.mem_map_of_mem (f := encode) listed)
  have inObject := Document.depth_lt_of_mem_object arrangement
    (Written.members_nodup grant.written_nodup) (Written.mem_members isWritten isKept)
  rw [encode_eq grant]
  exact Nat.lt_of_le_of_lt inList inObject

/-- A grant is read if the reader goes as deep as the document. -/
theorem decodeWithin_reads (arrangement : Arrangement) {depth : Nat} {grant : RuleRef}
    (within : (Document.ofJson (arrangement.apply grant.encode)).depth ≤ depth) :
    (decodeWithin depth).Reads arrangement grant.encode grant := by
  induction depth generalizing grant with
  | zero =>
      -- What is written of a grant is an object, which is never this flat.
      obtain ⟨shown, shows, -⟩ :=
        arrangement.object _ (Written.members_nodup grant.written_nodup)
      rw [encode_eq, shows, Document.ofJson, Document.depth] at within
      exact absurd within (Nat.not_succ_le_zero _)
  | succ depth inductionHypothesis =>
      rw [encode_eq]
      refine (restores fun inner listed => inductionHypothesis ?_).reads
      have deeper := depth_lt_of_mem_expandedRefs arrangement listed
      omega

/-- A grant is read as it was written, however deep the grants lie that it stands for. -/
theorem decode_reads (arrangement : Arrangement) (grant : RuleRef) :
    decode.Reads arrangement grant.encode grant :=
  fun origin => decodeWithin_reads arrangement (Nat.le_succ _) origin

end AccessGraph.RuleRef
