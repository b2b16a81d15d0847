/-
This file reads single grants from documents and writes them as values.
-/

import AccessGraph.Rule.Ref
import AccessGraph.Json.Decode
import AccessGraph.Json.Encode

namespace AccessGraph.RuleRef

open Decoder

/-- The grants that a grant stands for are read by the given decoder. -/
def recordWith (expanded : Decoder RuleRef) : Record RuleRef where
  title := "struct RuleRef"
  blank := .empty
  fields := [
    .optional "apiGroup" text fun value grant => { grant with apiGroup := value },
    .optional "resource" text fun value grant => { grant with resource := value },
    .optional "subresource" text fun value grant => { grant with subresource := value },
    .needed "verb" text fun value grant => { grant with verb := value },
    .optional "resourceNames" (list text) fun value grant => { grant with resourceNames := value },
    .optional "nonResourceURLs" (list text) fun value grant =>
      { grant with nonResourceUrls := value },
    .optional "sourceBundle" (option text) fun value grant => { grant with sourceBundle := value },
    .optional "sourceRuleIndex" (option count) fun value grant =>
      { grant with sourceRuleIndex := value },
    .optional "phantom" boolean fun value grant => { grant with phantom := value },
    .optional "unsupportedVerb" boolean fun value grant =>
      { grant with unsupportedVerb := value },
    .optional "expandedRefs" (list expanded) fun value grant =>
      { grant with expandedRefs := value }]

/-- Grants lie inside one another no deeper than the parts of the document do. -/
def decodeWithin : Nat → Decoder RuleRef
  | 0 => fun _ document => mismatch "struct RuleRef" document
  | depth + 1 => (recordWith (decodeWithin depth)).decode

def decode : Decoder RuleRef := fun origin document =>
  decodeWithin (document.depth + 1) origin document

mutual

/-- What is empty, false or unknown is left out. -/
def encode : RuleRef → Json
  | ⟨apiGroup, resource, subresource, verb, resourceNames, nonResourceUrls, sourceBundle,
      sourceRuleIndex, phantom, unsupportedVerb, expandedRefs⟩ =>
      .object (
        [("apiGroup", .text apiGroup), ("resource", .text resource)] ++
        Json.member (!subresource.isEmpty) "subresource" (.text subresource) ++
        [("verb", .text verb)] ++
        Json.member (!resourceNames.isEmpty) "resourceNames" (Json.texts resourceNames) ++
        Json.member (!nonResourceUrls.isEmpty) "nonResourceURLs" (Json.texts nonResourceUrls) ++
        Json.member sourceBundle.isSome "sourceBundle" (Json.optional .text sourceBundle) ++
        Json.member sourceRuleIndex.isSome "sourceRuleIndex"
          (Json.optional Json.count sourceRuleIndex) ++
        Json.member phantom "phantom" (.boolean true) ++
        Json.member unsupportedVerb "unsupportedVerb" (.boolean true) ++
        Json.member (!expandedRefs.isEmpty) "expandedRefs" (.array (encodeAll expandedRefs)))

def encodeAll : List RuleRef → List Json
  | [] => []
  | grant :: rest => grant.encode :: encodeAll rest

end

theorem encodeAll_eq_map (grants : List RuleRef) : encodeAll grants = grants.map encode := by
  induction grants with
  | nil => rfl
  | cons grant rest inductionHypothesis => rw [encodeAll, inductionHypothesis, List.map_cons]

end AccessGraph.RuleRef
