/-
This file matches the rules of a bundle with a request.
-/

import AccessGraph.Matching.Annotation

namespace AccessGraph

/-- The grants that a request selects, and what is worth a word about them, each word once. -/
structure MatchOutcome where
  refs : List RuleRef
  warnings : List MatchWarning
deriving DecidableEq, Repr

namespace Matcher

/-- Of what a grant stands for, that part is listed which the request selects as well. -/
def expand (matcher : Matcher) (discovery : Discovery) (grant : RuleRef) :
    RuleRef × List MatchWarning :=
  let selected := (discovery.expansions grant).filter matcher.selects
  ({ grant with expandedRefs := selected.take expansionLimit },
    if expansionLimit < selected.length then
      [.truncated grant.apiGroup grant.resourceKey grant.verb]
    else [])

/-- A selected grant is marked and expanded. A phantom may be dropped, but not the warnings about
it. -/
def process (matcher : Matcher) (grant : RuleRef) : Option RuleRef × List MatchWarning :=
  match matcher.discovery with
  | none => (some grant, [])
  | some discovery =>
      let (marked, warnings) := discovery.annotate grant
      if matcher.filterPhantoms && marked.phantom then (none, warnings)
      else if matcher.expands && marked.hasWildcard then
        let (expanded, further) := matcher.expand discovery marked
        (some expanded, warnings ++ further)
      else (some marked, warnings)

def matchRules (matcher : Matcher) (rules : List SourcedRule) : MatchOutcome :=
  let selected := (rules.flatMap SourcedRule.refs).filter matcher.selects
  let processed := selected.map matcher.process
  ⟨processed.filterMap (·.1), distinctBy MatchWarning.message (processed.flatMap (·.2))⟩

end Matcher

end AccessGraph
