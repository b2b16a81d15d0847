/-
This file resolves aggregation: a cluster role with an aggregation rule takes over the rules of the
cluster roles that its selectors select, and of those that these take over, and so on.
-/

import AccessGraph.Aggregation.Exploration
import AccessGraph.Rule.Normalize

namespace AccessGraph

/-- What is worth a word about an aggregation rule. -/
inductive AggregationWarning where
  | invalidSelector (name : String) (fault : RequirementFault)
  | nothingSelected (name : String)
deriving DecidableEq, Repr

def AggregationWarning.message : AggregationWarning → String
  | .invalidSelector name fault =>
      "clusterrole/" ++ name ++ " has invalid aggregation selector: " ++ fault.message
  | .nothingSelected name =>
      "clusterrole/" ++ name ++ " aggregation selectors matched no cluster roles"

def emptyRulesGap (name : String) : String :=
  "clusterrole/" ++ name ++ " has aggregationRule but resolved rules are empty"

namespace LabelSelector

/-- The candidates that a selector selects, up to the first at which it turns out malformed. -/
def selectFrom (selector : LabelSelector) :
    List (String × Bundle) → List String × Option RequirementFault
  | [] => ([], none)
  | (id, candidate) :: rest =>
      match selector.selects candidate.labels with
      | .error fault => ([], some fault)
      | .ok selected =>
          let (ids, fault) := selector.selectFrom rest
          (if selected then id :: ids else ids, fault)

end LabelSelector

namespace Bundle

/-- The rules of a bundle, with their positions. -/
def sourcedRules (bundle : Bundle) (id : String) : List SourcedRule :=
  bundle.rules.mapIdx fun index rule => ⟨rule, id, index⟩

/-- All other cluster bundles are candidates for an aggregation rule. -/
def candidates (bundles : SortedMap Bundle) (target : String) : List (String × Bundle) :=
  bundles.entries.filter fun entry => entry.2.isClusterScoped && entry.1 != target

/-- What each selector of a bundle selects. -/
def selections (bundles : SortedMap Bundle) (target : String) (bundle : Bundle) :
    List (List String × Option RequirementFault) :=
  bundle.selectors.map fun selector => selector.selectFrom (candidates bundles target)

/-- The bundles that some selector selects, in ascending order. -/
def selected (bundles : SortedMap Bundle) (target : String) (bundle : Bundle) : List String :=
  let selections := bundle.selections bundles target
  ((candidates bundles target).map (·.1)).filter fun id =>
    selections.any (·.1.contains id)

def aggregationWarnings (bundles : SortedMap Bundle) (target : String) (bundle : Bundle) :
    List AggregationWarning :=
  (bundle.selections bundles target).filterMap
      (fun selection => selection.2.map (.invalidSelector bundle.name)) ++
    if (bundle.selected bundles target).isEmpty then [.nothingSelected bundle.name] else []

end Bundle

/-- What aggregation makes of the bundles: what each aggregated bundle selects, which of these are
shown as its sources, and the rules it ends up with. -/
structure Aggregation where
  selected : SortedMap (List String)
  sources : SortedMap (List String)
  rules : SortedMap (List SourcedRule)
  warnings : List AggregationWarning
  knownGaps : List String
deriving DecidableEq, Repr

namespace Aggregation

/-- Bundles that are not aggregated select nothing. -/
def next (selected : SortedMap (List String)) (id : String) : List String :=
  (selected.get? id).getD []

/-- A bundle and all whose rules it takes over, the nearest first. No chain of them is longer than
there are bundles. -/
def closure (bundles : SortedMap Bundle) (selected : SortedMap (List String)) (target : String) :
    List String :=
  explore (next selected) bundles.entries.length target

/-- The rules of a bundle itself come first, and then those of the others, the nearest first. A rule
that occurs again is left out. -/
def merge (bundles : SortedMap Bundle) (closure : List String) : List SourcedRule :=
  distinctBy SourcedRule.rule
    (closure.flatMap fun id =>
      match bundles.get? id with
      | some bundle => bundle.sourcedRules id
      | none => [])

/-- A bundle takes over another if it or one whose rules it takes over selects it. -/
def takesOver (selected : SortedMap (List String)) (closures : SortedMap (List String))
    (target source : String) : Bool :=
  ((closures.get? target).getD []).any fun id => (next selected id).contains source

/-- A source that itself takes over the target is not shown, so that no circle is. -/
def shown (selected : SortedMap (List String)) (closures : SortedMap (List String))
    (target : String) (ids : List String) : List String :=
  ids.filter fun id => !takesOver selected closures id target

def resolve (bundles : SortedMap Bundle) : Aggregation :=
  let selected := bundles.filterMap fun id bundle =>
    if bundle.hasAggregationRule then some (bundle.selected bundles id) else none
  let closures := selected.filterMap fun id _ => some (closure bundles selected id)
  let rules := closures.filterMap fun _ closure => some (merge bundles closure)
  let aggregated := bundles.entries.filter (·.2.hasAggregationRule)
  let empty := aggregated.filter fun entry => (rules.get? entry.1).any (·.isEmpty)
  { selected := selected
    sources := selected.filterMap fun id ids => some (shown selected closures id ids)
    rules := rules
    warnings :=
      distinctBy AggregationWarning.message
        (aggregated.flatMap fun entry => entry.2.aggregationWarnings bundles entry.1)
    knownGaps := distinct (empty.map fun entry => emptyRulesGap entry.2.name) }

def isAggregated (aggregation : Aggregation) (id : String) : Bool :=
  aggregation.selected.contains id

def sourcesOf (aggregation : Aggregation) (id : String) : List String :=
  (aggregation.sources.get? id).getD []

/-- A bundle that is not aggregated has its own rules alone. -/
def effectiveRules (aggregation : Aggregation) (id : String) (bundle : Bundle) :
    List SourcedRule :=
  match aggregation.rules.get? id with
  | some rules => rules
  | none => bundle.sourcedRules id

end Aggregation

end AccessGraph
