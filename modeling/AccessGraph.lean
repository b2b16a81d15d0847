import AccessGraph.Query.Basic
import AccessGraph.Graph.Decode
import AccessGraph.Discovery.Decode
import AccessGraph.Proofs.Sorting
import AccessGraph.Proofs.Permutation
import AccessGraph.Proofs.Text.Lowercase
import AccessGraph.Proofs.Graph.Naming
import AccessGraph.Proofs.Graph.Validity
import AccessGraph.Proofs.Graph.Details
import AccessGraph.Proofs.Graph.Gathering
import AccessGraph.Proofs.Graph.Canonical
import AccessGraph.Proofs.Graph.EdgeIds
import AccessGraph.Proofs.Catalog.Lookup
import AccessGraph.Proofs.Catalog.Selectors
import AccessGraph.Proofs.Catalog.Restriction
import AccessGraph.Proofs.Catalog.Rearrangement
import AccessGraph.Proofs.Catalog.Defects
import AccessGraph.Proofs.Catalog.Owners
import AccessGraph.Proofs.Catalog.Labels
import AccessGraph.Proofs.Aggregation.Selection
import AccessGraph.Proofs.Aggregation.Distance
import AccessGraph.Proofs.Aggregation.Clusters
import AccessGraph.Proofs.Aggregation.Closure
import AccessGraph.Proofs.Aggregation.Sources
import AccessGraph.Proofs.Aggregation.Faults
import AccessGraph.Proofs.Matching.Kept
import AccessGraph.Proofs.Matching.Provenance
import AccessGraph.Proofs.Matching.Phantoms
import AccessGraph.Proofs.Discovery.Insertions
import AccessGraph.Proofs.Discovery.Expansions
import AccessGraph.Proofs.Matching.Expansion
import AccessGraph.Proofs.Matching.Repetitions
import AccessGraph.Proofs.Matching.Marks
import AccessGraph.Proofs.Matching.Loosening
import AccessGraph.Proofs.Matching.Covering
import AccessGraph.Proofs.Scope
import AccessGraph.Proofs.Query.ReachSteps
import AccessGraph.Proofs.Query.AccountSteps
import AccessGraph.Proofs.Query.Reached
import AccessGraph.Proofs.Query.Placement
import AccessGraph.Proofs.Query.Coherence
import AccessGraph.Proofs.Query.Answer
import AccessGraph.Proofs.Query.Reachability
import AccessGraph.Proofs.Query.Confinement
import AccessGraph.Proofs.Query.Widening
import AccessGraph.Proofs.Query.ScopeOrder
import AccessGraph.Proofs.Query.RoleDetails
import AccessGraph.Proofs.Query.Loosening
import AccessGraph.Proofs.Query.Aggregates
import AccessGraph.Proofs.Query.RoleNodes
import AccessGraph.Proofs.Query.Recount
import AccessGraph.Proofs.Query.OrderIndependence
import AccessGraph.Proofs.Query.Defects
import AccessGraph.Proofs.Query.Counts
import AccessGraph.Proofs.Query.MapAgreement
import AccessGraph.Proofs.Query.Inheritance
import AccessGraph.Proofs.Query.Exposure
import AccessGraph.Proofs.Query.PodIds
import AccessGraph.Proofs.Query.NodeIds
import AccessGraph.Proofs.Query.PodAccounting
import AccessGraph.Proofs.Query.Links
import AccessGraph.Proofs.Query.OwnerChain
import AccessGraph.Proofs.Query.SharedNodes
import AccessGraph.Proofs.Json.Arrangement
import AccessGraph.Proofs.Json.Reading
import AccessGraph.Proofs.Json.Record
import AccessGraph.Proofs.Json.Plain
import AccessGraph.Proofs.Json.Spelling
import AccessGraph.Proofs.Json.Printing
import AccessGraph.Proofs.Json.Restoring
import AccessGraph.Proofs.Catalog.RoundTrip
import AccessGraph.Proofs.Request.RoundTrip
import AccessGraph.Proofs.Rule.Parts
import AccessGraph.Proofs.Rule.CrossProduct
import AccessGraph.Proofs.Rule.RoundTrip
import AccessGraph.Proofs.Graph.RoundTrip
