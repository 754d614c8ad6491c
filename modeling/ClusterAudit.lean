import ClusterAudit.Check.Scripted
import ClusterAudit.Config.Codec
import ClusterAudit.Config.Load
import ClusterAudit.Document.Json.Printer
import ClusterAudit.Resource.Codec
import ClusterAudit.Runner.Codec
import ClusterAudit.Store.Session
import ClusterAudit.Proofs.Dict
import ClusterAudit.Proofs.Store.Replay
import ClusterAudit.Proofs.Store.Clients
import ClusterAudit.Proofs.Store.Isolation
import ClusterAudit.Proofs.Store.Contents
import ClusterAudit.Proofs.Store.Index
import ClusterAudit.Proofs.Outcome
import ClusterAudit.Proofs.Store.Sorts
import ClusterAudit.Proofs.Suppression.Issues
import ClusterAudit.Proofs.Suppression.Collecting
import ClusterAudit.Proofs.Suppression.Removal
import ClusterAudit.Proofs.Counting
import ClusterAudit.Proofs.Containment
import ClusterAudit.Proofs.Store.Loading
import ClusterAudit.Proofs.Reference
import ClusterAudit.Proofs.Absence
import ClusterAudit.Proofs.Permutation
import ClusterAudit.Proofs.Rollup
import ClusterAudit.Proofs.Rating
import ClusterAudit.Proofs.Fate
import ClusterAudit.Proofs.Failure
import ClusterAudit.Proofs.InternalError
import ClusterAudit.Proofs.Collector
import ClusterAudit.Proofs.Store.Listing
import ClusterAudit.Proofs.Store.Schema
import ClusterAudit.Proofs.Missing
import ClusterAudit.Proofs.Score
import ClusterAudit.Proofs.Suppression.Growth
import ClusterAudit.Proofs.Text.Numeral
import ClusterAudit.Proofs.RoundTrip.Document
import ClusterAudit.Proofs.RoundTrip.Resource
import ClusterAudit.Proofs.RoundTrip.Config
import ClusterAudit.Proofs.RoundTrip
import ClusterAudit.Proofs.Suppression.Document
import ClusterAudit.Proofs.Suppression.Category
import ClusterAudit.Proofs.Suppression.Fault
import ClusterAudit.Proofs.Store.Lookup
import ClusterAudit.Proofs.Landing
import ClusterAudit.Proofs.Policy
import ClusterAudit.Proofs.Address.Inclusion
import ClusterAudit.Proofs.Address.Exceptions
import ClusterAudit.Proofs.Points
import ClusterAudit.Proofs.Tally.Compaction
import ClusterAudit.Proofs.Tally.Exact
import ClusterAudit.Proofs.Outcome.Tallying
import ClusterAudit.Proofs.Outcome.Filtering
import ClusterAudit.Proofs.Census
import ClusterAudit.Proofs.Score.Monotone
import ClusterAudit.Proofs.Overriding
import ClusterAudit.Proofs.Template
import ClusterAudit.Proofs.Selection
import ClusterAudit.Proofs.Image
import ClusterAudit.Proofs.Quantity
