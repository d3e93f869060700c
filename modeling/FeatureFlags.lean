import FeatureFlags.Admin
import FeatureFlags.Cache.Timeline
import FeatureFlags.CommandLine.Execution
import FeatureFlags.Condition.Evaluation
import FeatureFlags.Condition.Operator
import FeatureFlags.Config.Basic
import FeatureFlags.Database.Stitching
import FeatureFlags.Flag.Record
import FeatureFlags.Json.Parser
import FeatureFlags.Json.Printer
import FeatureFlags.Main
import FeatureFlags.Proofs.Batch
import FeatureFlags.Proofs.Cache.Bookkeeping
import FeatureFlags.Proofs.Cache.Delivery
import FeatureFlags.Proofs.Cache.Deployment
import FeatureFlags.Proofs.Cache.FailClosed
import FeatureFlags.Proofs.Cache.Operation
import FeatureFlags.Proofs.Cache.Readiness
import FeatureFlags.Proofs.Cache.Reads
import FeatureFlags.Proofs.Cache.Replies
import FeatureFlags.Proofs.Cache.Reports
import FeatureFlags.Proofs.Cache.Requests
import FeatureFlags.Proofs.Cache.Traffic
import FeatureFlags.Proofs.Cache.Unwatched
import FeatureFlags.Proofs.Cache.Watching
import FeatureFlags.Proofs.Checksum
import FeatureFlags.Proofs.Condition.Comparison
import FeatureFlags.Proofs.Condition.Failure
import FeatureFlags.Proofs.Condition.Lookup
import FeatureFlags.Proofs.Condition.Membership
import FeatureFlags.Proofs.Database.Coercion
import FeatureFlags.Proofs.Database.Completeness
import FeatureFlags.Proofs.Database.Deletion
import FeatureFlags.Proofs.Database.Export
import FeatureFlags.Proofs.Database.Interleaving
import FeatureFlags.Proofs.Flag.Assignment
import FeatureFlags.Proofs.Flag.FirstMatch
import FeatureFlags.Proofs.Flag.RampUp
import FeatureFlags.Proofs.Flag.Reading
import FeatureFlags.Proofs.Flag.Relevance
import FeatureFlags.Proofs.Flag.Resolution
import FeatureFlags.Proofs.Flag.SourceOrder
import FeatureFlags.Proofs.Identifier
import FeatureFlags.Proofs.Json.Reading
import FeatureFlags.Proofs.Number.RoundTrip
import FeatureFlags.Proofs.Number.Rounding
import FeatureFlags.Proofs.Operand.Grammar
import FeatureFlags.Proofs.Operand.Reading
import FeatureFlags.Proofs.Operand.RoundTrip
import FeatureFlags.Proofs.Rollout.Acceptance
import FeatureFlags.Proofs.Rollout.Bucket
import FeatureFlags.Proofs.Rollout.Exposure
import FeatureFlags.Proofs.Snapshot.Batch
import FeatureFlags.Proofs.Snapshot.Independence
import FeatureFlags.Proofs.Snapshot.NormalForm
import FeatureFlags.Proofs.Snapshot.RoundTrip
import FeatureFlags.Proofs.Snapshot.TagQuery
import FeatureFlags.Proofs.Text.Blank
import FeatureFlags.Proofs.Timestamp.Reading
import FeatureFlags.Proofs.Wire
import FeatureFlags.Rollout
import FeatureFlags.Startup
import FeatureFlags.Text.CaseFolding
import FeatureFlags.Text.Class
