import HermesRpt.Auth.Attempts
import HermesRpt.Auth.Credentials
import HermesRpt.Auth.Exchange
import HermesRpt.Auth.Provenance
import HermesRpt.Auth.RateLimit
import HermesRpt.Auth.Revocation
import HermesRpt.Auth.Service
import HermesRpt.Auth.Steps
import HermesRpt.Auth.Tokens
import HermesRpt.Common.AuditTrail
import HermesRpt.Common.Logging
import HermesRpt.Common.Redaction
import HermesRpt.Connections.Accounting
import HermesRpt.Connections.Freshness
import HermesRpt.Connections.Secrets
import HermesRpt.Connections.Validated
import HermesRpt.Datasets.Accounting
import HermesRpt.Datasets.Builder
import HermesRpt.Datasets.Checksum
import HermesRpt.Datasets.DateOrdering
import HermesRpt.Datasets.Pinning
import HermesRpt.Datasets.Splits
import HermesRpt.Extraction.Agreement
import HermesRpt.Extraction.Allowlist
import HermesRpt.Extraction.AsOf
import HermesRpt.Extraction.Cutoff
import HermesRpt.Extraction.Degradation
import HermesRpt.Extraction.FilteredCount
import HermesRpt.Extraction.Filters
import HermesRpt.Extraction.Isolation
import HermesRpt.Extraction.Meaning
import HermesRpt.Extraction.MissingLineage
import HermesRpt.Extraction.OwnLabel
import HermesRpt.Extraction.PlanAgreement
import HermesRpt.Extraction.Recipes
import HermesRpt.Extraction.Recorded
import HermesRpt.Extraction.Success
import HermesRpt.Extraction.Suggested
import HermesRpt.Features.Planner
import HermesRpt.Inference.Accounts
import HermesRpt.Inference.Breaker
import HermesRpt.Inference.Derivation
import HermesRpt.Inference.Explanation
import HermesRpt.Inference.FailureIsolation
import HermesRpt.Inference.Failures
import HermesRpt.Inference.Idempotent
import HermesRpt.Inference.Ledger
import HermesRpt.Inference.Models
import HermesRpt.Inference.Outline
import HermesRpt.Inference.Provenance
import HermesRpt.Inference.Replays
import HermesRpt.Inference.Service
import HermesRpt.Inference.Trials
import HermesRpt.Lib.Best
import HermesRpt.Lib.CommitLog
import HermesRpt.Lib.EventLog
import HermesRpt.Lib.FixedWindow
import HermesRpt.Lib.Index
import HermesRpt.Lib.Invariant
import HermesRpt.Lib.JsonText
import HermesRpt.Lib.Noninterference
import HermesRpt.Lib.Pattern
import HermesRpt.Lib.Ranking
import HermesRpt.Lib.Reordered
import HermesRpt.Lib.Scan
import HermesRpt.Lib.UnitOfWork
import HermesRpt.Lifecycle.AuditTrail
import HermesRpt.Lifecycle.Availability
import HermesRpt.Lifecycle.Concurrency
import HermesRpt.Lifecycle.Confinement
import HermesRpt.Lifecycle.Coverage
import HermesRpt.Lifecycle.Drift
import HermesRpt.Lifecycle.Noninterference
import HermesRpt.Lifecycle.References
import HermesRpt.Lifecycle.Review
import HermesRpt.Lifecycle.Submission
import HermesRpt.Lifecycle.Suspension
import HermesRpt.Lifecycle.Uniqueness
import HermesRpt.Mappings.Footprint
import HermesRpt.Mappings.Identifiers
import HermesRpt.Mappings.Matching
import HermesRpt.Models.Metrics
import HermesRpt.Models.Training
import HermesRpt.Monitoring.Outcomes
import HermesRpt.Registry.AuditTrail
import HermesRpt.Registry.ChecksumCoverage
import HermesRpt.Registry.Interleaving
import HermesRpt.Registry.Isolation
import HermesRpt.Registry.Servable
import HermesRpt.Schemas.Agreement
import HermesRpt.Schemas.ColumnDrift
import HermesRpt.Schemas.Confidentiality
import HermesRpt.Schemas.DriftOrder
import HermesRpt.Schemas.Faithfulness
import HermesRpt.Schemas.ForeignKeys
import HermesRpt.Schemas.Jobs
import HermesRpt.Schemas.Renames
import HermesRpt.Schemas.Reordering
import HermesRpt.Services
import HermesRpt.Transformer.Encoding
import HermesRpt.Transformer.Frame
import HermesRpt.Transformer.Layout
import HermesRpt.Transformer.Masking
import HermesRpt.Transformer.PointInTime
import HermesRpt.Transformer.Pretraining
import HermesRpt.Transformer.PretrainingConsent
import HermesRpt.Transformer.Readable
import HermesRpt.Transformer.Relations
import HermesRpt.Transformer.TemporalOrder
