import Alert2IR.Api.App
import Alert2IR.Application.Availability
import Alert2IR.Application.Bookkeeping
import Alert2IR.Application.Budget
import Alert2IR.Application.CallSites
import Alert2IR.Application.Discipline
import Alert2IR.Application.Endings
import Alert2IR.Application.Fingerprinting
import Alert2IR.Application.Grounding
import Alert2IR.Application.Kinds
import Alert2IR.Application.Orchestrator
import Alert2IR.Application.Passes
import Alert2IR.Application.Persistence
import Alert2IR.Application.Processing
import Alert2IR.Application.Repository
import Alert2IR.Backends.Base
import Alert2IR.Backends.Configured
import Alert2IR.Backends.Mock
import Alert2IR.Backends.Velociraptor
import Alert2IR.Calendar.Gregorian
import Alert2IR.Calendar.Iso
import Alert2IR.Calendar.Rfc3339
import Alert2IR.Core.Digest
import Alert2IR.Core.Errors
import Alert2IR.Core.Http
import Alert2IR.Core.Models
import Alert2IR.Core.Policy
import Alert2IR.Core.Text
import Alert2IR.Core.Times
import Alert2IR.Core.Uuid
import Alert2IR.Core.Values
import Alert2IR.Core.Workflow
import Alert2IR.Firewall.Adapter
import Alert2IR.Firewall.Iptables
import Alert2IR.Guarantees.Acceptance
import Alert2IR.Guarantees.AcceptanceUnknown
import Alert2IR.Guarantees.Answers
import Alert2IR.Guarantees.Atomicity
import Alert2IR.Guarantees.Authentication
import Alert2IR.Guarantees.Boundary
import Alert2IR.Guarantees.Budget
import Alert2IR.Guarantees.Coherence
import Alert2IR.Guarantees.Collection
import Alert2IR.Guarantees.Convergence
import Alert2IR.Guarantees.Counting
import Alert2IR.Guarantees.Decoding
import Alert2IR.Guarantees.Deployments
import Alert2IR.Guarantees.Evidence
import Alert2IR.Guarantees.Fingerprints
import Alert2IR.Guarantees.Gateway
import Alert2IR.Guarantees.History
import Alert2IR.Guarantees.Identity
import Alert2IR.Guarantees.LocalInput
import Alert2IR.Guarantees.LostRaces
import Alert2IR.Guarantees.Migration
import Alert2IR.Guarantees.Outcomes
import Alert2IR.Guarantees.Polling
import Alert2IR.Guarantees.Reconciliation
import Alert2IR.Guarantees.Rejections
import Alert2IR.Guarantees.Replays
import Alert2IR.Guarantees.Responses
import Alert2IR.Guarantees.Resumption
import Alert2IR.Guarantees.ReturnedIds
import Alert2IR.Guarantees.Routing
import Alert2IR.Guarantees.Service
import Alert2IR.Guarantees.Starvation
import Alert2IR.Guarantees.Submission
import Alert2IR.Guarantees.Surfacing
import Alert2IR.Guarantees.Tearing
import Alert2IR.Guarantees.Timestamps
import Alert2IR.Guarantees.Twin
import Alert2IR.Guarantees.Velociraptor
import Alert2IR.Interleaving.Alone
import Alert2IR.Interleaving.Environment
import Alert2IR.Interleaving.Pool
import Alert2IR.Interleaving.Prog
import Alert2IR.Interleaving.Replay
import Alert2IR.Interleaving.Serving
import Alert2IR.Interleaving.Solo
import Alert2IR.Json.Text
import Alert2IR.Json.Transport
import Alert2IR.Json.Value
import Alert2IR.Lifecycle.Alone
import Alert2IR.Lifecycle.Determinism
import Alert2IR.Lifecycle.Entry
import Alert2IR.Lifecycle.Evolution
import Alert2IR.Lifecycle.Keys
import Alert2IR.Lifecycle.Operations
import Alert2IR.Lifecycle.Plans
import Alert2IR.Lifecycle.Resumption
import Alert2IR.Lifecycle.Runs
import Alert2IR.Lifecycle.Store
import Alert2IR.Main
import Alert2IR.Migrations.DurableExecution
import Alert2IR.Migrations.ProcessingRecords
import Alert2IR.Numeric.Rounding
import Alert2IR.Persistence.Codec
import Alert2IR.Persistence.Constraints
import Alert2IR.Persistence.Decoding
import Alert2IR.Persistence.Integrity
import Alert2IR.Persistence.Invariants
import Alert2IR.Persistence.Memory
import Alert2IR.Persistence.MemoryFrame
import Alert2IR.Persistence.MemoryLaw
import Alert2IR.Persistence.MemoryOutcomes
import Alert2IR.Persistence.Postgres
import Alert2IR.Persistence.PostgresLaw
import Alert2IR.Persistence.Raising
import Alert2IR.Persistence.Refusal
import Alert2IR.Persistence.Representation
import Alert2IR.Persistence.Rollback
import Alert2IR.Persistence.RollbackLaw
import Alert2IR.Persistence.Rows
import Alert2IR.Persistence.Scenario
import Alert2IR.Persistence.Schema
import Alert2IR.Persistence.Statements
import Alert2IR.Queueing.Rounds
import Alert2IR.Shell.Script
import Alert2IR.Splunk.Answer
import Alert2IR.Splunk.App
import Alert2IR.Splunk.Auth
import Alert2IR.Splunk.Canonical
import Alert2IR.Splunk.Client
import Alert2IR.Splunk.Delivery
import Alert2IR.Splunk.Document
import Alert2IR.Splunk.Hostnames
import Alert2IR.Splunk.Idempotency
import Alert2IR.Splunk.Mapping
import Alert2IR.Splunk.Models
import Alert2IR.Splunk.Sender
import Alert2IR.Splunk.Signing
import Alert2IR.Splunk.Timestamps
import Alert2IR.Sql.Table
import Alert2IR.Sql.Truth
