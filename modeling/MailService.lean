import MailService.Acceptance
import MailService.Admission
import MailService.Aggregate
import MailService.Agreement
import MailService.Api
import MailService.AtLeastOnce
import MailService.AtMostOnce
import MailService.Backoff
import MailService.Callbacks
import MailService.Canonical
import MailService.Catalog
import MailService.Changes
import MailService.Columns
import MailService.Concurrency
import MailService.Conflicts
import MailService.Custody
import MailService.Dispatching
import MailService.DueMessages
import MailService.Emission
import MailService.Envelope
import MailService.Events
import MailService.Evolution
import MailService.Facts
import MailService.Fingerprint
import MailService.Idempotency
import MailService.Identities
import MailService.Invariants
import MailService.Lanes
import MailService.LeaseFencing
import MailService.Leases
import MailService.Lib.Bucket
import MailService.Lib.Checks
import MailService.Lib.Json
import MailService.Lib.JsonCanon
import MailService.Lib.JsonDecode
import MailService.Lib.JsonNumbers
import MailService.Lib.JsonPaths
import MailService.Lib.JsonRoundTrip
import MailService.Lib.JsonSpelling
import MailService.Lib.Mail
import MailService.Lib.Pool
import MailService.Lib.Runs
import MailService.Lib.Sql
import MailService.Lib.Table
import MailService.Lib.Text
import MailService.Lib.Unique
import MailService.Lib.Uuid
import MailService.Lifecycle
import MailService.Limits
import MailService.Mapping
import MailService.Material
import MailService.Message
import MailService.Notification
import MailService.Origins
import MailService.Outbox
import MailService.PayloadIdentity
import MailService.Ports
import MailService.Postgres.Appends
import MailService.Postgres.Effects
import MailService.Postgres.Queues
import MailService.Postgres.Tables
import MailService.Postgres.TransactionManager
import MailService.Preparation
import MailService.Progress
import MailService.ProviderCalls
import MailService.Query
import MailService.Readability
import MailService.Refusals
import MailService.Rehydration
import MailService.Relay
import MailService.RelayRuns
import MailService.Replay
import MailService.Reporting
import MailService.Repository
import MailService.Requests
import MailService.Resilience.Breaker
import MailService.Resilience.Conformance
import MailService.Resilience.Gauge
import MailService.Resilience.Guard
import MailService.Resilience.RateLimit
import MailService.RoundTrip
import MailService.Scheduler
import MailService.Smtp
import MailService.Storage
import MailService.Submission
import MailService.Supervisor
import MailService.System
import MailService.Tenancy
import MailService.Totality
import MailService.Traces
import MailService.Transactions
import MailService.Views
import MailService.Wire
import MailService.Worker
