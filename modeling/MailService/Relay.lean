import MailService.Postgres.Queues
/-!
# The outbox relay

`outbox_relay.go`: a batch of pending rows is leased under a fresh token, each
row is published outside any transaction, and what came of it is recorded in a
transaction of its own, fenced by the token and the attempt number.
-/
open Text Checks

namespace MailService

structure OutboxRelayConfig where
  instanceID : String
  batchSize : Nat
  publishConcurrency : Nat
  leaseDuration : Nat
  publishTimeout : Nat
  maxAttempts : Nat
  deriving DecidableEq, Repr

/-- `OutboxRelayConfig.Validate`. -/
def OutboxRelayConfig.valid (c : OutboxRelayConfig) : Bool :=
  trimSpace c.instanceID ≠ "" ∧ trimSpace c.instanceID = c.instanceID ∧ len c.instanceID ≤ 200 ∧
  containsAny c.instanceID ['\r', '\n', '/'] = false ∧
  c.batchSize ≠ 0 ∧ c.batchSize ≤ 1000 ∧
  c.publishConcurrency ≠ 0 ∧ c.publishConcurrency ≤ c.batchSize ∧
  second ≤ c.leaseDuration ∧ c.leaseDuration ≤ 3600 * second ∧
  0 < c.publishTimeout ∧ c.publishTimeout < c.leaseDuration ∧
  c.maxAttempts ≠ 0 ∧ c.maxAttempts ≤ maxInt32

/-! ## Claim -/

def validateClaimedOutboxBatch (batch : OutboxClaimBatch) (leaseToken : String) : Except Error Unit := do
  if batch.events = [] then pure ()
  else
    check (batch.evaluatedAt ≠ 0) (.outboxRelayInvariant "claim batch has no database timestamp")
    batch.events.forM fun leased => do
      leased.validate.mapError fun _ => .outboxRelayInvariant "invalid leased event"
      check (leased.leaseToken = leaseToken) (.outboxRelayInvariant "claim token does not match batch")
      check (batch.evaluatedAt < leased.leaseUntil) (.outboxRelayInvariant "lease is not after claim time")

/-- The token of one run: the instance and a random UUID. -/
def OutboxRelayConfig.leaseToken (c : OutboxRelayConfig) (run : Uuid) : String :=
  c.instanceID ++ "/" ++ run.text

/-- The first transaction of `OutboxRelay.RunOnce`, at database time `now`. -/
def claimBatch (c : OutboxRelayConfig) (run : Uuid) (locked : String → Bool) (now : Time) (db : Db) :
    Except Error (Db × List LeasedOutboxEvent) := do
  let (db, batch) ← db.claimPending ⟨c.leaseToken run, c.leaseDuration, c.batchSize⟩ now locked
  validateClaimedOutboxBatch batch (c.leaseToken run)
  pure (db, batch.events)

/-! ## Publish -/

/-- How a publication failed: with a transport code, or without one. -/
inductive PublishError
  | typed (code : String) (retryable : Bool)
  | untyped
  deriving DecidableEq, Repr

def classifyPublishFailure (publishError : PublishError) (publishContextError : Option ContextError) :
    String × Bool :=
  match publishContextError, publishError with
  | some .deadlineExceeded, _ => ("PUBLISH_TIMEOUT", true)
  | some .canceled, _ => ("PUBLISH_CANCELED", true)
  | none, .typed code retryable =>
    if validStableCode code then (code, retryable) else ("PUBLISH_INTERNAL", true)
  | none, .untyped => ("PUBLISH_INTERNAL", true)

/-- What the relay asks the database to record. -/
inductive Completion
  | published
  | retried (delay : Nat) (errorCode : String)
  | deadLettered (errorCode : String)
  deriving DecidableEq, Repr

/-- The decision of `publishOne` after `Publish`, with the delay that the retry
policy returned. -/
def decideCompletion (maxAttempts attemptNumber : Nat) (published : Except PublishError Unit)
    (publishContextError : Option ContextError) (delay : Int) : Except Error Completion :=
  match published with
  | .ok () => .ok .published
  | .error e =>
    let (code, retryable) := classifyPublishFailure e publishContextError
    if !retryable ∨ maxAttempts ≤ attemptNumber then .ok (.deadLettered code)
    else if delay < 0 ∨ 24 * 3600 * (second : Int) < delay then .error .invalidOutboxRetryDelay
    else .ok (.retried delay.toNat code)

/-! ## Record -/

def LeasedOutboxEvent.reference (e : LeasedOutboxEvent) : OutboxLeaseReference :=
  ⟨e.event.id, e.leaseToken, e.attemptNumber⟩

/-- The transaction of `completePublished`, `completeReschedule` or
`completeDeadLetter`. -/
def recordCompletion (reference : OutboxLeaseReference) (now : Time) (db : Db) : Completion → Except Error Db
  | .published => db.markPublished reference now
  | .retried delay errorCode => db.reschedule reference delay errorCode now
  | .deadLettered errorCode => db.deadLetter reference errorCode

inductive RelayOutcome
  | published | retried | deadLettered | leaseLost
  | failed (error : Error)
  deriving DecidableEq, Repr

def Completion.success : Completion → RelayOutcome
  | published => .published
  | retried _ _ => .retried
  | deadLettered _ => .deadLettered

/-- `completionOutcome`: a lost lease is an outcome of its own, not an error. -/
def completionOutcome {α : Type} (success : RelayOutcome) : Except Error α → RelayOutcome
  | .ok _ => success
  | .error .outboxLeaseLost => .leaseLost
  | .error e => .failed e

end MailService
