import MailService.Postgres.Appends
/-!
# The dispatch worker

`dispatch_worker.go`: a command is claimed in one transaction, the provider is
called outside any, and its answer is recorded in a second one. Both
transactions read the message, decide, and write under the version they read.
Under READ COMMITTED the read and the writes may see different committed
states, so each function takes the state that its `GetByID` read and the state
that its writes meet.
-/
open Text Checks

namespace MailService

structure DispatchCommand where
  eventID : String
  tenantID : String
  messageID : String
  aggregateSequence : Nat
  dispatchGeneration : Nat
  deriving DecidableEq, Repr

def DispatchCommand.validate (c : DispatchCommand) : Except Error Unit := do
  check (isUUID c.eventID) (.invalidDispatchCommand "event id must be a UUID")
  check (isUUID c.tenantID) (.invalidDispatchCommand "tenant id must be a UUID")
  check (isUUID c.messageID) (.invalidDispatchCommand "message id must be a UUID")
  check (c.aggregateSequence ≠ 0 ∧ c.aggregateSequence ≤ maxInt64)
    (.invalidDispatchCommand "aggregate sequence must fit a positive PostgreSQL BIGINT")
  check (c.dispatchGeneration ≠ 0 ∧ c.dispatchGeneration ≤ maxInt64)
    (.invalidDispatchCommand "dispatch generation must fit a positive PostgreSQL BIGINT")

inductive DispatchDisposition
  | providerAccepted | retryScheduled | permanentlyFailed | submissionUnknown | deadLettered
  | expired | duplicate
  | stale
  deriving DecidableEq, Repr

structure DispatchResult where
  disposition : DispatchDisposition
  attemptID : String := ""
  attemptNumber : Nat := 0
  deriving DecidableEq, Repr

inductive DispatchErrorClass
  | transient | poison
  deriving DecidableEq, Repr

/-- `ClassifyDispatchError`: what redelivery cannot make valid is poison. -/
def classifyDispatchError : Error → DispatchErrorClass
  | .invalidDispatchCommand _ | .dispatchMessageMissing | .dispatchInvariant _ | .invalidDeliveryRetryDelay
  | .messageEventMapping _ | .noPendingMessageEvents | .invalidMessageRecord _ | .invalidDeliveryEvent _
  | .deliveryEventConflict | .invalidDeliveryAttempt _ | .invalidProviderRequest _
  | .invalidProviderResult _ => .poison
  | _ => .transient

/-! ## Writing a changed message -/

def saveMessageWithOutbox (L : Libs) (now : Time) (db : Db) (record : MessageRecord) : Except Error Db := do
  let mapped ← mapAllMessageEvents L record record.message.pendingEvents
  let db ← db.save record.message
  let db ← db.appendDeliveryEvents mapped.delivery
  db.appendOutbox now mapped.outbox

def saveMessageWithOutboxAndAttempt (L : Libs) (now : Time) (db : Db) (record : MessageRecord)
    (attempt : StartedDeliveryAttempt) : Except Error Db := do
  let mapped ← mapAllMessageEvents L record record.message.pendingEvents
  let db ← db.save record.message
  let db ← db.createStarted attempt
  let db ← db.appendDeliveryEvents mapped.delivery
  db.appendOutbox now mapped.outbox

/-! ## Claim -/

/-- A claim that started an attempt. -/
structure DispatchClaim where
  command : DispatchCommand
  attempt : StartedDeliveryAttempt
  record : MessageRecord
  deriving DecidableEq, Repr

inductive ClaimOutcome
  | resolved (result : DispatchResult)
  | started (claim : DispatchClaim)
  deriving DecidableEq, Repr

/-- The record a claim works on; a missing message has its own error. -/
def loadForClaim (read : Db) (messageID : String) : Except Error MessageRecord :=
  match read.getByID messageID with
  | .error .messageNotFound => .error .dispatchMessageMissing
  | result => result

def expireClaimed (L : Libs) (now : Time) (db : Db) (record : MessageRecord) :
    Except Error (Db × ClaimOutcome) :=
  match record.message.expire now with
  | (aggregate, .ok true) => do
    let db ← saveMessageWithOutbox L now db (record.withMessage aggregate)
    pure (db, .resolved { disposition := .expired })
  | _ => throw (.dispatchInvariant "queued message could not expire")

def startClaimed (L : Libs) (providerKey : String) (attemptID : Uuid) (now : Time) (db : Db)
    (command : DispatchCommand) (record : MessageRecord) : Except Error (Db × ClaimOutcome) :=
  match record.message.startSending command.dispatchGeneration now with
  | (_, .error _) => throw (.dispatchInvariant "queued message could not start sending")
  | (aggregate, .ok ()) => do
    let attempt : StartedDeliveryAttempt := {
      id := attemptID.text
      messageID := command.messageID
      attemptNumber := aggregate.attemptCount
      dispatchGeneration := command.dispatchGeneration
      providerKey := providerKey
      startedAt := now }
    attempt.validate.mapError fun _ => .dispatchInvariant "attempt"
    let record := record.withMessage aggregate
    let db ← saveMessageWithOutboxAndAttempt L now db record attempt
    pure (db, .started ⟨command, attempt, record.pulled⟩)

/-- `DispatchWorker.claim` at database time `now`. -/
def claim (L : Libs) (providerKey : String) (attemptID : Uuid) (command : DispatchCommand)
    (read : Db) (now : Time) (db : Db) : Except Error (Db × ClaimOutcome) := do
  let record ← loadForClaim read command.messageID
  check (record.tenantID = command.tenantID) (.dispatchInvariant "dispatch tenant does not own message")
  if command.dispatchGeneration < record.message.dispatchGeneration ∨
      command.aggregateSequence < record.message.latestSequence then
    pure (db, .resolved { disposition := .stale })
  else if record.message.dispatchGeneration < command.dispatchGeneration ∨
      record.message.latestSequence < command.aggregateSequence then
    throw (.dispatchInvariant "command generation/sequence is ahead of the message")
  else if record.message.status ≠ .queued then
    pure (db, .resolved { disposition := .duplicate })
  else if ¬ now < record.message.dispatchDeadline then expireClaimed L now db record
  else startClaimed L providerKey attemptID now db command record

/-! ## Building the request -/

/-- The error of a material build, as `materialBuildProviderResult` tells them
apart. -/
inductive MaterialError
  | material (code : String) (retryable : Bool)
  | deadlineExceeded
  | canceled
  | other
  deriving DecidableEq, Repr

def materialBuildProviderResult (e : MaterialError) : ProviderResult :=
  let (code, retryable) := match e with
    | .material code retryable =>
      if validStableCode code then (code, retryable) else ("MATERIAL_ERROR_INVALID", false)
    | .deadlineExceeded => ("MATERIAL_BUILD_TIMEOUT", true)
    | .canceled => ("MATERIAL_BUILD_CANCELED", true)
    | .other => ("MATERIAL_BUILD_INTERNAL", true)
  ⟨.failed, "", some ⟨.internal, code, retryable⟩⟩

def DispatchClaim.request (c : DispatchClaim) (material : DeliveryMaterial) : ProviderRequest where
  attemptID := c.attempt.id
  messageID := c.command.messageID
  tenantID := c.record.tenantID
  attemptNumber := c.attempt.attemptNumber
  dispatchGeneration := c.attempt.dispatchGeneration
  category := c.record.category
  duplicateRiskPolicy := c.record.duplicateRiskPolicy
  material := material

/-- What `Process` does with a built material: call the provider with the
request, or record a failure without calling it. -/
def prepareRequest (c : DispatchClaim) (built : Except MaterialError DeliveryMaterial) :
    Except ProviderResult ProviderRequest :=
  match built with
  | .error e => .error (materialBuildProviderResult e)
  | .ok material =>
    match material.validate with
    | .error _ => .error (materialBuildProviderResult .other)
    | .ok () =>
      match (c.request material).validate with
      | .error _ => .error (materialBuildProviderResult (.material "MATERIAL_OUTPUT_INVALID" false))
      | .ok () => .ok (c.request material)

/-- What `Process` makes of the provider's answer: an invalid one is recorded as
unknown if the call's context ended, and is an invariant violation otherwise. -/
def observeResult (result : ProviderResult) (contextError : Option ContextError) :
    Except Error ProviderResult :=
  match result.validate, contextError with
  | .ok (), _ => .ok result
  | .error _, none => .error (.dispatchInvariant "provider returned an invalid result")
  | .error _, some e =>
    let code := match e with
      | .deadlineExceeded => "PROVIDER_TIMEOUT_UNKNOWN"
      | .canceled => "PROVIDER_CANCELED_UNKNOWN"
    .ok ⟨.submissionUnknown, "", some ⟨.submissionUnknown, code, false⟩⟩

/-! ## Finalize -/

/-- A transition of the aggregate with the completion it goes with. -/
def finishAttempt {α : Type} (step : Message × Except MessageError α) (completion : CompleteDeliveryAttempt)
    (disposition : DispatchDisposition) :
    Except Error (Message × CompleteDeliveryAttempt × DispatchDisposition) :=
  match step with
  | (aggregate, .ok _) => .ok (aggregate, completion, disposition)
  | (_, .error e) => .error (.message e)

/-- `applyProviderResult`, with the delay that the retry policy returned. A
failure that a result must carry and does not is a nil dereference in the
source; `ProviderResult.validate` keeps such results away. -/
def applyProviderResult (aggregate : Message) (attempt : StartedDeliveryAttempt) (result : ProviderResult)
    (delay : Int) (now : Time) : Except Error (Message × CompleteDeliveryAttempt × DispatchDisposition) :=
  match result.outcome, result.failure with
  | .accepted, _ =>
    finishAttempt (aggregate.applyDeliveryFact ⟨.providerAccepted, now, result.providerMessageID⟩)
      ⟨attempt.id, .providerAccepted, now, result.providerMessageID, none⟩ .providerAccepted
  | .submissionUnknown, some failure =>
    finishAttempt (aggregate.markSubmissionUnknown failure now)
      ⟨attempt.id, .submissionUnknown, now, "", some failure⟩ .submissionUnknown
  | .failed, some failure =>
    let completion : CompleteDeliveryAttempt := ⟨attempt.id, .failed, now, "", some failure⟩
    if !failure.retryable then
      finishAttempt (aggregate.markPermanentlyFailed failure now) completion .permanentlyFailed
    else if aggregate.attemptCount < aggregate.maxAttempts then
      if delay ≤ 0 ∨ 24 * 3600 * 1000000000 < delay then .error .invalidDeliveryRetryDelay
      else if now + delay.toNat < aggregate.dispatchDeadline then
        finishAttempt (aggregate.scheduleRetry failure (now + delay.toNat) now) completion .retryScheduled
      else finishAttempt (aggregate.markDeadLettered failure now) completion .deadLettered
    else finishAttempt (aggregate.markDeadLettered failure now) completion .deadLettered
  | _, _ => .error (.dispatchInvariant "unexpected provider outcome")

/-- `DispatchWorker.finalize` at database time `now`. -/
def finalize (L : Libs) (c : DispatchClaim) (result : ProviderResult) (delay : Int) (read : Db) (now : Time)
    (db : Db) : Except Error (Db × DispatchResult) := do
  let record ← read.getByID c.command.messageID
  check (record.message.dispatchGeneration = c.attempt.dispatchGeneration ∧
      record.message.attemptCount = c.attempt.attemptNumber)
    (.dispatchInvariant "attempt fence no longer matches message")
  if record.message.status ≠ .sending then
    pure (db, ⟨.duplicate, c.attempt.id, c.attempt.attemptNumber⟩)
  else
    let (aggregate, completion, disposition) ←
      (applyProviderResult record.message c.attempt result delay now).mapError
        fun _ => .dispatchInvariant "provider result could not advance message"
    let mapped ← mapAllMessageEvents L (record.withMessage aggregate) aggregate.pendingEvents
    let db ← db.save aggregate
    let db ← db.complete completion
    let db ← db.appendDeliveryEvents mapped.delivery
    let db ← db.appendOutbox now mapped.outbox
    pure (db, ⟨disposition, c.attempt.id, c.attempt.attemptNumber⟩)

end MailService
