import MailService.Lib.Text
/-!
# The message aggregate

`internal/domain/message`: the lifecycle of one logical email. A method with a
pointer receiver is a function from the aggregate to the aggregate it leaves
and its result, so that what an error leaves behind can be stated.

An instant is its distance in nanoseconds from Go's zero time, which makes
`IsZero` the test for `0` and `UTC` the identity. The counters are `Nat`: what
bounds them is proved of the reachable messages, and the storage mapping checks
the ranges of their columns.
-/
open Text

namespace MailService

/-- `time.Time`, as nanoseconds since the zero time. -/
abbrev Time := Nat

/-- `Status`; `unknown` is any text that is no constant of the enumeration, the
zero value `""` among them. -/
inductive Status
  | accepted | scheduled | queued | sending | retryScheduled | submissionUnknown
  | providerAccepted | delivered | bounced | complained | canceled | expired
  | permanentlyFailed | deadLettered | unknownFinal
  | unknown (value : String)
  deriving DecidableEq, Repr

namespace Status

def text : Status → String
  | accepted => "ACCEPTED"
  | scheduled => "SCHEDULED"
  | queued => "QUEUED"
  | sending => "SENDING"
  | retryScheduled => "RETRY_SCHEDULED"
  | submissionUnknown => "SUBMISSION_UNKNOWN"
  | providerAccepted => "PROVIDER_ACCEPTED"
  | delivered => "DELIVERED"
  | bounced => "BOUNCED"
  | complained => "COMPLAINED"
  | canceled => "CANCELED"
  | expired => "EXPIRED"
  | permanentlyFailed => "PERMANENTLY_FAILED"
  | deadLettered => "DEAD_LETTERED"
  | unknownFinal => "UNKNOWN_FINAL"
  | unknown value => value

def valid : Status → Bool
  | unknown _ => false
  | _ => true

end Status

/-- `Terminal`: no further transition is expected. -/
def Status.terminal : Status → Bool
  | .bounced | .complained | .canceled | .expired | .permanentlyFailed | .deadLettered | .unknownFinal => true
  | _ => false

def oneOf (value : Status) (candidates : List Status) : Bool := candidates.contains value

/-- The edges of the state machine. -/
def canTransition : Status → Status → Bool
  | .accepted, target => oneOf target [.scheduled, .queued, .canceled, .expired]
  | .scheduled, target => oneOf target [.queued, .canceled, .expired]
  | .queued, target => oneOf target [.sending, .canceled, .expired]
  | .sending, target =>
    oneOf target [.retryScheduled, .submissionUnknown, .providerAccepted, .delivered, .bounced,
      .complained, .permanentlyFailed, .deadLettered]
  | .retryScheduled, target => oneOf target [.queued, .canceled, .expired, .deadLettered]
  | .submissionUnknown, target =>
    oneOf target [.retryScheduled, .providerAccepted, .delivered, .bounced, .complained,
      .permanentlyFailed, .unknownFinal]
  | .providerAccepted, target => oneOf target [.delivered, .bounced, .complained]
  | .delivered, target => target == .complained
  | _, _ => false

/-- `FailureCategory`, with the texts outside the enumeration as `unknown`. -/
inductive FailureCategory
  | validation | authentication | rateLimited | recipientRejected | contentRejected
  | providerDown | network | timeoutBeforeSend | submissionUnknown | internal
  | unknown (value : String)
  deriving DecidableEq, Repr

namespace FailureCategory

def text : FailureCategory → String
  | validation => "VALIDATION"
  | authentication => "AUTHENTICATION"
  | rateLimited => "RATE_LIMITED"
  | recipientRejected => "RECIPIENT_REJECTED"
  | contentRejected => "CONTENT_REJECTED"
  | providerDown => "PROVIDER_UNAVAILABLE"
  | network => "NETWORK"
  | timeoutBeforeSend => "TIMEOUT_BEFORE_SEND"
  | submissionUnknown => "SUBMISSION_UNKNOWN"
  | internal => "INTERNAL"
  | unknown value => value

def valid : FailureCategory → Bool
  | unknown _ => false
  | _ => true

end FailureCategory

structure Failure where
  category : FailureCategory
  code : String
  retryable : Bool
  deriving DecidableEq, Repr

/-- Go's zero `Failure`. -/
def Failure.zero : Failure := ⟨.unknown "", "", false⟩

/-- The errors of `error.go`, with the text that wraps the sentinel. -/
inductive MessageError
  | invalidMessage (detail : String)
  | invalidStatus (status : Status)
  | invalidTransition (source target : Status)
  | dispatchDeadlineExceeded
  | dispatchDeadlineNotMet
  | staleDispatchGeneration (got current : Nat)
  | attemptLimitReached
  | failureNotRetryable
  | invalidRetryTime
  | tooLateToCancel
  | invalidDeliveryFact (detail : String)
  deriving DecidableEq, Repr

def Failure.validate (f : Failure) : Except MessageError Unit :=
  if !f.category.valid then .error (.invalidMessage "invalid failure category")
  else if trimSpace f.code = "" ∨ len f.code > 128 then
    .error (.invalidMessage "failure code must contain 1..128 bytes")
  else .ok ()

inductive EventKind
  | messageAccepted | statusChanged | dispatchRequested
  deriving DecidableEq, Repr

def EventKind.text : EventKind → String
  | messageAccepted => "MESSAGE_ACCEPTED"
  | statusChanged => "MESSAGE_STATUS_CHANGED"
  | dispatchRequested => "MESSAGE_DISPATCH_REQUESTED"

/-- `message.Event`. -/
structure Event where
  kind : EventKind
  messageID : String
  source : Status
  target : Status
  occurredAt : Time
  sequence : Nat
  dispatchGeneration : Nat
  attemptNumber : Nat
  providerMessageID : String
  reasonCode : String
  failure : Failure
  deriving DecidableEq, Repr

structure EventDetails where
  kind : EventKind
  providerMessageID : String := ""
  reasonCode : String := ""
  failure : Failure := .zero

/-- The persisted fields of the aggregate. -/
structure Snapshot where
  id : String
  status : Status
  scheduledAt : Option Time
  dispatchDeadline : Time
  nextAttemptAt : Option Time
  attemptCount : Nat
  maxAttempts : Nat
  dispatchGeneration : Nat
  providerAcceptedAt : Option Time
  providerMessageID : String
  latestSequence : Nat
  version : Nat
  acceptedAt : Time
  updatedAt : Time
  lastFailure : Option Failure
  deriving DecidableEq, Repr

/-- `Message`: the persisted fields and the events not yet pulled. -/
structure Message extends Snapshot where
  pendingEvents : List Event
  deriving DecidableEq, Repr

namespace Message

/-- `Message.Snapshot`. -/
abbrev snapshot (m : Message) : Snapshot := m.toSnapshot

def changeStatus (m : Message) (target : Status) (occurredAt : Time) (details : EventDetails) : Message :=
  { m with
    status := target
    updatedAt := occurredAt
    latestSequence := m.latestSequence + 1
    pendingEvents := m.pendingEvents ++ [{
      kind := details.kind
      messageID := m.id
      source := m.status
      target := target
      occurredAt := occurredAt
      sequence := m.latestSequence + 1
      dispatchGeneration := m.dispatchGeneration
      attemptNumber := m.attemptCount
      providerMessageID := details.providerMessageID
      reasonCode := details.reasonCode
      failure := details.failure }] }

def requestDispatch (m : Message) (now : Time) : Message :=
  { m with
    pendingEvents := m.pendingEvents ++ [{
      kind := .dispatchRequested
      messageID := m.id
      source := m.status
      target := m.status
      occurredAt := now
      sequence := m.latestSequence
      dispatchGeneration := m.dispatchGeneration
      attemptNumber := m.attemptCount
      providerMessageID := ""
      reasonCode := ""
      failure := .zero }] }

/-- `PullEvents`: the events so far, which the message then forgets. -/
def pullEvents (m : Message) : Message × List Event := ({ m with pendingEvents := [] }, m.pendingEvents)

/-! ## Transitions -/

def queue (m : Message) (now : Time) : Message × Except MessageError Unit :=
  if ¬ now < m.dispatchDeadline then (m, .error .dispatchDeadlineExceeded)
  else if !canTransition m.status .queued then (m, .error (.invalidTransition m.status .queued))
  else
    let m := { m with dispatchGeneration := m.dispatchGeneration + 1, nextAttemptAt := none }
    ((m.changeStatus .queued now { kind := .statusChanged }).requestDispatch now, .ok ())

def startSending (m : Message) (generation : Nat) (now : Time) : Message × Except MessageError Unit :=
  if m.status ≠ .queued then (m, .error (.invalidTransition m.status .sending))
  else if generation ≠ m.dispatchGeneration then
    (m, .error (.staleDispatchGeneration generation m.dispatchGeneration))
  else if ¬ now < m.dispatchDeadline then (m, .error .dispatchDeadlineExceeded)
  else if m.attemptCount ≥ m.maxAttempts then (m, .error .attemptLimitReached)
  else
    let m := { m with attemptCount := m.attemptCount + 1 }
    (m.changeStatus .sending now { kind := .statusChanged }, .ok ())

def scheduleRetry (m : Message) (failure : Failure) (nextAttemptAt now : Time) :
    Message × Except MessageError Unit :=
  if !oneOf m.status [.sending, .submissionUnknown] then
    (m, .error (.invalidTransition m.status .retryScheduled))
  else match failure.validate with
  | .error e => (m, .error e)
  | .ok () =>
    if !failure.retryable then (m, .error .failureNotRetryable)
    else if m.attemptCount ≥ m.maxAttempts then (m, .error .attemptLimitReached)
    else if ¬ now < nextAttemptAt ∨ ¬ nextAttemptAt < m.dispatchDeadline then (m, .error .invalidRetryTime)
    else
      let m := { m with nextAttemptAt := some nextAttemptAt, lastFailure := some failure }
      (m.changeStatus .retryScheduled now { kind := .statusChanged, failure := failure }, .ok ())

def markSubmissionUnknown (m : Message) (failure : Failure) (now : Time) :
    Message × Except MessageError Unit :=
  if m.status ≠ .sending then (m, .error (.invalidTransition m.status .submissionUnknown))
  else match failure.validate with
  | .error e => (m, .error e)
  | .ok () =>
    if failure.category ≠ .submissionUnknown then
      (m, .error (.invalidMessage "submission-unknown transition requires matching failure category"))
    else
      let m := { m with lastFailure := some failure }
      (m.changeStatus .submissionUnknown now { kind := .statusChanged, failure := failure }, .ok ())

def markPermanentlyFailed (m : Message) (failure : Failure) (now : Time) :
    Message × Except MessageError Unit :=
  if !oneOf m.status [.sending, .submissionUnknown] then
    (m, .error (.invalidTransition m.status .permanentlyFailed))
  else match failure.validate with
  | .error e => (m, .error e)
  | .ok () =>
    let m := { m with lastFailure := some failure, nextAttemptAt := none }
    (m.changeStatus .permanentlyFailed now { kind := .statusChanged, failure := failure }, .ok ())

def markDeadLettered (m : Message) (failure : Failure) (now : Time) : Message × Except MessageError Unit :=
  if !oneOf m.status [.sending, .retryScheduled] then
    (m, .error (.invalidTransition m.status .deadLettered))
  else match failure.validate with
  | .error e => (m, .error e)
  | .ok () =>
    let m := { m with lastFailure := some failure, nextAttemptAt := none }
    (m.changeStatus .deadLettered now { kind := .statusChanged, failure := failure }, .ok ())

def markUnknownFinal (m : Message) (failure : Failure) (now : Time) : Message × Except MessageError Unit :=
  if m.status ≠ .submissionUnknown then (m, .error (.invalidTransition m.status .unknownFinal))
  else match failure.validate with
  | .error e => (m, .error e)
  | .ok () =>
    let m := { m with lastFailure := some failure }
    (m.changeStatus .unknownFinal now { kind := .statusChanged, failure := failure }, .ok ())

/-- `Cancel`: whether the call canceled the message. -/
def cancel (m : Message) (reasonCode : String) (now : Time) : Message × Except MessageError Bool :=
  if m.status = .canceled then (m, .ok false)
  else if !oneOf m.status [.accepted, .scheduled, .queued, .retryScheduled] then (m, .error .tooLateToCancel)
  else if len reasonCode > 128 ∨ containsAny reasonCode ['\r', '\n'] then
    (m, .error (.invalidMessage "invalid cancel reason code"))
  else
    let m := { m with nextAttemptAt := none }
    (m.changeStatus .canceled now { kind := .statusChanged, reasonCode := reasonCode }, .ok true)

def expire (m : Message) (now : Time) : Message × Except MessageError Bool :=
  if m.status = .expired then (m, .ok false)
  else if now < m.dispatchDeadline then (m, .error .dispatchDeadlineNotMet)
  else if !oneOf m.status [.accepted, .scheduled, .queued, .retryScheduled] then
    (m, .error (.invalidTransition m.status .expired))
  else
    let m := { m with nextAttemptAt := none }
    (m.changeStatus .expired now { kind := .statusChanged }, .ok true)

end Message

/-- `DeliveryFactKind`, with the texts outside the enumeration as `unknown`. -/
inductive DeliveryFactKind
  | providerAccepted | delivered | bounced | complained
  | unknown (value : String)
  deriving DecidableEq, Repr

structure DeliveryFact where
  kind : DeliveryFactKind
  occurredAt : Time
  providerMessageID : String
  deriving DecidableEq, Repr

inductive ApplyResult
  | applied | duplicate | ignoredRegression
  deriving DecidableEq, Repr

def deliveryFactTarget : DeliveryFactKind → Option Status
  | .providerAccepted => some .providerAccepted
  | .delivered => some .delivered
  | .bounced => some .bounced
  | .complained => some .complained
  | .unknown _ => none

def observationWouldRegress : Status → Status → Bool
  | .providerAccepted, target => target == .providerAccepted
  | .delivered, target => oneOf target [.providerAccepted, .delivered, .bounced]
  | .bounced, target => oneOf target [.providerAccepted, .delivered, .bounced, .complained]
  | .complained, _ => true
  | _, _ => false

namespace Message

def applyDeliveryFact (m : Message) (fact : DeliveryFact) : Message × Except MessageError ApplyResult :=
  if fact.occurredAt = 0 then (m, .error (.invalidDeliveryFact "occurred_at is required"))
  else match deliveryFactTarget fact.kind with
  | none => (m, .error (.invalidDeliveryFact "kind"))
  | some target =>
    if m.status = target then (m, .ok .duplicate)
    else if observationWouldRegress m.status target then (m, .ok .ignoredRegression)
    else if !canTransition m.status target then (m, .error (.invalidTransition m.status target))
    else
      let m := { m with
        providerMessageID :=
          if fact.providerMessageID ≠ "" ∧ m.providerMessageID = "" then fact.providerMessageID
          else m.providerMessageID
        providerAcceptedAt :=
          if target = Status.providerAccepted ∧ m.providerAcceptedAt = none then some fact.occurredAt
          else m.providerAcceptedAt
        lastFailure := none
        nextAttemptAt := none }
      (m.changeStatus target fact.occurredAt
        { kind := .statusChanged, providerMessageID := fact.providerMessageID }, .ok .applied)

end Message

/-! ## Creation and rehydration -/

structure NewParams where
  id : String
  now : Time
  scheduledAt : Option Time
  dispatchDeadline : Time
  maxAttempts : Nat

/-- `New`: an accepted message, routed at once to SCHEDULED or QUEUED. -/
def Message.new (params : NewParams) : Except MessageError Message :=
  if trimSpace params.id = "" then .error (.invalidMessage "id is required")
  else if params.now = 0 ∨ params.dispatchDeadline = 0 then
    .error (.invalidMessage "now and dispatch deadline are required")
  else if ¬ params.now < params.dispatchDeadline then
    .error (.invalidMessage "deadline must be after acceptance")
  else if params.maxAttempts = 0 then
    .error (.invalidMessage "max attempts must be greater than zero")
  else if params.scheduledAt.any (fun value => !decide (value < params.dispatchDeadline)) then
    .error (.invalidMessage "scheduled time must be before deadline")
  else
    let message : Message := {
      id := params.id, status := .unknown "", scheduledAt := params.scheduledAt
      dispatchDeadline := params.dispatchDeadline, nextAttemptAt := none, attemptCount := 0
      maxAttempts := params.maxAttempts, dispatchGeneration := 0, providerAcceptedAt := none
      providerMessageID := "", latestSequence := 0, version := 0, acceptedAt := params.now
      updatedAt := params.now, lastFailure := none, pendingEvents := [] }
    let message := message.changeStatus .accepted params.now { kind := .messageAccepted }
    if params.scheduledAt.any (params.now < ·) then
      .ok (message.changeStatus .scheduled params.now { kind := .statusChanged })
    else match message.queue params.now with
    | (message, .ok ()) => .ok message
    | (_, .error e) => .error e

def requiresDispatchGeneration (status : Status) : Bool :=
  oneOf status [.queued, .sending, .retryScheduled, .submissionUnknown, .providerAccepted, .delivered,
    .bounced, .complained, .permanentlyFailed, .deadLettered, .unknownFinal]

def requiresAttempt (status : Status) : Bool :=
  oneOf status [.sending, .retryScheduled, .submissionUnknown, .providerAccepted, .delivered, .bounced,
    .complained, .permanentlyFailed, .deadLettered, .unknownFinal]

def validateSnapshot (s : Snapshot) : Except MessageError Unit :=
  if trimSpace s.id = "" then .error (.invalidMessage "id is required")
  else if !s.status.valid then .error (.invalidStatus s.status)
  else if s.acceptedAt = 0 ∨ s.updatedAt = 0 ∨ s.dispatchDeadline = 0 then
    .error (.invalidMessage "persisted timestamps are required")
  else if ¬ s.acceptedAt < s.dispatchDeadline then
    .error (.invalidMessage "deadline must be after acceptance")
  else if s.updatedAt < s.acceptedAt then
    .error (.invalidMessage "updated time precedes acceptance")
  else if s.maxAttempts = 0 ∨ s.attemptCount > s.maxAttempts then
    .error (.invalidMessage "invalid attempt counters")
  else if s.scheduledAt.any (fun value => !decide (value < s.dispatchDeadline)) then
    .error (.invalidMessage "scheduled time must be before deadline")
  else if s.nextAttemptAt.any (fun value => !decide (value < s.dispatchDeadline)) then
    .error (.invalidMessage "retry time must be before deadline")
  else if requiresDispatchGeneration s.status && s.dispatchGeneration == 0 then
    .error (.invalidMessage "dispatch generation is required for active dispatch state")
  else if requiresAttempt s.status && s.attemptCount == 0 then
    .error (.invalidMessage "dispatch state requires an attempt")
  else if s.status == .retryScheduled && s.nextAttemptAt.isNone then
    .error (.invalidMessage "retry-scheduled state requires next attempt time")
  else if s.latestSequence = 0 then
    .error (.invalidMessage "latest sequence must be greater than zero")
  else match s.lastFailure with
  | some failure => failure.validate
  | none => .ok ()

/-- `Restore`: an aggregate from its persisted fields, with no pending event. -/
def restore (s : Snapshot) : Except MessageError Message :=
  match validateSnapshot s with
  | .error e => .error e
  | .ok () => .ok { s with pendingEvents := [] }

end MailService
