import MailService.Lib.Checks
import MailService.Lib.Json
import MailService.Lib.Mail
import MailService.Lib.Uuid
import MailService.Message
import Mathlib.Data.List.Infix
/-!
# Ports

`internal/application/ports`: the records that cross the application's
boundaries, their validators and the errors they are reported with. A byte
string is a `String` where it is text and a list of bytes where it is not; a
JSON document is its text.
-/
open Text Checks

namespace MailService

abbrev Bytes := List UInt8

/-- How the context of a call ended. -/
inductive ContextError
  | deadlineExceeded | canceled
  deriving DecidableEq, Repr

/-- An HMAC-SHA256 value, `[32]byte`. -/
abbrev Fingerprint := BitVec 256

/-- One constructor for each sentinel error, with the text that wraps it, and one for those
of a context. -/
inductive Error
  | invalidSubmission (detail : String)
  | submissionInvariant (detail : String)
  | templateNotFound
  | templateNotAllowed
  | templateVariables
  | senderIdentityNotAllowed
  | payloadProtection (detail : String)
  | payloadKeyUnavailable
  | payloadAuthentication
  | invalidProtectedPayload (detail : String)
  | invalidMessageRecord (detail : String)
  | corruptMessageRecord (detail : String)
  | messageNotFound
  | concurrentUpdate
  | idempotencyConflict
  | messageIDConflict
  | messageRepository (operation : String)
  | message (error : MessageError)
  | noPendingMessageEvents
  | messageEventMapping (detail : String)
  | invalidDeliveryEvent (detail : String)
  | deliveryEventConflict
  | deliveryEventRepository (operation : String)
  | invalidOutboxEvent (detail : String)
  | outboxConflict
  | outboxIDConflict
  | outboxRepository (operation : String)
  | invalidDeliveryAttempt (detail : String)
  | deliveryAttemptConflict
  | deliveryAttemptRepository (operation : String)
  | invalidProviderRequest (detail : String)
  | invalidProviderResult (detail : String)
  | invalidDispatchCommand (detail : String)
  | dispatchMessageMissing
  | dispatchInvariant (detail : String)
  | invalidDeliveryRetryDelay
  | deliveryMaterial (code : String) (retryable : Bool)
  | invalidDueMessageQuery
  | schedulerInvariant (detail : String)
  | invalidEmailQuery (detail : String)
  | invalidOutboxDelivery (detail : String)
  | corruptOutboxDelivery (detail : String)
  | outboxDeliveryRepository (operation : String)
  | outboxLeaseLost
  | invalidOutboxRetryDelay
  | outboxRelayInvariant (detail : String)
  | dueMessageRepository (operation : String)
  | transactionClock (operation : String)
  | transaction (operation : String)
  | context (error : ContextError)
  deriving DecidableEq, Repr

/-- What `uuid.Parse` accepts. -/
def isUUID (s : String) : Bool := (Uuid.parse s).isSome

def maxInt32 : Nat := 2 ^ 31 - 1

def maxInt64 : Nat := 2 ^ 63 - 1

/-! ## Message records -/

inductive EmailCategory
  | critical | transactional | notification | bulk
  | unknown (value : String)
  deriving DecidableEq, Repr

namespace EmailCategory

def text : EmailCategory → String
  | critical => "CRITICAL"
  | transactional => "TRANSACTIONAL"
  | notification => "NOTIFICATION"
  | bulk => "BULK"
  | unknown value => value

def valid : EmailCategory → Bool
  | unknown _ => false
  | _ => true

end EmailCategory

inductive DuplicateRiskPolicy
  | avoidDuplicate | preferDelivery
  | unknown (value : String)
  deriving DecidableEq, Repr

namespace DuplicateRiskPolicy

def text : DuplicateRiskPolicy → String
  | avoidDuplicate => "AVOID_DUPLICATE"
  | preferDelivery => "PREFER_DELIVERY"
  | unknown value => value

def valid : DuplicateRiskPolicy → Bool
  | unknown _ => false
  | _ => true

end DuplicateRiskPolicy

/-- A text of `1..limit` bytes that is not blank. -/
def notBlankWithin (s : String) (limit : Nat) : Prop := trimSpace s ≠ "" ∧ len s ≤ limit

instance (s : String) (limit : Nat) : Decidable (notBlankWithin s limit) :=
  inferInstanceAs (Decidable (_ ∧ _))

/-- A text of `1..limit` bytes without surrounding white space. -/
def trimmedWithin (s : String) (limit : Nat) : Prop := trimSpace s ≠ "" ∧ trimSpace s = s ∧ len s ≤ limit

instance (s : String) (limit : Nat) : Decidable (trimmedWithin s limit) :=
  inferInstanceAs (Decidable (_ ∧ _ ∧ _))

/-- The text of a JSON object (`json.Unmarshal` into a map that is then not nil). -/
def isJSONObject (s : String) : Bool := (Json.parse s).any Json.Value.isObject

structure SubmissionDetails where
  senderIdentityKey : String
  templateKey : String
  templateVersion : Nat
  locale : String
  recipientMasked : String
  payloadKeyID : String
  encryptedPayload : Bytes
  metadata : String
  deriving DecidableEq, Repr

def SubmissionDetails.validate (d : SubmissionDetails) : Except Error Unit := do
  check (notBlankWithin d.senderIdentityKey 64)
    (.invalidMessageRecord "sender identity key must contain 1..64 bytes")
  check (notBlankWithin d.templateKey 128) (.invalidMessageRecord "template key must contain 1..128 bytes")
  check (d.templateVersion ≠ 0) (.invalidMessageRecord "template version must be positive")
  check (notBlankWithin d.locale 35) (.invalidMessageRecord "locale must contain 1..35 bytes")
  check (notBlankWithin d.recipientMasked 254)
    (.invalidMessageRecord "masked recipient must contain 1..254 bytes")
  check (notBlankWithin d.payloadKeyID 128) (.invalidMessageRecord "payload key id must contain 1..128 bytes")
  check (29 ≤ d.encryptedPayload.length) (.invalidMessageRecord "encrypted payload is too short")
  check (len d.metadata ≠ 0 ∧ len d.metadata ≤ 4 * 1024 ∧ (Json.parse d.metadata).isSome)
    (.invalidMessageRecord "metadata must be valid JSON within 4 KiB")
  check (isJSONObject d.metadata) (.invalidMessageRecord "metadata must be a JSON object")

structure MessageRecord where
  tenantID : String
  idempotencyKey : String
  payloadFingerprint : Fingerprint
  category : EmailCategory
  priority : Nat
  duplicateRiskPolicy : DuplicateRiskPolicy
  submission : Option SubmissionDetails
  message : Message
  deriving DecidableEq, Repr

def MessageRecord.withMessage (r : MessageRecord) (m : Message) : MessageRecord := { r with message := m }

/-- The record after `PullEvents`. -/
def MessageRecord.pulled (r : MessageRecord) : MessageRecord :=
  r.withMessage { r.message with pendingEvents := [] }

def MessageRecord.validate (r : MessageRecord) : Except Error Unit := do
  check (isUUID r.tenantID) (.invalidMessageRecord "tenant id must be a UUID")
  check (trimmedWithin r.idempotencyKey 255)
    (.invalidMessageRecord "idempotency key must contain 1..255 bytes without surrounding whitespace")
  check (r.category.valid) (.invalidMessageRecord "unknown email category")
  check (r.priority ≤ 9) (.invalidMessageRecord "priority must be in range 0..9")
  check (r.duplicateRiskPolicy.valid) (.invalidMessageRecord "unknown duplicate risk policy")
  match r.submission with
  | some d => d.validate
  | none => pure ()
  check (isUUID r.message.id) (.invalidMessageRecord "message id must be a UUID")

def MessageRecord.validateForCreate (r : MessageRecord) : Except Error Unit := do
  r.validate
  check (r.message.version = 0) (.invalidMessageRecord "new message version must be zero")

inductive CreateDisposition
  | created | duplicate
  deriving DecidableEq, Repr

structure CreateMessageResult where
  disposition : CreateDisposition
  record : MessageRecord

/-! ## Journal and outbox events -/

structure DeliveryEvent where
  id : String
  tenantID : String
  messageID : String
  idempotencyKey : String
  status : Status
  sequence : Nat
  attemptNumber : Nat
  providerMessageID : String
  failure : Option Failure
  occurredAt : Time
  deriving DecidableEq, Repr

def DeliveryEvent.validate (e : DeliveryEvent) : Except Error Unit := do
  check (isUUID e.id) (.invalidDeliveryEvent "event id must be a UUID")
  check (isUUID e.tenantID) (.invalidDeliveryEvent "tenant id must be a UUID")
  check (isUUID e.messageID) (.invalidDeliveryEvent "message id must be a UUID")
  check (notBlankWithin e.idempotencyKey 255)
    (.invalidDeliveryEvent "idempotency key must contain 1..255 bytes")
  check (e.status.valid) (.invalidDeliveryEvent "status is invalid")
  check (e.sequence ≠ 0 ∧ e.sequence ≤ maxInt64 ∧ e.attemptNumber ≤ maxInt32)
    (.invalidDeliveryEvent "counters exceed database range")
  check (e.occurredAt ≠ 0) (.invalidDeliveryEvent "occurred time is required")
  check (trimSpace e.providerMessageID = e.providerMessageID ∧ len e.providerMessageID ≤ 512)
    (.invalidDeliveryEvent "provider message id is invalid")
  match e.failure with
  | some f => f.validate.mapError fun _ => .invalidDeliveryEvent "failure is invalid"
  | none => pure ()

def outboxAggregateMailMessage : String := "MAIL_MESSAGE"

def maxOutboxPayloadBytes : Nat := 64 * 1024

structure OutboxEvent where
  id : String
  aggregateType : String
  aggregateID : String
  eventType : String
  aggregateSequence : Nat
  dispatchGeneration : Nat
  payload : String
  deriving DecidableEq, Repr

def OutboxEvent.validate (e : OutboxEvent) : Except Error Unit := do
  check (isUUID e.id) (.invalidOutboxEvent "id must be a UUID")
  check (notBlankWithin e.aggregateType 64) (.invalidOutboxEvent "aggregate type must contain 1..64 bytes")
  check (isUUID e.aggregateID) (.invalidOutboxEvent "aggregate id must be a UUID")
  check (notBlankWithin e.eventType 128) (.invalidOutboxEvent "event type must contain 1..128 bytes")
  check (e.aggregateSequence ≠ 0) (.invalidOutboxEvent "aggregate sequence must be positive")
  check (len e.payload ≠ 0 ∧ len e.payload ≤ maxOutboxPayloadBytes ∧ (Json.parse e.payload).isSome)
    (.invalidOutboxEvent "payload must be valid JSON within 64 KiB")
  check (isJSONObject e.payload) (.invalidOutboxEvent "payload must be a JSON object")

/-! ## Delivery attempts -/

inductive DeliveryAttemptStatus
  | started | providerAccepted | failed | submissionUnknown
  deriving DecidableEq, Repr

def validateProviderKey (value : String) : Except Error Unit :=
  check (trimmedWithin value 128 ∧ containsAny value ['\r', '\n'] = false)
    (.invalidDeliveryAttempt "provider key must contain 1..128 bytes without surrounding whitespace")

structure StartedDeliveryAttempt where
  id : String
  messageID : String
  attemptNumber : Nat
  dispatchGeneration : Nat
  providerKey : String
  startedAt : Time
  deriving DecidableEq, Repr

def StartedDeliveryAttempt.validate (a : StartedDeliveryAttempt) : Except Error Unit := do
  check (isUUID a.id) (.invalidDeliveryAttempt "id must be a UUID")
  check (isUUID a.messageID) (.invalidDeliveryAttempt "message id must be a UUID")
  check (a.attemptNumber ≠ 0 ∧ a.attemptNumber ≤ maxInt32)
    (.invalidDeliveryAttempt "attempt number must fit a positive PostgreSQL INTEGER")
  check (a.dispatchGeneration ≠ 0 ∧ a.dispatchGeneration ≤ maxInt64)
    (.invalidDeliveryAttempt "dispatch generation must fit a positive PostgreSQL BIGINT")
  validateProviderKey a.providerKey
  check (a.startedAt ≠ 0) (.invalidDeliveryAttempt "started time is required")

structure CompleteDeliveryAttempt where
  attemptID : String
  status : DeliveryAttemptStatus
  finishedAt : Time
  providerMessageID : String
  failure : Option Failure
  deriving DecidableEq, Repr

/-- The failure of a result that must carry one and nothing else. -/
def onlyFailure (providerMessageID : String) (failure : Option Failure) (e : Error) : Except Error Failure :=
  match providerMessageID, failure with
  | "", some f => pure f
  | _, _ => throw e

def CompleteDeliveryAttempt.validate (a : CompleteDeliveryAttempt) : Except Error Unit := do
  check (isUUID a.attemptID) (.invalidDeliveryAttempt "attempt id must be a UUID")
  check (a.status ≠ .started) (.invalidDeliveryAttempt "completion status is invalid")
  check (a.finishedAt ≠ 0) (.invalidDeliveryAttempt "finished time is required")
  match a.status with
  | .providerAccepted =>
    check (trimmedWithin a.providerMessageID 512)
      (.invalidDeliveryAttempt "provider message id must contain 1..512 bytes without surrounding whitespace")
    check (a.failure = none) (.invalidDeliveryAttempt "accepted attempt cannot contain a failure")
  | .failed =>
    let f ← onlyFailure a.providerMessageID a.failure
      (.invalidDeliveryAttempt "failed attempt requires only failure information")
    f.validate.mapError fun _ => .invalidDeliveryAttempt "failure"
    check (f.category ≠ .submissionUnknown)
      (.invalidDeliveryAttempt "ambiguous failure requires submission-unknown status")
  | .submissionUnknown =>
    let f ← onlyFailure a.providerMessageID a.failure
      (.invalidDeliveryAttempt "submission-unknown attempt requires only failure information")
    f.validate.mapError fun _ => .invalidDeliveryAttempt "failure"
    check (f.category = .submissionUnknown)
      (.invalidDeliveryAttempt "submission-unknown status requires matching failure category")
  | .started => pure ()

/-! ## Provider -/

/-- `ProviderOutcome`, with the texts outside the enumeration as `unknown`. -/
inductive ProviderOutcome
  | accepted | failed | submissionUnknown
  | unknown (value : String)
  deriving DecidableEq, Repr

structure ProviderResult where
  outcome : ProviderOutcome
  providerMessageID : String
  failure : Option Failure
  deriving DecidableEq, Repr

def ProviderResult.validate (r : ProviderResult) : Except Error Unit := do
  match r.outcome with
  | .accepted =>
    check (trimmedWithin r.providerMessageID 512)
      (.invalidProviderResult "accepted result requires a 1..512 byte provider message id")
    check (r.failure = none) (.invalidProviderResult "accepted result cannot contain a failure")
  | .failed =>
    let f ← onlyFailure r.providerMessageID r.failure
      (.invalidProviderResult "failed result requires only failure information")
    f.validate.mapError fun _ => .invalidProviderResult "failure"
    check (f.category ≠ .submissionUnknown)
      (.invalidProviderResult "ambiguous failure requires submission-unknown outcome")
  | .submissionUnknown =>
    let f ← onlyFailure r.providerMessageID r.failure
      (.invalidProviderResult "submission-unknown result requires only failure information")
    f.validate.mapError fun _ => .invalidProviderResult "failure"
    check (f.category = .submissionUnknown)
      (.invalidProviderResult "submission-unknown outcome requires matching failure category")
  | .unknown _ => throw (.invalidProviderResult "unknown outcome")

def validBareEmailAddress (value : String) : Bool :=
  value ≠ "" ∧ len value ≤ 254 ∧ trimSpace value = value ∧ containsAny value ['\r', '\n'] = false ∧
    Mail.isBareAddress value

structure DeliveryMaterial where
  envelopeFrom : String
  envelopeTo : String
  mimeMessage : String
  deriving DecidableEq, Repr

def DeliveryMaterial.validate (m : DeliveryMaterial) : Except Error Unit := do
  check (validBareEmailAddress m.envelopeFrom ∧ validBareEmailAddress m.envelopeTo)
    (.deliveryMaterial "envelope addresses are invalid" false)
  check (len m.mimeMessage ≠ 0 ∧ len m.mimeMessage ≤ 2 * 1024 * 1024)
    (.deliveryMaterial "MIME message must contain 1..2097152 bytes" false)
  check ("\r\n\r\n".toList <:+: m.mimeMessage.toList)
    (.deliveryMaterial "MIME message encoding is invalid" false)

structure ProviderRequest where
  attemptID : String
  messageID : String
  tenantID : String
  attemptNumber : Nat
  dispatchGeneration : Nat
  category : EmailCategory
  duplicateRiskPolicy : DuplicateRiskPolicy
  material : DeliveryMaterial
  deriving DecidableEq, Repr

def ProviderRequest.validate (r : ProviderRequest) : Except Error Unit := do
  check (isUUID r.attemptID) (.invalidProviderRequest "attempt id must be a UUID")
  check (isUUID r.messageID) (.invalidProviderRequest "message id must be a UUID")
  check (isUUID r.tenantID) (.invalidProviderRequest "tenant id must be a UUID")
  check (r.attemptNumber ≠ 0 ∧ r.attemptNumber ≤ maxInt32)
    (.invalidProviderRequest "attempt number must fit a positive PostgreSQL INTEGER")
  check (r.dispatchGeneration ≠ 0 ∧ r.dispatchGeneration ≤ maxInt64)
    (.invalidProviderRequest "dispatch generation must fit a positive PostgreSQL BIGINT")
  check (r.category.valid) (.invalidProviderRequest "unknown email category")
  check (r.duplicateRiskPolicy.valid) (.invalidProviderRequest "unknown duplicate risk policy")
  r.material.validate.mapError fun _ => .invalidProviderRequest "delivery material is invalid"

/-- A short identifier that may be logged and stored. -/
def validStableCode (value : String) : Bool :=
  value ≠ "" ∧ len value ≤ 128 ∧
    value.toList.all fun c =>
    ('A' ≤ c && c ≤ 'Z') || ('a' ≤ c && c ≤ 'z') || c.isDigit || c ∈ ['.', '_', ':', '-']

end MailService
