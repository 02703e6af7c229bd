import MailService.Lib.Sql
import MailService.Storage
/-!
# The positions of the columns

`message_mapping.go` gives an insert thirty-one arguments by position, an update
sixteen, and reads a row into thirty-one destinations. Here the statements act on the
columns one by one, with the types, the NULLs and the CHECK constraints of
`db/migrations/sql`.
-/
open Text Checks Sql

namespace MailService

/-! ## Columns -/

inductive MessageColumn
  | id | tenantID | idempotencyKey | payloadFingerprint | category | priority | duplicateRiskPolicy | status
  | scheduledAt | dispatchDeadline | nextAttemptAt | dispatchGeneration | attemptCount | maxAttempts
  | providerAcceptedAt | providerMessageID | latestSequence | version | lastErrorCategory | lastErrorCode
  | lastErrorRetryable | acceptedAt | updatedAt | senderIdentityKey | templateKey | templateVersion | locale
  | recipientMasked | payloadKeyID | encryptedPayload | submissionMetadata
  deriving DecidableEq, Repr

inductive ColumnType
  | uuid | varchar (n : Nat) | bytea | smallint | integer | bigint | timestamptz | boolean | jsonb
  deriving DecidableEq, Repr

def MessageColumn.type : MessageColumn → ColumnType
  | id => .uuid
  | tenantID => .uuid
  | idempotencyKey => .varchar 255
  | payloadFingerprint => .bytea
  | category => .varchar 32
  | priority => .smallint
  | duplicateRiskPolicy => .varchar 32
  | status => .varchar 32
  | scheduledAt => .timestamptz
  | dispatchDeadline => .timestamptz
  | nextAttemptAt => .timestamptz
  | dispatchGeneration => .bigint
  | attemptCount => .integer
  | maxAttempts => .integer
  | providerAcceptedAt => .timestamptz
  | providerMessageID => .varchar 512
  | latestSequence => .bigint
  | version => .bigint
  | lastErrorCategory => .varchar 32
  | lastErrorCode => .varchar 128
  | lastErrorRetryable => .boolean
  | acceptedAt => .timestamptz
  | updatedAt => .timestamptz
  | senderIdentityKey => .varchar 64
  | templateKey => .varchar 128
  | templateVersion => .integer
  | locale => .varchar 35
  | recipientMasked => .varchar 254
  | payloadKeyID => .varchar 128
  | encryptedPayload => .bytea
  | submissionMetadata => .jsonb

/-- The columns without NOT NULL. -/
def MessageColumn.nullable : MessageColumn → Bool
  | scheduledAt | nextAttemptAt | providerAcceptedAt | providerMessageID | lastErrorCategory | lastErrorCode
  | lastErrorRetryable | senderIdentityKey | templateKey | templateVersion | locale
  | recipientMasked | payloadKeyID
  | encryptedPayload | submissionMetadata => true
  | _ => false

/-- What a column of this type holds for an argument. -/
def ColumnType.store : ColumnType → Value → Option Value
  | uuid, .text s => (uuidColumn s).map .text
  | varchar n, .text s => if MailService.varchar n s then some (.text s) else none
  | bytea, .bytes b => some (.bytes b)
  | smallint, .int2 n => some (.int2 n)
  | integer, .int4 n => some (.int4 n)
  | bigint, .int8 n => some (.int8 n)
  | timestamptz, .time t => some (.time (truncate t))
  | boolean, .bool b => some (.bool b)
  | jsonb, .text s => (jsonbColumn s).map .text
  | _, _ => none

def MessageColumn.store (c : MessageColumn) (v : Value) : Option Value :=
  if v = .null then (if c.nullable then some .null else none) else c.type.store v

def messageColumns : List MessageColumn :=
  [.id, .tenantID, .idempotencyKey, .payloadFingerprint, .category, .priority, .duplicateRiskPolicy,
    .status, .scheduledAt, .dispatchDeadline, .nextAttemptAt, .dispatchGeneration, .attemptCount,
    .maxAttempts, .providerAcceptedAt, .providerMessageID, .latestSequence, .version, .lastErrorCategory,
    .lastErrorCode, .lastErrorRetryable, .acceptedAt,
    .updatedAt, .senderIdentityKey, .templateKey, .templateVersion, .locale, .recipientMasked, .payloadKeyID,
    .encryptedPayload, .submissionMetadata]

theorem mem_messageColumns (c : MessageColumn) : c ∈ messageColumns := by cases c <;> decide

/-! ## Constraints -/

/-- The CHECK constraints of `mail_messages`. -/
inductive MessageConstraint
  | idempotencyKeyNotBlank | payloadFingerprintSha256 | categoryValid | priorityValid
  | duplicateRiskPolicyValid
  | statusValid | scheduleBeforeDeadline | retryBeforeDeadline | deadlineAfterAcceptance | timestampsOrdered
  | attemptsValid | countersNonnegative | retryTimePresent | dispatchGenerationPresent | attemptPresent
  | failureFieldsConsistent | failureCategoryValid | submissionFieldsConsistent
  deriving DecidableEq, Repr

/-- `btrim(v) <> ''`. -/
def notBlank (v : Value) : Cond := v.ofText fun s => decide (notBtrimEmpty s)

def notNull (v : Value) : Cond := Cond.not v.isNull

/-- `jsonb_typeof(v) = 'object'`. -/
def jsonObject (v : Value) : Cond := v.ofText isJSONObject

def statusTexts : List String :=
  ["ACCEPTED", "SCHEDULED", "QUEUED", "SENDING", "RETRY_SCHEDULED", "SUBMISSION_UNKNOWN",
    "PROVIDER_ACCEPTED", "DELIVERED", "BOUNCED", "COMPLAINED", "CANCELED", "EXPIRED",
    "PERMANENTLY_FAILED", "DEAD_LETTERED", "UNKNOWN_FINAL"]

def attemptedTexts : List String :=
  ["SENDING", "RETRY_SCHEDULED", "SUBMISSION_UNKNOWN", "PROVIDER_ACCEPTED", "DELIVERED",
    "BOUNCED", "COMPLAINED", "PERMANENTLY_FAILED", "DEAD_LETTERED", "UNKNOWN_FINAL"]

def failureCategoryTexts : List String :=
  ["VALIDATION", "AUTHENTICATION", "RATE_LIMITED", "RECIPIENT_REJECTED", "CONTENT_REJECTED",
    "PROVIDER_UNAVAILABLE", "NETWORK", "TIMEOUT_BEFORE_SEND", "SUBMISSION_UNKNOWN", "INTERNAL"]

def MessageConstraint.condition (row : Row MessageColumn) : MessageConstraint → Cond
  | idempotencyKeyNotBlank => notBlank (row .idempotencyKey)
  | payloadFingerprintSha256 => (row .payloadFingerprint).octetLength (· == 32)
  | categoryValid => (row .category).oneOf ["CRITICAL", "TRANSACTIONAL", "NOTIFICATION", "BULK"]
  | priorityValid => Cond.and (Value.atMost (.int2 0) (row .priority)) ((row .priority).atMost (.int2 9))
  | duplicateRiskPolicyValid => (row .duplicateRiskPolicy).oneOf ["AVOID_DUPLICATE", "PREFER_DELIVERY"]
  | statusValid => (row .status).oneOf statusTexts
  | scheduleBeforeDeadline =>
    Cond.or (row .scheduledAt).isNull ((row .scheduledAt).less (row .dispatchDeadline))
  | retryBeforeDeadline =>
    Cond.or (row .nextAttemptAt).isNull ((row .nextAttemptAt).less (row .dispatchDeadline))
  | deadlineAfterAcceptance => (row .acceptedAt).less (row .dispatchDeadline)
  | timestampsOrdered => (row .acceptedAt).atMost (row .updatedAt)
  | attemptsValid =>
    Cond.all [Value.less (.int4 0) (row .maxAttempts), Value.atMost (.int4 0) (row .attemptCount),
      (row .attemptCount).atMost (row .maxAttempts)]
  | countersNonnegative =>
    Cond.all [Value.atMost (.int8 0) (row .dispatchGeneration), Value.less (.int8 0) (row .latestSequence),
      Value.atMost (.int8 0) (row .version)]
  | retryTimePresent =>
    Cond.or (Cond.not ((row .status).oneOf ["RETRY_SCHEDULED"])) (notNull (row .nextAttemptAt))
  | dispatchGenerationPresent =>
    Cond.or (Cond.not ((row .status).oneOf ("QUEUED" :: attemptedTexts)))
      (Value.less (.int8 0) (row .dispatchGeneration))
  | attemptPresent =>
    Cond.or (Cond.not ((row .status).oneOf attemptedTexts)) (Value.less (.int4 0) (row .attemptCount))
  | failureFieldsConsistent =>
    Cond.or
      (Cond.all [(row .lastErrorCategory).isNull, (row .lastErrorCode).isNull,
        (row .lastErrorRetryable).isNull])
      (Cond.all [notNull (row .lastErrorCategory), notNull (row .lastErrorCode),
        notBlank (row .lastErrorCode), notNull (row .lastErrorRetryable)])
  | failureCategoryValid =>
    Cond.or (row .lastErrorCategory).isNull ((row .lastErrorCategory).oneOf failureCategoryTexts)
  | submissionFieldsConsistent =>
    Cond.or
      (Cond.all [(row .senderIdentityKey).isNull, (row .templateKey).isNull, (row .templateVersion).isNull,
        (row .locale).isNull, (row .recipientMasked).isNull, (row .payloadKeyID).isNull,
          (row .encryptedPayload).isNull,
        (row .submissionMetadata).isNull])
      (Cond.all [notNull (row .senderIdentityKey), notBlank (row .senderIdentityKey),
        notNull (row .templateKey), notBlank (row .templateKey), notNull (row .templateVersion),
        Value.less (.int4 0) (row .templateVersion),
        notNull (row .locale), notBlank (row .locale), notNull (row .recipientMasked),
        notBlank (row .recipientMasked), notNull (row .payloadKeyID), notBlank (row .payloadKeyID),
        notNull (row .encryptedPayload), (row .encryptedPayload).octetLength (29 ≤ ·),
        notNull (row .submissionMetadata), jsonObject (row .submissionMetadata)])

/-- The row satisfies every CHECK constraint. -/
def Satisfies (row : Row MessageColumn) : Prop := ∀ c : MessageConstraint, (c.condition row).Passes

/-! ## Arguments -/

/-- The `n` bytes of a number, the least first. -/
def bytesOf : Nat → Nat → Bytes
  | 0, _ => []
  | n + 1, k => UInt8.ofNat k :: bytesOf n (k / 256)

/-- The number that these bytes are. -/
def numberOf : Bytes → Nat
  | [] => 0
  | b :: bytes => b.toNat + 256 * numberOf bytes

def Fingerprint.bytes (f : Fingerprint) : Bytes := bytesOf 32 f.toNat

def Fingerprint.ofBytes (b : Bytes) : Fingerprint := BitVec.ofNat 256 (numberOf b)

/-- A `*time.Time`. -/
def nullableTime : Option Time → Value
  | some t => .time t
  | none => .null

def nullableString (value : String) : Value := if value = "" then .null else .text value

structure FailureArguments where
  category : Value
  code : Value
  retryable : Value

def failureArguments : Option Failure → FailureArguments
  | none => ⟨.null, .null, .null⟩
  | some f => ⟨.text f.category.text, .text f.code, .bool f.retryable⟩

structure PersistedSubmission where
  senderIdentityKey : Value := .null
  templateKey : Value := .null
  templateVersion : Value := .null
  locale : Value := .null
  recipientMasked : Value := .null
  payloadKeyID : Value := .null
  encryptedPayload : Value := .null
  metadata : Value := .null

/-- The conversion of the version to `int32` is not checked. -/
def submissionArguments : Option SubmissionDetails → PersistedSubmission
  | none => {}
  | some details => {
      senderIdentityKey := .text details.senderIdentityKey
      templateKey := .text details.templateKey
      templateVersion := .int4 (Int32.ofNat details.templateVersion)
      locale := .text details.locale
      recipientMasked := .text details.recipientMasked
      payloadKeyID := .text details.payloadKeyID
      encryptedPayload := .bytes details.encryptedPayload
      metadata := .text details.metadata }

structure PersistedCounters where
  dispatchGeneration : Int64
  attemptCount : Int32
  maxAttempts : Int32
  latestSequence : Int64
  version : Int64

/-- The conversions of `databaseCounters`, after its check. -/
def persistedCounters (s : Snapshot) : Except Error PersistedCounters := do
  databaseCounters s
  pure {
    dispatchGeneration := Int64.ofNat s.dispatchGeneration
    attemptCount := Int32.ofNat s.attemptCount
    maxAttempts := Int32.ofNat s.maxAttempts
    latestSequence := Int64.ofNat s.latestSequence
    version := Int64.ofNat s.version }

def createArguments (record : MessageRecord) : Except Error (List Value) := do
  let snapshot := record.message.snapshot
  let counters ← persistedCounters snapshot
  let failure := failureArguments snapshot.lastFailure
  let submission := submissionArguments record.submission
  pure [
    .text snapshot.id,
    .text record.tenantID,
    .text record.idempotencyKey,
    .bytes record.payloadFingerprint.bytes,
    .text record.category.text,
    .int2 (Int16.ofNat record.priority),
    .text record.duplicateRiskPolicy.text,
    .text snapshot.status.text,
    nullableTime snapshot.scheduledAt,
    .time snapshot.dispatchDeadline,
    nullableTime snapshot.nextAttemptAt,
    .int8 counters.dispatchGeneration,
    .int4 counters.attemptCount,
    .int4 counters.maxAttempts,
    nullableTime snapshot.providerAcceptedAt,
    nullableString snapshot.providerMessageID,
    .int8 counters.latestSequence,
    .int8 counters.version,
    failure.category,
    failure.code,
    failure.retryable,
    .time snapshot.acceptedAt,
    .time snapshot.updatedAt,
    submission.senderIdentityKey,
    submission.templateKey,
    submission.templateVersion,
    submission.locale,
    submission.recipientMasked,
    submission.payloadKeyID,
    submission.encryptedPayload,
    submission.metadata]

def updateArguments (snapshot : Snapshot) : Except Error (List Value) := do
  check (snapshot.version < maxInt64)
    (.invalidMessageRecord "message version cannot be incremented in PostgreSQL")
  let counters ← persistedCounters snapshot
  let failure := failureArguments snapshot.lastFailure
  pure [
    .text snapshot.status.text,
    nullableTime snapshot.scheduledAt,
    .time snapshot.dispatchDeadline,
    nullableTime snapshot.nextAttemptAt,
    .int8 counters.dispatchGeneration,
    .int4 counters.attemptCount,
    .int4 counters.maxAttempts,
    nullableTime snapshot.providerAcceptedAt,
    nullableString snapshot.providerMessageID,
    .int8 counters.latestSequence,
    failure.category,
    failure.code,
    failure.retryable,
    .time snapshot.updatedAt,
    .text snapshot.id,
    .int8 counters.version]

/-! ## Statements -/

/-- The row of `insertMessageQuery`, where its arguments can be stored. -/
def insertMessageQuery (arguments : List Value) : Option (Row MessageColumn) :=
  (storeAll MessageColumn.store messageColumns arguments).map fun values =>
    assign messageColumns values fun _ => .null

/-- The columns `$1` to `$14` of `updateMessageQuery`. -/
def updateColumns : List MessageColumn :=
  [.status, .scheduledAt, .dispatchDeadline, .nextAttemptAt, .dispatchGeneration, .attemptCount, .maxAttempts,
    .providerAcceptedAt, .providerMessageID, .latestSequence, .lastErrorCategory,
    .lastErrorCode, .lastErrorRetryable, .updatedAt]

/-- `WHERE id = $15 AND version = $16`. -/
def updateSelects (arguments : List Value) (row : Row MessageColumn) : Prop :=
  (arguments[14]?.bind MessageColumn.id.store) = some (row .id) ∧ arguments[15]? = some (row .version)

instance (arguments : List Value) (row : Row MessageColumn) : Decidable (updateSelects arguments row) :=
  inferInstanceAs (Decidable (_ ∧ _))

/-- `version + 1`. -/
def nextVersion : Value → Option Value
  | .int8 n => if n = Int64.maxValue then none else some (.int8 (n + 1))
  | _ => none

/-- What `updateMessageQuery` makes of a row that it selects. -/
def updateMessageQuery (arguments : List Value) (row : Row MessageColumn) : Option (Row MessageColumn) := do
  let values ← storeAll MessageColumn.store updateColumns (arguments.take 14)
  let version ← nextVersion (row .version)
  some (Function.update (assign updateColumns values row) .version version)

/-! ## Reading -/

def Status.ofText (value : String) : Status :=
  ([.accepted, .scheduled, .queued, .sending, .retryScheduled, .submissionUnknown,
    .providerAccepted, .delivered, .bounced, .complained, .canceled, .expired, .permanentlyFailed,
    .deadLettered, .unknownFinal] : List Status).find?
    (fun status => status.text == value) |>.getD (.unknown value)

def FailureCategory.ofText (value : String) : FailureCategory :=
  ([.validation, .authentication, .rateLimited, .recipientRejected, .contentRejected, .providerDown, .network,
    .timeoutBeforeSend, .submissionUnknown, .internal] : List FailureCategory).find?
    (fun category => category.text == value) |>.getD (.unknown value)

namespace Scan

/-- A value that its destination does not take. -/
def refused : Error := .messageRepository "read message"

def text : Value → Except Error String
  | .text s => .ok s
  | _ => .error refused

def bytes : Value → Except Error Bytes
  | .bytes b => .ok b
  | _ => .error refused

def int2 : Value → Except Error Int16
  | .int2 n => .ok n
  | _ => .error refused

def int4 : Value → Except Error Int32
  | .int4 n => .ok n
  | _ => .error refused

def int8 : Value → Except Error Int64
  | .int8 n => .ok n
  | _ => .error refused

def time : Value → Except Error Time
  | .time t => .ok t
  | _ => .error refused

def bool : Value → Except Error Bool
  | .bool b => .ok b
  | _ => .error refused

/-- The `pgtype` destinations, and slices, take NULL. -/
def nullable {α : Type} (scan : Value → Except Error α) : Value → Except Error (Option α)
  | .null => .ok none
  | v => (scan v).map some

end Scan

def scanFailure : Option String → Option String → Option Bool → Except Error (Option Failure)
  | none, none, none => .ok none
  | some category, some code, some retryable => .ok (some ⟨.ofText category, code, retryable⟩)
  | _, _, _ => .error (.corruptMessageRecord "failure fields are only partially present")

/-- The destinations of the submission's columns. -/
structure ScannedSubmission where
  senderIdentityKey : Option String
  templateKey : Option String
  templateVersion : Option Int32
  locale : Option String
  recipientMasked : Option String
  payloadKeyID : Option String
  encryptedPayload : Option Bytes
  metadata : Option String

def scanSubmission : ScannedSubmission → Except Error (Option SubmissionDetails)
  | ⟨none, none, none, none, none, none, none, none⟩ => .ok none
  | ⟨some senderIdentityKey, some templateKey, some templateVersion, some locale,
      some recipientMasked, some payloadKeyID, some encryptedPayload, some metadata⟩ => do
    check (0 < templateVersion.toInt) (.corruptMessageRecord "submission fields are only partially present")
    let details : SubmissionDetails := {
      senderIdentityKey := senderIdentityKey
      templateKey := templateKey
      templateVersion := templateVersion.toInt.toNat
      locale := locale
      recipientMasked := recipientMasked
      payloadKeyID := payloadKeyID
      encryptedPayload := encryptedPayload
      metadata := metadata }
    details.validate.mapError fun _ => .corruptMessageRecord "persisted submission is invalid"
    pure (some details)
  | _ => .error (.corruptMessageRecord "submission fields are only partially present")

/-- The destinations of `scanMessageRecord`. -/
structure Scanned where
  messageID : String
  tenantID : String
  idempotencyKey : String
  fingerprint : Option Bytes
  category : String
  priority : Int16
  duplicateRiskPolicy : String
  status : String
  scheduledAt : Option Time
  dispatchDeadline : Time
  nextAttemptAt : Option Time
  dispatchGeneration : Int64
  attemptCount : Int32
  maxAttempts : Int32
  providerAcceptedAt : Option Time
  providerMessageID : Option String
  latestSequence : Int64
  version : Int64
  lastErrorCategory : Option String
  lastErrorCode : Option String
  lastErrorRetryable : Option Bool
  acceptedAt : Time
  updatedAt : Time
  submission : ScannedSubmission

/-- `row.Scan` into the destinations, in their order. -/
def scanRow : List Value → Except Error Scanned
  | [messageID, tenantID, idempotencyKey, fingerprint, category, priority,
      duplicateRiskPolicy, status, scheduledAt, dispatchDeadline, nextAttemptAt, dispatchGeneration,
      attemptCount, maxAttempts, providerAcceptedAt, providerMessageID, latestSequence, version,
      lastErrorCategory, lastErrorCode, lastErrorRetryable, acceptedAt,
      updatedAt, senderIdentityKey, templateKey, templateVersion, locale, recipientMasked, payloadKeyID,
      encryptedPayload, submissionMetadata] => do
    let messageID ← Scan.text messageID
    let tenantID ← Scan.text tenantID
    let idempotencyKey ← Scan.text idempotencyKey
    let fingerprint ← Scan.nullable Scan.bytes fingerprint
    let category ← Scan.text category
    let priority ← Scan.int2 priority
    let duplicateRiskPolicy ← Scan.text duplicateRiskPolicy
    let status ← Scan.text status
    let scheduledAt ← Scan.nullable Scan.time scheduledAt
    let dispatchDeadline ← Scan.time dispatchDeadline
    let nextAttemptAt ← Scan.nullable Scan.time nextAttemptAt
    let dispatchGeneration ← Scan.int8 dispatchGeneration
    let attemptCount ← Scan.int4 attemptCount
    let maxAttempts ← Scan.int4 maxAttempts
    let providerAcceptedAt ← Scan.nullable Scan.time providerAcceptedAt
    let providerMessageID ← Scan.nullable Scan.text providerMessageID
    let latestSequence ← Scan.int8 latestSequence
    let version ← Scan.int8 version
    let lastErrorCategory ← Scan.nullable Scan.text lastErrorCategory
    let lastErrorCode ← Scan.nullable Scan.text lastErrorCode
    let lastErrorRetryable ← Scan.nullable Scan.bool lastErrorRetryable
    let acceptedAt ← Scan.time acceptedAt
    let updatedAt ← Scan.time updatedAt
    let senderIdentityKey ← Scan.nullable Scan.text senderIdentityKey
    let templateKey ← Scan.nullable Scan.text templateKey
    let templateVersion ← Scan.nullable Scan.int4 templateVersion
    let locale ← Scan.nullable Scan.text locale
    let recipientMasked ← Scan.nullable Scan.text recipientMasked
    let payloadKeyID ← Scan.nullable Scan.text payloadKeyID
    let encryptedPayload ← Scan.nullable Scan.bytes encryptedPayload
    let metadata ← Scan.nullable Scan.text submissionMetadata
    pure {
      messageID := messageID, tenantID := tenantID, idempotencyKey := idempotencyKey,
        fingerprint := fingerprint
      category := category, priority := priority, duplicateRiskPolicy := duplicateRiskPolicy, status := status
      scheduledAt := scheduledAt, dispatchDeadline := dispatchDeadline, nextAttemptAt := nextAttemptAt
      dispatchGeneration := dispatchGeneration, attemptCount := attemptCount, maxAttempts := maxAttempts
      providerAcceptedAt := providerAcceptedAt, providerMessageID := providerMessageID
      latestSequence := latestSequence, version := version, lastErrorCategory := lastErrorCategory
      lastErrorCode := lastErrorCode, lastErrorRetryable := lastErrorRetryable, acceptedAt := acceptedAt
      updatedAt := updatedAt
      submission := {
        senderIdentityKey := senderIdentityKey, templateKey := templateKey, templateVersion := templateVersion
        locale := locale, recipientMasked := recipientMasked, payloadKeyID := payloadKeyID
        encryptedPayload := encryptedPayload, metadata := metadata } }
  | _ => .error Scan.refused

/-- The record of the scanned destinations. -/
def Scanned.record (d : Scanned) : Except Error MessageRecord := do
  let fingerprint := d.fingerprint.getD []
  check (fingerprint.length = 32) (.corruptMessageRecord "payload fingerprint is not 32 bytes")
  check (0 ≤ d.priority.toInt ∧ d.priority.toInt ≤ 9 ∧ 0 ≤ d.dispatchGeneration.toInt ∧
    0 ≤ d.attemptCount.toInt ∧
      0 ≤ d.maxAttempts.toInt ∧ 0 ≤ d.latestSequence.toInt ∧ 0 ≤ d.version.toInt)
    (.corruptMessageRecord "persisted numeric value is outside domain range")
  let lastFailure ← scanFailure d.lastErrorCategory d.lastErrorCode d.lastErrorRetryable
  let snapshot : Snapshot := {
    id := d.messageID
    status := .ofText d.status
    scheduledAt := d.scheduledAt
    dispatchDeadline := d.dispatchDeadline
    nextAttemptAt := d.nextAttemptAt
    attemptCount := d.attemptCount.toInt.toNat
    maxAttempts := d.maxAttempts.toInt.toNat
    dispatchGeneration := d.dispatchGeneration.toInt.toNat
    providerAcceptedAt := d.providerAcceptedAt
    providerMessageID := d.providerMessageID.getD ""
    latestSequence := d.latestSequence.toInt.toNat
    version := d.version.toInt.toNat
    acceptedAt := d.acceptedAt
    updatedAt := d.updatedAt
    lastFailure := lastFailure }
  let aggregate ← (restore snapshot).mapError fun _ =>
    .corruptMessageRecord "domain rejected persisted snapshot"
  let submission ← scanSubmission d.submission
  let record : MessageRecord := {
    tenantID := d.tenantID
    idempotencyKey := d.idempotencyKey
    payloadFingerprint := .ofBytes fingerprint
    category := .ofText d.category
    priority := d.priority.toInt.toNat
    duplicateRiskPolicy := .ofText d.duplicateRiskPolicy
    submission := submission
    message := aggregate }
  record.validate.mapError fun _ => .corruptMessageRecord "persisted metadata is invalid"
  pure record

/-- `scanMessageRecord` on the values that a query returned for `messageColumns`. -/
def scanMessageColumns (values : List Value) : Except Error MessageRecord := do
  let scanned ← scanRow values
  scanned.record

end MailService
