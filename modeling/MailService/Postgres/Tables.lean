import MailService.Events
import MailService.Lib.JsonNumbers
/-!
# The database

The tables of `db/migrations/sql` and the statements of
`internal/storage/postgres` on them. Groups of columns that a CHECK constraint
makes NULL together are one optional field, and the columns it keeps from being
negative are `Nat`; the remaining constraints are predicates on the row, and a
statement that violates one fails as a storage error. A `jsonb` column holds the
text it returns. Failures of the connection are not modelled here: a transaction
that ends in one is a transaction that did not commit.
-/
open Text Checks

namespace MailService

/-! ## Column types -/

/-- `timestamptz` keeps microseconds. -/
def truncate (t : Time) : Time := t / 1000 * 1000

/-- The text a `uuid` column returns for the text stored in it. -/
def uuidColumn (s : String) : Option String := (Uuid.postgresIn s).map Uuid.text

/-- `jsonb` keeps the value, in its own order and spacing and with its own spelling of the
numbers, and refuses U+0000. -/
def jsonbColumn (s : String) : Option String :=
  match (Json.parse s).bind Json.numeric with
  | none => none
  | some v =>
    if Json.anyString (·.toList.contains '\x00') v then none
    else some (Json.marshal .jsonb (Json.canon Json.jsonbOrder v))

/-- `varchar(n)`: no U+0000 and at most `n` characters. -/
def varchar (n : Nat) (s : String) : Prop := '\x00' ∉ s.toList ∧ s.toList.length ≤ n

instance (n : Nat) (s : String) : Decidable (varchar n s) := inferInstanceAs (Decidable (_ ∧ _))

/-- `btrim(s) <> ''`. -/
def notBtrimEmpty (s : String) : Prop := ∃ c ∈ s.toList, c ≠ ' '

instance (s : String) : Decidable (notBtrimEmpty s) := List.decidableBEx (· ≠ ' ') s.toList

/-- A failure's three columns. -/
def failureColumns (f : Failure) : Prop := f.category.valid ∧ notBtrimEmpty f.code ∧ varchar 128 f.code

instance (f : Failure) : Decidable (failureColumns f) := inferInstanceAs (Decidable (_ ∧ _ ∧ _))

/-! ## Tables -/

inductive TenantStatus
  | active | paused | disabled
  deriving DecidableEq, Repr

structure TenantRow where
  id : String
  status : TenantStatus
  deriving DecidableEq, Repr

/-- A row of `mail_messages`; the lifecycle columns are those of the snapshot. -/
structure MessageRow where
  tenantID : String
  idempotencyKey : String
  payloadFingerprint : Fingerprint
  category : EmailCategory
  priority : Nat
  duplicateRiskPolicy : DuplicateRiskPolicy
  snapshot : Snapshot
  submission : Option SubmissionDetails
  deriving DecidableEq, Repr

structure AttemptRow where
  id : String
  messageID : String
  attemptNo : Nat
  dispatchGeneration : Nat
  providerKey : String
  status : DeliveryAttemptStatus
  startedAt : Time
  finishedAt : Option Time
  providerMessageID : String
  failure : Option Failure
  deriving DecidableEq, Repr

inductive OutboxStatus
  | pending | published | deadLettered
  deriving DecidableEq, Repr

structure OutboxRow where
  event : OutboxEvent
  status : OutboxStatus
  availableAt : Time
  /-- `lease_owner` and `lease_until`. -/
  lease : Option (String × Time)
  attemptCount : Nat
  lastErrorCode : Option String
  createdAt : Time
  publishedAt : Option Time
  deriving DecidableEq, Repr

structure Db where
  tenants : List TenantRow
  messages : List MessageRow
  attempts : List AttemptRow
  events : List DeliveryEvent
  outbox : List OutboxRow
  deriving DecidableEq, Repr

/-! ## Messages -/

/-- `databaseCounters`. -/
def databaseCounters (s : Snapshot) : Except Error Unit :=
  check (s.dispatchGeneration ≤ maxInt64 ∧ s.latestSequence ≤ maxInt64 ∧ s.version ≤ maxInt64 ∧
      s.attemptCount ≤ maxInt32 ∧ s.maxAttempts ≤ maxInt32)
    (.invalidMessageRecord "message counters exceed PostgreSQL integer range")

def Snapshot.truncated (s : Snapshot) : Snapshot :=
  { s with
    scheduledAt := s.scheduledAt.map truncate
    dispatchDeadline := truncate s.dispatchDeadline
    nextAttemptAt := s.nextAttemptAt.map truncate
    providerAcceptedAt := s.providerAcceptedAt.map truncate
    acceptedAt := truncate s.acceptedAt
    updatedAt := truncate s.updatedAt }

/-- The CHECK constraints on the submission's columns; `template_version` is the
conversion of a `uint32` to `int32`, negative above its range. -/
def submissionColumns (d : SubmissionDetails) : Prop :=
  (notBtrimEmpty d.senderIdentityKey ∧ varchar 64 d.senderIdentityKey) ∧
  (notBtrimEmpty d.templateKey ∧ varchar 128 d.templateKey) ∧
  (0 < d.templateVersion ∧ d.templateVersion ≤ maxInt32) ∧
  (notBtrimEmpty d.locale ∧ varchar 35 d.locale) ∧
  (notBtrimEmpty d.recipientMasked ∧ varchar 254 d.recipientMasked) ∧
  (notBtrimEmpty d.payloadKeyID ∧ varchar 128 d.payloadKeyID) ∧
  29 ≤ d.encryptedPayload.length ∧ isJSONObject d.metadata = true

instance (d : SubmissionDetails) : Decidable (submissionColumns d) :=
  inferInstanceAs (Decidable (_ ∧ _ ∧ _ ∧ _ ∧ _ ∧ _ ∧ _ ∧ _))

/-- The CHECK constraints of `mail_messages` on the lifecycle columns. -/
def snapshotColumns (s : Snapshot) : Prop :=
  s.status.valid ∧
  (∀ t ∈ s.scheduledAt, t < s.dispatchDeadline) ∧
  (∀ t ∈ s.nextAttemptAt, t < s.dispatchDeadline) ∧
  s.acceptedAt < s.dispatchDeadline ∧ s.acceptedAt ≤ s.updatedAt ∧
  (0 < s.maxAttempts ∧ s.attemptCount ≤ s.maxAttempts) ∧ 0 < s.latestSequence ∧
  (s.status = .retryScheduled → s.nextAttemptAt ≠ none) ∧
  (requiresDispatchGeneration s.status → 0 < s.dispatchGeneration) ∧
  (requiresAttempt s.status → 0 < s.attemptCount) ∧
  varchar 512 s.providerMessageID ∧ ∀ f ∈ s.lastFailure, failureColumns f

instance (s : Snapshot) : Decidable (snapshotColumns s) :=
  inferInstanceAs (Decidable (_ ∧ _ ∧ _ ∧ _ ∧ _ ∧ _ ∧ _ ∧ _ ∧ _ ∧ _ ∧ _ ∧ _))

/-- The CHECK constraints of `mail_messages`. -/
def MessageRow.Allowed (r : MessageRow) : Prop :=
  notBtrimEmpty r.idempotencyKey ∧ varchar 255 r.idempotencyKey ∧ r.category.valid ∧ r.priority ≤ 9 ∧
  r.duplicateRiskPolicy.valid ∧ snapshotColumns r.snapshot ∧ ∀ d ∈ r.submission, submissionColumns d

instance (r : MessageRow) : Decidable r.Allowed := inferInstanceAs (Decidable (_ ∧ _ ∧ _ ∧ _ ∧ _ ∧ _ ∧ _))

/-- The row that `createArguments` describes, when its `uuid` and `jsonb` values
can be stored. -/
def createRow (record : MessageRecord) : Option MessageRow :=
  match uuidColumn record.message.id, uuidColumn record.tenantID,
    record.submission.mapM fun d => (jsonbColumn d.metadata).map fun metadata =>
    { d with metadata := metadata } with
  | some id, some tenantID, some submission => some {
      tenantID := tenantID
      idempotencyKey := record.idempotencyKey
      payloadFingerprint := record.payloadFingerprint
      category := record.category
      priority := record.priority
      duplicateRiskPolicy := record.duplicateRiskPolicy
      snapshot := { record.message.snapshot.truncated with id := id }
      submission := submission }
  | _, _, _ => none

/-- `scanMessageRecord`. -/
def scanMessageRecord (r : MessageRow) : Except Error MessageRecord := do
  check (r.priority ≤ 9) (.corruptMessageRecord "persisted numeric value is outside domain range")
  let aggregate ← (restore r.snapshot).mapError fun _ =>
    .corruptMessageRecord "domain rejected persisted snapshot"
  match r.submission with
  | some d => d.validate.mapError fun _ => .corruptMessageRecord "persisted submission is invalid"
  | none => pure ()
  let record : MessageRecord := {
    tenantID := r.tenantID
    idempotencyKey := r.idempotencyKey
    payloadFingerprint := r.payloadFingerprint
    category := r.category
    priority := r.priority
    duplicateRiskPolicy := r.duplicateRiskPolicy
    submission := r.submission
    message := aggregate }
  record.validate.mapError fun _ => .corruptMessageRecord "persisted metadata is invalid"
  pure record

namespace Db

/-- `MessageRepository.get` on the row a query found. -/
def scanFound : Option MessageRow → Except Error MessageRecord
  | some row => scanMessageRecord row
  | none => .error .messageNotFound

def getByID (db : Db) (messageID : String) : Except Error MessageRecord := do
  check (isUUID messageID) (.invalidMessageRecord "message id must be a UUID")
  match uuidColumn messageID with
  | none => throw (.messageRepository "read message")
  | some id => scanFound (db.messages.find? fun r => r.snapshot.id = id)

def findKey (db : Db) (tenantID idempotencyKey : String) : Option MessageRow :=
  db.messages.find? fun r => r.tenantID = tenantID ∧ r.idempotencyKey = idempotencyKey

def getByIdempotencyKey (db : Db) (tenantID idempotencyKey : String) : Except Error MessageRecord := do
  check (isUUID tenantID) (.invalidMessageRecord "tenant id must be a UUID")
  check (trimmedWithin idempotencyKey 255)
    (.invalidMessageRecord "idempotency key must contain 1..255 bytes without surrounding whitespace")
  match uuidColumn tenantID with
  | none => throw (.messageRepository "read message")
  | some tenant => scanFound (db.findKey tenant idempotencyKey)

/-- What `insertMessageQuery` does: a row, no row because the idempotency key is
taken, or an error. -/
def insertMessage (db : Db) (record : MessageRecord) : Except Error (Option Db) :=
  match createRow record with
  | none => .error (.messageRepository "create message")
  | some row =>
    if ¬ row.Allowed then .error (.messageRepository "create message")
    else if (db.findKey row.tenantID row.idempotencyKey).isSome then .ok none
    else if db.messages.any (·.snapshot.id = row.snapshot.id) then .error .messageIDConflict
    else if ¬ db.tenants.any (·.id = row.tenantID) then .error (.messageRepository "create message")
    else .ok (some { db with messages := db.messages ++ [row] })

/-- What a taken key means: the stored message if it has the same fingerprint. -/
def resolveDuplicate (record : MessageRecord) (existing : Except Error MessageRecord) :
    Except Error CreateMessageResult := do
  let existing ← existing
  check (existing.payloadFingerprint = record.payloadFingerprint) .idempotencyConflict
  pure ⟨.duplicate, existing⟩

/-- `MessageRepository.Create`. -/
def create (db : Db) (record : MessageRecord) : Except Error (Db × CreateMessageResult) := do
  record.validateForCreate
  databaseCounters record.message.snapshot
  match ← db.insertMessage record with
  | some db => pure (db, ⟨.created, record⟩)
  | none =>
    let result ← resolveDuplicate record (db.getByIdempotencyKey record.tenantID record.idempotencyKey)
    pure (db, result)

/-- The row after `updateMessageQuery`. -/
def updatedRow (row : MessageRow) (s : Snapshot) : MessageRow :=
  { row with
    snapshot := { s.truncated with
      id := row.snapshot.id
      acceptedAt := row.snapshot.acceptedAt
      version := row.snapshot.version + 1 } }

/-- `MessageRepository.Save`: the version is compared and raised in one statement. -/
def save (db : Db) (m : Message) : Except Error Db := do
  check (isUUID m.id) (.invalidMessageRecord "message id must be a UUID")
  check (m.version < maxInt64) (.invalidMessageRecord "message version cannot be incremented in PostgreSQL")
  databaseCounters m.snapshot
  match uuidColumn m.id with
  | none => throw (.messageRepository "save message")
  | some id =>
    match db.messages.find? fun r => r.snapshot.id = id ∧ r.snapshot.version = m.version with
    | none => throw .concurrentUpdate
    | some row =>
      check ((updatedRow row m.snapshot).Allowed) (.messageRepository "save message")
      pure { db with
        messages := db.messages.map fun r =>
          if r.snapshot.id = id ∧ r.snapshot.version = m.version then updatedRow r m.snapshot else r }

end Db

/-! ## Delivery attempts -/

/-- `delivery_attempts_result_consistent`. -/
def resultConsistent : DeliveryAttemptStatus → Option Time → String → Option Failure → Prop
  | .started, finishedAt, providerMessageID, failure =>
    finishedAt = none ∧ providerMessageID = "" ∧ failure = none
  | .providerAccepted, finishedAt, providerMessageID, failure =>
    finishedAt ≠ none ∧ notBtrimEmpty providerMessageID ∧ failure = none
  | .failed, finishedAt, providerMessageID, failure =>
    finishedAt ≠ none ∧ providerMessageID = "" ∧ ∃ f ∈ failure, f.category ≠ .submissionUnknown
  | .submissionUnknown, finishedAt, providerMessageID, failure =>
    finishedAt ≠ none ∧ providerMessageID = "" ∧ ∃ f ∈ failure, f.category = .submissionUnknown

instance : ∀ status finishedAt providerMessageID failure,
    Decidable (resultConsistent status finishedAt providerMessageID failure)
  | .started, _, _, _ => inferInstanceAs (Decidable (_ ∧ _ ∧ _))
  | .providerAccepted, _, _, _ => inferInstanceAs (Decidable (_ ∧ _ ∧ _))
  | .failed, _, _, failure =>
    inferInstanceAs (Decidable (_ ∧ _ ∧ ∃ f ∈ failure, f.category ≠ .submissionUnknown))
  | .submissionUnknown, _, _, failure =>
    inferInstanceAs (Decidable (_ ∧ _ ∧ ∃ f ∈ failure, f.category = .submissionUnknown))

/-- The CHECK constraints of `delivery_attempts`. -/
def AttemptRow.Allowed (r : AttemptRow) : Prop :=
  0 < r.attemptNo ∧ 0 < r.dispatchGeneration ∧ notBtrimEmpty r.providerKey ∧ varchar 128 r.providerKey ∧
  (∀ t ∈ r.finishedAt, r.startedAt ≤ t) ∧ varchar 512 r.providerMessageID ∧
    (∀ f ∈ r.failure, failureColumns f) ∧
  resultConsistent r.status r.finishedAt r.providerMessageID r.failure

instance (r : AttemptRow) : Decidable r.Allowed := inferInstanceAs (Decidable (_ ∧ _ ∧ _ ∧ _ ∧ _ ∧ _ ∧ _ ∧ _))

namespace Db

/-- `DeliveryAttemptRepository.CreateStarted`. -/
def createStarted (db : Db) (attempt : StartedDeliveryAttempt) : Except Error Db := do
  attempt.validate
  match uuidColumn attempt.id, uuidColumn attempt.messageID with
  | some id, some messageID =>
    let row : AttemptRow := {
      id := id
      messageID := messageID
      attemptNo := attempt.attemptNumber
      dispatchGeneration := attempt.dispatchGeneration
      providerKey := attempt.providerKey
      status := .started
      startedAt := truncate attempt.startedAt
      finishedAt := none
      providerMessageID := ""
      failure := none }
    check (row.Allowed) (.deliveryAttemptRepository "create started delivery attempt")
    check (¬ db.attempts.any fun r => r.id = id ∨
        r.messageID = messageID ∧
        (r.attemptNo = row.attemptNo ∨ r.dispatchGeneration = row.dispatchGeneration))
      .deliveryAttemptConflict
    check (db.messages.any (·.snapshot.id = messageID))
      (.deliveryAttemptRepository "create started delivery attempt")
    pure { db with attempts := db.attempts ++ [row] }
  | _, _ => throw (.deliveryAttemptRepository "create started delivery attempt")

/-- The row after `completeDeliveryAttemptQuery`. -/
def completedAttempt (row : AttemptRow) (completion : CompleteDeliveryAttempt) : AttemptRow :=
  { row with
    status := completion.status
    finishedAt := some (truncate completion.finishedAt)
    providerMessageID := completion.providerMessageID
    failure := completion.failure }

/-- `DeliveryAttemptRepository.Complete`: only a STARTED attempt. -/
def complete (db : Db) (completion : CompleteDeliveryAttempt) : Except Error Db := do
  completion.validate
  match uuidColumn completion.attemptID with
  | none => throw (.deliveryAttemptRepository "complete delivery attempt")
  | some id =>
    match db.attempts.find? fun r => r.id = id ∧ r.status = .started with
    | none => throw .deliveryAttemptConflict
    | some row =>
      check ((completedAttempt row completion).Allowed)
        (.deliveryAttemptRepository "complete delivery attempt")
      pure { db with
        attempts := db.attempts.map fun r =>
          if r.id = id ∧ r.status = .started then completedAttempt r completion else r }

end Db

end MailService
