import MailService.Lib.JsonCanon
import MailService.Postgres.Appends
import MailService.Postgres.TransactionManager
/-!
# Accepting a submission

`email_submission.go` and `internal/security/payload`: the command is
normalised, its template resolved and its content sealed; then one transaction
creates the message, or finds the one its idempotency key already has, and
appends its first events.
-/
open Text Checks

namespace MailService

/-- A `map[string]string`. -/
structure StringMap where
  entries : List (String × String)
  nodup : (entries.map Prod.fst).Nodup

def StringMap.empty : StringMap := ⟨[], List.nodup_nil⟩

structure SubmitEmailCommand where
  tenantID : String
  idempotencyKey : String
  recipientEmail : String
  recipientDisplayName : String
  senderIdentityKey : String
  templateKey : String
  templateVersion : Option Nat
  locale : String
  templateVariables : String
  category : EmailCategory
  priority : Nat
  scheduledAt : Option Time
  dispatchDeadline : Time
  duplicateRiskPolicy : DuplicateRiskPolicy
  metadata : Option StringMap

/-! ## Normalisation -/

def isAlphanumeric (c : Char) : Bool := c.isAlpha || c.isDigit

def isKeyChar (c : Char) : Bool := isAlphanumeric c || c ∈ ['.', '_', ':', '-']

/-- `^[A-Za-z0-9._:-]{1,128}$`. -/
def idempotencyKeyPattern (s : String) : Bool :=
  s.toList ≠ [] && s.toList.length ≤ 128 && s.toList.all isKeyChar

/-- `^[A-Za-z0-9][A-Za-z0-9._:-]*$`. -/
def registeredKeyPattern (s : String) : Bool :=
  match s.toList with
  | [] => false
  | c :: cs => isAlphanumeric c && cs.all isKeyChar

/-- `^[A-Za-z]{2,8}(?:-[A-Za-z0-9]{1,8})*$`. -/
def localePattern (s : String) : Bool :=
  match s.toList.splitOn '-' with
  | [] => false
  | language :: subtags =>
    2 ≤ language.length && language.length ≤ 8 && language.all Char.isAlpha &&
      subtags.all fun t => 1 ≤ t.length && t.length ≤ 8 && t.all isAlphanumeric

def validRegisteredKey (value : String) (maximum : Nat) : Bool :=
  len value ≤ maximum && registeredKeyPattern value

def hasLineBreak (s : String) : Bool := containsAny s ['\r', '\n']

def normalizeEmail (L : Libs) (value : String) : Except Error String := do
  check (value ≠ "" ∧ value = trimSpace value ∧ len value ≤ 254 ∧ hasLineBreak value = false)
    (.invalidSubmission "recipient email is invalid")
  check (Mail.isBareAddress value) (.invalidSubmission "recipient email must be one bare address")
  match splitLast '@' value.toList with
  | none | some ([], _) | some (_, []) => throw (.invalidSubmission "recipient email is invalid")
  | some (localPart, domain) =>
    match L.idnaToASCII (.ofList domain) with
    | none => throw (.invalidSubmission "recipient email domain is invalid")
    | some domain =>
      let normalized := String.ofList (localPart ++ '@' :: domain.toList.map Char.toLower)
      check (len normalized ≤ 254) (.invalidSubmission "normalized recipient email is too long")
      pure normalized

/-- The JSON object that `json.Marshal` writes for a map. -/
def StringMap.value (m : StringMap) : Json.Value :=
  .obj (Json.sortMembers Json.goOrder (m.entries.map fun (k, v) => (k, .str v)))

def normalizeMetadata : Option StringMap → Except Error String
  | none => pure "\x7b\x7d"
  | some metadata => do
    check (metadata.entries.length ≤ 16) (.invalidSubmission "metadata has too many entries")
    check (∀ e ∈ metadata.entries, validRegisteredKey e.1 64 ∧ len e.2 ≤ 256 ∧ hasLineBreak e.2 = false)
      (.invalidSubmission "metadata contains an invalid key or value")
    let encoded := Json.marshal .go metadata.value
    check (len encoded ≤ 4 * 1024) (.invalidSubmission "metadata exceeds 4 KiB")
    pure encoded

def canonicalJSONObject (raw : String) (maximum depth : Nat) (field : String) : Except Error String := do
  check (len raw ≠ 0 ∧ len raw ≤ maximum) (.invalidSubmission (field ++ " must be a bounded JSON object"))
  match Json.parse raw with
  | none => throw (.invalidSubmission (field ++ " must be a bounded JSON object"))
  | some decoded =>
    check (Json.depth decoded ≤ Json.maxNestingDepth)
      (.invalidSubmission (field ++ " must be a bounded JSON object"))
    let value := Json.canon Json.goOrder decoded
    check (value.isObject ∧ Json.depth value ≤ depth)
      (.invalidSubmission (field ++ " must be an object within the depth limit"))
    let canonical := Json.marshal .go value
    check (len canonical ≤ maximum) (.invalidSubmission (field ++ " cannot be canonicalized"))
    pure canonical

def normalizeSubmission (L : Libs) (command : SubmitEmailCommand) :
    Except Error (SubmitEmailCommand × String) := do
  check (isUUID command.tenantID) (.invalidSubmission "tenant identity is invalid")
  check (idempotencyKeyPattern command.idempotencyKey)
    (.invalidSubmission "idempotency key has invalid format")
  let email ← normalizeEmail L command.recipientEmail
  check (runeCount command.recipientDisplayName ≤ 128 ∧ hasLineBreak command.recipientDisplayName = false)
    (.invalidSubmission "recipient display name is invalid")
  check (validRegisteredKey command.senderIdentityKey 64)
    (.invalidSubmission "sender identity key has invalid format")
  check (validRegisteredKey command.templateKey 128) (.invalidSubmission "template key has invalid format")
  check (command.templateVersion ≠ some 0) (.invalidSubmission "template version must be positive")
  match L.languageParse command.locale with
  | none => throw (.invalidSubmission "locale must be a valid BCP 47 tag")
  | some locale =>
    check (localePattern command.locale ∧ len command.locale ≤ 35)
      (.invalidSubmission "locale must be a valid BCP 47 tag")
    check (command.category.valid ∧ command.priority ≤ 9 ∧ command.duplicateRiskPolicy.valid)
      (.invalidSubmission "delivery policy is invalid")
    check (command.dispatchDeadline ≠ 0) (.invalidSubmission "dispatch deadline is required")
    let templateVariables ← canonicalJSONObject command.templateVariables (16 * 1024) 8 "template variables"
    let metadata ← normalizeMetadata command.metadata
    pure ({ command with
      recipientEmail := email
      locale := locale
      templateVariables := templateVariables
      dispatchDeadline := truncate command.dispatchDeadline
      scheduledAt := command.scheduledAt.map truncate
      metadata := none }, metadata)

/-! ## Catalog -/

structure ResolveTemplateRequest where
  tenantID : String
  templateKey : String
  requestedVersion : Option Nat
  locale : String
  templateVariables : String

structure ResolvedTemplate where
  key : String
  version : Nat
  locale : String
  templateVariables : String

/-- `ports.SubmissionCatalog`. -/
structure SubmissionCatalog where
  authorizeSender : String → String → Except Error Unit
  resolve : ResolveTemplateRequest → Except Error ResolvedTemplate

def resolvedVariables (resolved : ResolvedTemplate) : Except Error String :=
  (canonicalJSONObject resolved.templateVariables (16 * 1024) 8 "resolved template variables").mapError
    fun _ => .submissionInvariant "resolver returned invalid variables"

def validateResolvedTemplate (command : SubmitEmailCommand) (resolved : ResolvedTemplate) :
    Except Error Unit := do
  check (resolved.key = command.templateKey ∧ resolved.version ≠ 0 ∧ resolved.locale ≠ "")
    (.submissionInvariant "resolver returned mismatched template identity")
  check (∀ version ∈ command.templateVersion, resolved.version = version)
    (.submissionInvariant "resolver changed requested template version")
  check (resolved.locale = command.locale) (.submissionInvariant "resolver changed requested locale")
  let _ ← resolvedVariables resolved

/-! ## Payload -/

/-- The fields of `canonicalPayload` and their types, as its JSON object. The two
`json.RawMessage`s are texts that `json.Marshal` wrote, so that writing them
again leaves them as they are. -/
def payloadValue (command : SubmitEmailCommand) (resolved : ResolvedTemplate)
    (templateVariables metadata : Json.Value) (scheduledAt : Option String) (dispatchDeadline : String) :
    Json.Value :=
  .obj ([("recipient_email", .str command.recipientEmail)] ++
    omitEmpty "recipient_display_name" command.recipientDisplayName ++
    [("sender_identity_key", .str command.senderIdentityKey), ("template_key", .str resolved.key),
      ("template_version", natValue resolved.version), ("locale", .str resolved.locale),
      ("variables", templateVariables), ("category", .str command.category.text),
      ("priority", natValue command.priority)] ++
    (scheduledAt.map fun t => ("scheduled_at", Json.Value.str t)).toList ++
    [("dispatch_deadline", .str dispatchDeadline),
      ("duplicate_risk_policy", .str command.duplicateRiskPolicy.text), ("metadata", metadata)])

def canonicalSubmissionPayload (L : Libs) (command : SubmitEmailCommand) (resolved : ResolvedTemplate)
    (metadata : String) : Except Error String := do
  let templateVariables ← resolvedVariables resolved
  match Json.parse templateVariables, Json.parse metadata, command.scheduledAt.mapM L.formatTime,
    L.formatTime command.dispatchDeadline with
  | some templateVariables, some metadata, some scheduledAt, some dispatchDeadline =>
    pure (Json.marshal .go
      (payloadValue command resolved templateVariables metadata scheduledAt dispatchDeadline))
  | _, _, _, _ => throw (.submissionInvariant "encode canonical payload")

structure ProtectedPayload where
  keyID : String
  ciphertext : Bytes
  deriving DecidableEq, Repr

def ProtectedPayload.validate (p : ProtectedPayload) : Except Error Unit := do
  check (notBlankWithin p.keyID 128) (.invalidProtectedPayload "key id must contain 1..128 bytes")
  check (29 ≤ p.ciphertext.length) (.invalidProtectedPayload "ciphertext is too short")

/-- The random bytes that `Seal` reads. -/
structure Nonce where
  bytes : Bytes
  length_bytes : bytes.length = 12

/-- `payload.Protector`: a key id, AES-GCM and HMAC-SHA256 under its two keys. -/
structure Protector where
  keyID : String
  aeadSeal : Bytes → String → String → Bytes
  aeadOpen : Bytes → Bytes → String → Option String
  hmac : String → Fingerprint

namespace Protector

def fingerprint (p : Protector) (plaintext : String) : Fingerprint :=
  p.hmac ("mail-service/submission-fingerprint/v1\x00" ++ plaintext)

def sealPayload (p : Protector) (nonce : Nonce) (associatedData plaintext : String) :
    Except Error ProtectedPayload := do
  check (associatedData ≠ "" ∧ plaintext ≠ "")
    (.payloadProtection "associated data and plaintext are required")
  let result : ProtectedPayload :=
    ⟨p.keyID, nonce.bytes ++ p.aeadSeal nonce.bytes plaintext associatedData⟩
  result.validate
  pure result

def openPayload (p : Protector) (associatedData : String) (protectedPayload : ProtectedPayload) :
    Except Error String := do
  check (associatedData ≠ "") (.payloadProtection "associated data is required")
  protectedPayload.validate.mapError fun _ => .payloadAuthentication
  check (protectedPayload.keyID = p.keyID) .payloadKeyUnavailable
  check (12 < protectedPayload.ciphertext.length) .payloadAuthentication
  match p.aeadOpen (protectedPayload.ciphertext.take 12)
    (protectedPayload.ciphertext.drop 12) associatedData with
  | some plaintext => pure plaintext
  | none => throw .payloadAuthentication

end Protector

/-! ## Submit -/

def validateSubmissionTimes (now : Time) (scheduledAt : Option Time) (deadline : Time) :
    Except Error Unit := do
  check (now < deadline) (.invalidSubmission "dispatch deadline must be after acceptance")
  match scheduledAt with
  | none => pure ()
  | some scheduled =>
    check (scheduled < deadline) (.invalidSubmission "scheduled time must be before dispatch deadline")
    check (scheduled ≤ now + 365 * 24 * 3600 * 1000000000)
      (.invalidSubmission "scheduled time exceeds the 365 day window")

def maxAttemptsFor : EmailCategory → Nat
  | .critical => 3
  | .transactional => 5
  | .notification => 8
  | .bulk => 10
  | .unknown _ => 1

def maskEmail (email : String) : String :=
  match splitLast '@' email.toList with
  | none | some ([], _) => "***"
  | some (first :: rest, domain) =>
    .ofList (first :: (if rest = [] then [] else "***".toList) ++ '@' :: domain)

/-- What `Submit` has computed when its transaction begins. -/
structure PreparedSubmission where
  normalized : SubmitEmailCommand
  metadata : String
  resolved : ResolvedTemplate
  canonical : String
  messageID : String
  sealedPayload : ProtectedPayload
  fingerprint : Fingerprint

/-- `Submit` up to its transaction, with the id and the nonce it draws. -/
def prepareSubmission (L : Libs) (catalog : SubmissionCatalog) (protector : Protector)
    (command : SubmitEmailCommand) (messageID : Uuid) (nonce : Nonce) :
    Except Error PreparedSubmission := do
  let (normalized, metadata) ← normalizeSubmission L command
  catalog.authorizeSender normalized.tenantID normalized.senderIdentityKey
  let resolved ← catalog.resolve {
    tenantID := normalized.tenantID
    templateKey := normalized.templateKey
    requestedVersion := normalized.templateVersion
    locale := normalized.locale
    templateVariables := normalized.templateVariables }
  validateResolvedTemplate normalized resolved
  let canonical ← canonicalSubmissionPayload L normalized resolved metadata
  let sealedPayload ← protector.sealPayload nonce (normalized.tenantID ++ "/" ++ messageID.text) canonical
  sealedPayload.validate.mapError fun _ => .submissionInvariant "protector returned invalid data"
  pure ⟨normalized, metadata, resolved, canonical, messageID.text, sealedPayload,
    protector.fingerprint canonical⟩

def submissionParams (p : PreparedSubmission) (now : Time) : NewParams where
  id := p.messageID
  now := now
  scheduledAt := p.normalized.scheduledAt
  dispatchDeadline := p.normalized.dispatchDeadline
  maxAttempts := maxAttemptsFor p.normalized.category

/-- The submission's columns of the record. -/
def PreparedSubmission.details (p : PreparedSubmission) : SubmissionDetails where
  senderIdentityKey := p.normalized.senderIdentityKey
  templateKey := p.resolved.key
  templateVersion := p.resolved.version
  locale := p.resolved.locale
  recipientMasked := maskEmail p.normalized.recipientEmail
  payloadKeyID := p.sealedPayload.keyID
  encryptedPayload := p.sealedPayload.ciphertext
  metadata := p.metadata

/-- The record of a prepared submission with its aggregate. -/
def PreparedSubmission.record (p : PreparedSubmission) (aggregate : Message) : MessageRecord where
  tenantID := p.normalized.tenantID
  idempotencyKey := p.normalized.idempotencyKey
  payloadFingerprint := p.fingerprint
  category := p.normalized.category
  priority := p.normalized.priority
  duplicateRiskPolicy := p.normalized.duplicateRiskPolicy
  submission := some p.details
  message := aggregate

/-- The record that the transaction at `now` creates. -/
def submissionRecord (p : PreparedSubmission) (now : Time) : Except Error MessageRecord := do
  validateSubmissionTimes now p.normalized.scheduledAt p.normalized.dispatchDeadline
  let aggregate ← (Message.new (submissionParams p now)).mapError
    fun _ => .submissionInvariant "construct message"
  pure (p.record aggregate)

inductive SubmitEmailDisposition
  | accepted | duplicate
  deriving DecidableEq, Repr

structure SubmitEmailResult where
  disposition : SubmitEmailDisposition
  record : MessageRecord

/-- The transaction of `Submit` at database time `now`. -/
def submitTransaction (L : Libs) (p : PreparedSubmission) (now : Time) (db : Db) :
    Except Error (Db × SubmitEmailResult) := do
  let record ← submissionRecord p now
  let (db, persisted) ← db.create record
  match persisted.disposition with
  | .duplicate => pure (db, ⟨.duplicate, persisted.record⟩)
  | .created =>
    let mapped ← mapAllMessageEvents L record record.message.pendingEvents
    let db ← db.appendDeliveryEvents mapped.delivery
    let db ← db.appendOutbox now mapped.outbox
    pure (db, ⟨.accepted, record.pulled⟩)

/-- `EmailSubmissionService.Submit`. -/
def submit (L : Libs) (catalog : SubmissionCatalog) (protector : Protector) (command : SubmitEmailCommand)
    (messageID : Uuid) (nonce : Nonce) (now : Time) (db : Db) : Except Error (Db × SubmitEmailResult) := do
  let prepared ← prepareSubmission L catalog protector command messageID nonce
  submitTransaction L prepared now db

/-- `Submit` over a database that may fail. A context that has ended before is one that
ends at the begin. -/
def EmailSubmissionService.submit (L : Libs) (catalog : SubmissionCatalog) (protector : Protector)
    (transactor : Transactor SubmitEmailResult) (command : SubmitEmailCommand)
    (messageID : Uuid) (nonce : Nonce) (now : Time) (db : Db) :
    Db × Except (List Error) SubmitEmailResult :=
  match prepareSubmission L catalog protector command messageID nonce with
  | .error e => (db, .error [e])
  | .ok prepared => transactor.run (submitTransaction L prepared now) db

/-- What is stored and answered is what `submit` says, unless the transaction failed. -/
theorem EmailSubmissionService.submit_within (L : Libs) (catalog : SubmissionCatalog) (protector : Protector)
    (transactor : Transactor SubmitEmailResult) (command : SubmitEmailCommand)
    (messageID : Uuid) (nonce : Nonce) (now : Time) (db : Db) :
    WithinTransaction db (MailService.submit L catalog protector command messageID nonce now db)
      (submit L catalog protector transactor command messageID nonce now db).1
      (submit L catalog protector transactor command messageID nonce now db).2 := by
  unfold submit MailService.submit
  split
  · rename_i e herror
    rw [herror]
    exact @WithinTransaction.refused _ _ _ _ none rfl
  · rename_i prepared hprepared
    rw [hprepared]
    exact transactor.within (submitTransaction L prepared now) db

end MailService
