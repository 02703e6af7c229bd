import MailService.Submission
import MailService.Wire
/-!
# What a provider is given to send

`delivery_material_builder.go`, `ports/delivery_material.go` and
`internal/content/mimebuilder`: the sealed content of a message is opened,
compared with the row it was stored in, rendered and written as a MIME text. How
the checked headers and parts are written out is left to `write`.
-/
open Text Checks

namespace MailService

/-! ## Payload -/

/-- `canonicalPayload`. -/
structure CanonicalPayload where
  recipientEmail : String
  recipientDisplayName : String
  senderIdentityKey : String
  templateKey : String
  templateVersion : Nat
  locale : String
  templateVariables : String
  category : EmailCategory
  priority : Nat
  scheduledAt : Option Time
  dispatchDeadline : Time
  duplicateRiskPolicy : DuplicateRiskPolicy
  metadata : String
  deriving DecidableEq, Repr

def canonicalPayloadFields : List String :=
  ["recipient_email", "recipient_display_name", "sender_identity_key", "template_key",
    "template_version", "locale", "variables", "category", "priority", "scheduled_at",
    "dispatch_deadline", "duplicate_risk_policy", "metadata"]

/-- The value of the Go string type. -/
def EmailCategory.ofText (value : String) : EmailCategory :=
  if value = "CRITICAL" then .critical
  else if value = "TRANSACTIONAL" then .transactional
  else if value = "NOTIFICATION" then .notification
  else if value = "BULK" then .bulk
  else .unknown value

@[inherit_doc EmailCategory.ofText]
def DuplicateRiskPolicy.ofText (value : String) : DuplicateRiskPolicy :=
  if value = "AVOID_DUPLICATE" then .avoidDuplicate
  else if value = "PREFER_DELIVERY" then .preferDelivery
  else .unknown value

/-- `decodeCanonicalPayload`: one object with no unknown field and nothing after it. -/
def decodeCanonicalPayload (L : Libs) (plaintext : String) : Option CanonicalPayload := do
  let members ← Json.structMembers canonicalPayloadFields true plaintext
  let recipientEmail ← Json.field Json.asString "" "recipient_email" members
  let recipientDisplayName ← Json.field Json.asString "" "recipient_display_name" members
  let senderIdentityKey ← Json.field Json.asString "" "sender_identity_key" members
  let templateKey ← Json.field Json.asString "" "template_key" members
  let templateVersion ← Json.field (Json.asUint (2 ^ 32)) 0 "template_version" members
  let locale ← Json.field Json.asString "" "locale" members
  let category ← Json.field Json.asString "" "category" members
  let priority ← Json.field (Json.asUint (2 ^ 8)) 0 "priority" members
  let scheduledAt ← Json.pointerField (asTime L) "scheduled_at" members
  let dispatchDeadline ← Json.field (asTime L) 0 "dispatch_deadline" members
  let duplicateRiskPolicy ← Json.field Json.asString "" "duplicate_risk_policy" members
  pure {
    recipientEmail := recipientEmail
    recipientDisplayName := recipientDisplayName
    senderIdentityKey := senderIdentityKey
    templateKey := templateKey
    templateVersion := templateVersion
    locale := locale
    templateVariables := (Json.rawField "variables" members).getD ""
    category := .ofText category
    priority := priority
    scheduledAt := scheduledAt
    dispatchDeadline := dispatchDeadline
    duplicateRiskPolicy := .ofText duplicateRiskPolicy
    metadata := (Json.rawField "metadata" members).getD "" }

/-- The fields of the payload that the row repeats. -/
def CanonicalPayload.Matches (payload : CanonicalPayload) (record : MessageRecord)
    (d : SubmissionDetails) : Prop :=
  payload.senderIdentityKey = d.senderIdentityKey ∧ payload.templateKey = d.templateKey ∧
  payload.templateVersion = d.templateVersion ∧ payload.locale = d.locale ∧
  maskEmail payload.recipientEmail = d.recipientMasked ∧ payload.category = record.category ∧
  payload.priority = record.priority ∧ payload.duplicateRiskPolicy = record.duplicateRiskPolicy ∧
  payload.dispatchDeadline = record.message.dispatchDeadline ∧
    payload.scheduledAt = record.message.scheduledAt

instance (payload : CanonicalPayload) (record : MessageRecord) (d : SubmissionDetails) :
    Decidable (payload.Matches record d) :=
  inferInstanceAs (Decidable (_ ∧ _ ∧ _ ∧ _ ∧ _ ∧ _ ∧ _ ∧ _ ∧ _ ∧ _))

/-- `validateDeliveryPayload`, with the text of its error; `d` is the record's submission. -/
def validateDeliveryPayload (L : Libs) (record : MessageRecord) (d : SubmissionDetails)
    (payload : CanonicalPayload) :
    Except String Unit := do
  check (normalizeEmail L payload.recipientEmail = .ok payload.recipientEmail) "recipient is not normalized"
  check (len payload.recipientDisplayName ≤ 512 ∧ hasLineBreak payload.recipientDisplayName = false)
    "recipient display name is invalid"
  check (payload.Matches record d) "encrypted payload does not match persisted safe fields"
  let _ ← (canonicalJSONObject payload.templateVariables (16 * 1024) 8 "template variables").mapError
    fun _ => "template variables are invalid"
  let _ ← (canonicalJSONObject payload.metadata (4 * 1024) 8 "metadata").mapError fun _ =>
    "metadata is invalid"
  check (payload.metadata = d.metadata) "encrypted metadata does not match persisted safe metadata"

/-! ## Rendering -/

/-- What a dependency of the builder fails with, as far as the builder tells errors apart. -/
inductive BuildError
  | context (e : ContextError)
  | returned (e : Error)
  | invalidDeliveryMaterial (detail : String)
  | invalidRenderedEmail (detail : String)
  | invalidSenderIdentity (detail : String)
  | other
  deriving DecidableEq, Repr

structure RenderDeliveryRequest where
  tenantID : String
  templateKey : String
  templateVersion : Nat
  locale : String
  templateVariables : String

structure RenderedEmail where
  subject : String
  textBody : String
  htmlBody : String
  deriving DecidableEq, Repr

def RenderedEmail.validate (e : RenderedEmail) : Except BuildError Unit := do
  check (notBlankWithin e.subject 998 ∧ hasLineBreak e.subject = false)
    (.invalidRenderedEmail "subject is invalid")
  check (notBlankWithin e.textBody (256 * 1024) ∧ notBlankWithin e.htmlBody (512 * 1024))
    (.invalidRenderedEmail "text and HTML bodies are invalid")

structure SenderIdentity where
  key : String
  address : String
  displayName : String
  deriving DecidableEq, Repr

def SenderIdentity.validate (s : SenderIdentity) : Except BuildError Unit :=
  check (notBlankWithin s.key 64 ∧ validBareEmailAddress s.address = true ∧ len s.displayName ≤ 256 ∧
      hasLineBreak s.displayName = false)
    (.invalidSenderIdentity "sender identity fields are invalid")

structure MIMEMessageRequest where
  attemptID : String
  date : Time
  sender : SenderIdentity
  recipientAddress : String
  recipientDisplayName : String
  content : RenderedEmail

def validRecipient (address displayName : String) : Bool :=
  len displayName ≤ 256 && !hasLineBreak displayName && Mail.isBareAddress address

/-- `Builder.Encode`. -/
def Builder.encode (write : MIMEMessageRequest → Except BuildError String) (request : MIMEMessageRequest) :
    Except BuildError String := do
  check (isUUID request.attemptID ∧ request.date ≠ 0)
    (.invalidDeliveryMaterial "attempt identity and date are required")
  request.sender.validate
  request.content.validate
  check (validRecipient request.recipientAddress request.recipientDisplayName)
    (.invalidDeliveryMaterial "recipient is invalid")
  let encoded ← write request
  (DeliveryMaterial.validate ⟨request.sender.address, request.recipientAddress, encoded⟩).mapError
    fun _ => .invalidDeliveryMaterial "MIME message is invalid"
  pure encoded

/-! ## Build -/

def classifyPayloadOpenError : BuildError → MaterialError
  | .context .deadlineExceeded => .material "PAYLOAD_OPEN_TIMEOUT" true
  | .context .canceled => .material "PAYLOAD_OPEN_CANCELED" true
  | .returned .payloadKeyUnavailable => .material "PAYLOAD_KEY_UNAVAILABLE" true
  | .returned .payloadAuthentication | .returned (.invalidProtectedPayload _) =>
    .material "PAYLOAD_AUTHENTICATION_FAILED" false
  | _ => .material "PAYLOAD_OPEN_INTERNAL" true

def classifyTemplateRenderError : BuildError → MaterialError
  | .returned .templateNotFound | .returned .templateNotAllowed | .returned .templateVariables
  | .invalidRenderedEmail _ => .material "TEMPLATE_RENDER_FAILED" false
  | _ => .material "TEMPLATE_RENDER_FAILED" true

def classifySenderError : BuildError → MaterialError
  | .returned .senderIdentityNotAllowed
  | .invalidSenderIdentity _ => .material "SENDER_IDENTITY_UNAVAILABLE" false
  | _ => .material "SENDER_IDENTITY_UNAVAILABLE" true

def classifyEncodeError : BuildError → MaterialError
  | .invalidDeliveryMaterial _ | .invalidRenderedEmail _ | .invalidSenderIdentity _ =>
    .material "MIME_BUILD_FAILED" false
  | _ => .material "MIME_BUILD_FAILED" true

/-- `DeliveryMaterialService`: what it calls. -/
structure DeliveryMaterialService where
  openPayload : String → ProtectedPayload → Except BuildError String
  renderDelivery : RenderDeliveryRequest → Except BuildError RenderedEmail
  resolveSender : String → String → Except BuildError SenderIdentity
  encode : MIMEMessageRequest → Except BuildError String

/-- `DeliveryMaterialService.Build` from the payload on. -/
def DeliveryMaterialService.buildFrom (s : DeliveryMaterialService) (tenantID : String)
    (attempt : StartedDeliveryAttempt) (payload : CanonicalPayload) :
    Except MaterialError DeliveryMaterial := do
  let rendered ← (s.renderDelivery ⟨tenantID, payload.templateKey, payload.templateVersion, payload.locale,
    payload.templateVariables⟩).mapError classifyTemplateRenderError
  rendered.validate.mapError fun _ => .material "RENDERED_EMAIL_INVALID" false
  let sender ← (s.resolveSender tenantID payload.senderIdentityKey).mapError classifySenderError
  let encoded ← (s.encode {
    attemptID := attempt.id
    date := attempt.startedAt
    sender := sender
    recipientAddress := payload.recipientEmail
    recipientDisplayName := payload.recipientDisplayName
    content := rendered }).mapError classifyEncodeError
  let material : DeliveryMaterial := ⟨sender.address, payload.recipientEmail, encoded⟩
  material.validate.mapError fun _ => .material "MATERIAL_OUTPUT_INVALID" false
  pure material

/-- `DeliveryMaterialService.Build`. -/
def DeliveryMaterialService.build (L : Libs) (s : DeliveryMaterialService) (record : MessageRecord)
    (attempt : StartedDeliveryAttempt) : Except MaterialError DeliveryMaterial := do
  record.validate.mapError fun _ => .material "MATERIAL_RECORD_INVALID" false
  match record.submission with
  | none => throw (.material "MATERIAL_RECORD_INVALID" false)
  | some d =>
    check (attempt.validate = .ok () ∧ attempt.messageID = record.message.id ∧
        attempt.attemptNumber = record.message.attemptCount ∧
        attempt.dispatchGeneration = record.message.dispatchGeneration)
      (.material "MATERIAL_ATTEMPT_INVALID" false)
    let plaintext ← (s.openPayload (record.tenantID ++ "/" ++ record.message.id)
      ⟨d.payloadKeyID, d.encryptedPayload⟩).mapError classifyPayloadOpenError
    match decodeCanonicalPayload L plaintext with
    | none => throw (.material "PAYLOAD_SCHEMA_INVALID" false)
    | some payload =>
      (validateDeliveryPayload L record d payload).mapError fun _ =>
        .material "PAYLOAD_IDENTITY_MISMATCH" false
      s.buildFrom record.tenantID attempt payload

end MailService
