import MailService.Notification
import MailService.Query
/-!
# The gRPC server

`DeliveryServer`: a request of `mailservice.delivery.v1` is checked and mapped to
a command or a query, and a record to the view that the caller gets. The tenant
is not in the request; the interceptor puts it into the context.
-/
open Text Checks

namespace MailService

/-! ## Messages -/

namespace DeliveryV1

/-- The wire holds any number. -/
inductive EmailCategory
  | unspecified | critical | transactional | notification | bulk
  | unrecognized (number : Int)
  deriving DecidableEq, Repr

inductive DuplicateRiskPolicy
  | unspecified | avoidDuplicate | preferDelivery
  | unrecognized (number : Int)
  deriving DecidableEq, Repr

structure Recipient where
  email : String
  displayName : Option String

structure TemplateReference where
  key : String
  version : Option Nat
  deriving DecidableEq, Repr

structure EmailContent where
  template : Option TemplateReference
  locale : String
  /-- What `json.Marshal` makes of the variables; it refuses numbers that JSON does not have. -/
  templateVariables : Option (Option String)

structure SubmitEmailRequest where
  idempotencyKey : String
  recipient : Option Recipient
  senderIdentityKey : String
  content : Option EmailContent
  category : EmailCategory
  priority : Nat
  scheduledAt : Option Timestamp
  dispatchDeadline : Option Timestamp
  duplicateRiskPolicy : DuplicateRiskPolicy
  metadata : Option StringMap

/-- The status view of a message. -/
structure EmailMessage where
  messageID : String
  idempotencyKey : String
  recipientMaskedEmail : String
  senderIdentityKey : String
  template : TemplateReference
  locale : String
  category : EmailCategory
  priority : Nat
  status : DeliveryStatus
  scheduledAt : Option Timestamp
  dispatchDeadline : Timestamp
  acceptedAt : Timestamp
  updatedAt : Timestamp
  latestSequence : Nat
  latestFailure : Option FailureInfo
  deriving DecidableEq, Repr

inductive SubmitDisposition
  | accepted | duplicate
  deriving DecidableEq, Repr

structure SubmitEmailResponse where
  disposition : SubmitDisposition
  message : EmailMessage
  deriving DecidableEq, Repr

inductive Selector
  | messageID (id : String)
  | idempotencyKey (key : String)

structure GetEmailRequest where
  selector : Option Selector

end DeliveryV1

/-! ## Requests -/

def requiredTimestamp (L : Libs) (value : Option Timestamp) (field : String) : Except Error Time :=
  match value with
  | none => .error (.invalidSubmission (field ++ " is required"))
  | some value => do
    check (L.timestampValid value) (.invalidSubmission (field ++ " is invalid"))
    pure (L.timestampAsTime value)

/-- The scheduled time may be left out. -/
def scheduledTimestamp (L : Libs) (value : Option Timestamp) : Except Error (Option Time) :=
  match value with
  | none => .ok none
  | some value => (requiredTimestamp L (some value) "scheduled time").map some

def categoryFromProto : DeliveryV1.EmailCategory → Except Error EmailCategory
  | .critical => .ok .critical
  | .transactional => .ok .transactional
  | .notification => .ok .notification
  | .bulk => .ok .bulk
  | .unspecified | .unrecognized _ => .error (.invalidSubmission "email category is required")

def duplicateRiskFromProto : DeliveryV1.DuplicateRiskPolicy → Except Error DuplicateRiskPolicy
  | .avoidDuplicate => .ok .avoidDuplicate
  | .preferDelivery => .ok .preferDelivery
  | .unspecified | .unrecognized _ => .error (.invalidSubmission "duplicate risk policy is required")

/-- The parts of a request that must be there. -/
def DeliveryV1.SubmitEmailRequest.parts (request : DeliveryV1.SubmitEmailRequest) :
    Option (DeliveryV1.Recipient × DeliveryV1.TemplateReference × String × Option String) := do
  let recipient ← request.recipient
  let content ← request.content
  let template ← content.template
  let templateVariables ← content.templateVariables
  pure (recipient, template, content.locale, templateVariables)

def encodedVariables (templateVariables : Option String) : Except Error String :=
  match templateVariables with
  | none => .error (.invalidSubmission "template variables cannot be encoded")
  | some text => .ok text

def submitCommandFromProto (L : Libs) (tenantID : String) (request : DeliveryV1.SubmitEmailRequest) :
    Except Error SubmitEmailCommand :=
  match request.parts with
  | none => .error (.invalidSubmission "recipient, content, template and variables are required")
  | some (recipient, template, locale, templateVariables) => do
    let deadline ← requiredTimestamp L request.dispatchDeadline "dispatch deadline"
    let scheduledAt ← scheduledTimestamp L request.scheduledAt
    let variablesText ← encodedVariables templateVariables
    let category ← categoryFromProto request.category
    let risk ← duplicateRiskFromProto request.duplicateRiskPolicy
    check (request.priority ≤ 9) (.invalidSubmission "priority must be in range 0..9")
    pure {
      tenantID := tenantID
      idempotencyKey := request.idempotencyKey
      recipientEmail := recipient.email
      recipientDisplayName := recipient.displayName.getD ""
      senderIdentityKey := request.senderIdentityKey
      templateKey := template.key
      templateVersion := template.version
      locale := locale
      templateVariables := variablesText
      category := category
      priority := request.priority
      scheduledAt := scheduledAt
      dispatchDeadline := deadline
      duplicateRiskPolicy := risk
      metadata := request.metadata }

def getQueryFromProto (tenantID : String) (request : DeliveryV1.GetEmailRequest) :
    Except Error GetEmailQuery :=
  match request.selector with
  | some (.messageID id) => .ok ⟨tenantID, id, ""⟩
  | some (.idempotencyKey key) => .ok ⟨tenantID, "", key⟩
  | none => .error (.invalidEmailQuery "selector is required")

/-! ## Views -/

def categoryToProto : EmailCategory → DeliveryV1.EmailCategory
  | .critical => .critical
  | .transactional => .transactional
  | .notification => .notification
  | .bulk => .bulk
  | .unknown _ => .unspecified

/-- The view of a record, with the status that it maps to. -/
def messageView (L : Libs) (record : MessageRecord) (submission : SubmissionDetails)
    (status : DeliveryV1.DeliveryStatus) : DeliveryV1.EmailMessage where
  messageID := record.message.id
  idempotencyKey := record.idempotencyKey
  recipientMaskedEmail := submission.recipientMasked
  senderIdentityKey := submission.senderIdentityKey
  template := ⟨submission.templateKey, some submission.templateVersion⟩
  locale := submission.locale
  category := categoryToProto record.category
  priority := record.priority
  status := status
  scheduledAt := record.message.snapshot.scheduledAt.map L.timestampNew
  dispatchDeadline := L.timestampNew record.message.snapshot.dispatchDeadline
  acceptedAt := L.timestampNew record.message.snapshot.acceptedAt
  updatedAt := L.timestampNew record.message.snapshot.updatedAt
  latestSequence := record.message.snapshot.latestSequence
  latestFailure := record.message.snapshot.lastFailure.map failureToProto

def messageToProto (L : Libs) (record : MessageRecord) : Except Error DeliveryV1.EmailMessage :=
  match record.validate, record.submission with
  | .ok _, some submission =>
    match statusToProto record.message.snapshot.status with
    | some status => .ok (messageView L record submission status)
    | none => .error (.submissionInvariant "unknown message status")
  | _, _ => .error (.submissionInvariant "persisted message has no safe submission view")

/-! ## The server -/

/-- The error of a call: its code and its message. -/
abbrev GrpcStatus := GrpcCode × String

def Code.grpc : Code → GrpcCode
  | .canceled => .canceled
  | .deadlineExceeded => .deadlineExceeded
  | .invalidArgument => .invalidArgument
  | .permissionDenied => .permissionDenied
  | .notFound => .notFound
  | .alreadyExists => .alreadyExists
  | .unavailable => .unavailable
  | .internal => .internal

/-- `publicError` as the status of a call. -/
def publicStatus (errors : List Error) : GrpcStatus := ((publicErrors errors).1.grpc, (publicErrors errors).2)

def tenantIDFromContext (tenant : Option String) : Except GrpcStatus String :=
  match tenant with
  | none | some "" => .error (.unauthenticated, "authenticated tenant identity is required")
  | some tenantID => .ok tenantID

def dispositionToProto : SubmitEmailDisposition → DeliveryV1.SubmitDisposition
  | .accepted => .accepted
  | .duplicate => .duplicate

namespace DeliveryServer

/-- `SubmitEmail` from what `Submit` returned on. -/
def submitAnswer (L : Libs) (returned : Except (List Error) SubmitEmailResult) :
    Except GrpcStatus DeliveryV1.SubmitEmailResponse := do
  let result ← returned.mapError publicStatus
  let view ← (messageToProto L result.record).mapError (publicStatus [·])
  pure ⟨dispositionToProto result.disposition, view⟩

/-- `SubmitEmail`, with what it leaves in the database. -/
def submitEmail (L : Libs) (catalog : SubmissionCatalog) (protector : Protector)
    (transactor : Transactor SubmitEmailResult) (tenant : Option String)
    (request : DeliveryV1.SubmitEmailRequest) (messageID : Uuid) (nonce : Nonce) (now : Time) (db : Db) :
    Db × Except GrpcStatus DeliveryV1.SubmitEmailResponse :=
  match tenantIDFromContext tenant with
  | .error status => (db, .error status)
  | .ok tenantID =>
    match submitCommandFromProto L tenantID request with
    | .error e => (db, .error (publicStatus [e]))
    | .ok command =>
      let returned := EmailSubmissionService.submit L catalog protector transactor command
        messageID nonce now db
      (returned.1, submitAnswer L returned.2)

/-- `GetEmail`. -/
def getEmail (L : Libs) (tenant : Option String) (request : DeliveryV1.GetEmailRequest) (db : Db) :
    Except GrpcStatus DeliveryV1.EmailMessage := do
  let tenantID ← tenantIDFromContext tenant
  let query ← (getQueryFromProto tenantID request).mapError (publicStatus [·])
  let record ← (EmailQueryService.get db query).mapError (publicStatus [·])
  (messageToProto L record).mapError (publicStatus [·])

end DeliveryServer

end MailService
