import MailService.Postgres.Queues
import MailService.Wire
/-!
# Lifecycle notifications

`internal/application/notification` reads an event of the journal and reports it
to a subscriber; `internal/subscriber/grpcsubscriber` does so over gRPC, and the
lifecycle consumer of `internal/consumer/rabbitmq` settles the delivery by what
came of it.
-/
open Text Checks

namespace MailService

/-! ## The journal as the worker reads it -/

/-- `PersistedDeliveryEvent`. -/
structure PersistedDeliveryEvent extends DeliveryEvent where
  observedAt : Time
  deriving DecidableEq, Repr

def PersistedDeliveryEvent.validate (e : PersistedDeliveryEvent) : Except Error Unit := do
  e.toDeliveryEvent.validate
  check (e.observedAt ≠ 0) (.invalidDeliveryEvent "observed time is required")

/-- `DeliveryEventSubscriberError`, without its cause. -/
structure DeliveryEventSubscriberError where
  code : String
  retryable : Bool
  deriving DecidableEq, Repr

def DeliveryEventSubscriberError.valid (e : DeliveryEventSubscriberError) : Bool := validStableCode e.code

/-- The errors of the worker and of the journal it reads. -/
inductive NotificationError
  | invalidCommand
  | journalEventMissing (eventID : String)
  | notificationInvariant (detail : String)
  | deliveryEventNotFound
  | corruptDeliveryEvent (detail : String)
  | subscriber (error : DeliveryEventSubscriberError)
  | ports (error : Error)
  | context (error : ContextError)
  deriving DecidableEq, Repr

/-- `scanDeliveryEvent`, from a row whose columns have the types of the table. -/
def scanDeliveryEvent (row : DeliveryEvent) (observedAt : Time) :
    Except NotificationError PersistedDeliveryEvent := do
  check (row.sequence ≠ 0) (.corruptDeliveryEvent "persisted counters are outside the domain range")
  let event : PersistedDeliveryEvent := { row with observedAt := observedAt }
  event.validate.mapError fun _ => .corruptDeliveryEvent "persisted event is invalid"
  pure event

/-- `DeliveryEventRepository.GetByID`, where `observedAt` holds the column of that name. -/
def Db.getDeliveryEvent (db : Db) (observedAt : String → Time) (eventID : String) :
    Except NotificationError PersistedDeliveryEvent := do
  check (isUUID eventID) (.ports (.invalidDeliveryEvent "event id must be a UUID"))
  match uuidColumn eventID with
  | none => throw (.ports (.deliveryEventRepository "read event"))
  | some id =>
    match db.events.find? (·.id = id) with
    | none => throw .deliveryEventNotFound
    | some row => scanDeliveryEvent row (observedAt row.id)

/-! ## The worker -/

inductive EventAckDisposition
  | accepted | duplicate | ignoredStale
  | unknown (value : String)
  deriving DecidableEq, Repr

def EventAckDisposition.valid : EventAckDisposition → Bool
  | unknown _ => false
  | _ => true

/-- What `Report` may return beside a typed error. -/
inductive CallbackError
  | typed (error : DeliveryEventSubscriberError)
  | untyped
  deriving DecidableEq, Repr

inductive ErrorClass
  | transient | poison
  deriving DecidableEq, Repr

/-- `ClassifyError`: what redelivery cannot cure is poison. -/
def classifyError : NotificationError → ErrorClass
  | .invalidCommand | .journalEventMissing _ | .notificationInvariant _ | .ports (.invalidDeliveryEvent _)
  | .corruptDeliveryEvent _ => .poison
  | .subscriber error => if !error.valid then .poison else if !error.retryable then .poison else .transient
  | _ => .transient

/-- `Worker.Process` up to the call of the subscriber. -/
def loadEvent (journal : String → Except NotificationError PersistedDeliveryEvent)
    (command : NotificationCommand) :
    Except NotificationError PersistedDeliveryEvent := do
  check (command.valid) .invalidCommand
  let event ← (journal command.eventID).mapError fun e =>
    if e = .deliveryEventNotFound then .journalEventMissing command.eventID else e
  check (event.id = command.eventID) (.notificationInvariant "journal returned another event id")
  event.validate.mapError fun _ => .notificationInvariant "journal returned an invalid event"
  pure event

/-- `Worker.Process` from what the subscriber returned on; `contextError` is that of
the callback's context. -/
def finishReport (contextError : Option ContextError) :
    Except CallbackError EventAckDisposition → Except NotificationError EventAckDisposition
  | .error (.typed error) =>
    if !error.valid then .error (.notificationInvariant "subscriber returned an invalid typed error")
    else .error (.subscriber error)
  | .error .untyped =>
    match contextError with
    | some .deadlineExceeded => .error (.subscriber ⟨"CALLBACK_TIMEOUT", true⟩)
    | some .canceled => .error (.subscriber ⟨"CALLBACK_CANCELED", true⟩)
    | none => .error (.subscriber ⟨"CALLBACK_INTERNAL", true⟩)
  | .ok disposition =>
    if !disposition.valid then .error (.notificationInvariant "subscriber returned unknown disposition")
    else .ok disposition

/-- `handleLifecycleDelivery` from what `Process` returned on. -/
def lifecycleSettlement {α : Type} : Except NotificationError α → Settlement
  | .ok _ => .ack
  | .error e => if classifyError e = .poison then .deadLetter else .requeue

/-! ## The messages of `mailservice.delivery.v1` -/

namespace DeliveryV1

inductive DeliveryStatus
  | unspecified | accepted | scheduled | queued | sending | retryScheduled | submissionUnknown
  | providerAccepted | delivered | bounced | complained | canceled | expired
  | permanentlyFailed | deadLettered | unknownFinal
  deriving DecidableEq, Repr

inductive FailureCategory
  | unspecified | validation | authentication | rateLimited | recipientRejected | contentRejected
  | providerUnavailable | network | timeoutBeforeSend | submissionUnknown | internal
  deriving DecidableEq, Repr

/-- The wire holds any number. -/
inductive EventAckDisposition
  | unspecified | accepted | duplicate | ignoredStale
  | unrecognized (number : Int)
  deriving DecidableEq, Repr

structure FailureInfo where
  category : FailureCategory
  code : String
  retryable : Bool
  deriving DecidableEq, Repr

/-- The event of a `ReportDeliveryEventRequest`. -/
structure DeliveryEvent where
  eventID : String
  messageID : String
  idempotencyKey : String
  status : DeliveryStatus
  occurredAt : Timestamp
  observedAt : Timestamp
  sequence : Nat
  attemptNumber : Nat
  providerMessageID : Option String
  failure : Option FailureInfo
  deriving DecidableEq, Repr

end DeliveryV1

/-! ## The gRPC client -/

def statusToProto : Status → Option DeliveryV1.DeliveryStatus
  | .accepted => some .accepted
  | .scheduled => some .scheduled
  | .queued => some .queued
  | .sending => some .sending
  | .retryScheduled => some .retryScheduled
  | .submissionUnknown => some .submissionUnknown
  | .providerAccepted => some .providerAccepted
  | .delivered => some .delivered
  | .bounced => some .bounced
  | .complained => some .complained
  | .canceled => some .canceled
  | .expired => some .expired
  | .permanentlyFailed => some .permanentlyFailed
  | .deadLettered => some .deadLettered
  | .unknownFinal => some .unknownFinal
  | .unknown _ => none

/-- The map's entry of a category, or the zero value. -/
def failureCategoryToProto : FailureCategory → DeliveryV1.FailureCategory
  | .validation => .validation
  | .authentication => .authentication
  | .rateLimited => .rateLimited
  | .recipientRejected => .recipientRejected
  | .contentRejected => .contentRejected
  | .providerDown => .providerUnavailable
  | .network => .network
  | .timeoutBeforeSend => .timeoutBeforeSend
  | .submissionUnknown => .submissionUnknown
  | .internal => .internal
  | .unknown _ => .unspecified

def failureToProto (f : Failure) : DeliveryV1.FailureInfo :=
  ⟨failureCategoryToProto f.category, f.code, f.retryable⟩

/-- Why `reportRequest` makes no request. -/
inductive RequestError
  | event (error : Error)
  | occurredAt | observedAt | status
  deriving DecidableEq, Repr

def reportRequest (L : Libs) (event : PersistedDeliveryEvent) :
    Except RequestError DeliveryV1.DeliveryEvent := do
  event.validate.mapError .event
  let occurredAt := L.timestampNew event.occurredAt
  let observedAt := L.timestampNew event.observedAt
  check (L.timestampValid occurredAt) .occurredAt
  check (L.timestampValid observedAt) .observedAt
  match statusToProto event.status with
  | none => throw .status
  | some status => pure {
      eventID := event.id
      messageID := event.messageID
      idempotencyKey := event.idempotencyKey
      status := status
      occurredAt := occurredAt
      observedAt := observedAt
      sequence := event.sequence
      attemptNumber := event.attemptNumber
      providerMessageID := if event.providerMessageID ≠ "" then some event.providerMessageID else none
      failure := event.failure.map failureToProto }

def dispositionFromProto : DeliveryV1.EventAckDisposition → Option EventAckDisposition
  | .accepted => some .accepted
  | .duplicate => some .duplicate
  | .ignoredStale => some .ignoredStale
  | .unspecified | .unrecognized _ => none

/-- `codes.Code`. -/
inductive GrpcCode
  | ok | canceled | unknown | invalidArgument | deadlineExceeded | notFound | alreadyExists | permissionDenied
  | resourceExhausted | failedPrecondition | aborted | outOfRange | unimplemented | internal
  | unavailable | dataLoss
  | unauthenticated
  | other (number : Nat)
  deriving DecidableEq, Repr

def grpcCodeName : GrpcCode → String
  | .ok => "OK"
  | .canceled => "CANCELED"
  | .unknown => "UNKNOWN"
  | .invalidArgument => "INVALID_ARGUMENT"
  | .deadlineExceeded => "DEADLINE_EXCEEDED"
  | .notFound => "NOT_FOUND"
  | .alreadyExists => "ALREADY_EXISTS"
  | .permissionDenied => "PERMISSION_DENIED"
  | .resourceExhausted => "RESOURCE_EXHAUSTED"
  | .failedPrecondition => "FAILED_PRECONDITION"
  | .aborted => "ABORTED"
  | .outOfRange => "OUT_OF_RANGE"
  | .unimplemented => "UNIMPLEMENTED"
  | .internal => "INTERNAL"
  | .unavailable => "UNAVAILABLE"
  | .dataLoss => "DATA_LOSS"
  | .unauthenticated => "UNAUTHENTICATED"
  | .other _ => "UNKNOWN_CODE"

/-- `classifyGRPCError`; the names are in upper case already. -/
def classifyGRPCError (code : GrpcCode) : DeliveryEventSubscriberError :=
  ⟨"GRPC_" ++ grpcCodeName code, match code with
    | .canceled | .deadlineExceeded | .unknown | .notFound | .resourceExhausted | .aborted
    | .internal | .unavailable
    | .dataLoss => true
    | _ => false⟩

/-- What the call of the subscriber ends in: the code of its error, no response, or
a response. -/
inductive CallbackReply
  | failed (code : GrpcCode)
  | missing
  | response (eventID : String) (disposition : DeliveryV1.EventAckDisposition)
  deriving DecidableEq, Repr

/-- `Client.Report` from the reply to its request on. -/
def reportReply (event : PersistedDeliveryEvent) : CallbackReply → Except CallbackError EventAckDisposition
  | .failed code => .error (.typed (classifyGRPCError code))
  | .missing => .error (.typed ⟨"GRPC_PROTOCOL_ERROR", false⟩)
  | .response eventID disposition =>
    if eventID ≠ event.id then .error (.typed ⟨"GRPC_PROTOCOL_ERROR", false⟩)
    else match dispositionFromProto disposition with
    | none => .error (.typed ⟨"GRPC_PROTOCOL_ERROR", false⟩)
    | some disposition => .ok disposition

/-- `Client.Report` when it makes no request. -/
def reportFailure : DeliveryEventSubscriberError := ⟨"CALLBACK_EVENT_INVALID", false⟩

end MailService
