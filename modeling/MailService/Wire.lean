import MailService.Lib.JsonDecode
import MailService.Relay
import MailService.Worker
/-!
# Between the outbox and the worker

`internal/publisher/rabbitmq` turns a leased outbox row into an AMQP message and
waits for the broker's confirm; `internal/consumer/rabbitmq` turns a delivery
back into a dispatch command, has it processed and settles the delivery. The
`Timestamp` property, which no consumer reads, is left out.
-/
open Text Checks

namespace MailService

/-! ## Messages -/

/-- A value of an AMQP table, as far as the parser tells them apart. -/
inductive HeaderValue
  | text (s : String)
  | long (n : Int)
  | other
  deriving DecidableEq, Repr

/-- `amqp.Delivery`, without the channel's bookkeeping. -/
structure Delivery where
  exchange : String
  routingKey : String
  contentType : String
  persistent : Bool
  messageID : String
  correlationID : String
  type : String
  appID : String
  headers : List (String × HeaderValue)
  body : String
  deriving DecidableEq, Repr

def contentTypeJSON : String := "application/json"

def headerAggregateType : String := "x-mail-aggregate-type"
def headerAggregateID : String := "x-mail-aggregate-id"
def headerAggregateSequence : String := "x-mail-aggregate-sequence"
def headerDispatchGeneration : String := "x-mail-dispatch-generation"
def headerPublishAttempt : String := "x-mail-publish-attempt"

/-! ## Publisher -/

/-- The publisher's `Config`, as far as `Publish` reads it. -/
structure PublisherConfig where
  applicationID : String
  exchange : String
  routes : String → Option String

/-- `DefaultConfig`. -/
def PublisherConfig.default : PublisherConfig where
  applicationID := "mail-service"
  exchange := "mail.events.v1"
  routes eventType :=
    if eventType = EventKind.messageAccepted.text then some "mail.message.accepted.v1"
    else if eventType = EventKind.statusChanged.text then some "mail.message.status.changed.v1"
    else if eventType = EventKind.dispatchRequested.text then some "mail.message.dispatch.requested.v1"
    else none

structure OutboxPublication where
  event : OutboxEvent
  attemptNumber : Nat

def validPublication (p : OutboxPublication) : Bool :=
  p.event.validate = .ok () ∧ p.attemptNumber ≠ 0 ∧ p.event.aggregateSequence ≤ maxInt64 ∧
    p.event.dispatchGeneration ≤ maxInt64

/-- `makePublishing`, as the delivery that a consumer of the routing key sees. -/
def makePublishing (config : PublisherConfig) (routingKey : String) (p : OutboxPublication) : Delivery where
  exchange := config.exchange
  routingKey := routingKey
  contentType := contentTypeJSON
  persistent := true
  messageID := p.event.id
  correlationID := p.event.aggregateID
  type := p.event.eventType
  appID := config.applicationID
  headers := [
    (headerAggregateType, .text p.event.aggregateType), (headerAggregateID, .text p.event.aggregateID),
    (headerAggregateSequence, .long p.event.aggregateSequence),
    (headerDispatchGeneration, .long p.event.dispatchGeneration),
    (headerPublishAttempt, .long p.attemptNumber)]
  body := p.event.payload

/-- What the transport answers to one publication: an error before a confirm is
due, the end of the context, or the confirm with the `Return` that waits on the
lane, if any. -/
inductive BrokerReply
  | closed | unavailable | topology | publish | confirmMissing
  | contextEnded
  | nack
  | ack (returned : Option String)
  deriving DecidableEq, Repr

/-- `Publisher.Publish` from the transport's answer on. -/
def publishReply (eventID : String) : BrokerReply → Except PublishError Unit
  | .closed => .error (.typed "RABBITMQ_CLOSED" true)
  | .unavailable => .error (.typed "RABBITMQ_UNAVAILABLE" true)
  | .topology => .error (.typed "RABBITMQ_TOPOLOGY" true)
  | .publish => .error (.typed "RABBITMQ_PUBLISH" true)
  | .confirmMissing => .error (.typed "RABBITMQ_CONFIRM_MISSING" true)
  | .contextEnded => .error .untyped
  | .nack => .error (.typed "RABBITMQ_NACK" true)
  | .ack none => .ok ()
  | .ack (some returned) =>
    if returned ≠ eventID then .error (.typed "RABBITMQ_PROTOCOL" true)
    else .error (.typed "RABBITMQ_UNROUTABLE" false)

/-- `Publisher.Publish`: the message it sends, if any, and its result. -/
def publish (config : PublisherConfig) (p : OutboxPublication) (reply : BrokerReply) :
    Option Delivery × Except PublishError Unit :=
  if !validPublication p then (none, .error (.typed "RABBITMQ_INVALID_PUBLICATION" false))
  else match config.routes p.event.eventType with
  | none => (none, .error (.typed "RABBITMQ_UNSUPPORTED_EVENT" false))
  | some routingKey => (some (makePublishing config routingKey p), publishReply p.event.id reply)

/-! ## Parser -/

/-- The consumer's `Config`, as far as parsing reads it. -/
structure ConsumerConfig where
  applicationID : String
  exchange : String
  routingKey : String
  additionalRoutingKeys : List String := []

def ConsumerConfig.routingKeys (config : ConsumerConfig) : List String :=
  config.routingKey :: config.additionalRoutingKeys

/-- `DefaultConfig`. -/
def ConsumerConfig.default : ConsumerConfig where
  applicationID := "mail-service"
  exchange := "mail.events.v1"
  routingKey := "mail.message.dispatch.requested.v1"

/-- `DefaultLifecycleConfig`. -/
def ConsumerConfig.defaultLifecycle : ConsumerConfig :=
  { ConsumerConfig.default with
    routingKey := "mail.message.accepted.v1"
    additionalRoutingKeys := ["mail.message.status.changed.v1"] }

/-- `DeliveryValidationError`, by its code. -/
inductive DeliveryError
  | routeMismatch | propertyMismatch | bodySizeInvalid | aggregateTypeInvalid | aggregateIDMismatch
  | sequenceHeaderInvalid | generationHeaderInvalid | publishAttemptHeaderInvalid | bodyJSONInvalid
  | bodyJSONTrailing | envelopeInvalid | envelopeHeaderMismatch
  | commandInvalid
  deriving DecidableEq, Repr

def stringHeader (headers : List (String × HeaderValue)) (name : String) : Option String :=
  match headers.lookup name with
  | some (.text s) => if s = "" then none else some s
  | _ => none

def positiveLongHeader (headers : List (String × HeaderValue)) (name : String) : Option Nat :=
  match headers.lookup name with
  | some (.long n) => if n ≤ 0 then none else some n.toNat
  | _ => none

def nonNegativeLongHeader (headers : List (String × HeaderValue)) (name : String) : Option Nat :=
  match headers.lookup name with
  | some (.long n) => if n < 0 then none else some n.toNat
  | _ => none

structure DispatchEnvelope where
  schemaVersion : Nat
  tenantID : String
  messageID : String
  eventType : String
  occurredAt : Time
  sequence : Nat
  dispatchGeneration : Nat
  deriving DecidableEq, Repr

def dispatchEnvelopeFields : List String :=
  ["schema_version", "tenant_id", "message_id", "event_type", "occurred_at", "sequence",
    "dispatch_generation"]

/-- A JSON time. -/
def asTime (L : Libs) : Json.Value → Option Time
  | .str s => L.parseTime s
  | _ => none

/-- The members of the body decoded into `dispatchEnvelope`. -/
def decodeDispatchEnvelope (L : Libs) (members : List (String × String)) : Option DispatchEnvelope := do
  let schemaVersion ← Json.field (Json.asUint (2 ^ 32)) 0 "schema_version" members
  let tenantID ← Json.field Json.asString "" "tenant_id" members
  let messageID ← Json.field Json.asString "" "message_id" members
  let eventType ← Json.field Json.asString "" "event_type" members
  let occurredAt ← Json.field (asTime L) 0 "occurred_at" members
  let sequence ← Json.field (Json.asUint (2 ^ 64)) 0 "sequence" members
  let dispatchGeneration ← Json.field (Json.asUint (2 ^ 64)) 0 "dispatch_generation" members
  pure ⟨schemaVersion, tenantID, messageID, eventType, occurredAt, sequence, dispatchGeneration⟩

def required {α : Type} (x : Option α) (e : DeliveryError) : Except DeliveryError α :=
  match x with
  | some a => .ok a
  | none => .error e

/-- `ParseDispatchDelivery`. -/
def parseDispatchDelivery (L : Libs) (config : ConsumerConfig) (d : Delivery) :
    Except DeliveryError DispatchCommand := do
  check (d.exchange = config.exchange ∧ d.routingKey = config.routingKey) .routeMismatch
  check (d.contentType = contentTypeJSON ∧ d.persistent ∧ d.type = EventKind.dispatchRequested.text ∧
    d.appID = config.applicationID) .propertyMismatch
  check (len d.body ≠ 0 ∧ len d.body ≤ 64 * 1024) .bodySizeInvalid
  check (stringHeader d.headers headerAggregateType = some outboxAggregateMailMessage) .aggregateTypeInvalid
  let aggregateID ← required (stringHeader d.headers headerAggregateID) .aggregateIDMismatch
  check (aggregateID = d.correlationID) .aggregateIDMismatch
  let sequence ← required (positiveLongHeader d.headers headerAggregateSequence) .sequenceHeaderInvalid
  let generation ← required (positiveLongHeader d.headers headerDispatchGeneration) .generationHeaderInvalid
  check ((positiveLongHeader d.headers headerPublishAttempt).isSome) .publishAttemptHeaderInvalid
  let (members, rest) ← required (Json.decodeMembers dispatchEnvelopeFields false d.body) .bodyJSONInvalid
  let envelope ← required (decodeDispatchEnvelope L members) .bodyJSONInvalid
  check (Json.atEOF rest) .bodyJSONTrailing
  check (envelope.schemaVersion = 1 ∧ envelope.occurredAt ≠ 0 ∧
    envelope.eventType = EventKind.dispatchRequested.text) .envelopeInvalid
  check (envelope.messageID = aggregateID ∧ envelope.sequence = sequence ∧
    envelope.dispatchGeneration = generation) .envelopeHeaderMismatch
  let command : DispatchCommand :=
    ⟨d.messageID, envelope.tenantID, envelope.messageID, envelope.sequence, envelope.dispatchGeneration⟩
  command.validate.mapError fun _ => .commandInvalid
  pure command

structure LifecycleEnvelope where
  schemaVersion : Nat
  tenantID : String
  messageID : String
  eventType : String
  occurredAt : Time
  sequence : Nat
  deriving DecidableEq, Repr

def lifecycleEnvelopeFields : List String :=
  ["schema_version", "tenant_id", "message_id", "event_type", "occurred_at", "sequence"]

/-- The members of the body decoded into `lifecycleEnvelope`. -/
def decodeLifecycleEnvelope (L : Libs) (members : List (String × String)) : Option LifecycleEnvelope := do
  let schemaVersion ← Json.field (Json.asUint (2 ^ 32)) 0 "schema_version" members
  let tenantID ← Json.field Json.asString "" "tenant_id" members
  let messageID ← Json.field Json.asString "" "message_id" members
  let eventType ← Json.field Json.asString "" "event_type" members
  let occurredAt ← Json.field (asTime L) 0 "occurred_at" members
  let sequence ← Json.field (Json.asUint (2 ^ 64)) 0 "sequence" members
  pure ⟨schemaVersion, tenantID, messageID, eventType, occurredAt, sequence⟩

/-- The `Command` of the notification worker. -/
structure NotificationCommand where
  eventID : String
  deriving DecidableEq, Repr

def NotificationCommand.valid (c : NotificationCommand) : Bool := isUUID c.eventID

def lifecycleRouteMatches (routingKey eventType : String) (config : ConsumerConfig) : Bool :=
  let wantRoutingKey :=
    if eventType = EventKind.messageAccepted.text then some "mail.message.accepted.v1"
    else if eventType = EventKind.statusChanged.text then some "mail.message.status.changed.v1"
    else none
  wantRoutingKey = some routingKey ∧ routingKey ∈ config.routingKeys

/-- `ParseLifecycleDelivery`. -/
def parseLifecycleDelivery (L : Libs) (config : ConsumerConfig) (d : Delivery) :
    Except DeliveryError NotificationCommand := do
  check (d.exchange = config.exchange ∧ lifecycleRouteMatches d.routingKey d.type config) .routeMismatch
  check (d.contentType = contentTypeJSON ∧ d.persistent ∧ d.appID = config.applicationID) .propertyMismatch
  check (len d.body ≠ 0 ∧ len d.body ≤ 64 * 1024) .bodySizeInvalid
  check (stringHeader d.headers headerAggregateType = some outboxAggregateMailMessage) .aggregateTypeInvalid
  let aggregateID ← required (stringHeader d.headers headerAggregateID) .aggregateIDMismatch
  check (aggregateID = d.correlationID) .aggregateIDMismatch
  let sequence ← required (positiveLongHeader d.headers headerAggregateSequence) .sequenceHeaderInvalid
  check ((nonNegativeLongHeader d.headers headerDispatchGeneration).isSome) .generationHeaderInvalid
  check ((positiveLongHeader d.headers headerPublishAttempt).isSome) .publishAttemptHeaderInvalid
  let (members, rest) ← required (Json.decodeMembers lifecycleEnvelopeFields false d.body) .bodyJSONInvalid
  let envelope ← required (decodeLifecycleEnvelope L members) .bodyJSONInvalid
  check (Json.atEOF rest) .bodyJSONTrailing
  check (envelope.schemaVersion = 1 ∧ envelope.occurredAt ≠ 0 ∧ envelope.eventType = d.type) .envelopeInvalid
  check (envelope.messageID = aggregateID ∧ envelope.sequence = sequence) .envelopeHeaderMismatch
  let command : NotificationCommand := ⟨d.messageID⟩
  check (command.valid) .commandInvalid
  pure command

/-! ## What the parser accepts -/

theorem required_eq_ok {α : Type} {x : Option α} {e : DeliveryError} {a : α} :
    required x e = .ok a ↔ x = some a := by
  cases x <;> simp [required]

/-- What `ParseDispatchDelivery` accepts. -/
structure Parsed (L : Libs) (config : ConsumerConfig) (d : Delivery) (envelope : DispatchEnvelope)
    (command : DispatchCommand) : Prop where
  route : d.exchange = config.exchange ∧ d.routingKey = config.routingKey
  properties : d.contentType = contentTypeJSON ∧ d.persistent = true ∧
    d.type = EventKind.dispatchRequested.text ∧
    d.appID = config.applicationID
  size : len d.body ≠ 0 ∧ len d.body ≤ 64 * 1024
  aggregateType : stringHeader d.headers headerAggregateType = some outboxAggregateMailMessage
  aggregateID : stringHeader d.headers headerAggregateID = some envelope.messageID
  correlation : envelope.messageID = d.correlationID
  sequence : positiveLongHeader d.headers headerAggregateSequence = some envelope.sequence
  generation : positiveLongHeader d.headers headerDispatchGeneration = some envelope.dispatchGeneration
  attempt : (positiveLongHeader d.headers headerPublishAttempt).isSome = true
  body : ∃ members, Json.structMembers dispatchEnvelopeFields false d.body = some members ∧
    decodeDispatchEnvelope L members = some envelope
  version : envelope.schemaVersion = 1 ∧ envelope.occurredAt ≠ 0 ∧
    envelope.eventType = EventKind.dispatchRequested.text
  parsed : command =
    ⟨d.messageID, envelope.tenantID, envelope.messageID, envelope.sequence, envelope.dispatchGeneration⟩
  valid : command.validate = .ok ()

theorem parseDispatchDelivery_eq_ok {L : Libs} {config : ConsumerConfig} {d : Delivery}
    {command : DispatchCommand} :
    parseDispatchDelivery L config d = .ok command ↔ ∃ envelope, Parsed L config d envelope command := by
  constructor
  · intro h
    simp only [parseDispatchDelivery, bind_eq_ok, check_eq_ok, required_eq_ok,
      mapError_ok_iff, pure_eq_ok] at h
    obtain ⟨_, hroute, _, hprop, _, hsize, _, htype, id, hid, _, hcorr, sequence, hseq,
      generation, hgen, _, hatt, ⟨members, rest⟩, hmembers, envelope, henvelope, _, heof, _, hver, _,
      ⟨rfl, rfl, rfl⟩, _, hvalid, rfl⟩ := h
    have hbody := Json.structMembers_eq_some.2 ⟨rest, hmembers, heof⟩
    exact ⟨envelope, hroute, hprop, hsize, htype, hid, hcorr, hseq, hgen, hatt,
      ⟨members, hbody, henvelope⟩, hver, rfl, hvalid⟩
  · rintro ⟨envelope, h⟩
    have hcommand := h.parsed
    subst hcommand
    obtain ⟨members, hbody, henvelope⟩ := h.body
    obtain ⟨rest, hmembers, heof⟩ := Json.structMembers_eq_some.1 hbody
    simp only [parseDispatchDelivery, bind_eq_ok, check_eq_ok, required_eq_ok, mapError_ok_iff, pure_eq_ok]
    exact ⟨(), h.route, (), h.properties, (), h.size, (), h.aggregateType, _, h.aggregateID,
      (), h.correlation, _, h.sequence, _, h.generation, (), h.attempt, (members, rest), hmembers,
      envelope, henvelope, (), heof, (), h.version, (), ⟨rfl, rfl, rfl⟩, (), h.valid, rfl⟩

theorem positiveLongHeader_eq_some {headers : List (String × HeaderValue)} {name : String} {n m : Nat}
    (hlookup : headers.lookup name = some (.long n)) :
    positiveLongHeader headers name = some m ↔ n ≠ 0 ∧ m = n := by
  simp only [positiveLongHeader, hlookup]
  split
  · simp; omega
  · simp; omega

/-! ## Settlement -/

/-- What the consumer tells the broker about a delivery. -/
inductive Settlement
  | ack
  /-- `Nack` without requeue: to the dead-letter queue. -/
  | deadLetter
  /-- `Reject` with requeue. -/
  | requeue
  deriving DecidableEq, Repr

/-- `handleDelivery` from what `Process` returned on. -/
def settlement {α : Type} : Except Error α → Settlement
  | .ok _ => .ack
  | .error e => if classifyDispatchError e = .poison then .deadLetter else .requeue

end MailService
