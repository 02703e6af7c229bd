import MailService.Ports
/-!
# Mapping domain events

`reliable_message_store.go`: the pending events of an aggregate become outbox
events, and its lifecycle changes also become journal rows under the same id.
-/
open Text Checks

namespace MailService

/-- A protobuf `Timestamp`. -/
structure Timestamp where
  seconds : Int
  nanos : Int
  deriving DecidableEq, Repr

/-- What the service calls outside its own code and outside the encodings
modelled here. -/
structure Libs where
  /-- `uuid.NewSHA1`, from the namespace and the name. -/
  newSHA1 : String → String → Uuid
  /-- The text of `time.Time.MarshalJSON`; no text after the year 9999. -/
  formatTime : Time → Option String
  /-- The instant of an RFC 3339 text. -/
  parseTime : String → Option Time
  /-- `idna.Lookup.ToASCII`. -/
  idnaToASCII : String → Option String
  /-- `language.Parse`, as the tag it prints. -/
  languageParse : String → Option String
  /-- `timestamppb.New`. -/
  timestampNew : Time → Timestamp
  /-- `CheckValid` returns no error. -/
  timestampValid : Timestamp → Bool
  /-- `AsTime`. -/
  timestampAsTime : Timestamp → Time

def deliveryEventNamespace : String := "31ac7d78-5960-4bd4-b6ce-3fbeb3a7d66f"

/-- The name under which an event's id is derived. -/
def eventIdentity (messageID : String) (kind : EventKind) (sequence generation : Nat) : String :=
  "mail-message/" ++ messageID ++ "/" ++ kind.text ++ "/" ++ toString sequence ++ "/" ++ toString generation

def stableMessageEventID (L : Libs) (event : Event) : String :=
  (L.newSHA1 deliveryEventNamespace
    (eventIdentity event.messageID event.kind event.sequence event.dispatchGeneration)).text

/-- A member that `omitempty` leaves out. -/
def omitEmpty (name value : String) : List (String × Json.Value) :=
  if value = "" then [] else [(name, .str value)]

def natValue (n : Nat) : Json.Value := .num (toString n)

/-- `messageEventEnvelope`, or nothing when the time has no JSON text. -/
def messageEventEnvelope (L : Libs) (tenantID : String) (event : Event) : Option Json.Value :=
  (L.formatTime event.occurredAt).map fun occurredAt => .obj (
    [("schema_version", natValue 1), ("tenant_id", .str tenantID), ("message_id", .str event.messageID),
      ("event_type", .str event.kind.text)] ++
    omitEmpty "from" event.source.text ++
    [("to", .str event.target.text), ("occurred_at", .str occurredAt), ("sequence", natValue event.sequence),
      ("dispatch_generation", natValue event.dispatchGeneration),
      ("attempt_number", natValue event.attemptNumber)] ++
    omitEmpty "provider_message_id" event.providerMessageID ++
    omitEmpty "reason_code" event.reasonCode ++
    if event.failure.category.valid then
      [("failure", .obj [("category", .str event.failure.category.text), ("code", .str event.failure.code),
        ("retryable", .bool event.failure.retryable)])]
    else [])

def mapMessageEvent (L : Libs) (record : MessageRecord) (event : Event) : Except Error OutboxEvent := do
  check (event.messageID = record.message.id) (.messageEventMapping "aggregate id does not match event")
  check (event.occurredAt ≠ 0 ∧ event.sequence ≠ 0)
    (.messageEventMapping "event time and sequence are required")
  check (event.failure.category.valid ∨ event.failure.code = "" ∧ event.failure.retryable = false)
    (.messageEventMapping "partial failure information")
  match messageEventEnvelope L record.tenantID event with
  | none => throw (.messageEventMapping "encode payload")
  | some envelope =>
    let outboxEvent : OutboxEvent := {
      id := stableMessageEventID L event
      aggregateType := outboxAggregateMailMessage
      aggregateID := event.messageID
      eventType := event.kind.text
      aggregateSequence := event.sequence
      dispatchGeneration := event.dispatchGeneration
      payload := Json.marshal .go envelope }
    outboxEvent.validate.mapError fun _ => .messageEventMapping "outbox event"
    pure outboxEvent

structure MappedMessageEvents where
  outbox : List OutboxEvent
  delivery : List DeliveryEvent
  deriving DecidableEq, Repr

/-- The journal row of a lifecycle event; a dispatch request has none. -/
def mapDeliveryEvent (record : MessageRecord) (event : Event) (id : String) :
    Except Error (List DeliveryEvent) :=
  if event.kind = .dispatchRequested then pure []
  else do
    let deliveryEvent : DeliveryEvent := {
      id := id
      tenantID := record.tenantID
      messageID := event.messageID
      idempotencyKey := record.idempotencyKey
      status := event.target
      sequence := event.sequence
      attemptNumber := event.attemptNumber
      providerMessageID := event.providerMessageID
      failure := if event.failure.category.valid then some event.failure else none
      occurredAt := event.occurredAt }
    deliveryEvent.validate.mapError fun _ => .messageEventMapping "map delivery event"
    pure [deliveryEvent]

def mapEvents (L : Libs) (record : MessageRecord) : List Event → Except Error MappedMessageEvents
  | [] => pure ⟨[], []⟩
  | event :: events => do
    let outboxEvent ← mapMessageEvent L record event
    let delivery ← mapDeliveryEvent record event outboxEvent.id
    let mapped ← mapEvents L record events
    pure ⟨outboxEvent :: mapped.outbox, delivery ++ mapped.delivery⟩

def mapAllMessageEvents (L : Libs) (record : MessageRecord) (events : List Event) :
    Except Error MappedMessageEvents :=
  if events = [] then throw .noPendingMessageEvents else mapEvents L record events

/-! ## What the mapping returns -/

/-- The outbox event of a domain event. -/
def outboxEventOf (L : Libs) (tenantID : String) (event : Event) : OutboxEvent where
  id := stableMessageEventID L event
  aggregateType := outboxAggregateMailMessage
  aggregateID := event.messageID
  eventType := event.kind.text
  aggregateSequence := event.sequence
  dispatchGeneration := event.dispatchGeneration
  payload := ((messageEventEnvelope L tenantID event).map (Json.marshal .go)).getD ""

/-- The journal event of a lifecycle event. -/
def deliveryEventOf (L : Libs) (tenantID idempotencyKey : String) (event : Event) : DeliveryEvent where
  id := stableMessageEventID L event
  tenantID := tenantID
  messageID := event.messageID
  idempotencyKey := idempotencyKey
  status := event.target
  sequence := event.sequence
  attemptNumber := event.attemptNumber
  providerMessageID := event.providerMessageID
  failure := if event.failure.category.valid then some event.failure else none
  occurredAt := event.occurredAt

/-- The lifecycle events among the pending ones. -/
def lifecycleEvents (events : List Event) : List Event := events.filter (·.kind ≠ .dispatchRequested)

/-- What the mapping of one event requires. -/
structure Mappable (L : Libs) (record : MessageRecord) (event : Event) : Prop where
  messageID : event.messageID = record.message.id
  occurredAt : event.occurredAt ≠ 0
  sequence : event.sequence ≠ 0
  failure : event.failure.category.valid ∨ event.failure.code = "" ∧ event.failure.retryable = false
  encoded : (messageEventEnvelope L record.tenantID event).isSome
  outbox : (outboxEventOf L record.tenantID event).validate = .ok ()
  delivery : event.kind ≠ .dispatchRequested →
    (deliveryEventOf L record.tenantID record.idempotencyKey event).validate = .ok ()

theorem mapMessageEvent_eq_ok {L : Libs} {record : MessageRecord} {event : Event} {o : OutboxEvent} :
    mapMessageEvent L record event = .ok o ↔
      event.messageID = record.message.id ∧ (event.occurredAt ≠ 0 ∧ event.sequence ≠ 0) ∧
      (event.failure.category.valid ∨ event.failure.code = "" ∧ event.failure.retryable = false) ∧
      (messageEventEnvelope L record.tenantID event).isSome ∧
      (outboxEventOf L record.tenantID event).validate = .ok () ∧
      o = outboxEventOf L record.tenantID event := by
  simp only [mapMessageEvent, check_bind_eq_ok]
  cases henv : messageEventEnvelope L record.tenantID event with
  | none => simp
  | some envelope =>
    have ho : outboxEventOf L record.tenantID event =
      ⟨stableMessageEventID L event, outboxAggregateMailMessage,
        event.messageID, event.kind.text, event.sequence, event.dispatchGeneration,
        Json.marshal .go envelope⟩ := by
      simp [outboxEventOf, henv]
    simp only [unit_bind_eq_ok, mapError_ok_iff, ho, pure_eq_ok, Option.isSome_some, true_and, @eq_comm _ o]

theorem mapDeliveryEvent_eq_ok {L : Libs} {record : MessageRecord} {event : Event} {ds : List DeliveryEvent} :
    mapDeliveryEvent record event (stableMessageEventID L event) = .ok ds ↔
      (event.kind ≠ .dispatchRequested →
        (deliveryEventOf L record.tenantID record.idempotencyKey event).validate = .ok ()) ∧
      ds = (lifecycleEvents [event]).map (deliveryEventOf L record.tenantID record.idempotencyKey) := by
  unfold mapDeliveryEvent
  by_cases hk : event.kind = .dispatchRequested
  · simp [hk, lifecycleEvents]
  · have hf : lifecycleEvents [event] = [event] := by simp [lifecycleEvents, hk]
    simp only [hk, if_false, unit_bind_eq_ok, mapError_ok_iff, pure_eq_ok, ne_eq,
      not_false_eq_true, true_implies, hf, List.map_cons, List.map_nil, @eq_comm _ ds]
    rfl

theorem mapEvents_eq_ok {L : Libs} {record : MessageRecord} {events : List Event}
    {mapped : MappedMessageEvents} :
    mapEvents L record events = .ok mapped ↔ (∀ e ∈ events, Mappable L record e) ∧
      mapped = ⟨events.map (outboxEventOf L record.tenantID),
        (lifecycleEvents events).map (deliveryEventOf L record.tenantID record.idempotencyKey)⟩ := by
  induction events generalizing mapped with
  | nil => simp [mapEvents, lifecycleEvents, @eq_comm _ mapped]
  | cons e events ih =>
    have hsplit : lifecycleEvents (e :: events) = lifecycleEvents [e] ++ lifecycleEvents events := by
      simp [lifecycleEvents, ← List.filter_append]
    simp only [mapEvents, bind_eq_ok, mapMessageEvent_eq_ok, List.forall_mem_cons, hsplit, List.map_append]
    constructor
    · rintro ⟨o, ⟨h1, ⟨h2, h3⟩, h4, h5, h6, rfl⟩, ds, hds, rest, hrest, h⟩
      obtain ⟨h7, rfl⟩ := mapDeliveryEvent_eq_ok.1 hds
      obtain ⟨hall, rfl⟩ := ih.1 hrest
      exact ⟨⟨⟨h1, h2, h3, h4, h5, h6, h7⟩, hall⟩, (pure_eq_ok.1 h).symm⟩
    · rintro ⟨⟨⟨h1, h2, h3, h4, h5, h6, h7⟩, hall⟩, rfl⟩
      exact ⟨_, ⟨h1, ⟨h2, h3⟩, h4, h5, h6, rfl⟩, _, mapDeliveryEvent_eq_ok.2 ⟨h7, rfl⟩, _,
        ih.2 ⟨hall, rfl⟩, rfl⟩

end MailService
