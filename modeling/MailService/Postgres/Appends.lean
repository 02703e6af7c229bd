import MailService.Postgres.Tables
/-!
# Appending to the journal and the outbox

The two append-only tables. An insert that meets a row with the same identity
compares the contents: equal rows are left alone, others are a conflict.
-/
open Text Checks

namespace MailService

/-! ## Journal -/

/-- The CHECK constraints of `delivery_events`. -/
def eventColumns (e : DeliveryEvent) : Prop :=
  notBtrimEmpty e.idempotencyKey ∧ varchar 255 e.idempotencyKey ∧ e.status.valid ∧ 0 < e.sequence ∧
  varchar 512 e.providerMessageID ∧ (e.providerMessageID ≠ "" → notBtrimEmpty e.providerMessageID) ∧
  ∀ f ∈ e.failure, failureColumns f

instance (e : DeliveryEvent) : Decidable (eventColumns e) :=
  inferInstanceAs (Decidable (_ ∧ _ ∧ _ ∧ _ ∧ _ ∧ _ ∧ _))

/-- The row that `deliveryEventArguments` describes. -/
def eventRow (e : DeliveryEvent) : Option DeliveryEvent :=
  match uuidColumn e.id, uuidColumn e.tenantID, uuidColumn e.messageID with
  | some id, some tenantID, some messageID => some
      { e with id := id, tenantID := tenantID, messageID := messageID, occurredAt := truncate e.occurredAt }
  | _, _, _ => none

namespace Db

/-- One step of `DeliveryEventRepository.Append`: a row, or nothing if the same
event is there already. -/
def appendDeliveryEvent (db : Db) (event : DeliveryEvent) : Except Error Db := do
  event.validate
  match eventRow event with
  | none => throw (.deliveryEventRepository "append event")
  | some row =>
    check (eventColumns row) (.deliveryEventRepository "append event")
    match db.events.find? fun r => r.messageID = row.messageID ∧ r.sequence = row.sequence with
    | some stored =>
      check (stored = row) .deliveryEventConflict
      pure db
    | none =>
      check (¬ db.events.any (·.id = row.id)) (.deliveryEventRepository "append event")
      check (db.tenants.any (·.id = row.tenantID) ∧ db.messages.any (·.snapshot.id = row.messageID))
        (.deliveryEventRepository "append event")
      check (row.id = event.id) .deliveryEventConflict
      pure { db with events := db.events ++ [row] }

def appendDeliveryEvents (db : Db) (events : List DeliveryEvent) : Except Error Db :=
  events.foldlM appendDeliveryEvent db

end Db

/-! ## Outbox -/

/-- What `outbox_events_identity_unique` compares. -/
def OutboxEvent.identity (e : OutboxEvent) : String × String × String × Nat × Nat :=
  (e.aggregateType, e.aggregateID, e.eventType, e.aggregateSequence, e.dispatchGeneration)

/-- The CHECK constraints of `outbox_events` on the columns of the event. -/
def outboxColumns (e : OutboxEvent) : Prop :=
  notBtrimEmpty e.aggregateType ∧ varchar 64 e.aggregateType ∧ notBtrimEmpty e.eventType ∧
    varchar 128 e.eventType ∧
  0 < e.aggregateSequence ∧ isJSONObject e.payload = true

instance (e : OutboxEvent) : Decidable (outboxColumns e) :=
  inferInstanceAs (Decidable (_ ∧ _ ∧ _ ∧ _ ∧ _ ∧ _))

/-- The row that `insertOutboxEventQuery` describes in a transaction at `now`. -/
def outboxRow (now : Time) (e : OutboxEvent) : Option OutboxRow :=
  match uuidColumn e.id, uuidColumn e.aggregateID, jsonbColumn e.payload with
  | some id, some aggregateID, some payload => some {
      event := { e with id := id, aggregateID := aggregateID, payload := payload }
      status := .pending, availableAt := now, lease := none, attemptCount := 0, lastErrorCode := none
      createdAt := now, publishedAt := none }
  | _, _, _ => none

namespace Db

/-- One insert of `OutboxRepository.Append`. -/
def insertOutboxEvent (now : Time) (db : Db) (event : OutboxEvent) : Except Error Db :=
  match outboxRow now event with
  | none => throw (.outboxRepository "append outbox event")
  | some row => do
    check (outboxColumns row.event) (.outboxRepository "append outbox event")
    match db.outbox.find? fun r => r.event.identity = row.event.identity with
    | some stored =>
      check (stored.event.payload = row.event.payload) .outboxConflict
      pure db
    | none =>
      check (¬ db.outbox.any (·.event.id = row.event.id)) .outboxIDConflict
      pure { db with outbox := db.outbox ++ [row] }

/-- `OutboxRepository.Append`: every event is validated before the first insert. -/
def appendOutbox (db : Db) (now : Time) (events : List OutboxEvent) : Except Error Db := do
  events.forM fun e => do
    e.validate
    check (e.aggregateSequence ≤ maxInt64 ∧ e.dispatchGeneration ≤ maxInt64)
      (.invalidOutboxEvent "counters exceed PostgreSQL BIGINT range")
  events.foldlM (insertOutboxEvent now) db

end Db

end MailService
