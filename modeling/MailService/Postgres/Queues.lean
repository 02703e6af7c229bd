import MailService.Postgres.Appends
import Mathlib.Data.List.Sort
/-!
# The queues in the database

Due messages for the scheduler and leased outbox rows for the relays: both are
read with `FOR UPDATE SKIP LOCKED`, so the rows that other transactions hold
(`locked`) are passed over.
-/
open Text Checks

namespace MailService

/-! ## Due messages -/

structure DueMessageBatch where
  evaluatedAt : Time
  records : List MessageRecord

namespace Db

/-- The predicate of `lockDueMessagesQuery` at `now`. -/
def isDue (db : Db) (now : Time) (r : MessageRow) : Bool :=
  db.tenants.any (fun t => t.id = r.tenantID ∧ t.status = .active) &&
    (r.snapshot.status = .scheduled && r.snapshot.scheduledAt.any (· ≤ now) ||
      r.snapshot.status = .retryScheduled && r.snapshot.nextAttemptAt.any (· ≤ now))

/-- The time by which the query orders a row. -/
def dueAt (r : MessageRow) : Time :=
  (if r.snapshot.status = .scheduled then r.snapshot.scheduledAt else r.snapshot.nextAttemptAt).getD 0

/-- `ORDER BY` due time, priority descending, id. -/
def dueBefore (a b : MessageRow) : Prop :=
  dueAt a < dueAt b ∨ dueAt a = dueAt b ∧
    (b.priority < a.priority ∨ b.priority = a.priority ∧ a.snapshot.id ≤ b.snapshot.id)

instance (a b : MessageRow) : Decidable (dueBefore a b) := inferInstanceAs (Decidable (_ ∨ _))

/-- The rows `lockDueMessagesQuery` returns; `locked` rows are skipped. -/
def dueRows (db : Db) (now : Time) (limit : Nat) (locked : String → Bool) : List MessageRow :=
  ((db.messages.filter fun r => db.isDue now r && !locked r.snapshot.id).insertionSort dueBefore).take limit

/-- `DueMessageRepository.LockDue`. -/
def lockDue (db : Db) (now : Time) (limit : Nat) (locked : String → Bool) : Except Error DueMessageBatch := do
  check (limit ≠ 0 ∧ limit ≤ 1000) .invalidDueMessageQuery
  let records ← (db.dueRows now limit locked).mapM scanMessageRecord
  check (records = [] ∨ now ≠ 0) (.corruptMessageRecord "database returned an empty Scheduler timestamp")
  pure ⟨now, records⟩

end Db

/-! ## Outbox leases -/

def validateLeaseToken (value : String) : Except Error Unit :=
  check (trimmedWithin value 255 ∧ containsAny value ['\r', '\n'] = false)
    (.invalidOutboxDelivery "lease token must contain 1..255 bytes without surrounding whitespace")

def second : Nat := 1000000000

structure OutboxClaimQuery where
  leaseToken : String
  leaseDuration : Nat
  limit : Nat

def OutboxClaimQuery.validate (q : OutboxClaimQuery) : Except Error Unit := do
  validateLeaseToken q.leaseToken
  check (second ≤ q.leaseDuration ∧ q.leaseDuration ≤ 3600 * second)
    (.invalidOutboxDelivery "lease duration must be in range 1s..1h0m0s")
  check (q.limit ≠ 0 ∧ q.limit ≤ 1000) (.invalidOutboxDelivery "limit must be in range 1..1000")

structure LeasedOutboxEvent where
  event : OutboxEvent
  leaseToken : String
  leaseUntil : Time
  attemptNumber : Nat
  deriving DecidableEq, Repr

def LeasedOutboxEvent.validate (e : LeasedOutboxEvent) : Except Error Unit := do
  e.event.validate
  validateLeaseToken e.leaseToken
  check (e.leaseUntil ≠ 0) (.invalidOutboxDelivery "lease expiry is required")
  check (e.attemptNumber ≠ 0 ∧ e.attemptNumber ≤ maxInt32)
    (.invalidOutboxDelivery "attempt number must fit a positive PostgreSQL INTEGER")

structure OutboxClaimBatch where
  evaluatedAt : Time
  events : List LeasedOutboxEvent
  deriving DecidableEq, Repr

structure OutboxLeaseReference where
  eventID : String
  leaseToken : String
  attemptNumber : Nat
  deriving DecidableEq, Repr

def OutboxLeaseReference.validate (r : OutboxLeaseReference) : Except Error Unit := do
  check (isUUID r.eventID) (.invalidOutboxDelivery "event id must be a UUID")
  validateLeaseToken r.leaseToken
  check (r.attemptNumber ≠ 0 ∧ r.attemptNumber ≤ maxInt32)
    (.invalidOutboxDelivery "attempt number must fit a positive PostgreSQL INTEGER")

/-- `INTERVAL '1 millisecond'` times the whole milliseconds of a duration. -/
def wholeMilliseconds (d : Nat) : Nat := d / 1000000 * 1000000

namespace Db

/-- The candidates of `claimPendingOutboxQuery` at `now`. -/
def claimable (now : Time) (r : OutboxRow) : Bool :=
  r.status = .pending && r.availableAt ≤ now && r.lease.all (fun (_, leaseUntil) => leaseUntil ≤ now)

def availableBefore (a b : OutboxRow) : Prop :=
  a.availableAt < b.availableAt ∨ a.availableAt = b.availableAt ∧
    (a.createdAt < b.createdAt ∨ a.createdAt = b.createdAt ∧ a.event.id ≤ b.event.id)

instance (a b : OutboxRow) : Decidable (availableBefore a b) := inferInstanceAs (Decidable (_ ∨ _))

/-- The rows the query claims; `locked` rows are skipped. -/
def candidates (db : Db) (now : Time) (limit : Nat) (locked : String → Bool) : List OutboxRow :=
  ((db.outbox.filter fun r => claimable now r && !locked r.event.id).insertionSort availableBefore).take limit

/-- `scanLeasedOutboxEvent` of a row claimed at `now`. -/
def scanLeased (now : Time) (r : OutboxRow) : Except Error LeasedOutboxEvent := do
  check (r.attemptCount ≠ maxInt32)
    (.corruptOutboxDelivery "persisted counters are outside the claimable range")
  match r.lease with
  | none => throw (.outboxDeliveryRepository "scan claimed outbox event")
  | some (leaseToken, leaseUntil) =>
    let leased : LeasedOutboxEvent := ⟨r.event, leaseToken, leaseUntil, r.attemptCount + 1⟩
    leased.validate.mapError fun _ => .corruptOutboxDelivery "claimed event failed validation"
    check (now ≠ 0 ∧ now < leaseUntil) (.corruptOutboxDelivery "claim timestamps are invalid")
    pure leased

def leasedRow (query : OutboxClaimQuery) (now : Time) (r : OutboxRow) : OutboxRow :=
  { r with lease := some (query.leaseToken, now + wholeMilliseconds query.leaseDuration) }

/-- `OutboxDeliveryRepository.ClaimPending`. -/
def claimPending (db : Db) (query : OutboxClaimQuery) (now : Time) (locked : String → Bool) :
    Except Error (Db × OutboxClaimBatch) := do
  query.validate
  check (varchar 255 query.leaseToken ∧ notBtrimEmpty query.leaseToken)
    (.outboxDeliveryRepository "claim pending outbox events")
  let claimed := db.candidates now query.limit locked
  let events ← (claimed.map (leasedRow query now)).mapM (scanLeased now)
  pure ({ db with outbox := db.outbox.map fun r =>
      if claimed.any (·.event.id = r.event.id) then leasedRow query now r else r }, ⟨now, events⟩)

/-- The fence of every completion: the row is still leased to this claim. -/
def holdsLease (reference : OutboxLeaseReference) (id : String) (r : OutboxRow) : Bool :=
  r.event.id = id ∧ r.status = .pending ∧ r.lease.map Prod.fst = some reference.leaseToken ∧
    r.attemptCount + 1 = reference.attemptNumber

/-- The update that all three completions make on the row they hold. -/
def completeLease (db : Db) (reference : OutboxLeaseReference) (operation : String)
    (f : OutboxRow → OutboxRow) :
    Except Error Db :=
  match uuidColumn reference.eventID with
  | none => .error (.outboxDeliveryRepository operation)
  | some id =>
    if db.outbox.any (holdsLease reference id) then
      .ok { db with outbox := db.outbox.map fun r => if holdsLease reference id r then f r else r }
    else .error .outboxLeaseLost

def markPublished (db : Db) (reference : OutboxLeaseReference) (now : Time) : Except Error Db := do
  reference.validate
  db.completeLease reference "mark outbox published" fun r =>
    { r with
      status := .published, attemptCount := reference.attemptNumber, lastErrorCode := none, lease := none
      publishedAt := some now }

def reschedule (db : Db) (reference : OutboxLeaseReference) (delay : Nat) (errorCode : String) (now : Time) :
    Except Error Db := do
  reference.validate
  check (delay ≤ 24 * 3600 * second) (.invalidOutboxDelivery "retry delay must be in range 0..24h0m0s")
  check (validStableCode errorCode)
    (.invalidOutboxDelivery "error code must be a stable 1..128 byte identifier")
  db.completeLease reference "reschedule outbox event" fun r =>
    { r with
      attemptCount := reference.attemptNumber, lastErrorCode := some errorCode
      availableAt := now + wholeMilliseconds delay, lease := none }

def deadLetter (db : Db) (reference : OutboxLeaseReference) (errorCode : String) : Except Error Db := do
  reference.validate
  check (validStableCode errorCode)
    (.invalidOutboxDelivery "error code must be a stable 1..128 byte identifier")
  db.completeLease reference "dead-letter outbox event" fun r =>
    { r with
      status := .deadLettered, attemptCount := reference.attemptNumber, lastErrorCode := some errorCode
      lease := none }

end Db

end MailService
