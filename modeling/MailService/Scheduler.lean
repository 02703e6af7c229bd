import MailService.Postgres.Queues
/-!
# The due-message scheduler

`due_message_scheduler.go`: one transaction moves a batch of due messages to
QUEUED, or to EXPIRED when their deadline has passed.
-/
open Checks

namespace MailService

structure SchedulerBatchResult where
  claimed : Nat
  queued : Nat
  expired : Nat
  deriving DecidableEq, Repr

/-- The transition of one due message, and whether it expired. -/
def advanceDue (now : Time) (m : Message) : Except Error (Message × Bool) :=
  if ¬ now < m.dispatchDeadline then
    match m.expire now with
    | (_, .error e) => .error (.message e)
    | (_, .ok false) => .error (.schedulerInvariant "due message was already expired")
    | (m, .ok true) => .ok (m, true)
  else
    match m.queue now with
    | (_, .error e) => .error (.message e)
    | (m, .ok ()) => .ok (m, false)

/-- The loop over the batch: every message is saved, the events are collected. -/
def advanceBatch (L : Libs) (now : Time) : Db → List MessageRecord →
    Except Error (Db × MappedMessageEvents × SchedulerBatchResult)
  | db, [] => pure (db, ⟨[], []⟩, ⟨0, 0, 0⟩)
  | db, record :: records => do
    let (aggregate, expired) ← advanceDue now record.message
    let mapped ← mapAllMessageEvents L (record.withMessage aggregate) aggregate.pendingEvents
    let db ← db.save aggregate
    let (db, rest, result) ← advanceBatch L now db records
    pure (db, ⟨mapped.outbox ++ rest.outbox, mapped.delivery ++ rest.delivery⟩,
      ⟨result.claimed + 1, result.queued + (if expired then 0 else 1),
        result.expired + (if expired then 1 else 0)⟩)

/-- `DueMessageScheduler.RunOnce` at database time `now`. -/
def runOnce (L : Libs) (batchSize : Nat) (locked : String → Bool) (now : Time) (db : Db) :
    Except Error (Db × SchedulerBatchResult) := do
  let batch ← db.lockDue now batchSize locked
  if batch.records = [] then pure (db, ⟨0, 0, 0⟩)
  else do
    check (batch.evaluatedAt ≠ 0) (.schedulerInvariant "due batch has no evaluation time")
    let (db, mapped, result) ← advanceBatch L batch.evaluatedAt db batch.records
    let db ← db.appendDeliveryEvents mapped.delivery
    let db ← db.appendOutbox now mapped.outbox
    pure (db, result)

/-- `isFatalSchedulerError`: the errors that end the process. -/
def isFatalSchedulerError : Error → Bool
  | .schedulerInvariant _ | .messageEventMapping _ | .noPendingMessageEvents | .corruptMessageRecord _
  | .invalidMessageRecord _ | .invalidDeliveryEvent _ | .deliveryEventConflict | .invalidOutboxEvent _ => true
  | _ => false

end MailService
