import MailService.Dispatching
/-!
# Batches of due messages

Every stored message that waits for a time was accepted before that time, and is
due before its deadline has passed. So a run of the scheduler finds each message
of its batch in a state that it can be queued or expired from, and nothing that
is stored can make it fail.
-/
open Text Checks Table Runs

namespace MailService

open Db

/-! ## The times of a stored message -/

section Rows

variable {L : Libs} {db db' : Db} {P : MessageRow → Prop}

/-- Moves keep what holds of every row, as long as one move does. -/
theorem rows_of_changes
    (hmove : ∀ {now : Time} {r : MessageRow} {m : Message}, P r → Moved now r.message m →
      (updatedRow r m.toSnapshot).Allowed → P (updatedRow r m.toSnapshot))
    (h : Relation.ReflTransGen (Change L ∅) db db') (hp : ∀ r ∈ db.messages, P r) :
    ∀ r ∈ db'.messages, P r := by
  induction h with
  | refl => exact hp
  | tail _ hchange ih =>
    intro x hx
    cases hchange with
    | created h =>
      obtain ⟨u, hu, -⟩ := h.drawn
      exact hu.elim
    | advanced h =>
      rw [h.messages] at hx
      rcases (mem_exchange h.mem).1 hx with rfl | ⟨hx, -⟩
      · exact hmove (ih _ h.mem) h.moved h.allowed
      · exact ih x hx

variable {E : Env} {h : History} {s s' : System} {action : Action}

/-- A step keeps what holds of every new row and is kept by every move. -/
theorem Step.rows (hnew : ∀ {params : NewParams} {m : Message} {row : MessageRow},
    Message.new params = .ok m →
      row.snapshot = m.toSnapshot.truncated → P row)
    (hmove : ∀ {now : Time} {r : MessageRow} {m : Message}, P r → Moved now r.message m →
      (updatedRow r m.toSnapshot).Allowed → P (updatedRow r m.toSnapshot))
    (hstep : Step E s action s') (hs : s.Ok E) (hp : ∀ r ∈ s.db.messages, P r) :
    ∀ r ∈ s'.db.messages, P r := by
  cases hstep.messages hs with
  | accepted _ hsubmitted created _ =>
    intro r hr
    rw [created.messages] at hr
    rcases List.mem_append.1 hr with hr | hr
    · exact hp r hr
    · exact List.mem_singleton.1 hr ▸ hnew hsubmitted.new created.snapshot
  | moved changes => exact rows_of_changes hmove changes hp
  | kept messages => exact fun r hr => hp r (messages ▸ hr)

theorem Reached.rows
    (hnew : ∀ {params : NewParams} {m : Message} {row : MessageRow}, Message.new params = .ok m →
      row.snapshot = m.toSnapshot.truncated → P row)
    (hmove : ∀ {now : Time} {r : MessageRow} {m : Message}, P r → Moved now r.message m →
      (updatedRow r m.toSnapshot).Allowed → P (updatedRow r m.toSnapshot))
    (hr : Reached E h s) : ∀ r ∈ s.db.messages, P r := by
  induction hr with
  | start hinit =>
    obtain ⟨⟨tenants, hdb⟩, -⟩ := hinit
    simp [hdb]
  | next hr hstep ih => exact hstep.rows hnew hmove (Reached.ok hr) ih

/-- A message that waits was accepted before the time it waits for. -/
structure MessageRow.Timed (r : MessageRow) : Prop where
  routed : r.snapshot.status ≠ .accepted
  scheduled : r.snapshot.status = .scheduled →
    ∃ t, r.snapshot.scheduledAt = some t ∧ r.snapshot.acceptedAt ≤ t
  retry : r.snapshot.status = .retryScheduled →
    ∃ t, r.snapshot.nextAttemptAt = some t ∧ r.snapshot.acceptedAt ≤ t

theorem MessageRow.Timed.of_new {params : NewParams} {m : Message} {row : MessageRow}
    (hnew : Message.new params = .ok m) (hrow : row.snapshot = m.toSnapshot.truncated) : row.Timed := by
  obtain ⟨-, rfl⟩ := Message.new_eq_ok.1 hnew
  obtain ⟨tenantID, idempotencyKey, payloadFingerprint, category, priority, duplicateRiskPolicy,
      snapshot, submission⟩ := row
  obtain rfl : snapshot = _ := hrow
  unfold routedMessage
  split
  · rename_i hlater
    obtain ⟨t, ht, hnow⟩ : ∃ t, params.scheduledAt = some t ∧ params.now < t := by
      cases ht : params.scheduledAt with
      | none => simp [ht] at hlater
      | some t => exact ⟨t, rfl, by simpa [ht] using hlater⟩
    refine ⟨nofun, fun _ => ⟨truncate t, ?_, ?_⟩, nofun⟩
    · exact congrArg (Option.map truncate) ht
    · exact truncate_mono (Nat.le_of_lt hnow)
  · exact ⟨nofun, nofun, nofun⟩

theorem MessageRow.Timed.moved {now : Time} {r : MessageRow} {m : Message} (h : r.Timed)
    (hm : Moved now r.message m) (hallowed : (updatedRow r m.toSnapshot).Allowed) :
    (updatedRow r m.toSnapshot).Timed := by
  have hedge := hm.edge
  refine ⟨fun hstatus => ?_, fun hstatus => ?_, fun hstatus => ?_⟩
  · -- no edge leads back to ACCEPTED
    replace hstatus : m.status = .accepted := hstatus
    rw [hstatus] at hedge
    cases hs : r.message.status <;> simp [hs, canTransition, oneOf] at hedge
  · -- only an accepted message is scheduled, and none is stored
    replace hstatus : m.status = .scheduled := hstatus
    rw [hstatus] at hedge
    have hrouted : r.message.status ≠ .accepted := h.routed
    cases hs : r.message.status <;> simp [hs, canTransition, oneOf] at hedge hrouted
  · replace hstatus : m.status = .retryScheduled := hstatus
    obtain ⟨-, -, -, -, -, ⟨-, -, -, -, hupdated, -⟩, -⟩ := hallowed
    cases hm.retryTime with
    | @scheduled t _ next future _ =>
      refine ⟨truncate t, congrArg (Option.map truncate) next, hupdated.trans ?_⟩
      change truncate m.updatedAt ≤ truncate t
      rw [hm.updatedAt]
      exact truncate_mono (Nat.le_of_lt future)
    | cleared status => exact absurd hstatus status
    | untouched _ status => exact absurd hstatus status

theorem Reached.timed (hr : Reached E h s) : ∀ r ∈ s.db.messages, r.Timed :=
  Reached.rows (fun hnew hrow => .of_new hnew hrow) (fun ht hm ha => ht.moved hm ha) hr

end Rows

/-! ## One due message -/

section Due

/-- What the scheduler makes of a message: it is queued before its deadline, and expires
from then on. -/
def advancedMessage (now : Time) (m : Message) : Message :=
  if now < m.dispatchDeadline then (m.queue now).1 else (m.expire now).1

/-- The row that it leaves. -/
def MessageRow.advanced (now : Time) (r : MessageRow) : MessageRow :=
  { r with
    snapshot := { r.snapshot with
      status := if now < r.snapshot.dispatchDeadline then .queued else .expired
      dispatchGeneration := r.snapshot.dispatchGeneration + if now < r.snapshot.dispatchDeadline then 1 else 0
      nextAttemptAt := none
      latestSequence := r.snapshot.latestSequence + 1
      updatedAt := truncate now
      version := r.snapshot.version + 1 } }

variable {E : Env} {h : History} {s : System} {db : Db} {now : Time} {r : MessageRow} {m : Message}

/-- From both states that wait, a message can be queued and can expire. -/
theorem Status.waiting {status : Status} (hs : status = .scheduled ∨ status = .retryScheduled) :
    canTransition status .queued = true ∧ status ≠ .expired ∧
      oneOf status [.accepted, .scheduled, .queued, .retryScheduled] = true := by
  rcases hs with rfl | rfl <;> exact ⟨rfl, nofun, rfl⟩

/-- A message that waits can be queued before its deadline. -/
theorem queue_waiting (hs : m.status = .scheduled ∨ m.status = .retryScheduled)
    (hd : now < m.dispatchDeadline) :
    m.queue now = (advancedMessage now m, .ok ()) := by
  rw [advancedMessage, if_pos hd]
  simp [Message.queue, hd, Status.waiting hs]

/-- It expires from its deadline on. -/
theorem expire_waiting (hs : m.status = .scheduled ∨ m.status = .retryScheduled)
    (hd : ¬ now < m.dispatchDeadline) :
    m.expire now = (advancedMessage now m, .ok true) := by
  rw [advancedMessage, if_neg hd]
  simp [Message.expire, hd, Status.waiting hs]

theorem advanceDue_waiting (hs : m.status = .scheduled ∨ m.status = .retryScheduled) :
    advanceDue now m = .ok (advancedMessage now m, !decide (now < m.dispatchDeadline)) := by
  unfold advanceDue
  by_cases hd : now < m.dispatchDeadline
  · rw [if_neg (not_not.2 hd), queue_waiting hs hd]
    simp [hd]
  · rw [if_pos hd, expire_waiting hs hd]
    simp [hd]

/-- A due message is in one of the two states that wait, and was accepted before. -/
theorem MessageRow.Timed.due (ht : r.Timed) (hdue : db.isDue now r = true) :
    (r.snapshot.status = .scheduled ∨ r.snapshot.status = .retryScheduled) ∧ r.snapshot.acceptedAt ≤ now := by
  refine ⟨isDue_status hdue, ?_⟩
  simp only [isDue, Bool.and_eq_true, Bool.or_eq_true, decide_eq_true_eq] at hdue
  rcases hdue.2 with ⟨hs, hnow⟩ | ⟨hs, hnow⟩
  · obtain ⟨t, hat, hle⟩ := ht.scheduled hs
    rw [hat] at hnow
    exact hle.trans (by simpa using hnow)
  · obtain ⟨t, hat, hle⟩ := ht.retry hs
    rw [hat] at hnow
    exact hle.trans (by simpa using hnow)

/-- A due message can be written after its move. -/
theorem Reached.due_writable (hr : Reached E h s) (hc : E.L.CollisionFree E.ids) (hclock : E.L.Stores now)
    (hmem : r ∈ s.db.messages) (hdue : s.db.isDue now r = true) :
    Writable E.L E.ids now s.db r (advancedMessage now r.message) := by
  obtain ⟨hs, haccepted⟩ := (Reached.timed hr r hmem).due hdue
  have hsound := (Reached.ok hr).sound
  by_cases hd : now < r.snapshot.dispatchDeadline
  · have hperform : r.message.perform (.queue now) = (advancedMessage now r.message, .changed) := by
      rw [Message.perform, queue_waiting hs hd]
      rfl
    exact .of_perform (.queue now) hsound hc hmem hperform haccepted hclock (by simp)
      (by simp [Operation.texts])
  · have hperform : r.message.perform (.expire now) = (advancedMessage now r.message, .changed) := by
      rw [Message.perform, expire_waiting hs hd]
      rfl
    exact .of_perform (.expire now) hsound hc hmem hperform haccepted hclock (by simp)
      (by simp [Operation.texts])

/-- The row after the move, in its own columns. -/
theorem updatedRow_advanced (hs : r.snapshot.status = .scheduled ∨ r.snapshot.status = .retryScheduled)
    (hstored : r.snapshot.truncated = r.snapshot) :
    updatedRow r (advancedMessage now r.message).toSnapshot = r.advanced now := by
  have hscheduled : r.snapshot.scheduledAt.map truncate = r.snapshot.scheduledAt :=
    congrArg Snapshot.scheduledAt hstored
  have hdeadline : truncate r.snapshot.dispatchDeadline = r.snapshot.dispatchDeadline :=
    congrArg Snapshot.dispatchDeadline hstored
  have hprovider : r.snapshot.providerAcceptedAt.map truncate = r.snapshot.providerAcceptedAt :=
    congrArg Snapshot.providerAcceptedAt hstored
  have hwaiting := Status.waiting hs
  by_cases hd : now < r.snapshot.dispatchDeadline
  · simp [updatedRow, advancedMessage, MessageRow.message, Message.queue, Message.changeStatus,
      Message.requestDispatch, Snapshot.truncated, MessageRow.advanced, hd, hwaiting, hscheduled,
      hdeadline, hprovider]
  · simp [updatedRow, advancedMessage, MessageRow.message, Message.expire,
      Message.changeStatus, Snapshot.truncated, MessageRow.advanced, hd, hwaiting, hscheduled,
      hdeadline, hprovider]

/-- The dispatch requests among the events of the move. -/
theorem requests_advanced (hs : m.status = .scheduled ∨ m.status = .retryScheduled)
    (hempty : m.pendingEvents = []) :
    ((advancedMessage now m).pendingEvents.filter (·.kind = .dispatchRequested)).length =
      if now < m.dispatchDeadline then 1 else 0 := by
  have hwaiting := Status.waiting hs
  by_cases hd : now < m.dispatchDeadline
  · simp [advancedMessage, Message.queue, Message.changeStatus, Message.requestDispatch, hd, hwaiting, hempty]
  · simp [advancedMessage, Message.expire, Message.changeStatus, hd, hwaiting, hempty]

end Due

/-! ## A batch -/

section Batch

variable {L : Libs} {ids : Set Uuid} {now : Time} {db db₁ db₂ db₃ : Db}

/-- The moves of a batch. -/
def dueMoves (now : Time) (rows : List MessageRow) : List (MessageRow × Message) :=
  rows.map fun r => (r, advancedMessage now r.message)

def batchResult (now : Time) (rows : List MessageRow) : SchedulerBatchResult where
  claimed := rows.length
  queued := rows.countP fun r => now < r.snapshot.dispatchDeadline
  expired := rows.countP fun r => !decide (now < r.snapshot.dispatchDeadline)

/-- Each row of a batch is found as it was read: the moves before it are of other messages. -/
theorem advanceBatch_writable {rows : List MessageRow} (hn : db₂.messageIDs.Nodup)
    (hmem : ∀ r ∈ rows, r ∈ db₂.messages) (hrows : (rows.map (·.snapshot.id)).Nodup)
    (hs : ∀ r ∈ rows, r.snapshot.status = .scheduled ∨ r.snapshot.status = .retryScheduled)
    (hw : ∀ r ∈ rows, Writable L ids now db r (advancedMessage now r.message)) :
    advanceBatch L now db₂ (rows.map (·.record)) =
      .ok ({ db₂ with messages := movedMessages db₂.messages (dueMoves now rows) },
        ⟨(dueMoves now rows).flatMap (outboxEventsOf L), (dueMoves now rows).flatMap (deliveriesOf L)⟩,
        batchResult now rows) := by
  induction rows generalizing db₂ with
  | nil => rfl
  | cons r rows ih =>
    simp only [List.map_cons, List.nodup_cons, List.mem_map, not_exists, not_and] at hrows
    have hr := hmem r List.mem_cons_self
    have hwritable := hw r List.mem_cons_self
    let r' := updatedRow r (advancedMessage now r.message).toSnapshot
    have hn₁ : { db₂ with messages := exchange db₂.messages r r' }.messageIDs.Nodup := by
      have hlater : r'.snapshot.id = r.snapshot.id := rfl
      rw [messageIDs, map_exchange (fun z : MessageRow => z.snapshot.id) _ hlater]
      exact hn
    have hmem₁ : ∀ z ∈ rows, z ∈ exchange db₂.messages r r' := by
      intro z hz
      exact (mem_exchange hr).2
        (.inr ⟨hmem z (List.mem_cons_of_mem r hz), fun he => hrows.1 z hz (by rw [he])⟩)
    have hrest := ih hn₁ hmem₁ hrows.2 (fun z hz => hs z (List.mem_cons_of_mem r hz)) fun z hz =>
      hw z (List.mem_cons_of_mem r hz)
    rw [List.map_cons, advanceBatch]
    refine bind_eq_ok.2 ⟨_, advanceDue_waiting (hs r List.mem_cons_self), ?_⟩
    refine bind_eq_ok.2 ⟨_, hwritable.ready.mapped hwritable.pending_ne_nil, ?_⟩
    refine bind_eq_ok.2 ⟨_, hwritable.saved_in hn hr, ?_⟩
    refine bind_eq_ok.2 ⟨_, hrest, ?_⟩
    rw [pure_eq_ok]
    refine Prod.ext rfl (Prod.ext rfl ?_)
    have hdeadline : r.record.message.dispatchDeadline = r.snapshot.dispatchDeadline := rfl
    by_cases hd : now < r.snapshot.dispatchDeadline
    · simp [batchResult, hdeadline, hd]
    · simp [batchResult, hdeadline, hd]

theorem appendDeliveryEvents_append {first second : List DeliveryEvent}
    (h₁ : db.appendDeliveryEvents first = .ok db₁) (h₂ : db₁.appendDeliveryEvents second = .ok db₂) :
    db.appendDeliveryEvents (first ++ second) = .ok db₂ := by
  rw [appendDeliveryEvents] at h₁ ⊢
  rw [List.foldlM_append, h₁]
  exact h₂

theorem appendOutbox_append {first second : List OutboxEvent} (h₁ : db.appendOutbox now first = .ok db₁)
    (h₂ : db₁.appendOutbox now second = .ok db₂) : db.appendOutbox now (first ++ second) = .ok db₂ := by
  obtain ⟨hvalid₁, hfold₁⟩ := unit_bind_eq_ok.1 h₁
  obtain ⟨hvalid₂, hfold₂⟩ := unit_bind_eq_ok.1 h₂
  refine unit_bind_eq_ok.2 ⟨?_, ?_⟩
  · rw [forM_eq_ok] at hvalid₁ hvalid₂ ⊢
    exact fun e he => (List.mem_append.1 he).elim (hvalid₁ e) (hvalid₂ e)
  · rw [List.foldlM_append, hfold₁]
    exact hfold₂

/-- The journal rows of moves that can be written are appended, one message after the other. -/
theorem appendDeliveryEvents_moves {moves : List (MessageRow × Message)}
    (hready : ∀ mv ∈ moves, (mv.1.record.withMessage mv.2).Ready L mv.1.tenantID mv.2.pendingEvents)
    (htenant : ∀ mv ∈ moves, ∃ t ∈ db.tenants, t.id = mv.1.tenantID)
    (hmessage : ∀ mv ∈ moves, ∃ r ∈ db.messages, r.snapshot.id = mv.2.id)
    (hkeys : Fresh journalKey db.events (moves.flatMap (journalOf L)))
    (hids : Fresh (·.id) db.events (moves.flatMap (journalOf L))) :
    db.appendDeliveryEvents (moves.flatMap (deliveriesOf L)) =
      .ok { db with events := db.events ++ moves.flatMap (journalOf L) } := by
  induction moves generalizing db with
  | nil => simp [appendDeliveryEvents, pure, Except.pure]
  | cons mv moves ih =>
    simp only [List.flatMap_cons] at hkeys hids ⊢
    obtain ⟨hkeys₁, hkeys₂⟩ := hkeys.split
    obtain ⟨hids₁, hids₂⟩ := hids.split
    have hfirst := (hready mv List.mem_cons_self).appendDeliveryEvents db hkeys₁ hids₁
      (htenant mv List.mem_cons_self) (hmessage mv List.mem_cons_self)
    have hrest := @ih { db with events := db.events ++ journalOf L mv }
      (fun x hx => hready x (List.mem_cons_of_mem mv hx))
      (fun x hx => htenant x (List.mem_cons_of_mem mv hx))
      (fun x hx => hmessage x (List.mem_cons_of_mem mv hx)) hkeys₂ hids₂
    rw [← List.append_assoc]
    exact appendDeliveryEvents_append hfirst hrest

/-- So are their outbox rows. -/
theorem appendOutbox_moves {moves : List (MessageRow × Message)}
    (hready : ∀ mv ∈ moves, (mv.1.record.withMessage mv.2).Ready L mv.1.tenantID mv.2.pendingEvents)
    (hidentities : Fresh (·.event.identity) db.outbox (moves.flatMap (outboxOf L now)))
    (hids : Fresh (·.event.id) db.outbox (moves.flatMap (outboxOf L now))) :
    db.appendOutbox now (moves.flatMap (outboxEventsOf L)) =
      .ok { db with outbox := db.outbox ++ moves.flatMap (outboxOf L now) } := by
  induction moves generalizing db with
  | nil => simp [appendOutbox, pure, Except.pure]
  | cons mv moves ih =>
    simp only [List.flatMap_cons] at hidentities hids ⊢
    obtain ⟨hidentities₁, hidentities₂⟩ := hidentities.split
    obtain ⟨hids₁, hids₂⟩ := hids.split
    have hfirst := (hready mv List.mem_cons_self).appendOutbox db now hidentities₁ hids₁
    have hrest := @ih { db with outbox := db.outbox ++ outboxOf L now mv }
      (fun x hx => hready x (List.mem_cons_of_mem mv hx)) hidentities₂ hids₂
    rw [← List.append_assoc]
    exact appendOutbox_append hfirst hrest

/-- The journal ids of moves whose outbox ids are new. -/
theorem fresh_journalOf {moves : List (MessageRow × Message)} (hs : Sound L ids db)
    (hids : Fresh (·.event.id) db.outbox (moves.flatMap (outboxOf L now))) :
    Fresh (·.id) db.events (moves.flatMap (journalOf L)) := by
  constructor
  · intro j hj x hx heq
    obtain ⟨mv, hmv, hj⟩ := List.mem_flatMap.1 hj
    obtain ⟨e, he, rfl⟩ := List.mem_map.1 hj
    obtain ⟨o, ho, hid⟩ := hs.journal_id hx
    have hmem : storedOutbox now (outboxEventOf L mv.1.tenantID e) ∈ moves.flatMap (outboxOf L now) :=
      List.mem_flatMap.2 ⟨mv, hmv, List.mem_map_of_mem (List.mem_of_mem_filter he)⟩
    exact hids.absent _ hmem o ho (hid.trans heq)
  · have hsub : List.Sublist ((moves.flatMap (journalOf L)).map (·.id))
        ((moves.flatMap (outboxOf L now)).map (·.event.id)) := by
      clear hids
      induction moves with
      | nil => simp
      | cons mv moves ih =>
        simp only [List.flatMap_cons, List.map_append]
        refine List.Sublist.append ?_ ih
        simp only [journalOf, journalRows, outboxOf, outboxRows, List.map_map]
        exact List.filter_sublist.map _
    exact hids.nodup.sublist hsub

/-- The table after a batch: each of its rows is replaced, and the others are as they were. -/
theorem movedMessages_due {rows messages : List MessageRow} (hrows : (rows.map (·.snapshot.id)).Nodup) :
    movedMessages messages (dueMoves now rows) = messages.map fun r =>
      if r ∈ rows then updatedRow r (advancedMessage now r.message).toSnapshot else r := by
  induction rows generalizing messages with
  | nil => simp [movedMessages, dueMoves]
  | cons x rows ih =>
    rw [List.map_cons, List.nodup_cons] at hrows
    have hstep : movedMessages messages (dueMoves now (x :: rows)) =
        movedMessages (exchange messages x (updatedRow x (advancedMessage now x.message).toSnapshot))
          (dueMoves now rows) := rfl
    rw [hstep, ih hrows.2, exchange, List.map_map]
    refine List.map_congr_left fun r _ => ?_
    by_cases hr : r = x
    · -- the new row has the id of the old one, which is not in the rest of the batch
      have hout : updatedRow x (advancedMessage now x.message).toSnapshot ∉ rows := fun hin =>
        hrows.1 (List.mem_map.2 ⟨_, hin, rfl⟩)
      simp [hr, hout]
    · simp [hr]

/-- A run over a batch that can be written succeeds. -/
theorem runOnce_writable {batchSize : Nat} {locked : String → Bool} (hs : Sound L ids db)
    (hc : L.CollisionFree ids) (hnow : now ≠ 0) (hsize : batchSize ≠ 0 ∧ batchSize ≤ 1000)
    (hload : ∀ r ∈ db.dueRows now batchSize locked, r.Loadable)
    (hw : ∀ r ∈ db.dueRows now batchSize locked, Writable L ids now db r (advancedMessage now r.message)) :
    runOnce L batchSize locked now db =
      .ok ((dueMoves now (db.dueRows now batchSize locked)).foldl (applyMove L now) db,
        batchResult now (db.dueRows now batchSize locked)) := by
  have hk := hs.keyed
  have hscan : (db.dueRows now batchSize locked).mapM scanMessageRecord =
      .ok ((db.dueRows now batchSize locked).map (·.record)) :=
    mapM_of_forall fun r hr => scanMessageRecord_eq_ok.2 ⟨hload r hr, rfl⟩
  have hn := @nodup_dueRows now db hk batchSize locked
  have hmem : ∀ r ∈ db.dueRows now batchSize locked, r ∈ db.messages := fun r hr => (mem_dueRows hr).1
  have hstatus : ∀ r ∈ db.dueRows now batchSize locked, r.snapshot.status = .scheduled ∨
      r.snapshot.status = .retryScheduled :=
    fun r hr => isDue_status (mem_dueRows hr).2
  have hlock : db.lockDue now batchSize locked =
      .ok ⟨now, (db.dueRows now batchSize locked).map (·.record)⟩ := by
    rw [lockDue, check_bind hsize, hscan, ok_bind, check_bind (.inr hnow)]
    rfl
  rw [runOnce, hlock, ok_bind]
  clear hlock hscan hload
  generalize db.dueRows now batchSize locked = rows at *
  have hmoves : Moves now db (dueMoves now rows) := by
    refine ⟨fun mv hmv => ?_, fun mv hmv => ?_, ?_⟩
    · obtain ⟨r, hr, rfl⟩ := List.mem_map.1 hmv
      exact hmem r hr
    · obtain ⟨r, hr, rfl⟩ := List.mem_map.1 hmv
      exact (hw r hr).moved
    · rw [dueMoves, List.map_map]
      exact hn
  have hids := fresh_ids hc (fun o ho => hs.known ho) (hmoves.known hs) (hmoves.fresh_outbox (L := L) hk)
  dsimp only
  split
  · rename_i hempty
    obtain rfl := List.map_eq_nil_iff.1 hempty
    rfl
  rw [check_bind hnow, advanceBatch_writable hk.ids hmem hn hstatus hw, ok_bind, foldl_applyMove]
  dsimp only
  have hready : ∀ mv ∈ dueMoves now rows,
      (mv.1.record.withMessage mv.2).Ready L mv.1.tenantID mv.2.pendingEvents := by
    intro mv hmv
    obtain ⟨r, hr, rfl⟩ := List.mem_map.1 hmv
    exact (hw r hr).ready
  have hjournal := fresh_journalOf hs hids
  refine bind_eq_ok.2 ⟨_,
    appendDeliveryEvents_moves hready (fun mv hmv => ?_) (fun mv hmv => ?_) (hmoves.fresh_journal hk)
    hjournal, ?_⟩
  · exact hs.tenants mv.1 (hmoves.mem mv hmv)
  · obtain ⟨r, hr, rfl⟩ := List.mem_map.1 hmv
    refine ⟨updatedRow r (advancedMessage now r.message).toSnapshot, ?_, (hw r hr).moved.id.symm⟩
    rw [movedMessages_due hn]
    exact List.mem_map.2 ⟨r, hmem r hr, if_pos hr⟩
  · refine bind_eq_ok.2 ⟨_, appendOutbox_moves hready (hmoves.fresh_outbox hk) hids, ?_⟩
    rfl

end Batch

/-! ## Runs of the scheduler -/

section Runs

variable {E : Env} {h : History} {s : System} {db : Db} {now : Time} {r : MessageRow}

/-- The predicate of the query, in words. -/
theorem isDue_iff : db.isDue now r = true ↔ (∃ t ∈ db.tenants, t.id = r.tenantID ∧ t.status = .active) ∧
    ((r.snapshot.status = .scheduled ∧ ∃ t ∈ r.snapshot.scheduledAt, t ≤ now) ∨
      (r.snapshot.status = .retryScheduled ∧ ∃ t ∈ r.snapshot.nextAttemptAt, t ≤ now)) := by
  have hany (t : Option Time) : (t.any fun x => decide (x ≤ now)) = true ↔ ∃ x ∈ t, x ≤ now := by
    cases t <;> simp
  simp only [isDue, Bool.and_eq_true, Bool.or_eq_true, decide_eq_true_eq, hany, List.any_eq_true]

/-- A message that waits is due before its deadline has passed. -/
theorem Reached.isDue_of_deadline (hr : Reached E h s) (hmem : r ∈ s.db.messages)
    (htenant : ∃ t ∈ s.db.tenants, t.id = r.tenantID ∧ t.status = .active)
    (hs : r.snapshot.status = .scheduled ∨ r.snapshot.status = .retryScheduled)
    (hdeadline : r.snapshot.dispatchDeadline ≤ now) :
    s.db.isDue now r = true := by
  obtain ⟨-, -, -, -, -, ⟨-, hscheduled, hnext, -⟩, -⟩ := ((Reached.ok hr).sound.rows r hmem).allowed
  have htimed := Reached.timed hr r hmem
  refine isDue_iff.2 ⟨htenant, ?_⟩
  rcases hs with hs | hs
  · obtain ⟨t, ht, -⟩ := htimed.scheduled hs
    exact .inl ⟨hs, t, ht, Nat.le_of_lt ((hscheduled t ht).trans_le hdeadline)⟩
  · obtain ⟨t, ht, -⟩ := htimed.retry hs
    exact .inr ⟨hs, t, ht, Nat.le_of_lt ((hnext t ht).trans_le hdeadline)⟩

/-- What a run did with a batch: each of its messages moved on, and nothing else changed. -/
structure BatchAdvanced (now : Time) (touched : List MessageRow) (db db' : Db) : Prop where
  messages : db'.messages = db.messages.map fun r => if r ∈ touched then r.advanced now else r
  tenants : db'.tenants = db.tenants
  attempts : db'.attempts = db.attempts
  events : ∃ journal, db'.events = db.events ++ journal ∧
    ∀ e ∈ journal, ∃ r ∈ touched, e.messageID = r.snapshot.id
  outbox : ∃ rows, db'.outbox = db.outbox ++ rows ∧
    (∀ o ∈ rows, ∃ r ∈ touched, o.event.aggregateID = r.snapshot.id) ∧
    ∀ r ∈ touched, (rows.filter fun o => o.event.aggregateID = r.snapshot.id ∧
      o.event.eventType = EventKind.dispatchRequested.text).length =
        if now < r.snapshot.dispatchDeadline then 1 else 0

theorem batchResult_claimed (now : Time) (rows : List MessageRow) :
    (batchResult now rows).claimed = (batchResult now rows).queued + (batchResult now rows).expired := by
  have hsplit := List.length_eq_countP_add_countP
      (fun r : MessageRow => decide (now < r.snapshot.dispatchDeadline)) (l := rows)
  refine hsplit.trans (congrArg _ (List.countP_congr fun r _ => ?_))
  simp

/-- The state that a batch leaves, in the terms of the tables. -/
theorem batch_advanced {L : Libs} {ids : Set Uuid} {rows : List MessageRow} (hs : Sound L ids db)
    (hstatus : ∀ r ∈ rows, r.snapshot.status = .scheduled ∨ r.snapshot.status = .retryScheduled)
    (hn : (rows.map (·.snapshot.id)).Nodup)
    (hmoved : ∀ r ∈ rows, Moved now r.message (advancedMessage now r.message)) :
    BatchAdvanced now rows db ((dueMoves now rows).foldl (applyMove L now) db) := by
  have hpending : ∀ r ∈ rows, ∀ e ∈ (advancedMessage now r.message).pendingEvents,
      e.messageID = r.snapshot.id := by
    intro r hr e he
    rcases (hmoved r hr).pending e he with hold | ⟨hid, -⟩
    · simp [MessageRow.message] at hold
    · exact hid.trans (hmoved r hr).id
  rw [foldl_applyMove]
  refine ⟨?_, rfl, rfl, ⟨_, rfl, fun e he => ?_⟩, ⟨_, rfl, fun o ho => ?_, fun r hr => ?_⟩⟩
  · rw [movedMessages_due hn]
    refine List.map_congr_left fun r hr => ?_
    split
    · rename_i hin
      exact updatedRow_advanced (hstatus r hin) (hs.rows r hr).stored
    · rfl
  · obtain ⟨mv, hmv, he⟩ := List.mem_flatMap.1 he
    obtain ⟨r, hr, rfl⟩ := List.mem_map.1 hmv
    obtain ⟨e', he', hid, -⟩ := mem_journalRows he
    exact ⟨r, hr, hid.trans (hpending r hr e' he')⟩
  · obtain ⟨mv, hmv, ho⟩ := List.mem_flatMap.1 ho
    obtain ⟨r, hr, rfl⟩ := List.mem_map.1 hmv
    obtain ⟨e, he, hid, -⟩ := mem_outboxRows ho
    exact ⟨r, hr, hid.trans (hpending r hr e he)⟩
  · have hmv : (r, advancedMessage now r.message) ∈ dueMoves now rows := List.mem_map_of_mem hr
    have hkeys : ((dueMoves now rows).map (·.1.snapshot.id)).Nodup := by
      rw [dueMoves, List.map_map]
      exact hn
    have htags : ∀ mv ∈ dueMoves now rows, ∀ o ∈ outboxOf L now mv,
        o.event.aggregateID = mv.1.snapshot.id := by
      intro mv hmv o ho
      obtain ⟨r, hr, rfl⟩ := List.mem_map.1 hmv
      obtain ⟨e, he, hid, -⟩ := mem_outboxRows ho
      exact hid.trans (hpending r hr e he)
    have hown := filter_flatMap_key
      (fun o : OutboxRow => o.event.eventType = EventKind.dispatchRequested.text) hkeys hmv htags
    simp only [decide_eq_true_eq] at hown
    rw [hown, outboxOf, outboxRows, List.filter_map, List.length_map]
    refine (congrArg List.length (List.filter_congr fun e _ => ?_)).trans
      (requests_advanced (hstatus r hr) rfl)
    have htext : e.kind.text = EventKind.dispatchRequested.text ↔ e.kind = .dispatchRequested := by
      cases e.kind <;> decide
    simp only [Function.comp_apply, storedOutbox, outboxEventOf, htext]

/-- A batch takes the only message when it is due. -/
theorem dueRows_singleton (hmessages : db.messages = [r]) (hdue : db.isDue now r = true) :
    (db.dueRows now (limit + 1) fun _ => false) = [r] := by
  simp [Db.dueRows, hmessages, hdue]

/-- Batches are exact and cannot be blocked: the messages of a batch that can be read move on
and nothing else changes; runs at the same time have different messages; and no message
that waits is overlooked at its deadline. -/
theorem scheduler_batch_exact (hr : Reached E h s) (hc : E.L.CollisionFree E.ids) (hclock : E.L.Stores now)
    {batchSize : Nat} (hsize : batchSize ≠ 0 ∧ batchSize ≤ 1000) (locked : String → Bool)
    (hload : ∀ r ∈ s.db.messages, r.Loadable) :
    (∃ db' result, runOnce E.L batchSize locked now s.db = .ok (db', result) ∧
      BatchAdvanced now (s.db.dueRows now batchSize locked) s.db db' ∧
      result.claimed = (s.db.dueRows now batchSize locked).length ∧
      result.claimed = result.queued + result.expired) ∧
    (∀ r ∈ s.db.dueRows now batchSize locked, r ∈ s.db.messages ∧
      (∃ t ∈ s.db.tenants, t.id = r.tenantID ∧ t.status = .active) ∧
      ((r.snapshot.status = .scheduled ∧ ∃ t ∈ r.snapshot.scheduledAt, t ≤ now) ∨
        (r.snapshot.status = .retryScheduled ∧ ∃ t ∈ r.snapshot.nextAttemptAt, t ≤ now))) ∧
    (∀ (db₂ : Db) (now₂ : Time) (batchSize₂ : Nat) (locked₂ : String → Bool),
      (∀ r ∈ s.db.dueRows now batchSize locked, locked₂ r.snapshot.id = true) →
      ∀ r ∈ s.db.dueRows now batchSize locked, ∀ r₂ ∈ db₂.dueRows now₂ batchSize₂ locked₂,
        r₂.snapshot.id ≠ r.snapshot.id) ∧
    ∀ r ∈ s.db.messages, (∃ t ∈ s.db.tenants, t.id = r.tenantID ∧ t.status = .active) →
      (r.snapshot.status = .scheduled ∨ r.snapshot.status = .retryScheduled) →
      r.snapshot.dispatchDeadline ≤ now →
      s.db.isDue now r = true := by
  have hsound := (Reached.ok hr).sound
  have hdue : ∀ r ∈ s.db.dueRows now batchSize locked, r ∈ s.db.messages ∧ s.db.isDue now r = true :=
    fun r hr => mem_dueRows hr
  have hw : ∀ r ∈ s.db.dueRows now batchSize locked,
      Writable E.L E.ids now s.db r (advancedMessage now r.message) :=
    fun r hin => Reached.due_writable hr hc hclock (hdue r hin).1 (hdue r hin).2
  refine ⟨⟨_, _, runOnce_writable hsound hc hclock.notZero hsize
    (fun r hin => hload r (hdue r hin).1) hw, ?_, rfl, batchResult_claimed _ _⟩,
    fun r hin => ⟨(hdue r hin).1, isDue_iff.1 (hdue r hin).2⟩, ?_, ?_⟩
  · exact batch_advanced hsound (fun r hin => isDue_status (hdue r hin).2)
      (nodup_dueRows hsound.keyed _ _) fun r hin => (hw r hin).moved
  · intro db₂ now₂ batchSize₂ locked₂ hlocked r hin r₂ hin₂ heq
    have hfree : locked₂ r₂.snapshot.id = false := by
      have hmem := List.mem_of_mem_take hin₂
      simp only [List.mem_insertionSort, List.mem_filter, Bool.and_eq_true, Bool.not_eq_true'] at hmem
      exact hmem.2.2
    rw [heq, hlocked r hin] at hfree
    cases hfree
  · exact fun r hmem htenant hs hdeadline => Reached.isDue_of_deadline hr hmem htenant hs hdeadline

/-- A message that was scheduled is queued when its time has come. -/
theorem scheduler_batch_exact_scheduled : ∃ E h s now db' result, Reached E h s ∧
    runOnce E.L 10 (fun _ => false) now s.db = .ok (db', result) ∧ result.claimed = 1 ∧
    result.claimed = result.queued + result.expired := by
  obtain ⟨hm, hlen, hobject, hstored⟩ := Sample.metadata_empty
  obtain ⟨hash, canonical, m, row, hc, hmessage, hrow, hp, ha⟩ :=
    Sample.exists_accepted (.inr rfl) hm hlen hobject hstored
  have hprecise : truncate Sample.now = Sample.now := by decide
  have hr := Reached.accepts (Sample.reached_start hash) rfl hp ha
  have hload : row.Loadable := by
    refine (Reached.loadable_iff hr (fun _ t _ _ hsub => ?_) mem_acceptedDb).2 fun d hd => ?_
    · rcases List.mem_singleton.1 hsub with ⟨rfl, rfl⟩
      exact hprecise
    · rw [hrow] at hd
      rw [← Option.mem_some_iff.1 hd]
      exact hlen.2
  have hsize : 10 ≠ 0 ∧ 10 ≤ 1000 := by decide
  obtain ⟨⟨db', result, hrun, -, hclaimed, hsum⟩, -⟩ := scheduler_batch_exact hr hc
    (Sample.stores hash Sample.later (by simp)) hsize (fun _ => false) (List.forall_mem_singleton.2 hload)
  have htime : truncate Sample.later ≤ Sample.later := by decide
  refine ⟨_, _, _, _, db', result, hr, hrun, ?_, hsum⟩
  rw [hclaimed, dueRows_singleton rfl, List.length_singleton]
  rw [hrow, hmessage]
  exact isDue_iff.2 ⟨⟨_, List.mem_singleton.2 rfl, rfl, rfl⟩, .inl ⟨rfl, _, rfl, htime⟩⟩

end Runs

end MailService
