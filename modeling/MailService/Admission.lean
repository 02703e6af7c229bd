import MailService.Progress
/-!
# Submissions that are accepted

The transaction of `Submit` succeeds where its key and its id are free and the
texts it brings can be stored.
-/
open Text Checks Table

namespace MailService

open Db

variable {L : Libs} {ids : Set Uuid} {db : Db} {now : Time} {m : Message} {e : Event} {p : PreparedSubmission}
  {row : MessageRow}

/-! ## The transaction -/

/-- A prepared submission whose record can be stored, under a key and an id that are free. -/
structure Acceptable (L : Libs) (ids : Set Uuid) (now : Time) (db : Db) (p : PreparedSubmission) (m : Message)
    (row : MessageRow) : Prop where
  sound : Sound L ids db
  collisionFree : L.CollisionFree ids
  drawn : ∃ u ∈ ids, p.messageID = u.text
  times : validateSubmissionTimes now p.normalized.scheduledAt p.normalized.dispatchDeadline = .ok ()
  new : Message.new (submissionParams p now) = .ok m
  valid : (p.record m).validate = .ok ()
  stored : createRow (p.record m) = some row
  allowed : row.Allowed
  tenant : ∃ t ∈ db.tenants, t.id = row.tenantID
  key : db.findKey row.tenantID row.idempotencyKey = none
  fresh : p.messageID ∉ db.messageIDs
  clock : L.Stores now

/-- The state after its acceptance. -/
def acceptedDb (L : Libs) (now : Time) (db : Db) (p : PreparedSubmission) (m : Message)
    (row : MessageRow) : Db :=
  { db with
    messages := db.messages ++ [row]
    events := db.events ++ journalRows L row.tenantID p.normalized.idempotencyKey m.pendingEvents
    outbox := db.outbox ++ outboxRows L now p.normalized.tenantID m.pendingEvents }

theorem mem_acceptedDb : row ∈ (acceptedDb L now db p m row).messages :=
  List.mem_append_right _ (List.mem_singleton.2 rfl)

theorem Event.Silent.plain (h : e.Silent) (hsource : MailService.Plain e.source.text) : e.Plain := by
  refine ⟨hsource, ?_, ?_, ?_⟩
  · rw [h.providerMessageID]
    decide
  · rw [h.reasonCode]
    decide
  · rw [h.failure]
    decide

/-- The counters of a new message fit their columns. -/
theorem created_counters (h : Moved now (acceptedMessage (submissionParams p now)) m) :
    databaseCounters (p.record m).message.snapshot = .ok () := by
  have hversion : m.version = 0 := h.version
  have hcounted := h.counted
    (acceptedMessage_counted (maxAttemptsFor_bounds _).1.ne' (maxAttemptsFor_bounds _).2)
  obtain ⟨hsequence, hgeneration, hattempts⟩ := hcounted.fits
  have hmax := hcounted.maxAttempts_le
  have h32 : 10 ≤ maxInt32 ∧ 0 ≤ maxInt64 := by decide
  rw [databaseCounters, check_eq_ok]
  exact ⟨hgeneration, hsequence, by change m.version ≤ _; omega,
    hattempts, by change m.toSnapshot.maxAttempts ≤ _; omega⟩

namespace Acceptable

variable (h : Acceptable L ids now db p m row)

include h

theorem moved : Moved now (acceptedMessage (submissionParams p now)) m := (Message.new_moved h.new).1

theorem messageID : row.snapshot.id = p.messageID ∧ m.id = p.messageID := by
  obtain ⟨hid, -⟩ := createRow_eq_some h.stored
  obtain ⟨u, -, hu⟩ := h.drawn
  have hmid : m.id = p.messageID := h.moved.id
  change uuidColumn m.id = _ at hid
  rw [hmid, hu, uuidColumn_text, Option.some.injEq] at hid
  exact ⟨hid.symm.trans hu.symm, hmid⟩

theorem column : uuidColumn p.normalized.tenantID = some row.tenantID := (createRow_eq_some h.stored).2.1

theorem ready : (p.record m).Ready L row.tenantID m.pendingEvents := by
  obtain ⟨-, -, hkey, -⟩ := createRow_eq_some h.stored
  obtain ⟨u, -, hu⟩ := h.drawn
  obtain ⟨hcolumn, hcolumn', -⟩ := h.allowed
  have hvalid := h.valid
  simp only [MessageRecord.validate, check_bind_eq_ok] at hvalid
  refine ⟨⟨hvalid.1, ⟨u, h.messageID.2.trans hu⟩, hvalid.2.1⟩,
    h.column, by rw [← hkey]; exact ⟨hcolumn, hcolumn'⟩, fun e he => ?_⟩
  · have hsilent := Message.new_silent h.new e he
    refine ⟨Message.new_proper h.new (maxAttemptsFor_bounds _).2 e he, hsilent.plain ?_, ?_⟩
    · rcases h.moved.source_valid e he with hold | hvalid
      · simp only [acceptedMessage, List.mem_singleton] at hold
        subst hold
        exact (by decide : Plain "")
      · exact Status.plain_text hvalid
    · rw [Message.new_occurredAt h.new e he]
      exact h.clock

/-- The message is inserted: its key and its id are free. -/
theorem created : db.create (p.record m) =
    .ok ({ db with messages := db.messages ++ [row] }, ⟨.created, p.record m⟩) := by
  obtain ⟨-, htenant, hkey, -⟩ := createRow_eq_some h.stored
  have hversion : m.version = 0 := h.moved.version
  have hfree : ¬ db.messages.any (·.snapshot.id = row.snapshot.id) = true := by
    have hfresh := h.fresh
    rw [h.messageID.1]
    simpa [messageIDs] using hfresh
  have hknown : ¬ ¬ db.tenants.any (·.id = row.tenantID) = true := by
    rw [not_not]
    simpa using h.tenant
  have hinsert : db.insertMessage (p.record m) = .ok (some { db with messages := db.messages ++ [row] }) := by
    simp only [insertMessage, h.stored]
    rw [if_neg (not_not.2 h.allowed), if_neg (by simp [h.key]), if_neg hfree, if_neg hknown]
  have hvalid : (p.record m).validateForCreate = .ok () := by
    rw [MessageRecord.validateForCreate, h.valid, ok_bind, check_eq_ok]
    exact hversion
  rw [create, hvalid, ok_bind, created_counters h.moved, ok_bind, hinsert]
  rfl

theorem fresh' : (submissionParams p now).id ∉ db.messageIDs := h.fresh

theorem outboxIDs : Fresh (·.event.id) db.outbox
    (outboxRows L now p.normalized.tenantID m.pendingEvents) := by
  have hmax : (submissionParams p now).maxAttempts ≠ 0 ∧ (submissionParams p now).maxAttempts ≤ 10 :=
    ⟨(maxAttemptsFor_bounds _).1.ne', (maxAttemptsFor_bounds _).2⟩
  exact fresh_ids h.collisionFree (fun o ho => h.sound.known ho) (known_created h.moved h.drawn hmax)
    (fresh_createdOutbox h.sound.keyed h.fresh' h.moved)

end Acceptable

theorem submitTransaction_accepts (h : Acceptable L ids now db p m row) :
    submitTransaction L p now db = .ok (acceptedDb L now db p m row, ⟨.accepted, (p.record m).pulled⟩) := by
  have hrecord : submissionRecord p now = .ok (p.record m) :=
    submissionRecord_eq_ok.2 ⟨h.times, m, h.new, rfl⟩
  have hready := h.ready
  have hpending : m.pendingEvents ≠ [] := by
    obtain ⟨details, hevents⟩ := h.moved.events
    simp [hevents]
  have hjournal : Fresh journalKey db.events
      (journalRows L row.tenantID p.normalized.idempotencyKey m.pendingEvents) :=
    fresh_createdJournal h.sound.keyed h.fresh' h.moved
  have hjournalIDs : Fresh (·.id) db.events
      (journalRows L row.tenantID p.normalized.idempotencyKey m.pendingEvents) :=
    fresh_journalIDs h.sound h.outboxIDs
  have hdelivered := hready.appendDeliveryEvents
      { db with messages := db.messages ++ [row] } hjournal hjournalIDs ?_ ?_
  · have hsent := hready.appendOutbox { acceptedDb L now db p m row with outbox := db.outbox } now
      (fresh_createdOutbox h.sound.keyed h.fresh' h.moved) h.outboxIDs
    rw [submitTransaction, hrecord, ok_bind, h.created, ok_bind]
    exact bind_eq_ok.2 ⟨_, hready.mapped hpending, bind_eq_ok.2 ⟨_, hdelivered, bind_eq_ok.2 ⟨_, hsent, rfl⟩⟩⟩
  · exact h.tenant
  · exact ⟨row, by simp, h.messageID.1.trans h.messageID.2.symm⟩

/-! ## The row -/

/-- The row of a new message whose tenant is stored as `tenant`, and whose metadata is returned as
`stored`. -/
def PreparedSubmission.newRow (p : PreparedSubmission) (m : Message) (tenant stored : String) :
    MessageRow where
  tenantID := tenant
  idempotencyKey := p.normalized.idempotencyKey
  payloadFingerprint := p.fingerprint
  category := p.normalized.category
  priority := p.normalized.priority
  duplicateRiskPolicy := p.normalized.duplicateRiskPolicy
  snapshot := m.toSnapshot.truncated
  submission := some { p.details with metadata := stored }

section Times

variable {u : Uuid} (hid : p.messageID = u.text)
  (htimes : validateSubmissionTimes now p.normalized.scheduledAt p.normalized.dispatchDeadline = .ok ())
  (hnow : now ≠ 0)

include hid htimes hnow

theorem PreparedSubmission.params_valid : (submissionParams p now).Valid := by
  have hid' : trimSpace p.messageID ≠ "" := by
    rw [hid, Uuid.trimSpace_text]
    exact Uuid.text_ne_empty u
  simp only [validateSubmissionTimes, check_bind_eq_ok] at htimes
  refine ⟨hid', hnow, htimes.1, (maxAttemptsFor_bounds _).1.ne', fun t ht => ?_⟩
  have ht' : p.normalized.scheduledAt = some t := ht
  rw [ht'] at htimes
  simp only [check_bind_eq_ok] at htimes
  exact htimes.2.1

/-- The lifecycle columns of a new message; its times are whole microseconds. -/
theorem PreparedSubmission.snapshot_allowed
    (hdispatch : truncate p.normalized.dispatchDeadline = p.normalized.dispatchDeadline)
    (hschedule : p.normalized.scheduledAt.map truncate = p.normalized.scheduledAt) :
    snapshotColumns (routedMessage (submissionParams p now)).toSnapshot.truncated := by
  have hvalid := PreparedSubmission.params_valid hid htimes hnow
  have hdeadline : truncate now < truncate p.normalized.dispatchDeadline := by
    rw [hdispatch]
    exact (truncate_le now).trans_lt hvalid.deadline
  have hscheduled : ∀ t ∈ p.normalized.scheduledAt.map truncate,
      t < truncate p.normalized.dispatchDeadline := by
    rw [hdispatch, hschedule]
    exact hvalid.scheduledAt
  have hempty : varchar 512 "" := by decide
  have hmax := (maxAttemptsFor_bounds p.normalized.category).1
  have hretry : Status.scheduled ≠ .retryScheduled ∧ Status.queued ≠ .retryScheduled := by decide
  have hattempt : ¬ requiresAttempt .scheduled = true ∧ ¬ requiresAttempt .queued = true := by decide
  have hgeneration : ¬ requiresDispatchGeneration .scheduled = true := by decide
  unfold routedMessage
  split
  · exact ⟨rfl, hscheduled, fun t ht => absurd ht (Option.not_mem_none t), hdeadline, le_rfl,
      ⟨hmax, Nat.zero_le _⟩, Nat.succ_pos _, fun hc => absurd hc hretry.1,
      fun hc => absurd hc hgeneration, fun hc => absurd hc hattempt.1,
      hempty, fun f hf => absurd hf (Option.not_mem_none f)⟩
  · exact ⟨rfl, hscheduled, fun t ht => absurd ht (Option.not_mem_none t), hdeadline, le_rfl,
      ⟨hmax, Nat.zero_le _⟩, Nat.succ_pos _, fun hc => absurd hc hretry.2, fun _ => Nat.one_pos,
      fun hc => absurd hc hattempt.2, hempty, fun f hf => absurd hf (Option.not_mem_none f)⟩

end Times

theorem PreparedSubmission.createRow_record {id tenant stored : String} (hid : uuidColumn m.id = some id)
    (htenant : uuidColumn p.normalized.tenantID = some tenant)
    (hmetadata : jsonbColumn p.metadata = some stored) :
    createRow (p.record m) =
      some { p.newRow m tenant stored with snapshot := { m.toSnapshot.truncated with id := id } } := by
  have hmessage : uuidColumn (p.record m).message.id = some id := hid
  have hsubmission : (p.record m).submission.mapM (fun d => (jsonbColumn d.metadata).map fun metadata =>
      { d with metadata := metadata }) = some (some { p.details with metadata := stored }) := by
    change Option.mapM _ (some p.details) = _
    have hcolumn : jsonbColumn p.details.metadata = some stored := hmetadata
    simp [Option.mapM_some, hcolumn]
  rw [createRow, hmessage, hsubmission, show uuidColumn (p.record m).tenantID = _ from htenant]
  rfl

theorem PreparedSubmission.record_validate_eq_ok : (p.record m).validate = .ok () ↔
    isUUID p.normalized.tenantID = true ∧ trimmedWithin p.normalized.idempotencyKey 255 ∧
    p.normalized.category.valid = true ∧ p.normalized.priority ≤ 9 ∧
    p.normalized.duplicateRiskPolicy.valid = true ∧
    p.details.validate = .ok () ∧ isUUID m.id = true := by
  rw [MessageRecord.validate, check_bind_eq_ok, check_bind_eq_ok, check_bind_eq_ok,
    check_bind_eq_ok, check_bind_eq_ok]
  refine and_congr_right fun _ => and_congr_right fun _ => and_congr_right fun _ => and_congr_right fun _ =>
    and_congr_right fun _ => ?_
  exact unit_bind_eq_ok.trans (and_congr_right fun _ => check_eq_ok)

/-- A prepared submission whose texts can be stored. -/
structure PreparedSubmission.Storable (p : PreparedSubmission) (tenant stored : String) : Prop where
  tenantID : isUUID p.normalized.tenantID = true ∧ uuidColumn p.normalized.tenantID = some tenant
  idempotencyKey : trimmedWithin p.normalized.idempotencyKey 255 ∧ Plain p.normalized.idempotencyKey
  policy : p.normalized.category.valid = true ∧ p.normalized.priority ≤ 9 ∧
    p.normalized.duplicateRiskPolicy.valid = true
  dispatchDeadline : truncate p.normalized.dispatchDeadline = p.normalized.dispatchDeadline
  scheduledAt : p.normalized.scheduledAt.map truncate = p.normalized.scheduledAt
  details : p.details.validate = .ok ()
  metadata : jsonbColumn p.metadata = some stored
  columns : submissionColumns { p.details with metadata := stored }

namespace PreparedSubmission.Storable

variable {tenant stored : String} (h : p.Storable tenant stored) {u : Uuid} (hid : p.messageID = u.text)
  (htimes : validateSubmissionTimes now p.normalized.scheduledAt p.normalized.dispatchDeadline = .ok ())
  (hnow : now ≠ 0)

theorem record_valid (h : p.Storable tenant stored) (hid : p.messageID = u.text) (hm : m.id = p.messageID) :
    (p.record m).validate = .ok () := by
  have hmessage : isUUID m.id = true := by
    rw [hm, hid]
    exact isUUID_of_uuidColumn (uuidColumn_text u)
  exact record_validate_eq_ok.2
    ⟨h.tenantID.1, h.idempotencyKey.1, h.policy.1, h.policy.2.1, h.policy.2.2, h.details, hmessage⟩

include h in
theorem stored_row (hid : p.messageID = u.text) (hm : m.id = p.messageID) :
    createRow (p.record m) = some (p.newRow m tenant stored) := by
  have hmessage : uuidColumn m.id = some m.id := by
    rw [hm, hid]
    exact uuidColumn_text u
  exact createRow_record hmessage h.tenantID.2 h.metadata

include h hid htimes hnow

theorem allowed : (p.newRow (routedMessage (submissionParams p now)) tenant stored).Allowed := by
  refine ⟨notBtrimEmpty_of_trimSpace h.idempotencyKey.1.1,
    (varchar_of_len h.idempotencyKey.1.2.2).2 h.idempotencyKey.2, h.policy.1, h.policy.2.1, h.policy.2.2,
    snapshot_allowed hid htimes hnow h.dispatchDeadline h.scheduledAt, ?_⟩
  simpa [newRow] using h.columns

end PreparedSubmission.Storable

/-- A submission that can be stored is accepted at any time before its deadline, under a free key. -/
theorem PreparedSubmission.Storable.acceptable {tenant stored : String} (h : p.Storable tenant stored)
    (hs : Sound L ids db) (hc : L.CollisionFree ids) (hdrawn : ∃ u ∈ ids, p.messageID = u.text)
    (htimes : validateSubmissionTimes now p.normalized.scheduledAt p.normalized.dispatchDeadline = .ok ())
    (htenant : ∃ t ∈ db.tenants, t.id = tenant)
    (hkey : db.findKey tenant p.normalized.idempotencyKey = none) (hfresh : p.messageID ∉ db.messageIDs)
    (hclock : L.Stores now) :
    Acceptable L ids now db p (routedMessage (submissionParams p now))
      (p.newRow (routedMessage (submissionParams p now)) tenant stored) := by
  obtain ⟨u, hu, hid⟩ := hdrawn
  have hvalid := PreparedSubmission.params_valid hid htimes hclock.notZero
  have hnew := Message.new_eq_ok.2 ⟨hvalid, rfl⟩
  have hm : (routedMessage (submissionParams p now)).id = p.messageID := (Message.new_moved hnew).1.id
  exact {
    sound := hs, collisionFree := hc, drawn := ⟨u, hu, hid⟩, times := htimes, new := hnew,
      valid := h.record_valid hid hm
    stored := h.stored_row hid hm, allowed := h.allowed hid htimes hclock.notZero, tenant := htenant
    key := hkey, fresh := hfresh, clock := hclock }

end MailService
