import MailService.Totality
/-!
# Where the rows of the journal and the outbox come from

Every row was written by a transaction that mapped the pending events of a message:
the event had passed the checks of the mapping, of the journal and of the outbox, and
happened at the time of the transaction.
-/
open Text Checks Table Runs

namespace MailService

open Db

variable {L : Libs} {now : Time} {db db₁ db₂ db' : Db} {record : MessageRecord} {e : Event} {m : Message}
  {mapped : MappedMessageEvents}

/-! ## Mapped events -/

/-- A record whose pending events a transaction at `now` has mapped. -/
structure MessageRecord.Sourced (record : MessageRecord) (L : Libs) (now : Time) : Prop where
  addressed : record.Addressed
  built : record.message.Built
  mapped : ∃ mapped, mapEvents L record record.message.pendingEvents = .ok mapped
  occurredAt : ∀ e ∈ record.message.pendingEvents, e.occurredAt = now

/-- An event that was mapped and whose counters fit their columns. -/
structure Event.From (e : Event) (L : Libs) (now : Time) (record : MessageRecord) : Prop where
  addressed : record.Addressed
  proper : e.Proper record.message.id
  mappable : Mappable L record e
  occurredAt : e.occurredAt = now

theorem MessageRecord.Sourced.event (hs : record.Sourced L now) (he : e ∈ record.message.pendingEvents)
    (hcounters : e.sequence ≤ maxInt64 ∧ e.dispatchGeneration ≤ maxInt64) : e.From L now record := by
  obtain ⟨mapped, hmapped⟩ := hs.mapped
  exact ⟨hs.addressed, hs.built.event_proper hmapped he hcounters,
    (mapEvents_eq_ok.1 hmapped).1 e he, hs.occurredAt e he⟩

/-- The journal row of an event. -/
def DeliveryEvent.WrittenAt (j : DeliveryEvent) (L : Libs) (now : Time) : Prop :=
  ∃ record e, Event.From e L now record ∧ e.kind ≠ .dispatchRequested ∧
    eventRow (deliveryEventOf L record.tenantID record.idempotencyKey e) = some j ∧ eventColumns j

/-- The outbox event of an event, as its row holds it. -/
def OutboxEvent.WrittenAt (o : OutboxEvent) (L : Libs) (now : Time) : Prop :=
  ∃ record e row, Event.From e L now record ∧
    outboxRow now (outboxEventOf L record.tenantID e) = some row ∧ o = row.event

/-- What a transaction at `now` added to the two tables. -/
structure Writes (L : Libs) (now : Time) (db db' : Db) : Prop where
  journal : ∀ j ∈ db'.events, j ∈ db.events ∨ j.WrittenAt L now
  outbox : ∀ o ∈ db'.outbox, o ∈ db.outbox ∨ o.event.WrittenAt L now

/-- A statement that leaves both tables as they are. -/
def Db.Frames (db db' : Db) : Prop := db'.events = db.events ∧ db'.outbox = db.outbox

theorem Db.Frames.trans (h₁ : db.Frames db₁) (h₂ : db₁.Frames db₂) : db.Frames db₂ :=
  ⟨h₂.1.trans h₁.1, h₂.2.trans h₁.2⟩

theorem Db.Frames.writes (h : db.Frames db') : Writes L now db db' where
  journal _ hj := .inl (h.1 ▸ hj)
  outbox _ ho := .inl (h.2 ▸ ho)

theorem Db.Frames.then_writes (h : db.Frames db₁) (hw : Writes L now db₁ db₂) : Writes L now db db₂ where
  journal j hj := h.1 ▸ hw.journal j hj
  outbox o ho := h.2 ▸ hw.outbox o ho

theorem save_frames (h : db.save m = .ok db') : db.Frames db' := by
  simp only [save, unit_bind_eq_ok] at h
  obtain ⟨-, -, -, h⟩ := h
  split at h
  · cases h
  · split at h
    · cases h
    · rw [check_bind_eq_ok, pure_eq_ok] at h
      exact h.2 ▸ ⟨rfl, rfl⟩

theorem complete_frames {completion : CompleteDeliveryAttempt} (h : db.complete completion = .ok db') :
    db.Frames db' := by
  simp only [complete, unit_bind_eq_ok] at h
  obtain ⟨-, h⟩ := h
  split at h
  · cases h
  · split at h
    · cases h
    · rw [check_bind_eq_ok, pure_eq_ok] at h
      exact h.2 ▸ ⟨rfl, rfl⟩

theorem create_frames {result : CreateMessageResult} (h : db.create record = .ok (db', result)) :
    db.Frames db' := by
  rcases create_eq_ok h with ⟨-, row, -, -, -, -, -, -, rfl⟩ | ⟨rfl, -⟩
  · exact ⟨rfl, rfl⟩
  · exact ⟨rfl, rfl⟩

/-! ## Appending -/

/-- The lists of a mapping, whose events all come from mapped records. -/
structure MappedMessageEvents.Of (mapped : MappedMessageEvents) (L : Libs) (now : Time) : Prop where
  delivery : ∀ d ∈ mapped.delivery, ∃ record e, MessageRecord.Sourced record L now ∧
    e ∈ record.message.pendingEvents ∧
    e.kind ≠ .dispatchRequested ∧ outboxEventOf L record.tenantID e ∈ mapped.outbox ∧
    d = deliveryEventOf L record.tenantID record.idempotencyKey e
  outbox : ∀ o ∈ mapped.outbox, ∃ record e, MessageRecord.Sourced record L now ∧
    e ∈ record.message.pendingEvents ∧
    o = outboxEventOf L record.tenantID e

theorem MessageRecord.Sourced.of_mapAll (haddressed : record.Addressed) (hbuilt : record.message.Built)
    (htime : ∀ e ∈ record.message.pendingEvents, e.occurredAt = now)
    (h : mapAllMessageEvents L record record.message.pendingEvents = .ok mapped) : mapped.Of L now := by
  unfold mapAllMessageEvents at h
  split at h
  · cases h
  have hs : record.Sourced L now := ⟨haddressed, hbuilt, ⟨mapped, h⟩, htime⟩
  obtain ⟨-, rfl⟩ := mapEvents_eq_ok.1 h
  refine ⟨fun d hd => ?_, fun o ho => ?_⟩
  · obtain ⟨e, he, rfl⟩ := List.mem_map.1 hd
    obtain ⟨hmem, hkind⟩ := List.mem_filter.1 he
    exact ⟨record, e, hs, hmem, by simpa using hkind, List.mem_map_of_mem hmem, rfl⟩
  · obtain ⟨e, he, rfl⟩ := List.mem_map.1 ho
    exact ⟨record, e, hs, he, rfl⟩

theorem MappedMessageEvents.Of.append {first second : MappedMessageEvents} (h₁ : first.Of L now)
    (h₂ : second.Of L now) :
    MappedMessageEvents.Of ⟨first.outbox ++ second.outbox, first.delivery ++ second.delivery⟩ L now := by
  refine ⟨fun d hd => ?_, fun o ho => ?_⟩
  · rcases List.mem_append.1 hd with hd | hd
    · obtain ⟨record, e, hs, he, hk, hmem, rfl⟩ := h₁.delivery d hd
      exact ⟨record, e, hs, he, hk, List.mem_append_left _ hmem, rfl⟩
    · obtain ⟨record, e, hs, he, hk, hmem, rfl⟩ := h₂.delivery d hd
      exact ⟨record, e, hs, he, hk, List.mem_append_right _ hmem, rfl⟩
  · exact (List.mem_append.1 ho).elim (h₁.outbox o) (h₂.outbox o)

theorem appendDeliveryEvent_cases {d : DeliveryEvent} (h : db.appendDeliveryEvent d = .ok db') :
    db' = db ∨ ∃ row, eventRow d = some row ∧ eventColumns row ∧
    db' = { db with events := db.events ++ [row] } := by
  unfold appendDeliveryEvent at h
  obtain ⟨-, h⟩ := unit_bind_eq_ok.1 h
  split at h
  · cases h
  · rename_i row hrow
    rw [check_bind_eq_ok] at h
    obtain ⟨hcolumns, h⟩ := h
    split at h
    · rw [check_bind_eq_ok, pure_eq_ok] at h
      exact .inl h.2.symm
    · simp only [check_bind_eq_ok, pure_eq_ok] at h
      exact .inr ⟨row, hrow, hcolumns, h.2.2.2.symm⟩

theorem insertOutboxEvent_cases {o : OutboxEvent} (h : db.insertOutboxEvent now o = .ok db') :
    db' = db ∨ ∃ row, outboxRow now o = some row ∧ db' = { db with outbox := db.outbox ++ [row] } := by
  unfold insertOutboxEvent at h
  split at h
  · cases h
  · rename_i row hrow
    rw [check_bind_eq_ok] at h
    obtain ⟨-, h⟩ := h
    split at h
    · rw [check_bind_eq_ok, pure_eq_ok] at h
      exact .inl h.2.symm
    · rw [check_bind_eq_ok, pure_eq_ok] at h
      exact .inr ⟨row, hrow, h.2.symm⟩

/-- Both appends of a transaction. -/
theorem MappedMessageEvents.Of.writes (hof : mapped.Of L now)
    (hdelivery : db.appendDeliveryEvents mapped.delivery = .ok db₁)
    (houtbox : db₁.appendOutbox now mapped.outbox = .ok db₂) : Writes L now db db₂ := by
  obtain ⟨hchecks, hfold⟩ := unit_bind_eq_ok.1 houtbox
  rw [forM_eq_ok] at hchecks
  have hcounters : ∀ o ∈ mapped.outbox, o.aggregateSequence ≤ maxInt64 ∧ o.dispatchGeneration ≤ maxInt64 := by
    intro o ho
    exact check_eq_ok.1 (unit_bind_eq_ok.1 (hchecks o ho)).2
  have hjournal : (∀ j ∈ db₁.events, j ∈ db.events ∨ j.WrittenAt L now) ∧ db₁.outbox = db.outbox := by
    refine foldlM_invariant
        (P := fun x : Db => (∀ j ∈ x.events, j ∈ db.events ∨ j.WrittenAt L now) ∧ x.outbox = db.outbox)
      (fun x d hd x' hx h => ?_) ⟨fun _ => .inl, rfl⟩ hdelivery
    rcases appendDeliveryEvent_cases h with rfl | ⟨row, hrow, hcolumns, rfl⟩
    · exact hx
    refine ⟨fun j hj => ?_, hx.2⟩
    rcases List.mem_append.1 hj with hj | hj
    · exact hx.1 j hj
    obtain rfl := List.mem_singleton.1 hj
    obtain ⟨record, e, hs, he, hk, hmem, rfl⟩ := hof.delivery d hd
    exact .inr ⟨record, e, hs.event he (hcounters _ hmem), hk, hrow, hcolumns⟩
  have hevents : (∀ o ∈ db₂.outbox, o ∈ db₁.outbox ∨ o.event.WrittenAt L now) ∧ db₂.events = db₁.events := by
    refine foldlM_invariant (P := fun x : Db => (∀ o ∈ x.outbox, o ∈ db₁.outbox ∨ o.event.WrittenAt L now) ∧
      x.events = db₁.events) (fun x o ho x' hx h => ?_) ⟨fun _ => .inl, rfl⟩ hfold
    rcases insertOutboxEvent_cases h with rfl | ⟨row, hrow, rfl⟩
    · exact hx
    refine ⟨fun o' ho' => ?_, hx.2⟩
    rcases List.mem_append.1 ho' with ho' | ho'
    · exact hx.1 o' ho'
    obtain rfl := List.mem_singleton.1 ho'
    obtain ⟨record, e, hs, he, rfl⟩ := hof.outbox o ho
    exact .inr ⟨record, e, _, hs.event he (hcounters _ ho), hrow, rfl⟩
  exact ⟨fun j hj => hjournal.1 j (hevents.2 ▸ hj), fun o ho => hjournal.2 ▸ hevents.1 o ho⟩

/-! ## Transactions -/

theorem submit_writes {catalog : SubmissionCatalog} {protector : Protector}
    {command : SubmitEmailCommand} {drawn : Uuid} {nonce : Nonce} {result : SubmitEmailResult}
    (h : submit L catalog protector command drawn nonce now db = .ok (db', result)) :
    Writes L now db db' := by
  simp only [submit, bind_eq_ok] at h
  obtain ⟨p, hp, h⟩ := h
  simp only [submitTransaction, bind_eq_ok] at h
  obtain ⟨record, hrecord, ⟨db₁, persisted⟩, hcreate, h⟩ := h
  have hframe := create_frames hcreate
  split at h
  · obtain ⟨rfl, -⟩ := Prod.mk.inj (pure_eq_ok.1 h)
    exact hframe.writes
  · simp only [bind_eq_ok] at h
    obtain ⟨mapped, hmapped, db₂, hdelivery, db₃, houtbox, h⟩ := h
    obtain ⟨rfl, -⟩ := Prod.mk.inj (pure_eq_ok.1 h)
    obtain ⟨email, locale, templateVariables, hfrom⟩ := prepareSubmission_eq_ok.1 hp
    obtain ⟨-, m, hnew, rfl⟩ := submissionRecord_eq_ok.1 hrecord
    have haddressed : (p.record m).Addressed := by
      refine ⟨?_, ⟨drawn, (Message.new_moved hnew).1.id.trans hfrom.messageID⟩, ?_⟩
      · change isUUID p.normalized.tenantID = true
        rw [hfrom.normalized]
        exact hfrom.checked.tenantID
      · change trimmedWithin p.normalized.idempotencyKey 255
        rw [hfrom.normalized]
        exact trimmedWithin_of_idempotencyKeyPattern hfrom.checked.idempotencyKey
    have hof := MessageRecord.Sourced.of_mapAll haddressed (.new hnew) (Message.new_occurredAt hnew) hmapped
    exact hframe.then_writes (hof.writes hdelivery houtbox)

section Moves

variable {r : MessageRow} {op : Operation}

/-- The record of a stored message that an operation has changed. -/
theorem MessageRow.Loadable.mapped_of (hload : r.Loadable)
    (hid : uuidColumn r.snapshot.id = some r.snapshot.id)
    (hperform : r.message.perform op = (m, .changed))
    (h : mapAllMessageEvents L (r.record.withMessage m) m.pendingEvents = .ok mapped) :
    mapped.Of L op.occurredAt := by
  obtain ⟨hmoved, -⟩ := Message.perform_changed hperform
  have hvalid := hload.record
  simp only [MessageRecord.validate, check_bind_eq_ok] at hvalid
  have hmessage : ∃ u : Uuid, (r.record.withMessage m).message.id = u.text := by
    rw [show (r.record.withMessage m).message.id = r.snapshot.id from hmoved.id]
    exact exists_text_of_uuidColumn hid
  have haddressed : (r.record.withMessage m).Addressed := ⟨hvalid.1, hmessage, hvalid.2.1⟩
  have hbuilt : (r.record.withMessage m).message.Built :=
    .performed (.restored (restore_eq_ok.2 ⟨hload.snapshot, rfl⟩)) hperform
  refine MessageRecord.Sourced.of_mapAll haddressed hbuilt (fun e he => ?_) h
  rcases hmoved.occurredAt e he with hold | hnow
  · simp [MessageRow.message] at hold
  · exact hnow

theorem saveMessageWithOutbox_writes (hload : r.Loadable)
    (hid : uuidColumn r.snapshot.id = some r.snapshot.id)
    (hperform : r.message.perform op = (m, .changed))
    (h : saveMessageWithOutbox L op.occurredAt db (r.record.withMessage m) = .ok db') :
    Writes L op.occurredAt db db' := by
  simp only [saveMessageWithOutbox, bind_eq_ok] at h
  obtain ⟨mapped, hmapped, db₁, hsave, db₂, hdelivery, houtbox⟩ := h
  exact (save_frames hsave).then_writes ((hload.mapped_of hid hperform hmapped).writes hdelivery houtbox)

theorem saveMessageWithOutboxAndAttempt_writes {attempt : StartedDeliveryAttempt} (hload : r.Loadable)
    (hid : uuidColumn r.snapshot.id = some r.snapshot.id) (hperform : r.message.perform op = (m, .changed))
    (h : saveMessageWithOutboxAndAttempt L op.occurredAt db (r.record.withMessage m) attempt = .ok db') :
    Writes L op.occurredAt db db' := by
  simp only [saveMessageWithOutboxAndAttempt, bind_eq_ok] at h
  obtain ⟨mapped, hmapped, db₁, hsave, db₂, hattempt, db₃, hdelivery, houtbox⟩ := h
  have hframe : db.Frames db₂ := (save_frames hsave).trans (createStarted_frame hattempt)
  exact hframe.then_writes ((hload.mapped_of hid hperform hmapped).writes hdelivery houtbox)

theorem claim_writes {read : Db} {providerKey : String} {attemptID : Uuid} {command : DispatchCommand}
    {outcome : ClaimOutcome} (hread : read.Keyed)
    (h : claim L providerKey attemptID command read now db = .ok (db', outcome)) :
    Writes L now db db' := by
  simp only [claim, bind_eq_ok, check_eq_ok] at h
  obtain ⟨record, hget, _, -, h⟩ := h
  obtain ⟨r, hr, -, hload, rfl⟩ := getByID_eq_ok (loadForClaim_eq_ok hget)
  have hid := (hread.canonical r hr).1
  have hframe : db.Frames db := ⟨rfl, rfl⟩
  split at h
  · obtain ⟨rfl, -⟩ := Prod.mk.inj (pure_eq_ok.1 h)
    exact hframe.writes
  split at h
  · cases h
  split at h
  · obtain ⟨rfl, -⟩ := Prod.mk.inj (pure_eq_ok.1 h)
    exact hframe.writes
  split at h
  · unfold expireClaimed at h
    split at h
    · rename_i m hexpire
      obtain ⟨db₁, hsave, h⟩ := bind_eq_ok.1 h
      obtain ⟨rfl, -⟩ := Prod.mk.inj (pure_eq_ok.1 h)
      have hperform : r.message.perform (.expire now) = (m, .changed) := by
        rw [Message.perform, show r.message.expire now = _ from hexpire]
        rfl
      have hwrites := saveMessageWithOutbox_writes hload hid hperform hsave
      exact hwrites
    · cases h
  · unfold startClaimed at h
    split at h
    · cases h
    · rename_i m hstart
      simp only [bind_eq_ok] at h
      obtain ⟨_, -, db₁, hsave, h⟩ := h
      obtain ⟨rfl, -⟩ := Prod.mk.inj (pure_eq_ok.1 h)
      have hperform : r.message.perform (.startSending command.dispatchGeneration now) = (m, .changed) := by
        rw [Message.perform, show r.message.startSending command.dispatchGeneration now = _ from hstart]
        rfl
      have hwrites := saveMessageWithOutboxAndAttempt_writes hload hid hperform hsave
      exact hwrites

/-- A provider's result is applied by an operation of the message at the time of the transaction. -/
theorem applyProviderResult_performs {m₀ : Message} {attempt : StartedDeliveryAttempt}
    {result : ProviderResult} {delay : Int} {completion : CompleteDeliveryAttempt}
    {disposition : DispatchDisposition} (hs : m₀.status = .sending)
    (h : applyProviderResult m₀ attempt result delay now = .ok (m, completion, disposition)) :
    ∃ op : Operation, m₀.perform op = (m, .changed) ∧ op.occurredAt = now := by
  unfold applyProviderResult at h
  split at h
  · obtain ⟨⟨outcome, hstep⟩, -⟩ := finishAttempt_eq_ok h
    have hperform : m₀.perform (.applyDeliveryFact ⟨.providerAccepted, now, result.providerMessageID⟩) =
        (m, .ofResult (.ok outcome)) := by
      rw [Message.perform, hstep]
      rfl
    -- a message in SENDING has not been accepted before, so that the fact changes it
    have hchanged : Outcome.ofResult (.ok outcome) = .changed := by
      by_contra hne
      have hsame : m.status = .sending := Message.perform_unchanged hperform hne ▸ hs
      rw [(Message.applyDeliveryFact_moved hs hstep).2] at hsame
      cases hsame
    exact ⟨_, hchanged ▸ hperform, rfl⟩
  · rename_i failure _ _
    obtain ⟨⟨_, hstep⟩, -⟩ := finishAttempt_eq_ok h
    exact ⟨.markSubmissionUnknown failure now, by rw [Message.perform, hstep]; rfl, rfl⟩
  · rename_i failure _ _
    dsimp only at h
    split at h
    · obtain ⟨⟨_, hstep⟩, -⟩ := finishAttempt_eq_ok h
      exact ⟨.markPermanentlyFailed failure now, by rw [Message.perform, hstep]; rfl, rfl⟩
    split at h
    · split at h
      · cases h
      split at h
      · obtain ⟨⟨_, hstep⟩, -⟩ := finishAttempt_eq_ok h
        exact ⟨.scheduleRetry failure (now + delay.toNat) now, by rw [Message.perform, hstep]; rfl, rfl⟩
      · obtain ⟨⟨_, hstep⟩, -⟩ := finishAttempt_eq_ok h
        exact ⟨.markDeadLettered failure now, by rw [Message.perform, hstep]; rfl, rfl⟩
    · obtain ⟨⟨_, hstep⟩, -⟩ := finishAttempt_eq_ok h
      exact ⟨.markDeadLettered failure now, by rw [Message.perform, hstep]; rfl, rfl⟩
  · cases h

theorem finalize_writes_at {read : Db} {c : DispatchClaim} {result : ProviderResult} {delay : Int}
    {dispatched : DispatchResult} (hread : read.Keyed)
    (h : finalize L c result delay read now db = .ok (db', dispatched)) : Writes L now db db' := by
  simp only [finalize, bind_eq_ok, check_eq_ok] at h
  obtain ⟨record, hget, _, -, h⟩ := h
  obtain ⟨r, hr, -, hload, rfl⟩ := getByID_eq_ok hget
  split at h
  · obtain ⟨rfl, -⟩ := Prod.mk.inj (pure_eq_ok.1 h)
    exact Db.Frames.writes ⟨rfl, rfl⟩
  · rename_i hs
    simp only [bind_eq_ok, mapError_ok_iff] at h
    obtain ⟨⟨m, completion, disposition⟩, happly, mapped, hmapped, db₁, hsave, db₂, hcomplete, db₃,
      hdelivery, db₄, houtbox, h⟩ := h
    obtain ⟨rfl, -⟩ := Prod.mk.inj (pure_eq_ok.1 h)
    obtain ⟨op, hperform, rfl⟩ := applyProviderResult_performs (not_not.1 hs) happly
    have hframe : db.Frames db₂ := (save_frames hsave).trans (complete_frames hcomplete)
    exact hframe.then_writes
      ((hload.mapped_of (hread.canonical r hr).1 hperform hmapped).writes hdelivery houtbox)

theorem advanceDue_performs {m₀ : Message} {expired : Bool} (h : advanceDue now m₀ = .ok (m, expired)) :
    ∃ op : Operation, m₀.perform op = (m, .changed) ∧ op.occurredAt = now := by
  unfold advanceDue at h
  split at h
  · split at h
    · cases h
    · cases h
    · rename_i m' hexpire
      obtain ⟨rfl, -⟩ := Prod.mk.inj (Except.ok.inj h)
      exact ⟨.expire now, by rw [Message.perform, hexpire]; rfl, rfl⟩
  · split at h
    · cases h
    · rename_i m' hqueue
      obtain ⟨rfl, -⟩ := Prod.mk.inj (Except.ok.inj h)
      exact ⟨.queue now, by rw [Message.perform, hqueue]; rfl, rfl⟩

/-- A batch advances loaded rows and collects their events. -/
theorem advanceBatch_of {rows : List MessageRow} {result : SchedulerBatchResult}
    (hrows : ∀ r ∈ rows, r.Loadable ∧ uuidColumn r.snapshot.id = some r.snapshot.id)
    (h : advanceBatch L now db (rows.map (·.record)) = .ok (db', mapped, result)) :
    db.Frames db' ∧ mapped.Of L now := by
  induction rows generalizing db mapped result with
  | nil =>
    obtain ⟨rfl, hrest⟩ := Prod.mk.inj (pure_eq_ok.1 h)
    obtain ⟨rfl, -⟩ := Prod.mk.inj hrest
    exact ⟨⟨rfl, rfl⟩, by simp, by simp⟩
  | cons r rows ih =>
    simp only [List.map_cons, advanceBatch, bind_eq_ok] at h
    obtain ⟨⟨m, expired⟩, hadvance, first, hfirst, db₁, hsave, ⟨db₂, rest, result₂⟩, hrest, h⟩ := h
    obtain ⟨rfl, htail⟩ := Prod.mk.inj (pure_eq_ok.1 h)
    obtain ⟨rfl, -⟩ := Prod.mk.inj htail
    obtain ⟨hload, hid⟩ := hrows r List.mem_cons_self
    obtain ⟨op, hperform, rfl⟩ := advanceDue_performs hadvance
    obtain ⟨hframes, hof⟩ := ih (fun x hx => hrows x (List.mem_cons_of_mem r hx)) hrest
    exact ⟨(save_frames hsave).trans hframes, (hload.mapped_of hid hperform hfirst).append hof⟩

theorem runOnce_writes {batchSize : Nat} {locked : String → Bool}
    {result : SchedulerBatchResult} (hk : db.Keyed)
    (h : runOnce L batchSize locked now db = .ok (db', result)) : Writes L now db db' := by
  simp only [runOnce, lockDue, bind_eq_ok, pure_eq_ok] at h
  obtain ⟨batch, ⟨_, -, records, hscan, _, -, rfl⟩, h⟩ := h
  split at h
  · obtain ⟨rfl, -⟩ := Prod.mk.inj (pure_eq_ok.1 h)
    exact Db.Frames.writes ⟨rfl, rfl⟩
  · simp only [bind_eq_ok, pure_eq_ok, Prod.mk.injEq] at h
    obtain ⟨_, -, ⟨db₁, mapped, result₁⟩, hbatch, db₂, hdelivery, db₃, houtbox, rfl, -⟩ := h
    obtain ⟨rfl, hload⟩ := mapM_eq_ok (fun _ _ hscan => (scanMessageRecord_eq_ok.1 hscan).symm) hscan
    obtain ⟨hframes, hof⟩ := advanceBatch_of
      (fun r hr => ⟨hload r hr, (hk.canonical r (mem_dueRows hr).1).1⟩) hbatch
    exact hframes.then_writes (hof.writes hdelivery houtbox)

end Moves

/-! ## Runs -/

section Runs

variable {E : Env} {h : History} {s s' : System} {action : Action}

/-- The time of the transaction that an action commits. -/
inductive CommitsAt (s : System) : Action → Time → Prop
  | submit {command result} {t : Time} : CommitsAt s (.submit command t result) t
  | schedule {t : Time} : CommitsAt s (.schedule t) t
  | claim {i d command read outcome reported} {t : Time} : s.lanes i = .holds d (.claiming command read t) →
      CommitsAt s (.claim i outcome reported) t
  | finalize {i d c result read reported} {t : Time} : s.lanes i = .holds d (.finalizing c result read t) →
      CommitsAt s (.finalize i c result reported) t

theorem CommitsAt.unique {t t' : Time} (hc : CommitsAt s action t) (hc' : CommitsAt s action t') :
    t = t' := by
  cases hc with
  | submit => cases hc'; rfl
  | schedule => cases hc'; rfl
  | claim hlane =>
    cases hc' with
    | claim hlane' =>
      cases hlane.symm.trans hlane'
      rfl
  | finalize hlane =>
    cases hc' with
    | finalize hlane' =>
      cases hlane.symm.trans hlane'
      rfl

/-- A step writes rows in a transaction at its time, or it leaves the events of both tables as they are. -/
theorem Step.writes (hstep : Step E s action s') (hs : s.Ok E) :
    (∃ now, CommitsAt s action now ∧ Writes E.L now s.db s'.db) ∨
      s'.db.events = s.db.events ∧ s'.db.outbox.map (·.event) = s.db.outbox.map (·.event) := by
  have hk := hs.sound.keyed
  cases hstep with
  | submit _ hsubmit => exact .inl ⟨_, .submit, submit_writes hsubmit⟩
  | schedule hrun => exact .inl ⟨_, .schedule, runOnce_writes hk hrun⟩
  | claim hlane _ hclaim =>
    obtain ⟨hread, -⟩ := hs.lanes _ _ _ hlane
    exact .inl ⟨_, .claim hlane, claim_writes hread.keyed hclaim⟩
  | finalize hlane hfinalize =>
    obtain ⟨hread, -⟩ := hs.lanes _ _ _ hlane
    exact .inl ⟨_, .finalize hlane, finalize_writes_at hread.keyed hfinalize⟩
  | lease _ _ _ hclaim =>
    obtain ⟨leaseUntil, claimed, hleased⟩ := claimBatch_leased hk.outboxIDs hclaim
    have hrest := hleased.relayed.rest
    exact .inr ⟨by rw [hrest], hleased.relayed.events⟩
  | record _ _ hrecord =>
    obtain ⟨o, hrecorded⟩ := recordCompletion_recorded hk.outboxIDs hrecord
    have hrest := hrecorded.relayed.rest
    exact .inr ⟨by rw [hrest], hrecorded.relayed.events⟩
  | settle => rename_i answer _; cases answer <;> exact .inr ⟨rfl, rfl⟩
  | _ => exact .inr ⟨rfl, rfl⟩

/-- Every row of the journal and the outbox was written by a transaction. -/
structure Db.Traced (db : Db) (L : Libs) : Prop where
  journal : ∀ j ∈ db.events, ∃ now, j.WrittenAt L now
  outbox : ∀ o ∈ db.outbox, ∃ now, o.event.WrittenAt L now

theorem Db.Traced.step (ht : s.db.Traced E.L) (hstep : Step E s action s') (hs : s.Ok E) :
    s'.db.Traced E.L := by
  rcases hstep.writes hs with ⟨now, -, hwrites⟩ | ⟨hevents, houtbox⟩
  · refine ⟨fun j hj => ?_, fun o ho => ?_⟩
    · exact (hwrites.journal j hj).elim (ht.journal j) fun hnew => ⟨now, hnew⟩
    · exact (hwrites.outbox o ho).elim (ht.outbox o) fun hnew => ⟨now, hnew⟩
  · refine ⟨hevents ▸ ht.journal, fun o ho => ?_⟩
    obtain ⟨o₀, ho₀, he⟩ :=
      List.mem_map.1 (houtbox ▸ List.mem_map_of_mem ho : o.event ∈ s.db.outbox.map (·.event))
    exact he ▸ ht.outbox o₀ ho₀

theorem Reached.traced (hr : Reached E h s) : s.db.Traced E.L := by
  refine hr.induct (P := fun _ s => s.db.Traced E.L) (fun s₀ hinit => ?_)
    fun h₀ s₀ action s₁ hr₀ ht hstep => ht.step hstep (Reached.ok hr₀)
  obtain ⟨⟨tenants, hdb⟩, -⟩ := hinit
  rw [hdb]
  exact ⟨by simp, by simp⟩

end Runs

end MailService
