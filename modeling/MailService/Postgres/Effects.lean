import MailService.Lib.JsonCanon
import MailService.Lib.Table
import MailService.Postgres.Appends
/-!
# What the statements do

One lemma for each repository function and for the mapping of events: what a
successful call found and what it left.
-/
open Text Checks Table

namespace MailService

@[simp] theorem uuidColumn_text (u : Uuid) : uuidColumn u.text = some u.text := by simp [uuidColumn]

/-- What a `uuid` column returns can be stored again and comes back unchanged. -/
theorem uuidColumn_stable {s t : String} (h : uuidColumn s = some t) : uuidColumn t = some t := by
  simp only [uuidColumn, Option.map_eq_some_iff] at h
  obtain ⟨u, -, rfl⟩ := h
  exact uuidColumn_text u

/-- The text of a `uuid` column that stays as it is was canonical. -/
theorem exists_text_of_uuidColumn {id : String} (h : uuidColumn id = some id) : ∃ u : Uuid, id = u.text := by
  simp only [uuidColumn, Option.map_eq_some_iff] at h
  obtain ⟨u, -, hu⟩ := h
  exact ⟨u, hu.symm⟩

theorem isUUID_of_uuidColumn {id : String} (h : uuidColumn id = some id) : isUUID id = true := by
  obtain ⟨u, rfl⟩ := exists_text_of_uuidColumn h
  simp [isUUID]

theorem truncate_truncate (t : Time) : truncate (truncate t) = truncate t := by
  simp [truncate]

theorem truncate_le (t : Time) : truncate t ≤ t := Nat.div_mul_le_self t 1000

theorem truncate_mono {s t : Time} (h : s ≤ t) : truncate s ≤ truncate t :=
  Nat.mul_le_mul_right _ (Nat.div_le_div_right h)

/-- A `jsonb` column returns a text of the value that it was given. -/
theorem jsonbColumn_eq_some {s t : String} : jsonbColumn s = some t ↔
    ∃ stored, (Json.parse s).bind Json.numeric = some stored ∧
      Json.anyString (·.toList.contains '\x00') stored = false ∧
      t = Json.marshal .jsonb (Json.canon Json.jsonbOrder stored) := by
  unfold jsonbColumn
  cases (Json.parse s).bind Json.numeric with
  | none => simp
  | some stored =>
    simp only [Option.ite_none_left_eq_some, Option.some.injEq, exists_eq_left', Bool.not_eq_true]
    exact and_congr_right fun _ => eq_comm

theorem parse_jsonbColumn {s t : String} (h : jsonbColumn s = some t) : ∃ v stored, Json.parse s = some v ∧
    Json.numeric v = some stored ∧ Json.parse t = some (Json.canon Json.jsonbOrder stored) := by
  obtain ⟨stored, hbind, -, rfl⟩ := jsonbColumn_eq_some.1 h
  obtain ⟨v, hv, hstored⟩ := Option.bind_eq_some_iff.1 hbind
  have hwf := Json.wf_numeric hstored (Json.wf_of_parse_eq hv)
  exact ⟨v, stored, hv, hstored, Json.parse_marshal .jsonb (Json.wf_canon stored hwf)⟩

theorem isJSONObject_jsonbColumn {s t : String} (h : jsonbColumn s = some t) (hs : isJSONObject s = true) :
    isJSONObject t = true := by
  obtain ⟨v, stored, hv, hstored, ht⟩ := parse_jsonbColumn h
  rw [isJSONObject, hv] at hs
  rw [isJSONObject, ht]
  cases v with
  | obj members =>
    simp only [Json.numeric, Option.map_eq_some_iff] at hstored
    obtain ⟨members', -, rfl⟩ := hstored
    simp [Json.canon, Json.Value.isObject]
  | null | bool _ | num _ | str _ | arr _ => cases hs

theorem len_marshal_pos (st : Json.Style) {v : Json.Value} (h : Json.wf v = true) :
    len (Json.marshal st v) ≠ 0 := by
  intro hz
  have hparse := Json.parse_marshal st h
  rw [String.utf8ByteSize_eq_zero_iff.1 hz, show Json.parse "" = none from rfl] at hparse
  cases hparse

/-- What was validated before it was stored is valid afterwards exactly if the text of
the metadata has not outgrown its limit. -/
theorem SubmissionDetails.validate_stored {d : SubmissionDetails} {text : String} (h : d.validate = .ok ())
    (hj : jsonbColumn d.metadata = some text) :
    { d with metadata := text }.validate = .ok () ↔ len text ≤ 4 * 1024 := by
  obtain ⟨v, stored, -, -, hparse⟩ := parse_jsonbColumn hj
  have hpos : len text ≠ 0 := by
    intro hz
    rw [String.utf8ByteSize_eq_zero_iff.1 hz, show Json.parse "" = none from rfl] at hparse
    cases hparse
  simp only [SubmissionDetails.validate, check_bind_eq_ok, check_eq_ok] at h ⊢
  obtain ⟨h1, h2, h3, h4, h5, h6, h7, -, h9⟩ := h
  have hobject := isJSONObject_jsonbColumn hj h9
  simp only [h1, h2, h3, h4, h5, h6, h7, hpos, hparse, hobject, true_and, and_true, not_false_eq_true, ne_eq,
    Option.isSome_some]

/-! ## Errors -/

/-- What an append reports when a different event has the identity or the id. -/
def Error.isConflict : Error → Bool
  | .deliveryEventConflict | .outboxConflict | .outboxIDConflict => true
  | _ => false

/-- The steps that never report such a conflict. -/
abbrev ConflictFree {α : Type} (x : Except Error α) : Prop := Fails (fun e => e.isConflict = false) x

theorem DeliveryEvent.validate_conflictFree (e : DeliveryEvent) : ConflictFree e.validate := by
  unfold DeliveryEvent.validate
  iterate 8 refine Fails.bind (by simp [Error.isConflict]) fun _ _ => ?_
  cases e.failure with
  | none => exact fails_pure
  | some f => exact fails_mapError.2 fun _ _ => rfl

theorem OutboxEvent.validate_conflictFree (e : OutboxEvent) : ConflictFree e.validate := by
  unfold OutboxEvent.validate
  iterate 6 refine Fails.bind (by simp [Error.isConflict]) fun _ _ => ?_
  simp [Error.isConflict]

/-! ## Started attempts -/

theorem StartedDeliveryAttempt.validate_eq_ok {a : StartedDeliveryAttempt} : a.validate = .ok () ↔
    isUUID a.id = true ∧ isUUID a.messageID = true ∧ (a.attemptNumber ≠ 0 ∧ a.attemptNumber ≤ maxInt32) ∧
      (a.dispatchGeneration ≠ 0 ∧ a.dispatchGeneration ≤ maxInt64) ∧
      validateProviderKey a.providerKey = .ok () ∧
      a.startedAt ≠ 0 := by
  simp only [StartedDeliveryAttempt.validate, unit_bind_eq_ok, check_eq_ok]

/-! ## Reading -/

/-- The aggregate that a row is read back as. -/
def MessageRow.message (r : MessageRow) : Message := { r.snapshot with pendingEvents := [] }

/-- The record that a row is read back as. -/
def MessageRow.record (r : MessageRow) : MessageRecord where
  tenantID := r.tenantID
  idempotencyKey := r.idempotencyKey
  payloadFingerprint := r.payloadFingerprint
  category := r.category
  priority := r.priority
  duplicateRiskPolicy := r.duplicateRiskPolicy
  submission := r.submission
  message := r.message

/-- What `scanMessageRecord` checks. -/
structure MessageRow.Loadable (r : MessageRow) : Prop where
  priority : r.priority ≤ 9
  snapshot : validateSnapshot r.snapshot = .ok ()
  submission : ∀ d ∈ r.submission, d.validate = .ok ()
  record : r.record.validate = .ok ()

theorem restore_eq_ok {s : Snapshot} {m : Message} :
    restore s = .ok m ↔ validateSnapshot s = .ok () ∧ m = { s with pendingEvents := [] } := by
  unfold restore
  split
  · simp_all
  · simp_all [eq_comm]

theorem scanMessageRecord_eq_ok {r : MessageRow} {record : MessageRecord} :
    scanMessageRecord r = .ok record ↔ r.Loadable ∧ record = r.record := by
  constructor
  · intro h
    simp only [scanMessageRecord, bind_eq_ok, check_eq_ok, restore_eq_ok, mapError_ok_iff] at h
    obtain ⟨_, hp, m, ⟨hs, rfl⟩, h⟩ := h
    cases hsub : r.submission with
    | none =>
      simp only [hsub, bind_eq_ok, mapError_ok_iff] at h
      obtain ⟨_, hv, h⟩ := h
      simp only [← hsub] at hv h
      exact ⟨⟨hp, hs, by simp [hsub], hv⟩, (Except.ok.inj h).symm⟩
    | some d =>
      simp only [hsub, bind_eq_ok, mapError_ok_iff] at h
      obtain ⟨_, hd, _, hv, h⟩ := h
      simp only [← hsub] at hv h
      exact ⟨⟨hp, hs, by simpa [hsub] using hd, hv⟩, (Except.ok.inj h).symm⟩
  · rintro ⟨⟨hp, hs, hd, hv⟩, rfl⟩
    simp only [scanMessageRecord, bind_eq_ok, check_eq_ok, restore_eq_ok, mapError_ok_iff]
    refine ⟨(), hp, r.message, ⟨hs, rfl⟩, ?_⟩
    cases hsub : r.submission with
    | none =>
      simp only [bind_eq_ok, mapError_ok_iff, ← hsub]
      exact ⟨(), hv, rfl⟩
    | some d =>
      simp only [bind_eq_ok, mapError_ok_iff, ← hsub]
      exact ⟨(), hd d (by simp [hsub]), (), hv, rfl⟩

/-- A row that cannot be read back is reported as corrupt. -/
theorem scanMessageRecord_corrupt (r : MessageRow) :
    Fails (fun e => ∃ detail, e = .corruptMessageRecord detail) (scanMessageRecord r) := by
  unfold scanMessageRecord
  refine Fails.bind (fails_check.2 (.inr ⟨_, rfl⟩)) fun _ _ => ?_
  refine Fails.bind (fails_mapError.2 fun _ _ => ⟨_, rfl⟩) fun _ _ => ?_
  split
  · refine Fails.bind (fails_mapError.2 fun _ _ => ⟨_, rfl⟩) fun _ _ => ?_
    exact Fails.bind (fails_mapError.2 fun _ _ => ⟨_, rfl⟩) fun _ _ => fails_pure
  · exact Fails.bind (fails_mapError.2 fun _ _ => ⟨_, rfl⟩) fun _ _ => fails_pure

namespace Db

variable {db db' : Db}

theorem getByID_eq_ok {messageID : String} {record : MessageRecord} (h : db.getByID messageID = .ok record) :
    ∃ r ∈ db.messages, uuidColumn messageID = some r.snapshot.id ∧ r.Loadable ∧ record = r.record := by
  simp only [getByID, check_bind_eq_ok] at h
  replace h := h.2
  split at h
  · simp [throw, throwThe, MonadExceptOf.throw] at h
  · rename_i id hid
    simp only [scanFound] at h
    split at h
    · rename_i row hfind
      obtain ⟨hl, hrec⟩ := scanMessageRecord_eq_ok.1 h
      have hrow : row.snapshot.id = id := by simpa using List.find?_some hfind
      exact ⟨row, List.mem_of_find?_eq_some hfind, hrow ▸ hid, hl, hrec⟩
    · simp at h

/-! ## Saving -/

def messageIDs (db : Db) : List String := db.messages.map (·.snapshot.id)

theorem save_eq_ok {m : Message} (hn : db.messageIDs.Nodup) (hid : uuidColumn m.id = some m.id)
    (h : db.save m = .ok db') :
    ∃ r ∈ db.messages, r.snapshot.id = m.id ∧ r.snapshot.version = m.version ∧
      (updatedRow r m.snapshot).Allowed ∧
      db' = { db with messages := exchange db.messages r (updatedRow r m.snapshot) } := by
  simp only [save, bind_eq_ok, hid] at h
  obtain ⟨_, -, _, -, _, -, h⟩ := h
  split at h
  · simp [throw, throwThe, MonadExceptOf.throw] at h
  · rename_i r hfind
    simp only [bind_eq_ok, check_eq_ok] at h
    obtain ⟨_, hallowed, h⟩ := h
    have hr : r.snapshot.id = m.id ∧ r.snapshot.version = m.version := by simpa using List.find?_some hfind
    have hmem := List.mem_of_find?_eq_some hfind
    refine ⟨r, hmem, hr.1, hr.2, hallowed, ?_⟩
    rw [← Except.ok.inj h]
    congr 1
    exact map_if_eq_exchange (fun x => updatedRow x m.snapshot) _ hn hmem hr fun x hx => by
      simpa using hx.1.trans hr.1.symm

/-- A row with the version of the message takes its update. -/
theorem save_of_version {m : Message} {r : MessageRow} (hn : db.messageIDs.Nodup)
    (hid : uuidColumn m.id = some m.id) (hr : r ∈ db.messages) (hrid : r.snapshot.id = m.id)
    (hv : r.snapshot.version = m.version) (hlt : m.version < maxInt64)
    (hcounters : databaseCounters m.toSnapshot = .ok ())
    (hallowed : (updatedRow r m.toSnapshot).Allowed) :
    db.save m = .ok { db with messages := exchange db.messages r (updatedRow r m.toSnapshot) } := by
  have hfind : (db.messages.find? fun x => x.snapshot.id = m.id ∧ x.snapshot.version = m.version) =
      some r := by
    cases hfind : db.messages.find? fun x => x.snapshot.id = m.id ∧ x.snapshot.version = m.version with
    | none =>
      have := List.find?_eq_none.1 hfind r hr
      simp [hrid, hv] at this
    | some x =>
      have hx : x.snapshot.id = m.id ∧ x.snapshot.version = m.version := by simpa using List.find?_some hfind
      rw [List.inj_on_of_nodup_map hn (List.mem_of_find?_eq_some hfind) hr (hx.1.trans hrid.symm)]
  simp only [save, bind_eq_ok, check_eq_ok, hid, hfind, pure_eq_ok]
  refine ⟨(), isUUID_of_uuidColumn hid, (), hlt, (), hcounters, (), hallowed, ?_⟩
  congr 1
  exact map_if_eq_exchange (fun x => updatedRow x m.toSnapshot) _ hn hr ⟨hrid, hv⟩ fun x hx => by
    simpa using hx.1.trans hrid.symm

/-! ## Appending to the journal -/

/-- What `delivery_events_message_sequence_unique` compares. -/
def journalKey (e : DeliveryEvent) : String × Nat := (e.messageID, e.sequence)

variable {e : DeliveryEvent} {es : List DeliveryEvent} {f : DeliveryEvent → DeliveryEvent}

theorem appendDeliveryEvent_of_fresh (hf : eventRow e = some (f e))
    (hfresh : ∀ r ∈ db.events, journalKey r ≠ journalKey (f e)) :
    db.appendDeliveryEvent e = (do
      e.validate
      check (eventColumns (f e)) (.deliveryEventRepository "append event")
      check (¬ db.events.any (·.id = (f e).id)) (.deliveryEventRepository "append event")
      check (db.tenants.any (·.id = (f e).tenantID) ∧ db.messages.any (·.snapshot.id = (f e).messageID))
        (.deliveryEventRepository "append event")
      check ((f e).id = e.id) .deliveryEventConflict
      pure { db with events := db.events ++ [f e] }) := by
  have hnone : (db.events.find? fun r => r.messageID = (f e).messageID ∧ r.sequence = (f e).sequence) =
      none := by
    rw [List.find?_eq_none]
    intro r hr hk
    exact hfresh r hr (by simpa [journalKey] using hk)
  simp only [appendDeliveryEvent, hf, hnone]

/-- Events with new keys are appended in their order. -/
theorem appendDeliveryEvents_eq_ok (hf : ∀ e ∈ es, eventRow e = some (f e))
    (hfresh : Fresh journalKey db.events (es.map f)) (h : db.appendDeliveryEvents es = .ok db') :
    db' = { db with events := db.events ++ es.map f } ∧ ∀ e ∈ es, eventColumns (f e) := by
  induction es generalizing db with
  | nil =>
    simp only [appendDeliveryEvents, List.foldlM_nil, pure_eq_ok] at h
    simp [← h]
  | cons e es ih =>
    simp only [appendDeliveryEvents, List.foldlM_cons, bind_eq_ok] at h
    obtain ⟨db₁, h₁, h⟩ := h
    rw [appendDeliveryEvent_of_fresh (hf e (by simp)) hfresh.head] at h₁
    simp only [unit_bind_eq_ok, check_eq_ok, pure_eq_ok] at h₁
    obtain ⟨-, hcols, -, -, -, rfl⟩ := h₁
    obtain ⟨rfl, hall⟩ := ih (fun x hx => hf x (by simp [hx])) hfresh.tail h
    exact ⟨by simp, by simpa using ⟨hcols, hall⟩⟩

theorem appendDeliveryEvents_conflictFree (hf : ∀ e ∈ es, eventRow e = some (f e))
    (hid : ∀ e ∈ es, (f e).id = e.id) (hfresh : Fresh journalKey db.events (es.map f)) :
    ConflictFree (db.appendDeliveryEvents es) := by
  induction es generalizing db with
  | nil => exact fails_pure
  | cons e es ih =>
    simp only [appendDeliveryEvents, List.foldlM_cons]
    rw [appendDeliveryEvent_of_fresh (hf e (by simp)) hfresh.head]
    refine Fails.bind ?_ fun db₁ h₁ => ?_
    · refine Fails.bind e.validate_conflictFree fun _ _ => ?_
      iterate 3 refine Fails.bind (by simp [Error.isConflict]) fun _ _ => ?_
      exact Fails.bind (by simp [hid e (by simp)]) fun _ _ => fails_pure
    · simp only [unit_bind_eq_ok, check_eq_ok, pure_eq_ok] at h₁
      obtain ⟨-, -, -, -, -, rfl⟩ := h₁
      exact ih (fun x hx => hf x (by simp [hx])) (fun x hx => hid x (by simp [hx])) hfresh.tail

/-- Valid events with new keys and ids, of a stored message, are appended. -/
theorem appendDeliveryEvents_of_valid (hf : ∀ e ∈ es, eventRow e = some (f e))
    (hid : ∀ e ∈ es, (f e).id = e.id) (hfresh : Fresh journalKey db.events (es.map f))
    (hids : Fresh (·.id) db.events (es.map f)) (hvalid : ∀ e ∈ es, e.validate = .ok ())
    (hcols : ∀ e ∈ es, eventColumns (f e)) (htenant : ∀ e ∈ es, ∃ t ∈ db.tenants, t.id = (f e).tenantID)
    (hmessage : ∀ e ∈ es, ∃ r ∈ db.messages, r.snapshot.id = (f e).messageID) :
    db.appendDeliveryEvents es = .ok { db with events := db.events ++ es.map f } := by
  induction es generalizing db with
  | nil => simp [appendDeliveryEvents, pure, Except.pure]
  | cons e es ih =>
    have hnew : ¬ db.events.any (·.id = (f e).id) = true := by simpa using hids.head
    simp only [appendDeliveryEvents, List.foldlM_cons]
    rw [appendDeliveryEvent_of_fresh (hf e (by simp)) hfresh.head, hvalid e (by simp), ok_bind,
      check_bind (hcols e (by simp)), check_bind hnew,
      check_bind ⟨by simpa using htenant e (by simp), by simpa using hmessage e (by simp)⟩,
      check_bind (hid e (by simp))]
    have hrest : { db with events := db.events ++ [f e] }.appendDeliveryEvents es = .ok _ := ih
      (fun x hx => hf x (by simp [hx]))
      (fun x hx => hid x (by simp [hx])) hfresh.tail hids.tail (fun x hx => hvalid x (by simp [hx]))
      (fun x hx => hcols x (by simp [hx])) (fun x hx => htenant x (by simp [hx]))
        (fun x hx => hmessage x (by simp [hx]))
    rw [appendDeliveryEvents] at hrest
    rw [show (pure { db with events := db.events ++ [f e] } : Except Error Db) =
      .ok _ from rfl, ok_bind, hrest]
    simp

/-! ## Appending to the outbox -/

/-- The row of an outbox event whose ids are in canonical form. -/
def storedOutbox (now : Time) (o : OutboxEvent) : OutboxRow where
  event := { o with payload := (jsonbColumn o.payload).getD "" }
  status := .pending
  availableAt := now
  lease := none
  attemptCount := 0
  lastErrorCode := none
  createdAt := now
  publishedAt := none

/-- The ids of an event that was mapped from a stored message. -/
def CanonicalIDs (o : OutboxEvent) : Prop :=
  uuidColumn o.id = some o.id ∧ uuidColumn o.aggregateID = some o.aggregateID

variable {o : OutboxEvent} {os : List OutboxEvent} {now : Time}

theorem insertOutboxEvent_of_fresh (hid : CanonicalIDs o)
    (hfresh : ∀ r ∈ db.outbox, r.event.identity ≠ (storedOutbox now o).event.identity) :
    db.insertOutboxEvent now o = (do
      check ((jsonbColumn o.payload).isSome) (.outboxRepository "append outbox event")
      check (outboxColumns (storedOutbox now o).event) (.outboxRepository "append outbox event")
      check (¬ db.outbox.any (·.event.id = o.id)) .outboxIDConflict
      pure { db with outbox := db.outbox ++ [storedOutbox now o] }) := by
  have hnone : (db.outbox.find? fun r => r.event.identity = (storedOutbox now o).event.identity) = none := by
    rw [List.find?_eq_none]
    intro r hr hk
    exact hfresh r hr (by simpa using hk)
  unfold insertOutboxEvent
  cases hp : jsonbColumn o.payload with
  | none => simp [outboxRow, hp, check]
  | some payload =>
    have hrow : outboxRow now o = some (storedOutbox now o) := by
      simp [outboxRow, hid.1, hid.2, hp, storedOutbox]
    simp only [hrow, hnone, Option.isSome_some, check_bind]
    rfl

/-- What `Append` checks before its first insert. -/
theorem validateOutbox_conflictFree : ConflictFree (os.forM fun e => do
    e.validate
    check (e.aggregateSequence ≤ maxInt64 ∧ e.dispatchGeneration ≤ maxInt64)
      (.invalidOutboxEvent "counters exceed PostgreSQL BIGINT range")) := by
  induction os with
  | nil => exact fails_pure
  | cons o os ih =>
    unfold List.forM
    refine Fails.bind (Fails.bind o.validate_conflictFree fun _ _ => ?_) fun _ _ => ih
    simp [Error.isConflict]

/-- Events with new identities are appended in their order, under new ids. -/
theorem appendOutbox_eq_ok (hid : ∀ o ∈ os, CanonicalIDs o)
    (hfresh : Fresh (·.event.identity) db.outbox (os.map (storedOutbox now)))
    (h : db.appendOutbox now os = .ok db') :
    db' = { db with outbox := db.outbox ++ os.map (storedOutbox now) } ∧
      Fresh (·.event.id) db.outbox (os.map (storedOutbox now)) := by
  simp only [appendOutbox, unit_bind_eq_ok] at h
  replace h := h.2
  induction os generalizing db with
  | nil =>
    simp only [List.foldlM_nil, pure_eq_ok] at h
    exact ⟨by simp [← h], ⟨by simp, by simp⟩⟩
  | cons o os ih =>
    simp only [List.foldlM_cons, bind_eq_ok] at h
    obtain ⟨db₁, h₁, h⟩ := h
    rw [insertOutboxEvent_of_fresh (hid o (by simp)) hfresh.head] at h₁
    simp only [unit_bind_eq_ok, check_eq_ok, pure_eq_ok] at h₁
    obtain ⟨-, -, hnew, rfl⟩ := h₁
    obtain ⟨rfl, hrest⟩ := ih (fun x hx => hid x (by simp [hx])) hfresh.tail h
    have habsent : ∀ r ∈ db.outbox, r.event.id ≠ o.id := by simpa using hnew
    exact ⟨by simp, .cons habsent hrest⟩

theorem appendOutbox_conflictFree (hid : ∀ o ∈ os, CanonicalIDs o)
    (hfresh : Fresh (·.event.identity) db.outbox (os.map (storedOutbox now)))
    (hids : Fresh (·.event.id) db.outbox (os.map (storedOutbox now))) :
    ConflictFree (db.appendOutbox now os) := by
  refine Fails.bind validateOutbox_conflictFree fun _ hu => ?_
  clear hu
  induction os generalizing db with
  | nil => exact fails_pure
  | cons o os ih =>
    simp only [List.foldlM_cons]
    rw [insertOutboxEvent_of_fresh (hid o (by simp)) hfresh.head]
    refine Fails.bind ?_ fun db₁ h₁ => ?_
    · iterate 2 refine Fails.bind (by simp [Error.isConflict]) fun _ _ => ?_
      refine Fails.bind ?_ fun _ _ => fails_pure
      have habsent : ∀ r ∈ db.outbox, r.event.id ≠ o.id := hids.head
      simpa using .inl habsent
    · simp only [unit_bind_eq_ok, check_eq_ok, pure_eq_ok] at h₁
      obtain ⟨-, -, -, rfl⟩ := h₁
      refine ih (fun x hx => hid x (by simp [hx])) ?_ ?_
      · exact hfresh.tail
      · exact hids.tail

/-- Valid events with new identities and ids are appended. -/
theorem appendOutbox_of_valid (hid : ∀ o ∈ os, CanonicalIDs o)
    (hfresh : Fresh (·.event.identity) db.outbox (os.map (storedOutbox now)))
    (hids : Fresh (·.event.id) db.outbox (os.map (storedOutbox now))) (hvalid : ∀ o ∈ os, o.validate = .ok ())
    (hcounters : ∀ o ∈ os, o.aggregateSequence ≤ maxInt64 ∧ o.dispatchGeneration ≤ maxInt64)
    (hjson : ∀ o ∈ os, (jsonbColumn o.payload).isSome = true)
    (hcols : ∀ o ∈ os, outboxColumns (storedOutbox now o).event) :
    db.appendOutbox now os = .ok { db with outbox := db.outbox ++ os.map (storedOutbox now) } := by
  have hchecks : (os.forM fun e => do
      e.validate
      check (e.aggregateSequence ≤ maxInt64 ∧ e.dispatchGeneration ≤ maxInt64)
        (Error.invalidOutboxEvent "counters exceed PostgreSQL BIGINT range")) = .ok () := by
    apply forM_eq_ok.2
    intro o ho
    exact unit_bind_eq_ok.2 ⟨hvalid o ho, check_eq_ok.2 (hcounters o ho)⟩
  rw [appendOutbox, hchecks, ok_bind]
  clear hchecks hvalid hcounters
  induction os generalizing db with
  | nil => simp [pure, Except.pure]
  | cons o os ih =>
    have habsent : ∀ r ∈ db.outbox, r.event.id ≠ o.id := hids.head
    have hnew : ¬ db.outbox.any (·.event.id = o.id) = true := by simpa using habsent
    simp only [List.foldlM_cons]
    rw [insertOutboxEvent_of_fresh (hid o (by simp)) hfresh.head, check_bind (hjson o (by simp)),
      check_bind (hcols o (by simp)), check_bind hnew]
    have hrest : os.foldlM (·.insertOutboxEvent now ·)
        { db with outbox := db.outbox ++ [storedOutbox now o] } =
      .ok _ := ih (fun x hx => hid x (by simp [hx])) hfresh.tail hids.tail
        (fun x hx => hjson x (by simp [hx])) (fun x hx => hcols x (by simp [hx]))
    rw [show (pure { db with outbox := db.outbox ++ [storedOutbox now o] } : Except Error Db) =
      .ok _ from rfl, ok_bind, hrest]
    simp

/-! ## Delivery attempts -/

/-- The row of an attempt that was just started. -/
def startedRow (id messageID : String) (attempt : StartedDeliveryAttempt) : AttemptRow where
  id := id
  messageID := messageID
  attemptNo := attempt.attemptNumber
  dispatchGeneration := attempt.dispatchGeneration
  providerKey := attempt.providerKey
  status := .started
  startedAt := truncate attempt.startedAt
  finishedAt := none
  providerMessageID := ""
  failure := none

/-- No attempt has the id, and none of the message the number or the generation. -/
def FreshAttempt (db : Db) (row : AttemptRow) : Prop := ∀ r ∈ db.attempts,
  r.id ≠ row.id ∧ (r.messageID = row.messageID → r.attemptNo ≠ row.attemptNo ∧
    r.dispatchGeneration ≠ row.dispatchGeneration)

variable {attempt : StartedDeliveryAttempt} {completion : CompleteDeliveryAttempt}

theorem createStarted_eq_ok {id messageID : String} (hid : uuidColumn attempt.id = some id)
    (hm : uuidColumn attempt.messageID = some messageID) :
    db.createStarted attempt = .ok db' ↔
      attempt.validate = .ok () ∧ (startedRow id messageID attempt).Allowed ∧
      db.FreshAttempt (startedRow id messageID attempt) ∧ (∃ r ∈ db.messages, r.snapshot.id = messageID) ∧
      db' = { db with attempts := db.attempts ++ [startedRow id messageID attempt] } := by
  simp only [createStarted, unit_bind_eq_ok, hid, hm, check_eq_ok, pure_eq_ok, @eq_comm _ db']
  refine and_congr_right fun _ => and_congr_right fun _ => and_congr ?_ (and_congr ?_ Iff.rfl)
  · simp only [FreshAttempt, startedRow, List.any_eq_true, decide_eq_true_eq, not_exists, not_and, not_or]
  · simp

/-- A new attempt is written to the attempts only. -/
theorem createStarted_frame (h : db.createStarted attempt = .ok db') :
    db'.events = db.events ∧ db'.outbox = db.outbox := by
  simp only [createStarted, unit_bind_eq_ok] at h
  replace h := h.2
  split at h
  · simp only [unit_bind_eq_ok, pure_eq_ok] at h
    obtain ⟨-, -, -, rfl⟩ := h
    exact ⟨rfl, rfl⟩
  · simp at h

def attemptIDs (db : Db) : List String := db.attempts.map (·.id)

theorem complete_eq_ok (hn : db.attemptIDs.Nodup) (h : db.complete completion = .ok db') :
    ∃ r ∈ db.attempts, uuidColumn completion.attemptID = some r.id ∧ r.status = .started ∧
      (completedAttempt r completion).Allowed ∧
      db' = { db with attempts := exchange db.attempts r (completedAttempt r completion) } := by
  simp only [complete, unit_bind_eq_ok] at h
  replace h := h.2
  split at h
  · simp at h
  · rename_i id hid
    split at h
    · simp at h
    · rename_i r hfind
      simp only [unit_bind_eq_ok, check_eq_ok, pure_eq_ok] at h
      obtain ⟨hallowed, rfl⟩ := h
      have hr : r.id = id ∧ r.status = .started := by simpa using List.find?_some hfind
      have hmem := List.mem_of_find?_eq_some hfind
      refine ⟨r, hmem, hr.1 ▸ hid, hr.2, hallowed, ?_⟩
      congr 1
      exact map_if_eq_exchange (fun x => completedAttempt x completion) _ hn hmem hr
        fun x hx => hx.1.trans hr.1.symm

/-- The attempt that is STARTED is completed. -/
theorem complete_of_started {r : AttemptRow} (hn : db.attemptIDs.Nodup)
    (hvalid : completion.validate = .ok ()) (hr : r ∈ db.attempts)
    (hid : uuidColumn completion.attemptID = some r.id) (hs : r.status = .started)
    (hallowed : (completedAttempt r completion).Allowed) :
    db.complete completion =
      .ok { db with attempts := exchange db.attempts r (completedAttempt r completion) } := by
  have hfind : (db.attempts.find? fun x => x.id = r.id ∧ x.status = .started) = some r := by
    cases hfind : db.attempts.find? fun x => x.id = r.id ∧ x.status = .started with
    | none =>
      have := List.find?_eq_none.1 hfind r hr
      simp [hs] at this
    | some x =>
      have hx : x.id = r.id ∧ x.status = .started := by simpa using List.find?_some hfind
      rw [List.inj_on_of_nodup_map hn (List.mem_of_find?_eq_some hfind) hr hx.1]
  have hmap := map_if_eq_exchange (fun x => completedAttempt x completion)
    (fun x : AttemptRow => x.id = r.id ∧ x.status = .started) hn hr ⟨rfl, hs⟩ fun x hx => hx.1
  rw [complete, hvalid, ok_bind, hid]
  dsimp only
  rw [hfind]
  dsimp only
  rw [check_bind hallowed, hmap]
  rfl

end Db

end MailService
