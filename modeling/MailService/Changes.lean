import MailService.Lifecycle
import MailService.Postgres.Effects
/-!
# Committed changes

What a committed transaction does to the tables, whatever code ran it: a new
message with its first events, or one message moved along an edge with its
journal row, its outbox events and what the move means for its attempts
(`Change`). Every invariant of the database is proved of these changes, and every
transaction is shown to make only such changes.
-/
open Text Checks Table

namespace MailService

open Db

/-! ## Rows -/

/-- The journal rows of the events of a message whose tenant is stored as `tenantID`. -/
def journalRows (L : Libs) (tenantID idempotencyKey : String) (events : List Event) : List DeliveryEvent :=
  (lifecycleEvents events).map fun e =>
    { deliveryEventOf L tenantID idempotencyKey e with occurredAt := truncate e.occurredAt }

/-- The outbox rows of the events of a message, with the tenant as the record spells it. -/
def outboxRows (L : Libs) (now : Time) (tenantID : String) (events : List Event) : List OutboxRow :=
  events.map fun e => storedOutbox now (outboxEventOf L tenantID e)

/-! ## Later states -/

/-- The columns of a message that no update touches. -/
def MessageRow.fixed (r : MessageRow) :=
  (r.tenantID, r.idempotencyKey, r.payloadFingerprint, r.category, r.priority,
    r.duplicateRiskPolicy, r.submission, r.snapshot.id, r.snapshot.maxAttempts, r.snapshot.acceptedAt)

/-- A row and what an update made of it: every update raises the version and the
sequence. -/
def RowLater (r r' : MessageRow) : Prop :=
  r' = r ∨ r'.fixed = r.fixed ∧ r.snapshot.version < r'.snapshot.version ∧
    r.snapshot.latestSequence < r'.snapshot.latestSequence ∧
    r.snapshot.dispatchGeneration ≤ r'.snapshot.dispatchGeneration

/-- The columns of an attempt that its completion keeps. -/
def AttemptRow.fixed (a : AttemptRow) :=
  (a.id, a.messageID, a.attemptNo, a.dispatchGeneration, a.providerKey, a.startedAt)

/-- A committed state and a later one. -/
structure Db.Later (db db' : Db) : Prop where
  messages : ∀ r ∈ db.messages, ∃ r' ∈ db'.messages, RowLater r r'
  attempts : ∀ a ∈ db.attempts, ∃ a' ∈ db'.attempts, a'.fixed = a.fixed
  outbox : ∀ o ∈ db.outbox, ∃ o' ∈ db'.outbox, o'.event = o.event
  tenants : db'.tenants = db.tenants

theorem RowLater.fixed_eq {r r' : MessageRow} (h : RowLater r r') : r'.fixed = r.fixed := by
  rcases h with rfl | h
  · rfl
  · exact h.1

theorem RowLater.id_eq {r r' : MessageRow} (h : RowLater r r') : r'.snapshot.id = r.snapshot.id := by
  have := h.fixed_eq
  simp only [MessageRow.fixed, Prod.mk.injEq] at this
  tauto

theorem RowLater.sequence_le {r r' : MessageRow} (h : RowLater r r') :
    r.snapshot.latestSequence ≤ r'.snapshot.latestSequence := by
  rcases h with rfl | h
  · exact le_rfl
  · exact h.2.2.1.le

theorem RowLater.generation_le {r r' : MessageRow} (h : RowLater r r') :
    r.snapshot.dispatchGeneration ≤ r'.snapshot.dispatchGeneration := by
  rcases h with rfl | h
  · exact le_rfl
  · exact h.2.2.2

theorem RowLater.trans {r r' r'' : MessageRow} (h : RowLater r r') (h' : RowLater r' r'') :
    RowLater r r'' := by
  rcases h with rfl | ⟨hf, hv, hs, hg⟩
  · exact h'
  · rcases h' with rfl | ⟨hf', hv', hs', hg'⟩
    · exact .inr ⟨hf, hv, hs, hg⟩
    · exact .inr ⟨hf'.trans hf, hv.trans hv', hs.trans hs', hg.trans hg'⟩

namespace Db.Later

variable {db db' db'' : Db}

theorem refl (db : Db) : db.Later db :=
  ⟨fun r hr => ⟨r, hr, .inl rfl⟩, fun a ha => ⟨a, ha, rfl⟩, fun o ho => ⟨o, ho, rfl⟩, rfl⟩

theorem trans (h : db.Later db') (h' : db'.Later db'') : db.Later db'' where
  messages r hr := by
    obtain ⟨r', hr', hl⟩ := h.messages r hr
    obtain ⟨r'', hr'', hl'⟩ := h'.messages r' hr'
    exact ⟨r'', hr'', hl.trans hl'⟩
  attempts a ha := by
    obtain ⟨a', ha', hf⟩ := h.attempts a ha
    obtain ⟨a'', ha'', hf'⟩ := h'.attempts a' ha'
    exact ⟨a'', ha'', hf'.trans hf⟩
  outbox o ho := by
    obtain ⟨o', ho', he⟩ := h.outbox o ho
    obtain ⟨o'', ho'', he'⟩ := h'.outbox o' ho'
    exact ⟨o'', ho'', he'.trans he⟩
  tenants := h'.tenants.trans h.tenants

/-- The row that a later state has under an id. -/
theorem row_later (h : db.Later db') (hn : db'.messageIDs.Nodup) {r r' : MessageRow} (hr : r ∈ db.messages)
    (hr' : r' ∈ db'.messages) (hid : r'.snapshot.id = r.snapshot.id) : RowLater r r' := by
  obtain ⟨r'', hr'', hl⟩ := h.messages r hr
  obtain rfl : r'' = r' := List.inj_on_of_nodup_map hn hr'' hr' (hl.id_eq.trans hid.symm)
  exact hl

/-- The compare-and-swap: a row with the version that was read is the row that was read. -/
theorem eq_of_version (h : db.Later db') (hn : db'.messageIDs.Nodup) {r r' : MessageRow}
    (hr : r ∈ db.messages) (hr' : r' ∈ db'.messages) (hid : r'.snapshot.id = r.snapshot.id)
    (hv : r'.snapshot.version = r.snapshot.version) : r' = r := by
  rcases h.row_later hn hr hr' hid with rfl | ⟨-, hlt, -⟩
  · rfl
  · omega

end Db.Later

/-! ## Changes -/

/-- The status of a message's last attempt, by that of the message. -/
def attemptStatus : Status → DeliveryAttemptStatus
  | .sending => .started
  | .providerAccepted => .providerAccepted
  | .submissionUnknown => .submissionUnknown
  | _ => .failed

/-- A message is queued or expires with no attempt whose outcome is open. -/
theorem attemptStatus_of_idle {a b : Status} (edge : canTransition a b = true)
    (h : b = .queued ∨ b = .expired) :
    attemptStatus a = .failed ∧ attemptStatus b = .failed := by
  rcases h with rfl | rfl <;> cases a <;> simp [canTransition, oneOf, attemptStatus] at edge ⊢

/-- What a message's move to `m` means for the table of attempts. -/
inductive AttemptChange (db : Db) (r : MessageRow) (m : Message) : List AttemptRow → Prop
  | unchanged (source : r.snapshot.status ≠ .sending) (target : m.status = .queued ∨ m.status = .expired) :
      AttemptChange db r m db.attempts
  | started {row : AttemptRow} (target : m.status = .sending) (messageID : row.messageID = r.snapshot.id)
      (attemptNo : row.attemptNo = m.attemptCount)
      (generation : row.dispatchGeneration = m.dispatchGeneration)
      (status : row.status = .started) (startedAt : row.startedAt = truncate m.updatedAt)
      (fresh : db.FreshAttempt row) (early : row.startedAt < r.snapshot.dispatchDeadline) :
      AttemptChange db r m (db.attempts ++ [row])
  | completed {row : AttemptRow} {completion : CompleteDeliveryAttempt}
      (source : r.snapshot.status = .sending) (target : m.status ≠ .sending) (mem : row ∈ db.attempts)
      (messageID : row.messageID = r.snapshot.id) (status : row.status = .started)
      (finished : completion.status ≠ .started)
      (retried : m.status = .retryScheduled →
      completion.status = .failed ∧ ∃ f ∈ completion.failure, f.retryable = true)
      (requeued : m.status ≠ .queued) (answer : completion.status = attemptStatus m.status) :
      AttemptChange db r m (exchange db.attempts row (completedAttempt row completion))

/-- One message moved in a transaction at `now`, with everything that goes with it. -/
structure Advance (L : Libs) (now : Time) (db : Db) (r : MessageRow) (m : Message) (db' : Db) : Prop where
  mem : r ∈ db.messages
  moved : Moved now r.message m
  allowed : (updatedRow r m.toSnapshot).Allowed
  attempts : AttemptChange db r m db'.attempts
  messages : db'.messages = exchange db.messages r (updatedRow r m.toSnapshot)
  events : db'.events = db.events ++ journalRows L r.tenantID r.idempotencyKey m.pendingEvents
  outbox : db'.outbox = db.outbox ++ outboxRows L now r.tenantID m.pendingEvents
  outboxIDs : Fresh (·.event.id) db.outbox (outboxRows L now r.tenantID m.pendingEvents)
  tenants : db'.tenants = db.tenants

/-- What `Create` has validated of the columns that no update touches; of the metadata only
its size can still be wrong, since its text was rewritten. -/
structure MessageRow.Checked (r : MessageRow) : Prop where
  idempotencyKey : trimmedWithin r.idempotencyKey 255
  submission : ∀ d ∈ r.submission, (d.validate = .ok () ↔ len d.metadata ≤ 4 * 1024)

/-- One message created in a transaction, under one of the ids that may be drawn and from a record
that spells its tenant `tenantID`. -/
structure Created (L : Libs) (ids : Set Uuid) (tenantID : String) (db : Db)
    (row : MessageRow) (params : NewParams) (m : Message) (db' : Db) : Prop where
  moved : Moved params.now (acceptedMessage params) m
  routed : m.status = .scheduled ∨ m.status = .queued
  maxAttempts : 0 < params.maxAttempts ∧ params.maxAttempts ≤ 10
  drawn : ∃ u ∈ ids, params.id = u.text
  tenant : uuidColumn tenantID = some row.tenantID
  tenantKnown : ∃ t ∈ db.tenants, t.id = row.tenantID
  snapshot : row.snapshot = m.toSnapshot.truncated
  allowed : row.Allowed
  checked : row.Checked
  freshID : params.id ∉ db.messageIDs
  freshKey : db.findKey row.tenantID row.idempotencyKey = none
  messages : db'.messages = db.messages ++ [row]
  events : db'.events = db.events ++ journalRows L row.tenantID row.idempotencyKey m.pendingEvents
  outbox : db'.outbox = db.outbox ++ outboxRows L params.now tenantID m.pendingEvents
  outboxIDs : Fresh (·.event.id) db.outbox (outboxRows L params.now tenantID m.pendingEvents)
  attempts : db'.attempts = db.attempts
  tenants : db'.tenants = db.tenants

inductive Change (L : Libs) (ids : Set Uuid) (db : Db) : Db → Prop
  | created {tenantID row params m db'} (h : Created L ids tenantID db row params m db') : Change L ids db db'
  | advanced {now r m db'} (h : Advance L now db r m db') : Change L ids db db'

/-- A relay leased rows or recorded a result: the events are what they were. -/
structure Relayed (db db' : Db) : Prop where
  events : db'.outbox.map (·.event) = db.outbox.map (·.event)
  rest : db' = { db with outbox := db'.outbox }

/-! ## Keys -/

/-- What makes the rows of a message findable: ids do not repeat and are in
canonical form, and no event, outbox row or attempt is ahead of its message. -/
structure Db.Keyed (db : Db) : Prop where
  ids : db.messageIDs.Nodup
  attemptIDs : db.attemptIDs.Nodup
  canonical : ∀ r ∈ db.messages, uuidColumn r.snapshot.id = some r.snapshot.id ∧
    uuidColumn r.tenantID = some r.tenantID
  journal : ∀ e ∈ db.events, ∃ r ∈ db.messages, r.snapshot.id = e.messageID ∧
    e.sequence ≤ r.snapshot.latestSequence
  outbox : ∀ o ∈ db.outbox, ∃ r ∈ db.messages, r.snapshot.id = o.event.aggregateID ∧
    o.event.aggregateSequence ≤ r.snapshot.latestSequence ∧
    o.event.dispatchGeneration ≤ r.snapshot.dispatchGeneration
  outboxIDs : (db.outbox.map (·.event.id)).Nodup
  attempts : ∀ a ∈ db.attempts, ∃ r ∈ db.messages, r.snapshot.id = a.messageID

/-- What every event that goes with a move refers to. -/
theorem Moved.pending {now : Time} {m m' : Message} (h : Moved now m m') :
    ∀ e ∈ m'.pendingEvents, e ∈ m.pendingEvents ∨ e.messageID = m'.id ∧ e.sequence = m'.latestSequence ∧
      e.dispatchGeneration = m'.dispatchGeneration := by
  obtain ⟨details, he⟩ := h.events
  rw [he]
  intro e hmem
  rcases List.mem_append.1 hmem with hmem | hmem
  · exact .inl hmem
  right
  rcases List.mem_cons.1 hmem with rfl | hmem
  · exact ⟨h.id.symm, rfl, rfl⟩
  · unfold dispatchEvents at hmem
    split at hmem
    · rw [List.mem_singleton.1 hmem]
      exact ⟨rfl, rfl, rfl⟩
    · simp at hmem

theorem Moved.generation_le {now : Time} {m m' : Message} (h : Moved now m m') :
    m.dispatchGeneration ≤ m'.dispatchGeneration := by
  cases h.counts <;> omega

theorem Advance.rowLater {L : Libs} {now : Time} {db db' : Db} {r : MessageRow} {m : Message}
    (h : Advance L now db r m db') : RowLater r (updatedRow r m.toSnapshot) := by
  refine .inr ⟨?_, Nat.lt_succ_self _, ?_, h.moved.generation_le⟩
  · simp only [MessageRow.fixed, updatedRow, Snapshot.truncated, h.moved.maxAttempts]
    rfl
  · have : m.latestSequence = r.snapshot.latestSequence + 1 := h.moved.sequence
    simp only [updatedRow, Snapshot.truncated]
    omega

/-- The events of a move belong to the message and are not ahead of it. -/
theorem Advance.pending {L : Libs} {now : Time} {db db' : Db} {r : MessageRow} {m : Message}
    (h : Advance L now db r m db') : ∀ e ∈ m.pendingEvents, e.messageID = r.snapshot.id ∧
      e.sequence = m.latestSequence ∧ e.dispatchGeneration = m.dispatchGeneration := by
  intro e he
  rcases h.moved.pending e he with he | ⟨h1, h2, h3⟩
  · simp [MessageRow.message] at he
  · exact ⟨h1.trans h.moved.id, h2, h3⟩

theorem Created.pending {L : Libs} {ids : Set Uuid} {tenantID : String} {db db' : Db} {row : MessageRow}
    {params : NewParams} {m : Message} (h : Created L ids tenantID db row params m db') :
    ∀ e ∈ m.pendingEvents, e.messageID = params.id ∧
      e.sequence ≤ m.latestSequence ∧ e.dispatchGeneration ≤ m.dispatchGeneration := by
  intro e he
  have hseq : m.latestSequence = 2 := h.moved.sequence
  rcases h.moved.pending e he with he | ⟨h1, h2, h3⟩
  · simp only [acceptedMessage, List.mem_singleton] at he
    subst he
    exact ⟨rfl, by change 1 ≤ _; omega, Nat.zero_le _⟩
  · exact ⟨h1.trans h.moved.id, h2.le, h3.le⟩

theorem Created.canonical {L : Libs} {ids : Set Uuid} {tenantID : String} {db db' : Db} {row : MessageRow}
    {params : NewParams} {m : Message} (h : Created L ids tenantID db row params m db') :
    uuidColumn params.id = some params.id := by
  obtain ⟨u, -, hu⟩ := h.drawn
  rw [hu]
  exact uuidColumn_text u

theorem mem_journalRows {L : Libs} {tenantID key : String} {events : List Event} {j : DeliveryEvent}
    (h : j ∈ journalRows L tenantID key events) :
    ∃ e ∈ events, j.messageID = e.messageID ∧ j.sequence = e.sequence := by
  simp only [journalRows, lifecycleEvents, List.mem_map, List.mem_filter] at h
  obtain ⟨e, ⟨he, -⟩, rfl⟩ := h
  exact ⟨e, he, rfl, rfl⟩

theorem mem_outboxRows {L : Libs} {now : Time} {tenantID : String} {events : List Event} {o : OutboxRow}
    (h : o ∈ outboxRows L now tenantID events) : ∃ e ∈ events, o.event.aggregateID = e.messageID ∧
      o.event.aggregateSequence = e.sequence ∧ o.event.dispatchGeneration = e.dispatchGeneration := by
  simp only [outboxRows, List.mem_map] at h
  obtain ⟨e, he, rfl⟩ := h
  exact ⟨e, he, rfl, rfl, rfl⟩

/-- The attempts after a change are those before, perhaps completed, and perhaps one
new one of the message. -/
theorem AttemptChange.mem {db : Db} {r : MessageRow} {m : Message} {attempts : List AttemptRow}
    (h : AttemptChange db r m attempts) : ∀ a ∈ attempts, (∃ b ∈ db.attempts, a.fixed = b.fixed) ∨
      a.messageID = r.snapshot.id := by
  intro a ha
  cases h with
  | unchanged => exact .inl ⟨a, ha, rfl⟩
  | started _ messageID =>
    rcases List.mem_append.1 ha with ha | ha
    · exact .inl ⟨a, ha, rfl⟩
    · exact .inr (by rw [List.mem_singleton.1 ha]; exact messageID)
  | completed _ _ mem =>
    rcases (mem_exchange mem).1 ha with rfl | ⟨ha, -⟩
    · exact .inl ⟨_, mem, rfl⟩
    · exact .inl ⟨a, ha, rfl⟩

theorem AttemptChange.kept {db : Db} {r : MessageRow} {m : Message} {attempts : List AttemptRow}
    (h : AttemptChange db r m attempts) : ∀ a ∈ db.attempts, ∃ b ∈ attempts, b.fixed = a.fixed := by
  intro a ha
  cases h with
  | unchanged => exact ⟨a, ha, rfl⟩
  | started => exact ⟨a, List.mem_append_left _ ha, rfl⟩
  | @completed row completion _ _ mem =>
    by_cases hra : a = row
    · exact ⟨_, (mem_exchange mem).2 (.inl rfl), hra ▸ rfl⟩
    · exact ⟨a, (mem_exchange mem).2 (.inr ⟨ha, hra⟩), rfl⟩

theorem AttemptChange.nodup {db : Db} {r : MessageRow} {m : Message} {attempts : List AttemptRow}
    (h : AttemptChange db r m attempts) (hn : db.attemptIDs.Nodup) : (attempts.map (·.id)).Nodup := by
  cases h with
  | unchanged => exact hn
  | started _ _ _ _ _ _ fresh =>
    rw [List.map_append, List.nodup_append]
    refine ⟨hn, by simp, ?_⟩
    rintro a ha b hb rfl
    obtain ⟨x, hx, hxa⟩ := List.mem_map.1 ha
    exact (fresh x hx).1 (hxa.trans (by simpa using hb))
  | completed => rw [map_exchange _ _ (by rfl)]; exact hn

theorem Change.later {L : Libs} {ids : Set Uuid} {db db' : Db} (h : Change L ids db db') : db.Later db' := by
  cases h with
  | created h =>
    refine ⟨fun r hr => ⟨r, ?_, .inl rfl⟩, fun a ha => ⟨a, ?_, rfl⟩, fun o ho => ⟨o, ?_, rfl⟩, h.tenants⟩
    · rw [h.messages]; exact List.mem_append_left _ hr
    · rw [h.attempts]; exact ha
    · rw [h.outbox]; exact List.mem_append_left _ ho
  | @advanced now r m _ h =>
    refine ⟨fun x hx => ?_, h.attempts.kept, fun o ho => ⟨o, ?_, rfl⟩, h.tenants⟩
    · rw [h.messages]
      by_cases hxr : x = r
      · exact ⟨_, (mem_exchange h.mem).2 (.inl rfl), hxr ▸ h.rowLater⟩
      · exact ⟨x, (mem_exchange h.mem).2 (.inr ⟨hx, hxr⟩), .inl rfl⟩
    · rw [h.outbox]; exact List.mem_append_left _ ho

theorem Relayed.later {db db' : Db} (h : Relayed db db') : db.Later db' := by
  obtain ⟨events, rest⟩ := h
  rw [rest]
  refine ⟨fun r hr => ⟨r, hr, .inl rfl⟩, fun a ha => ⟨a, ha, rfl⟩, fun o ho => ?_, rfl⟩
  have : o.event ∈ db'.outbox.map (·.event) := events ▸ List.mem_map_of_mem ho
  obtain ⟨o', ho', he⟩ := List.mem_map.1 this
  exact ⟨o', ho', he⟩

/-- A row of the message is where the change left it. -/
theorem Advance.updated_mem {L : Libs} {now : Time} {db db' : Db} {r : MessageRow} {m : Message}
    (h : Advance L now db r m db') : updatedRow r m.toSnapshot ∈ db'.messages := by
  rw [h.messages]
  exact (mem_exchange h.mem).2 (.inl rfl)

theorem Change.keyed {L : Libs} {ids : Set Uuid} {db db' : Db} (h : Change L ids db db')
    (hk : db.Keyed) : db'.Keyed := by
  -- whatever was not ahead of its message before is not ahead of the later row
  have hlater := h.later
  have hjournal : ∀ e ∈ db.events, ∃ r ∈ db'.messages, r.snapshot.id = e.messageID ∧
      e.sequence ≤ r.snapshot.latestSequence := by
    intro e he
    obtain ⟨r, hr, hid, hle⟩ := hk.journal e he
    obtain ⟨r', hr', hl⟩ := hlater.messages r hr
    exact ⟨r', hr', hl.id_eq.trans hid, hle.trans hl.sequence_le⟩
  have houtbox : ∀ o ∈ db.outbox, ∃ r ∈ db'.messages, r.snapshot.id = o.event.aggregateID ∧
      o.event.aggregateSequence ≤ r.snapshot.latestSequence ∧
      o.event.dispatchGeneration ≤ r.snapshot.dispatchGeneration := by
    intro o ho
    obtain ⟨r, hr, hid, hle, hge⟩ := hk.outbox o ho
    obtain ⟨r', hr', hl⟩ := hlater.messages r hr
    exact ⟨r', hr', hl.id_eq.trans hid, hle.trans hl.sequence_le, hge.trans hl.generation_le⟩
  have hattempts : ∀ a ∈ db.attempts, ∃ r ∈ db'.messages, r.snapshot.id = a.messageID := by
    intro a ha
    obtain ⟨r, hr, hid⟩ := hk.attempts a ha
    obtain ⟨r', hr', hl⟩ := hlater.messages r hr
    exact ⟨r', hr', hl.id_eq.trans hid⟩
  cases h with
  | @created tenantID row params m _ h =>
    have hid : row.snapshot.id = params.id := by rw [h.snapshot]; exact h.moved.id
    refine ⟨?_, ?_, ?_, ?_, ?_, ?_, ?_⟩
    · rw [messageIDs, h.messages, List.map_append, List.nodup_append]
      refine ⟨hk.ids, by simp, ?_⟩
      rintro a ha b hb rfl
      have hab : a = params.id := by simpa [hid] using hb
      exact h.freshID (hab ▸ ha)
    · rw [attemptIDs, h.attempts]; exact hk.attemptIDs
    · rw [h.messages]
      intro r hr
      rcases List.mem_append.1 hr with hr | hr
      · exact hk.canonical r hr
      · rw [List.mem_singleton.1 hr, hid]
        exact ⟨h.canonical, uuidColumn_stable h.tenant⟩
    · rw [h.events]
      intro e he
      rcases List.mem_append.1 he with he | he
      · exact hjournal e he
      · obtain ⟨x, hx, h1, h2⟩ := mem_journalRows he
        obtain ⟨hm, hs, -⟩ := h.pending x hx
        refine ⟨row, by simp [h.messages], hid.trans (h1.trans hm).symm, ?_⟩
        rw [h2, h.snapshot]
        exact hs
    · rw [h.outbox]
      intro o ho
      rcases List.mem_append.1 ho with ho | ho
      · exact houtbox o ho
      · obtain ⟨x, hx, h1, h2, h3⟩ := mem_outboxRows ho
        obtain ⟨hm, hs, hg⟩ := h.pending x hx
        refine ⟨row, by simp [h.messages], hid.trans (h1.trans hm).symm, ?_⟩
        rw [h2, h3, h.snapshot]
        exact ⟨hs, hg⟩
    · rw [h.outbox]; exact h.outboxIDs.nodup_append hk.outboxIDs
    · rw [h.attempts]; exact hattempts
  | @advanced now r m _ h =>
    refine ⟨?_, h.attempts.nodup hk.attemptIDs, ?_, ?_, ?_, ?_, ?_⟩
    · rw [messageIDs, h.messages,
        map_exchange (fun x : MessageRow => x.snapshot.id) _ h.rowLater.id_eq]; exact hk.ids
    · rw [h.messages]
      intro x hx
      rcases (mem_exchange h.mem).1 hx with rfl | ⟨hx, -⟩
      · exact hk.canonical r h.mem
      · exact hk.canonical x hx
    · rw [h.events]
      intro e he
      rcases List.mem_append.1 he with he | he
      · exact hjournal e he
      · obtain ⟨x, hx, h1, h2⟩ := mem_journalRows he
        obtain ⟨hm, hs, -⟩ := h.pending x hx
        exact ⟨_, h.updated_mem, (h1.trans hm).symm, (h2.trans hs).le⟩
    · rw [h.outbox]
      intro o ho
      rcases List.mem_append.1 ho with ho | ho
      · exact houtbox o ho
      · obtain ⟨x, hx, h1, h2, h3⟩ := mem_outboxRows ho
        obtain ⟨hm, hs, hg⟩ := h.pending x hx
        exact ⟨_, h.updated_mem, (h1.trans hm).symm, (h2.trans hs).le, (h3.trans hg).le⟩
    · rw [h.outbox]; exact h.outboxIDs.nodup_append hk.outboxIDs
    · intro a ha
      rcases h.attempts.mem a ha with ⟨b, hb, hf⟩ | hm
      · obtain ⟨x, hx, hid⟩ := hattempts b hb
        have : a.messageID = b.messageID := by
          simp only [AttemptRow.fixed, Prod.mk.injEq] at hf
          exact hf.2.1
        exact ⟨x, hx, hid.trans this.symm⟩
      · exact ⟨_, h.updated_mem, hm.symm⟩

theorem Relayed.keyed {db db' : Db} (h : Relayed db db') (hk : db.Keyed) : db'.Keyed := by
  obtain ⟨events, rest⟩ := h
  rw [rest]
  refine ⟨hk.ids, hk.attemptIDs, hk.canonical, hk.journal, fun o ho => ?_, ?_, hk.attempts⟩
  · have : o.event ∈ db.outbox.map (·.event) := events ▸ List.mem_map_of_mem ho
    obtain ⟨o', ho', he⟩ := List.mem_map.1 this
    rw [← he]
    exact hk.outbox o' ho'
  · have hids := congrArg (List.map (·.id)) events
    rw [List.map_map, List.map_map] at hids
    exact hids ▸ hk.outboxIDs

end MailService
