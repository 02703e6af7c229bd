import MailService.Submission
import MailService.Transactions
/-!
# Accepting a submission

The transaction of `Submit` either finds its idempotency key taken and writes
nothing, or makes one `Change`: the new message with its first events.
-/
open Text Checks Table

namespace MailService

open Db

variable {L : Libs} {ids : Set Uuid} {now : Time} {db db' : Db}

/-! ## The record -/

variable {p : PreparedSubmission}

theorem submissionRecord_eq_ok {record : MessageRecord} : submissionRecord p now = .ok record ↔
    validateSubmissionTimes now p.normalized.scheduledAt p.normalized.dispatchDeadline = .ok () ∧
    ∃ m, Message.new (submissionParams p now) = .ok m ∧ record = p.record m := by
  simp only [submissionRecord, unit_bind_eq_ok]
  refine and_congr_right fun _ => ?_
  rw [bind_eq_ok]
  simp only [mapError_ok_iff, pure_eq_ok, @eq_comm _ record]

theorem maxAttemptsFor_bounds (category : EmailCategory) :
    0 < maxAttemptsFor category ∧ maxAttemptsFor category ≤ 10 := by
  cases category <;> simp [maxAttemptsFor]

/-! ## Create -/

/-- What an insert that found its key free did. -/
theorem insertMessage_eq_some {record : MessageRecord} (h : db.insertMessage record = .ok (some db')) :
    ∃ row, createRow record = some row ∧ row.Allowed ∧ db.findKey row.tenantID row.idempotencyKey = none ∧
      row.snapshot.id ∉ db.messageIDs ∧ (∃ t ∈ db.tenants, t.id = row.tenantID) ∧
      db' = { db with messages := db.messages ++ [row] } := by
  unfold insertMessage at h
  split at h
  · simp at h
  rename_i row hrow
  split at h
  · simp at h
  split at h
  · simp at h
  split at h
  · simp at h
  split at h
  · simp at h
  rename_i hallowed hkey hid htenant
  simp only [Except.ok.injEq, Option.some.injEq] at h
  refine ⟨row, hrow, not_not.1 hallowed, by simpa using hkey, ?_, ?_, h.symm⟩
  · simpa [messageIDs] using hid
  · simpa using htenant

theorem insertMessage_eq_none {record : MessageRecord} (h : db.insertMessage record = .ok none) :
    ∃ row, createRow record = some row ∧ (db.findKey row.tenantID row.idempotencyKey).isSome := by
  unfold insertMessage at h
  split at h
  · simp at h
  rename_i row hrow
  split at h
  · simp at h
  split at h
  · rename_i hkey
    exact ⟨row, hrow, hkey⟩
  split at h
  · simp at h
  split at h <;> simp at h

theorem createRow_eq_some {record : MessageRecord} {row : MessageRow} (h : createRow record = some row) :
    uuidColumn record.message.id = some row.snapshot.id ∧ uuidColumn record.tenantID = some row.tenantID ∧
      row.idempotencyKey = record.idempotencyKey ∧ row.payloadFingerprint = record.payloadFingerprint ∧
      row.snapshot = { record.message.toSnapshot.truncated with id := row.snapshot.id } := by
  unfold createRow at h
  split at h
  · rename_i id tenant submission hid htenant hsub
    simp only [Option.some.injEq] at h
    subst h
    exact ⟨hid, htenant, rfl, rfl, rfl⟩
  · simp at h

/-- The submission's columns are the record's, with the text that `jsonb` gives the metadata. -/
theorem createRow_submission {record : MessageRecord} {row : MessageRow} (h : createRow record = some row) :
    ∀ d ∈ row.submission, ∃ original ∈ record.submission, ∃ text, jsonbColumn original.metadata = some text ∧
      d = { original with metadata := text } := by
  unfold createRow at h
  split at h
  · rename_i id tenant submission _ _ hsub
    simp only [Option.some.injEq] at h
    subst h
    intro d hd
    cases hrec : record.submission with
    | none =>
      rw [hrec] at hsub
      simp [← Option.some.inj hsub] at hd
    | some original =>
      simp only [hrec, Option.mapM_some, Option.map_eq_map, Option.map_map, Option.map_eq_some_iff] at hsub
      obtain ⟨text, htext, rfl⟩ := hsub
      exact ⟨original, rfl, text, htext, (Option.some.inj hd).symm⟩
  · simp at h

/-- The columns of a record that was validated and stored. -/
theorem createRow_checked {record : MessageRecord} {row : MessageRow} (h : createRow record = some row)
    (hv : record.validate = .ok ()) : row.Checked := by
  obtain ⟨-, -, hkey, -⟩ := createRow_eq_some h
  refine ⟨?_, fun d hd => ?_⟩
  · simp only [MessageRecord.validate, check_bind_eq_ok] at hv
    rw [hkey]
    exact hv.2.1
  · obtain ⟨original, horiginal, text, htext, rfl⟩ := createRow_submission h d hd
    simp only [MessageRecord.validate, Option.mem_def.1 horiginal, unit_bind_eq_ok] at hv
    exact SubmissionDetails.validate_stored hv.2.2.2.2.2.1 htext

/-- What `Create` returned: the record as given with a new row, or the stored
message that holds the key, with the same fingerprint. -/
theorem create_eq_ok {record : MessageRecord} {result : CreateMessageResult}
    (h : db.create record = .ok (db', result)) :
    (result = ⟨.created, record⟩ ∧ ∃ row, createRow record = some row ∧ row.Allowed ∧ row.Checked ∧
      db.findKey row.tenantID row.idempotencyKey = none ∧ row.snapshot.id ∉ db.messageIDs ∧
      (∃ t ∈ db.tenants, t.id = row.tenantID) ∧ db' = { db with messages := db.messages ++ [row] }) ∨
    (db' = db ∧ ∃ tenant r, uuidColumn record.tenantID = some tenant ∧
      db.findKey tenant record.idempotencyKey = some r ∧ r.Loadable ∧
      r.payloadFingerprint = record.payloadFingerprint ∧ result = ⟨.duplicate, r.record⟩) := by
  simp only [create, bind_eq_ok] at h
  obtain ⟨_, hvalid, _, -, inserted, hins, h⟩ := h
  cases inserted with
  | some db₁ =>
    simp only [pure_eq_ok, Prod.mk.injEq] at h
    obtain ⟨rfl, rfl⟩ := h
    obtain ⟨row, hrow, hallowed, hkey, hid, htenant, hdb⟩ := insertMessage_eq_some hins
    simp only [MessageRecord.validateForCreate, unit_bind_eq_ok] at hvalid
    exact .inl ⟨rfl, row, hrow, hallowed, createRow_checked hrow hvalid.1, hkey, hid, htenant, hdb⟩
  | none =>
    simp only [resolveDuplicate, getByIdempotencyKey, bind_eq_ok, check_eq_ok, pure_eq_ok, Prod.mk.injEq] at h
    obtain ⟨result', ⟨existing, ⟨_, -, _, -, hget⟩, _, hfp, rfl⟩, rfl, rfl⟩ := h
    split at hget
    · simp at hget
    rename_i tenant htenant
    cases hfind : db.findKey tenant record.idempotencyKey with
    | none => simp [hfind, scanFound] at hget
    | some r =>
      rw [hfind, scanFound, scanMessageRecord_eq_ok] at hget
      obtain ⟨hl, rfl⟩ := hget
      exact .inr ⟨rfl, tenant, r, htenant, hfind, hl, hfp, rfl⟩

/-! ## The events of a new message -/

/-- The events of a new message: its acceptance, its first move, and perhaps a
dispatch request. -/
theorem Moved.created_pending {params : NewParams} {m : Message}
    (h : Moved params.now (acceptedMessage params) m) :
    ∃ accepted moved, m.pendingEvents = accepted :: moved :: dispatchEvents m params.now ∧
      accepted.kind = .messageAccepted ∧ accepted.sequence = 1 ∧ accepted.dispatchGeneration = 0 ∧
      accepted.target = .accepted ∧ accepted.messageID = params.id ∧
      moved.kind = .statusChanged ∧ moved.sequence = 2 ∧ moved.target = m.status ∧
      moved.messageID = params.id := by
  obtain ⟨details, he⟩ := h.events
  exact ⟨_, _, he, rfl, rfl, rfl, rfl, rfl, rfl, h.sequence, rfl, rfl⟩

theorem lifecycleEvents_created {m : Message} {accepted moved : Event}
    (he : m.pendingEvents = accepted :: moved :: dispatchEvents m now) (ha : accepted.kind = .messageAccepted)
    (hm : moved.kind = .statusChanged) : lifecycleEvents m.pendingEvents = [accepted, moved] := by
  rw [he]
  unfold dispatchEvents
  split <;> simp [lifecycleEvents, ha, hm, dispatchEvent]

section Fresh

variable {params : NewParams} {m : Message} {tenantID tenant key : String}

theorem created_messageID (h : Moved params.now (acceptedMessage params) m) :
    ∀ e ∈ m.pendingEvents, e.messageID = params.id := by
  intro e hmem
  rcases h.pending e hmem with he | ⟨he, -⟩
  · simp only [acceptedMessage, List.mem_singleton] at he
    rw [he]
  · exact he.trans h.id

/-- How the journal stores them: under the tenant id as its column has it. -/
theorem created_eventRow (ht : uuidColumn tenantID = some tenant)
    (hcanon : uuidColumn params.id = some params.id) (h : Moved params.now (acceptedMessage params) m) :
    ∀ d ∈ (lifecycleEvents m.pendingEvents).map (deliveryEventOf L tenantID key), eventRow d =
      some { d with tenantID := tenant, occurredAt := truncate d.occurredAt } := by
  intro d hd
  obtain ⟨e, hmem, rfl⟩ := List.mem_map.1 hd
  exact eventRow_deliveryEventOf ht
    (by rw [created_messageID h e (List.mem_of_mem_filter hmem)]; exact hcanon)

theorem created_journal : ((lifecycleEvents m.pendingEvents).map (deliveryEventOf L tenantID key)).map
    (fun d => { d with tenantID := tenant, occurredAt := truncate d.occurredAt }) =
      journalRows L tenant key m.pendingEvents := by
  simp only [journalRows, List.map_map]
  rfl

theorem created_canonicalIDs (hcanon : uuidColumn params.id = some params.id)
    (h : Moved params.now (acceptedMessage params) m) :
    ∀ o ∈ m.pendingEvents.map (outboxEventOf L tenantID), CanonicalIDs o := by
  intro o ho
  obtain ⟨e, hmem, rfl⟩ := List.mem_map.1 ho
  exact ⟨uuidColumn_stableID L e, by simpa [outboxEventOf, created_messageID h e hmem] using hcanon⟩

theorem created_outbox : (m.pendingEvents.map (outboxEventOf L tenantID)).map (storedOutbox now) =
    outboxRows L now tenantID m.pendingEvents := by
  simp only [outboxRows, List.map_map]
  rfl

/-- The journal has nothing of a message whose id is new. -/
theorem fresh_createdJournal (hk : db.Keyed) (hid : params.id ∉ db.messageIDs)
    (h : Moved params.now (acceptedMessage params) m) :
    Fresh journalKey db.events (journalRows L tenant key m.pendingEvents) := by
  obtain ⟨accepted, moved, he, hak, has, -, -, haid, hmk, hms, -, hmid⟩ := h.created_pending
  have hrows : (journalRows L tenant key m.pendingEvents).map journalKey =
      [(params.id, 1), (params.id, 2)] := by
    simp [journalRows, lifecycleEvents_created he hak hmk, journalKey, deliveryEventOf, has, haid, hms, hmid]
  refine ⟨fun j hj x hx hkey => hid ?_, by simp [hrows]⟩
  obtain ⟨r, hr, hrid, -⟩ := hk.journal x hx
  have hj' : journalKey j ∈ [(params.id, 1), (params.id, 2)] := hrows ▸ List.mem_map_of_mem hj
  have hx' : x.messageID = params.id := by
    rw [← hkey] at hj'
    simp only [journalKey, List.mem_cons, Prod.mk.injEq, List.not_mem_nil, or_false] at hj'
    tauto
  exact List.mem_map.2 ⟨r, hr, hrid.trans hx'⟩

theorem fresh_createdOutbox (hk : db.Keyed) (hid : params.id ∉ db.messageIDs)
    (h : Moved params.now (acceptedMessage params) m) :
    Fresh (·.event.identity) db.outbox (outboxRows L params.now tenantID m.pendingEvents) := by
  constructor
  · intro o ho x hx hkey
    obtain ⟨e, hmem, h1, -⟩ := mem_outboxRows ho
    obtain ⟨r, hr, hrid, -⟩ := hk.outbox x hx
    have hx' : x.event.aggregateID = e.messageID := by
      simp only [OutboxEvent.identity, Prod.mk.injEq] at hkey
      exact hkey.2.1.trans h1
    exact hid (List.mem_map.2 ⟨r, hr, hrid.trans (hx'.trans (created_messageID h e hmem))⟩)
  · obtain ⟨accepted, moved, he, hak, -, -, -, -, hmk, -⟩ := h.created_pending
    rw [he]
    unfold dispatchEvents
    split <;> simp [outboxRows, storedOutbox, outboxEventOf, OutboxEvent.identity, dispatchEvent,
      hak, hmk, EventKind.text]

end Fresh

/-! ## Submit -/

/-- What a committed submission did. -/
inductive SubmitEffect (L : Libs) (ids : Set Uuid) (p : PreparedSubmission) (now : Time) (db : Db) :
    Db → SubmitEmailResult → Prop
  | accepted {row : MessageRow} {m : Message} {db' : Db} (new : Message.new (submissionParams p now) = .ok m)
      (stored : createRow (p.record m) = some row)
      (created : Created L ids p.normalized.tenantID db row (submissionParams p now) m db') :
      SubmitEffect L ids p now db db' ⟨.accepted, (p.record m).pulled⟩
  | duplicate {tenant : String} {r : MessageRow} (column : uuidColumn p.normalized.tenantID = some tenant)
      (found : db.findKey tenant p.normalized.idempotencyKey = some r) (loadable : r.Loadable)
      (fingerprint : r.payloadFingerprint = p.fingerprint) :
      SubmitEffect L ids p now db db ⟨.duplicate, r.record⟩

/-- The appends of a new message's events. -/
theorem append_created {params : NewParams} {m : Message} {row : MessageRow}
    {tenantID key : String} {db₁ db₂ db₃ : Db} (hk : db.Keyed) (hid : params.id ∉ db.messageIDs)
    (hcanon : uuidColumn params.id = some params.id) (ht : uuidColumn tenantID = some row.tenantID)
    (hm : Moved params.now (acceptedMessage params) m) (he : db₁.events = db.events)
    (ho : db₁.outbox = db.outbox)
    (h₂ : db₁.appendDeliveryEvents
      ((lifecycleEvents m.pendingEvents).map (deliveryEventOf L tenantID key)) = .ok db₂)
    (h₃ : db₂.appendOutbox params.now (m.pendingEvents.map (outboxEventOf L tenantID)) = .ok db₃) :
    db₃ = { db₁ with
      events := db.events ++ journalRows L row.tenantID key m.pendingEvents
      outbox := db.outbox ++ outboxRows L params.now tenantID m.pendingEvents } ∧
      Fresh (·.event.id) db.outbox (outboxRows L params.now tenantID m.pendingEvents) := by
  obtain ⟨rfl, -⟩ := appendDeliveryEvents_eq_ok (created_eventRow ht hcanon hm)
    (by rw [created_journal, he]; exact fresh_createdJournal hk hid hm) h₂
  obtain ⟨hout, hids⟩ := appendOutbox_eq_ok (created_canonicalIDs hcanon hm)
    (by rw [created_outbox]; exact ho ▸ fresh_createdOutbox hk hid hm) h₃
  rw [created_outbox] at hids
  rw [hout, created_journal, created_outbox, he]
  exact ⟨by simp only [ho], ho ▸ hids⟩

theorem submitTransaction_effect {result : SubmitEmailResult} (hk : db.Keyed)
    (hdrawn : ∃ u ∈ ids, p.messageID = u.text) (h : submitTransaction L p now db = .ok (db', result)) :
    SubmitEffect L ids p now db db' result := by
  have hid : uuidColumn p.messageID = some p.messageID := by
    obtain ⟨u, -, hu⟩ := hdrawn
    rw [hu]
    exact uuidColumn_text u
  simp only [submitTransaction, bind_eq_ok, submissionRecord_eq_ok] at h
  obtain ⟨record, ⟨-, m, hnew, rfl⟩, ⟨db₁, persisted⟩, hcreate, h⟩ := h
  rcases create_eq_ok hcreate with
    ⟨rfl, row, hrow, hallowed, hchecked, hkey, hfresh, hknown, rfl⟩ |
    ⟨rfl, tenant, r, ht, hfind, hl, hfp, rfl⟩
  · simp only [bind_eq_ok, pure_eq_ok, Prod.mk.injEq] at h
    obtain ⟨mapped, hmap, db₂, h₂, db₃, h₃, rfl, rfl⟩ := h
    obtain ⟨hm, hroute, hdl, hnow, hmax⟩ := Message.new_moved hnew
    obtain ⟨hrid, htenant, hikey, -, hsnap⟩ := createRow_eq_some hrow
    have hmid : m.id = p.messageID := hm.id
    have hrid' : row.snapshot.id = p.messageID := by
      change uuidColumn m.id = _ at hrid
      rw [hmid, hid] at hrid
      exact (Option.some.inj hrid).symm
    have hfresh' : (submissionParams p now).id ∉ db.messageIDs := by
      rw [hrid'] at hfresh
      exact hfresh
    obtain rfl := mapAllMessageEvents_eq_ok hmap
    obtain ⟨rfl, hids⟩ := append_created hk hfresh' hid htenant hm (by rfl) (by rfl) h₂ h₃
    refine .accepted hnew hrow ?_
    exact {
      moved := hm
      routed := hroute
      maxAttempts := maxAttemptsFor_bounds _
      drawn := hdrawn
      tenant := htenant
      tenantKnown := hknown
      snapshot := by rw [hsnap, hrid', ← hmid]; rfl
      allowed := hallowed
      checked := hchecked
      freshID := hfresh'
      freshKey := hkey
      messages := rfl
      events := by rw [hikey]
      outbox := rfl
      outboxIDs := hids
      attempts := rfl
      tenants := rfl }
  · simp only [pure_eq_ok, Prod.mk.injEq] at h
    obtain ⟨rfl, rfl⟩ := h
    exact .duplicate ht hfind hl hfp

theorem prepareSubmission_messageID {catalog : SubmissionCatalog} {protector : Protector}
    {command : SubmitEmailCommand} {messageID : Uuid} {nonce : Nonce}
    (h : prepareSubmission L catalog protector command messageID nonce = .ok p) :
    p.messageID = messageID.text := by
  simp only [prepareSubmission, bind_eq_ok, pure_eq_ok] at h
  obtain ⟨_, -, _, -, _, -, _, -, _, -, _, -, _, -, rfl⟩ := h
  rfl

theorem submit_effect {catalog : SubmissionCatalog} {protector : Protector} {command : SubmitEmailCommand}
    {messageID : Uuid} {nonce : Nonce} {result : SubmitEmailResult} (hk : db.Keyed) (hdrawn : messageID ∈ ids)
    (h : submit L catalog protector command messageID nonce now db = .ok (db', result)) :
    ∃ p, prepareSubmission L catalog protector command messageID nonce = .ok p ∧
      SubmitEffect L ids p now db db' result := by
  simp only [submit, bind_eq_ok] at h
  obtain ⟨p, hp, h⟩ := h
  exact ⟨p, hp, submitTransaction_effect hk ⟨messageID, hdrawn, prepareSubmission_messageID hp⟩ h⟩

/-- A submission that was accepted at `now`: what it computed, and the row that was stored. -/
structure Submitted (L : Libs) (catalog : SubmissionCatalog) (protector : Protector)
    (command : SubmitEmailCommand) (drawn : Uuid) (nonce : Nonce) (now : Time) (p : PreparedSubmission)
    (m : Message) (row : MessageRow) : Prop where
  prepared : prepareSubmission L catalog protector command drawn nonce = .ok p
  times : validateSubmissionTimes now p.normalized.scheduledAt p.normalized.dispatchDeadline = .ok ()
  new : Message.new (submissionParams p now) = .ok m
  valid : (p.record m).validateForCreate = .ok ()
  stored : createRow (p.record m) = some row

theorem submit_accepted {catalog : SubmissionCatalog} {protector : Protector} {command : SubmitEmailCommand}
    {messageID : Uuid} {nonce : Nonce} {record : MessageRecord} (hk : db.Keyed) (hdrawn : messageID ∈ ids)
    (h : submit L catalog protector command messageID nonce now db = .ok (db', ⟨.accepted, record⟩)) :
    ∃ p m row, Submitted L catalog protector command messageID nonce now p m row ∧
      record = (p.record m).pulled ∧
      Created L ids p.normalized.tenantID db row (submissionParams p now) m db' := by
  obtain ⟨p, hp, heffect⟩ := submit_effect hk hdrawn h
  cases heffect with
  | @accepted row m _ hnew hstored created =>
    simp only [submit, hp, ok_bind, submitTransaction, bind_eq_ok, submissionRecord_eq_ok] at h
    obtain ⟨_, ⟨htimes, m', hnew', rfl⟩, ⟨db₁, persisted⟩, hcreate, -⟩ := h
    obtain rfl : m' = m := Except.ok.inj (hnew'.symm.trans hnew)
    simp only [create, bind_eq_ok] at hcreate
    obtain ⟨_, hvalid, -⟩ := hcreate
    exact ⟨p, m', row, ⟨hp, htimes, hnew, hvalid, hstored⟩, rfl, created⟩

theorem SubmitEffect.changes {result : SubmitEmailResult} (h : SubmitEffect L ids p now db db' result) :
    Relation.ReflTransGen (Change L ids) db db' := by
  cases h with
  | accepted _ _ created => exact .single (.created created)
  | duplicate => exact .refl

end MailService
