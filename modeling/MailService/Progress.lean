import MailService.Envelope
import MailService.Identities
import MailService.Preparation
import MailService.Readability
/-!
# Transactions that succeed

Where the texts to be stored hold no U+0000 and the clock's times have a JSON
text, nothing stands in the way of a transaction: its events can be mapped, its
message can be saved and its rows can be appended.
-/
open Text Checks Table

namespace MailService

open Db

variable {L : Libs} {ids : Set Uuid} {db : Db} {now : Time} {r : MessageRow} {m : Message} {e : Event}
  {record : MessageRecord}

/-! ## Texts -/

/-- PostgreSQL stores any text without U+0000. -/
def Plain (s : String) : Prop := '\x00' ∉ s.toList

instance (s : String) : Decidable (Plain s) := inferInstanceAs (Decidable (¬ _))

theorem varchar_of_len {n : Nat} {s : String} (h : len s ≤ n) : varchar n s ↔ Plain s := by
  refine ⟨fun hv => hv.1, fun hp => ⟨hp, ?_⟩⟩
  rw [String.length_toList]
  exact (runeCount_le_len s).trans h

theorem notBtrimEmpty_of_trimSpace {s : String} (h : trimSpace s ≠ "") : notBtrimEmpty s := by
  obtain ⟨c, hc, hs⟩ := exists_notSpace h
  refine ⟨c, hc, ?_⟩
  rintro rfl
  exact absurd hs (by decide)

/-- A valid failure can be stored if its code can. -/
theorem failureColumns_iff {f : Failure} (h : f.validate = .ok ()) : failureColumns f ↔ Plain f.code := by
  obtain ⟨hcategory, hcode, hlen⟩ := Failure.validate_eq_ok.1 h
  rw [failureColumns, varchar_of_len hlen]
  exact ⟨fun hf => hf.2.2, fun hp => ⟨hcategory, notBtrimEmpty_of_trimSpace hcode, hp⟩⟩

theorem plain_of_uuidColumn {s tenant : String} (h : uuidColumn s = some tenant) : Plain s := by
  obtain ⟨u, hu, -⟩ := Option.map_eq_some_iff.1 h
  have hnul : ¬ ((Text.hexValue '\x00').isSome = true ∨ '\x00' ∈ ['-', '{', '}']) := by decide
  exact fun hmem => hnul (Uuid.chars_of_postgresIn hu _ hmem)

theorem plain_uuid (u : Uuid) : Plain u.text := by
  intro h
  rcases Uuid.mem_text h with h | ⟨d, h⟩
  · exact absurd h (by decide)
  · revert h
    revert d
    decide

/-! ## Events -/

/-- The texts of an event can be stored. -/
structure Event.Plain (e : Event) : Prop where
  source : MailService.Plain e.source.text
  providerMessageID : MailService.Plain e.providerMessageID
  reasonCode : MailService.Plain e.reasonCode
  failure : MailService.Plain e.failure.code

/-- An instant whose JSON text can be stored. -/
structure Libs.Stores (L : Libs) (t : Time) : Prop extends L.Encodes t where
  plain : ∀ text ∈ L.formatTime t, Plain text

theorem eventColumns_of_proper {id tenant key : String} {occurredAt : Time} (he : e.Proper id) (hp : e.Plain)
    (hkey : notBtrimEmpty key ∧ varchar 255 key) :
    eventColumns { deliveryEventOf L tenant key e with occurredAt := occurredAt } := by
  refine ⟨hkey.1, hkey.2, he.target, he.sequence.1,
    (varchar_of_len he.providerMessageID.2).2 hp.providerMessageID, ?_, ?_⟩
  · intro hne
    have htrim : trimSpace e.providerMessageID ≠ "" := by
      rw [he.providerMessageID.1]
      exact hne
    exact notBtrimEmpty_of_trimSpace htrim
  · intro f hf
    simp only [deliveryEventOf, Option.mem_def, Option.ite_none_right_eq_some, Option.some.injEq] at hf
    obtain ⟨hcategory, rfl⟩ := hf
    rcases he.failure with hz | hv
    · rw [hz] at hcategory
      simp [Failure.zero, FailureCategory.valid] at hcategory
    · exact (failureColumns_iff hv).2 hp.failure

theorem anyStringMembers_eq_false {p : String → Bool} {members : List (String × Json.Value)} :
    Json.anyStringMembers p members = false ↔
    ∀ x ∈ members, p x.1 = false ∧ Json.anyString p x.2 = false := by
  induction members with
  | nil => simp [Json.anyStringMembers]
  | cons x members ih =>
    obtain ⟨name, v⟩ := x
    simp [Json.anyStringMembers, ih, and_assoc]

theorem Status.plain_text {s : Status} (h : s.valid = true) : Plain s.text := by
  cases s <;> first | decide | simp [valid] at h

/-- No text of an envelope holds U+0000 unless the event brought it. -/
theorem anyString_envelope {tenantID occurredAt id : String} (he : e.Proper id) (hp : e.Plain)
    (htenant : Plain tenantID) (hmessage : Plain e.messageID) (htime : Plain occurredAt) :
    Json.anyString (·.toList.contains '\x00') (.obj (envelopeMembers tenantID occurredAt e)) = false := by
  have hcontains {s : String} : s.toList.contains '\x00' = false ↔ Plain s := by
    simp [Plain]
  have hnames : ∀ name ∈ envelopeNames, Plain name := by decide
  have homit (name s : String) (hs : Plain s) :
      ∀ x ∈ omitEmpty name s, Json.anyString (·.toList.contains '\x00') x.2 = false := by
    unfold omitEmpty
    split
    · simp
    · simpa only [List.mem_singleton, forall_eq, Json.anyString, hcontains] using hs
  have hkind (k : EventKind) : Plain k.text := by cases k <;> decide
  have hfailure : ∀ x ∈ (if e.failure.category.valid then [("failure", Json.Value.obj
      [("category", .str e.failure.category.text), ("code", .str e.failure.code),
        ("retryable", .bool e.failure.retryable)])] else []),
      Json.anyString (·.toList.contains '\x00') x.2 = false := by
    split
    · rename_i hvalid
      have hcategory : Plain e.failure.category.text := by
        generalize e.failure.category = c at hvalid ⊢
        cases c <;> first | decide | simp [FailureCategory.valid] at hvalid
      have hfields : Plain "category" ∧ Plain "code" ∧ Plain "retryable" := by decide
      simpa only [List.mem_singleton, forall_eq, Json.anyString, anyStringMembers_eq_false,
        List.forall_mem_cons, hcontains, List.not_mem_nil, false_implies, implies_true, and_true] using
        ⟨⟨hfields.1, hcategory⟩, ⟨hfields.2.1, hp.failure⟩, hfields.2.2⟩
    · simp
  rw [Json.anyString, anyStringMembers_eq_false]
  intro x hx
  refine ⟨hcontains.2 (hnames x.1
    ((names_envelopeMembers tenantID occurredAt e).subset (List.mem_map_of_mem hx))), ?_⟩
  revert x
  simp only [envelopeMembers, List.forall_mem_append, List.forall_mem_cons, natValue,
    Json.anyString, hcontains]
  exact ⟨⟨⟨⟨⟨⟨trivial, htenant, hmessage, hkind e.kind, by simp⟩, homit _ _ hp.source⟩,
    Status.plain_text he.target, htime, trivial, trivial, trivial, by simp⟩, homit _ _ hp.providerMessageID⟩,
    homit _ _ hp.reasonCode⟩, hfailure⟩

/-- The counters of an event are short enough for a `numeric`. -/
theorem numeric_envelopeMembers {tenantID occurredAt id : String} (he : e.Proper id) :
    ∀ m ∈ envelopeMembers tenantID occurredAt e, Json.numeric m.2 = some m.2 := by
  intro m hm
  rcases numbers_envelopeMembers tenantID occurredAt e m hm with ⟨n, hn, hvalue⟩ | hself
  · have hbounds : 1 ≤ maxInt64 ∧ maxInt32 ≤ maxInt64 := by decide
    have hle : n ≤ maxInt64 := by
      simp only [List.mem_cons, List.not_mem_nil, or_false] at hn
      rcases hn with rfl | rfl | rfl | rfl
      · exact hbounds.1
      · exact he.sequence.2
      · exact he.generation
      · exact he.attemptNumber.trans hbounds.2
    have hdigits : runeCount (toString n) ≤ 20 :=
      Nat.repr_length n 20 (by omega) (by unfold maxInt64 at hle; omega)
    rw [hvalue]
    exact Json.numeric_natural_eq (hdigits.trans (by decide))
  · exact hself

/-- The payload of an event can be stored, and stays a JSON object. -/
theorem jsonbColumn_payload (ha : record.Addressed) (htenant : Plain record.tenantID)
    (he : e.Proper record.message.id) (hp : e.Plain) (hclock : L.Stores e.occurredAt) :
    ∃ text, jsonbColumn (outboxEventOf L record.tenantID e).payload = some text ∧
      isJSONObject text = true := by
  obtain ⟨occurredAt, hformat, -, hlen⟩ := hclock.text
  obtain ⟨id, hid⟩ := ha.messageID
  have hmessage : e.messageID = id.text := he.messageID.trans hid
  have htext : len record.tenantID ≤ 64 := Uuid.len_le_of_parse ha.tenantID
  have henv := enveloped he htext (by rw [hmessage, Uuid.len_text]; omega) hlen
  have hpayload : (outboxEventOf L record.tenantID e).payload =
      Json.marshal .go (.obj (envelopeMembers record.tenantID occurredAt e)) := by
    simp [outboxEventOf, messageEventEnvelope_eq hformat]
  have hstored := anyString_envelope he hp htenant (hmessage ▸ plain_uuid id)
    (hclock.plain occurredAt hformat)
  have hnumeric : Json.numeric (.obj (envelopeMembers record.tenantID occurredAt e)) =
      some (.obj (envelopeMembers record.tenantID occurredAt e)) := by
    rw [Json.numeric, Json.numericMembers_eq_self (numeric_envelopeMembers he), Option.map_some]
  have hcolumn : jsonbColumn (outboxEventOf L record.tenantID e).payload = some _ :=
    jsonbColumn_eq_some.2 ⟨_, by rw [hpayload, (henv.text .go).2, Option.bind_some, hnumeric], hstored, rfl⟩
  refine ⟨_, hcolumn, isJSONObject_jsonbColumn hcolumn ?_⟩
  rw [hpayload, isJSONObject, (henv.text .go).2]
  rfl

theorem outboxColumns_of_proper (ha : record.Addressed) (htenant : Plain record.tenantID)
    (he : e.Proper record.message.id) (hp : e.Plain) (hclock : L.Stores e.occurredAt) :
    outboxColumns (storedOutbox now (outboxEventOf L record.tenantID e)).event := by
  obtain ⟨text, hcolumn, hobject⟩ := jsonbColumn_payload ha htenant he hp hclock
  have htype : notBtrimEmpty outboxAggregateMailMessage ∧ varchar 64 outboxAggregateMailMessage := by decide
  have hkind (k : EventKind) : notBtrimEmpty k.text ∧ varchar 128 k.text := by cases k <;> decide
  refine ⟨htype.1, htype.2, (hkind e.kind).1, (hkind e.kind).2, he.sequence.1, ?_⟩
  simpa [storedOutbox, hcolumn] using hobject

/-! ## Appending events -/

/-- The events of a record, ready to be appended; the tenant's column returns `tenant`. -/
structure MessageRecord.Ready (record : MessageRecord) (L : Libs) (tenant : String)
    (events : List Event) : Prop where
  addressed : record.Addressed
  column : uuidColumn record.tenantID = some tenant
  idempotencyKey : notBtrimEmpty record.idempotencyKey ∧ varchar 255 record.idempotencyKey
  proper : ∀ e ∈ events, e.Proper record.message.id ∧ e.Plain ∧ L.Stores e.occurredAt

namespace MessageRecord.Ready

variable {tenant : String} {events : List Event}

theorem mapped (h : record.Ready L tenant events) (hne : events ≠ []) : mapAllMessageEvents L record events =
    .ok ⟨events.map (outboxEventOf L record.tenantID),
      (lifecycleEvents events).map (deliveryEventOf L record.tenantID record.idempotencyKey)⟩ := by
  rw [mapAllMessageEvents, if_neg hne, mapEvents_eq_ok]
  refine ⟨fun e he => ?_, rfl⟩
  obtain ⟨hproper, -, hclock⟩ := h.proper e he
  exact hproper.mappable h.addressed hclock.toEncodes

/-- New journal rows of a stored message are appended. -/
theorem appendDeliveryEvents (h : record.Ready L tenant events) (db : Db)
    (hkeys : Fresh journalKey db.events (journalRows L tenant record.idempotencyKey events))
    (hids : Fresh (·.id) db.events (journalRows L tenant record.idempotencyKey events))
    (htenant : ∃ t ∈ db.tenants, t.id = tenant)
    (hmessage : ∃ r ∈ db.messages, r.snapshot.id = record.message.id) :
    db.appendDeliveryEvents
      ((lifecycleEvents events).map (deliveryEventOf L record.tenantID record.idempotencyKey)) =
      .ok { db with events := db.events ++ journalRows L tenant record.idempotencyKey events } := by
  obtain ⟨id, hid⟩ := h.addressed.messageID
  have hmem : ∀ d ∈ (lifecycleEvents events).map (deliveryEventOf L record.tenantID record.idempotencyKey),
      ∃ e ∈ events, e.kind ≠ .dispatchRequested ∧
        d = deliveryEventOf L record.tenantID record.idempotencyKey e := by
    intro d hd
    obtain ⟨e, he, rfl⟩ := List.mem_map.1 hd
    exact ⟨e, List.mem_of_mem_filter he, by simpa using (List.mem_filter.1 he).2, rfl⟩
  have hrows : ((lifecycleEvents events).map (deliveryEventOf L record.tenantID record.idempotencyKey)).map
      (fun d => { d with tenantID := tenant, occurredAt := truncate d.occurredAt }) =
        journalRows L tenant record.idempotencyKey events := by
    rw [List.map_map]
    rfl
  rw [← hrows] at hkeys hids ⊢
  refine appendDeliveryEvents_of_valid (fun d hd => ?_) (fun d _ => rfl) hkeys hids
    (fun d hd => ?_) (fun d hd => ?_) (fun d hd => ?_) fun d hd => ?_
  all_goals
    obtain ⟨e, he, hk, rfl⟩ := hmem d hd
    obtain ⟨hproper, hplain, hclock⟩ := h.proper e he
  · exact eventRow_deliveryEventOf h.column (by rw [hproper.messageID, hid]; exact uuidColumn_text id)
  · exact deliveryEventOf_valid h.addressed hproper hclock.toEncodes
  · exact @eventColumns_of_proper L e _ tenant _ (truncate e.occurredAt) hproper hplain h.idempotencyKey
  · exact htenant
  · obtain ⟨r, hr, hrid⟩ := hmessage
    exact ⟨r, hr, hrid.trans hproper.messageID.symm⟩

theorem appendOutbox (h : record.Ready L tenant events) (db : Db) (now : Time)
    (hkeys : Fresh (·.event.identity) db.outbox (outboxRows L now record.tenantID events))
    (hids : Fresh (·.event.id) db.outbox (outboxRows L now record.tenantID events)) :
    db.appendOutbox now (events.map (outboxEventOf L record.tenantID)) =
      .ok { db with outbox := db.outbox ++ outboxRows L now record.tenantID events } := by
  obtain ⟨id, hid⟩ := h.addressed.messageID
  have hrows : (events.map (outboxEventOf L record.tenantID)).map (storedOutbox now) =
      outboxRows L now record.tenantID events := by
    rw [List.map_map]
    rfl
  rw [← hrows] at hkeys hids ⊢
  refine appendOutbox_of_valid (fun o ho => ?_) hkeys hids (fun o ho => ?_) (fun o ho => ?_) (fun o ho => ?_)
    fun o ho => ?_
  all_goals
    obtain ⟨e, he, rfl⟩ := List.mem_map.1 ho
    obtain ⟨hproper, hplain, hclock⟩ := h.proper e he
  · refine ⟨uuidColumn_stableID L e, ?_⟩
    change uuidColumn e.messageID = some e.messageID
    rw [hproper.messageID, hid]
    exact uuidColumn_text id
  · exact outboxEventOf_valid h.addressed hproper hclock.toEncodes (.inl rfl)
  · exact ⟨hproper.sequence.2, hproper.generation⟩
  · obtain ⟨text, hcolumn, -⟩ :=
      jsonbColumn_payload h.addressed (plain_of_uuidColumn h.column) hproper hplain hclock
    rw [hcolumn]
    rfl
  · exact outboxColumns_of_proper h.addressed (plain_of_uuidColumn h.column) hproper hplain hclock

end MessageRecord.Ready

/-! ## Moving a message -/

/-- The id of a journal row is that of an outbox event. -/
theorem Sound.journal_id (hs : Sound L ids db) {j : DeliveryEvent} (hj : j ∈ db.events) :
    ∃ o ∈ db.outbox, o.event.id = j.id := by
  obtain ⟨r, hr, hid, -⟩ := hs.keyed.journal j hj
  have hmem : j ∈ db.journal r.snapshot.id := List.mem_filter.2 ⟨hj, by simp [hid]⟩
  have hrow := List.mem_map_of_mem (f := fun j => (j.id, lifecycleType j.status, j.sequence)) hmem
  rw [← (hs.rows r hr).inStep.lifecycle] at hrow
  obtain ⟨o, ho, heq⟩ := List.mem_map.1 hrow
  obtain ⟨x, hx, rfl⟩ := List.mem_map.1 (List.mem_of_mem_filter (List.mem_of_mem_filter ho))
  exact ⟨x, hx, congrArg Prod.fst heq⟩

/-- Events whose outbox ids are new have new journal ids. -/
theorem fresh_journalIDs {tenantID tenant key : String} {events : List Event} (hs : Sound L ids db)
    (hids : Fresh (·.event.id) db.outbox (outboxRows L now tenantID events)) :
    Fresh (·.id) db.events (journalRows L tenant key events) := by
  constructor
  · intro j hj x hx heq
    obtain ⟨e, he, rfl⟩ := List.mem_map.1 hj
    obtain ⟨o, ho, hid⟩ := hs.journal_id hx
    exact hids.absent _ (List.mem_map_of_mem (List.mem_of_mem_filter he)) o ho (hid.trans heq)
  · have hn := hids.nodup
    simp only [outboxRows, List.map_map] at hn
    simp only [journalRows, List.map_map]
    exact hn.sublist (List.filter_sublist.map _)

theorem Moved.occurredAt {m m' : Message} (h : Moved now m m') :
    ∀ e ∈ m'.pendingEvents, e ∈ m.pendingEvents ∨ e.occurredAt = now := by
  obtain ⟨details, hevents⟩ := h.events
  rw [hevents]
  intro e he
  rcases List.mem_append.1 he with he | he
  · exact .inl he
  rcases List.mem_cons.1 he with rfl | he
  · exact .inr rfl
  · unfold dispatchEvents at he
    split at he
    · exact .inr (by rw [List.mem_singleton.1 he]; rfl)
    · simp at he

/-- The events of a new message are of the time it was accepted at. -/
theorem Message.new_occurredAt {params : NewParams} {m : Message} (h : Message.new params = .ok m) :
    ∀ e ∈ m.pendingEvents, e.occurredAt = params.now := by
  intro e he
  rcases (Message.new_moved h).1.occurredAt e he with hold | hnow
  · simp only [acceptedMessage, List.mem_singleton] at hold
    subst hold
    rfl
  · exact hnow

/-- A move that can be written: its row meets the constraints and its events can be stored. -/
structure Writable (L : Libs) (ids : Set Uuid) (now : Time) (db : Db) (r : MessageRow) (m : Message) :
    Prop where
  sound : Sound L ids db
  collisionFree : L.CollisionFree ids
  mem : r ∈ db.messages
  moved : Moved now r.message m
  allowed : (updatedRow r m.toSnapshot).Allowed
  events : ∀ e ∈ m.pendingEvents, e.Described ∧ e.Plain
  clock : L.Stores now

theorem Moved.source_valid {m m' : Message} (h : Moved now m m') :
    ∀ e ∈ m'.pendingEvents, e ∈ m.pendingEvents ∨ e.source.valid = true := by
  obtain ⟨hsource, htarget⟩ := valid_of_edge h.edge
  obtain ⟨details, hevents⟩ := h.events
  rw [hevents]
  intro e he
  rcases List.mem_append.1 he with he | he
  · exact .inl he
  rcases List.mem_cons.1 he with rfl | he
  · exact .inr hsource
  · unfold dispatchEvents at he
    split at he
    · rw [List.mem_singleton.1 he]
      exact .inr htarget
    · simp at he

/-- The counters of a moved message fit their columns. -/
theorem Moved.counters (hm : Moved now r.message m) (hs : r.SoundIn db) :
    m.version < maxInt64 ∧ databaseCounters m.toSnapshot = .ok () := by
  have hcounted := hm.counted (m := r.message) hs.counted
  obtain ⟨hsequence, hgeneration, hattempts⟩ := hcounted.fits
  have hmax := hcounted.maxAttempts_le
  have hversion : m.version = r.snapshot.version := hm.version
  have hnext : m.latestSequence = r.snapshot.latestSequence + 1 := hm.sequence
  have hbefore := hs.version
  have h32 : 10 ≤ maxInt32 := by decide
  refine ⟨by omega, ?_⟩
  simp only [databaseCounters, check_eq_ok]
  exact ⟨hgeneration, hsequence, by omega, hattempts, by omega⟩

/-- The event of an operation, when the texts it brings can be stored. -/
theorem Message.Describes.plain {op : Operation} (h : Message.Describes op e)
    (htexts : ∀ text ∈ op.texts, Plain text) (hsource : e.source.valid = true) : e.Plain := by
  have hall : ∀ text ∈ [e.providerMessageID, e.reasonCode, e.failure.code], Plain text := by
    intro text htext
    rcases h.texts text htext with rfl | hop
    · decide
    · exact htexts text hop
  exact ⟨Status.plain_text hsource, hall _ (by simp), hall _ (by simp), hall _ (by simp)⟩

/-- An operation on a stored message can be written if the texts it brings can be stored. -/
theorem Writable.of_perform (op : Operation) (hs : Sound L ids db) (hc : L.CollisionFree ids)
    (hmem : r ∈ db.messages) (hperform : r.message.perform op = (m, .changed))
    (hnow : r.snapshot.acceptedAt ≤ op.occurredAt) (hclock : L.Stores op.occurredAt)
    (hfact : ∀ fact, op = .applyDeliveryFact fact → trimmedWithin fact.providerMessageID 512)
    (htexts : ∀ text ∈ op.texts, Plain text) : Writable L ids op.occurredAt db r m := by
  obtain ⟨hmoved, -⟩ := Message.perform_changed hperform
  obtain ⟨hprovider, hfailure⟩ := Message.perform_provider hperform
  have hrow := hs.rows r hmem
  obtain ⟨-, -, -, -, -, ⟨-, -, -, -, -, -, -, -, -, -, hstored, hfailed⟩, -⟩ := hrow.allowed
  refine ⟨hs, hc, hmem, hmoved, (hmoved.allowed_iff hrow hnow).2 ⟨?_, fun f hf => ?_⟩, fun e he => ?_, hclock⟩
  · rcases hprovider with hkept | ⟨fact, rfl, hbrought⟩
    · rw [hkept]
      exact hstored
    · rw [hbrought]
      exact (varchar_of_len (hfact fact rfl).2.2).2 (htexts _ (by simp [Operation.texts]))
  · rcases hmoved.lastFailure f hf with hold | hvalid
    · exact hfailed f hold
    · rcases hfailure f hf with hold | hcode
      · exact hfailed f hold
      · exact (failureColumns_iff hvalid).2 (htexts _ hcode)
  · have hnew : e ∉ r.message.pendingEvents := by simp [MessageRow.message]
    have hdescribes := (Message.perform_describes hperform e he).resolve_left hnew
    exact ⟨hdescribes.described hfact, hdescribes.plain htexts ((hmoved.source_valid e he).resolve_left hnew)⟩

namespace Writable

theorem ready (h : Writable L ids now db r m) :
    (r.record.withMessage m).Ready L r.tenantID m.pendingEvents := by
  have hs := h.sound.rows r h.mem
  obtain ⟨hid, htenant⟩ := h.sound.keyed.canonical r h.mem
  obtain ⟨hkey, hkey', -⟩ := hs.allowed
  refine ⟨⟨isUUID_of_uuidColumn htenant, ?_, hs.checked.idempotencyKey⟩, htenant,
    ⟨hkey, hkey'⟩, fun e he => ?_⟩
  · rw [show (r.record.withMessage m).message.id = r.snapshot.id from h.moved.id]
    exact exists_text_of_uuidColumn hid
  · obtain ⟨hdescribed, hplain⟩ := h.events e he
    have hcounted := h.moved.counted (m := r.message) hs.counted
    refine ⟨?_, hplain, ?_⟩
    · rcases h.moved.proper hcounted e he with hold | hnew
      · simp [MessageRow.message] at hold
      · exact hnew hdescribed
    · rcases h.moved.occurredAt e he with hold | hnow
      · simp [MessageRow.message] at hold
      · rw [hnow]
        exact h.clock

theorem pending_ne_nil (h : Writable L ids now db r m) : m.pendingEvents ≠ [] := by
  obtain ⟨details, hevents⟩ := h.moved.events
  simp [hevents]

/-- What `Save` checks before its statement. -/
theorem counters (h : Writable L ids now db r m) :
    uuidColumn m.id = some m.id ∧ m.version < maxInt64 ∧ databaseCounters m.toSnapshot = .ok () := by
  have hmid : m.id = r.snapshot.id := h.moved.id
  refine ⟨?_, h.moved.counters (h.sound.rows r h.mem)⟩
  rw [hmid]
  exact (h.sound.keyed.canonical r h.mem).1

/-- The row is still as it was read, so that its update is written. -/
theorem saved_in (h : Writable L ids now db r m) {db₂ : Db} (hn : db₂.messageIDs.Nodup)
    (hmem : r ∈ db₂.messages) :
    db₂.save m = .ok { db₂ with messages := exchange db₂.messages r (updatedRow r m.toSnapshot) } := by
  obtain ⟨hid, hversion, hcounters⟩ := h.counters
  exact save_of_version hn hid hmem h.moved.id.symm h.moved.version.symm hversion hcounters h.allowed

theorem saved (h : Writable L ids now db r m) :
    db.save m = .ok { db with messages := exchange db.messages r (updatedRow r m.toSnapshot) } :=
  h.saved_in h.sound.keyed.ids h.mem

/-- A row that has changed since it was read is not written. -/
theorem conflict (h : Writable L ids now db r m) {db₂ : Db} (hl : db.Later db₂) (hn : db₂.messageIDs.Nodup)
    (hmem : r ∉ db₂.messages) : db₂.save m = .error .concurrentUpdate := by
  obtain ⟨hid, hversion, hcounters⟩ := h.counters
  obtain ⟨r', hr', hrow⟩ := hl.messages r h.mem
  have hfind : db₂.messages.find? (fun x => x.snapshot.id = m.id ∧ x.snapshot.version = m.version) =
      none := by
    rw [List.find?_eq_none]
    intro x hx hfound
    simp only [decide_eq_true_eq] at hfound
    obtain rfl : x = r' :=
      List.inj_on_of_nodup_map hn hx hr' ((hfound.1.trans h.moved.id).trans hrow.id_eq.symm)
    rcases hrow with rfl | ⟨-, hlater, -⟩
    · exact hmem hx
    · exact absurd (hfound.2.trans h.moved.version) hlater.ne'
  rw [save, check_bind (isUUID_of_uuidColumn hid), check_bind hversion, hcounters, ok_bind, hid]
  dsimp only
  rw [hfind]
  rfl

/-- The outbox rows of the move have new ids. -/
theorem outboxIDs (h : Writable L ids now db r m) :
    Fresh (·.event.id) db.outbox (outboxRows L now r.tenantID m.pendingEvents) := by
  have hmoves := Moves.single h.mem h.moved
  have hfresh : Fresh (·.event.identity) db.outbox (outboxRows L now r.tenantID m.pendingEvents) := by
    simpa [outboxOf] using hmoves.fresh_outbox (L := L) h.sound.keyed
  refine fresh_ids h.collisionFree (fun o ho => h.sound.known ho) (fun o ho => ?_) hfresh
  exact hmoves.known h.sound o (by simpa [outboxOf] using ho)

/-- After the message and its attempts were written, its events are appended. -/
theorem appended (h : Writable L ids now db r m) (attempts : List AttemptRow) : (do
    let db ← { db with messages := exchange db.messages r (updatedRow r m.toSnapshot), attempts := attempts
      }.appendDeliveryEvents
        ((lifecycleEvents m.pendingEvents).map (deliveryEventOf L r.tenantID r.idempotencyKey))
    db.appendOutbox now (m.pendingEvents.map (outboxEventOf L r.tenantID))) =
      .ok { applyMove L now db (r, m) with attempts := attempts } := by
  have hready := h.ready
  have hmoves := Moves.single h.mem h.moved
  have hjournal : Fresh journalKey db.events (journalRows L r.tenantID r.idempotencyKey m.pendingEvents) := by
    simpa [journalOf] using hmoves.fresh_journal (L := L) h.sound.keyed
  have houtbox : Fresh (·.event.identity) db.outbox (outboxRows L now r.tenantID m.pendingEvents) := by
    simpa [outboxOf] using hmoves.fresh_outbox (L := L) h.sound.keyed
  have hjournalIDs : Fresh (·.id) db.events (journalRows L r.tenantID r.idempotencyKey m.pendingEvents) :=
    fresh_journalIDs h.sound h.outboxIDs
  have hdelivered := hready.appendDeliveryEvents
    { db with messages := exchange db.messages r (updatedRow r m.toSnapshot), attempts := attempts }
      hjournal hjournalIDs
    (h.sound.tenants r h.mem) ⟨_, (mem_exchange h.mem).2 (.inl rfl), h.moved.id.symm⟩
  refine bind_eq_ok.2 ⟨_, hdelivered, ?_⟩
  exact hready.appendOutbox
      { applyMove L now db (r, m) with attempts := attempts, outbox := db.outbox } now houtbox
    h.outboxIDs

theorem mapped (h : Writable L ids now db r m) :
    mapAllMessageEvents L (r.record.withMessage m) m.pendingEvents =
    .ok ⟨m.pendingEvents.map (outboxEventOf L r.tenantID),
      (lifecycleEvents m.pendingEvents).map (deliveryEventOf L r.tenantID r.idempotencyKey)⟩ :=
  h.ready.mapped h.pending_ne_nil

/-- The message and its events are written together. -/
theorem written (h : Writable L ids now db r m) :
    saveMessageWithOutbox L now db (r.record.withMessage m) = .ok (applyMove L now db (r, m)) := by
  rw [saveMessageWithOutbox, show (r.record.withMessage m).message = m from rfl, h.mapped,
    ok_bind, h.saved, ok_bind]
  exact h.appended db.attempts

end Writable

/-! ## Claiming a message -/

/-- The id of a stored message finds its row, in any spelling. -/
theorem getByID_eq_scan_of {messageID : String} (hk : db.Keyed) (hmem : r ∈ db.messages)
    (huuid : isUUID messageID = true) (hid : uuidColumn messageID = some r.snapshot.id) :
    db.getByID messageID = scanMessageRecord r := by
  have hfind : db.messages.find? (fun x => x.snapshot.id = r.snapshot.id) = some r := by
    cases hfind : db.messages.find? fun x => x.snapshot.id = r.snapshot.id with
    | none =>
      have := List.find?_eq_none.1 hfind r hmem
      simp at this
    | some x =>
      have hx : x.snapshot.id = r.snapshot.id := by simpa using List.find?_some hfind
      rw [List.inj_on_of_nodup_map hk.ids (List.mem_of_find?_eq_some hfind) hmem hx]
  simp only [getByID, check_bind huuid, hid, scanFound, hfind]

theorem getByID_eq_scan (hk : db.Keyed) (hmem : r ∈ db.messages) :
    db.getByID r.snapshot.id = scanMessageRecord r := by
  obtain ⟨hid, -⟩ := hk.canonical r hmem
  exact getByID_eq_scan_of hk hmem (isUUID_of_uuidColumn hid) hid

theorem getByID_of_mem (hk : db.Keyed) (hmem : r ∈ db.messages) (hload : r.Loadable) :
    db.getByID r.snapshot.id = .ok r.record := by
  rw [getByID_eq_scan hk hmem]
  exact scanMessageRecord_eq_ok.2 ⟨hload, rfl⟩

/-- The next attempt of a queued message has a number and a generation of its own. -/
theorem MessageRow.SoundIn.freshAttempt {row : AttemptRow} (hs : r.SoundIn db)
    (hq : r.snapshot.status = .queued) (hid : row.id ∉ db.attemptIDs)
    (hmessage : row.messageID = r.snapshot.id) (hno : row.attemptNo = r.snapshot.attemptCount + 1)
    (hgen : row.dispatchGeneration = r.snapshot.dispatchGeneration) :
    db.FreshAttempt row := by
  have hb := hs.counted.byStatus
  rw [hq] at hb
  intro a ha
  refine ⟨fun he => hid (List.mem_map.2 ⟨a, ha, he⟩), fun hm => ?_⟩
  have hnumbers := hs.ledger.mem_numbers (List.mem_filter.2 ⟨ha, by simp [hm.trans hmessage]⟩)
  have hb' : r.snapshot.dispatchGeneration = r.snapshot.attemptCount + 1 := hb.1
  omega

/-- The state after a claim that started an attempt of `r`. -/
def claimedDb (L : Libs) (now : Time) (db : Db) (r : MessageRow) (m : Message) (c : DispatchClaim) : Db :=
  { applyMove L now db
    (r, m) with attempts := db.attempts ++ [startedRow c.attempt.id r.snapshot.id c.attempt] }

section Claim

variable {command : DispatchCommand} {providerKey : String} {attemptID : Uuid}

/-- A queued message before its deadline, its command, and the key of a worker. -/
structure Startable (L : Libs) (ids : Set Uuid) (now : Time) (db : Db) (r : MessageRow)
    (command : DispatchCommand) (key : String) : Prop where
  sound : Sound L ids db
  collisionFree : L.CollisionFree ids
  mem : r ∈ db.messages
  loadable : r.Loadable
  queued : r.snapshot.status = .queued
  messageID : command.messageID = r.snapshot.id
  tenantID : command.tenantID = r.tenantID
  sequence : command.aggregateSequence = r.snapshot.latestSequence
  generation : command.dispatchGeneration = r.snapshot.dispatchGeneration
  acceptedAt : r.snapshot.acceptedAt ≤ now
  deadline : now < r.snapshot.dispatchDeadline
  clock : L.Stores now
  providerKey : validateProviderKey key = .ok ()

/-- The key can be stored, and the id of the attempt is new. -/
structure Claimable (L : Libs) (ids : Set Uuid) (now : Time) (db : Db) (r : MessageRow)
    (command : DispatchCommand) (key : String) (attemptID : Uuid) :
    Prop extends Startable L ids now db r command key where
  plain : Plain key
  fresh : attemptID.text ∉ db.attemptIDs

namespace Startable

variable (h : Startable L ids now db r command providerKey)

include h

theorem counts : r.snapshot.dispatchGeneration = r.snapshot.attemptCount + 1 ∧
    r.snapshot.attemptCount < r.snapshot.maxAttempts := by
  have hrow := h.sound.rows r h.mem
  have hb := hrow.counted.byStatus
  rw [h.queued] at hb
  have hlimit := hrow.counted.generation_le
  have hattempts : r.snapshot.dispatchGeneration = r.snapshot.attemptCount + 1 := hb.1
  omega

variable (hstart : r.message.startSending r.snapshot.dispatchGeneration now = (m, .ok ()))

include hstart

omit h in
theorem attemptCount : m.attemptCount = r.snapshot.attemptCount + 1 := by
  obtain ⟨hmoved, -, hsend, -⟩ := Message.startSending_moved hstart
  cases hmoved.counts with
  | queued status => simp [hsend] at status
  | started _ _ _ attempts => exact attempts
  | kept _ notSending => exact absurd hsend notSending

theorem writable : Writable L ids now db r m :=
  .of_perform (.startSending r.snapshot.dispatchGeneration now) h.sound h.collisionFree h.mem
    (Outcome.map_ofError.2 hstart) h.acceptedAt h.clock (by simp) (by simp [Operation.texts])

theorem attempt_valid : (claimOf command providerKey attemptID now r m).attempt.validate = .ok () := by
  have hrow := h.sound.rows r h.mem
  have hcounts := h.counts
  have hcount := attemptCount hstart
  obtain ⟨-, -, hattempts⟩ := ((h.writable hstart).moved.counted (m := r.message) hrow.counted).fits
  have hid : isUUID command.messageID = true := by
    rw [h.messageID]
    exact isUUID_of_uuidColumn (h.sound.keyed.canonical r h.mem).1
  have hpositive : m.attemptCount ≠ 0 := by omega
  have hgeneration : command.dispatchGeneration ≠ 0 ∧ command.dispatchGeneration ≤ maxInt64 := by
    rw [h.generation]
    exact ⟨by omega, hrow.counted.fits.2.1⟩
  exact StartedDeliveryAttempt.validate_eq_ok.2
    ⟨by simp [isUUID, claimOf], hid, ⟨hpositive, hattempts⟩, hgeneration, h.providerKey, h.clock.notZero⟩

end Startable

namespace Claimable

variable (h : Claimable L ids now db r command providerKey attemptID)
  (hstart : r.message.startSending r.snapshot.dispatchGeneration now = (m, .ok ()))

include h hstart

theorem attempt_allowed :
    (startedRow attemptID.text r.snapshot.id
      (claimOf command providerKey attemptID now r m).attempt).Allowed := by
  have hcounts := h.counts
  have hcount := Startable.attemptCount hstart
  have hgeneration := h.generation
  have hkey : trimmedWithin providerKey 128 := (check_eq_ok.1 h.providerKey).1
  have hempty : varchar 512 "" := by decide
  have hnumber : 0 < m.attemptCount := by omega
  have hpositive : 0 < command.dispatchGeneration := by omega
  exact ⟨hnumber, hpositive, notBtrimEmpty_of_trimSpace hkey.1,
    (varchar_of_len hkey.2.2).2 h.plain, by simp [startedRow], hempty, by simp [startedRow], rfl, rfl,
    rfl⟩

theorem attempt_fresh :
    db.FreshAttempt (startedRow attemptID.text r.snapshot.id
      (claimOf command providerKey attemptID now r m).attempt) := by
  refine (h.sound.rows r h.mem).freshAttempt h.queued h.fresh rfl ?_ ?_
  · simp only [startedRow, claimOf]
    exact Startable.attemptCount hstart
  · simp only [startedRow, claimOf]
    exact h.generation

/-- The message, its attempt and its events are written together. -/
theorem written : saveMessageWithOutboxAndAttempt L now db (r.record.withMessage m)
    (claimOf command providerKey attemptID now r m).attempt =
      .ok (claimedDb L now db r m (claimOf command providerKey attemptID now r m)) := by
  have hw := h.writable hstart
  have hid : uuidColumn (claimOf command providerKey attemptID now r m).attempt.id = some attemptID.text :=
    uuidColumn_text attemptID
  have hmessage : uuidColumn (claimOf command providerKey attemptID now r m).attempt.messageID =
      some r.snapshot.id := by
    simp only [claimOf, h.messageID]
    exact (h.sound.keyed.canonical r h.mem).1
  have hcreated : { db with messages := exchange db.messages r (updatedRow r m.toSnapshot) }.createStarted
      (claimOf command providerKey attemptID now r m).attempt = .ok _ :=
    (createStarted_eq_ok hid hmessage).2 ⟨h.attempt_valid hstart, h.attempt_allowed hstart,
      h.attempt_fresh hstart, ⟨_, (mem_exchange h.mem).2 (.inl rfl), rfl⟩, rfl⟩
  rw [saveMessageWithOutboxAndAttempt, show (r.record.withMessage m).message = m from rfl,
    hw.mapped, ok_bind, hw.saved, ok_bind, hcreated, ok_bind]
  exact hw.appended _

end Claimable

/-- A queued message is claimed by its command before its deadline. -/
theorem claim_starts (h : Claimable L ids now db r command providerKey attemptID) :
    ∃ m, r.message.startSending r.snapshot.dispatchGeneration now = (m, .ok ()) ∧
      claim L providerKey attemptID command db now db =
        .ok (claimedDb L now db r m (claimOf command providerKey attemptID now r m),
          .started (claimOf command providerKey attemptID now r m)) := by
  have hsequence := h.sequence
  have hgeneration := h.generation
  obtain ⟨m, hstart⟩ := Message.startSending_succeeds (m := r.message) h.queued h.deadline h.counts.2
  refine ⟨m, hstart, ?_⟩
  have hget : loadForClaim db command.messageID = .ok r.record := by
    rw [loadForClaim, h.messageID, getByID_of_mem h.sound.keyed h.mem h.loadable]
  have hstale : ¬ (command.dispatchGeneration < r.snapshot.dispatchGeneration ∨
      command.aggregateSequence < r.snapshot.latestSequence) := by omega
  have hahead : ¬ (r.snapshot.dispatchGeneration < command.dispatchGeneration ∨
      r.snapshot.latestSequence < command.aggregateSequence) := by omega
  have hstarted : startClaimed L providerKey attemptID now db command r.record =
      .ok (claimedDb L now db r m (claimOf command providerKey attemptID now r m),
        .started (claimOf command providerKey attemptID now r m)) := by
    have hstart' : r.record.message.startSending command.dispatchGeneration now = (m, .ok ()) := by
      rw [hgeneration]
      exact hstart
    rw [startClaimed, hstart']
    exact unit_bind_eq_ok.2
      ⟨mapError_ok_iff.2 (h.attempt_valid hstart), bind_eq_ok.2 ⟨_, h.written hstart, rfl⟩⟩
  have howned : r.record.tenantID = command.tenantID := h.tenantID.symm
  rw [claim, hget, ok_bind, check_bind howned]
  exact (if_neg hstale).trans ((if_neg hahead).trans ((if_neg (not_not.2 h.queued)).trans
    ((if_neg (not_not.2 h.deadline)).trans hstarted)))

end Claim

end MailService
