import MailService.Aggregate
import MailService.Lib.JsonCanon
import MailService.Postgres.Effects
import MailService.Wire
/-!
# The envelope of an event

What an event must be like for its mapping to succeed, and what the two parsers
read from the text of its envelope, both as `json.Marshal` wrote it and as a
`jsonb` column returns it: the members in another order and spacing. The envelope
has more members than either parser's struct, and none of their names differs
from a field's name in case only.
-/
open Text Checks

namespace MailService

/-! ## Events that can be mapped -/

/-- What is assumed of an instant that the database clock returned: it is not Go's zero
time, and the JSON text of a time of this age is short and is read back as the instant. -/
structure Libs.Encodes (L : Libs) (t : Time) : Prop where
  notZero : t ≠ 0
  text : ∃ text, L.formatTime t = some text ∧ L.parseTime text = some t ∧ len text ≤ 64

/-- A record of a tenant in whatever spelling, with an id in canonical form and a key that was checked. -/
structure MessageRecord.Addressed (record : MessageRecord) : Prop where
  tenantID : isUUID record.tenantID = true
  messageID : ∃ u : Uuid, record.message.id = u.text
  idempotencyKey : trimmedWithin record.idempotencyKey 255

/-- What an event says beyond the move it reports is within the limits of the journal. -/
structure Event.Described (e : Event) : Prop where
  failure : e.failure = .zero ∨ e.failure.validate = .ok ()
  reasonCode : len e.reasonCode ≤ 128
  providerMessageID : trimSpace e.providerMessageID = e.providerMessageID ∧ len e.providerMessageID ≤ 512

/-- What an event of a stored message is like. -/
structure Event.Proper (messageID : String) (e : Event) : Prop extends Event.Described e where
  messageID : e.messageID = messageID
  sequence : 0 < e.sequence ∧ e.sequence ≤ maxInt64
  generation : e.dispatchGeneration ≤ maxInt64
  requested : e.kind = .dispatchRequested → 0 < e.dispatchGeneration
  attemptNumber : e.attemptNumber ≤ maxInt32
  source : len e.source.text ≤ 32
  target : e.target.valid = true

theorem Status.len_text {s : Status} (h : s.valid = true) : len s.text ≤ 32 := by
  cases s <;> first | decide | simp [valid] at h

/-- The counters of a stored message are far below the ranges of their columns. -/
theorem Snapshot.Counted.fits {s : Snapshot} (h : s.Counted) :
    s.latestSequence ≤ maxInt64 ∧ s.dispatchGeneration ≤ maxInt64 ∧ s.attemptCount ≤ maxInt32 := by
  have hsequence := h.sequence_le
  have hgeneration := h.generation_le
  have hattempts := h.attempts_le
  have hmax := h.maxAttempts_le
  have h32 : 100 ≤ maxInt32 ∧ 100 ≤ maxInt64 := by decide
  omega

/-- The events of a move, once what they say is within the limits. -/
theorem Moved.proper {now : Time} {m m' : Message} (h : Moved now m m') (hc : m'.toSnapshot.Counted) :
    ∀ e ∈ m'.pendingEvents, e ∈ m.pendingEvents ∨ (e.Described → e.Proper m'.id) := by
  obtain ⟨hsource, htarget⟩ := valid_of_edge h.edge
  obtain ⟨hsequence, hgeneration, hattempts⟩ := hc.fits
  obtain ⟨details, hevents⟩ := h.events
  rw [hevents]
  intro e he
  rcases List.mem_append.1 he with he | he
  · exact .inl he
  refine .inr fun hd => ?_
  rcases List.mem_cons.1 he with rfl | he
  · exact ⟨hd, h.id.symm, ⟨hc.sequence_pos, hsequence⟩, hgeneration, by simp [changedEvent], hattempts,
      Status.len_text hsource, htarget⟩
  · unfold dispatchEvents at he
    split at he
    · rename_i hq
      rw [List.mem_singleton] at he
      subst he
      have hcounted := hc.byStatus
      rw [hq] at hcounted
      have hpos : 0 < m'.dispatchGeneration := by rw [hcounted.1]; omega
      exact ⟨hd, rfl, ⟨hc.sequence_pos, hsequence⟩, hgeneration, fun _ => hpos, hattempts,
        Status.len_text htarget, htarget⟩
    · simp at he

/-- The event of an operation, when the id in a delivery fact has passed the check on
provider results. -/
theorem Message.Describes.described {op : Operation} {e : Event} (h : Message.Describes op e)
    (hfact : ∀ fact, op = .applyDeliveryFact fact → trimmedWithin fact.providerMessageID 512) :
    e.Described := by
  refine ⟨h.failure, h.reasonCode, ?_⟩
  rcases h.providerMessageID with hp | ⟨fact, hop, hp⟩
  · rw [hp]
    decide
  · rw [hp]
    exact (hfact fact hop).2

/-! ## The members of an envelope -/

/-- The members of the envelope of an event whose time has the text `occurredAt`. -/
def envelopeMembers (tenantID occurredAt : String) (e : Event) : List (String × Json.Value) :=
  [("schema_version", natValue 1), ("tenant_id", .str tenantID), ("message_id", .str e.messageID),
    ("event_type", .str e.kind.text)] ++
  omitEmpty "from" e.source.text ++
  [("to", .str e.target.text), ("occurred_at", .str occurredAt), ("sequence", natValue e.sequence),
    ("dispatch_generation", natValue e.dispatchGeneration), ("attempt_number", natValue e.attemptNumber)] ++
  omitEmpty "provider_message_id" e.providerMessageID ++
  omitEmpty "reason_code" e.reasonCode ++
  if e.failure.category.valid then
    [("failure", .obj [("category", .str e.failure.category.text), ("code", .str e.failure.code),
      ("retryable", .bool e.failure.retryable)])]
  else []

theorem messageEventEnvelope_eq {L : Libs} {e : Event} {tenantID occurredAt : String}
    (h : L.formatTime e.occurredAt = some occurredAt) :
    messageEventEnvelope L tenantID e = some (.obj (envelopeMembers tenantID occurredAt e)) := by
  simp only [messageEventEnvelope, h, Option.map_some]
  rfl

/-- The numbers of an envelope are counters. -/
theorem numbers_envelopeMembers (tenantID occurredAt : String) (e : Event) :
    ∀ m ∈ envelopeMembers tenantID occurredAt e,
    (∃ n ∈ [1, e.sequence, e.dispatchGeneration, e.attemptNumber], m.2 = natValue n) ∨
    Json.numeric m.2 = some m.2 := by
  have hstr (s : String) : Json.numeric (.str s) = some (.str s) := rfl
  have homit (name s : String) : ∀ m ∈ omitEmpty name s, Json.numeric m.2 = some m.2 := by
    unfold omitEmpty
    split
    · simp
    · simp [hstr]
  have hfailure : ∀ m ∈ (if e.failure.category.valid then [("failure", Json.Value.obj
      [("category", .str e.failure.category.text), ("code", .str e.failure.code),
        ("retryable", .bool e.failure.retryable)])] else []), Json.numeric m.2 = some m.2 := by
    split
    · simp [Json.numeric, Json.numericMembers]
    · simp
  simp only [envelopeMembers, List.forall_mem_append, List.forall_mem_cons]
  exact ⟨⟨⟨⟨⟨⟨.inl ⟨1, by simp, rfl⟩, .inr rfl, .inr rfl, .inr rfl, by simp⟩,
    fun m hm => .inr (homit _ _ m hm)⟩, .inr rfl, .inr rfl, .inl ⟨_, by simp, rfl⟩,
    .inl ⟨_, by simp, rfl⟩, .inl ⟨_, by simp, rfl⟩, by simp⟩, fun m hm => .inr (homit _ _ m hm)⟩,
    fun m hm => .inr (homit _ _ m hm)⟩, fun m hm => .inr (hfailure m hm)⟩

/-- What a `jsonb` column returns for the text of an envelope. -/
theorem jsonbColumn_envelope {tenantID occurredAt body : String} {e : Event}
    (hwf : Json.wfMembers (envelopeMembers tenantID occurredAt e) = true)
    (h : jsonbColumn (Json.marshal .go (.obj (envelopeMembers tenantID occurredAt e))) = some body) :
    body = Json.marshal .jsonb
      (Json.canon Json.jsonbOrder (.obj (envelopeMembers tenantID occurredAt e))) := by
  have hparse := Json.parse_marshal .go (v := .obj (envelopeMembers tenantID occurredAt e))
    (by simpa [Json.wf] using hwf)
  obtain ⟨stored, hbind, -, rfl⟩ := jsonbColumn_eq_some.1 h
  rw [hparse, Option.bind_some, Json.numeric, Option.map_eq_some_iff] at hbind
  obtain ⟨members, hmembers, rfl⟩ := hbind
  rw [Json.numericMembers_stable hmembers fun m hm v hv => ?_]
  rcases numbers_envelopeMembers tenantID occurredAt e m hm with ⟨n, -, hn⟩ | hself
  · rw [hn] at hv ⊢
    exact Json.numeric_natural hv
  · exact Option.some.inj (hv.symm.trans hself)

def envelopeNames : List String :=
  ["schema_version", "tenant_id", "message_id", "event_type", "from", "to", "occurred_at", "sequence",
    "dispatch_generation", "attempt_number", "provider_message_id", "reason_code", "failure"]

theorem names_envelopeMembers (tenantID occurredAt : String) (e : Event) :
    ((envelopeMembers tenantID occurredAt e).map Prod.fst).Sublist envelopeNames := by
  unfold envelopeMembers omitEmpty envelopeNames
  split <;> split <;> split <;> split <;> simp

/-- The members of an event's envelope, in any order. -/
structure EnvelopeOf (tenantID occurredAt : String) (e : Event) (members : List (String × Json.Value)) :
    Prop where
  wf : Json.wfMembers members = true
  nodup : (members.map Prod.fst).Nodup
  known : ∀ m ∈ members, m.1 ∈ envelopeNames
  schemaVersion : ("schema_version", natValue 1) ∈ members
  tenantID : ("tenant_id", .str tenantID) ∈ members
  messageID : ("message_id", .str e.messageID) ∈ members
  eventType : ("event_type", .str e.kind.text) ∈ members
  occurredAt : ("occurred_at", .str occurredAt) ∈ members
  sequence : ("sequence", natValue e.sequence) ∈ members
  generation : ("dispatch_generation", natValue e.dispatchGeneration) ∈ members

/-- The members are few and short enough for the outbox. -/
structure Enveloped (tenantID occurredAt : String) (e : Event) (members : List (String × Json.Value)) :
    Prop extends
    EnvelopeOf tenantID occurredAt e members where
  size : Json.costMembers members ≤ maxOutboxPayloadBytes

theorem cost_natValue_le {n : Nat} (h : n ≤ maxInt64) : Json.cost (natValue n) ≤ 80 := by
  have hlen := len_le_four_mul_runeCount (toString n)
  have hdigits : runeCount (toString n) ≤ 20 :=
    Nat.repr_length n 20 (by omega) (by unfold maxInt64 at h; omega)
  simp only [natValue, Json.cost]
  omega

theorem wf_natValue (n : Nat) : Json.wf (natValue n) = true := Json.validNumber_toString n

theorem FailureCategory.len_text {c : FailureCategory} (h : c.valid = true) : len c.text ≤ 32 := by
  cases c <;> first | decide | simp [valid] at h

theorem EventKind.len_text (k : EventKind) : len k.text ≤ 32 := by
  cases k <;> decide

theorem Failure.validate_eq_ok {f : Failure} :
    f.validate = .ok () ↔ f.category.valid = true ∧ trimSpace f.code ≠ "" ∧ len f.code ≤ 128 := by
  unfold Failure.validate
  split
  · simp_all
  · rename_i hvalid
    split
    · rename_i hcode
      simp only [reduceCtorEq, false_iff, not_and, not_le]
      exact fun _ hne => hcode.resolve_left hne
    · rename_i hcode
      rw [not_or, not_lt] at hcode
      simpa using ⟨by simpa using hvalid, hcode⟩

section

variable {tenantID occurredAt : String} {e : Event}

theorem wf_envelopeMembers : ∀ m ∈ envelopeMembers tenantID occurredAt e, Json.wf m.2 = true := by
  have homit (name s : String) : ∀ m ∈ omitEmpty name s, Json.wf m.2 = true := by
    unfold omitEmpty
    split <;> simp [Json.wf]
  have hfailure : ∀ m ∈ (if e.failure.category.valid then [("failure", Json.Value.obj
      [("category", .str e.failure.category.text), ("code", .str e.failure.code),
        ("retryable", .bool e.failure.retryable)])] else []), Json.wf m.2 = true := by
    split <;> simp [Json.wf, Json.wfMembers]
  simp only [envelopeMembers, List.forall_mem_append, List.forall_mem_cons]
  exact ⟨⟨⟨⟨⟨⟨wf_natValue 1, rfl, rfl, rfl, by simp⟩, homit _ _⟩, rfl, rfl, wf_natValue _,
    wf_natValue _, wf_natValue _, by simp⟩, homit _ _⟩, homit _ _⟩, hfailure⟩

/-- No member takes more than the provider's id. -/
theorem cost_envelopeMembers_le {messageID : String} (he : e.Proper messageID) (ht : len tenantID ≤ 64)
    (hm : len e.messageID ≤ 64) (ho : len occurredAt ≤ 64) :
    ∀ m ∈ envelopeMembers tenantID occurredAt e, Json.cost m.2 ≤ 6 * 512 + 2 := by
  have hstr (s : String) (h : len s ≤ 512) : Json.cost (.str s) ≤ 6 * 512 + 2 := by
    simp only [Json.cost]
    omega
  have hnum (n : Nat) (h : n ≤ maxInt64) : Json.cost (natValue n) ≤ 6 * 512 + 2 :=
    (cost_natValue_le h).trans (by decide)
  have homit (name s : String) (h : len s ≤ 512) : ∀ m ∈ omitEmpty name s, Json.cost m.2 ≤ 6 * 512 + 2 := by
    unfold omitEmpty
    split
    · simp
    · simpa using hstr s h
  have hfailure : ∀ m ∈ (if e.failure.category.valid then [("failure", Json.Value.obj
      [("category", .str e.failure.category.text), ("code", .str e.failure.code),
        ("retryable", .bool e.failure.retryable)])] else []), Json.cost m.2 ≤ 6 * 512 + 2 := by
    split
    · rename_i hvalid
      have hcategory := FailureCategory.len_text hvalid
      have hcode : len e.failure.code ≤ 128 := by
        rcases he.failure with hz | hv
        · rw [hz] at hvalid
          simp [Failure.zero, FailureCategory.valid] at hvalid
        · exact (Failure.validate_eq_ok.1 hv).2.2
      have hnames : len "category" = 8 ∧ len "code" = 4 ∧ len "retryable" = 9 := by decide
      simp only [List.mem_singleton, forall_eq, Json.cost, Json.costMembers]
      omega
    · simp
  have hkind := EventKind.len_text e.kind
  have hsource := he.source
  have htarget := Status.len_text he.target
  have hattempt : e.attemptNumber ≤ maxInt64 := he.attemptNumber.trans (by decide)
  simp only [envelopeMembers, List.forall_mem_append, List.forall_mem_cons]
  refine ⟨⟨⟨⟨⟨⟨hnum 1 (by decide), hstr _ (by omega), hstr _ (by omega), hstr _ (by omega), by simp⟩,
    homit _ _ (by omega)⟩, hstr _ (by omega), hstr _ (by omega), hnum _ he.sequence.2, hnum _ he.generation,
    hnum _ hattempt, by simp⟩, homit _ _ he.providerMessageID.2⟩,
    homit _ _ (he.reasonCode.trans (by decide))⟩, hfailure⟩

theorem envelopeOf (tenantID occurredAt : String) (e : Event) :
    EnvelopeOf tenantID occurredAt e (envelopeMembers tenantID occurredAt e) := by
  have hnames := names_envelopeMembers tenantID occurredAt e
  constructor
  case wf => exact Json.wfMembers_iff.2 wf_envelopeMembers
  case nodup => exact (by decide : envelopeNames.Nodup).sublist hnames
  case known => exact fun m hm => hnames.subset (List.mem_map_of_mem hm)
  all_goals simp [envelopeMembers]

theorem enveloped {messageID : String} (he : e.Proper messageID) (ht : len tenantID ≤ 64)
    (hm : len e.messageID ≤ 64) (ho : len occurredAt ≤ 64) :
    Enveloped tenantID occurredAt e (envelopeMembers tenantID occurredAt e) := by
  have hmem := cost_envelopeMembers_le he ht hm ho
  have hnames := names_envelopeMembers tenantID occurredAt e
  have henvelope := envelopeOf tenantID occurredAt e
  have hshort : ∀ name ∈ envelopeNames, len name ≤ 19 := by decide
  have hlength : (envelopeMembers tenantID occurredAt e).length ≤ 13 := by
    simpa [envelopeNames] using hnames.length_le
  refine ⟨henvelope, ?_⟩
  refine (Json.costMembers_le fun m hm => ⟨hshort m.1 (henvelope.known m hm), hmem m hm⟩).trans ?_
  calc _ ≤ 13 * (6 * 19 + (6 * 512 + 2) + 6) + 2 := by gcongr
    _ ≤ maxOutboxPayloadBytes := by decide

/-- The envelope as a `jsonb` column keeps it. -/
theorem EnvelopeOf.canon {members : List (String × Json.Value)}
    (h : EnvelopeOf tenantID occurredAt e members) :
    EnvelopeOf tenantID occurredAt e
      (Json.sortMembers Json.jsonbOrder (Json.canonMembers Json.jsonbOrder members)) := by
  have hfst : (Json.canonMembers Json.jsonbOrder members).map Prod.fst = members.map Prod.fst := by
    rw [Json.canonMembers_eq_map, List.map_map]
    rfl
  have hperm : (Json.sortMembers Json.jsonbOrder (Json.canonMembers Json.jsonbOrder members)).Perm
      (Json.canonMembers Json.jsonbOrder members) := Json.sortMembers_perm (hfst ▸ h.nodup)
  have hkept {name : String} {v : Json.Value} (hv : Json.canon Json.jsonbOrder v = v)
    (hm : (name, v) ∈ members) :
      (name, v) ∈ Json.sortMembers Json.jsonbOrder (Json.canonMembers Json.jsonbOrder members) := by
    rw [hperm.mem_iff, Json.canonMembers_eq_map]
    exact List.mem_map.2 ⟨_, hm, by rw [hv]⟩
  constructor
  case wf =>
    have : Json.wf (Json.canon Json.jsonbOrder (.obj members)) = true :=
      Json.wf_canon (.obj members) (by simpa [Json.wf] using h.wf)
    simpa [Json.canon, Json.wf] using this
  case nodup => exact ((hperm.map Prod.fst).nodup_iff).2 (hfst ▸ h.nodup)
  case known =>
    intro m hm
    rw [hperm.mem_iff, Json.canonMembers_eq_map] at hm
    obtain ⟨x, hx, rfl⟩ := List.mem_map.1 hm
    exact h.known x hx
  case schemaVersion => exact hkept rfl h.schemaVersion
  case tenantID => exact hkept rfl h.tenantID
  case messageID => exact hkept rfl h.messageID
  case eventType => exact hkept rfl h.eventType
  case occurredAt => exact hkept rfl h.occurredAt
  case sequence => exact hkept rfl h.sequence
  case generation => exact hkept rfl h.generation

theorem Enveloped.canon {members : List (String × Json.Value)} (h : Enveloped tenantID occurredAt e members) :
    Enveloped tenantID occurredAt e
      (Json.sortMembers Json.jsonbOrder (Json.canonMembers Json.jsonbOrder members)) :=
  ⟨h.toEnvelopeOf.canon, (Json.cost_canon_le (.obj members)).trans h.size⟩

/-! ## Reading an envelope -/

/-- No name of the envelope but its own goes to a field. -/
theorem fieldNamed_envelope : ∀ names ∈ [dispatchEnvelopeFields, lifecycleEnvelopeFields], ∀ name ∈ names,
    ∀ key ∈ envelopeNames, Json.fieldNamed names key = some name → key = name := by
  decide

namespace EnvelopeOf

variable {members : List (String × Json.Value)} {names : List String} {L : Libs}

/-- What a parser finds in a field of its struct. -/
theorem field {α : Type} (f : Json.Value → Option α) (zero : α) (h : EnvelopeOf tenantID occurredAt e members)
    (st : Json.Style) (hnames : names ∈ [dispatchEnvelopeFields, lifecycleEnvelopeFields]) {name : String}
    {v : Json.Value} {a : α} (hname : name ∈ names) (hmem : (name, v) ∈ members) (hnull : v ≠ .null)
    (hf : f v = some a) :
    Json.field f zero name (Json.fieldTexts st names members) = some a :=
  Json.field_marshal st h.wf h.nodup hname hmem
    (fun m hm => fieldNamed_envelope names hnames name hname m.1 (h.known m hm)) hnull hf

/-- The fields that both structs have. -/
structure Read (L : Libs) (tenantID : String) (e : Event) (texts : List (String × String)) : Prop where
  schemaVersion : Json.field (Json.asUint (2 ^ 32)) 0 "schema_version" texts = some 1
  tenantID : Json.field Json.asString "" "tenant_id" texts = some tenantID
  messageID : Json.field Json.asString "" "message_id" texts = some e.messageID
  eventType : Json.field Json.asString "" "event_type" texts = some e.kind.text
  occurredAt : Json.field (asTime L) 0 "occurred_at" texts = some e.occurredAt
  sequence : Json.field (Json.asUint (2 ^ 64)) 0 "sequence" texts = some e.sequence

theorem read (h : EnvelopeOf tenantID occurredAt e members) (st : Json.Style)
    (hnames : names ∈ [dispatchEnvelopeFields, lifecycleEnvelopeFields])
    (ht : L.parseTime occurredAt = some e.occurredAt) (hs : e.sequence ≤ maxInt64) :
    Read L tenantID e (Json.fieldTexts st names members) := by
  have hall : ∀ names ∈ [dispatchEnvelopeFields, lifecycleEnvelopeFields], ∀ name ∈ lifecycleEnvelopeFields,
      name ∈ names := by decide
  have hmem := hall names hnames
  have hbound : maxInt64 < 2 ^ 64 := by decide
  constructor
  · exact h.field _ _ st hnames (hmem _ (by decide)) h.schemaVersion (by simp [natValue])
      (Json.asUint_toString (by decide))
  · exact h.field _ _ st hnames (hmem _ (by decide)) h.tenantID (by simp) rfl
  · exact h.field _ _ st hnames (hmem _ (by decide)) h.messageID (by simp) rfl
  · exact h.field _ _ st hnames (hmem _ (by decide)) h.eventType (by simp) rfl
  · exact h.field _ _ st hnames (hmem _ (by decide)) h.occurredAt (by simp) ht
  · exact h.field _ _ st hnames (hmem _ (by decide)) h.sequence (by simp [natValue])
      (Json.asUint_toString (by omega))

theorem decodeLifecycle (h : EnvelopeOf tenantID occurredAt e members) (st : Json.Style)
    (ht : L.parseTime occurredAt = some e.occurredAt) (hs : e.sequence ≤ maxInt64) :
    decodeLifecycleEnvelope L (Json.fieldTexts st lifecycleEnvelopeFields members) =
      some ⟨1, tenantID, e.messageID, e.kind.text, e.occurredAt, e.sequence⟩ := by
  have hread := h.read st
    (by simp : lifecycleEnvelopeFields ∈ [dispatchEnvelopeFields, lifecycleEnvelopeFields]) ht hs
  simp only [decodeLifecycleEnvelope, hread.schemaVersion, hread.tenantID,
    hread.messageID, hread.eventType, hread.occurredAt, hread.sequence, Option.bind_eq_bind, Option.bind_some,
    Option.pure_def]

theorem decodeDispatch (h : EnvelopeOf tenantID occurredAt e members) (st : Json.Style)
    (ht : L.parseTime occurredAt = some e.occurredAt) (hs : e.sequence ≤ maxInt64)
    (hg : e.dispatchGeneration ≤ maxInt64) :
    decodeDispatchEnvelope L (Json.fieldTexts st dispatchEnvelopeFields members) =
      some ⟨1, tenantID, e.messageID, e.kind.text, e.occurredAt, e.sequence, e.dispatchGeneration⟩ := by
  have hbound : maxInt64 < 2 ^ 64 := by decide
  have hnames : dispatchEnvelopeFields ∈ [dispatchEnvelopeFields, lifecycleEnvelopeFields] := by simp
  have hread := h.read st hnames ht hs
  have hgeneration := h.field (Json.asUint (2 ^ 64)) 0 st hnames (by decide) h.generation (by simp [natValue])
    (Json.asUint_toString (by omega))
  simp only [decodeDispatchEnvelope, hread.schemaVersion, hread.tenantID,
    hread.messageID, hread.eventType, hread.occurredAt, hread.sequence, hgeneration, Option.bind_eq_bind,
    Option.bind_some, Option.pure_def]

/-- Whatever is decoded has the tenant of the envelope. -/
theorem decoded_tenant {envelope : DispatchEnvelope}
    (h : EnvelopeOf tenantID occurredAt e members) (st : Json.Style)
    (hdecode : decodeDispatchEnvelope L (Json.fieldTexts st dispatchEnvelopeFields members) = some envelope) :
    envelope.tenantID = tenantID := by
  have hnames : dispatchEnvelopeFields ∈ [dispatchEnvelopeFields, lifecycleEnvelopeFields] := by simp
  have hfield := h.field Json.asString "" st hnames (by decide) h.tenantID (by simp) rfl
  simp only [decodeDispatchEnvelope, Option.bind_eq_bind,
    Option.bind_eq_some_iff, Option.pure_def, Option.some.injEq] at hdecode
  obtain ⟨_, -, tenant, htenant, _, -, _, -, _, -, _, -, _, -, rfl⟩ := hdecode
  exact Option.some.inj (htenant.symm.trans hfield)

end EnvelopeOf

/-- The text of an envelope is a JSON object within the limit. -/
theorem Enveloped.text {members : List (String × Json.Value)}
    (h : Enveloped tenantID occurredAt e members) (st : Json.Style) :
    (len (Json.marshal st (.obj members)) ≠ 0 ∧
      len (Json.marshal st (.obj members)) ≤ maxOutboxPayloadBytes) ∧
      Json.parse (Json.marshal st (.obj members)) = some (.obj members) := by
  refine ⟨⟨?_, (Json.len_marshal_le st _).trans h.size⟩,
    Json.parse_marshal st (by simpa [Json.wf] using h.wf)⟩
  have := Char.utf8Size_pos '{'
  rw [Json.marshal, len_ofList, Json.render, String.utf8Len_cons]
  omega

end

/-! ## Mapping an event -/

section

variable {L : Libs} {record : MessageRecord} {e : Event}

/-- The payload of an event, as it was mapped or as the outbox returns it. -/
def Carried (payload body : String) : Prop := body = payload ∨ jsonbColumn payload = some body

/-- Either text is that of the event's envelope. -/
theorem carried_enveloped {body : String} (hr : record.Addressed) (he : e.Proper record.message.id)
    (ht : L.Encodes e.occurredAt) (hb : Carried (outboxEventOf L record.tenantID e).payload body) :
    ∃ occurredAt st members, L.parseTime occurredAt = some e.occurredAt ∧
      Enveloped record.tenantID occurredAt e members ∧ body = Json.marshal st (.obj members) := by
  obtain ⟨occurredAt, hformat, hparse, hlen⟩ := ht.text
  obtain ⟨id, hid⟩ := hr.messageID
  have htext : len record.tenantID ≤ 64 := Uuid.len_le_of_parse hr.tenantID
  have hmessage : len e.messageID ≤ 64 := by rw [he.messageID, hid, Uuid.len_text]; omega
  have henv := enveloped he htext hmessage hlen
  have hpayload : (outboxEventOf L record.tenantID e).payload =
      Json.marshal .go (.obj (envelopeMembers record.tenantID occurredAt e)) := by
    simp [outboxEventOf, messageEventEnvelope_eq hformat]
  rcases hb with rfl | hb
  · exact ⟨occurredAt, .go, _, hparse, henv, hpayload⟩
  · refine ⟨occurredAt, .jsonb, _, hparse, henv.canon, ?_⟩
    rw [hpayload] at hb
    exact jsonbColumn_envelope henv.wf hb

/-- The outbox event is valid under either text of its payload. -/
theorem outboxEventOf_valid {body : String} (hr : record.Addressed) (he : e.Proper record.message.id)
    (ht : L.Encodes e.occurredAt) (hb : Carried (outboxEventOf L record.tenantID e).payload body) :
    { outboxEventOf L record.tenantID e with payload := body }.validate = .ok () := by
  obtain ⟨occurredAt, st, members, -, henv, rfl⟩ := carried_enveloped hr he ht hb
  obtain ⟨id, hid⟩ := hr.messageID
  obtain ⟨hlen, hparse⟩ := henv.text st
  have htype : notBlankWithin outboxAggregateMailMessage 64 := by decide
  have hkind (k : EventKind) : notBlankWithin k.text 128 := by cases k <;> decide
  simp only [OutboxEvent.validate, check_bind_eq_ok, check_eq_ok]
  refine ⟨?_, htype, ?_, hkind e.kind, he.sequence.1.ne', ⟨hlen.1, hlen.2, by rw [hparse]; rfl⟩, ?_⟩
  · simp [isUUID, outboxEventOf, stableMessageEventID]
  · simp [isUUID, outboxEventOf, he.messageID, hid]
  · rw [isJSONObject, hparse]
    rfl

theorem deliveryEventOf_valid (hr : record.Addressed) (he : e.Proper record.message.id)
    (ht : L.Encodes e.occurredAt) :
    (deliveryEventOf L record.tenantID record.idempotencyKey e).validate = .ok () := by
  obtain ⟨id, hid⟩ := hr.messageID
  simp only [DeliveryEvent.validate, check_bind_eq_ok]
  refine ⟨?_, ?_, ?_, ⟨hr.idempotencyKey.1, hr.idempotencyKey.2.2⟩, he.target,
    ⟨he.sequence.1.ne', he.sequence.2, he.attemptNumber⟩, ht.notZero, he.providerMessageID, ?_⟩
  · simp [isUUID, deliveryEventOf, stableMessageEventID]
  · exact hr.tenantID
  · simp [isUUID, deliveryEventOf, he.messageID, hid]
  · simp only [deliveryEventOf]
    split
    · rename_i f hf
      simp only [Option.ite_none_right_eq_some, Option.some.injEq] at hf
      obtain ⟨hvalid, rfl⟩ := hf
      rcases he.failure with hz | hv
      · rw [hz] at hvalid
        simp [Failure.zero, FailureCategory.valid] at hvalid
      · rw [mapError_ok_iff]
        exact hv
    · rfl

/-- Every event of a stored message can be mapped. -/
theorem Event.Proper.mappable (he : e.Proper record.message.id) (hr : record.Addressed)
    (ht : L.Encodes e.occurredAt) :
    Mappable L record e where
  messageID := he.messageID
  occurredAt := ht.notZero
  sequence := he.sequence.1.ne'
  failure := by
    rcases he.failure with hz | hv
    · exact .inr (by rw [hz]; exact ⟨rfl, rfl⟩)
    · exact .inl (Failure.validate_eq_ok.1 hv).1
  encoded := by
    obtain ⟨occurredAt, hformat, -⟩ := ht.text
    rw [messageEventEnvelope_eq hformat]
    rfl
  outbox := outboxEventOf_valid hr he ht (.inl rfl)
  delivery _ := deliveryEventOf_valid hr he ht

/-! ## Publishing and parsing it -/

/-- What a publisher sends for the event. -/
theorem publish_proper {body : String} (hr : record.Addressed) (he : e.Proper record.message.id)
    (ht : L.Encodes e.occurredAt) (hb : Carried (outboxEventOf L record.tenantID e).payload body)
    {n : Nat} (hn : 0 < n) {routingKey : String}
    (hroute : PublisherConfig.default.routes e.kind.text = some routingKey) (reply : BrokerReply) :
    (publish .default ⟨{ outboxEventOf L record.tenantID e with payload := body }, n⟩ reply).1 =
      some (makePublishing .default routingKey
        ⟨{ outboxEventOf L record.tenantID e with payload := body }, n⟩) := by
  have hvalid : validPublication ⟨{ outboxEventOf L record.tenantID e with payload := body }, n⟩ = true := by
    simp only [validPublication, decide_eq_true_eq]
    exact ⟨outboxEventOf_valid hr he ht hb, hn.ne', he.sequence.2, he.generation⟩
  have hroute' : PublisherConfig.default.routes (outboxEventOf L record.tenantID e).eventType =
      some routingKey := hroute
  simp [publish, hvalid, hroute']

variable {body : String} {n : Nat}

theorem stringHeader_eq_some {headers : List (String × HeaderValue)} {name text : String}
    (hlookup : headers.lookup name = some (.text text)) (h : text ≠ "") :
    stringHeader headers name = some text := by
  simp [stringHeader, hlookup, h]

theorem nonNegativeLongHeader_isSome {headers : List (String × HeaderValue)} {name : String} {k : Nat}
    (hlookup : headers.lookup name = some (.long k)) :
    (nonNegativeLongHeader headers name).isSome = true := by
  simp [nonNegativeLongHeader, hlookup]

/-- A dispatch request is read back as its command. -/
theorem parse_dispatch (hr : record.Addressed) (he : e.Proper record.message.id) (ht : L.Encodes e.occurredAt)
    (hb : Carried (outboxEventOf L record.tenantID e).payload body) (hn : 0 < n)
    (hk : e.kind = .dispatchRequested) :
    parseDispatchDelivery L .default (makePublishing .default "mail.message.dispatch.requested.v1"
      ⟨{ outboxEventOf L record.tenantID e with payload := body }, n⟩) =
        .ok ⟨stableMessageEventID L e, record.tenantID, e.messageID, e.sequence, e.dispatchGeneration⟩ := by
  obtain ⟨occurredAt, st, members, hparse, henv, rfl⟩ := carried_enveloped hr he ht hb
  obtain ⟨id, hid⟩ := hr.messageID
  have hmessage : e.messageID = id.text := he.messageID.trans hid
  have hgeneration := he.requested hk
  rw [parseDispatchDelivery_eq_ok]
  refine ⟨⟨1, record.tenantID, e.messageID, e.kind.text, e.occurredAt, e.sequence, e.dispatchGeneration⟩, ?_⟩
  exact {
    route := ⟨rfl, rfl⟩
    properties := ⟨rfl, rfl, by rw [← hk]; rfl, rfl⟩
    size := (henv.text st).1
    aggregateType := rfl
    aggregateID := stringHeader_eq_some rfl (by rw [hmessage]; exact Uuid.text_ne_empty id)
    correlation := rfl
    sequence := (positiveLongHeader_eq_some (n := e.sequence) rfl).2 ⟨he.sequence.1.ne', rfl⟩
    generation := (positiveLongHeader_eq_some (n := e.dispatchGeneration) rfl).2 ⟨hgeneration.ne', rfl⟩
    attempt := Option.isSome_iff_exists.2 ⟨n, (positiveLongHeader_eq_some (n := n) rfl).2 ⟨hn.ne', rfl⟩⟩
    body := ⟨_, Json.structMembers_marshal st _ henv.wf,
      henv.decodeDispatch st hparse he.sequence.2 he.generation⟩
    version := ⟨rfl, ht.notZero, by rw [hk]⟩
    parsed := rfl
    valid := by
      simp only [DispatchCommand.validate, check_bind_eq_ok, check_eq_ok]
      refine ⟨?_, ?_, ?_, ⟨he.sequence.1.ne', he.sequence.2⟩, hgeneration.ne', he.generation⟩
      · simp [isUUID, stableMessageEventID]
      · exact hr.tenantID
      · simp [isUUID, hmessage] }

/-- A lifecycle event is read back as its id. -/
theorem parse_lifecycle (hr : record.Addressed) (he : e.Proper record.message.id)
    (ht : L.Encodes e.occurredAt) (hb : Carried (outboxEventOf L record.tenantID e).payload body)
    (hn : 0 < n) {routingKey : String}
    (hroute : PublisherConfig.default.routes e.kind.text = some routingKey)
    (hk : e.kind ≠ .dispatchRequested) :
    parseLifecycleDelivery L .defaultLifecycle (makePublishing .default routingKey
      ⟨{ outboxEventOf L record.tenantID e with payload := body }, n⟩) = .ok ⟨stableMessageEventID L e⟩ := by
  obtain ⟨occurredAt, st, members, hparse, henv, rfl⟩ := carried_enveloped hr he ht hb
  obtain ⟨id, hid⟩ := hr.messageID
  have hmessage : e.messageID = id.text := he.messageID.trans hid
  have hmatches : lifecycleRouteMatches routingKey e.kind.text .defaultLifecycle = true := by
    cases hkind : e.kind with
    | messageAccepted =>
      rw [hkind] at hroute
      obtain rfl : "mail.message.accepted.v1" = routingKey := Option.some.inj hroute
      decide
    | statusChanged =>
      rw [hkind] at hroute
      obtain rfl : "mail.message.status.changed.v1" = routingKey := Option.some.inj hroute
      decide
    | dispatchRequested => exact absurd hkind hk
  simp only [parseLifecycleDelivery, bind_eq_ok, check_eq_ok, required_eq_ok, pure_eq_ok]
  exact ⟨(), ⟨rfl, hmatches⟩, (), ⟨rfl, rfl, rfl⟩, (), (henv.text st).1, (), rfl, _,
    stringHeader_eq_some rfl (by change e.messageID ≠ ""; rw [hmessage]; exact Uuid.text_ne_empty id),
    (), rfl, _, (positiveLongHeader_eq_some (n := e.sequence) rfl).2 ⟨he.sequence.1.ne', rfl⟩, (),
    nonNegativeLongHeader_isSome (k := e.dispatchGeneration) rfl, (),
    Option.isSome_iff_exists.2 ⟨n, (positiveLongHeader_eq_some (n := n) rfl).2 ⟨hn.ne', rfl⟩⟩, _,
    Json.decodeMembers_marshal st _ henv.wf, _, henv.decodeLifecycle st hparse he.sequence.2, (), rfl, (),
    ⟨rfl, ht.notZero, rfl⟩, (), ⟨rfl, rfl⟩, (),
    by simp [NotificationCommand.valid, isUUID, stableMessageEventID, makePublishing, outboxEventOf], rfl⟩

end

/-- No consumer of lifecycle events takes a dispatch request. -/
theorem parseLifecycleDelivery_rejects {L : Libs} {config : ConsumerConfig} {d : Delivery}
    (h : d.type = EventKind.dispatchRequested.text) :
    parseLifecycleDelivery L config d = .error .routeMismatch := by
  have hroute : lifecycleRouteMatches d.routingKey d.type config = false := by
    simp [lifecycleRouteMatches, h, EventKind.text]
  rw [parseLifecycleDelivery, check_bind_eq_error]
  exact .inl ⟨by simp [hroute], rfl⟩

/-- No consumer of dispatch requests takes anything else. -/
theorem parseDispatchDelivery_rejects {L : Libs} {config : ConsumerConfig} {d : Delivery}
    (h : d.type ≠ EventKind.dispatchRequested.text) :
    ∃ error, parseDispatchDelivery L config d = .error error := by
  cases hp : parseDispatchDelivery L config d with
  | error error => exact ⟨error, rfl⟩
  | ok command =>
    obtain ⟨envelope, hparsed⟩ := parseDispatchDelivery_eq_ok.1 hp
    exact absurd hparsed.properties.2.2.1 h

end MailService
