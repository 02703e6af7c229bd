import MailService.Preparation
/-!
# The events of any message

A `Message` is made by `New` or `Restore` and changed by its operations only. The
events that it holds then are short, whatever the operations were called with:
once the mapping has accepted them, the text in which the outbox returns a
payload is valid again.
-/
open Text Checks

namespace MailService

/-- The messages that can be built: the fields of a `Message` are its own. -/
inductive Message.Built : Message → Prop
  | new {params : NewParams} {m : Message} : Message.new params = .ok m → Built m
  | restored {snapshot : Snapshot} {m : Message} : restore snapshot = .ok m → Built m
  | performed {m m' : Message} {op : Operation} {outcome : Outcome} : Built m →
      m.perform op = (m', outcome) → Built m'
  | pulled {m : Message} : Built m → Built m.pullEvents.1

/-- What an event among the pending ones is like. A dispatch request comes with the
status event of the same move. -/
structure Event.Emitted (pending : List Event) (e : Event) : Prop where
  failure : e.failure = .zero ∨ e.failure.validate = .ok ()
  reasonCode : len e.reasonCode ≤ 128
  source : len e.source.text ≤ 32
  target : e.target.valid = true
  requested : e.kind = .dispatchRequested → 0 < e.dispatchGeneration ∧ e.providerMessageID = "" ∧
    ∃ e' ∈ pending, e'.kind ≠ .dispatchRequested ∧ e'.attemptNumber = e.attemptNumber

theorem Event.Emitted.mono {pending pending' : List Event} {e : Event} (h : e.Emitted pending)
    (hsub : pending ⊆ pending') : e.Emitted pending' := by
  refine ⟨h.failure, h.reasonCode, h.source, h.target, fun hk => ?_⟩
  obtain ⟨hgeneration, hprovider, e', he', hcompanion⟩ := h.requested hk
  exact ⟨hgeneration, hprovider, e', hsub he', hcompanion⟩

/-- The two events of a move, when what they say has been checked. -/
theorem Moved.emitted {now : Time} {m m' : Message} (h : Moved now m m')
    (hold : ∀ e ∈ m.pendingEvents, e.Emitted m.pendingEvents)
    (hdescribed : ∀ e ∈ m'.pendingEvents, e ∈ m.pendingEvents ∨
      (e.failure = .zero ∨ e.failure.validate = .ok ()) ∧ len e.reasonCode ≤ 128) :
    ∀ e ∈ m'.pendingEvents, e.Emitted m'.pendingEvents := by
  obtain ⟨hsource, htarget⟩ := valid_of_edge h.edge
  obtain ⟨details, hevents⟩ := h.events
  have hsub : m.pendingEvents ⊆ m'.pendingEvents := by
    rw [hevents]
    exact List.subset_append_left _ _
  have hchanged : changedEvent m m' now details ∈ m'.pendingEvents := by
    rw [hevents]
    simp
  intro e he
  rcases hdescribed e he with hmem | ⟨hfailure, hreason⟩
  · exact (hold e hmem).mono hsub
  have hmem := he
  rw [hevents, List.mem_append, List.mem_cons] at hmem
  rcases hmem with hmem | rfl | hmem
  · exact (hold e hmem).mono hsub
  · exact ⟨hfailure, hreason, Status.len_text hsource, htarget, by simp [changedEvent]⟩
  · unfold dispatchEvents at hmem
    split at hmem
    · rename_i hqueued
      obtain rfl := List.mem_singleton.1 hmem
      -- only the move that opens a generation ends in QUEUED
      have hgeneration : 0 < m'.dispatchGeneration := by
        cases h.counts with
        | queued _ generation => omega
        | started _ status => simp [status] at hqueued
        | kept notQueued => exact absurd hqueued notQueued
      exact ⟨hfailure, hreason, Status.len_text htarget, htarget,
        fun _ => ⟨hgeneration, rfl, _, hchanged, by simp [changedEvent], rfl⟩⟩
    · simp at hmem

theorem Message.new_emitted {params : NewParams} {m : Message} (h : Message.new params = .ok m) :
    ∀ e ∈ m.pendingEvents, e.Emitted m.pendingEvents := by
  have hempty : len "" ≤ 128 := by decide
  refine (Message.new_moved h).1.emitted ?_ fun e he => ?_
  · -- the acceptance comes from no status
    have hsource : len (Status.unknown "").text ≤ 32 := by decide
    simp only [acceptedMessage, List.mem_singleton, forall_eq]
    exact ⟨.inl rfl, hempty, hsource, rfl, by simp⟩
  · have hsilent := Message.new_silent h e he
    exact .inr ⟨.inl hsilent.failure, by rw [hsilent.reasonCode]; exact hempty⟩

theorem Message.Built.emitted {m : Message} (h : m.Built) :
    ∀ e ∈ m.pendingEvents, e.Emitted m.pendingEvents := by
  induction h with
  | new h => exact Message.new_emitted h
  | restored h =>
    obtain ⟨-, rfl⟩ := restore_eq_ok.1 h
    simp
  | @performed m m' op outcome _ hperform ih =>
    rcases Message.perform_moved hperform with ⟨-, rfl⟩ | ⟨rfl, hmoved, -⟩
    · exact ih
    · refine hmoved.emitted ih fun e he => ?_
      exact (Message.perform_describes hperform e he).imp_right fun hd => ⟨hd.failure, hd.reasonCode⟩
  | pulled => simp [Message.pullEvents]

section

variable {L : Libs} {record : MessageRecord} {mapped : MappedMessageEvents} {e : Event}

/-- An event that was mapped, with counters that fit their columns. -/
theorem Message.Built.event_proper (hb : record.message.Built)
    (hmapped : mapEvents L record record.message.pendingEvents = .ok mapped)
    (he : e ∈ record.message.pendingEvents)
    (hcounters : e.sequence ≤ maxInt64 ∧ e.dispatchGeneration ≤ maxInt64) :
    e.Proper record.message.id := by
  obtain ⟨hall, -⟩ := mapEvents_eq_ok.1 hmapped
  -- the journal has checked the attempt and the provider's id of a status event
  have hjournal : ∀ e ∈ record.message.pendingEvents, e.kind ≠ .dispatchRequested →
    e.attemptNumber ≤ maxInt32 ∧
      trimSpace e.providerMessageID = e.providerMessageID ∧ len e.providerMessageID ≤ 512 := by
    intro e he hk
    have hvalid := (hall e he).delivery hk
    simp only [DeliveryEvent.validate, check_bind_eq_ok] at hvalid
    obtain ⟨-, -, -, -, -, hcounts, -, hprovider, -⟩ := hvalid
    exact ⟨hcounts.2.2, hprovider⟩
  have hmappable := hall e he
  have hemitted := hb.emitted e he
  obtain ⟨hsequence, hgeneration⟩ := hcounters
  have hpositive := Nat.pos_of_ne_zero hmappable.sequence
  by_cases hk : e.kind = .dispatchRequested
  · obtain ⟨hopened, hprovider, e', he', hk', hattempt⟩ := hemitted.requested hk
    have hnone : trimSpace e.providerMessageID = e.providerMessageID ∧ len e.providerMessageID ≤ 512 := by
      rw [hprovider]
      decide
    exact ⟨⟨hemitted.failure, hemitted.reasonCode, hnone⟩, hmappable.messageID,
      ⟨hpositive, hsequence⟩, hgeneration, fun _ => hopened, hattempt ▸ (hjournal e' he' hk').1,
      hemitted.source, hemitted.target⟩
  · obtain ⟨hattempt, hprovider⟩ := hjournal e he hk
    exact ⟨⟨hemitted.failure, hemitted.reasonCode, hprovider⟩, hmappable.messageID,
      ⟨hpositive, hsequence⟩, hgeneration, fun h => absurd h hk, hattempt,
      hemitted.source, hemitted.target⟩

/-- The row of such an event holds a valid event: the ids in canonical form, and the
payload in the spacing of `jsonb`. -/
theorem outboxRow_valid {now : Time} {row : OutboxRow} {occurredAt : String} (he : e.Proper record.message.id)
    (ht : isUUID record.tenantID = true) (hm : isUUID e.messageID = true)
    (hformat : L.formatTime e.occurredAt = some occurredAt) (hlen : len occurredAt ≤ 64)
    (hrow : outboxRow now (outboxEventOf L record.tenantID e) = some row) :
    row.event.validate = .ok () ∧ row.status = .pending ∧ row.attemptCount = 0 := by
  have henv := enveloped he (Uuid.len_le_of_parse ht) (Uuid.len_le_of_parse hm) hlen
  have hpayload : (outboxEventOf L record.tenantID e).payload =
      Json.marshal .go (.obj (envelopeMembers record.tenantID occurredAt e)) := by
    simp [outboxEventOf, messageEventEnvelope_eq hformat]
  unfold outboxRow at hrow
  split at hrow
  · rename_i id aggregateID payload hid haggregate hjsonb
    rw [hpayload] at hjsonb
    obtain rfl := jsonbColumn_envelope henv.wf hjsonb
    obtain rfl := Option.some.inj hrow
    obtain ⟨hsize, hparse⟩ := henv.canon.text .jsonb
    have htype : notBlankWithin outboxAggregateMailMessage 64 := by decide
    have hkind (k : EventKind) : notBlankWithin k.text 128 := by cases k <;> decide
    refine ⟨?_, rfl, rfl⟩
    simp only [OutboxEvent.validate, check_bind_eq_ok, check_eq_ok]
    refine ⟨isUUID_of_uuidColumn (uuidColumn_stable hid), htype,
      isUUID_of_uuidColumn (uuidColumn_stable haggregate), hkind e.kind, he.sequence.1.ne',
      ⟨hsize.1, hsize.2, ?_⟩, ?_⟩
    · rw [Json.canon, hparse]
      rfl
    · rw [isJSONObject, Json.canon, hparse]
      rfl
  · simp at hrow

end

end MailService
