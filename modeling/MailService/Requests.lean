import MailService.Custody
import MailService.Envelope
/-!
# What a dispatch request carries

A request in the outbox was mapped from an event of its message, for the tenant of the
message. The parser finds that tenant in the body, in the spelling it was mapped with.
-/
open Text Checks Table Runs

namespace MailService

open Db

variable {E : Env} {L : Libs} {ids : Set Uuid} {h : History} {s : System} {db db' : Db}
  {r row : MessageRow} {m : Message}
  {now : Time}

/-- The event was mapped for the tenant, in some spelling of its id. -/
def OutboxEvent.Under (o : OutboxEvent) (L : Libs) (tenant : String) : Prop :=
  ∃ tenantID e now, uuidColumn tenantID = some tenant ∧
    o = (storedOutbox now (outboxEventOf L tenantID e)).event

theorem under_outboxRows {tenantID tenant : String} {events : List Event}
    (ht : uuidColumn tenantID = some tenant) :
    ∀ o ∈ outboxRows L now tenantID events, o.event.Under L tenant := by
  intro o ho
  obtain ⟨e, -, rfl⟩ := List.mem_map.1 ho
  exact ⟨tenantID, e, now, ht, rfl⟩

/-- Every event of the outbox was mapped for the tenant of its message. -/
def Db.Tenanted (L : Libs) (db : Db) : Prop :=
  ∀ o ∈ db.outbox, ∀ r ∈ db.messages, r.snapshot.id = o.event.aggregateID → o.event.Under L r.tenantID

theorem Created.tenanted {tenantID : String} {params : NewParams}
    (h : Created L ids tenantID db row params m db') (hk : db.Keyed) (ht : db.Tenanted L) :
    db'.Tenanted L := by
  have hrow : row.snapshot.id = params.id := by
    rw [h.snapshot]
    exact h.moved.id
  have hfresh : ∀ r ∈ db.messages, r.snapshot.id ≠ params.id :=
    fun r hr heq => h.freshID (List.mem_map.2 ⟨r, hr, heq⟩)
  intro o ho r hr hid
  rw [h.outbox] at ho
  rw [h.messages] at hr
  rcases List.mem_append.1 ho with ho | ho <;> rcases List.mem_append.1 hr with hr | hr
  · exact ht o ho r hr hid
  · obtain ⟨x, hx, hxid, -⟩ := hk.outbox o ho
    rw [List.mem_singleton.1 hr, hrow] at hid
    exact absurd (hxid.trans hid.symm) (hfresh x hx)
  · obtain ⟨e, he, hmessage, -⟩ := mem_outboxRows ho
    exact absurd (hid.trans (hmessage.trans (h.pending e he).1)) (hfresh r hr)
  · rw [List.mem_singleton.1 hr]
    exact under_outboxRows h.tenant o ho

theorem Advance.tenanted (h : Advance L now db r m db') (hk : db.Keyed) (ht : db.Tenanted L) :
    db'.Tenanted L := by
  intro o ho x hx hid
  rw [h.outbox] at ho
  rw [h.messages] at hx
  -- the tenant of a row does not change, so an old row will do
  obtain ⟨y, hy, hyid, hytenant⟩ : ∃ y ∈ db.messages, y.snapshot.id = x.snapshot.id ∧
      y.tenantID = x.tenantID := by
    rcases (mem_exchange h.mem).1 hx with rfl | ⟨hx, -⟩
    · exact ⟨r, h.mem, h.rowLater.id_eq.symm, rfl⟩
    · exact ⟨x, hx, rfl, rfl⟩
  rw [← hytenant]
  rw [← hyid] at hid
  rcases List.mem_append.1 ho with ho | ho
  · exact ht o ho y hy hid
  · obtain ⟨e, he, hmessage, -⟩ := mem_outboxRows ho
    obtain rfl : y = r :=
      List.inj_on_of_nodup_map hk.ids hy h.mem (hid.trans (hmessage.trans (h.pending e he).1))
    exact under_outboxRows (hk.canonical y hy).2 o ho

theorem Relayed.tenanted (h : Relayed db db') (ht : db.Tenanted L) : db'.Tenanted L := by
  intro o ho r hr hid
  rw [h.messages_eq] at hr
  have hevent : o.event ∈ db.outbox.map (·.event) := h.events ▸ List.mem_map_of_mem ho
  obtain ⟨o₀, ho₀, heq⟩ := List.mem_map.1 hevent
  rw [← heq] at hid ⊢
  exact ht o₀ ho₀ r hr hid

theorem Evolves.tenanted (h : Evolves E db db') (hs : Sound E.L E.ids db) (ht : db.Tenanted E.L) :
    db'.Tenanted E.L := by
  cases h with
  | relayed h => exact h.tenanted ht
  | changed h =>
    -- each of the changes starts from a sound state
    suffices hall : Sound E.L E.ids db' ∧ db'.Tenanted E.L from hall.2
    induction h with
    | refl => exact ⟨hs, ht⟩
    | tail _ hchange ih =>
      refine ⟨hchange.sound ih.1, ?_⟩
      cases hchange with
      | created h => exact h.tenanted ih.1.keyed ih.2
      | advanced h => exact h.tenanted ih.1.keyed ih.2

theorem Reached.tenanted (hr : Reached E h s) : s.db.Tenanted E.L := by
  refine hr.induct (P := fun _ s => s.db.Tenanted E.L) (fun s₀ hinit => ?_)
    fun h₀ s₀ action s₁ hr₀ ht hstep => ?_
  · obtain ⟨⟨tenants, hdb⟩, -⟩ := hinit
    simp [Db.Tenanted, hdb]
  · exact (hstep.evolves (Reached.ok hr₀)).tenanted (Reached.ok hr₀).sound ht

/-! ## The tenant of a command -/

/-- What a `jsonb` column returns for the payload of an event, if it could be stored. -/
theorem storedOutbox_payload {tenantID : String} {e : Event}
    (hne : (storedOutbox now (outboxEventOf L tenantID e)).event.payload ≠ "") : ∃ occurredAt members,
      EnvelopeOf tenantID occurredAt e members ∧
      (storedOutbox now (outboxEventOf L tenantID e)).event.payload = Json.marshal .jsonb (.obj members) := by
  cases hcolumn : jsonbColumn (outboxEventOf L tenantID e).payload with
  | none => simp [storedOutbox, hcolumn] at hne
  | some text =>
    have hpayload : (storedOutbox now (outboxEventOf L tenantID e)).event.payload =
        text := by simp [storedOutbox, hcolumn]
    cases hformat : L.formatTime e.occurredAt with
    | none =>
      have hempty : jsonbColumn "" = none := by decide
      simp [outboxEventOf, messageEventEnvelope, hformat, hempty] at hcolumn
    | some occurredAt =>
      have henvelope := envelopeOf tenantID occurredAt e
      refine ⟨occurredAt, _, henvelope.canon, ?_⟩
      simp only [outboxEventOf, messageEventEnvelope_eq hformat, Option.map_some, Option.getD_some] at hcolumn
      rw [hpayload, jsonbColumn_envelope henvelope.wf hcolumn]
      rfl

/-- A command that was read from a copy of a request carries a spelling of the message's tenant. -/
theorem Db.Tenanted.command {d : Delivery} {command : DispatchCommand} {o : OutboxRow} (ht : db.Tenanted L)
    (ho : o ∈ db.outbox) (hcopy : CopyOf o.event d)
    (hparse : parseDispatchDelivery L .default d = .ok command) (hr : r ∈ db.messages)
    (hid : r.snapshot.id = command.messageID) : uuidColumn command.tenantID = some r.tenantID := by
  obtain ⟨hmessage, -⟩ := parseDispatchDelivery_copy hcopy hparse
  obtain ⟨tenantID, e, now, hcolumn, hevent⟩ := ht o ho r hr (hid.trans hmessage)
  obtain ⟨routingKey, attemptNumber, -, rfl⟩ := hcopy
  obtain ⟨envelope, hp⟩ := parseDispatchDelivery_eq_ok.1 hparse
  have hbody : (makePublishing .default routingKey ⟨o.event, attemptNumber⟩).body =
      (storedOutbox now (outboxEventOf L tenantID e)).event.payload := congrArg OutboxEvent.payload hevent
  have hne : (storedOutbox now (outboxEventOf L tenantID e)).event.payload ≠ "" := by
    intro hempty
    refine hp.size.1 ?_
    rw [hbody, hempty]
    rfl
  obtain ⟨occurredAt, members, henvelope, htext⟩ := storedOutbox_payload hne
  obtain ⟨texts, htexts, hdecode⟩ := hp.body
  rw [hbody, htext, Json.structMembers_marshal .jsonb _ henvelope.wf] at htexts
  obtain rfl := Option.some.inj htexts
  rw [hp.parsed]
  change uuidColumn envelope.tenantID = _
  rw [henvelope.decoded_tenant .jsonb hdecode]
  exact hcolumn

end MailService
