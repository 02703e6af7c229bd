import MailService.Dispatching
/-!
# Publisher and consumers agree

Every event that a message of the running service emits is mapped, published and
parsed back: a dispatch request as its command by the dispatch consumer, any
other event as the id of its journal row by the lifecycle consumer, and neither
by the other's parser.
-/
open Text Checks Runs

namespace MailService

/-- A record whose pending events a transaction of the service maps in state `s`: that of
a submission, or of a stored message that was read and moved by one of its operations.
The id in a delivery fact has passed the check on provider results. -/
inductive Emits (E : Env) (s : System) : MessageRecord → Prop
  | submitted {catalog protector command messageID nonce p now record} : messageID ∈ E.ids →
      prepareSubmission E.L catalog protector command messageID nonce = .ok p →
      submissionRecord p now = .ok record →
      Emits E s record
  | advanced {r op m} : r ∈ s.db.messages → r.Loadable → r.message.perform op = (m, .changed) →
      (∀ fact, op = .applyDeliveryFact fact → trimmedWithin fact.providerMessageID 512) →
      Emits E s (r.record.withMessage m)

variable {E : Env} {s : System} {record : MessageRecord} {e : Event}

/-- The record is addressed, in whatever spelling of its tenant, and its events are proper. -/
theorem Emits.proper {h : History} (hemit : Emits E s record) (hr : Reached E h s)
    (ht : isUUID record.tenantID = true) :
    record.Addressed ∧ ∀ e ∈ record.message.pendingEvents, e.Proper record.message.id := by
  cases hemit with
  | @submitted catalog protector command messageID nonce p now _ hid hprepare hrecord =>
    obtain ⟨email, locale, templateVariables, hfrom⟩ := prepareSubmission_eq_ok.1 hprepare
    obtain ⟨-, m, hnew, rfl⟩ := submissionRecord_eq_ok.1 hrecord
    have hmid : m.id = p.messageID := (Message.new_moved hnew).1.id
    refine ⟨⟨ht, ⟨messageID, hmid.trans hfrom.messageID⟩, ?_⟩,
      Message.new_proper hnew (maxAttemptsFor_bounds _).2⟩
    change trimmedWithin p.normalized.idempotencyKey 255
    rw [hfrom.normalized]
    exact trimmedWithin_of_idempotencyKeyPattern hfrom.checked.idempotencyKey
  | @advanced r op m hmem hload hperform hfact =>
    have hsound := (Reached.ok hr).sound
    obtain ⟨hmoved, -⟩ := Message.perform_changed hperform
    obtain ⟨hid, -⟩ := hsound.keyed.canonical r hmem
    have hcounted := hmoved.counted (m := r.message) (hsound.rows r hmem).counted
    refine ⟨⟨ht, ?_, ?_⟩, fun e he => ?_⟩
    · rw [show (r.record.withMessage m).message.id = r.snapshot.id from hmoved.id]
      exact exists_text_of_uuidColumn hid
    · have hvalid := hload.record
      simp only [MessageRecord.validate, check_bind_eq_ok] at hvalid
      exact hvalid.2.1
    · rcases hmoved.proper hcounted e he with hold | hnew
      · simp [MessageRow.message] at hold
      · rcases Message.perform_describes hperform e he with hold | hd
        · simp [MessageRow.message] at hold
        · exact hnew (hd.described hfact)

/-- A dispatch request is mapped, published and read back as its command, in whatever spelling of
its tenant. -/
theorem dispatch_agreement (ha : record.Addressed) (hp : e.Proper record.message.id)
    (hclock : E.L.Encodes e.occurredAt) (hk : e.kind = .dispatchRequested) {n : Nat}
    (hn : 0 < n) {body : String} (hbody : Carried (outboxEventOf E.L record.tenantID e).payload body)
    (reply : BrokerReply) : ∃ d,
      (publish .default ⟨{ outboxEventOf E.L record.tenantID e with payload := body }, n⟩ reply).1 = some d ∧
      parseDispatchDelivery E.L .default d =
        .ok ⟨stableMessageEventID E.L e, record.tenantID, record.message.id, e.sequence,
          e.dispatchGeneration⟩ := by
  have hroute : PublisherConfig.default.routes e.kind.text = some "mail.message.dispatch.requested.v1" := by
    rw [hk]
    rfl
  refine ⟨_, publish_proper ha hp hclock hbody hn hroute reply, ?_⟩
  rw [← hp.messageID]
  exact parse_dispatch ha hp hclock hbody hn hk

theorem Event.Proper.mapped (hp : e.Proper record.message.id) (ha : record.Addressed)
    (hclock : E.L.Encodes e.occurredAt) :
    mapMessageEvent E.L record e = .ok (outboxEventOf E.L record.tenantID e) := by
  have hmappable := hp.mappable ha hclock
  exact mapMessageEvent_eq_ok.2
    ⟨hmappable.messageID, ⟨hmappable.occurredAt, hmappable.sequence⟩, hmappable.failure,
    hmappable.encoded, hmappable.outbox, rfl⟩

/-- Every event that is emitted, published with any attempt number in the text it was
mapped to or the text a `jsonb` column returns for it, is parsed back by the consumer of its
kind and refused by the other one. -/
theorem wire_agreement {h : History} (hr : Reached E h s) (hemit : Emits E s record)
    (htenant : uuidColumn record.tenantID = some record.tenantID) (he : e ∈ record.message.pendingEvents)
    (hclock : E.L.Encodes e.occurredAt) {n : Nat} (hn : 0 < n) :
    ∃ o, mapMessageEvent E.L record e = .ok o ∧ ∀ body, Carried o.payload body → ∀ reply, ∃ d,
      (publish .default ⟨{ o with payload := body }, n⟩ reply).1 = some d ∧
      (e.kind = .dispatchRequested →
        parseDispatchDelivery E.L .default d =
          .ok ⟨o.id, record.tenantID, record.message.id, e.sequence, e.dispatchGeneration⟩ ∧
        ∀ config, ∃ error, parseLifecycleDelivery E.L config d = .error error) ∧
      (e.kind ≠ .dispatchRequested →
        (∃ j, mapDeliveryEvent record e o.id = .ok [j] ∧
          parseLifecycleDelivery E.L .defaultLifecycle d = .ok ⟨j.id⟩) ∧
        ∀ config, ∃ error, parseDispatchDelivery E.L config d = .error error) := by
  obtain ⟨haddressed, hproper⟩ := hemit.proper hr (isUUID_of_uuidColumn htenant)
  have hp := hproper e he
  refine ⟨outboxEventOf E.L record.tenantID e, hp.mapped haddressed hclock, ?_⟩
  intro body hbody reply
  obtain ⟨routingKey, hroute⟩ : ∃ routingKey,
      PublisherConfig.default.routes e.kind.text = some routingKey := by
    cases e.kind <;> exact ⟨_, rfl⟩
  refine ⟨_, publish_proper haddressed hp hclock hbody hn hroute reply, fun hk => ⟨?_, fun config => ?_⟩,
    fun hk => ⟨?_, fun config => ?_⟩⟩
  · rw [hk] at hroute
    obtain rfl : "mail.message.dispatch.requested.v1" = routingKey := Option.some.inj hroute
    rw [← hp.messageID]
    exact parse_dispatch haddressed hp hclock hbody hn hk
  · exact ⟨_, parseLifecycleDelivery_rejects (congrArg EventKind.text hk)⟩
  · refine ⟨deliveryEventOf E.L record.tenantID record.idempotencyKey e, ?_,
      parse_lifecycle haddressed hp hclock hbody hn hroute hk⟩
    have hlifecycle : lifecycleEvents [e] = [e] := by simp [lifecycleEvents, hk]
    exact mapDeliveryEvent_eq_ok.2
      ⟨fun _ => (hp.mappable haddressed hclock).delivery hk, by rw [hlifecycle]; rfl⟩
  · refine parseDispatchDelivery_rejects fun ht => hk ?_
    have hinj : ∀ k : EventKind, k.text = EventKind.dispatchRequested.text → k = .dispatchRequested := by
      intro k
      cases k <;> decide
    exact hinj e.kind ht

/-- The request of a new message is mapped, published and read back. -/
theorem wire_agreement_requested : ∃ E s record e o d, Reached E [] s ∧ Emits E s record ∧
    e ∈ record.message.pendingEvents ∧ e.kind = .dispatchRequested ∧ mapMessageEvent E.L record e = .ok o ∧
    (publish .default ⟨o, 1⟩ (.ack none)).1 = some d ∧ parseDispatchDelivery E.L .default d =
      .ok ⟨o.id, record.tenantID, record.message.id, e.sequence, e.dispatchGeneration⟩ := by
  obtain ⟨hm, hlen, hobject, hstored⟩ := Sample.metadata_empty
  obtain ⟨hash, canonical, m, row, -, rfl, -, hp, ha⟩ :=
    Sample.exists_accepted (.inl rfl) hm hlen hobject hstored
  have hr := Sample.reached_start hash
  have hemit : Emits (Sample.env hash) Sample.start _ :=
    .submitted rfl hp (submissionRecord_eq_ok.2 ⟨ha.times, _, ha.new, rfl⟩)
  have hrequested := ha.requested rfl
  have hclock := Sample.stores hash Sample.now (by simp)
  obtain ⟨o, hmapped, hcarried⟩ :=
    wire_agreement hr hemit (uuidColumn_text Sample.tenant) hrequested hclock.toEncodes Nat.one_pos
  obtain ⟨d, hd, hparsed, -⟩ := hcarried o.payload (.inl rfl) (.ack none)
  exact ⟨_, _, _, _, o, d, hr, hemit, hrequested, rfl, hmapped, hd, (hparsed rfl).1⟩

end MailService
