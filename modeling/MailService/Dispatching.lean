import MailService.Admission
/-!
# From a submission to the provider

Nothing keeps an accepted message from its provider: it is submitted, its
dispatch request is leased, published and recorded, and a lane that is handed the
request claims the message and calls `Submit`.
-/
open Text Checks Table Runs

namespace MailService

open Db

section

variable {E : Env} {h : History} {s : System} {db : Db} {now : Time} {o : OutboxRow}

/-! ## Relaying one event -/

section Relay

variable {config : OutboxRelayConfig} {run : Uuid}

/-- The only row that is not locked is the batch. -/
theorem candidates_one {limit : Nat} (hn : (db.outbox.map (·.event.id)).Nodup) (ho : o ∈ db.outbox)
    (hclaimable : claimable now o = true) (hlimit : limit ≠ 0) :
    db.candidates now limit (· ≠ o.event.id) = [o] := by
  have hfilter : (db.outbox.filter fun x => claimable now x && !decide (x.event.id ≠ o.event.id)) = [o] := by
    have honly : (db.outbox.filter fun x => x.event.id = o.event.id) = [o] := filter_key_eq hn ho
    simp only [decide_not, Bool.not_not]
    rw [← List.filter_filter, honly]
    simp [hclaimable]
  obtain ⟨n, rfl⟩ := Nat.exists_eq_succ_of_ne_zero hlimit
  rw [candidates, hfilter]
  simp

/-- The query of a relay whose configuration and token are valid. -/
theorem OutboxRelayConfig.query_valid (hvalid : config.valid = true)
    (htoken : validateLeaseToken (config.leaseToken run) = .ok ()) :
    OutboxClaimQuery.validate ⟨config.leaseToken run, config.leaseDuration, config.batchSize⟩ = .ok () := by
  obtain ⟨-, -, -, -, hbatch, hlimit, -, -, hshort, hlong, -⟩ := of_decide_eq_true hvalid
  rw [OutboxClaimQuery.validate, htoken, ok_bind, check_bind_eq_ok, check_eq_ok]
  exact ⟨⟨hshort, hlong⟩, hbatch, hlimit⟩

/-- What a relay may lease under its token at `now`. -/
structure Leasable (config : OutboxRelayConfig) (run : Uuid) (now : Time) (db : Db) (o : OutboxRow) :
    Prop where
  valid : config.valid = true
  token : validateLeaseToken (config.leaseToken run) = .ok ()
  column : varchar 255 (config.leaseToken run) ∧ notBtrimEmpty (config.leaseToken run)
  mem : o ∈ db.outbox
  claimable : claimable now o = true
  event : o.event.validate = .ok ()
  attempts : o.attemptCount < maxInt32
  clock : now ≠ 0

/-- The time at which a lease taken at `now` runs out. -/
def OutboxRelayConfig.leaseUntil (c : OutboxRelayConfig) (now : Time) : Time :=
  now + wholeMilliseconds c.leaseDuration

namespace Leasable

variable (hl : Leasable config run now db o)

include hl

theorem future : now < config.leaseUntil now := by
  obtain ⟨-, -, -, -, -, -, -, -, hshort, -⟩ := of_decide_eq_true hl.valid
  have hpositive : 0 < wholeMilliseconds config.leaseDuration := by
    unfold wholeMilliseconds second at *
    omega
  exact Nat.lt_add_of_pos_right hpositive

theorem leased_valid : (o.leasedEvent (config.leaseToken run) (config.leaseUntil now)).validate = .ok () := by
  have hattempts := hl.attempts
  have huntil : config.leaseUntil now ≠ 0 := Nat.ne_of_gt (Nat.zero_lt_of_lt hl.future)
  exact unit_bind_eq_ok.2 ⟨hl.event, unit_bind_eq_ok.2 ⟨hl.token, check_bind_eq_ok.2 ⟨huntil,
    check_eq_ok.2 ⟨Nat.succ_ne_zero _, hattempts⟩⟩⟩⟩

theorem scanned : scanLeased now (o.leasedTo (config.leaseToken run) (config.leaseUntil now)) =
    .ok (o.leasedEvent (config.leaseToken run) (config.leaseUntil now)) := by
  have hcount : (o.leasedTo (config.leaseToken run) (config.leaseUntil now)).attemptCount ≠ maxInt32 :=
    Nat.ne_of_lt hl.attempts
  rw [scanLeased, check_bind hcount]
  exact unit_bind_eq_ok.2 ⟨mapError_ok_iff.2 hl.leased_valid, check_bind_eq_ok.2 ⟨⟨hl.clock, hl.future⟩, rfl⟩⟩

end Leasable

/-- A relay that finds all other rows locked leases this one. -/
theorem claimBatch_one (hn : (db.outbox.map (·.event.id)).Nodup) (hl : Leasable config run now db o) :
    claimBatch config run (· ≠ o.event.id) now db =
      .ok ({ db with outbox := exchange db.outbox o (o.leasedTo (config.leaseToken run) (config.leaseUntil now)) },
        [o.leasedEvent (config.leaseToken run) (config.leaseUntil now)]) := by
  obtain ⟨-, -, -, -, hbatch, -⟩ := of_decide_eq_true hl.valid
  have hrows : (db.outbox.map fun x => if [o].any (·.event.id = x.event.id) = true then
      leasedRow ⟨config.leaseToken run, config.leaseDuration, config.batchSize⟩ now x else x) =
        exchange db.outbox o (o.leasedTo (config.leaseToken run) (config.leaseUntil now)) :=
    map_if_eq_exchange
      (leasedRow ⟨config.leaseToken run, config.leaseDuration, config.batchSize⟩ now)
      (fun x => [o].any (·.event.id = x.event.id) = true) hn hl.mem (by simp)
        fun x hx => by simpa [eq_comm] using hx
  have hscan : ([o].map (leasedRow ⟨config.leaseToken run, config.leaseDuration, config.batchSize⟩ now)).mapM
      (scanLeased now) = .ok [o.leasedEvent (config.leaseToken run) (config.leaseUntil now)] := by
    have hone : scanLeased now
      (leasedRow ⟨config.leaseToken run, config.leaseDuration, config.batchSize⟩ now o) =
      .ok _ := hl.scanned
    simp [hone]
  have hpending : db.claimPending ⟨config.leaseToken run, config.leaseDuration, config.batchSize⟩
    now (· ≠ o.event.id) =
      .ok ({ db with outbox := exchange db.outbox o (o.leasedTo (config.leaseToken run) (config.leaseUntil now)) },
        ⟨now, [o.leasedEvent (config.leaseToken run) (config.leaseUntil now)]⟩) := by
    rw [claimPending, OutboxRelayConfig.query_valid hl.valid hl.token, ok_bind, check_bind hl.column,
      candidates_one hn hl.mem hl.claimable hbatch]
    refine bind_eq_ok.2 ⟨_, hscan, ?_⟩
    rw [hrows]
    rfl
  rw [claimBatch, hpending, ok_bind]
  refine unit_bind_eq_ok.2 ⟨?_, rfl⟩
  rw [validateClaimedOutboxBatch, if_neg (by simp), check_bind hl.clock]
  refine unit_bind_eq_ok.2 ⟨?_, rfl⟩
  exact unit_bind_eq_ok.2
    ⟨mapError_ok_iff.2 hl.leased_valid, check_bind_eq_ok.2 ⟨rfl, check_eq_ok.2 hl.future⟩⟩

/-- The claim that holds a row records that it was published. -/
theorem markPublished_of_holds {reference : OutboxLeaseReference} (hn : (db.outbox.map (·.event.id)).Nodup)
    (ho : o ∈ db.outbox) (hvalid : reference.validate = .ok ()) (hholds : reference.Holds o) :
    recordCompletion reference now db .published =
      .ok { db with outbox := exchange db.outbox o (o.recorded reference.attemptNumber now .published) } := by
  have hholds' := (holdsLease_iff hholds.id).2 hholds
  have hany : db.outbox.any (holdsLease reference o.event.id) = true := List.any_eq_true.2 ⟨o, ho, hholds'⟩
  have hrows := map_if_eq_exchange (fun x : OutboxRow => x.recorded reference.attemptNumber now .published)
    (fun x => holdsLease reference o.event.id x = true) hn ho hholds' fun x hx =>
      Option.some.inj (((holdsLease_iff hholds.id).1 hx).id.symm.trans hholds.id)
  rw [recordCompletion, markPublished, hvalid, ok_bind, completeLease, hholds.id]
  simp only [hany, if_true]
  exact congrArg (fun rows => Except.ok { db with outbox := rows }) hrows

/-- What was sent is answered by the broker. -/
theorem publish_sent {config : PublisherConfig} {publication : OutboxPublication}
    {reply : BrokerReply} {d : Delivery} (hd : (publish config publication reply).1 = some d) :
    (publish config publication reply).2 = publishReply publication.event.id reply := by
  unfold publish at hd ⊢
  split at hd
  · simp at hd
  rename_i hvalid
  rw [if_neg hvalid]
  split at hd
  · simp at hd
  · simp

/-- An event that can be leased is published to a broker that keeps it, and recorded. -/
theorem Reached.relays (hr : Reached E h s) (hl : Leasable config run now s.db o)
    (hmax : config.maxAttempts = E.maxAttempts) (hfresh : config.leaseToken run ∉ s.tokens) {d : Delivery}
    (hd : publish .default ⟨o.event, o.attemptCount + 1⟩ (.ack none) = (some d, .ok ())) (later : Time) :
    ∃ leased s₁ s₂ s₃, Reached E ((.record leased .published, s₃) :: (.publish leased (.ack none), s₂) ::
        (.lease now [leased] true, s₁) :: h) s₃ ∧ leased.event = o.event ∧
        s₃.db = { s.db with outbox := s₃.db.outbox } ∧
      s₃.lanes = s.lanes ∧ s₃.queue = s.queue ++ [d] := by
  have hsound := (Reached.ok hr).sound
  have hids := hsound.keyed.outboxIDs
  have hlease := hr.next
    (@Step.lease E s config run _ now _ _ true hl.valid hmax hfresh (claimBatch_one hids hl))
  have hpublish := hlease.next (@Step.publish E _ _ s.jobs [] (.ack none) none true rfl fun _ => rfl)
  have hpending : o.status = .pending := by
    have := hl.claimable
    simp only [claimable, Bool.and_eq_true, decide_eq_true_eq] at this
    exact this.1.1
  have hholds : (o.leasedEvent (config.leaseToken run) (config.leaseUntil now)).reference.Holds
      (o.leasedTo (config.leaseToken run) (config.leaseUntil now)) :=
    ⟨hsound.uuidColumn_event hl.mem, hpending, rfl, rfl⟩
  have hrecord := @markPublished_of_holds _ later _ _ ((Reached.ok hlease).sound.keyed.outboxIDs)
    ((mem_exchange hl.mem).2 (.inl rfl)) (LeasedOutboxEvent.reference_valid hl.leased_valid) hholds
  have hdecided : decideCompletion E.maxAttempts (o.attemptCount + 1)
      (publish .default ⟨o.event, o.attemptCount + 1⟩ (.ack none)).2 none 0 = .ok .published := by
    rw [hd]
    rfl
  have hdone := hpublish.next (@Step.record E _ _ _ none 0 _ later _ s.jobs [] rfl hdecided hrecord)
  refine ⟨_, _, _, _, hdone, rfl, rfl, rfl, ?_⟩
  change s.queue ++ (publish .default ⟨o.event, o.attemptCount + 1⟩ (.ack none)).1.toList = _
  rw [hd]
  rfl

end Relay

/-! ## Dispatching one message -/

section Dispatch

variable {r : MessageRow} {m : Message} {command : DispatchCommand} {providerKey : String} {attemptID : Uuid}
  {material : DeliveryMaterial}

/-- The request for a claimed message is valid if its material is. -/
theorem Claimable.prepared {L : Libs} {ids : Set Uuid}
    (hc : Claimable L ids now db r command providerKey attemptID)
    (hstart : r.message.startSending r.snapshot.dispatchGeneration now = (m, .ok ()))
    (hmaterial : material.validate = .ok ()) :
    prepareRequest (claimOf command providerKey attemptID now r m) (.ok material) =
      .ok ((claimOf command providerKey attemptID now r m).request material) := by
  obtain ⟨hattempt, hmessage, hnumber, hgeneration, -⟩ :=
    StartedDeliveryAttempt.validate_eq_ok.1 (hc.attempt_valid hstart)
  have hrecord := hc.loadable.record
  simp only [MessageRecord.validate, check_bind_eq_ok] at hrecord
  obtain ⟨htenant, -, hcategory, -, hpolicy, -⟩ := hrecord
  have hvalid : ((claimOf command providerKey attemptID now r m).request material).validate = .ok () := by
    simp only [ProviderRequest.validate, check_bind_eq_ok, mapError_ok_iff]
    exact ⟨hattempt, hmessage, htenant, hnumber, hgeneration, hcategory, hpolicy, hmaterial⟩
  simp only [prepareRequest, hmaterial, hvalid]

/-- A lane that is handed the request of a queued message claims the message and calls its provider. -/
theorem Reached.dispatches (hr : Reached E h s) {i : Nat} {d : Delivery} {before after : List Delivery}
    (hidle : s.lanes i = .idle) (hqueue : s.queue = before ++ d :: after) (hd : isDispatchDelivery d)
    (hparse : parseDispatchDelivery E.L .default d = .ok command)
    (hc : Claimable E.L E.ids now s.db r command providerKey attemptID)
    (hmaterial : material.validate = .ok ()) :
    ∃ m c request s₁ s₂ s₃ s₄, Reached E ((.callSubmit i c request, s₄) :: (.claim i (.started c) true, s₃) ::
        (.readForClaim i now, s₂) :: (.deliver i d, s₁) :: h) s₄ ∧
      r.message.startSending r.snapshot.dispatchGeneration now = (m, .ok ()) ∧
      c = claimOf command providerKey attemptID now r m ∧ s₄.db = claimedDb E.L now s.db r m c := by
  obtain ⟨m, hstart, hclaim⟩ := claim_starts hc
  have hdeliver := hr.next (.deliver hidle hqueue hd)
  have hreceived : received E.L d = .parsed command := by
    rw [received, hparse]
  rw [hreceived] at hdeliver
  have hread := hdeliver.next (@Step.readForClaim E _ i d command now (Function.update_self ..))
  have hclaimed := hread.next (@Step.claim E _ i d command s.db now _ _ _ _ true (Function.update_self ..)
    hc.providerKey hclaim)
  have hcall := hclaimed.next (.callSubmit (Function.update_self ..) (hc.prepared hstart hmaterial))
  exact ⟨m, _, _, _, _, _, _, hcall, hstart, rfl, rfl⟩

end Dispatch

/-! ## From acceptance on -/

section Acceptance

variable {catalog : SubmissionCatalog} {protector : Protector}
  {command : SubmitEmailCommand} {messageID : Uuid}
  {nonce : Nonce} {p : PreparedSubmission} {m : Message} {row : MessageRow}
  {config : OutboxRelayConfig} {run : Uuid}

theorem Reached.accepts (hr : Reached E h s) (hid : messageID ∈ E.ids)
    (hp : prepareSubmission E.L catalog protector command messageID nonce = .ok p)
    (ha : Acceptable E.L E.ids now s.db p m row) :
    Reached E ((.submit command now ⟨.accepted, (p.record m).pulled⟩,
      { s with db := acceptedDb E.L now s.db p m row }) :: h)
      { s with db := acceptedDb E.L now s.db p m row } := by
  have hsubmit : submit E.L catalog protector command messageID nonce now s.db =
      .ok (acceptedDb E.L now s.db p m row, ⟨.accepted, (p.record m).pulled⟩) := by
    rw [submit, hp, ok_bind]
    exact submitTransaction_accepts ha
  exact hr.next (.submit hid hsubmit)

/-- The outbox row that requests the dispatch of a message. -/
def dispatchRow (L : Libs) (now : Time) (tenantID : String) (m : Message) : OutboxRow :=
  storedOutbox now (outboxEventOf L tenantID (dispatchEvent m now))

namespace Acceptable

variable {L : Libs} {ids : Set Uuid} (ha : Acceptable L ids now db p m row) (hq : m.status = .queued)

include ha hq

theorem requested : dispatchEvent m now ∈ m.pendingEvents := by
  obtain ⟨details, hevents⟩ := ha.moved.events
  rw [hevents, dispatchEvents, if_pos hq]
  simp

theorem dispatchRow_mem : dispatchRow L now p.normalized.tenantID m ∈ (acceptedDb L now db p m row).outbox :=
  List.mem_append_right _ (List.mem_map.2 ⟨_, ha.requested hq, rfl⟩)

/-- The text in which the outbox returns the request's payload. -/
theorem dispatchRow_event :
    ∃ body, Carried (outboxEventOf L p.normalized.tenantID (dispatchEvent m now)).payload body ∧
    (dispatchRow L now p.normalized.tenantID m).event =
      { outboxEventOf L p.normalized.tenantID (dispatchEvent m now) with payload := body } := by
  obtain ⟨hproper, hplain, hclock⟩ := ha.ready.proper _ (ha.requested hq)
  obtain ⟨body, hcolumn, -⟩ :=
    jsonbColumn_payload ha.ready.addressed (plain_of_uuidColumn ha.column) hproper hplain hclock
  have hcolumn' : jsonbColumn (outboxEventOf L p.normalized.tenantID (dispatchEvent m now)).payload =
      some body := hcolumn
  refine ⟨body, .inr hcolumn', ?_⟩
  rw [dispatchRow, storedOutbox, hcolumn']
  rfl

theorem leasable (hvalid : config.valid = true) (htoken : validateLeaseToken (config.leaseToken run) = .ok ())
    (hcolumn : varchar 255 (config.leaseToken run) ∧ notBtrimEmpty (config.leaseToken run)) :
    Leasable config run now (acceptedDb L now db p m row) (dispatchRow L now p.normalized.tenantID m) := by
  obtain ⟨hproper, hplain, hclock⟩ := ha.ready.proper _ (ha.requested hq)
  refine ⟨hvalid, htoken, hcolumn, ha.dispatchRow_mem hq, ?_, ?_, ?_, ha.clock.notZero⟩
  · rw [claimable, dispatchRow, storedOutbox]
    simp
  · obtain ⟨body, hcarried, hevent⟩ := ha.dispatchRow_event hq
    have hevent' := outboxEventOf_valid ha.ready.addressed hproper hclock.toEncodes hcarried
    rw [hevent]
    exact hevent'
  · have hattempts : (dispatchRow L now p.normalized.tenantID m).attemptCount = 0 := rfl
    rw [hattempts]
    decide

/-- The request is published, and a lane reads the command of the message from it. -/
theorem published : ∃ d,
    publish .default ⟨(dispatchRow L now p.normalized.tenantID m).event, 1⟩
    (.ack none) = (some d, .ok ()) ∧
    isDispatchDelivery d ∧ ∃ id, parseDispatchDelivery L .default d =
      .ok ⟨id, p.normalized.tenantID, m.id, m.latestSequence, m.dispatchGeneration⟩ := by
  obtain ⟨hproper, hplain, hclock⟩ := ha.ready.proper _ (ha.requested hq)
  obtain ⟨body, hcarried, hevent⟩ := ha.dispatchRow_event hq
  rw [hevent]
  have hpublish := publish_proper ha.ready.addressed hproper hclock.toEncodes hcarried
    Nat.one_pos rfl (.ack none)
  have hparse := parse_dispatch ha.ready.addressed hproper hclock.toEncodes hcarried Nat.one_pos rfl
  exact ⟨_, Prod.ext hpublish (publish_sent hpublish), ⟨rfl, rfl⟩, _, hparse⟩

/-- The accepted message can be claimed in any state that has its row. -/
theorem dispatchable {db' : Db} {key : String} {attemptID : Uuid} (id : String) (hs : Sound L ids db')
    (htenant : row.tenantID = p.normalized.tenantID)
    (hmem : row ∈ db'.messages) (hload : row.Loadable) (hdeadline : now < row.snapshot.dispatchDeadline)
    (hkey : validateProviderKey key = .ok ()) (hplain : Plain key)
    (hfresh : attemptID.text ∉ db'.attemptIDs) :
    Claimable L ids now db' row ⟨id, p.normalized.tenantID, m.id, m.latestSequence, m.dispatchGeneration⟩ key
      attemptID := by
  obtain ⟨-, -, -, -, hsnapshot⟩ := createRow_eq_some ha.stored
  have haccepted : row.snapshot.acceptedAt ≤ now := by
    have hat : m.acceptedAt = now := ha.moved.acceptedAt
    rw [hsnapshot]
    change truncate m.acceptedAt ≤ now
    rw [hat]
    exact truncate_le now
  exact {
    sound := hs, collisionFree := ha.collisionFree, mem := hmem, loadable := hload
    queued := by rw [hsnapshot]; exact hq
    messageID := ha.messageID.2.trans ha.messageID.1.symm
    tenantID := htenant.symm
    sequence := by rw [hsnapshot]; rfl
    generation := by rw [hsnapshot]; rfl
    acceptedAt := haccepted, deadline := hdeadline, clock := ha.clock, providerKey := hkey, plain := hplain
    fresh := hfresh }

end Acceptable

/-- A message that is accepted for immediate dispatch can be carried to its provider: its request is
leased, published and recorded, and a lane that takes it claims the message and calls `Submit`. -/
theorem Reached.delivers (hr : Reached E h s) (hid : messageID ∈ E.ids)
    (hp : prepareSubmission E.L catalog protector command messageID nonce = .ok p)
    (ha : Acceptable E.L E.ids now s.db p m row) (hq : m.status = .queued)
    (htenant : row.tenantID = p.normalized.tenantID) (hload : row.Loadable)
    (hdeadline : now < row.snapshot.dispatchDeadline) (hvalid : config.valid = true)
    (hmax : config.maxAttempts = E.maxAttempts) (htoken : validateLeaseToken (config.leaseToken run) = .ok ())
    (hcolumn : varchar 255 (config.leaseToken run) ∧ notBtrimEmpty (config.leaseToken run))
    (hdrawn : config.leaseToken run ∉ s.tokens) {i : Nat} (hidle : s.lanes i = .idle)
    {key : String} {attemptID : Uuid} (hkey : validateProviderKey key = .ok ()) (hplain : Plain key)
    (hfresh : attemptID.text ∉ s.db.attemptIDs) {material : DeliveryMaterial}
    (hmaterial : material.validate = .ok ()) :
    ∃ leased d c request s₁ s₂ s₃ s₄ s₅ s₆ s₇ s₈, Reached E ((.callSubmit i c request, s₈) ::
        (.claim i (.started c) true, s₇) :: (.readForClaim i now, s₆) :: (.deliver i d, s₅) ::
        (.record leased .published, s₄) :: (.publish leased (.ack none), s₃) ::
        (.lease now [leased] true, s₂) ::
        (.submit command now ⟨.accepted, (p.record m).pulled⟩, s₁) :: h) s₈ ∧
      (∃ id m', Moved now row.message m' ∧
        c = claimOf ⟨id, p.normalized.tenantID, m.id, m.latestSequence, m.dispatchGeneration⟩ key
          attemptID now row m') ∧
      ∃ r ∈ s₈.db.messages, r.snapshot.id = row.snapshot.id ∧ r.snapshot.status = .sending := by
  have haccepted := Reached.accepts hr hid hp ha
  obtain ⟨d, hpublish, hdispatch, id, hparse⟩ := ha.published hq
  obtain ⟨leased, s₂, s₃, s₄, hrelayed, -, hdb, hlanes, hqueue⟩ :=
    Reached.relays haccepted (ha.leasable hq hvalid htoken hcolumn) hmax hdrawn hpublish now
  have hsound := (Reached.ok hrelayed).sound
  have hmem : row ∈ s₄.db.messages := by
    have hmessages : s₄.db.messages = (acceptedDb E.L now s.db p m row).messages := by rw [hdb]
    rw [hmessages]
    exact mem_acceptedDb
  have hattempts : attemptID.text ∉ s₄.db.attemptIDs := by
    rw [hdb]
    exact hfresh
  have hc := ha.dispatchable hq id hsound htenant hmem hload hdeadline hkey hplain hattempts
  obtain ⟨m', c, request, s₅, s₆, s₇, s₈, hcalled, hstart, rfl, hdone⟩ :=
    Reached.dispatches hrelayed ((congrFun hlanes i).trans hidle) hqueue hdispatch hparse hc hmaterial
  obtain ⟨hmoved, -, hsending, -⟩ := Message.startSending_moved hstart
  refine ⟨leased, d, _, request, _, s₂, s₃, s₄, s₅, s₆, s₇, s₈, hcalled, ⟨id, m', hmoved, rfl⟩,
    updatedRow row m'.toSnapshot, ?_, rfl, hsending⟩
  rw [hdone]
  exact (mem_exchange hmem).2 (.inl rfl)

end Acceptance

end

/-! ## One installation

One tenant and one message, sent at once or later, with any metadata. -/

namespace Sample

def tenant : Uuid := ⟨List.replicate 31 0 ++ [1], rfl⟩
def messageID : Uuid := ⟨List.replicate 31 0 ++ [2], rfl⟩
def attemptID : Uuid := ⟨List.replicate 31 0 ++ [3], rfl⟩

/-- The instants of the run, from the year 1. -/
def now : Time := 63902822400000000000
def later : Time := now + 1800 * second
def deadline : Time := now + 3600 * second

def stamps : List (Time × String) :=
  [(now, "2026-01-01T00:00:00Z"), (later, "2026-01-01T00:30:00Z"), (deadline, "2026-01-01T01:00:00Z")]

/-- The seconds from the zero time to the Unix epoch. -/
def unixEpoch : Nat := 62135596800

def timestampNew (t : Time) : Timestamp := ⟨(t / second : Nat) - unixEpoch, (t % second : Nat)⟩

/-- The years 1 to 9999. -/
def timestampValid (t : Timestamp) : Bool :=
  -62135596800 ≤ t.seconds ∧ t.seconds ≤ 253402300799 ∧ 0 ≤ t.nanos ∧ t.nanos < second

def libs (hash : String → Uuid) : Libs where
  newSHA1 _ := hash
  formatTime t := stamps.lookup t
  parseTime text := (stamps.find? (·.2 = text)).map Prod.fst
  idnaToASCII := some
  languageParse := some
  timestampNew := timestampNew
  timestampValid := timestampValid
  timestampAsTime t := ((t.seconds + unixEpoch) * second + t.nanos).toNat

theorem stores (hash : String → Uuid) : ∀ t ∈ [now, later], (libs hash).Stores t := by
  have hstamps : ∀ t ∈ [now, later], t ≠ 0 ∧ ∃ text ∈ stamps.map Prod.snd, stamps.lookup t = some text ∧
      (stamps.find? (·.2 = text)).map Prod.fst = some t ∧ len text ≤ 64 ∧ Plain text := by decide
  intro t ht
  obtain ⟨hzero, text, -, hformat, hparse, hlen, hplain⟩ := hstamps t ht
  refine ⟨⟨hzero, text, hformat, hparse, hlen⟩, fun other h => ?_⟩
  rw [← Option.some.inj (hformat.symm.trans h)]
  exact hplain

def catalog : SubmissionCatalog where
  authorizeSender _ _ := .ok ()
  resolve request := .ok ⟨request.templateKey, 1, request.locale, request.templateVariables⟩

def protector : Protector where
  keyID := "k1"
  aeadSeal _ _ _ := List.replicate 17 0
  aeadOpen _ _ _ := none
  hmac _ := 0

def command (scheduledAt : Option Time) (metadata : Option StringMap) : SubmitEmailCommand where
  tenantID := tenant.text
  idempotencyKey := "order-1"
  recipientEmail := "ann@example.com"
  recipientDisplayName := "Ann"
  senderIdentityKey := "noreply"
  templateKey := "welcome"
  templateVersion := none
  locale := "en"
  templateVariables := "\x7b\x7d"
  category := .transactional
  priority := 5
  scheduledAt := scheduledAt
  dispatchDeadline := deadline
  duplicateRiskPolicy := .avoidDuplicate
  metadata := metadata

def nonce : Nonce := ⟨List.replicate 12 0, rfl⟩

def prepared (scheduledAt : Option Time) (metadata canonical : String) : PreparedSubmission where
  normalized := command scheduledAt none
  metadata := metadata
  resolved := ⟨"welcome", 1, "en", "\x7b\x7d"⟩
  canonical := canonical
  messageID := messageID.text
  sealedPayload := ⟨"k1", List.replicate 29 0⟩
  fingerprint := 0

/-- When the message is to be sent: at once, or later. -/
def Choice (scheduledAt : Option Time) : Prop := scheduledAt = none ∨ scheduledAt = some later

variable {scheduledAt : Option Time} {metadata : Option StringMap} {text canonical stored : String}

theorem truncated (hs : Choice scheduledAt) :
    truncate deadline = deadline ∧ scheduledAt.map truncate = scheduledAt := by
  have hdeadline : truncate deadline = deadline ∧ truncate later = later := by decide
  rcases hs with rfl | rfl
  · exact ⟨hdeadline.1, rfl⟩
  · exact ⟨hdeadline.1, congrArg some hdeadline.2⟩

theorem normalized (hs : Choice scheduledAt) :
    (command scheduledAt metadata).normalized "ann@example.com" "en" "\x7b\x7d" =
      command scheduledAt none := by
  obtain ⟨hdeadline, hscheduled⟩ := truncated hs
  simp [SubmitEmailCommand.normalized, command, hdeadline, hscheduled]

theorem checked (hash : String → Uuid) (hm : normalizeMetadata metadata = .ok text) :
    (command scheduledAt metadata).Checked (libs hash) "ann@example.com" "en" "\x7b\x7d" text where
  tenantID := isUUID_of_uuidColumn (uuidColumn_text tenant)
  idempotencyKey := by simp only [command]; decide
  recipientEmail := by simp only [command]; rfl
  recipientDisplayName := by simp only [command]; decide
  senderIdentityKey := by simp only [command]; decide
  templateKey := by simp only [command]; decide
  templateVersion := by simp [command]
  locale := ⟨rfl, by simp only [command]; decide, by simp only [command]; decide⟩
  policy := ⟨rfl, by simp only [command]; decide, rfl⟩
  dispatchDeadline := by simp only [command]; decide
  templateVariables := by simp only [command]; rfl
  metadata := hm

theorem sealed_valid : ProtectedPayload.validate ⟨"k1", List.replicate 29 0⟩ = .ok () :=
  check_bind_eq_ok.2 ⟨by decide, check_eq_ok.2 (by decide)⟩

theorem submission_prepared (hash : String → Uuid) (hs : Choice scheduledAt)
    (hm : normalizeMetadata metadata = .ok text) (hobject : isJSONObject text = true) :
    ∃ canonical, prepareSubmission (libs hash) catalog protector
      (command scheduledAt metadata) messageID nonce =
      .ok (prepared scheduledAt text canonical) := by
  obtain ⟨v, hv⟩ : ∃ v, Json.parse text = some v := by
    unfold isJSONObject at hobject
    cases hp : Json.parse text with
    | none => simp [hp] at hobject
    | some v => exact ⟨v, rfl⟩
  have hvariables : resolvedVariables ⟨"welcome", 1, "en", "\x7b\x7d"⟩ = .ok "\x7b\x7d" := rfl
  have hempty : Json.parse "\x7b\x7d" = some (.obj []) := rfl
  have hformat : (libs hash).formatTime (command scheduledAt none).dispatchDeadline =
      some "2026-01-01T01:00:00Z" := by
    change stamps.lookup deadline = _
    decide
  obtain ⟨at', hscheduled⟩ : ∃ text,
      (command scheduledAt none).scheduledAt.mapM (libs hash).formatTime = some text := by
    have hlater : stamps.lookup later = some "2026-01-01T00:30:00Z" := by decide
    rcases hs with rfl | rfl
    · exact ⟨none, rfl⟩
    · exact ⟨some "2026-01-01T00:30:00Z", by simp [command, libs, hlater]⟩
  obtain ⟨members, hcanonical⟩ : ∃ members, canonicalSubmissionPayload (libs hash) (command scheduledAt none)
      ⟨"welcome", 1, "en", "\x7b\x7d"⟩ text = .ok (Json.marshal .go (.obj members)) := by
    rw [canonicalSubmissionPayload, hvariables, ok_bind, hempty, hv, hscheduled, hformat]
    exact ⟨_, rfl⟩
  have htemplate : validateResolvedTemplate (command scheduledAt none)
      ⟨"welcome", 1, "en", "\x7b\x7d"⟩ = .ok () := by
    rw [validateResolvedTemplate, hvariables]
    exact check_bind_eq_ok.2
      ⟨by simp [command], check_bind_eq_ok.2 ⟨by simp [command], check_bind_eq_ok.2 ⟨rfl, rfl⟩⟩⟩
  have hseal : protector.sealPayload nonce ((command scheduledAt metadata).tenantID ++ "/" ++ messageID.text)
      (Json.marshal .go (.obj members)) = .ok ⟨"k1", List.replicate 29 0⟩ := by
    have hdata : (command scheduledAt metadata).tenantID ++ "/" ++ messageID.text ≠ "" := by simp
    have htext : Json.marshal .go (.obj members) ≠ "" := by simp [Json.marshal, Json.render]
    rw [Protector.sealPayload, check_bind ⟨hdata, htext⟩]
    exact unit_bind_eq_ok.2 ⟨sealed_valid, rfl⟩
  exact ⟨_, prepareSubmission_eq_ok.2
    ⟨_, _, _, checked hash hm, (normalized hs).symm, rfl, rfl, htemplate, hcanonical,
    rfl, hseal, sealed_valid, rfl⟩⟩

theorem storable (hs : Choice scheduledAt) (hlen : len text ≠ 0 ∧ len text ≤ 4 * 1024)
    (hobject : isJSONObject text = true) (hstored : jsonbColumn text = some stored) :
    (prepared scheduledAt text canonical).Storable tenant.text stored where
  tenantID := ⟨isUUID_of_uuidColumn (uuidColumn_text tenant), uuidColumn_text tenant⟩
  idempotencyKey := by simp only [prepared, command]; decide
  policy := ⟨rfl, by simp only [prepared, command]; decide, rfl⟩
  dispatchDeadline := (truncated hs).1
  scheduledAt := (truncated hs).2
  details := by
    have hparse : (Json.parse text).isSome = true := by
      unfold isJSONObject at hobject
      cases hp : Json.parse text with
      | none => simp [hp] at hobject
      | some v => rfl
    have hsender : notBlankWithin "noreply" 64 ∧ notBlankWithin "welcome" 128 ∧
        notBlankWithin "en" 35 := by decide
    have hrecipient : notBlankWithin (maskEmail "ann@example.com") 254 ∧ notBlankWithin "k1" 128 := by decide
    simp only [SubmissionDetails.validate, check_bind_eq_ok, check_eq_ok]
    exact ⟨hsender.1, hsender.2.1, Nat.one_ne_zero, hsender.2.2, hrecipient.1, hrecipient.2, le_rfl,
      ⟨hlen.1, hlen.2, hparse⟩, hobject⟩
  metadata := hstored
  columns := by
    have hsender : (notBtrimEmpty "noreply" ∧ varchar 64 "noreply") ∧ notBtrimEmpty "welcome" ∧
        varchar 128 "welcome" := by
      decide
    have hrecipient : (notBtrimEmpty "en" ∧ varchar 35 "en") ∧ (notBtrimEmpty (maskEmail "ann@example.com") ∧
        varchar 254 (maskEmail "ann@example.com")) ∧ notBtrimEmpty "k1" ∧ varchar 128 "k1" := by decide
    have hversion : 0 < 1 ∧ 1 ≤ maxInt32 := by decide
    exact ⟨hsender.1, hsender.2, hversion, hrecipient.1, hrecipient.2.1, hrecipient.2.2, le_rfl,
      isJSONObject_jsonbColumn hstored hobject⟩

/-! ### The run -/

def env (hash : String → Uuid) : Env := ⟨libs hash, 3, {messageID}⟩

def start : System := ⟨⟨[⟨tenant.text, .active⟩], [], [], [], []⟩, fun _ => .idle, [], [], [], []⟩

theorem reached_start (hash : String → Uuid) : Reached (env hash) [] start :=
  .start ⟨⟨_, rfl⟩, rfl, rfl, rfl, rfl, rfl⟩

theorem acceptable {hash : String → Uuid} (hc : Set.InjOn hash (eventIdentities {messageID}))
    (hs : Choice scheduledAt) (hlen : len text ≠ 0 ∧ len text ≤ 4 * 1024)
    (hobject : isJSONObject text = true) (hstored : jsonbColumn text = some stored) :
    Acceptable (libs hash) {messageID} now start.db (prepared scheduledAt text canonical)
      (routedMessage (submissionParams (prepared scheduledAt text canonical) now))
      ((prepared scheduledAt text canonical).newRow
        (routedMessage (submissionParams (prepared scheduledAt text canonical) now)) tenant.text stored) := by
  have htimes : ∀ t ∈ [none, some later], validateSubmissionTimes now t deadline = .ok () := by decide
  refine (storable hs hlen hobject hstored).acceptable (Reached.ok (reached_start hash)).sound hc
    ⟨messageID, rfl, rfl⟩ ?_ ⟨_, List.mem_singleton.2 rfl, rfl⟩ rfl (List.not_mem_nil)
      (stores hash now (by simp))
  rcases hs with rfl | rfl
  · exact htimes none (by simp)
  · exact htimes (some later) (by simp)

/-- The message is accepted. -/
theorem exists_accepted (hs : Choice scheduledAt) (hm : normalizeMetadata metadata = .ok text)
    (hlen : len text ≠ 0 ∧ len text ≤ 4 * 1024) (hobject : isJSONObject text = true)
    (hstored : jsonbColumn text = some stored) : ∃ hash canonical m row,
      (libs hash).CollisionFree {messageID} ∧
      m = routedMessage (submissionParams (prepared scheduledAt text canonical) now) ∧
      row = (prepared scheduledAt text canonical).newRow m tenant.text stored ∧
      prepareSubmission (libs hash) catalog protector (command scheduledAt metadata) messageID nonce =
        .ok (prepared scheduledAt text canonical) ∧
      Acceptable (libs hash) {messageID} now start.db (prepared scheduledAt text canonical) m row := by
  obtain ⟨hash, hc⟩ := exists_collisionFree messageID
  obtain ⟨canonical, hp⟩ := submission_prepared hash hs hm hobject
  exact ⟨hash, canonical, _, _, hc, rfl, rfl, hp, acceptable hc hs hlen hobject hstored⟩

def relay : OutboxRelayConfig := ⟨"relay", 10, 1, 60 * second, 10 * second, 3⟩

def material : DeliveryMaterial := ⟨"noreply@example.com", "ann@example.com", "Subject: Welcome\r\n\r\nHello"⟩

theorem material_valid : material.validate = .ok () := by
  have haddresses : validBareEmailAddress material.envelopeFrom = true ∧
      validBareEmailAddress material.envelopeTo = true := by
    decide
  have hlen : len material.mimeMessage ≠ 0 ∧ len material.mimeMessage ≤ 2 * 1024 * 1024 := by decide
  have hblank : "\r\n\r\n".toList <:+: material.mimeMessage.toList :=
    ⟨"Subject: Welcome".toList, "Hello".toList, by decide⟩
  simp only [DeliveryMaterial.validate, check_bind_eq_ok, check_eq_ok]
  exact ⟨haddresses, hlen, hblank⟩

theorem metadata_empty :
    normalizeMetadata none = .ok "\x7b\x7d" ∧ (len "\x7b\x7d" ≠ 0 ∧ len "\x7b\x7d" ≤ 4 * 1024) ∧
    isJSONObject "\x7b\x7d" = true ∧ jsonbColumn "\x7b\x7d" = some "\x7b\x7d" :=
  ⟨rfl, by decide, rfl, rfl⟩

/-- What was accepted at the start for immediate dispatch is relayed and claimed, and its provider
is called. -/
theorem delivered {E : Env} {catalog : SubmissionCatalog} {protector : Protector} {c : SubmitEmailCommand}
    {p : PreparedSubmission} {m : Message} {row : MessageRow} (hr : Reached E [] start)
    (hid : messageID ∈ E.ids) (hmax : E.maxAttempts = 3)
    (hp : prepareSubmission E.L catalog protector c messageID nonce = .ok p)
    (ha : Acceptable E.L E.ids now start.db p m row) (hq : m.status = .queued)
    (htenant : row.tenantID = p.normalized.tenantID) (hload : row.Loadable)
    (hdeadline : now < row.snapshot.dispatchDeadline) :
    ∃ leased d claimed request s₁ s₂ s₃ s₄ s₅ s₆ s₇ s₈, Reached E ((.callSubmit 0 claimed request, s₈) ::
        (.claim 0 (.started claimed) true, s₇) :: (.readForClaim 0 now, s₆) :: (.deliver 0 d, s₅) ::
        (.record leased .published, s₄) :: (.publish leased (.ack none), s₃) ::
        (.lease now [leased] true, s₂) :: [(.submit c now ⟨.accepted, (p.record m).pulled⟩, s₁)]) s₈ ∧
      (∃ id m', Moved now row.message m' ∧ claimed =
        claimOf ⟨id, p.normalized.tenantID, m.id, m.latestSequence, m.dispatchGeneration⟩ "smtp"
          attemptID now row m') ∧
      ∃ r ∈ s₈.db.messages, r.snapshot.id = row.snapshot.id ∧ r.snapshot.status = .sending := by
  have hvalid : relay.valid = true := by decide
  have htoken : trimmedWithin (relay.leaseToken attemptID) 255 ∧
      containsAny (relay.leaseToken attemptID) ['\r', '\n'] = false := by decide
  have hcolumn : varchar 255 (relay.leaseToken attemptID) ∧
      notBtrimEmpty (relay.leaseToken attemptID) := by decide
  have hprovider : (trimmedWithin "smtp" 128 ∧ containsAny "smtp" ['\r', '\n'] = false) ∧
      Plain "smtp" := by decide
  exact Reached.delivers hr hid hp ha hq htenant hload hdeadline hvalid hmax.symm
    (check_eq_ok.2 htoken) hcolumn List.not_mem_nil rfl
    (check_eq_ok.2 hprovider.1) hprovider.2 List.not_mem_nil material_valid

/-- The message is accepted, relayed and claimed, and its provider is called. -/
theorem exists_delivered :
    ∃ hash leased d c request result s₁ s₂ s₃ s₄ s₅ s₆ s₇ s₈, (libs hash).CollisionFree {messageID} ∧
    Reached (env hash) ((.callSubmit 0 c request, s₈) :: (.claim 0 (.started c) true, s₇) ::
      (.readForClaim 0 now, s₆) :: (.deliver 0 d, s₅) :: (.record leased .published, s₄) ::
      (.publish leased (.ack none), s₃) :: (.lease now [leased] true, s₂) ::
      [(.submit (command none none) now result, s₁)]) s₈ ∧
    (c.command.tenantID = tenant.text ∧ c.attempt.startedAt = now) ∧
    ∃ r ∈ s₈.db.messages, r.snapshot.id = c.record.message.id ∧ r.snapshot.status = .sending := by
  obtain ⟨hm, hlen, hobject, hstored⟩ := metadata_empty
  obtain ⟨hash, canonical, m, row, hc, rfl, rfl, hp, ha⟩ := exists_accepted (.inl rfl) hm hlen hobject hstored
  have hprecise : truncate now = now := by decide
  have hload := (Reached.loadable_iff (Reached.accepts (reached_start hash) rfl hp ha)
    (fun _ t _ _ hmem => by rcases List.mem_singleton.1 hmem with ⟨rfl, rfl⟩; exact hprecise)
    mem_acceptedDb).2 fun d hd => by
      rw [← Option.mem_some_iff.1 hd]
      exact hlen.2
  have hdeadline : now < truncate deadline := by decide
  obtain ⟨leased, d, c, request, s₁, s₂, s₃, s₄, s₅, s₆, s₇, s₈, hr, ⟨id, m', hmoved, hclaimed⟩, r,
      hmem, hrid, hsending⟩ :=
    delivered (reached_start hash) rfl rfl hp ha rfl rfl hload hdeadline
  have hid : c.record.message.id = m'.id := by rw [hclaimed]; rfl
  refine ⟨hash, leased, d, c, request, _, s₁, s₂, s₃, s₄, s₅, s₆, s₇, s₈, hc, hr, ?_, r, hmem,
    hrid.trans (hid.trans hmoved.id).symm, hsending⟩
  rw [hclaimed]
  exact ⟨rfl, rfl⟩

theorem exists_called : ∃ hash h s leased c request s₁ s₂, (libs hash).CollisionFree {messageID} ∧
    Reached (env hash) h s ∧ (.callSubmit 0 c request, s₁) ∈ h ∧ (.record leased .published, s₂) ∈ h ∧
    ∃ r ∈ s.db.messages, r.snapshot.id = c.record.message.id ∧ r.snapshot.status = .sending := by
  obtain ⟨hash, leased, d, c, request, result, s₁, s₂, s₃, s₄, s₅, s₆, s₇, s₈, hc, hr, -, hsending⟩ :=
    exists_delivered
  exact ⟨hash, _, s₈, leased, c, request, s₈, s₄, hc, hr, by simp, by simp, hsending⟩

end Sample

end MailService
