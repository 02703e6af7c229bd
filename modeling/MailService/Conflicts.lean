import MailService.Dispatching
/-!
# Appends do not conflict

The events of a transaction have new identities and hence new ids, so that an
append finds neither its identity nor its id taken.
-/
open Text Checks Table

namespace MailService

open Db

variable {L : Libs} {ids : Set Uuid} {db db' read : Db} {now : Time} {r : MessageRow} {m : Message}

/-! ## Steps before the appends -/

theorem mapMessageEvent_conflictFree (record : MessageRecord) (e : Event) :
    ConflictFree (mapMessageEvent L record e) := by
  unfold mapMessageEvent
  iterate 3 refine Fails.bind (by simp [Error.isConflict]) fun _ _ => ?_
  split
  · simp [Error.isConflict]
  · exact Fails.bind (fails_mapError.2 fun _ _ => rfl) fun _ _ => fails_pure

theorem mapDeliveryEvent_conflictFree (record : MessageRecord) (e : Event) (id : String) :
    ConflictFree (mapDeliveryEvent record e id) := by
  unfold mapDeliveryEvent
  split
  · exact fails_pure
  · exact Fails.bind (fails_mapError.2 fun _ _ => rfl) fun _ _ => fails_pure

theorem mapAllMessageEvents_conflictFree (record : MessageRecord) (events : List Event) :
    ConflictFree (mapAllMessageEvents L record events) := by
  unfold mapAllMessageEvents
  split
  · simp [Error.isConflict]
  · rename_i hne
    clear hne
    induction events with
    | nil => exact fails_pure
    | cons e events ih =>
      unfold mapEvents
      refine Fails.bind (mapMessageEvent_conflictFree record e) fun _ _ => ?_
      refine Fails.bind (mapDeliveryEvent_conflictFree record e _) fun _ _ => ?_
      exact Fails.bind ih fun _ _ => fails_pure

theorem databaseCounters_conflictFree (s : Snapshot) : ConflictFree (databaseCounters s) := by
  unfold databaseCounters
  simp [Error.isConflict]

theorem scanMessageRecord_conflictFree (r : MessageRow) : ConflictFree (scanMessageRecord r) :=
  (scanMessageRecord_corrupt r).mono fun _ ⟨_, he⟩ => by rw [he]; rfl

theorem scanFound_conflictFree (r : Option MessageRow) : ConflictFree (scanFound r) := by
  cases r with
  | none => simp [scanFound, Error.isConflict]
  | some r => exact scanMessageRecord_conflictFree r

theorem getByID_conflictFree (db : Db) (id : String) : ConflictFree (db.getByID id) := by
  unfold getByID
  refine Fails.bind (by simp [Error.isConflict]) fun _ _ => ?_
  split
  · simp [Error.isConflict]
  · exact scanFound_conflictFree _

theorem save_conflictFree (db : Db) (m : Message) : ConflictFree (db.save m) := by
  unfold save
  iterate 2 refine Fails.bind (by simp [Error.isConflict]) fun _ _ => ?_
  refine Fails.bind (databaseCounters_conflictFree _) fun _ _ => ?_
  split
  · simp [Error.isConflict]
  split
  · simp [Error.isConflict]
  · exact Fails.bind (by simp [Error.isConflict]) fun _ _ => fails_pure

theorem createStarted_conflictFree (db : Db) (attempt : StartedDeliveryAttempt) :
    ConflictFree (db.createStarted attempt) := by
  unfold createStarted
  refine Fails.bind ?_ fun _ _ => ?_
  · unfold StartedDeliveryAttempt.validate validateProviderKey
    iterate 5 refine Fails.bind (by simp [Error.isConflict]) fun _ _ => ?_
    simp [Error.isConflict]
  split
  · iterate 3 refine Fails.bind (by simp [Error.isConflict]) fun _ _ => ?_
    exact fails_pure
  · simp [Error.isConflict]

theorem onlyFailure_conflictFree {providerMessageID : String} {failure : Option Failure} {e : Error}
    (he : e.isConflict = false) : ConflictFree (onlyFailure providerMessageID failure e) := by
  unfold onlyFailure
  split <;> simp [he]

theorem complete_conflictFree (db : Db) (completion : CompleteDeliveryAttempt) :
    ConflictFree (db.complete completion) := by
  unfold complete
  refine Fails.bind ?_ fun _ _ => ?_
  · unfold CompleteDeliveryAttempt.validate
    iterate 3 refine Fails.bind (by simp [Error.isConflict]) fun _ _ => ?_
    cases completion.status with
    | providerAccepted => exact Fails.bind (by simp [Error.isConflict]) fun _ _ => by simp [Error.isConflict]
    | failed | submissionUnknown =>
      refine Fails.bind (onlyFailure_conflictFree rfl) fun _ _ => ?_
      exact Fails.bind (fails_mapError.2 fun _ _ => rfl) fun _ _ => by simp [Error.isConflict]
    | started => exact fails_pure
  split
  · simp [Error.isConflict]
  split
  · simp [Error.isConflict]
  · exact Fails.bind (by simp [Error.isConflict]) fun _ _ => fails_pure

/-! ## Moves -/

/-- The appends of a transaction that moved messages of a sound state. -/
theorem Moves.conflictFree {moves : List (MessageRow × Message)} {db₂ : Db} (h : Moves now db moves)
    (hs : Sound L ids db) (hc : L.CollisionFree ids) (he : db₂.events = db.events)
    (ho : db₂.outbox = db.outbox) :
    ConflictFree (do
      let db₃ ← db₂.appendDeliveryEvents (moves.flatMap (deliveriesOf L))
      db₃.appendOutbox now (moves.flatMap (outboxEventsOf L))) := by
  have hk := hs.keyed
  refine Fails.bind (h.appendDeliveryEvents_conflictFree hk he) fun db₃ h₃ => ?_
  obtain ⟨rfl, -⟩ := appendDeliveryEvents_eq_ok (h.eventRow_of_mem hk)
    (by rw [Moves.map_stored, he]; exact h.fresh_journal hk) h₃
  have hfresh := h.fresh_outbox (L := L) hk
  refine appendOutbox_conflictFree (h.canonicalIDs_of_mem hk)
    (by rw [Moves.map_storedOutbox]; exact ho ▸ hfresh) ?_
  rw [Moves.map_storedOutbox]
  exact fresh_ids hc (fun o hmem => hs.known (ho ▸ hmem)) (h.known hs) (ho ▸ hfresh)

/-- The appends after a save that found the row it was decided on. -/
theorem append_conflictFree {mapped : MappedMessageEvents} {db₁ db₂ : Db} (hs : Sound L ids db)
    (hc : L.CollisionFree ids) (hl : read.Later db) (hr : r ∈ read.messages) (hm : Moved now r.message m)
    (hmap : mapAllMessageEvents L (r.record.withMessage m) m.pendingEvents = .ok mapped)
    (h₁ : db.save m = .ok db₁) (he : db₂.events = db₁.events) (ho : db₂.outbox = db₁.outbox) :
    ConflictFree (do
      let db₃ ← db₂.appendDeliveryEvents mapped.delivery
      db₃.appendOutbox now mapped.outbox) := by
  obtain ⟨hmem, -, rfl⟩ := save_read hs.keyed hl hr hm h₁
  obtain rfl := mapAllMessageEvents_move hmap
  exact (Moves.single hmem hm).conflictFree hs hc he ho

/-! ## Transactions -/

section Transactions

variable {command : DispatchCommand} {providerKey : String} {attemptID : Uuid} {c : DispatchClaim}
  {result : ProviderResult} {delay : Int}

theorem claim_conflictFree (hs : Sound L ids db) (hc : L.CollisionFree ids) (hl : read.Later db) :
    ConflictFree (claim L providerKey attemptID command read now db) := by
  unfold claim
  refine Fails.bind ?_ fun record hload => Fails.bind (by simp [Error.isConflict]) fun _ _ => ?_
  · unfold loadForClaim
    split
    · simp [Error.isConflict]
    · exact getByID_conflictFree read command.messageID
  obtain ⟨r, hr, hid, -, rfl⟩ := getByID_eq_ok (loadForClaim_eq_ok hload)
  split
  · exact fails_pure
  split
  · simp [Error.isConflict]
  split
  · exact fails_pure
  split
  · unfold expireClaimed saveMessageWithOutbox
    split
    · rename_i m hexp
      refine Fails.bind ?_ fun _ _ => fails_pure
      refine Fails.bind (mapAllMessageEvents_conflictFree _ _) fun mapped hmap => ?_
      refine Fails.bind (save_conflictFree _ _) fun db₁ h₁ => ?_
      exact append_conflictFree hs hc hl hr (Message.expire_moved hexp).1 hmap h₁ rfl rfl
    · simp [Error.isConflict]
  · unfold startClaimed saveMessageWithOutboxAndAttempt
    split
    · simp [Error.isConflict]
    · rename_i m hst
      refine Fails.bind (fails_mapError.2 fun _ _ => rfl) fun _ _ => ?_
      refine Fails.bind ?_ fun _ _ => fails_pure
      refine Fails.bind (mapAllMessageEvents_conflictFree _ _) fun mapped hmap => ?_
      refine Fails.bind (save_conflictFree _ _) fun db₁ h₁ => ?_
      refine Fails.bind (createStarted_conflictFree _ _) fun db₂ h₂ => ?_
      obtain ⟨he, ho⟩ := createStarted_frame h₂
      exact append_conflictFree hs hc hl hr (Message.startSending_moved hst).1 hmap h₁ he ho

theorem finalize_conflictFree (hs : Sound L ids db) (hc : L.CollisionFree ids) (hl : read.Later db) :
    ConflictFree (finalize L c result delay read now db) := by
  unfold finalize
  refine Fails.bind (getByID_conflictFree _ _) fun record hget =>
    Fails.bind (by simp [Error.isConflict]) fun _ _ => ?_
  obtain ⟨r, hr, -, -, rfl⟩ := getByID_eq_ok hget
  split
  · exact fails_pure
  · rename_i hsend
    refine Fails.bind (fails_mapError.2 fun _ _ => rfl) fun applied happly => ?_
    obtain ⟨m, completion, disposition⟩ := applied
    obtain ⟨hm, -⟩ := applyProviderResult_settled (not_not.1 hsend) (mapError_ok_iff.1 happly)
    refine Fails.bind (mapAllMessageEvents_conflictFree _ _) fun mapped hmap => ?_
    refine Fails.bind (save_conflictFree _ _) fun db₁ h₁ => ?_
    refine Fails.bind (complete_conflictFree _ _) fun db₂ h₂ => ?_
    obtain ⟨he, ho⟩ : db₂.events = db₁.events ∧ db₂.outbox = db₁.outbox := by
      obtain ⟨-, -, rfl⟩ := save_read hs.keyed hl hr hm h₁
      obtain ⟨x, -, -, -, -, rfl⟩ := complete_eq_ok (by exact hs.keyed.attemptIDs) h₂
      exact ⟨rfl, rfl⟩
    obtain ⟨hd, ho⟩ := fails_bind.1 (append_conflictFree hs hc hl hr hm hmap h₁ he ho)
    exact Fails.bind hd fun db₃ h₃ => Fails.bind (ho db₃ h₃) fun _ _ => fails_pure

theorem advanceBatch_conflictFree (records : List MessageRecord) :
    ConflictFree (advanceBatch L now db records) := by
  induction records generalizing db with
  | nil => exact fails_pure
  | cons record records ih =>
    unfold advanceBatch
    refine Fails.bind ?_ fun _ _ => ?_
    · unfold advanceDue
      repeat' split
      all_goals simp [Error.isConflict]
    refine Fails.bind (mapAllMessageEvents_conflictFree _ _) fun _ _ => ?_
    exact Fails.bind (save_conflictFree _ _) fun _ _ => Fails.bind ih fun _ _ => fails_pure

theorem runOnce_conflictFree {batchSize : Nat} {locked : String → Bool} (hs : Sound L ids db)
    (hc : L.CollisionFree ids) : ConflictFree (runOnce L batchSize locked now db) := by
  have hk := hs.keyed
  unfold runOnce
  refine Fails.bind ?_ fun batch hbatch => ?_
  · unfold lockDue
    refine Fails.bind (by simp [Error.isConflict]) fun _ _ => ?_
    refine Fails.bind (fails_mapM fun r => scanMessageRecord_conflictFree r) fun _ _ => ?_
    exact Fails.bind (by simp [Error.isConflict]) fun _ _ => fails_pure
  split
  · exact fails_pure
  · refine Fails.bind (by simp [Error.isConflict]) fun _ _ => ?_
    refine Fails.bind (advanceBatch_conflictFree _) fun advanced h₁ => ?_
    obtain ⟨db₁, mapped, _⟩ := advanced
    simp only [lockDue, bind_eq_ok, pure_eq_ok] at hbatch
    obtain ⟨_, -, records, hscan, _, -, rfl⟩ := hbatch
    obtain ⟨moves, hmoves, -, hdb, rfl⟩ := batch_moves hk hscan h₁
    obtain ⟨he, ho⟩ : db₁.events = db.events ∧ db₁.outbox = db.outbox := by
      rw [hdb]
      exact ⟨rfl, rfl⟩
    obtain ⟨hd, ho⟩ := fails_bind.1 (hmoves.conflictFree hs hc he ho)
    exact Fails.bind hd fun db₃ h₃ => Fails.bind (ho db₃ h₃) fun _ _ => fails_pure

/-! ## Submissions -/

variable {p : PreparedSubmission}

theorem submissionRecord_conflictFree : ConflictFree (submissionRecord p now) := by
  unfold submissionRecord
  refine Fails.bind ?_ fun _ _ => Fails.bind (fails_mapError.2 fun _ _ => rfl) fun _ _ => fails_pure
  unfold validateSubmissionTimes
  refine Fails.bind (by simp [Error.isConflict]) fun _ _ => ?_
  split
  · exact fails_pure
  · exact Fails.bind (by simp [Error.isConflict]) fun _ _ => by simp [Error.isConflict]

theorem SubmissionDetails.validate_conflictFree (d : SubmissionDetails) : ConflictFree d.validate := by
  unfold SubmissionDetails.validate
  iterate 8 refine Fails.bind (by simp [Error.isConflict]) fun _ _ => ?_
  simp [Error.isConflict]

theorem create_conflictFree (db : Db) (record : MessageRecord) : ConflictFree (db.create record) := by
  unfold create
  refine Fails.bind ?_ fun _ _ => Fails.bind (databaseCounters_conflictFree _) fun _ _ => ?_
  · unfold MessageRecord.validateForCreate MessageRecord.validate
    refine Fails.bind ?_ fun _ _ => by simp [Error.isConflict]
    iterate 5 refine Fails.bind (by simp [Error.isConflict]) fun _ _ => ?_
    split
    · exact Fails.bind (SubmissionDetails.validate_conflictFree _) fun _ _ => by simp [Error.isConflict]
    · simp [Error.isConflict]
  refine Fails.bind ?_ fun inserted _ => ?_
  · unfold insertMessage
    repeat' split
    all_goals simp [Error.isConflict]
  cases inserted with
  | some db₁ => exact fails_pure
  | none =>
    refine Fails.bind (Fails.bind ?_ fun _ _ => ?_) fun _ _ => fails_pure
    · unfold getByIdempotencyKey
      iterate 2 refine Fails.bind (by simp [Error.isConflict]) fun _ _ => ?_
      split
      · simp [Error.isConflict]
      · exact scanFound_conflictFree _
    · exact Fails.bind (by simp [Error.isConflict]) fun _ _ => fails_pure

theorem submitTransaction_conflictFree (hs : Sound L ids db) (hc : L.CollisionFree ids)
    (hdrawn : ∃ u ∈ ids, p.messageID = u.text) : ConflictFree (submitTransaction L p now db) := by
  have hk := hs.keyed
  have hid : uuidColumn p.messageID = some p.messageID := by
    obtain ⟨u, -, hu⟩ := hdrawn
    rw [hu]
    exact uuidColumn_text u
  unfold submitTransaction
  refine Fails.bind submissionRecord_conflictFree fun record hrecord => ?_
  refine Fails.bind (create_conflictFree _ _) fun ⟨db₁, persisted⟩ hcreate => ?_
  obtain ⟨-, m, hnew, rfl⟩ := submissionRecord_eq_ok.1 hrecord
  rcases create_eq_ok hcreate with ⟨rfl, row, hrow, -, -, -, hfresh, -, rfl⟩ | ⟨-, _, _, -, -, -, -, rfl⟩
  · refine Fails.bind (mapAllMessageEvents_conflictFree _ _) fun mapped hmap => ?_
    obtain rfl := mapAllMessageEvents_eq_ok hmap
    obtain ⟨hm, -⟩ := Message.new_moved hnew
    obtain ⟨hrid, htenant, -⟩ := createRow_eq_some hrow
    have hfresh' : (submissionParams p now).id ∉ db.messageIDs := by
      have hmid : m.id = p.messageID := hm.id
      change uuidColumn m.id = _ at hrid
      rw [hmid, hid] at hrid
      rw [← Option.some.inj hrid] at hfresh
      exact hfresh
    have hcanon : uuidColumn (submissionParams p now).id = some (submissionParams p now).id := hid
    have hout : Fresh (·.event.identity) db.outbox (outboxRows L now (p.record m).tenantID m.pendingEvents) :=
      fresh_createdOutbox hk hfresh' hm
    have hjournal : Fresh journalKey db.events
        (journalRows L row.tenantID (p.record m).idempotencyKey m.pendingEvents) :=
      fresh_createdJournal hk hfresh' hm
    refine Fails.bind (Db.appendDeliveryEvents_conflictFree
      (created_eventRow htenant hcanon hm) (fun _ _ => rfl) (by rw [created_journal]; exact hjournal))
      fun db₂ h₂ => ?_
    obtain ⟨rfl, -⟩ := appendDeliveryEvents_eq_ok (created_eventRow htenant hcanon hm)
      (by rw [created_journal]; exact hjournal) h₂
    refine Fails.bind (appendOutbox_conflictFree (created_canonicalIDs hcanon hm)
      (by rw [created_outbox]; exact hout) ?_) fun _ _ => fails_pure
    rw [created_outbox]
    have hmax : (submissionParams p now).maxAttempts ≠ 0 ∧ (submissionParams p now).maxAttempts ≤ 10 :=
      ⟨(maxAttemptsFor_bounds _).1.ne', (maxAttemptsFor_bounds _).2⟩
    exact fresh_ids hc (fun o ho => hs.known ho) (known_created hm hdrawn hmax) hout
  · exact fails_pure

end Transactions

/-! ## The running service -/

/-- Everything that runs from here commits or fails without a conflict: no append of a
submission, a scheduler run, a claim or a second transaction finds its place taken. -/
structure System.NoConflict (E : Env) (s : System) : Prop where
  submit : ∀ {catalog protector command messageID nonce p} (now : Time), messageID ∈ E.ids →
    prepareSubmission E.L catalog protector command messageID nonce = .ok p →
      ConflictFree (submitTransaction E.L p now s.db)
  schedule : ∀ batchSize locked now, ConflictFree (runOnce E.L batchSize locked now s.db)
  claim : ∀ {i d command read now} (providerKey : String) (attemptID : Uuid),
    s.lanes i = .holds d (.claiming command read now) →
      ConflictFree (MailService.claim E.L providerKey attemptID command read now s.db)
  finalize : ∀ {i d c result read now} (delay : Int), s.lanes i = .holds d (.finalizing c result read now) →
    ConflictFree (MailService.finalize E.L c result delay read now s.db)

variable {E : Env} {s : System}

theorem System.Ok.noConflict (hs : s.Ok E) (hc : E.L.CollisionFree E.ids) : s.NoConflict E where
  submit _ hid hp := submitTransaction_conflictFree hs.sound hc ⟨_, hid, prepareSubmission_messageID hp⟩
  schedule _ _ _ := runOnce_conflictFree hs.sound hc
  claim _ _ hlane := claim_conflictFree hs.sound hc (hs.lanes _ _ _ hlane).2
  finalize _ hlane := finalize_conflictFree hs.sound hc (hs.lanes _ _ _ hlane).2.1

/-- The message, its journal and its outbox events agree in every reached state, and
nothing that runs from one reports a conflict. -/
theorem journal_outbox_in_step {h : History} (hc : E.L.CollisionFree E.ids) (hr : Reached E h s) :
    (∀ r ∈ s.db.messages, InStep (s.db.journal r.snapshot.id) (s.db.outboxEvents r.snapshot.id) r.snapshot) ∧
      s.NoConflict E := by
  have hok := Reached.ok hr
  exact ⟨fun r hmem => (hok.sound.rows r hmem).inStep, hok.noConflict hc⟩

/-- A message is accepted, relayed and claimed: its journal and its outbox follow it. -/
theorem journal_outbox_in_step_called : ∃ E h s, E.L.CollisionFree E.ids ∧ Reached E h s ∧ s.NoConflict E ∧
    ∃ r ∈ s.db.messages, r.snapshot.status = .sending ∧
      InStep (s.db.journal r.snapshot.id) (s.db.outboxEvents r.snapshot.id) r.snapshot := by
  obtain ⟨hash, h, s, leased, c, request, s₁, s₂, hc, hr, -, -, r, hmem, -, hsending⟩ := Sample.exists_called
  obtain ⟨hrows, hnone⟩ := journal_outbox_in_step (E := Sample.env hash) hc hr
  exact ⟨Sample.env hash, h, s, hc, hr, hnone, r, hmem, hsending, hrows r hmem⟩

end MailService
