import MailService.AtMostOnce
import MailService.Backoff
import MailService.Requests
/-!
# Every command and every result can be processed

A dispatch command that was emitted finds its message QUEUED at its sequence, or past it. A
claim then starts an attempt, expires the message, is stale, or meets a storage error. A result
of the attempt finds the message as the claim left it, and no check between the provider and the
tables refuses it: only PostgreSQL does, if a text of the result holds U+0000.
-/
open Text Checks Table Runs

namespace MailService

open Db

/-! ## Claiming -/

/-- The errors with which storage refuses or a concurrent transaction interferes. -/
def Error.isStorage : Error → Bool
  | .corruptMessageRecord _ | .concurrentUpdate | .messageRepository _ | .deliveryAttemptConflict
  | .deliveryAttemptRepository _ => true
  | _ => false

/-- How a claim of an emitted command ends. -/
inductive ClaimEnds : Except Error (Db × ClaimOutcome) → Prop
  | started {db c} : ClaimEnds (.ok (db, .started c))
  | expired {db} : ClaimEnds (.ok (db, .resolved { disposition := .expired }))
  | stale {db} : ClaimEnds (.ok (db, .resolved { disposition := .stale }))
  | failed {e} (storage : e.isStorage = true) : ClaimEnds (.error e)

/-- The command was read from a copy of a dispatch request in the outbox, and spells its tenant as
it is loaded. -/
structure DispatchCommand.EmittedFor (command : DispatchCommand) (L : Libs) (db : Db) (r : MessageRow) :
    Prop where
  published : ∃ o ∈ db.outbox, ∃ d, CopyOf o.event d ∧ parseDispatchDelivery L .default d = .ok command
  messageID : r.snapshot.id = command.messageID
  tenantID : r.tenantID = command.tenantID

section Claim

variable {L : Libs} {ids : Set Uuid} {read db : Db} {now : Time} {r : MessageRow} {m : Message}
  {command : DispatchCommand}
  {providerKey : String} {attemptID : Uuid}

/-- The message is at the command, or past it. -/
theorem DispatchCommand.EmittedFor.position (he : command.EmittedFor L read r) (hs : Sound L ids read)
    (hmem : r ∈ read.messages) :
    (command.dispatchGeneration < r.snapshot.dispatchGeneration ∨
      command.aggregateSequence < r.snapshot.latestSequence) ∨
      r.snapshot.status = .queued ∧ command.dispatchGeneration = r.snapshot.dispatchGeneration ∧
        command.aggregateSequence = r.snapshot.latestSequence := by
  obtain ⟨o, ho, d, hcopy, hparse⟩ := he.published
  obtain ⟨hid, hgeneration, hsequence⟩ := parseDispatchDelivery_copy hcopy hparse
  have hmessage : o.event.aggregateID = r.snapshot.id := hid.symm.trans he.messageID.symm
  have hdispatch : o.event.isDispatch = true := by
    obtain ⟨routingKey, attemptNumber, -, rfl⟩ := hcopy
    obtain ⟨envelope, hp⟩ := parseDispatchDelivery_eq_ok.1 hparse
    exact decide_eq_true hp.properties.2.2.1
  have hevent : o.event ∈ read.outboxEvents r.snapshot.id :=
    List.mem_filter.2 ⟨List.mem_map_of_mem ho, decide_eq_true hmessage⟩
  obtain ⟨x, hx, hxid, hbehind, -⟩ := hs.keyed.outbox o ho
  obtain rfl : x = r := List.inj_on_of_nodup_map hs.keyed.ids hx hmem (hxid.trans hmessage)
  by_cases hlatest : o.event.aggregateSequence = x.snapshot.latestSequence
  · obtain ⟨hqueued, hcurrent⟩ := (hs.rows x hmem).inStep.at_request hevent hdispatch hlatest
    exact .inr ⟨hqueued, hgeneration.trans hcurrent, hsequence.trans hlatest⟩
  · exact .inl (.inr (by omega))

/-- What becomes of a transaction that writes a move of the row it read: it commits, or the row has
changed. -/
theorem Writable.ends (hw : Writable L ids now read r m) (hl : read.Later db) (hs : Sound L ids db) :
    saveMessageWithOutbox L now db (r.record.withMessage m) = .ok (applyMove L now db (r, m)) ∨
      saveMessageWithOutbox L now db (r.record.withMessage m) = .error .concurrentUpdate := by
  by_cases hmem : r ∈ db.messages
  · have hw' : Writable L ids now db r m :=
      ⟨hs, hw.collisionFree, hmem, hw.moved, hw.allowed, hw.events, hw.clock⟩
    exact .inl hw'.written
  · refine .inr ?_
    rw [saveMessageWithOutbox, show (r.record.withMessage m).message = m from rfl, hw.mapped, ok_bind,
      hw.conflict hl hs.keyed.ids hmem]
    rfl

theorem expireClaimed_ends (hw : ∀ m, r.message.expire now = (m, .ok true) → Writable L ids now read r m)
    (hl : read.Later db) (hs : Sound L ids db) (hq : r.snapshot.status = .queued)
    (hd : ¬ now < r.snapshot.dispatchDeadline) :
    ClaimEnds (expireClaimed L now db r.record) := by
  obtain ⟨m, hexpire⟩ : ∃ m, r.message.expire now = (m, .ok true) := by
    have hstatus : r.message.status = .queued := hq
    have hdeadline : ¬ now < r.message.dispatchDeadline := hd
    exact ⟨_, by rw [Message.expire, if_neg (by simp [hstatus]), if_neg hdeadline, if_neg (by simp [hstatus, oneOf])]⟩
  have hexpire' : r.record.message.expire now = (m, .ok true) := hexpire
  rw [expireClaimed, hexpire']
  rcases (hw m hexpire).ends hl hs with hsaved | hsaved
  · simp only [hsaved, ok_bind]
    exact .expired
  · simp only [hsaved]
    exact .failed rfl

/-- An attempt that is valid is refused by the table alone. -/
theorem createStarted_ends {attempt : StartedDeliveryAttempt} {id messageID : String}
    (hvalid : attempt.validate = .ok ()) (hid : uuidColumn attempt.id = some id)
    (hm : uuidColumn attempt.messageID = some messageID) :
    Fails (·.isStorage = true) (db.createStarted attempt) := by
  rw [createStarted, hvalid, ok_bind, hid, hm]
  refine Fails.bind (fails_check.2 (.inr rfl)) fun _ _ => Fails.bind (fails_check.2 (.inr rfl)) fun _ _ => ?_
  exact Fails.bind (fails_check.2 (.inr rfl)) fun _ _ => fails_pure

theorem startClaimed_ends (h : Startable L ids now read r command providerKey) (hl : read.Later db)
    (hs : Sound L ids db) :
    ClaimEnds (startClaimed L providerKey attemptID now db command r.record) := by
  obtain ⟨m, hstart⟩ := Message.startSending_succeeds (m := r.message) h.queued h.deadline h.counts.2
  have hw := h.writable hstart
  have hstart' : r.record.message.startSending command.dispatchGeneration now = (m, .ok ()) := by
    rw [h.generation]
    exact hstart
  have hvalid : (claimOf command providerKey attemptID now r m).attempt.validate = .ok () :=
    h.attempt_valid hstart
  have hmapped := mapError_ok_iff (f := fun _ => Error.dispatchInvariant "attempt") |>.2 hvalid
  have hid : uuidColumn (claimOf command providerKey attemptID now r m).attempt.id = some attemptID.text :=
    uuidColumn_text attemptID
  have hmessage : uuidColumn (claimOf command providerKey attemptID now r m).attempt.messageID =
      some r.snapshot.id := by
    simp only [claimOf, h.messageID]
    exact (h.sound.keyed.canonical r h.mem).1
  have hwritten : (∃ db', saveMessageWithOutboxAndAttempt L now db (r.record.withMessage m)
      (claimOf command providerKey attemptID now r m).attempt = .ok db') ∨
      ∃ e, saveMessageWithOutboxAndAttempt L now db (r.record.withMessage m)
        (claimOf command providerKey attemptID now r m).attempt = .error e ∧ e.isStorage = true := by
    rw [saveMessageWithOutboxAndAttempt,
      show (r.record.withMessage m).message = m from rfl, hw.mapped, ok_bind]
    by_cases hmem : r ∈ db.messages
    · have hw' : Writable L ids now db r m :=
        ⟨hs, hw.collisionFree, hmem, hw.moved, hw.allowed, hw.events, hw.clock⟩
      rw [hw'.saved, ok_bind]
      cases hcreated : { db with messages := exchange db.messages r (updatedRow r m.toSnapshot) }.createStarted
          (claimOf command providerKey attemptID now r m).attempt with
      | error e => exact .inr ⟨e, rfl, createStarted_ends hvalid hid hmessage e hcreated⟩
      | ok db' =>
        obtain ⟨-, -, -, -, rfl⟩ := (createStarted_eq_ok hid hmessage).1 hcreated
        exact .inl ⟨_, hw'.appended _⟩
    · rw [hw.conflict hl hs.keyed.ids hmem]
      exact .inr ⟨_, rfl, rfl⟩
  rw [startClaimed, hstart']
  dsimp only
  change ClaimEnds ((claimOf command providerKey attemptID now r m).attempt.validate.mapError _ >>= _)
  rw [hmapped, ok_bind]
  rcases hwritten with ⟨db', hok⟩ | ⟨e, herror, hstorage⟩
  · simp only [claimOf] at hok ⊢
    rw [hok, ok_bind]
    exact .started
  · simp only [claimOf] at herror ⊢
    rw [herror]
    exact .failed hstorage

/-- A claim of an emitted command never finds its message elsewhere than the command says. -/
theorem claim_ends (hread : Sound L ids read) (hl : read.Later db) (hs : Sound L ids db)
    (hc : L.CollisionFree ids) (hmem : r ∈ read.messages) (he : command.EmittedFor L read r)
    (hclock : L.Stores now) (haccepted : r.snapshot.acceptedAt ≤ now)
    (hkey : validateProviderKey providerKey = .ok ()) :
    ClaimEnds (claim L providerKey attemptID command read now db) := by
  have hget : read.getByID command.messageID = scanMessageRecord r := by
    rw [← he.messageID]
    exact getByID_eq_scan hread.keyed hmem
  cases hscan : scanMessageRecord r with
  | error e =>
    obtain ⟨detail, rfl⟩ := scanMessageRecord_corrupt r e hscan
    have hload : loadForClaim read command.messageID = .error (.corruptMessageRecord detail) := by
      rw [loadForClaim, hget, hscan]
    rw [claim, hload]
    exact .failed rfl
  | ok record =>
    obtain ⟨hloadable, rfl⟩ := scanMessageRecord_eq_ok.1 hscan
    have hload : loadForClaim read command.messageID = .ok r.record := by
      rw [loadForClaim, hget, hscan]
    rw [claim, hload, ok_bind]
    have htenant : r.record.tenantID = command.tenantID := he.tenantID
    rw [check_bind htenant]
    rcases he.position hread hmem with hpast | ⟨hqueued, hgeneration, hsequence⟩
    · exact (congrArg ClaimEnds (if_pos hpast)).mpr .stale
    · have hpast : ¬ (command.dispatchGeneration < r.snapshot.dispatchGeneration ∨
          command.aggregateSequence < r.snapshot.latestSequence) := by omega
      have hahead : ¬ (r.snapshot.dispatchGeneration < command.dispatchGeneration ∨
          r.snapshot.latestSequence < command.aggregateSequence) := by omega
      refine (congrArg ClaimEnds
        ((if_neg hpast).trans ((if_neg hahead).trans (if_neg (not_not.2 hqueued))))).mpr ?_
      by_cases hd : now < r.snapshot.dispatchDeadline
      · refine (congrArg ClaimEnds (if_neg (not_not.2 hd))).mpr (startClaimed_ends ?_ hl hs)
        exact ⟨hread, hc, hmem, hloadable, hqueued, he.messageID.symm, he.tenantID.symm, hsequence,
          hgeneration, haccepted, hd, hclock, hkey⟩
      · refine (congrArg ClaimEnds (if_pos hd)).mpr
          (expireClaimed_ends (fun m hexpire => ?_) hl hs hqueued hd)
        exact .of_perform (.expire now) hread hc hmem
          (Outcome.map_ofChanged.2 hexpire) haccepted hclock (by simp)
          (by simp [Operation.texts])

end Claim

/-! ## The attempt of a claim -/

/-- The attempt of the claim is open: its message is SENDING, in the generation of the claim. -/
structure DispatchClaim.Running (c : DispatchClaim) (db : Db) (r : MessageRow) (a : AttemptRow) : Prop where
  held : c.HeldIn db a
  mem : r ∈ db.messages
  loadable : r.Loadable
  messageID : a.messageID = r.snapshot.id
  started : a.status = .started
  sending : r.snapshot.status = .sending
  attemptCount : r.snapshot.attemptCount = c.attempt.attemptNumber
  generation : r.snapshot.dispatchGeneration = c.attempt.dispatchGeneration
  startedAt : a.startedAt = r.snapshot.updatedAt
  providerKey : notBtrimEmpty a.providerKey ∧ varchar 128 a.providerKey
  valid : c.attempt.validate = .ok ()
  spelled : isUUID c.command.messageID = true

section Running

variable {E : Env} {h : History} {s : System} {i : Nat} {c : DispatchClaim} {p : Progress}
  {L : Libs} {ids : Set Uuid}
  {read db : Db} {r r₀ : MessageRow} {a a₀ : AttemptRow}

/-- A later row of a message that could be read can be read: what decides it does not change. -/
theorem RowLater.loadable (hrow : RowLater r₀ r) (hs₀ : r₀.SoundIn read) (hs : Sound L ids db)
    (hmem : r ∈ db.messages) (hload : r₀.Loadable) : r.Loadable := by
  have hfixed := hrow.fixed_eq
  simp only [MessageRow.fixed, Prod.mk.injEq] at hfixed
  obtain ⟨-, -, -, -, -, -, hsubmission, -, -, haccepted⟩ := hfixed
  have hvalid := validateSnapshot_eq_ok.1 hload.snapshot
  have hne : r.snapshot.acceptedAt ≠ 0 := by
    rw [haccepted]
    exact hvalid.times.1
  refine ((hs.rows r hmem).loadable_iff (hs.keyed.canonical r hmem) hne).2 fun d hd => ?_
  rw [hsubmission] at hd
  exact (hs₀.checked.submission d hd).1 (hload.submission d hd)

/-- A lane that works on a claim finds it running. -/
theorem Reached.running (hr : Reached E h s) (hp : (s.lanes i).progress = some (c, p)) :
    ∃ r a, c.Running s.db r a := by
  obtain ⟨s₀, hclaimed⟩ := (Reached.tracked hr).claimed i c p hp
  obtain ⟨newer, before, rfl⟩ := List.append_of_mem hclaimed
  obtain ⟨s₁, hr₁, hstep, -⟩ := hr.split
  have hsound := (Reached.ok hr).sound
  have hlater := Reached.later hr
  have hbetween := (hstep.evolves (Reached.ok hr₁)).later
  have hkeyed := (Reached.ok (hr₁.next hstep)).sound.keyed
  cases hstep with
  | @claim _ _ command read now providerKey attemptID db' _ _ hlane _ hclaim =>
    obtain ⟨hread, hl⟩ := (Reached.ok hr₁).lanes _ _ _ hlane
    obtain ⟨r₀, hr₀mem, hid, hload, -, heffect⟩ := claim_effect (Reached.ok hr₁).sound.keyed hl hclaim
    obtain ⟨a₀, ha₀, hmessage, -⟩ := heffect.held hid
    obtain ⟨a, ha, hfixed⟩ := ha₀.later hlater
    have hstarted := Reached.held_started hr hp ha
    obtain ⟨r, hmem, hrid, hattempt⟩ := hsound.message_of ha
    -- the row that the claim read, as it is now
    obtain ⟨r', hr', hrow⟩ := ((hl.trans hbetween).trans hlater).messages r₀ hr₀mem
    have hmessages : a.messageID = a₀.messageID := by
      simp only [AttemptRow.fixed, Prod.mk.injEq] at hfixed
      exact hfixed.2.1
    obtain rfl : r' = r := by
      refine List.inj_on_of_nodup_map hsound.keyed.ids hr' hmem ?_
      rw [hrow.id_eq, hrid, ha.record, hmessages, hmessage]
    have hrows := hsound.rows r' hmem
    obtain ⟨hsending, hnumber⟩ := (hrows.ledger.started a hattempt).1 hstarted
    have hcounted := hrows.counted.byStatus
    rw [hsending] at hcounted
    obtain ⟨hnumbers, -⟩ := hrows.ledger.mem_numbers hattempt
    refine ⟨r', a, ha, hmem, hrow.loadable (hread.rows r₀ hr₀mem) hsound hmem hload, ?_, hstarted, hsending,
      hnumber.symm.trans ha.attemptNo, ?_, hrows.ledger.startedAt a hattempt hstarted, ?_, ?_, ?_⟩
    · exact (hrid.trans ha.record).symm
    · rw [← ha.generation, hnumbers, hnumber]
      exact hcounted.1
    · cases heffect with
      | started _ _ _ _ _ _ _ attempts _ allowed =>
        have hids : db'.attemptIDs.Nodup := hkeyed.attemptIDs
        have hsame := List.inj_on_of_nodup_map hids ha₀.mem
          (attempts ▸ List.mem_append_right _ (List.mem_singleton_self _)) ha₀.id
        simp only [AttemptRow.fixed, Prod.mk.injEq] at hfixed
        rw [hfixed.2.2.2.2.1, hsame]
        exact ⟨allowed.2.2.1, allowed.2.2.2.1⟩
    · cases heffect with
      | started _ _ _ _ _ _ _ _ valid => exact valid
    · cases heffect with
      | started _ _ _ _ _ _ _ _ valid => exact (StartedDeliveryAttempt.validate_eq_ok.1 valid).2.1

/-- What the second transaction reads of a running claim is what is there. -/
theorem DispatchClaim.Running.read_mem (hrun : c.Running db r a) (hs : Sound L ids db)
    (hread : Sound L ids read) (hl : read.Later db) (ha₀ : c.HeldIn read a₀) : r ∈ read.messages := by
  obtain ⟨r₀, hmem₀, hid₀, hattempt⟩ := hread.message_of ha₀
  obtain ⟨r', hr', hrow⟩ := hl.messages r₀ hmem₀
  obtain rfl : r' = r := by
    refine List.inj_on_of_nodup_map hs.keyed.ids hr' hrun.mem ?_
    rw [hrow.id_eq, hid₀, hrun.held.record, hrun.messageID]
  have hrows₀ := hread.rows r₀ hmem₀
  have hrows := hs.rows r' hr'
  have hcounted := hrows.counted.byStatus
  rw [hrun.sending] at hcounted
  obtain ⟨hgeneration, hpositive, -⟩ := hcounted
  obtain ⟨hnumber, -, hle⟩ := hrows₀.ledger.mem_numbers hattempt
  have hno := ha₀.attemptNo
  have hcount := hrun.attemptCount
  have hgenerations := hrow.generation_le
  have hattempts := hrows₀.counted.attempts_le_generation
  -- the generation of the claim is open in the state that was read, and its attempt was made
  have hsame : r₀.snapshot.dispatchGeneration = r'.snapshot.dispatchGeneration := by omega
  obtain ⟨o, ho, hdispatch, hog⟩ := hrows₀.inStep.current_request (by omega)
  have hnotQueued : o.aggregateSequence ≠ r₀.snapshot.latestSequence := by
    intro heq
    have hqueued := hrows₀.counted.byStatus
    rw [(hrows₀.inStep.at_request ho hdispatch heq).1] at hqueued
    have := hqueued.1
    omega
  obtain ⟨hin, hoid⟩ := List.mem_filter.1 ho
  obtain ⟨x, hx, rfl⟩ := List.mem_map.1 hin
  have hbehind : x.event.aggregateSequence ≤ r₀.snapshot.latestSequence := by
    obtain ⟨y, hy, hyid, hbehind, -⟩ := hread.keyed.outbox x hx
    obtain rfl : y = r₀ :=
      List.inj_on_of_nodup_map hread.keyed.ids hy hmem₀ (hyid.trans (by simpa using hoid))
    exact hbehind
  -- so the message had moved past its request, which is as far as it is now
  obtain ⟨o', ho', hdispatch', hsequence', hog'⟩ := hrows.inStep.sending_dispatch hrun.sending (by omega)
  have hkept : x.event ∈ db.outboxEvents r'.snapshot.id := by
    obtain ⟨x', hx', hevent⟩ := hl.outbox x hx
    refine List.mem_filter.2 ⟨List.mem_map.2 ⟨x', hx', hevent⟩, ?_⟩
    rw [hrow.id_eq]
    exact hoid
  have hunique := hrows.inStep.request_unique hkept hdispatch ho' hdispatch' (by omega)
  rcases hrow with rfl | ⟨-, -, hlater, -⟩
  · exact hmem₀
  · omega

end Running

/-! ## Recording a result -/

/-- The texts that a result brings into the tables. -/
def ProviderResult.texts (result : ProviderResult) : List String :=
  result.providerMessageID :: result.failure.toList.map (·.code)

/-- What `ProviderResult.Validate` accepts. -/
inductive ProviderResult.Valid : ProviderResult → Prop
  | accepted {providerMessageID : String} (id : trimmedWithin providerMessageID 512) :
      Valid ⟨.accepted, providerMessageID, none⟩
  | failed {f : Failure} (valid : f.validate = .ok ()) (category : f.category ≠ .submissionUnknown) :
      Valid ⟨.failed, "", some f⟩
  | unknown {f : Failure} (valid : f.validate = .ok ()) (category : f.category = .submissionUnknown) :
      Valid ⟨.submissionUnknown, "", some f⟩

theorem onlyFailure_eq_ok {providerMessageID : String} {failure : Option Failure} {e : Error} {f : Failure} :
    onlyFailure providerMessageID failure e = .ok f ↔ providerMessageID = "" ∧ failure = some f := by
  unfold onlyFailure
  split
  · rw [pure_eq_ok]
    simp
  · rename_i hne
    refine ⟨fun h => (nomatch h), fun ⟨hempty, hsome⟩ => absurd hsome (hne f hempty)⟩

theorem ProviderResult.validate_eq_ok {result : ProviderResult} :
    result.validate = .ok () ↔ result.Valid := by
  obtain ⟨outcome, providerMessageID, failure⟩ := result
  constructor
  · intro h
    cases outcome with
    | accepted =>
      simp only [validate, check_bind_eq_ok, check_eq_ok] at h
      obtain ⟨hid, rfl⟩ := h
      exact .accepted hid
    | failed =>
      simp only [validate, bind_eq_ok, onlyFailure_eq_ok, mapError_ok_iff, check_eq_ok] at h
      obtain ⟨f, ⟨rfl, rfl⟩, _, hvalid, hcategory⟩ := h
      exact .failed hvalid hcategory
    | submissionUnknown =>
      simp only [validate, bind_eq_ok, onlyFailure_eq_ok, mapError_ok_iff, check_eq_ok] at h
      obtain ⟨f, ⟨rfl, rfl⟩, _, hvalid, hcategory⟩ := h
      exact .unknown hvalid hcategory
    | unknown => simp [validate] at h
  · intro h
    cases h with
    | accepted hid => simp only [validate, check_bind_eq_ok, check_eq_ok]; exact ⟨hid, trivial⟩
    | failed hvalid hcategory =>
      simp only [validate, bind_eq_ok, mapError_ok_iff, check_eq_ok]
      exact ⟨_, rfl, (), hvalid, hcategory⟩
    | unknown hvalid hcategory =>
      simp only [validate, bind_eq_ok, mapError_ok_iff, check_eq_ok]
      exact ⟨_, rfl, (), hvalid, hcategory⟩

/-- A stable code is visible ASCII. -/
theorem stableCode_plain {code : String} (h : validStableCode code = true) :
    trimSpace code ≠ "" ∧ len code ≤ 128 ∧ Plain code := by
  simp only [validStableCode, decide_eq_true_eq, List.all_eq_true] at h
  obtain ⟨hne, hlen, hchars⟩ := h
  have hrange : ∀ ch ∈ code.toList, 33 ≤ ch.toNat ∧ ch.toNat ≤ 126 := by
    intro ch hch
    have hchar := hchars ch hch
    have hbounds : 'A'.val.toNat = 65 ∧ 'Z'.val.toNat = 90 ∧ 'a'.val.toNat = 97 ∧ 'z'.val.toNat = 122 ∧
        '0'.val.toNat = 48 ∧ '9'.val.toNat = 57 := by decide
    simp only [Bool.or_eq_true, Bool.and_eq_true, decide_eq_true_eq, Char.isDigit, Char.le_def,
      UInt32.le_iff_toNat_le, List.mem_cons, List.not_mem_nil, or_false] at hchar
    change 33 ≤ ch.val.toNat ∧ ch.val.toNat ≤ 126
    rcases hchar with ((hupper | hlower) | hdigit) | rfl | rfl | rfl | rfl
    · omega
    · omega
    · omega
    all_goals decide
  have hspace : ∀ ch ∈ code.toList, isSpace ch = false := by
    intro ch hch
    have := hrange ch hch
    simp only [isSpace, List.mem_cons, List.not_mem_nil, or_false, Bool.or_eq_false_iff,
      decide_eq_false_iff_not, Bool.and_eq_false_iff]
    omega
  refine ⟨by rwa [trimSpace_of_none_space hspace], hlen, fun hnul => ?_⟩
  exact absurd (hrange _ hnul).1 (by decide)

/-- The failure of a material build is a valid result, with a code that can be stored. -/
theorem materialBuildProviderResult_valid (e : MaterialError) :
    (materialBuildProviderResult e).Valid ∧ ∀ text ∈ (materialBuildProviderResult e).texts, Plain text := by
  have hvalid : ∀ code retryable, validStableCode code = true →
      ProviderResult.Valid ⟨.failed, "", some ⟨.internal, code, retryable⟩⟩ ∧
        ∀ text ∈ ProviderResult.texts ⟨.failed, "", some ⟨.internal, code, retryable⟩⟩, Plain text := by
    intro code retryable hcode
    obtain ⟨hne, hlen, hplain⟩ := stableCode_plain hcode
    refine ⟨.failed (Failure.validate_eq_ok.2 ⟨rfl, hne, hlen⟩) (by simp), ?_⟩
    have hempty : Plain "" := by decide
    simpa [ProviderResult.texts, hempty] using hplain
  unfold materialBuildProviderResult
  cases e with
  | material code retryable =>
    dsimp only
    by_cases hcode : validStableCode code = true
    · rw [if_pos hcode]
      exact hvalid code retryable hcode
    · rw [if_neg hcode]
      exact hvalid _ _ (by decide)
  | deadlineExceeded => exact hvalid _ _ (by decide)
  | canceled => exact hvalid _ _ (by decide)
  | other => exact hvalid _ _ (by decide)

section Finalize

variable {L : Libs} {ids : Set Uuid} {read db : Db} {now : Time} {r : MessageRow}
  {m m₀ : Message} {a : AttemptRow}
  {c : DispatchClaim} {attempt : StartedDeliveryAttempt} {result : ProviderResult}
  {delay : Int} {attemptID : String}
  {status : Status} {completion : CompleteDeliveryAttempt}
  {disposition : DispatchDisposition} {op : Operation}

/-- A delay that `applyProviderResult` accepts. -/
def AllowedDelay (delay : Int) : Prop := 0 < delay ∧ delay ≤ 24 * 3600 * 1000000000

theorem finishAttempt_ok {α : Type} {step : Message × Except MessageError α} {x : α} (h : step = (m, .ok x)) :
    finishAttempt step completion disposition = .ok (m, completion, disposition) := by
  rw [h, finishAttempt]

/-- The operation that a result leads to. -/
structure Applies (m₀ : Message) (attempt : StartedDeliveryAttempt) (result : ProviderResult)
    (delay : Int) (now : Time) (op : Operation) (m : Message) (completion : CompleteDeliveryAttempt)
    (disposition : DispatchDisposition) : Prop where
  applied : applyProviderResult m₀ attempt result delay now = .ok (m, completion, disposition)
  performed : m₀.perform op = (m, .changed)
  occurredAt : op.occurredAt = now
  texts : ∀ text ∈ op.texts, text ∈ result.texts
  fact : ∀ fact, op = .applyDeliveryFact fact → trimmedWithin fact.providerMessageID 512

/-- What a failure leads to, with a delay that is accepted. -/
theorem applyProviderResult_failed {f : Failure} {providerMessageID : String} (hdelay : AllowedDelay delay) :
    applyProviderResult m₀ attempt ⟨.failed, providerMessageID, some f⟩ delay now =
      if f.retryable = true then
        if m₀.attemptCount < m₀.maxAttempts ∧ now + delay.toNat < m₀.dispatchDeadline then
          finishAttempt (m₀.scheduleRetry f (now + delay.toNat) now)
            ⟨attempt.id, .failed, now, "", some f⟩ .retryScheduled
        else finishAttempt (m₀.markDeadLettered f now) ⟨attempt.id, .failed, now, "", some f⟩ .deadLettered
      else finishAttempt (m₀.markPermanentlyFailed f now)
        ⟨attempt.id, .failed, now, "", some f⟩ .permanentlyFailed := by
  have hallowed : ¬ (delay ≤ 0 ∨ 86400000000000 < delay) := by
    obtain ⟨hpos, hle⟩ := hdelay
    omega
  unfold applyProviderResult
  cases hretryable : f.retryable with
  | false => simp [hretryable]
  | true =>
    by_cases hcount : m₀.attemptCount < m₀.maxAttempts
    · by_cases htime : now + delay.toNat < m₀.dispatchDeadline <;> simp [hretryable, hcount, htime, hallowed]
    · simp [hretryable, hcount]

/-- A message that is SENDING takes every valid result. -/
theorem ProviderResult.Valid.applies (hv : result.Valid) (attempt : StartedDeliveryAttempt)
    (hs : m₀.status = .sending) (hnow : now ≠ 0) (hdelay : AllowedDelay delay) :
    ∃ op m completion disposition, Applies m₀ attempt result delay now op m completion disposition := by
  cases hv with
  | @accepted providerMessageID hid =>
    obtain ⟨m, hm⟩ : ∃ m,
        m₀.applyDeliveryFact ⟨.providerAccepted, now, providerMessageID⟩ = (m, .ok .applied) := by
      simp [Message.applyDeliveryFact, hnow, hs, deliveryFactTarget, observationWouldRegress,
        canTransition, oneOf]
    refine ⟨.applyDeliveryFact ⟨.providerAccepted, now, providerMessageID⟩, m, _, _, finishAttempt_ok hm,
      Outcome.map_ofResult.2 hm, rfl, by simp [Operation.texts, texts], ?_⟩
    rintro fact ⟨⟩
    exact hid
  | @unknown f hvalid hcategory =>
    obtain ⟨m, hm⟩ : ∃ m, m₀.markSubmissionUnknown f now = (m, .ok ()) := by
      simp [Message.markSubmissionUnknown, hs, hvalid, hcategory]
    exact ⟨.markSubmissionUnknown f now, m, _, _, finishAttempt_ok hm, Outcome.map_ofError.2 hm, rfl,
      by simp [Operation.texts, texts], by simp⟩
  | @failed f hvalid _ =>
    have htexts : ∀ text ∈ [f.code], text ∈ texts ⟨.failed, "", some f⟩ := by simp [texts]
    by_cases hretryable : f.retryable = true
    · by_cases hretries : m₀.attemptCount < m₀.maxAttempts ∧ now + delay.toNat < m₀.dispatchDeadline
      · obtain ⟨m, hm⟩ : ∃ m, m₀.scheduleRetry f (now + delay.toNat) now = (m, .ok ()) := by
          have hpos : 0 < delay.toNat := Int.pos_iff_toNat_pos.1 hdelay.1
          simp [Message.scheduleRetry, hs, hvalid, hretryable, oneOf,
            Nat.not_le.2 hretries.1, hretries.2, hpos]
        refine ⟨.scheduleRetry f (now + delay.toNat) now, m,
          ⟨attempt.id, .failed, now, "", some f⟩, .retryScheduled, ?_, Outcome.map_ofError.2 hm, rfl,
          htexts, by simp⟩
        rw [applyProviderResult_failed hdelay, if_pos hretryable, if_pos hretries]
        exact finishAttempt_ok hm
      · obtain ⟨m, hm⟩ : ∃ m, m₀.markDeadLettered f now = (m, .ok ()) := by
          simp [Message.markDeadLettered, hs, hvalid, oneOf]
        refine ⟨.markDeadLettered f now, m, ⟨attempt.id, .failed, now, "", some f⟩, .deadLettered, ?_,
          Outcome.map_ofError.2 hm, rfl, htexts, by simp⟩
        rw [applyProviderResult_failed hdelay, if_pos hretryable, if_neg hretries]
        exact finishAttempt_ok hm
    · obtain ⟨m, hm⟩ : ∃ m, m₀.markPermanentlyFailed f now = (m, .ok ()) := by
        simp [Message.markPermanentlyFailed, hs, hvalid, oneOf]
      refine ⟨.markPermanentlyFailed f now, m, ⟨attempt.id, .failed, now, "", some f⟩, .permanentlyFailed, ?_,
        Outcome.map_ofError.2 hm, rfl, htexts, by simp⟩
      rw [applyProviderResult_failed hdelay, if_neg hretryable]
      exact finishAttempt_ok hm

/-- The completion that goes with a valid result: it repeats what the result says. -/
def ProviderResult.completionOf (result : ProviderResult) (attemptID : String) (now : Time) :
    CompleteDeliveryAttempt where
  attemptID := attemptID
  status := match result.outcome with
    | .accepted => .providerAccepted
    | .submissionUnknown => .submissionUnknown
    | _ => .failed
  finishedAt := now
  providerMessageID := result.providerMessageID
  failure := result.failure

theorem Settled.completion_eq (h : Settled now attemptID result status completion disposition)
    (hv : result.Valid) :
    completion = result.completionOf attemptID now := by
  cases hv <;> cases h <;> simp_all [ProviderResult.completionOf]

theorem ProviderResult.Valid.completion_valid (hv : result.Valid)
    (hid : isUUID attemptID = true) (hnow : now ≠ 0) :
    (result.completionOf attemptID now).validate = .ok () := by
  have hid' : isUUID (result.completionOf attemptID now).attemptID = true := hid
  have hnow' : (result.completionOf attemptID now).finishedAt ≠ 0 := hnow
  have hstatus : (result.completionOf attemptID now).status ≠ .started := by
    cases hv <;> simp [completionOf]
  rw [CompleteDeliveryAttempt.validate, check_bind hid', check_bind hstatus, check_bind hnow']
  cases hv with
  | accepted id => exact check_bind_eq_ok.2 ⟨id, check_eq_ok.2 rfl⟩
  | failed valid category =>
    exact bind_eq_ok.2 ⟨_, rfl, bind_eq_ok.2 ⟨(), mapError_ok_iff.2 valid, check_eq_ok.2 category⟩⟩
  | unknown valid category =>
    exact bind_eq_ok.2 ⟨_, rfl, bind_eq_ok.2 ⟨(), mapError_ok_iff.2 valid, check_eq_ok.2 category⟩⟩

/-- An attempt that ends in a failure is allowed exactly if the failure's code can be stored. -/
theorem failedAttempt_allowed_iff {outcome : ProviderOutcome} {f : Failure} (valid : f.validate = .ok ())
    (hnumbers : 0 < a.attemptNo ∧ 0 < a.dispatchGeneration)
    (hkey : notBtrimEmpty a.providerKey ∧ varchar 128 a.providerKey) (hstarted : a.startedAt ≤ truncate now)
    (hconsistent : resultConsistent (ProviderResult.completionOf ⟨outcome, "", some f⟩ attemptID now).status
      (some (truncate now)) "" (some f)) :
    (completedAttempt a (ProviderResult.completionOf ⟨outcome, "", some f⟩ attemptID now)).Allowed ↔
      ∀ text ∈ ProviderResult.texts ⟨outcome, "", some f⟩, Plain text := by
  have hempty : Plain "" ∧ varchar 512 "" := by decide
  have hcolumns := failureColumns_iff valid
  constructor
  · rintro ⟨-, -, -, -, -, -, hfailure, -⟩
    simpa [ProviderResult.texts, hempty.1] using hcolumns.1 (hfailure f rfl)
  · intro hplain
    have hcode := hcolumns.2 (hplain _ (by simp [ProviderResult.texts]))
    refine ⟨hnumbers.1, hnumbers.2, hkey.1, hkey.2, ?_, hempty.2, ?_, hconsistent⟩
    · rintro _ ⟨⟩
      exact hstarted
    · rintro _ ⟨⟩
      exact hcode

/-- Of the CHECK constraints on attempts, a result can only violate those on its texts. -/
theorem ProviderResult.Valid.allowed_iff (hv : result.Valid)
    (hnumbers : 0 < a.attemptNo ∧ 0 < a.dispatchGeneration)
    (hkey : notBtrimEmpty a.providerKey ∧ varchar 128 a.providerKey)
    (hstarted : a.startedAt ≤ truncate now) :
    (completedAttempt a (result.completionOf attemptID now)).Allowed ↔ ∀ text ∈ result.texts, Plain text := by
  cases hv with
  | @accepted providerMessageID id =>
    have hfinished : ∀ t ∈ some (truncate now), a.startedAt ≤ t := by simpa using hstarted
    have hcolumn := varchar_of_len id.2.2
    constructor
    · rintro ⟨-, -, -, -, -, hvarchar, -⟩
      simpa [texts] using hcolumn.1 hvarchar
    · intro hplain
      refine ⟨hnumbers.1, hnumbers.2, hkey.1, hkey.2, hfinished, hcolumn.2 (hplain _ (by simp [texts])),
        by simp [completionOf, completedAttempt], ?_⟩
      exact ⟨by simp [completedAttempt], notBtrimEmpty_of_trimSpace id.1, rfl⟩
  | @failed f valid category =>
    exact failedAttempt_allowed_iff valid hnumbers hkey hstarted
      ⟨Option.some_ne_none _, rfl, f, rfl, category⟩
  | @unknown f valid category =>
    exact failedAttempt_allowed_iff valid hnumbers hkey hstarted
      ⟨Option.some_ne_none _, rfl, f, rfl, category⟩

/-- The events of an operation on a stored message pass every check of the code, whatever texts they carry. -/
theorem mapAllMessageEvents_performed (hs : Sound L ids db) (hmem : r ∈ db.messages)
    (hperform : r.message.perform op = (m, .changed))
    (hfact : ∀ fact, op = .applyDeliveryFact fact → trimmedWithin fact.providerMessageID 512)
    (hclock : L.Encodes op.occurredAt) :
    mapAllMessageEvents L (r.record.withMessage m) m.pendingEvents =
      .ok ⟨m.pendingEvents.map (outboxEventOf L r.tenantID),
        (lifecycleEvents m.pendingEvents).map (deliveryEventOf L r.tenantID r.idempotencyKey)⟩ ∧
      (∀ o ∈ m.pendingEvents.map (outboxEventOf L r.tenantID), o.validate = .ok ()) ∧
      ∀ d ∈ (lifecycleEvents m.pendingEvents).map (deliveryEventOf L r.tenantID r.idempotencyKey),
      d.validate = .ok () := by
  obtain ⟨hmoved, -⟩ := Message.perform_changed hperform
  have hrow := hs.rows r hmem
  obtain ⟨hid, htenant⟩ := hs.keyed.canonical r hmem
  have hcounted := hmoved.counted (m := r.message) hrow.counted
  have haddressed : (r.record.withMessage m).Addressed := by
    refine ⟨isUUID_of_uuidColumn htenant, ?_, hrow.checked.idempotencyKey⟩
    rw [show (r.record.withMessage m).message.id = r.snapshot.id from hmoved.id]
    exact exists_text_of_uuidColumn hid
  have hmappable : ∀ e ∈ m.pendingEvents, Mappable L (r.record.withMessage m) e := by
    intro e he
    have hnew : e ∉ r.message.pendingEvents := by simp [MessageRow.message]
    have hdescribed := ((Message.perform_describes hperform e he).resolve_left hnew).described hfact
    refine ((hmoved.proper hcounted e he).resolve_left hnew hdescribed).mappable haddressed ?_
    rw [(hmoved.occurredAt e he).resolve_left hnew]
    exact hclock
  have hne : m.pendingEvents ≠ [] := by
    obtain ⟨details, hevents⟩ := hmoved.events
    simp [hevents]
  refine ⟨?_, fun o ho => ?_, fun d hd => ?_⟩
  · rw [mapAllMessageEvents, if_neg hne, mapEvents_eq_ok]
    exact ⟨hmappable, rfl⟩
  · obtain ⟨e, he, rfl⟩ := List.mem_map.1 ho
    exact (hmappable e he).outbox
  · obtain ⟨e, he, rfl⟩ := List.mem_map.1 hd
    exact (hmappable e (List.mem_of_mem_filter he)).delivery (by simpa using (List.mem_filter.1 he).2)

/-- How the second transaction of a running claim takes a result: every check of the code is passed,
and the tables take what they can store. -/
structure Finalizes (L : Libs) (c : DispatchClaim) (result : ProviderResult) (delay : Int)
    (read : Db) (now : Time) (db : Db) (r : MessageRow) (a : AttemptRow) (m : Message)
    (completion : CompleteDeliveryAttempt) (disposition : DispatchDisposition) : Prop where
  loaded : read.getByID c.command.messageID = .ok r.record
  fence : r.snapshot.dispatchGeneration = c.attempt.dispatchGeneration ∧
    r.snapshot.attemptCount = c.attempt.attemptNumber
  sending : r.snapshot.status = .sending
  applied : applyProviderResult r.message c.attempt result delay now = .ok (m, completion, disposition)
  settled : Settled now c.attempt.id result m.status completion disposition
  valid : completion.validate = .ok ()
  mapped : ∃ mapped, mapAllMessageEvents L (r.record.withMessage m) m.pendingEvents = .ok mapped ∧
    (∀ o ∈ mapped.outbox, o.validate = .ok ()) ∧ ∀ d ∈ mapped.delivery, d.validate = .ok ()
  allowed : (completedAttempt a completion).Allowed ↔ ∀ text ∈ result.texts, Plain text
  committed : (∀ text ∈ result.texts, Plain text) → ∃ db',
    finalize L c result delay read now db = .ok (db', ⟨disposition, c.attempt.id, c.attempt.attemptNumber⟩) ∧
      updatedRow r m.toSnapshot ∈ db'.messages ∧ completedAttempt a completion ∈ db'.attempts
  refused : (¬ ∀ text ∈ result.texts, Plain text) → ∃ e, finalize L c result delay read now db = .error e

/-- The writes of a second transaction that passed its checks. -/
theorem finalize_writes {mapped : MappedMessageEvents}
    (hload : read.getByID c.command.messageID = .ok r.record)
    (hfence : r.snapshot.dispatchGeneration = c.attempt.dispatchGeneration ∧
    r.snapshot.attemptCount = c.attempt.attemptNumber)
    (hsending : r.snapshot.status = .sending)
    (happlied : applyProviderResult r.message c.attempt result delay now = .ok (m, completion, disposition))
    (hmapped : mapAllMessageEvents L (r.record.withMessage m) m.pendingEvents = .ok mapped) :
    finalize L c result delay read now db = (do
      let db ← db.save m
      let db ← db.complete completion
      let db ← db.appendDeliveryEvents mapped.delivery
      let db ← db.appendOutbox now mapped.outbox
      pure (db, ⟨disposition, c.attempt.id, c.attempt.attemptNumber⟩)) := by
  have hfence' : r.record.message.dispatchGeneration = c.attempt.dispatchGeneration ∧
      r.record.message.attemptCount = c.attempt.attemptNumber := hfence
  have happlied' : (applyProviderResult r.record.message c.attempt result delay now).mapError
      (fun _ => Error.dispatchInvariant "provider result could not advance message") =
        .ok (m, completion, disposition) :=
    mapError_ok_iff.2 happlied
  have hsending' : ¬ r.record.message.status ≠ .sending := not_not.2 hsending
  rw [finalize, hload, ok_bind, check_bind hfence', if_neg hsending', happlied', ok_bind]
  dsimp only
  rw [hmapped, ok_bind]

theorem DispatchClaim.Running.finalizes (hrun : c.Running db r a) (hs : Sound L ids db)
    (hread : Sound L ids read) (hmem : r ∈ read.messages) (hc : L.CollisionFree ids)
    (hclock : L.Stores now) (hafter : c.attempt.startedAt ≤ now)
    (hv : result.Valid) (hdelay : AllowedDelay delay) :
    ∃ m completion disposition, Finalizes L c result delay read now db r a m completion disposition := by
  obtain ⟨hattemptID, -, -, -, -, hstarted⟩ := StartedDeliveryAttempt.validate_eq_ok.1 hrun.valid
  have hnow : now ≠ 0 := (hclock.toEncodes).notZero
  have hrow := hs.rows r hrun.mem
  have hmember : a ∈ db.attemptsOf r.snapshot.id :=
    List.mem_filter.2 ⟨hrun.held.mem, by simp [hrun.messageID]⟩
  obtain ⟨hgeneration, hnumber, -⟩ := hrow.ledger.mem_numbers hmember
  have hstartedAt : a.startedAt ≤ truncate now := by
    rw [hrun.held.startedAt]
    exact truncate_mono hafter
  have haccepted : r.snapshot.acceptedAt ≤ now := by
    refine (validateSnapshot_eq_ok.1 hrun.loadable.snapshot).updatedAt.trans ?_
    rw [← hrun.startedAt]
    exact hstartedAt.trans (truncate_le now)
  have hsending : r.message.status = .sending := hrun.sending
  obtain ⟨op, m, completion, disposition, happlies⟩ := hv.applies c.attempt hsending hnow hdelay
  obtain ⟨-, hsettled⟩ := applyProviderResult_settled hrun.sending happlies.applied
  obtain ⟨hmoved, -⟩ := Message.perform_changed happlies.performed
  have hcompletion := hsettled.completion_eq hv
  have hcolumn : uuidColumn completion.attemptID = some a.id := by
    rw [hcompletion, hrun.held.id]
    exact hrun.held.canonical
  have hvalid : completion.validate = .ok () := by
    rw [hcompletion]
    exact hv.completion_valid hattemptID hnow
  have hallowed : (completedAttempt a completion).Allowed ↔ ∀ text ∈ result.texts, Plain text := by
    rw [hcompletion]
    exact hv.allowed_iff ⟨hnumber, by omega⟩ hrun.providerKey hstartedAt
  have hload : read.getByID c.command.messageID = .ok r.record := by
    rw [getByID_eq_scan_of hread.keyed hmem hrun.spelled (by rw [hrun.held.messageID, hrun.messageID])]
    exact scanMessageRecord_eq_ok.2 ⟨hrun.loadable, rfl⟩
  have hoccurred := happlies.occurredAt
  obtain ⟨hmapped, houtbox, hdelivery⟩ :=
    mapAllMessageEvents_performed hs hrun.mem happlies.performed happlies.fact
    (hoccurred ▸ hclock.toEncodes)
  have hwrites : finalize L c result delay read now db = _ :=
    finalize_writes hload ⟨hrun.generation, hrun.attemptCount⟩ hrun.sending happlies.applied hmapped
  refine ⟨m, completion, disposition, hload, ⟨hrun.generation, hrun.attemptCount⟩, hrun.sending,
    happlies.applied, hsettled, hvalid, ⟨_, hmapped, houtbox, hdelivery⟩, hallowed,
    fun hplain => ?_, fun hnul => ?_⟩
  · have hw : Writable L ids now db r m := by
      have := Writable.of_perform op hs hc hrun.mem happlies.performed
        (hoccurred ▸ haccepted) (hoccurred ▸ hclock) happlies.fact fun text htext =>
        hplain text (happlies.texts text htext)
      rwa [hoccurred] at this
    have hcomplete : Db.complete
        { db with messages := exchange db.messages r (updatedRow r m.toSnapshot) } completion = _ :=
      complete_of_started hs.keyed.attemptIDs hvalid hrun.held.mem hcolumn hrun.started (hallowed.2 hplain)
    obtain ⟨db₃, hdelivered, happended⟩ :=
      bind_eq_ok.1 (hw.appended (exchange db.attempts a (completedAttempt a completion)))
    refine ⟨{ applyMove L now db
        (r, m) with attempts := exchange db.attempts a (completedAttempt a completion) }, ?_,
      (mem_exchange hrun.mem).2 (.inl rfl), (mem_exchange hrun.held.mem).2 (.inl rfl)⟩
    rw [hwrites, hw.saved, ok_bind, hcomplete, ok_bind, hdelivered, ok_bind, happended, ok_bind]
    rfl
  · cases hfinalize : finalize L c result delay read now db with
    | error e => exact ⟨e, rfl⟩
    | ok outcome =>
      rw [hwrites] at hfinalize
      obtain ⟨db₁, hsaved, hrest⟩ := bind_eq_ok.1 hfinalize
      obtain ⟨db₂, hcompleted, -⟩ := bind_eq_ok.1 hrest
      obtain ⟨-, -, rfl⟩ := save_read hs.keyed (.refl db) hrun.mem (hoccurred ▸ hmoved) hsaved
      obtain ⟨x, hx, hxid, -, hxallowed, -⟩ := complete_eq_ok (by exact hs.keyed.attemptIDs) hcompleted
      obtain rfl : x = a := List.inj_on_of_nodup_map hs.keyed.attemptIDs hx hrun.held.mem
        (Option.some.inj (hxid.symm.trans hcolumn))
      exact absurd (hallowed.1 hxallowed) hnul

end Finalize

/-- What the retry policy draws is accepted. -/
theorem Machine.DeliveryFullJitterBackoff.allowedDelay (b : Machine.DeliveryFullJitterBackoff)
    {attemptNumber : UInt32} {rand : Machine.Rand} {delay : Duration}
    (h : b.nextDelay attemptNumber rand = some delay) : AllowedDelay delay.toInt := by
  obtain ⟨d, hd, hlower, hupper⟩ := (b.draws attemptNumber).delay rand
  obtain rfl : d = delay := Option.some.inj (hd.symm.trans h)
  obtain ⟨-, hcap, -, hday⟩ := Machine.window_bounds b.base_pos b.base_le b.cap_le attemptNumber
  refine ⟨by omega, ?_⟩
  calc d.toInt ≤ _ := hupper
    _ ≤ _ := hcap
    _ ≤ _ := hday

section Totality

variable {E : Env} {h : History} {s : System} {i : Nat} {d : Delivery}
  {command : DispatchCommand} {c : DispatchClaim}
  {observed result : ProviderResult} {read : Db} {now : Time} {delay : Int}

/-- A lane that claims a copy of a request. -/
theorem Reached.claim_ends (hr : Reached E h s) (hc : E.L.CollisionFree E.ids)
    (hlane : s.lanes i = .holds d (.claiming command read now)) (hcopy : ∃ o ∈ read.outbox, CopyOf o.event d)
    (htenant : uuidColumn command.tenantID = some command.tenantID) (hclock : E.L.Stores now)
    (hafter : ∀ r ∈ read.messages, r.snapshot.id = command.messageID → r.snapshot.acceptedAt ≤ now)
    (providerKey : String) (attemptID : Uuid) (hkey : validateProviderKey providerKey = .ok ()) :
    ClaimEnds (claim E.L providerKey attemptID command read now s.db) := by
  have hsound := (Reached.ok hr).sound
  obtain ⟨hread, hl⟩ := (Reached.ok hr).lanes i d _ hlane
  have hparse : parseDispatchDelivery E.L .default d = .ok command := Reached.answering hr i d _ hlane
  obtain ⟨o, ho, hcopy⟩ := hcopy
  obtain ⟨hmessage, -⟩ := parseDispatchDelivery_copy hcopy hparse
  obtain ⟨r, hmem, hid, -⟩ := hread.keyed.outbox o ho
  have hrid : r.snapshot.id = command.messageID := hid.trans hmessage.symm
  -- the tenant is found in the present state, which has the request and the row of the message
  obtain ⟨r', hr', hrow⟩ := hl.messages r hmem
  obtain ⟨o', ho', hevent⟩ := hl.outbox o ho
  have hcolumn := (Reached.tenanted hr).command ho' (hevent ▸ hcopy) hparse hr' (hrow.id_eq.trans hrid)
  have hfixed := hrow.fixed_eq
  simp only [MessageRow.fixed, Prod.mk.injEq] at hfixed
  have hspelled : r.tenantID = command.tenantID := by
    rw [htenant, Option.some.injEq] at hcolumn
    exact hfixed.1.symm.trans hcolumn.symm
  exact MailService.claim_ends hread hl hsound hc hmem ⟨⟨o, ho, d, hcopy, hparse⟩, hrid, hspelled⟩ hclock
    (hafter r hmem hrid) hkey

/-- A lane that records a result. -/
theorem Reached.finalizes (hr : Reached E h s) (hc : E.L.CollisionFree E.ids)
    (hlane : s.lanes i = .holds d (.finalizing c observed read now)) (hclock : E.L.Stores now)
    (hafter : c.attempt.startedAt ≤ now) (hdelay : AllowedDelay delay) (hv : result.validate = .ok ()) :
    ∃ r ∈ s.db.messages, ∃ a m completion disposition,
      Finalizes E.L c result delay read now s.db r a m completion disposition := by
  have hsound := (Reached.ok hr).sound
  obtain ⟨hread, hl, a₀, ha₀⟩ := (Reached.ok hr).lanes i d _ hlane
  obtain ⟨r, a, hrun⟩ := Reached.running hr (progress_holds hlane)
  have hmem := hrun.read_mem hsound hread hl ha₀
  obtain ⟨m, completion, disposition, hfinalizes⟩ :=
    hrun.finalizes hsound hread hmem hc hclock hafter (ProviderResult.validate_eq_ok.1 hv) hdelay
  exact ⟨r, hrun.mem, a, m, completion, disposition, hfinalizes⟩

end Totality

/-! ## A provider's id that PostgreSQL does not store -/

namespace Sample

/-- The claim of the request that was relayed. -/
theorem exists_claiming :
    ∃ hash h s d command, (libs hash).CollisionFree {messageID} ∧ Reached (env hash) h s ∧
    s.lanes 0 = .holds d (.claiming command s.db now) ∧ (∃ o ∈ s.db.outbox, CopyOf o.event d) ∧
    uuidColumn command.tenantID = some command.tenantID ∧
    ∀ r ∈ s.db.messages, r.snapshot.acceptedAt ≤ now := by
  obtain ⟨hash, leased, d, c, request, result, s₁, s₂, s₃, s₄, s₅, s₆, s₇, s₈, hc, hr, ⟨htenant, -⟩,
      -⟩ := exists_delivered
  obtain ⟨-, _, hr₇, -⟩ := hr.uncons
  obtain ⟨rfl, _, hr₆, hclaim⟩ := hr₇.uncons
  obtain ⟨rfl, _, hr₅, hread⟩ := hr₆.uncons
  obtain ⟨rfl, _, hr₄, hdeliver⟩ := hr₅.uncons
  obtain ⟨rfl, _, hr₃, hrecord⟩ := hr₄.uncons
  obtain ⟨rfl, _, hr₂, hpublish⟩ := hr₃.uncons
  obtain ⟨rfl, _, hr₁, hlease⟩ := hr₂.uncons
  obtain ⟨rfl, _, hr₀, hsubmit⟩ := hr₁.uncons
  -- the broker has nothing but the copy that was published
  have hqueue : s₄.queue = s₃.queue ∧ s₂.queue = [] := by
    refine ⟨by cases hrecord; rfl, ?_⟩
    obtain ⟨-, -, hempty, -⟩ : Initial _ := by cases hr₀; assumption
    cases hlease
    cases hsubmit
    exact hempty
  have hcopy : CopyOf leased.event d := by
    have hmember : d ∈ s₄.queue := by
      cases hdeliver with
      | deliver _ hqueue => simp [hqueue]
    rw [hqueue.1] at hmember
    cases hpublish with
    | @publish _ _ _ _ _ kept =>
      simp only [hqueue.2, List.nil_append] at hmember
      cases kept with
      | false => simp at hmember
      | true => exact publish_copy (Option.mem_toList.1 hmember)
  have hlane : ∃ command, s₆.lanes 0 = .holds d (.claiming command s₆.db now) := by
    cases hdeliver with
    | deliver =>
      cases hread with
      | @readForClaim _ _ command _ hparsed =>
        rw [System.setLane_self] at hparsed
        obtain ⟨rfl, -⟩ := Lane.holds.inj hparsed
        exact ⟨command, System.setLane_self _ _ _⟩
  obtain ⟨command, hlane⟩ := hlane
  obtain rfl : c.command = command := by
    cases hclaim with
    | claim hclaiming _ hstarted =>
      obtain ⟨-, hl⟩ := (Reached.ok hr₆).lanes _ _ _ hclaiming
      obtain ⟨r, -, -, -, -, heffect⟩ := claim_effect (Reached.ok hr₆).sound.keyed hl hstarted
      obtain ⟨-, hwork⟩ := Lane.holds.inj (hclaiming.symm.trans hlane)
      obtain ⟨rfl, -⟩ := Work.claiming.inj hwork
      cases heffect
      rfl
  have hrequest : ∃ o ∈ s₆.db.outbox, CopyOf o.event d := by
    obtain ⟨-, -, o, ho, hevent⟩ :=
      (Reached.fenced hr₆).claims leased ⟨now, [leased], true, s₂, by simp, by simp⟩
    exact ⟨o, ho, hevent ▸ hcopy⟩
  refine ⟨hash, _, s₆, d, c.command, hc, hr₆, hlane,
    hrequest, by rw [htenant]; exact uuidColumn_text tenant, fun r hmem => ?_⟩
  obtain ⟨submitted, t, result', s', hmember, -, haccepted⟩ := Reached.accepted_at hr₆ hmem
  have hfirst : (submitted = command none none ∧ t = now ∧ result' = result) ∧
      s' = s₁ := by simpa using hmember
  rw [haccepted, hfirst.1.2.1]
  exact truncate_le now

/-- The provider's result is about to be recorded. -/
theorem exists_finalizing {result : ProviderResult} (hv : result.validate = .ok ()) : ∃ hash h s d c,
    (libs hash).CollisionFree {messageID} ∧ Reached (env hash) h s ∧
    s.lanes 0 = .holds d (.finalizing c result s.db now) ∧ c.attempt.startedAt = now := by
  obtain ⟨hash, leased, d, c, request, answer, s₁, s₂, s₃, s₄, s₅, s₆, s₇, s₈, hc, hr, ⟨-, hstarted⟩,
      -⟩ := exists_delivered
  have hlane : ∃ d, s₈.lanes 0 = .holds d (.submitting c) := by
    cases hr with
    | next _ hstep =>
      cases hstep with
      | callSubmit => exact ⟨_, System.setLane_self _ _ _⟩
  obtain ⟨d, hlane⟩ := hlane
  have hobserved : observeResult result none = .ok result := by simp [observeResult, hv]
  have hreturned : Step (env hash) s₈ (.submitReturned 0 c result)
      (s₈.setLane 0 (.holds d (.observed c result))) := by
    have hstep := @Step.submitReturned (env hash) s₈ 0 d c result none hlane
    rwa [hobserved] at hstep
  have hobserving : (s₈.setLane 0 (.holds d (.observed c result))).lanes 0 = .holds d (.observed c result) :=
    System.setLane_self _ _ _
  exact ⟨hash, _, _, d, c, hc, (hr.next hreturned).next (.readForFinalize hobserving),
    System.setLane_self _ _ _, hstarted⟩

/-- A policy and a draw from it. -/
theorem exists_delay :
    ∃ (backoff : Machine.DeliveryFullJitterBackoff) (rand : Machine.Rand) (delay : Duration),
    backoff.nextDelay 1 rand = some delay := by
  have hbounds : Duration.millisecond ≤ Duration.millisecond ∧
      Duration.millisecond ≤ Duration.day := by decide
  let backoff : Machine.DeliveryFullJitterBackoff :=
    ⟨Duration.millisecond, Duration.millisecond, hbounds.1, hbounds.1, hbounds.2⟩
  let rand : Machine.Rand := ⟨fun n hn => ⟨0, by decide, hn⟩⟩
  obtain ⟨delay, hdelay, -⟩ := (backoff.draws 1).delay rand
  exact ⟨backoff, rand, delay, hdelay⟩

end Sample

section Totality

variable {E : Env} {h : History} {s : System}

/-- Claim and finalize are total. A claim of a command that was read from a copy of a request starts
an attempt, expires the message, finds it past the command, or meets an error of the storage. A
valid result of an attempt, and every failure to build its material, passes the fence and every
check of the code, and leaves the message out of SENDING with the status of the attempt, of the
message and the disposition in agreement, exactly if no text of the result holds U+0000. -/
theorem dispatch_total_iff (hr : Reached E h s) (hc : E.L.CollisionFree E.ids) :
    (∀ i d command read now, s.lanes i = .holds d (.claiming command read now) →
      (∃ o ∈ read.outbox, CopyOf o.event d) →
      uuidColumn command.tenantID = some command.tenantID → E.L.Stores now →
      (∀ r ∈ read.messages, r.snapshot.id = command.messageID → r.snapshot.acceptedAt ≤ now) →
      ∀ providerKey attemptID, validateProviderKey providerKey = .ok () →
        ClaimEnds (claim E.L providerKey attemptID command read now s.db)) ∧
    (∀ i d c observed read now, s.lanes i = .holds d (.finalizing c observed read now) → E.L.Stores now →
      c.attempt.startedAt ≤ now → ∀ (backoff : Machine.DeliveryFullJitterBackoff) attemptNumber rand delay,
      backoff.nextDelay attemptNumber rand = some delay →
        ∀ result : ProviderResult, result.validate = .ok () →
        ∃ r ∈ s.db.messages, ∃ a m completion disposition,
          Finalizes E.L c result delay.toInt read now s.db r a m completion disposition) ∧
    ∀ e, (materialBuildProviderResult e).validate = .ok () ∧
      ∀ text ∈ (materialBuildProviderResult e).texts, Plain text := by
  refine ⟨?_, ?_, fun e => ?_⟩
  · intro i d command read now hlane hcopy htenant hclock hafter providerKey attemptID hkey
    exact Reached.claim_ends hr hc hlane hcopy htenant hclock hafter providerKey attemptID hkey
  · intro i d c observed read now hlane hclock hafter backoff attemptNumber rand delay hdelay result hv
    exact Reached.finalizes hr hc hlane hclock hafter (backoff.allowedDelay hdelay) hv
  · obtain ⟨hv, hplain⟩ := materialBuildProviderResult_valid e
    exact ⟨ProviderResult.validate_eq_ok.2 hv, hplain⟩

end Totality

/-- A message is claimed, and the provider's answer is recorded. -/
theorem dispatch_total_iff_recorded :
    (∃ E h s i d command read now providerKey attemptID, Reached E h s ∧
      s.lanes i = .holds d (.claiming command read now) ∧
      ClaimEnds (claim E.L providerKey attemptID command read now s.db)) ∧
    ∃ E h s i d c result read now delay db' dispatched, Reached E h s ∧
      s.lanes i = .holds d (.finalizing c result read now) ∧ result.validate = .ok () ∧
      finalize E.L c result delay read now s.db = .ok (db', dispatched) := by
  have hkey : validateProviderKey "smtp" = .ok () := check_eq_ok.2 (by decide)
  have hvalid : ProviderResult.validate ⟨.accepted, "smtp/1", none⟩ = .ok () :=
    ProviderResult.validate_eq_ok.2 (.accepted (by decide))
  have hplain : ∀ text ∈ ProviderResult.texts ⟨.accepted, "smtp/1", none⟩, Plain text := by decide
  constructor
  · obtain ⟨hash, h, s, d, command, hc, hr, hlane, hcopy, htenant, haccepted⟩ := Sample.exists_claiming
    refine ⟨Sample.env hash, h, s, 0, d, command, s.db, Sample.now, "smtp", Sample.attemptID, hr, hlane, ?_⟩
    exact (dispatch_total_iff hr hc).1 0 d command s.db Sample.now hlane hcopy htenant
      (Sample.stores hash Sample.now (by simp))
        (fun r hmem _ => haccepted r hmem) "smtp" Sample.attemptID hkey
  · obtain ⟨hash, h, s, d, c, hc, hr, hlane, hstarted⟩ := Sample.exists_finalizing hvalid
    obtain ⟨backoff, rand, delay, hdelay⟩ := Sample.exists_delay
    obtain ⟨r, -, a, m, completion, disposition, hfinalizes⟩ :=
      (dispatch_total_iff hr hc).2.1 0 d c _ s.db Sample.now hlane
      (Sample.stores hash Sample.now (by simp)) hstarted.le backoff 1 rand delay hdelay _ hvalid
    obtain ⟨db', hcommitted, -⟩ := hfinalizes.committed hplain
    exact ⟨Sample.env hash, h, s, 0, d, c, _, s.db, Sample.now, delay.toInt, db', _, hr,
      hlane, hvalid, hcommitted⟩

/-- A valid result whose id holds U+0000: the message stays SENDING, whatever the delay. -/
theorem dispatch_result_refused : ∃ E h s i d c result read now, Reached E h s ∧ E.L.CollisionFree E.ids ∧
    s.lanes i = .holds d (.finalizing c result read now) ∧ E.L.Stores now ∧ c.attempt.startedAt ≤ now ∧
    result = ⟨.accepted, "a\x00b", none⟩ ∧ result.validate = .ok () ∧
    ∃ r ∈ s.db.messages, uuidColumn c.command.messageID = some r.snapshot.id ∧ r.snapshot.status = .sending ∧
      ∀ delay, AllowedDelay delay → ∃ e, finalize E.L c result delay read now s.db = .error e := by
  have hvalid : ProviderResult.validate ⟨.accepted, "a\x00b", none⟩ = .ok () :=
    ProviderResult.validate_eq_ok.2 (.accepted (by decide))
  have hnul : ¬ ∀ text ∈ ProviderResult.texts ⟨.accepted, "a\x00b", none⟩, Plain text := by decide
  obtain ⟨hash, h, s, d, c, hc, hr, hlane, hstarted⟩ := Sample.exists_finalizing hvalid
  have hclock := Sample.stores hash Sample.now (by simp)
  obtain ⟨r, a, hrun⟩ := Reached.running hr (progress_holds hlane)
  refine ⟨Sample.env hash, h, s, 0, d, c, _, s.db, Sample.now, hr, hc, hlane, hclock, hstarted.le,
    rfl, hvalid, r, hrun.mem, by rw [hrun.held.messageID, hrun.messageID], hrun.sending,
    fun delay hdelay => ?_⟩
  obtain ⟨r', -, a', m, completion, disposition, hfinalizes⟩ :=
    Reached.finalizes hr hc hlane hclock hstarted.le hdelay hvalid
  exact hfinalizes.refused hnul

end MailService
