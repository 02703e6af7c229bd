import MailService.Repository
/-!
# What is read back

A message that is written by position and read by position is the message that was
written, with the times that its columns keep. What the statements refuse, and what
reading refuses, comes from outside the service: the texts of a provider, of the
catalog and of a request, and a clock that runs backwards.
-/
open Text Checks Sql Table Runs

namespace MailService

open Db

/-! ## Counters -/

section Saved

variable {E : Env} {h : History} {s : System} {db : Db} {r : MessageRow} {record : MessageRecord}
  {m : Message} {now : Time}
  {op : Operation}

/-- The failures of a moved message have passed their check. -/
theorem Moved.failure_valid (hm : Moved now r.message m) (hs : r.SoundIn db) :
    ∀ f ∈ m.lastFailure, f.validate = .ok () := by
  intro f hf
  rcases hm.lastFailure f hf with hold | hvalid
  · exact hs.failure f hold
  · exact hvalid

theorem Moved.typed (hm : Moved now r.message m) (hs : r.SoundIn db) : m.snapshot.Typed where
  status := Status.ofText_text (valid_of_edge hm.edge).2
  failure f hf := FailureCategory.ofText_text (Failure.validate_eq_ok.1 (hm.failure_valid hs f hf)).1

/-- The row of a move is within its constraints exactly if the clock has not gone back behind the
message's acceptance and the texts of the provider can be stored. -/
theorem Moved.updatedRow_allowed_iff (hm : Moved now r.message m) (hs : r.SoundIn db) :
    (updatedRow r m.snapshot).Allowed ↔
      r.snapshot.acceptedAt ≤ now ∧ varchar 512 m.providerMessageID ∧ ∀ f ∈ m.lastFailure, Plain f.code := by
  have hfailures : (∀ f ∈ m.lastFailure, failureColumns f) ↔ ∀ f ∈ m.lastFailure, Plain f.code :=
    forall₂_congr fun f hf => failureColumns_iff (hm.failure_valid hs f hf)
  constructor
  · intro hallowed
    have hupdated : r.snapshot.acceptedAt ≤ truncate m.updatedAt := by
      obtain ⟨-, -, -, -, -, ⟨-, -, -, -, hupdated, -⟩, -⟩ := hallowed
      exact hupdated
    have hnow : r.snapshot.acceptedAt ≤ now := by
      rw [hm.updatedAt] at hupdated
      exact hupdated.trans (truncate_le now)
    obtain ⟨hprovider, hfailure⟩ := (hm.allowed_iff hs hnow).1 hallowed
    exact ⟨hnow, hprovider, hfailures.1 hfailure⟩
  · rintro ⟨hnow, hprovider, hfailure⟩
    exact (hm.allowed_iff hs hnow).2 ⟨hprovider, hfailures.2 hfailure⟩

/-- What a message becomes when it is saved and loaded again. -/
def Message.reloaded (m : Message) : Message where
  toSnapshot := { m.snapshot.truncated with version := m.version + 1 }
  pendingEvents := []

theorem Moved.updatedRow_record (hm : Moved now r.message m) (hs : r.SoundIn db) :
    (updatedRow r m.snapshot).record = { r.record with message := m.reloaded } := by
  have hid : m.id = r.snapshot.id := hm.id
  have hversion : m.version = r.snapshot.version := hm.version
  have haccepted : truncate m.acceptedAt = r.snapshot.acceptedAt :=
    (congrArg truncate hm.acceptedAt).trans (congrArg Snapshot.acceptedAt hs.stored)
  have hsnapshot : (updatedRow r m.snapshot).snapshot =
      { m.snapshot.truncated with version := m.version + 1 } := by
    simp only [updatedRow, Snapshot.truncated, ← hid, ← hversion, ← haccepted]
  simp only [MessageRow.record, MessageRow.message, hsnapshot]
  rfl

section Statement

variable (hr : Reached E h s) (hmem : r ∈ s.db.messages) (hm : Moved now r.message m)

include hr hmem hm

/-- The row of a move that is within its constraints is read as the moved message, if the row before
it could be read. -/
theorem Reached.scan_updatedRow (hloadable : r.Loadable) (hallowed : (updatedRow r m.snapshot).Allowed) :
    scanMessageColumns (select messageColumns (updatedRow r m.snapshot).columns) =
      .ok { r.record with message := m.reloaded } := by
  have hsound := (Reached.ok hr).sound
  have hs := hsound.rows r hmem
  obtain ⟨hlt, hcounters⟩ := hm.counters hs
  -- the statement writes the next version, which has to fit its column as well
  have hcounters' : databaseCounters (updatedRow r m.snapshot).snapshot = .ok () := by
    obtain ⟨hgeneration, hsequence, -, hattempts, hmax⟩ := databaseCounters_eq_ok.1 hcounters
    have hversion : r.snapshot.version + 1 ≤ maxInt64 := by
      rw [← show m.version = r.snapshot.version from hm.version]
      exact hlt
    exact databaseCounters_eq_ok.2 ⟨hgeneration, hsequence, hversion, hattempts, hmax⟩
  have haccepted : r.snapshot.acceptedAt ≠ 0 := (validateSnapshot_eq_ok.1 hloadable.snapshot).times.1
  have hchecked : (updatedRow r m.snapshot).Checked := ⟨hs.checked.idempotencyKey, hs.checked.submission⟩
  have hloadable' : (updatedRow r m.snapshot).Loadable :=
    (hallowed.loadable_iff hchecked (hm.failure_valid hs) (hsound.keyed.canonical r hmem) haccepted).2
      fun d hd =>
      (hs.checked.submission d hd).1 (hloadable.submission d hd)
  rw [scanMessageColumns_select hallowed hcounters', ← hm.updatedRow_record hs]
  exact scanMessageRecord_eq_ok.2 ⟨hloadable', rfl⟩

/-- The statement that saves a move writes its row exactly if the row is within its constraints. `Q`
is what is asked of that row besides. -/
theorem Reached.save_iff {Q : Row MessageColumn → Prop}
    (hQ : (updatedRow r m.snapshot).Allowed → Q (updatedRow r m.snapshot).columns) :
    (∃ arguments row, updateArguments m.snapshot = .ok arguments ∧ updateSelects arguments r.columns ∧
        updateMessageQuery arguments r.columns = some row ∧ Satisfies row ∧ Q row) ↔
      r.snapshot.acceptedAt ≤ now ∧ varchar 512 m.providerMessageID ∧ ∀ f ∈ m.lastFailure, Plain f.code := by
  have hsound := (Reached.ok hr).sound
  have hs := hsound.rows r hmem
  obtain ⟨hlt, hcounters⟩ := hm.counters hs
  have hversion : r.snapshot.version < maxInt64 := by
    rw [← show m.version = r.snapshot.version from hm.version]
    exact hlt
  have harguments : updateArguments m.snapshot = .ok m.arguments := by
    rw [updateArguments_eq, check_bind hlt, hcounters]
    rfl
  -- the version that was loaded is still that of the row
  have hselects : updateSelects m.arguments r.columns := by
    have hid : uuidColumn m.id = some r.snapshot.id := by
      rw [show m.id = r.snapshot.id from hm.id]
      exact (hsound.keyed.canonical r hmem).1
    exact (updateSelects_columns hid hlt (Reached.inColumns hr r hmem).2).2 ⟨rfl, hm.version.symm⟩
  have hupdate {row : Row MessageColumn} :
      updateMessageQuery m.arguments r.columns = some row ∧ Satisfies row ↔
        (updatedRow r m.snapshot).Allowed ∧ row = (updatedRow r m.snapshot).columns :=
    update_refines hs.allowed (hm.typed hs) hcounters hversion
  rw [← hm.updatedRow_allowed_iff hs]
  constructor
  · rintro ⟨arguments, row, hargs, -, hquery, hsatisfies, -⟩
    obtain rfl : arguments = m.arguments := Except.ok.inj (hargs.symm.trans harguments)
    exact (hupdate.1 ⟨hquery, hsatisfies⟩).1
  · intro hallowed
    obtain ⟨hquery, hsatisfies⟩ := hupdate.2 ⟨hallowed, rfl⟩
    exact ⟨_, _, harguments, hselects, hquery, hsatisfies, hQ hallowed⟩

end Statement

/-- An operation that changes a loaded message moves the message of its row. -/
theorem Reached.moved_of_perform (hr : Reached E h s) (hmem : r ∈ s.db.messages)
    (hload : s.db.getByID r.snapshot.id = .ok record) (hperform : record.message.perform op = (m, .changed)) :
    r.Loadable ∧ record = r.record ∧ Moved op.occurredAt r.message m := by
  rw [getByID_eq_scan (Reached.ok hr).sound.keyed hmem, scanMessageRecord_eq_ok] at hload
  obtain ⟨hloadable, rfl⟩ := hload
  exact ⟨hloadable, rfl, (Message.perform_changed hperform).1⟩

/-- A stored message whose time has come, and the move that queues it. -/
theorem Sample.exists_queued : ∃ E h s r record m, Reached E h s ∧ Precise h ∧ r ∈ s.db.messages ∧ r.Short ∧
    s.db.getByID r.snapshot.id = .ok record ∧ record.message.perform (.queue Sample.later) = (m, .changed) ∧
    record.message.acceptedAt ≤ Sample.later ∧ varchar 512 m.providerMessageID ∧
    ∀ f ∈ m.lastFailure, Plain f.code := by
  obtain ⟨hm, hlen, hobject, hstored⟩ := Sample.metadata_empty
  obtain ⟨hash, canonical, m, row, hc, hmessage, hrow, hp, ha⟩ :=
    Sample.exists_accepted (.inr rfl) hm hlen hobject hstored
  have hr := Reached.accepts (Sample.reached_start hash) rfl hp ha
  have hshort := Sample.newRow_short hrow hlen.2
  have hload := getByID_of_mem (Reached.ok hr).sound.keyed mem_acceptedDb
    ((Reached.loadable_iff hr Sample.precise mem_acceptedDb).2 hshort)
  have hsnapshot : row.snapshot.status = .scheduled ∧ row.snapshot.providerMessageID = "" ∧
    row.snapshot.lastFailure = none ∧
      row.snapshot.acceptedAt = truncate Sample.now ∧
      row.snapshot.dispatchDeadline = truncate (truncate Sample.deadline) := by
    rw [hrow, hmessage]
    exact ⟨rfl, rfl, rfl, rfl, rfl⟩
  obtain ⟨hstatus, hprovider, hfailure, haccepted, hdeadline⟩ := hsnapshot
  have hbefore : Sample.later < row.message.dispatchDeadline := by
    rw [show row.message.dispatchDeadline = _ from hdeadline]
    decide
  have hedge : canTransition row.message.status .queued = true := by
    rw [show row.message.status = _ from hstatus]
    rfl
  have hperform : row.record.message.perform (.queue Sample.later) =
      ((row.message.queue Sample.later).1, .changed) := by
    change (row.message.queue Sample.later).map id Outcome.ofError = _
    rw [Message.queue, if_neg (not_not.2 hbefore), hedge]
    rfl
  have htexts : row.record.message.acceptedAt ≤ Sample.later ∧
      varchar 512 (row.message.queue Sample.later).1.providerMessageID ∧
      ∀ f ∈ (row.message.queue Sample.later).1.lastFailure, Plain f.code := by
    rw [Message.queue, if_neg (not_not.2 hbefore), hedge]
    change row.snapshot.acceptedAt ≤ _ ∧ varchar 512 row.snapshot.providerMessageID ∧
      ∀ f ∈ row.snapshot.lastFailure, Plain f.code
    rw [haccepted, hprovider, hfailure]
    exact ⟨by decide, by decide, fun f hf => absurd hf (Option.not_mem_none f)⟩
  exact ⟨_, _, _, row, _, _, hr, Sample.precise, mem_acceptedDb, hshort, hload, hperform, htexts⟩

/-- An operation on a message that was loaded is written and read back with nothing but its times
rounded, exactly if the clock has not gone back behind the message's acceptance and the texts of the
provider can be stored. -/
theorem saved_message_round_trip_iff (hr : Reached E h s) (hmem : r ∈ s.db.messages)
    (hload : s.db.getByID r.snapshot.id = .ok record) (hperform : record.message.perform op = (m, .changed)) :
    (∃ arguments row, updateArguments m.snapshot = .ok arguments ∧ updateSelects arguments r.columns ∧
        updateMessageQuery arguments r.columns = some row ∧ Satisfies row ∧
        scanMessageColumns (select messageColumns row) = .ok { record with message := m.reloaded }) ↔
      record.message.acceptedAt ≤ op.occurredAt ∧ varchar 512 m.providerMessageID ∧
        ∀ f ∈ m.lastFailure, Plain f.code := by
  obtain ⟨hloadable, rfl, hm⟩ := hr.moved_of_perform hmem hload hperform
  exact hr.save_iff hmem hm (hr.scan_updatedRow hmem hm hloadable)

/-- A scheduled message whose time has come is queued, written and read back. -/
theorem saved_message_round_trip_queued : ∃ E h s r record m, Reached E h s ∧ r ∈ s.db.messages ∧
    s.db.getByID r.snapshot.id = .ok record ∧ record.message.perform (.queue Sample.later) = (m, .changed) ∧
    ∃ arguments row, updateArguments m.snapshot = .ok arguments ∧ updateSelects arguments r.columns ∧
      updateMessageQuery arguments r.columns = some row ∧ Satisfies row ∧
      scanMessageColumns (select messageColumns row) = .ok { record with message := m.reloaded } := by
  obtain ⟨E, h, s, r, record, m, hr, -, hmem, -, hload, hperform, htexts⟩ := Sample.exists_queued
  exact ⟨E, h, s, r, record, m, hr, hmem, hload, hperform,
    (saved_message_round_trip_iff hr hmem hload hperform).2 htexts⟩

end Saved

/-! ## A message that is created -/

section Created

variable {L : Libs} {catalog : SubmissionCatalog} {protector : Protector}
  {command : SubmitEmailCommand} {drawn : Uuid}
  {nonce : Nonce} {p : PreparedSubmission} {now : Time} {record : MessageRecord}

/-- A key character is no NUL. -/
theorem isKeyChar_ne_nul {c : Char} (h : isKeyChar c = true) : c ≠ '\x00' := by
  rintro rfl
  revert h
  decide

theorem plain_of_idempotencyKeyPattern {key : String} (h : idempotencyKeyPattern key = true) : Plain key := by
  simp only [idempotencyKeyPattern, Bool.and_eq_true, List.all_eq_true] at h
  exact fun hnul => isKeyChar_ne_nul (h.2 _ hnul) rfl

theorem plain_of_validRegisteredKey {key : String} {maximum : Nat}
    (h : validRegisteredKey key maximum = true) : Plain key := by
  simp only [validRegisteredKey, registeredKeyPattern, Bool.and_eq_true] at h
  obtain ⟨-, hpattern⟩ := h
  intro hnul
  split at hpattern
  · cases hpattern
  · rename_i c cs hlist
    simp only [Bool.and_eq_true, List.all_eq_true] at hpattern
    rw [hlist] at hnul
    rcases List.mem_cons.1 hnul with rfl | hmem
    · have hfirst : isKeyChar '\x00' = true := by rw [isKeyChar, hpattern.1, Bool.true_or]
      exact isKeyChar_ne_nul hfirst rfl
    · exact isKeyChar_ne_nul (hpattern.2 _ hmem) rfl

/-- What a prepared submission takes from outside can be stored, and its metadata can be read back. -/
structure PreparedSubmission.Kept (p : PreparedSubmission) (tenant stored : String) : Prop where
  tenantID : uuidColumn p.normalized.tenantID = some tenant
  metadata : jsonbColumn p.metadata = some stored ∧ len stored ≤ 4 * 1024
  templateVersion : p.resolved.version ≤ maxInt32
  texts : Plain p.resolved.locale ∧ Plain (maskEmail p.normalized.recipientEmail) ∧
    Plain p.sealedPayload.keyID

/-- What is stored and read back of a submission's details. -/
theorem PreparedSubmission.Kept.columns {tenant stored : String} (h : p.Kept tenant stored)
    (hdetails : p.details.validate = .ok ()) (hsender : Plain p.normalized.senderIdentityKey)
    (htemplate : Plain p.resolved.key) :
    submissionColumns { p.details with metadata := stored } := by
  obtain ⟨⟨hs, hs'⟩, ⟨ht, ht'⟩, hversion, ⟨hl, hl'⟩, ⟨hm, hm'⟩, ⟨hk, hk'⟩, hpayload, -, hobject⟩ :=
    SubmissionDetails.validate_eq_ok.1 hdetails
  obtain ⟨hlocale, hmasked, hkeyID⟩ := h.texts
  exact ⟨⟨notBtrimEmpty_of_trimSpace hs, (varchar_of_len hs').2 hsender⟩,
    ⟨notBtrimEmpty_of_trimSpace ht, (varchar_of_len ht').2 htemplate⟩,
    ⟨Nat.pos_of_ne_zero hversion, h.templateVersion⟩,
    ⟨notBtrimEmpty_of_trimSpace hl, (varchar_of_len hl').2 hlocale⟩,
    ⟨notBtrimEmpty_of_trimSpace hm, (varchar_of_len hm').2 hmasked⟩,
    ⟨notBtrimEmpty_of_trimSpace hk, (varchar_of_len hk').2 hkeyID⟩, hpayload,
    isJSONObject_jsonbColumn h.metadata.1 hobject⟩

/-- A row that was stored and can be read has kept what its submission took from outside. -/
theorem PreparedSubmission.kept_of_loadable {m : Message} {r : MessageRow}
    (hrow : createRow (p.record m) = some r) (hallowed : r.Allowed) (hshort : r.Short) :
    ∃ stored, r.submission = some { p.details with metadata := stored } ∧ p.Kept r.tenantID stored := by
  obtain ⟨-, htenant, -⟩ := createRow_eq_some hrow
  obtain ⟨-, -, -, hsubmission⟩ := createRow_policy hrow
  obtain ⟨d, hd⟩ : ∃ d, r.submission = some d := by
    cases hr : r.submission with
    | some d => exact ⟨d, rfl⟩
    | none =>
      rw [hr] at hsubmission
      change Option.mapM _ (some p.details) = _ at hsubmission
      simp [Option.mapM_some] at hsubmission
  obtain ⟨original, horiginal, stored, hstored, rfl⟩ := createRow_submission hrow d hd
  obtain rfl : p.details = original := Option.some.inj horiginal
  obtain ⟨-, -, -, -, -, -, hcolumns⟩ := hallowed
  obtain ⟨-, -, ⟨-, hversion⟩, ⟨-, hlocale, -⟩, ⟨-, hmasked, -⟩, ⟨-, hkeyID, -⟩, -⟩ := hcolumns _ hd
  exact ⟨stored, hd, htenant, ⟨hstored, hshort _ hd⟩, hversion, hlocale, hmasked, hkeyID⟩

section Prepared

variable {email locale templateVariables tenant stored : String} {m : Message}

/-- What a prepared submission takes from its own checks can be stored. -/
theorem PreparedSubmission.From.storable
    (hfrom : p.From L catalog protector command drawn nonce email locale templateVariables)
    (hvalid : (p.record m).validate = .ok ()) (hkept : p.Kept tenant stored) : p.Storable tenant stored := by
  obtain ⟨htenant, hkey, hcategory, hpriority, hpolicy, hdetails, -⟩ := record_validate_eq_ok.1 hvalid
  obtain ⟨hdispatch, hschedule⟩ := hfrom.truncated
  have hsender : Plain p.normalized.senderIdentityKey := by
    rw [hfrom.normalized]
    exact plain_of_validRegisteredKey hfrom.checked.senderIdentityKey
  have htemplate : Plain p.resolved.key := by
    rw [(validateResolvedTemplate_eq_ok.1 hfrom.template).1.1, hfrom.normalized]
    exact plain_of_validRegisteredKey hfrom.checked.templateKey
  have hplain : Plain p.normalized.idempotencyKey := by
    rw [hfrom.normalized]
    exact plain_of_idempotencyKeyPattern hfrom.checked.idempotencyKey
  exact ⟨⟨htenant, hkept.tenantID⟩, ⟨hkey, hplain⟩, ⟨hcategory, hpriority, hpolicy⟩,
    hdispatch, hschedule, hdetails, hkept.metadata.1, hkept.columns hdetails hsender htemplate⟩

variable {r : MessageRow} (hm : Message.new (submissionParams p now) = .ok m)

include hm

theorem PreparedSubmission.createArguments_record :
    createArguments (p.record m) = .ok (select messageColumns (p.record m).row.columns) := by
  rw [createArguments_eq, created_counters (Message.new_moved hm).1]
  rfl

theorem PreparedSubmission.createRow_counters (hrow : createRow (p.record m) = some r) :
    databaseCounters r.snapshot = .ok () :=
  MailService.createRow_counters hrow (created_counters (Message.new_moved hm).1)

/-- The statement that inserts a new message writes its row, if it is within its constraints. -/
theorem PreparedSubmission.insert_iff (hvalid : (p.record m).validate = .ok ())
    (hversion : p.resolved.version < 2 ^ 32) {row : Row MessageColumn} :
    insertMessageQuery (select messageColumns (p.record m).row.columns) = some row ∧ Satisfies row ↔
      ∃ r, createRow (p.record m) = some r ∧ r.Allowed ∧ row = r.columns :=
  insert_refines (record_typed hm hvalid hversion) (created_counters (Message.new_moved hm).1)

/-- The row of a new message can be read exactly if its metadata is within the limit. -/
theorem PreparedSubmission.createRow_loadable_iff (hvalid : (p.record m).validate = .ok ())
    (hrow : createRow (p.record m) = some r) (hallowed : r.Allowed) (hclock : truncate now = now) :
    r.Loadable ↔ r.Short := by
  have hmoved := (Message.new_moved hm).1
  obtain ⟨hid, htenant, -, -, hsnapshot⟩ := createRow_eq_some hrow
  -- a clock of whole microseconds loses nothing in the column, so the zero time does not appear there
  have haccepted : r.snapshot.acceptedAt ≠ 0 := by
    rw [hsnapshot]
    change truncate m.acceptedAt ≠ 0
    rw [hmoved.acceptedAt]
    change truncate now ≠ 0
    rw [hclock]
    exact (Message.new_eq_ok.1 hm).1.now
  have hfailure : ∀ f ∈ r.snapshot.lastFailure, f.validate = .ok () := by
    rw [hsnapshot]
    exact Message.new_failure hm
  exact hallowed.loadable_iff (createRow_checked hrow hvalid) hfailure
    ⟨uuidColumn_stable hid, uuidColumn_stable htenant⟩ haccepted

end Prepared

/-- The message of a submission is written and read back with nothing but its times rounded, its
tenant spelled as its column spells it and its metadata as `jsonb` returns it, exactly if what it
takes from outside can be stored and read. -/
theorem created_message_round_trip_iff
    (hp : prepareSubmission L catalog protector command drawn nonce = .ok p)
    (hrecord : submissionRecord p now = .ok record) (hvalid : record.validateForCreate = .ok ())
    (hclock : truncate now = now) (hversion : p.resolved.version < 2 ^ 32) (tenant stored : String) :
    (∃ arguments row, createArguments record = .ok arguments ∧
        insertMessageQuery arguments = some row ∧ Satisfies row ∧
        scanMessageColumns (select messageColumns row) = .ok { record with
          tenantID := tenant
          message := { record.message.snapshot.truncated with pendingEvents := [] }
          submission := some { p.details with metadata := stored } }) ↔
      p.Kept tenant stored := by
  obtain ⟨email, locale, templateVariables, hfrom⟩ := prepareSubmission_eq_ok.1 hp
  obtain ⟨htimes, m, hm, rfl⟩ := submissionRecord_eq_ok.1 hrecord
  have hchecks : (p.record m).validate = .ok () := by
    rw [MessageRecord.validateForCreate, unit_bind_eq_ok] at hvalid
    exact hvalid.1
  have harguments := PreparedSubmission.createArguments_record hm
  constructor
  · rintro ⟨arguments, row, hargs, hquery, hsatisfies, hscan⟩
    obtain rfl : _ = arguments := Except.ok.inj (harguments.symm.trans hargs)
    obtain ⟨r, hrow, hallowed, rfl⟩ :=
      (PreparedSubmission.insert_iff hm hchecks hversion).1 ⟨hquery, hsatisfies⟩
    rw [scanMessageColumns_select hallowed (PreparedSubmission.createRow_counters hm hrow),
      scanMessageRecord_eq_ok] at hscan
    obtain ⟨hload, hback⟩ := hscan
    have hchecked := createRow_checked hrow hchecks
    obtain ⟨stored', hsubmission, hkept⟩ := PreparedSubmission.kept_of_loadable hrow hallowed fun d hd =>
      (hchecked.submission d hd).1 (hload.submission d hd)
    -- the record that was read names the tenant and the metadata of the row
    obtain rfl : tenant = r.tenantID := congrArg MessageRecord.tenantID hback
    have hsame : some { p.details with metadata := stored } = some { p.details with metadata := stored' } :=
      (congrArg MessageRecord.submission hback).trans hsubmission
    obtain rfl : stored = stored' := congrArg SubmissionDetails.metadata (Option.some.inj hsame)
    exact hkept
  · intro hkept
    have hstorable := hfrom.storable hchecks hkept
    obtain ⟨hparams, rfl⟩ := Message.new_eq_ok.1 hm
    have hrow := hstorable.stored_row hfrom.messageID (Message.new_moved hm).1.id
    have hallowed := hstorable.allowed hfrom.messageID htimes hparams.now
    obtain ⟨hquery, hsatisfies⟩ :=
      (PreparedSubmission.insert_iff hm hchecks hversion).2 ⟨_, hrow, hallowed, rfl⟩
    refine ⟨_, _, harguments, hquery, hsatisfies, ?_⟩
    rw [scanMessageColumns_select hallowed (PreparedSubmission.createRow_counters hm hrow)]
    refine scanMessageRecord_eq_ok.2 ⟨?_, rfl⟩
    refine (PreparedSubmission.createRow_loadable_iff hm hchecks hrow hallowed hclock).2 fun d hd => ?_
    rw [← Option.some.inj hd]
    exact hkept.metadata.2

/-- A submission without metadata is read back as it was written. -/
theorem created_message_round_trip_empty :
    ∃ L catalog protector command drawn nonce p now record tenant stored,
    prepareSubmission L catalog protector command drawn nonce = .ok p ∧ submissionRecord p now = .ok record ∧
    ∃ arguments row, createArguments record = .ok arguments ∧
      insertMessageQuery arguments = some row ∧ Satisfies row ∧
      scanMessageColumns (select messageColumns row) = .ok { record with
        tenantID := tenant
        message := { record.message.snapshot.truncated with pendingEvents := [] }
        submission := some { p.details with metadata := stored } } := by
  obtain ⟨hm, hlen, hobject, hstored⟩ := Sample.metadata_empty
  obtain ⟨hash, canonical, m, row, -, -, -, hp, ha⟩ :=
    Sample.exists_accepted (.inr rfl) hm hlen hobject hstored
  have hrecord := submissionRecord_eq_ok.2 ⟨ha.times, m, ha.new, rfl⟩
  have hvalid : ((Sample.prepared (some Sample.later) "\x7b\x7d" canonical).record m).validateForCreate =
      .ok () := by
    rw [MessageRecord.validateForCreate, ha.valid, ok_bind, check_eq_ok]
    exact ha.moved.version
  have hclock : truncate Sample.now = Sample.now := by decide
  have hversion : (Sample.prepared (some Sample.later) "\x7b\x7d" canonical).resolved.version < 2 ^ 32 := by
    change 1 < 2 ^ 32
    decide
  refine ⟨_, _, _, _, _, _, _, _, _, Sample.tenant.text, "\x7b\x7d", hp, hrecord,
    (created_message_round_trip_iff hp hrecord hvalid hclock hversion _ _).2 ?_⟩
  have htexts : Plain "en" ∧ Plain (maskEmail "ann@example.com") ∧ Plain "k1" := by decide
  have hfits : 1 ≤ maxInt32 := by decide
  exact ⟨uuidColumn_text _, ⟨hstored, hlen.2⟩, hfits, htexts⟩

end Created

/-! ## Every message of the system -/

section Persistence

variable {E : Env} {h : History} {s : System}

end Persistence

end MailService
