import MailService.Storage
/-!
# Replays

A submission is repeated with the same command, and draws a new id and a new nonce. Its
transaction compares the deadline with the new time before it looks at the key: until the
deadline the replay finds the stored message, after it the replay is refused.
-/
open Text Checks Table Runs

namespace MailService

open Db

/-! ## Preparing again -/

/-- The length of what AES-GCM seals depends on the plaintext alone. -/
def Protector.Uniform (p : Protector) : Prop :=
  ∀ nonce nonce' plaintext data data',
    (p.aeadSeal nonce plaintext data).length = (p.aeadSeal nonce' plaintext data').length

/-- Another preparation of the same submission: only the id and the ciphertext are new. -/
structure PreparedSubmission.Again (p p' : PreparedSubmission) : Prop where
  normalized : p'.normalized = p.normalized
  metadata : p'.metadata = p.metadata
  resolved : p'.resolved = p.resolved
  fingerprint : p'.fingerprint = p.fingerprint
  keyID : p'.sealedPayload.keyID = p.sealedPayload.keyID
  ciphertext : 29 ≤ p'.sealedPayload.ciphertext.length
  messageID : ∃ u : Uuid, p'.messageID = u.text

section Prepared

variable {L : Libs} {catalog : SubmissionCatalog} {protector : Protector}
  {c : SubmitEmailCommand} {drawn : Uuid}
  {nonce : Nonce} {p p' : PreparedSubmission}

theorem prepareSubmission_again (hu : protector.Uniform)
    (hp : prepareSubmission L catalog protector c drawn nonce = .ok p) (drawn' : Uuid) (nonce' : Nonce) :
    ∃ p', prepareSubmission L catalog protector c drawn' nonce' = .ok p' ∧ p.Again p' := by
  obtain ⟨email, locale, templateVariables, hfrom⟩ := prepareSubmission_eq_ok.1 hp
  obtain ⟨⟨-, hplaintext⟩, hvalid, hpayload⟩ := Protector.sealPayload_eq_ok.1 hfrom.sealedPayload
  rw [hpayload] at hvalid
  obtain ⟨hkeyID, hlong⟩ := ProtectedPayload.validate_eq_ok.1 hvalid
  let data' := c.tenantID ++ "/" ++ drawn'.text
  let sealed' : ProtectedPayload :=
    ⟨protector.keyID, nonce'.bytes ++ protector.aeadSeal nonce'.bytes p.canonical data'⟩
  have hlong' : 29 ≤ sealed'.ciphertext.length := by
    have hsame := hu nonce.bytes nonce'.bytes p.canonical (c.tenantID ++ "/" ++ drawn.text) data'
    simp only [List.length_append, nonce.length_bytes, nonce'.length_bytes, sealed'] at hlong ⊢
    omega
  have hvalid' : sealed'.validate = .ok () := ProtectedPayload.validate_eq_ok.2 ⟨hkeyID, hlong'⟩
  have hdata : data' ≠ "" := by simp [data']
  have hseal := Protector.sealPayload_eq_ok.2 ⟨⟨hdata, hplaintext⟩, hvalid', rfl⟩
  refine ⟨{ p with messageID := drawn'.text, sealedPayload := sealed' },
    prepareSubmission_eq_ok.2
    ⟨email, locale, templateVariables, hfrom.checked, hfrom.normalized, hfrom.authorized, hfrom.resolved,
    hfrom.template, hfrom.canonical, rfl, hseal, hvalid', hfrom.fingerprint⟩, rfl, rfl, rfl, rfl, ?_,
    hlong', ⟨drawn', rfl⟩⟩
  rw [hpayload]

/-- The submission's columns differ in the ciphertext alone. -/
theorem PreparedSubmission.Again.details (ha : p.Again p') :
    p'.details = { p.details with encryptedPayload := p'.sealedPayload.ciphertext } := by
  simp only [PreparedSubmission.details, ha.normalized, ha.metadata, ha.resolved, ha.keyID]

/-- After its deadline a submission is refused, whatever is stored. -/
theorem PreparedSubmission.refused_after (p : PreparedSubmission) {now : Time} {db : Db}
    (hafter : ¬ now < p.normalized.dispatchDeadline) :
    submitTransaction L p now db =
      .error (.invalidSubmission "dispatch deadline must be after acceptance") := by
  have hrefused : validateSubmissionTimes now p.normalized.scheduledAt p.normalized.dispatchDeadline =
      .error (.invalidSubmission "dispatch deadline must be after acceptance") := by
    simp [validateSubmissionTimes, check, hafter]
  rw [submitTransaction, submissionRecord, hrefused]
  rfl

end Prepared

/-! ## The record of a replay -/

section Record

variable {L : Libs} {catalog : SubmissionCatalog} {protector : Protector}
  {c : SubmitEmailCommand} {drawn : Uuid}
  {nonce : Nonce} {t₁ t₂ : Time} {p p' : PreparedSubmission} {m m' : Message} {row r : MessageRow} {db : Db}
  (hs : Submitted L catalog protector c drawn nonce t₁ p m row) (ha : p.Again p')

include hs

/-- Of the checks on the times only the deadline can fail later. -/
theorem Submitted.times_later (hlater : t₁ ≤ t₂) :
    validateSubmissionTimes t₂ p.normalized.scheduledAt p.normalized.dispatchDeadline = .ok () ↔
      t₂ < p.normalized.dispatchDeadline := by
  have htimes := hs.times
  simp only [validateSubmissionTimes, check_bind_eq_ok] at htimes ⊢
  refine and_iff_left ?_
  cases hscheduled : p.normalized.scheduledAt with
  | none => rfl
  | some scheduled =>
    simp only [hscheduled, check_bind_eq_ok, check_eq_ok] at htimes ⊢
    obtain ⟨-, hbefore, hwindow⟩ := htimes
    exact ⟨hbefore, hwindow.trans (Nat.add_le_add_right hlater _)⟩

include ha

theorem Submitted.again_valid (hid : m'.id = p'.messageID) (hversion : m'.version = 0) :
    (p'.record m').validateForCreate = .ok () := by
  have hvalid := hs.valid
  obtain ⟨u, hu⟩ := ha.messageID
  have huuid : isUUID m'.id = true := by
    rw [hid, hu]
    exact isUUID_of_uuidColumn (uuidColumn_text u)
  simp only [MessageRecord.validateForCreate, unit_bind_eq_ok, check_eq_ok] at hvalid ⊢
  obtain ⟨htenant, hkey, hcategory, hpriority, hpolicy, hdetails, -⟩ :=
    PreparedSubmission.record_validate_eq_ok.1 hvalid.1
  refine ⟨PreparedSubmission.record_validate_eq_ok.2 ?_, hversion⟩
  rw [ha.normalized, ha.details]
  have hlong := ha.ciphertext
  simp only [SubmissionDetails.validate, check_bind_eq_ok, check_eq_ok] at hdetails ⊢
  obtain ⟨h₁, h₂, h₃, h₄, h₅, h₆, -, h₈⟩ := hdetails
  exact ⟨htenant, hkey, hcategory, hpriority, hpolicy, ⟨h₁, h₂, h₃, h₄, h₅, h₆, hlong, h₈⟩, huuid⟩

/-- The row that a replay tries to insert satisfies the constraints that the stored row does. -/
theorem Submitted.again_row (hfixed : r.fixed = row.fixed) (hallowed : r.Allowed) (hlater : t₁ ≤ t₂)
    (hdeadline : t₂ < p.normalized.dispatchDeadline) (hnew : Message.new (submissionParams p' t₂) = .ok m') :
    ∃ row', createRow (p'.record m') = some row' ∧ row'.Allowed ∧ row'.tenantID = r.tenantID ∧
      row'.idempotencyKey = r.idempotencyKey := by
  obtain ⟨tenant, stored, hcolumn, hstored, hholds⟩ := hs.holds (.refl row)
  obtain ⟨email, locale, templateVariables, hfrom⟩ := prepareSubmission_eq_ok.1 hs.prepared
  obtain ⟨hdispatch, hschedule⟩ := hfrom.truncated
  obtain ⟨u, hu⟩ := ha.messageID
  obtain ⟨hvalid, rfl⟩ := Message.new_eq_ok.1 hnew
  simp only [MessageRow.fixed, Prod.mk.injEq] at hfixed
  obtain ⟨f₁, f₂, -, f₄, f₅, f₆, f₇, -, -, -⟩ := hfixed
  obtain ⟨hkey, hkey', hcategory, hpriority, hpolicy, -, hcolumns⟩ := hallowed
  rw [f₂, hholds.idempotencyKey, ← ha.normalized] at hkey hkey'
  rw [f₄, hholds.category, ← ha.normalized] at hcategory
  rw [f₅, hholds.priority, ← ha.normalized] at hpriority
  rw [f₆, hholds.duplicateRiskPolicy, ← ha.normalized] at hpolicy
  have hcolumns' : submissionColumns { p'.details with metadata := stored } := by
    obtain ⟨h₁, h₂, h₃, h₄, h₅, h₆, -, h₈⟩ := hcolumns _ (f₇.trans hholds.submission)
    rw [ha.details]
    exact ⟨h₁, h₂, h₃, h₄, h₅, h₆, ha.ciphertext, h₈⟩
  have htimes := (hs.times_later hlater).2 hdeadline
  have hid : uuidColumn (routedMessage (submissionParams p' t₂)).id = some u.text := by
    have hmessage : (routedMessage (submissionParams p' t₂)).id = p'.messageID :=
      (Message.new_moved hnew).1.id
    rw [hmessage, hu]
    exact uuidColumn_text u
  have hcolumn' : uuidColumn p'.normalized.tenantID = some tenant := by rw [ha.normalized, hcolumn]
  have hstored' : jsonbColumn p'.metadata = some stored := by rw [ha.metadata, hstored]
  rw [← ha.normalized] at htimes hdispatch hschedule
  refine ⟨_, PreparedSubmission.createRow_record hid hcolumn' hstored',
    ⟨hkey, hkey', hcategory, hpriority, hpolicy,
    PreparedSubmission.snapshot_allowed hu htimes hvalid.now hdispatch hschedule, fun d hd => ?_⟩,
    hholds.tenantID.symm.trans f₁.symm, ?_⟩
  · rw [← Option.mem_some_iff.1 hd]
    exact hcolumns'
  · rw [f₂, hholds.idempotencyKey, ← ha.normalized]
    rfl

/-- Before the deadline, a replay finds the stored message. -/
theorem Submitted.again_duplicate (hfixed : r.fixed = row.fixed) (hallowed : r.Allowed) (hload : r.Loadable)
    (hfound : db.findKey r.tenantID r.idempotencyKey = some r) (hlater : t₁ ≤ t₂)
    (hdeadline : t₂ < p.normalized.dispatchDeadline) :
    submitTransaction L p' t₂ db = .ok (db, ⟨.duplicate, r.record⟩) := by
  obtain ⟨tenant, stored, hcolumn, -, hholds⟩ := hs.holds (.refl row)
  obtain ⟨-, -, -, hnow, -⟩ := Message.new_moved hs.new
  obtain ⟨u, hu⟩ := ha.messageID
  have htimes := (hs.times_later hlater).2 hdeadline
  rw [← ha.normalized] at htimes
  have hpos : t₂ ≠ 0 := ((Nat.pos_of_ne_zero hnow).trans_le hlater).ne'
  have hnew : Message.new (submissionParams p' t₂) = .ok (routedMessage (submissionParams p' t₂)) :=
    Message.new_eq_ok.2 ⟨PreparedSubmission.params_valid hu htimes hpos, rfl⟩
  have hmoved := (Message.new_moved hnew).1
  obtain ⟨row', hrow, hallowed', htenant, hkey⟩ := hs.again_row ha hfixed hallowed hlater hdeadline hnew
  have hvalid : (p'.record (routedMessage (submissionParams p' t₂))).validateForCreate = .ok () :=
    hs.again_valid ha hmoved.id hmoved.version
  have hrecord := submissionRecord_eq_ok.2 ⟨htimes, _, hnew, rfl⟩
  have hinsert : db.insertMessage (p'.record (routedMessage (submissionParams p' t₂))) = .ok none := by
    have htaken : (db.findKey row'.tenantID row'.idempotencyKey).isSome = true := by
      rw [htenant, hkey, hfound]
      rfl
    simp only [insertMessage, hrow]
    rw [if_neg (not_not.2 hallowed'), if_pos htaken]
  have hget : db.getByIdempotencyKey p'.normalized.tenantID p'.normalized.idempotencyKey = .ok r.record := by
    obtain ⟨htext, htrimmed, -⟩ := PreparedSubmission.record_validate_eq_ok.1 (unit_bind_eq_ok.1 hvalid).1
    simp only [MessageRow.fixed, Prod.mk.injEq] at hfixed
    rw [getByIdempotencyKey, check_bind htext, check_bind htrimmed, ha.normalized,
      hcolumn, ← hholds.tenantID, ← hfixed.1, ← hholds.idempotencyKey, ← hfixed.2.1]
    exact (congrArg scanFound hfound).trans (scanMessageRecord_eq_ok.2 ⟨hload, rfl⟩)
  have hsame : r.record.payloadFingerprint =
      (p'.record (routedMessage (submissionParams p' t₂))).payloadFingerprint := by
    simp only [MessageRow.fixed, Prod.mk.injEq] at hfixed
    exact (hfixed.2.2.1.trans hholds.payloadFingerprint).trans ha.fingerprint.symm
  have hresolve : resolveDuplicate (p'.record (routedMessage (submissionParams p' t₂))) (.ok r.record) =
      .ok ⟨.duplicate, r.record⟩ := by
    rw [resolveDuplicate, ok_bind, check_bind hsame]
    rfl
  rw [submitTransaction, hrecord, ok_bind, create, hvalid, ok_bind, created_counters hmoved,
    ok_bind, hinsert, ok_bind]
  change (resolveDuplicate _
    (db.getByIdempotencyKey p'.normalized.tenantID p'.normalized.idempotencyKey) >>= _) >>= _ = _
  rw [hget, hresolve]
  rfl

end Record

/-! ## Replays in a run -/

section Replay

variable {E : Env} {newer older : History} {s₀ s : System} {catalog : SubmissionCatalog}
  {protector : Protector}
  {c : SubmitEmailCommand} {drawn : Uuid} {nonce : Nonce} {t₁ t₂ : Time} {db₁ : Db} {record : MessageRecord}

/-- A submission that was accepted is stored at any later time. -/
theorem Reached.accepted_stored (hr₀ : Reached E older s₀) (hdrawn : drawn ∈ E.ids)
    (hsubmit : submit E.L catalog protector c drawn nonce t₁ s₀.db = .ok (db₁, ⟨.accepted, record⟩))
    (hr : Reached E (newer ++ (.submit c t₁ ⟨.accepted, record⟩, { s₀ with db := db₁ }) :: older) s) :
    ∃ p m row, Submitted E.L catalog protector c drawn nonce t₁ p m row ∧ record = (p.record m).pulled ∧
      ∃ r ∈ s.db.messages, r.fixed = row.fixed := by
  obtain ⟨p, m, row, hsubmitted, hrecord, created⟩ :=
    submit_accepted (Reached.ok hr₀).sound.keyed hdrawn hsubmit
  have hmem : row ∈ db₁.messages := by
    rw [created.messages]
    exact List.mem_append_right _ (List.mem_singleton.2 rfl)
  obtain ⟨r, hr', hrow⟩ := (Reached.later hr).messages row hmem
  exact ⟨p, m, row, hsubmitted, hrecord, r, hr', hrow.fixed_eq⟩

/-- A replay returns the stored message exactly if it comes before the deadline and the message can
be read. It never creates a second message, and after the deadline it is refused as a new submission
would be. -/
theorem replay_iff (hr₀ : Reached E older s₀) (hdrawn : drawn ∈ E.ids)
    (hsubmit : submit E.L catalog protector c drawn nonce t₁ s₀.db = .ok (db₁, ⟨.accepted, record⟩))
    (hr : Reached E (newer ++ (.submit c t₁ ⟨.accepted, record⟩, { s₀ with db := db₁ }) :: older) s)
    (hprecise : Precise (newer ++ (.submit c t₁ ⟨.accepted, record⟩, { s₀ with db := db₁ }) :: older))
    (hu : protector.Uniform) (hlater : t₁ ≤ t₂) :
    ∃ r ∈ s.db.messages, r.snapshot.id = record.message.id ∧ ∀ drawn' nonce',
      (submit E.L catalog protector c drawn' nonce' t₂ s.db = .ok (s.db, ⟨.duplicate, r.record⟩) ↔
        t₂ < truncate c.dispatchDeadline ∧ r.Short) ∧
      (∀ db' result, submit E.L catalog protector c drawn' nonce' t₂ s.db = .ok (db', result) →
        db' = s.db ∧ result = ⟨.duplicate, r.record⟩) ∧
      (¬ t₂ < truncate c.dispatchDeadline → submit E.L catalog protector c drawn' nonce' t₂ s.db =
        .error (.invalidSubmission "dispatch deadline must be after acceptance")) := by
  obtain ⟨p, m, row, hs, rfl, r, hmem, hfixed⟩ := Reached.accepted_stored hr₀ hdrawn hsubmit hr
  obtain ⟨tenant, stored, hcolumn, -, hholds⟩ := hs.holds (.refl row)
  obtain ⟨email, locale, templateVariables, hfrom⟩ := prepareSubmission_eq_ok.1 hs.prepared
  have hsound := (Reached.ok hr).sound
  have hdispatch : p.normalized.dispatchDeadline =
      truncate c.dispatchDeadline := by rw [hfrom.normalized]; rfl
  have hfixed' := hfixed
  simp only [MessageRow.fixed, Prod.mk.injEq] at hfixed'
  obtain ⟨f₁, f₂, -, -, -, -, -, f₈, -, -⟩ := hfixed'
  have hfound := findKey_of_mem (Reached.keys hr) hmem
  refine ⟨r, hmem, ?_, fun drawn' nonce' => ?_⟩
  · have hid : m.id = p.messageID := (Message.new_moved hs.new).1.id
    exact (f₈.trans hholds.id).trans hid.symm
  obtain ⟨p', hp', ha⟩ := prepareSubmission_again hu hs.prepared drawn' nonce'
  have hsubmit' : submit E.L catalog protector c drawn' nonce' t₂ s.db =
      submitTransaction E.L p' t₂ s.db := by
    rw [submit, hp', ok_bind]
  have htimes : validateSubmissionTimes t₂ p'.normalized.scheduledAt p'.normalized.dispatchDeadline = .ok () ↔
      t₂ < truncate c.dispatchDeadline := by
    rw [ha.normalized, hs.times_later hlater, hdispatch]
  have hkey : ∀ tenant', uuidColumn p'.normalized.tenantID = some tenant' →
      s.db.findKey tenant' p'.normalized.idempotencyKey = some r := by
    intro tenant' hcolumn'
    rw [ha.normalized, hcolumn] at hcolumn'
    rw [← Option.some.inj hcolumn', ha.normalized, ← hholds.tenantID, ← hholds.idempotencyKey, ← f₁, ← f₂]
    exact hfound
  -- whatever the replay returns, it is the message that holds the key
  have hreturned : ∀ db' result, submit E.L catalog protector c drawn' nonce' t₂ s.db = .ok (db', result) →
      (db' = s.db ∧ result = ⟨.duplicate, r.record⟩) ∧ t₂ < truncate c.dispatchDeadline ∧ r.Loadable := by
    intro db' result hok
    have hbefore : t₂ < truncate c.dispatchDeadline := by
      rw [hsubmit', submitTransaction] at hok
      obtain ⟨_, hrecord, -⟩ := bind_eq_ok.1 hok
      exact htimes.1 (submissionRecord_eq_ok.1 hrecord).1
    obtain ⟨q, hq, heffect⟩ := submit_effect hsound.keyed (Set.mem_univ drawn') hok
    obtain rfl : p' = q := Except.ok.inj (hp'.symm.trans hq)
    cases heffect with
    | @accepted row' m' _ _ stored created =>
      obtain ⟨-, -, hkey', -⟩ := createRow_eq_some stored
      have hfree := created.freshKey
      rw [hkey'] at hfree
      cases (hkey row'.tenantID created.tenant).symm.trans hfree
    | @duplicate tenant' r' column found loadable =>
      obtain rfl : r = r' := Option.some.inj ((hkey tenant' column).symm.trans found)
      exact ⟨⟨rfl, rfl⟩, hbefore, loadable⟩
  have hshort : r.Loadable ↔ r.Short := Reached.loadable_iff hr hprecise hmem
  refine ⟨⟨fun hok => ?_, fun hreplay => ?_⟩,
    fun db' result hok => (hreturned db' result hok).1, fun hafter => ?_⟩
  · obtain ⟨-, hbefore, hload⟩ := hreturned _ _ hok
    exact ⟨hbefore, hshort.1 hload⟩
  · rw [hsubmit']
    exact hs.again_duplicate ha hfixed (hsound.rows r hmem).allowed (hshort.2 hreplay.2) hfound hlater
      (hdispatch ▸ hreplay.1)
  · rw [hsubmit']
    exact p'.refused_after (by rwa [ha.normalized, hdispatch])

end Replay

namespace Sample

theorem protector_uniform : protector.Uniform := fun _ _ _ _ _ => rfl

/-- A message is accepted that can be read again. -/
theorem exists_submitted : ∃ hash p m row, Reached (env hash) [] start ∧
    submit (libs hash) catalog protector (command none none) messageID nonce now start.db =
      .ok (acceptedDb (libs hash) now start.db p m row, ⟨.accepted, (p.record m).pulled⟩) ∧
    Reached (env hash) [(.submit (command none none) now ⟨.accepted, (p.record m).pulled⟩,
      { start with db := acceptedDb (libs hash) now start.db p m row })]
      { start with db := acceptedDb (libs hash) now start.db p m row } ∧
    prepareSubmission (libs hash) catalog protector (command none none) messageID nonce = .ok p ∧
    p.normalized.dispatchDeadline = deadline ∧ row.Short := by
  obtain ⟨hm, hlen, hobject, hstored⟩ := metadata_empty
  obtain ⟨hash, canonical, m, row, hc, -, hrow, hp, ha⟩ := exists_accepted (.inl rfl) hm hlen hobject hstored
  refine ⟨hash, _, m, row, reached_start hash, ?_, Reached.accepts (reached_start hash) rfl hp ha,
    hp, rfl, fun d hd => ?_⟩
  · rw [submit, hp, ok_bind]
    exact submitTransaction_accepts ha
  · rw [hrow] at hd
    rw [← Option.mem_some_iff.1 hd]
    exact hlen.2

end Sample

/-- A submission is repeated at once, and its message is returned. -/
theorem replay_iff_before : ∃ E h s c t₁ record t₂ s₁ r, Reached E h s ∧
    (Action.submit c t₁ ⟨.accepted, record⟩, s₁) ∈ h ∧ t₁ ≤ t₂ ∧ r ∈ s.db.messages ∧
    r.snapshot.id = record.message.id ∧
    submit E.L Sample.catalog Sample.protector c Sample.attemptID Sample.nonce t₂ s.db =
      .ok (s.db, ⟨.duplicate, r.record⟩) := by
  obtain ⟨hash, p, m, row, hr₀, hsubmit, hr, -, -, hshort⟩ := Sample.exists_submitted
  obtain ⟨r, hmem, hid, hreplay⟩ := @replay_iff _ [] _ _ _ _ _ _ _ _ _ _ _ _ hr₀ rfl hsubmit hr Sample.precise
    Sample.protector_uniform (le_refl Sample.now)
  obtain rfl : r = row := List.mem_singleton.1 hmem
  have hbefore : Sample.now < truncate Sample.deadline := by decide
  exact ⟨_, _, _, _, _, _, _, _, r, hr, List.mem_singleton.2 rfl, le_refl Sample.now, hmem, hid,
    (hreplay Sample.attemptID Sample.nonce).1.2 ⟨hbefore, hshort⟩⟩

/-- A submission is repeated at its deadline, and refused. -/
theorem replay_refused : ∃ E h s c t₁ record t₂ s₁, Reached E h s ∧
    (Action.submit c t₁ ⟨.accepted, record⟩, s₁) ∈ h ∧ t₁ ≤ t₂ ∧ ∀ drawn nonce,
      submit E.L Sample.catalog Sample.protector c drawn nonce t₂ s.db =
        .error (.invalidSubmission "dispatch deadline must be after acceptance") := by
  obtain ⟨hash, p, m, row, -, -, hr, hp, hdeadline, -⟩ := Sample.exists_submitted
  have hlater : Sample.now ≤ Sample.deadline := by decide
  refine ⟨_, _, _, _, _, _, Sample.deadline, _, hr, List.mem_singleton.2 rfl, hlater, fun drawn nonce => ?_⟩
  obtain ⟨p', hp', ha⟩ := prepareSubmission_again Sample.protector_uniform hp drawn nonce
  have hafter : ¬ Sample.deadline < p'.normalized.dispatchDeadline := by
    rw [ha.normalized, hdeadline]
    exact lt_irrefl _
  change submit (Sample.libs hash) _ _ _ _ _ _ _ = _
  rw [submit, hp', ok_bind]
  exact p'.refused_after hafter

end MailService
