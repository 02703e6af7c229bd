import MailService.Evolution
/-!
# What is stored can be read

A stored row satisfies the CHECK constraints, and these are most of what
`scanMessageRecord` checks again. Of the rest, the time of acceptance is not Go's
zero time because the database clock counts whole microseconds, and only the size
of the metadata is open: its limit was checked on the text that `json.Marshal`
wrote, and the column returns a longer one. The same constraints are met by the
row of every move, whatever its time.
-/
open Text Checks Table Runs

namespace MailService

open Db

/-! ## Where a row comes from -/

section Rows

variable {L : Libs} {now : Time} {db db' : Db} {r : MessageRow} {m : Message}

theorem Advance.fixed_of_mem (h : Advance L now db r m db') :
    ∀ x' ∈ db'.messages, ∃ x ∈ db.messages, x'.fixed = x.fixed := by
  intro x' hx
  rw [h.messages] at hx
  rcases (mem_exchange h.mem).1 hx with rfl | ⟨hx, -⟩
  · exact ⟨r, h.mem, h.rowLater.fixed_eq⟩
  · exact ⟨x', hx, rfl⟩

/-- Changes that draw no id create no message. -/
theorem fixed_of_changes (h : Relation.ReflTransGen (Change L ∅) db db') :
    ∀ x' ∈ db'.messages, ∃ x ∈ db.messages, x'.fixed = x.fixed := by
  induction h with
  | refl => exact fun x' hx => ⟨x', hx, rfl⟩
  | tail _ hchange ih =>
    intro x'' hx
    cases hchange with
    | created h =>
      obtain ⟨u, hu, -⟩ := h.drawn
      exact hu.elim
    | advanced h =>
      obtain ⟨x', hx', hf'⟩ := h.fixed_of_mem x'' hx
      obtain ⟨x, hx, hf⟩ := ih x' hx'
      exact ⟨x, hx, hf'.trans hf⟩

theorem Relayed.messages_eq (h : Relayed db db') : db'.messages = db.messages := by
  rw [h.rest]

end Rows

variable {E : Env} {s s' : System} {action : Action} {h : History} {r : MessageRow}

/-- What a step does to the table of messages: a submission adds its message, other transactions move
messages, and everything else leaves them as they are. -/
inductive MessageStep (E : Env) (db : Db) (action : Action) (db' : Db) : Prop
  | accepted {catalog protector command drawn nonce now p m row} (id : drawn ∈ E.ids)
      (submitted : Submitted E.L catalog protector command drawn nonce now p m row)
      (created : Created E.L E.ids p.normalized.tenantID db row (submissionParams p now) m db')
      (reported : action = .submit command now ⟨.accepted, (p.record m).pulled⟩)
  | moved (changes : Relation.ReflTransGen (Change E.L ∅) db db')
  | kept (messages : db'.messages = db.messages)

theorem Step.messages (hstep : Step E s action s') (hs : s.Ok E) : MessageStep E s.db action s'.db := by
  have hk := hs.sound.keyed
  cases hstep with
  | @submit catalog protector command messageID nonce now db' result hid h =>
    obtain ⟨disposition, record⟩ := result
    cases disposition with
    | accepted =>
      obtain ⟨p, m, row, hsubmitted, rfl, created⟩ := submit_accepted hk hid h
      exact .accepted hid hsubmitted created rfl
    | duplicate =>
      obtain ⟨p, -, heffect⟩ := submit_effect hk hid h
      cases heffect with
      | duplicate => exact .kept rfl
  | schedule h => exact .moved (runOnce_changes hk h)
  | claim hlane _ h =>
    obtain ⟨-, hl⟩ := hs.lanes _ _ _ hlane
    obtain ⟨x, -, -, -, -, heffect⟩ := claim_effect hk hl h
    exact .moved heffect.changes
  | finalize hlane h =>
    obtain ⟨-, hl, a, ha⟩ := hs.lanes _ _ _ hlane
    obtain ⟨a', ha', -⟩ := ha.later hl
    obtain ⟨x, -, -, -, -, -, -, heffect⟩ := finalize_effect hk hl ha' h
    exact .moved heffect.changes
  | lease _ _ _ h =>
    obtain ⟨leaseUntil, claimed, hleased⟩ := claimBatch_leased hk.outboxIDs h
    exact .kept hleased.relayed.messages_eq
  | record _ _ h =>
    obtain ⟨o, hrecorded⟩ := recordCompletion_recorded hk.outboxIDs h
    exact .kept hrecorded.relayed.messages_eq
  | settle =>
    rename_i answer _
    cases answer <;> exact .kept rfl
  | _ => exact .kept rfl

/-- A row was there before the step, or the step is the submission of its message. -/
theorem Step.row_origin (hstep : Step E s action s') (hs : s.Ok E) (hmem : r ∈ s'.db.messages) :
    (∃ x ∈ s.db.messages, r.fixed = x.fixed) ∨
      ∃ command now result, action = .submit command now result ∧ now ≠ 0 ∧
      r.snapshot.acceptedAt = truncate now := by
  cases hstep.messages hs with
  | @accepted _ _ command _ _ now _ _ row _ hsubmitted created reported =>
    rw [created.messages] at hmem
    rcases List.mem_append.1 hmem with hmem | hmem
    · exact .inl ⟨r, hmem, rfl⟩
    · obtain ⟨-, -, -, hnow, -⟩ := Message.new_moved hsubmitted.new
      refine .inr ⟨command, now, _, reported, hnow, ?_⟩
      rw [List.mem_singleton.1 hmem, created.snapshot]
      exact congrArg truncate created.moved.acceptedAt
  | moved changes => exact .inl (fixed_of_changes changes r hmem)
  | kept messages => exact .inl ⟨r, messages ▸ hmem, rfl⟩

/-- The database clock counts whole microseconds. -/
def Precise (h : History) : Prop :=
  ∀ command now result s, (Action.submit command now result, s) ∈ h → truncate now = now

/-- A message was accepted by a submission of the run, at its time. -/
theorem Reached.accepted_at (hr : Reached E h s) (hmem : r ∈ s.db.messages) : ∃ command now result s₁,
    (.submit command now result, s₁) ∈ h ∧ now ≠ 0 ∧ r.snapshot.acceptedAt = truncate now := by
  induction hr generalizing r with
  | start hinit =>
    obtain ⟨⟨tenants, hdb⟩, -⟩ := hinit
    simp [hdb] at hmem
  | next hr hstep ih =>
    rcases hstep.row_origin (Reached.ok hr) hmem with ⟨x, hx, hf⟩ |
      ⟨command, now, result, rfl, hnow, haccepted⟩
    · obtain ⟨command, now, result, s₁, hsubmit, hnow, haccepted⟩ := ih hx
      simp only [MessageRow.fixed, Prod.mk.injEq] at hf
      rw [hf.2.2.2.2.2.2.2.2.2]
      exact ⟨command, now, result, s₁, List.mem_cons_of_mem _ hsubmit, hnow, haccepted⟩
    · exact ⟨command, now, result, _, List.mem_cons_self, hnow, haccepted⟩

theorem Reached.acceptedAt_ne_zero (hr : Reached E h s) (hclock : Precise h) (hmem : r ∈ s.db.messages) :
    r.snapshot.acceptedAt ≠ 0 := by
  obtain ⟨command, now, result, s₁, hsubmit, hnow, haccepted⟩ := Reached.accepted_at hr hmem
  rw [haccepted, hclock command now result s₁ hsubmit]
  exact hnow

/-! ## Reading a row -/

variable {db : Db}

/-- What the CHECK constraints leave for `Restore` to check. -/
theorem MessageRow.Allowed.valid (ha : r.Allowed)
    (hfailure : ∀ f ∈ r.snapshot.lastFailure, f.validate = .ok ())
    (hid : uuidColumn r.snapshot.id = some r.snapshot.id) (haccepted : r.snapshot.acceptedAt ≠ 0) :
    r.snapshot.Valid := by
  obtain ⟨u, hu⟩ := exists_text_of_uuidColumn hid
  obtain ⟨-, -, -, -, -, hcolumns, -⟩ := ha
  obtain ⟨hstatus, hscheduled, hnext, hdeadline, hupdated, ⟨hmax, hattempts⟩, hsequence, hretry,
      hgeneration, hattempt, -⟩ :=
    hcolumns
  have hpos := Nat.pos_of_ne_zero haccepted
  exact {
    id := by simp [hu]
    status := hstatus
    times := ⟨haccepted, (hpos.trans_le hupdated).ne', (hpos.trans hdeadline).ne'⟩
    deadline := hdeadline
    updatedAt := hupdated
    attempts := ⟨hmax.ne', hattempts⟩
    scheduledAt := hscheduled
    nextAttemptAt := hnext
    generation := fun h => (hgeneration h).ne'
    attempted := fun h => (hattempt h).ne'
    retry := hretry
    sequence := hsequence.ne'
    lastFailure := hfailure }

/-- A row within its constraints can be read exactly if the text of its metadata is within the limit. -/
theorem MessageRow.Allowed.loadable_iff (ha : r.Allowed) (hchecked : r.Checked)
    (hfailure : ∀ f ∈ r.snapshot.lastFailure, f.validate = .ok ())
    (hid : uuidColumn r.snapshot.id = some r.snapshot.id ∧ uuidColumn r.tenantID = some r.tenantID)
    (haccepted : r.snapshot.acceptedAt ≠ 0) : r.Loadable ↔ ∀ d ∈ r.submission, len d.metadata ≤ 4 * 1024 := by
  constructor
  · intro hload d hd
    exact (hchecked.submission d hd).1 (hload.submission d hd)
  · intro hsize
    have hvalid := ha.valid hfailure hid.1 haccepted
    obtain ⟨-, -, hcategory, hpriority, hpolicy, -, -⟩ := ha
    have hsubmission : ∀ d ∈ r.submission, d.validate = .ok () :=
      fun d hd => (hchecked.submission d hd).2 (hsize d hd)
    refine ⟨hpriority, validateSnapshot_eq_ok.2 hvalid, hsubmission, ?_⟩
    simp only [MessageRecord.validate, check_bind_eq_ok]
    refine ⟨isUUID_of_uuidColumn hid.2, hchecked.idempotencyKey, hcategory, hpriority, hpolicy, ?_⟩
    have hmessage : isUUID r.record.message.id = true := isUUID_of_uuidColumn hid.1
    cases hd : r.record.submission with
    | none => simpa using hmessage
    | some d => simpa [unit_bind_eq_ok, hsubmission d hd] using hmessage

theorem MessageRow.SoundIn.loadable_iff (hs : r.SoundIn db)
    (hid : uuidColumn r.snapshot.id = some r.snapshot.id ∧ uuidColumn r.tenantID = some r.tenantID)
    (haccepted : r.snapshot.acceptedAt ≠ 0) : r.Loadable ↔ ∀ d ∈ r.submission, len d.metadata ≤ 4 * 1024 :=
  hs.allowed.loadable_iff hs.checked hs.failure hid haccepted

theorem Reached.loadable_iff (hr : Reached E h s) (hclock : Precise h) (hmem : r ∈ s.db.messages) :
    r.Loadable ↔ ∀ d ∈ r.submission, len d.metadata ≤ 4 * 1024 := by
  have hsound := (Reached.ok hr).sound
  exact (hsound.rows r hmem).loadable_iff (hsound.keyed.canonical r hmem) (hr.acceptedAt_ne_zero hclock hmem)

/-! ## The row of a move -/

/-- Of the CHECK constraints, a move can only violate those on what the provider said. The
deadline has whole microseconds, so that truncating a time before it keeps the order. -/
theorem Moved.allowed_iff {now : Time} {m : Message} (hm : Moved now r.message m) (hs : r.SoundIn db)
    (hnow : r.snapshot.acceptedAt ≤ now) : (updatedRow r m.toSnapshot).Allowed ↔
      varchar 512 m.providerMessageID ∧ ∀ f ∈ m.lastFailure, failureColumns f := by
  obtain ⟨hkey, hkey', hcategory, hpriority, hpolicy, hcolumns, hsubmission⟩ := hs.allowed
  obtain ⟨-, hscheduled, hnext, hdeadline, -, -⟩ := hcolumns
  have hcounted := hm.counted (m := r.message) hs.counted
  have hstored := hs.stored
  have haccepted : truncate r.snapshot.acceptedAt = r.snapshot.acceptedAt :=
    congrArg Snapshot.acceptedAt hstored
  have htruncated : truncate m.dispatchDeadline = r.snapshot.dispatchDeadline :=
    (congrArg truncate hm.dispatchDeadline).trans (congrArg Snapshot.dispatchDeadline hstored)
  refine ⟨fun hallowed => ?_, fun ⟨hprovider, hfailure⟩ => ?_⟩
  · obtain ⟨-, -, -, -, -, ⟨-, -, -, -, -, -, -, -, -, -, hprovider, hfailure⟩, -⟩ := hallowed
    exact ⟨hprovider, hfailure⟩
  refine ⟨hkey, hkey', hcategory, hpriority, hpolicy, ?_, hsubmission⟩
  refine ⟨(valid_of_edge hm.edge).2, ?_, ?_, ?_, ?_, ⟨hcounted.maxAttempts_pos, hcounted.attempts_le⟩,
    hcounted.sequence_pos, ?_, ?_, ?_, hprovider, hfailure⟩
  · intro t ht
    change t ∈ m.scheduledAt.map truncate at ht
    change t < truncate m.dispatchDeadline
    obtain ⟨t', ht', rfl⟩ := Option.mem_map.1 ht
    rw [htruncated]
    exact (truncate_le t').trans_lt (hscheduled t' (hm.scheduledAt ▸ ht'))
  · intro t ht
    change t ∈ m.nextAttemptAt.map truncate at ht
    change t < truncate m.dispatchDeadline
    obtain ⟨t', ht', rfl⟩ := Option.mem_map.1 ht
    rw [htruncated]
    refine (truncate_le t').trans_lt ?_
    cases hm.retryTime with
    | scheduled _ next _ deadline =>
      have hsome : m.nextAttemptAt = some _ := next
      rw [Option.mem_def, hsome] at ht'
      exact Option.some.inj ht' ▸ deadline
    | cleared _ next =>
      have hnone : m.nextAttemptAt = none := next
      simp [hnone] at ht'
    | untouched _ _ next =>
      have hkept : m.nextAttemptAt = r.snapshot.nextAttemptAt := next
      exact hnext t' (hkept ▸ ht')
  · change r.snapshot.acceptedAt < truncate m.dispatchDeadline
    rw [htruncated]
    exact hdeadline
  · change r.snapshot.acceptedAt ≤ truncate m.updatedAt
    rw [hm.updatedAt, ← haccepted]
    exact truncate_mono hnow
  · intro hretry
    change m.nextAttemptAt.map truncate ≠ none
    cases hm.retryTime with
    | scheduled _ next =>
      have hsome : m.nextAttemptAt = some _ := next
      simp [hsome]
    | cleared status => exact absurd hretry status
    | untouched _ status => exact absurd hretry status
  · intro hrequires
    have hb := hcounted.byStatus
    change requiresDispatchGeneration m.status = true at hrequires
    change 0 < m.dispatchGeneration
    cases hst : m.status <;> rw [hst] at hb hrequires <;>
      simp only [CountedFor, requiresDispatchGeneration, oneOf, List.contains_eq_mem] at hb hrequires <;>
      first | omega | simp at hrequires
  · intro hrequires
    have hb := hcounted.byStatus
    change requiresAttempt m.status = true at hrequires
    change 0 < m.attemptCount
    cases hst : m.status <;> rw [hst] at hb hrequires <;>
      simp only [CountedFor, requiresAttempt, oneOf, List.contains_eq_mem] at hb hrequires <;>
      first | omega | simp at hrequires

end MailService
