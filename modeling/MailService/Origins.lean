import MailService.DueMessages
/-!
# Where a stored message comes from

Every row of `mail_messages` goes back to one submission of the run: the columns that the
submission decided are still those it wrote, however often the message has moved. No two
rows share an idempotency key.
-/
open Text Checks Table Runs

namespace MailService

open Db

variable {E : Env} {L : Libs} {ids : Set Uuid} {h : History} {s s' : System}
  {db db' : Db} {r row : MessageRow}

/-! ## Idempotency keys -/

def Db.keys (db : Db) : List (String × String) := db.messages.map fun r => (r.tenantID, r.idempotencyKey)

theorem Change.keys (hchange : Change L ids db db') (hn : db.keys.Nodup) : db'.keys.Nodup := by
  cases hchange with
  | @created _ row _ _ _ h =>
    rw [Db.keys, h.messages, List.map_append, List.nodup_append]
    refine ⟨hn, List.nodup_singleton _, fun key hkey key' hkey' heq => ?_⟩
    obtain ⟨x, hx, rfl⟩ := List.mem_map.1 hkey
    rw [List.map_singleton, List.mem_singleton] at hkey'
    have hfree := List.find?_eq_none.1 h.freshKey x hx
    simp only [decide_eq_true_eq] at hfree
    exact hfree (Prod.mk.inj (heq.trans hkey'))
  | advanced h =>
    rw [Db.keys, h.messages, map_exchange]
    · exact hn
    · rfl

theorem Evolves.keys (hev : Evolves E db db') (hn : db.keys.Nodup) : db'.keys.Nodup := by
  cases hev with
  | changed hchanges =>
    induction hchanges with
    | refl => exact hn
    | tail _ hchange ih => exact hchange.keys ih
  | relayed hrelayed =>
    rw [Db.keys, hrelayed.messages_eq]
    exact hn

theorem Reached.keys (hr : Reached E h s) : s.db.keys.Nodup := by
  induction hr with
  | start hinit =>
    obtain ⟨⟨tenants, hdb⟩, -⟩ := hinit
    rw [hdb]
    exact List.nodup_nil
  | next hr hstep ih => exact (hstep.evolves (Reached.ok hr)).keys ih

/-- A key finds its message. -/
theorem findKey_of_mem (hn : db.keys.Nodup) (hmem : r ∈ db.messages) :
    db.findKey r.tenantID r.idempotencyKey = some r := by
  rw [Db.findKey, find?_eq_some_iff _ hn]
  · exact ⟨hmem, by simp⟩
  · intro x y hx hy
    simp only [decide_eq_true_eq] at hx hy
    rw [hx.1, hx.2, hy.1, hy.2]

/-! ## Descent -/

/-- What became of `row` keeps the columns that its submission decided; the two times are written
again by every update. -/
structure MessageRow.Descends (row r : MessageRow) : Prop where
  fixed : r.fixed = row.fixed
  scheduledAt : r.snapshot.scheduledAt = row.snapshot.scheduledAt
  dispatchDeadline : r.snapshot.dispatchDeadline = row.snapshot.dispatchDeadline

namespace MessageRow.Descends

theorem refl (r : MessageRow) : r.Descends r := ⟨rfl, rfl, rfl⟩

theorem trans {r₁ r₂ r₃ : MessageRow} (h₁ : r₁.Descends r₂) (h₂ : r₂.Descends r₃) : r₁.Descends r₃ :=
  ⟨h₂.fixed.trans h₁.fixed, h₂.scheduledAt.trans h₁.scheduledAt,
    h₂.dispatchDeadline.trans h₁.dispatchDeadline⟩

/-- A time that was stored once is stored again as it is. -/
theorem moved {now : Time} {m : Message} (hstored : r.snapshot.truncated = r.snapshot)
    (hm : Moved now r.message m) :
    r.Descends (updatedRow r m.toSnapshot) where
  fixed := by
    simp only [MessageRow.fixed, updatedRow, Snapshot.truncated, hm.maxAttempts]
    rfl
  scheduledAt := by
    change m.scheduledAt.map truncate = _
    rw [hm.scheduledAt]
    exact congrArg Snapshot.scheduledAt hstored
  dispatchDeadline := by
    change truncate m.dispatchDeadline = _
    rw [hm.dispatchDeadline]
    exact congrArg Snapshot.dispatchDeadline hstored

end MessageRow.Descends

theorem updatedRow_truncated {m : Message} (hstored : r.snapshot.truncated = r.snapshot) :
    (updatedRow r m.toSnapshot).snapshot.truncated = (updatedRow r m.toSnapshot).snapshot := by
  have haccepted : truncate r.snapshot.acceptedAt = r.snapshot.acceptedAt :=
    congrArg Snapshot.acceptedAt hstored
  have htwice := Snapshot.truncated_truncated m.toSnapshot
  simp only [Snapshot.truncated, Snapshot.mk.injEq] at htwice
  simp only [updatedRow, Snapshot.truncated, haccepted, htwice]

/-- Changes that draw no id only move messages on. -/
theorem descends_of_changes (hs : ∀ r ∈ db.messages, r.snapshot.truncated = r.snapshot)
    (hchanges : Relation.ReflTransGen (Change L ∅) db db') :
    ∀ r ∈ db'.messages, ∃ x ∈ db.messages, x.Descends r := by
  have hrows := rows_of_changes
    (P := fun r => r.snapshot.truncated = r.snapshot ∧ ∃ x ∈ db.messages, x.Descends r)
    (fun ⟨hstored, x, hx, hdescends⟩ hm _ =>
      ⟨updatedRow_truncated hstored, x, hx, hdescends.trans (.moved hstored hm)⟩)
    hchanges fun r hr => ⟨hs r hr, r, hr, .refl r⟩
  exact fun r hr => (hrows r hr).2

/-- The submission that a row goes back to, with the report of its acceptance in the history. -/
inductive MessageRow.Origin (E : Env) (h : History) (r : MessageRow) : Prop
  | intro {catalog protector command drawn nonce now p m row s₁}
      (submitted : Submitted E.L catalog protector command drawn nonce now p m row) (id : drawn ∈ E.ids)
      (reported : (Action.submit command now ⟨.accepted, (p.record m).pulled⟩, s₁) ∈ h)
      (descends : row.Descends r)

theorem MessageRow.Origin.next {x : MessageRow} {entry : Action × System} (ho : x.Origin E h)
    (hd : x.Descends r) :
    r.Origin E (entry :: h) := by
  obtain ⟨hsubmitted, hid, hin, hdescends⟩ := ho
  exact ⟨hsubmitted, hid, List.mem_cons_of_mem _ hin, hdescends.trans hd⟩

theorem Reached.origin (hr : Reached E h s) (hmem : r ∈ s.db.messages) : r.Origin E h := by
  induction hr generalizing r with
  | start hinit =>
    obtain ⟨⟨tenants, hdb⟩, -⟩ := hinit
    simp [hdb] at hmem
  | next hr hstep ih =>
    have hok := Reached.ok hr
    cases hstep.messages hok with
    | accepted hid hsubmitted created reported =>
      rw [created.messages] at hmem
      rcases List.mem_append.1 hmem with hmem | hmem
      · exact (ih hmem).next (.refl r)
      · rw [List.mem_singleton.1 hmem, reported]
        exact ⟨hsubmitted, hid, List.mem_cons_self, .refl _⟩
    | moved changes =>
      obtain ⟨x, hx, hxr⟩ := descends_of_changes (fun x hx => (hok.sound.rows x hx).stored) changes r hmem
      exact (ih hx).next hxr
    | kept messages => exact (ih (messages ▸ hmem)).next (.refl r)

/-! ## The columns of a submission -/

/-- The columns of a message that its submission decided; the tenant is stored as `tenant`, and the
metadata's column returns `stored`. -/
structure MessageRow.Holds (r : MessageRow) (p : PreparedSubmission) (tenant stored : String) : Prop where
  tenantID : r.tenantID = tenant
  idempotencyKey : r.idempotencyKey = p.normalized.idempotencyKey
  payloadFingerprint : r.payloadFingerprint = p.fingerprint
  category : r.category = p.normalized.category
  priority : r.priority = p.normalized.priority
  duplicateRiskPolicy : r.duplicateRiskPolicy = p.normalized.duplicateRiskPolicy
  submission : r.submission = some { p.details with metadata := stored }
  id : r.snapshot.id = p.messageID
  scheduledAt : r.snapshot.scheduledAt = p.normalized.scheduledAt.map truncate
  dispatchDeadline : r.snapshot.dispatchDeadline = truncate p.normalized.dispatchDeadline

/-- The columns of a new row that are neither ids nor times. -/
theorem createRow_policy {record : MessageRecord} (h : createRow record = some row) :
    row.category = record.category ∧
    row.priority = record.priority ∧ row.duplicateRiskPolicy = record.duplicateRiskPolicy ∧
    record.submission.mapM
      (fun d => (jsonbColumn d.metadata).map fun metadata => { d with metadata := metadata }) =
      some row.submission := by
  unfold createRow at h
  split at h
  · rename_i hsubmission
    cases h
    exact ⟨rfl, rfl, rfl, hsubmission⟩
  · cases h

theorem Submitted.holds {catalog : SubmissionCatalog} {protector : Protector}
    {command : SubmitEmailCommand} {drawn : Uuid} {nonce : Nonce} {now : Time}
    {p : PreparedSubmission} {m : Message}
    (hs : Submitted L catalog protector command drawn nonce now p m row) (hd : row.Descends r) :
    ∃ tenant stored, uuidColumn p.normalized.tenantID = some tenant ∧ jsonbColumn p.metadata = some stored ∧
      r.Holds p tenant stored := by
  obtain ⟨hid, htenant, hkey, hfingerprint, hsnapshot⟩ := createRow_eq_some hs.stored
  obtain ⟨hcategory, hpriority, hpolicy, hsubmission⟩ := createRow_policy hs.stored
  obtain ⟨stored, hstored, hdetails⟩ : ∃ stored, jsonbColumn p.metadata = some stored ∧
      row.submission = some { p.details with metadata := stored } := by
    change Option.mapM _ (some p.details) = _ at hsubmission
    cases hj : jsonbColumn p.metadata with
    | none =>
      have hnone : jsonbColumn p.details.metadata = none := hj
      simp [Option.mapM_some, hnone] at hsubmission
    | some stored =>
      have hsome : jsonbColumn p.details.metadata = some stored := hj
      refine ⟨stored, rfl, ?_⟩
      simpa [Option.mapM_some, hsome] using hsubmission.symm
  have hmoved := (Message.new_moved hs.new).1
  have hmessage : m.id = drawn.text := hmoved.id.trans (prepareSubmission_messageID hs.prepared)
  have hrow : row.snapshot.id = p.messageID := by
    change uuidColumn m.id = _ at hid
    rw [hmessage, uuidColumn_text] at hid
    rw [← Option.some.inj hid, prepareSubmission_messageID hs.prepared]
  have hfixed := hd.fixed
  simp only [MessageRow.fixed, Prod.mk.injEq] at hfixed
  obtain ⟨f₁, f₂, f₃, f₄, f₅, f₆, f₇, f₈, -, -⟩ := hfixed
  refine ⟨row.tenantID, stored, htenant, hstored, f₁, f₂.trans hkey,
    f₃.trans hfingerprint, f₄.trans hcategory, f₅.trans hpriority, f₆.trans hpolicy, f₇.trans hdetails,
    f₈.trans hrow, hd.scheduledAt.trans ?_, hd.dispatchDeadline.trans ?_⟩
  · rw [hsnapshot]
    exact congrArg (Option.map truncate) hmoved.scheduledAt
  · rw [hsnapshot]
    exact congrArg truncate hmoved.dispatchDeadline

end MailService
