import MailService.Api
import MailService.AtLeastOnce
import MailService.Origins
import MailService.Tenancy
/-!
# Views

What callers of the API are shown of a message over time, and what the subscriber
is told of it. Both go back to the same rows: a view shows the message's last row,
and a report is a row of its journal.
-/
open Text Checks Table Runs

namespace MailService

open Db

variable {E : Env} {L : Libs} {ids : Set Uuid} {now : Time} {db db' : Db}
  {r row x : MessageRow} {j : DeliveryEvent}
  {s s' : System} {h : History} {n n' : Notifier} {m : Message}

/-! ## The journal and its message -/

/-- A row of the journal has the key of its message, and the last one the time of the last change. -/
def MessageRow.Dates (r : MessageRow) (j : DeliveryEvent) : Prop :=
  j.messageID = r.snapshot.id → j.idempotencyKey = r.idempotencyKey ∧
    (j.sequence = r.snapshot.latestSequence → j.occurredAt = r.snapshot.updatedAt)

def Db.Dated (db : Db) : Prop := ∀ r ∈ db.messages, ∀ j ∈ db.events, r.Dates j

theorem journalRows_columns {tenantID key : String} {events : List Event}
    (hj : j ∈ journalRows L tenantID key events) :
    j.idempotencyKey = key ∧ ∃ e ∈ events, j.messageID = e.messageID ∧ j.sequence = e.sequence ∧
      j.occurredAt = truncate e.occurredAt := by
  simp only [journalRows, lifecycleEvents, List.mem_map, List.mem_filter] at hj
  obtain ⟨e, ⟨he, -⟩, rfl⟩ := hj
  exact ⟨rfl, e, he, rfl, rfl, rfl⟩

theorem Created.dated {tenantID : String} {params : NewParams}
    (hcreated : Created L ids tenantID db row params m db') (hk : db.Keyed) (hd : db.Dated) :
    db'.Dated := by
  have hid : row.snapshot.id = params.id := by
    rw [hcreated.snapshot]
    exact hcreated.moved.id
  have hold : ∀ x ∈ db.messages, x.snapshot.id ≠ params.id := fun x hx heq =>
    hcreated.freshID (List.mem_map.2 ⟨x, hx, heq⟩)
  have hjournal : ∀ j ∈ db.events, j.messageID ≠ params.id := by
    intro j hj heq
    obtain ⟨x, hx, hxid, -⟩ := hk.journal j hj
    exact hold x hx (hxid.trans heq)
  have hnew : ∀ j ∈ journalRows L row.tenantID row.idempotencyKey m.pendingEvents,
      j.idempotencyKey = row.idempotencyKey ∧ j.messageID = params.id ∧
      j.occurredAt = row.snapshot.updatedAt := by
    intro j hj
    obtain ⟨hkey, e, he, hmessage, -, htime⟩ := journalRows_columns hj
    have hoccurred : e.occurredAt = params.now := by
      rcases hcreated.moved.occurredAt e he with hold | hnow
      · rw [List.mem_singleton.1 hold]
      · exact hnow
    refine ⟨hkey, hmessage.trans (hcreated.pending e he).1, ?_⟩
    rw [htime, hoccurred, hcreated.snapshot, ← hcreated.moved.updatedAt]
    rfl
  intro x hx j hj
  rw [hcreated.messages] at hx
  rw [hcreated.events] at hj
  rcases List.mem_append.1 hx with hx | hx <;> rcases List.mem_append.1 hj with hj | hj
  · exact hd x hx j hj
  · intro hmessage
    exact absurd (hmessage.symm.trans (hnew j hj).2.1) (hold x hx)
  · intro hmessage
    rw [List.mem_singleton.1 hx, hid] at hmessage
    exact absurd hmessage (hjournal j hj)
  · rw [List.mem_singleton.1 hx]
    exact fun _ => ⟨(hnew j hj).1, fun _ => (hnew j hj).2.2⟩

theorem Advance.dated (hadvance : Advance L now db r m db') (hk : db.Keyed) (hd : db.Dated) : db'.Dated := by
  have hsequence : m.latestSequence = r.snapshot.latestSequence + 1 := hadvance.moved.sequence
  have hnew : ∀ j ∈ journalRows L r.tenantID r.idempotencyKey m.pendingEvents,
    j.idempotencyKey = r.idempotencyKey ∧
      j.messageID = r.snapshot.id ∧ j.occurredAt = truncate now := by
    intro j hj
    obtain ⟨hkey, e, he, hmessage, -, htime⟩ := journalRows_columns hj
    have hoccurred : e.occurredAt = now := by
      rcases hadvance.moved.occurredAt e he with hold | hnow
      · cases hold
      · exact hnow
    exact ⟨hkey, hmessage.trans (hadvance.pending e he).1, by rw [htime, hoccurred]⟩
  intro x hx j hj
  rw [hadvance.messages] at hx
  rw [hadvance.events] at hj
  rcases (mem_exchange hadvance.mem).1 hx with rfl | ⟨hx, hne⟩ <;> rcases List.mem_append.1 hj with hj | hj
  · -- the row of an earlier change is behind the new state
    intro hmessage
    refine ⟨(hd r hadvance.mem j hj hmessage).1, fun hlatest => ?_⟩
    obtain ⟨y, hy, hid, hle⟩ := hk.journal j hj
    obtain rfl : y = r := List.inj_on_of_nodup_map hk.ids hy hadvance.mem (hid.trans hmessage)
    change j.sequence = m.latestSequence at hlatest
    omega
  · intro _
    obtain ⟨hkey, -, htime⟩ := hnew j hj
    refine ⟨hkey, fun _ => ?_⟩
    rw [htime, ← hadvance.moved.updatedAt]
    rfl
  · exact hd x hx j hj
  · intro hmessage
    exact absurd (List.inj_on_of_nodup_map hk.ids hx hadvance.mem (hmessage.symm.trans (hnew j hj).2.1)) hne

theorem Evolves.dated (hev : Evolves E db db') (hs : Sound E.L E.ids db) (hd : db.Dated) : db'.Dated := by
  cases hev with
  | changed hchanges =>
    suffices hboth : Sound E.L E.ids db' ∧ db'.Dated from hboth.2
    induction hchanges with
    | refl => exact ⟨hs, hd⟩
    | tail _ hchange ih =>
      refine ⟨hchange.sound ih.1, ?_⟩
      cases hchange with
      | created hcreated => exact hcreated.dated ih.1.keyed ih.2
      | advanced hadvance => exact hadvance.dated ih.1.keyed ih.2
  | relayed hrelayed =>
    rw [hrelayed.rest]
    exact hd

theorem Reached.dated (hr : Reached E h s) : s.db.Dated := by
  refine hr.induct (P := fun _ s => s.db.Dated) (fun s hinit x hx => ?_) fun h s a s' hr ih hstep => ?_
  · obtain ⟨⟨tenants, hdb⟩, -⟩ := hinit
    rw [hdb] at hx
    cases hx
  · exact (hstep.evolves (Reached.ok hr)).dated (Reached.ok hr).sound ih

/-! ## Rows over time -/

/-- Every message is there later, and what its submission decided is as it was. -/
def Db.Follows (db db' : Db) : Prop := ∀ r ∈ db.messages, ∃ r' ∈ db'.messages, RowLater r r' ∧ r.Descends r'

theorem Db.Follows.refl (db : Db) : db.Follows db := fun r hr => ⟨r, hr, .inl rfl, .refl r⟩

theorem Db.Follows.trans {db'' : Db} (h₁ : db.Follows db') (h₂ : db'.Follows db'') : db.Follows db'' := by
  intro r hr
  obtain ⟨r', hr', hlater, hdescends⟩ := h₁ r hr
  obtain ⟨r'', hr'', hlater', hdescends'⟩ := h₂ r' hr'
  exact ⟨r'', hr'', hlater.trans hlater', hdescends.trans hdescends'⟩

theorem Change.follows (hchange : Change L ids db db') (hs : Sound L ids db) : db.Follows db' := by
  intro x hx
  cases hchange with
  | created hcreated =>
    refine ⟨x, ?_, .inl rfl, .refl x⟩
    rw [hcreated.messages]
    exact List.mem_append_left _ hx
  | @advanced now r m _ hadvance =>
    rw [hadvance.messages]
    by_cases hxr : x = r
    · subst hxr
      exact ⟨_, (mem_exchange hadvance.mem).2 (.inl rfl), hadvance.rowLater,
        .moved (hs.rows x hx).stored hadvance.moved⟩
    · exact ⟨x, (mem_exchange hadvance.mem).2 (.inr ⟨hx, hxr⟩), .inl rfl, .refl x⟩

theorem Evolves.follows (hev : Evolves E db db') (hs : Sound E.L E.ids db) : db.Follows db' := by
  cases hev with
  | changed hchanges =>
    suffices hboth : Sound E.L E.ids db' ∧ db.Follows db' from hboth.2
    induction hchanges with
    | refl => exact ⟨hs, .refl db⟩
    | tail _ hchange ih => exact ⟨hchange.sound ih.1, ih.2.trans (hchange.follows ih.1)⟩
  | relayed hrelayed =>
    rw [hrelayed.rest]
    exact .refl db

theorem CallbackStep.follows {act : CallbackAction} {h : CallbackHistory} (hstep : CallbackStep E n act n')
    (hr : Notifying E h n) : n.service.db.Follows n'.service.db := by
  cases hstep with
  | commit hstep _ _ => exact (hstep.evolves hr.ok).follows hr.ok.sound
  | service hstep _ => exact (hstep.evolves hr.ok).follows hr.ok.sound
  | @settle i d answer => cases answer <;> exact .refl _
  | _ => exact .refl _

theorem Notifying.follows {newer older : CallbackHistory} {act : CallbackAction}
    (hr : Notifying E (newer ++ (act, n) :: older) n') : n.service.db.Follows n'.service.db :=
  hr.across (R := fun n n' => n.service.db.Follows n'.service.db) (fun _ => .refl _) (fun _ _ _ => .trans)
    fun _ _ _ _ hr hstep => hstep.follows hr

theorem Notifying.dated {h : CallbackHistory} (hr : Notifying E h n) : n.service.db.Dated := by
  obtain ⟨h', s, hr', dead, rfl⟩ := hr.serves
  have hdated := Reached.dated hr'
  exact hdated

/-! ## What is shown -/

variable {record : MessageRecord} {view : DeliveryV1.EmailMessage}

theorem messageToProto_eq_ok : messageToProto L record = .ok view ↔ record.validate = .ok () ∧
    ∃ d ∈ record.submission, ∃ status ∈ statusToProto record.message.snapshot.status,
    view = messageView L record d status := by
  unfold messageToProto
  split
  · rename_i d hvalid hsubmission
    split
    · rename_i status hstatus
      simp [hvalid, hsubmission, hstatus, eq_comm]
    · rename_i hstatus
      simp [hsubmission, hstatus]
  · rename_i hno
    constructor
    · intro hview
      cases hview
    · rintro ⟨hvalid, d, hd, -⟩
      exact absurd hd (hno () d hvalid)

/-- A query returns the record of a row. -/
theorem get_eq_ok {query : GetEmailQuery} (hget : EmailQueryService.get db query = .ok record) :
    ∃ r ∈ db.messages, record = r.record := by
  simp only [EmailQueryService.get, check_bind_eq_ok] at hget
  obtain ⟨-, -, hget⟩ := hget
  split at hget
  · simp only [getByIdempotencyKey, check_bind_eq_ok] at hget
    obtain ⟨-, -, -, hget⟩ := hget
    split at hget
    · cases hget
    · rename_i tenant _
      cases hfind : db.findKey tenant query.idempotencyKey with
      | none =>
        rw [hfind] at hget
        cases hget
      | some r =>
        rw [hfind, scanFound, scanMessageRecord_eq_ok] at hget
        exact ⟨r, List.mem_of_find?_eq_some hfind, hget.2⟩
  · simp only [bind_eq_ok, pure_eq_ok] at hget
    obtain ⟨_, -, _, -, loaded, hloaded, _, -, rfl⟩ := hget
    obtain ⟨r, hr, -, -, hrecord⟩ := getByID_eq_ok hloaded
    exact ⟨r, hr, hrecord⟩

/-- A query shows a row. -/
theorem getEmail_shows {tenant : Option String} {request : DeliveryV1.GetEmailRequest}
    (hget : DeliveryServer.getEmail L tenant request db = .ok view) :
    ∃ r ∈ db.messages, messageToProto L r.record = .ok view := by
  simp only [DeliveryServer.getEmail, bind_eq_ok, mapError_ok_iff] at hget
  obtain ⟨tenantID, -, query, -, record, hrecord, hview⟩ := hget
  obtain ⟨r, hr, rfl⟩ := get_eq_ok hrecord
  exact ⟨r, hr, hview⟩

/-- What a view shows of its row. -/
theorem messageToProto_row (hview : messageToProto L r.record = .ok view) : view.messageID = r.snapshot.id ∧
    view.idempotencyKey = r.idempotencyKey ∧ view.latestSequence = r.snapshot.latestSequence ∧
    view.updatedAt = L.timestampNew r.snapshot.updatedAt ∧
    statusToProto r.snapshot.status = some view.status := by
  obtain ⟨-, d, -, status, hstatus, rfl⟩ := messageToProto_eq_ok.1 hview
  exact ⟨rfl, rfl, rfl, rfl, hstatus⟩

/-- Only these fields of a view can change. -/
theorem MessageRow.Descends.views {view' : DeliveryV1.EmailMessage} (hdescends : r.Descends x)
    (hview : messageToProto L r.record = .ok view) (hview' : messageToProto L x.record = .ok view') :
    { view with
      status := view'.status, updatedAt := view'.updatedAt, latestSequence := view'.latestSequence
      latestFailure := view'.latestFailure } = view' := by
  obtain ⟨-, d, hd, status, -, rfl⟩ := messageToProto_eq_ok.1 hview
  obtain ⟨-, d', hd', status', -, rfl⟩ := messageToProto_eq_ok.1 hview'
  obtain ⟨hfixed, hscheduled, hdeadline⟩ := hdescends
  simp only [MessageRow.fixed, Prod.mk.injEq] at hfixed
  obtain ⟨-, hkey, -, hcategory, hpriority, -, hsubmission, hid, -, haccepted⟩ := hfixed
  have hsame : d' = d := by
    have hrecords : x.record.submission = r.record.submission := hsubmission
    exact Option.some.inj (hd'.symm.trans (hrecords.trans hd))
  simp only [messageView, MessageRow.record, MessageRow.message, Message.snapshot, hsame, hkey,
    hcategory, hpriority, hid, haccepted, hscheduled, hdeadline]

section InStep

variable {journal : List DeliveryEvent} {outbox : List OutboxEvent} {snapshot : Snapshot}

theorem InStep.sequence_le (h : InStep journal outbox snapshot) (hj : j ∈ journal) :
    j.sequence ≤ snapshot.latestSequence := by
  have hmem : j.sequence ∈ List.range' 1 snapshot.latestSequence := by
    rw [← h.sequences]
    exact List.mem_map_of_mem hj
  rw [List.mem_range'_1] at hmem
  omega

/-- The row of the present sequence has the present status. -/
theorem InStep.status_eq (h : InStep journal outbox snapshot) (hj : j ∈ journal)
    (hsequence : j.sequence = snapshot.latestSequence) : j.status = snapshot.status := by
  obtain ⟨front, last, rfl, hstatus, hlast⟩ := h.last
  have hnodup : ((front ++ [last]).map (·.sequence)).Nodup := by
    rw [h.sequences]
    exact List.nodup_range'
  obtain rfl : j = last := List.inj_on_of_nodup_map hnodup hj (by simp) (hsequence.trans hlast.symm)
  exact hstatus

end InStep

/-- Every message has the details of its submission. -/
theorem Reached.details (hr : Reached E h s) (hmem : r ∈ s.db.messages) : ∃ d, r.submission = some d := by
  obtain ⟨hsubmitted, -, -, hdescends⟩ := Reached.origin hr hmem
  obtain ⟨tenant, stored, -, -, hholds⟩ := hsubmitted.holds hdescends
  exact ⟨_, hholds.submission⟩

/-- A row that can be read can be shown. -/
theorem MessageRow.Loadable.shown {d : SubmissionDetails} (hload : r.Loadable) (hd : r.submission = some d) :
    ∃ view, messageToProto E.L r.record = .ok view := by
  obtain ⟨status, hstatus⟩ := statusToProto_isSome (validateSnapshot_eq_ok.1 hload.snapshot).status
  exact ⟨_, messageToProto_eq_ok.2 ⟨hload.record, d, hd, status, hstatus, rfl⟩⟩

/-! ## The two selectors -/

theorem tenantIDFromContext_some {tenantID : String} (htenant : isUUID tenantID = true) :
    tenantIDFromContext (some tenantID) = .ok tenantID := by
  unfold tenantIDFromContext
  split
  · rename_i hnone
    cases hnone
  · rename_i hempty
    cases hempty
    exact absurd htenant (by decide)
  · rename_i hsome
    cases hsome
    rfl

/-- The caller's tenant owns the message, in whatever spelling, and its key is one that is looked up. -/
structure MessageRow.FoundBy (r : MessageRow) (tenantID : String) : Prop where
  tenant : isUUID tenantID = true
  column : uuidColumn tenantID = some r.tenantID
  key : idempotencyKeyPattern r.idempotencyKey = true

theorem Reached.getEmail_byKey {tenantID : String} (hr : Reached E h s) (hmem : r ∈ s.db.messages)
    (hfinds : r.FoundBy tenantID) :
    DeliveryServer.getEmail E.L (some tenantID) ⟨some (.idempotencyKey r.idempotencyKey)⟩ s.db = (do
      let record ← (scanMessageRecord r).mapError (publicStatus [·])
      (messageToProto E.L record).mapError (publicStatus [·])) := by
  obtain ⟨htenant, hcolumn, hkey⟩ := hfinds
  have hne : r.idempotencyKey ≠ "" := by
    intro hempty
    rw [hempty] at hkey
    exact absurd hkey (by decide)
  have hfound : s.db.getByIdempotencyKey tenantID r.idempotencyKey = scanMessageRecord r := by
    have hlength := ((Reached.ok hr).sound.rows r hmem).checked.idempotencyKey
    rw [getByIdempotencyKey, check_bind htenant, check_bind hlength, hcolumn]
    exact congrArg scanFound (findKey_of_mem (Reached.keys hr) hmem)
  have hget : EmailQueryService.get s.db ⟨tenantID, "", r.idempotencyKey⟩ = scanMessageRecord r := by
    rw [EmailQueryService.get, check_bind htenant]
    dsimp only
    rw [check_bind (by simp [hne]), if_pos (by simp [hne]), check_bind hkey, hfound]
  rw [DeliveryServer.getEmail, tenantIDFromContext_some htenant, ok_bind]
  change (do
    let record ← (EmailQueryService.get s.db ⟨tenantID, "", r.idempotencyKey⟩).mapError (publicStatus [·])
    (messageToProto E.L record).mapError (publicStatus [·])) = _
  rw [hget]

theorem getEmail_byID {tenantID : String} (hk : s.db.Keyed) (hmem : r ∈ s.db.messages)
    (htenant : isUUID tenantID = true) :
    DeliveryServer.getEmail E.L (some tenantID) ⟨some (.messageID r.snapshot.id)⟩ s.db = (do
      let record ← (scanMessageRecord r).mapError (publicStatus [·])
      check (record.tenantID = tenantID) (.notFound, "requested resource was not found")
      (messageToProto E.L record).mapError (publicStatus [·])) := by
  rw [DeliveryServer.getEmail, tenantIDFromContext_some htenant, ok_bind]
  change (do
    let record ← (EmailQueryService.get s.db ⟨tenantID, r.snapshot.id, ""⟩).mapError (publicStatus [·])
    (messageToProto E.L record).mapError (publicStatus [·])) = _
  rw [get_byID_eq hk hmem htenant]
  cases scanMessageRecord r with
  | error e => rfl
  | ok record =>
    by_cases hsame : record.tenantID = tenantID
    · simp only [Except.mapError, ok_bind, check, if_pos hsame, pure, Except.pure]
    · simp only [Except.mapError, ok_bind, error_bind, check, if_neg hsame]
      rfl

/-- A row that can be read is shown. -/
theorem Reached.shows {tenantID : String} (hr : Reached E h s) (hmem : r ∈ s.db.messages)
    (hfinds : r.FoundBy tenantID) (hload : r.Loadable) (hview : messageToProto E.L r.record = .ok view) :
    DeliveryServer.getEmail E.L (some tenantID) ⟨some (.idempotencyKey r.idempotencyKey)⟩ s.db = .ok view ∧
    DeliveryServer.getEmail E.L (some tenantID) ⟨some (.messageID r.snapshot.id)⟩ s.db =
      if r.tenantID = tenantID then .ok view else .error (.notFound, "requested resource was not found") := by
  rw [Reached.getEmail_byKey hr hmem hfinds, getEmail_byID (Reached.ok hr).sound.keyed hmem hfinds.tenant,
    scanMessageRecord_eq_ok.2 ⟨hload, rfl⟩]
  simp only [Except.mapError, ok_bind, hview, true_and]
  by_cases hsame : r.tenantID = tenantID
  · rw [if_pos hsame, check_bind (show r.record.tenantID = tenantID from hsame)]
  · rw [if_neg hsame, check, if_neg (show ¬ r.record.tenantID = tenantID from hsame), error_bind]

/-- A row that cannot be read is an error of the service. -/
theorem Reached.hides {tenantID : String} (hr : Reached E h s) (hmem : r ∈ s.db.messages)
    (hfinds : r.FoundBy tenantID) (hcorrupt : ¬ r.Loadable) :
    DeliveryServer.getEmail E.L (some tenantID) ⟨some (.idempotencyKey r.idempotencyKey)⟩ s.db =
      .error (.internal, "internal service error") ∧
    DeliveryServer.getEmail E.L (some tenantID) ⟨some (.messageID r.snapshot.id)⟩ s.db =
      .error (.internal, "internal service error") := by
  rw [Reached.getEmail_byKey hr hmem hfinds, getEmail_byID (Reached.ok hr).sound.keyed hmem hfinds.tenant]
  obtain ⟨detail, hscan⟩ := scanMessageRecord_eq_error hcorrupt
  rw [hscan]
  exact ⟨rfl, rfl⟩

/-! ## Views and reports -/

/-- A message that can be read is shown under its id. -/
theorem Notifying.shows {h : CallbackHistory} (hr : Notifying E h n) (hmem : r ∈ n.service.db.messages)
    (hload : r.Loadable) :
    ∃ view, messageToProto E.L r.record = .ok view ∧
      DeliveryServer.getEmail E.L (some r.tenantID)
        ⟨some (.messageID r.snapshot.id)⟩ n.service.db = .ok view := by
  have hkeyed := hr.ok.sound.keyed
  obtain ⟨h', s, hr', dead, rfl⟩ := hr.serves
  obtain ⟨d, hd⟩ := Reached.details hr' hmem
  obtain ⟨view, hview⟩ := hload.shown hd
  refine ⟨view, hview, ?_⟩
  rw [getEmail_byID hkeyed hmem (isUUID_of_uuidColumn (hkeyed.canonical r hmem).2),
    scanMessageRecord_eq_ok.2 ⟨hload, rfl⟩]
  simp only [Except.mapError, ok_bind, hview]
  exact check_bind_eq_ok.2 ⟨rfl, rfl⟩

/-- What callers are shown of a message: views follow one another in the order of their sequences,
two of one sequence are the same, and no field changes but the state. What the subscriber was told
is never ahead of a later view, and a report with the view's sequence has its status and its
time. -/
theorem views_agree_with_reports {newer older : CallbackHistory} {act : CallbackAction} {n₁ : Notifier}
    {tenant tenant' : Option String} {request request' : DeliveryV1.GetEmailRequest}
    {view' : DeliveryV1.EmailMessage} (hr : Notifying E (newer ++ (act, n₁) :: older) n)
    (hget : DeliveryServer.getEmail E.L tenant request n₁.service.db = .ok view)
    (hget' : DeliveryServer.getEmail E.L tenant' request' n.service.db = .ok view')
    (hid : view'.messageID = view.messageID) :
    view.latestSequence ≤ view'.latestSequence ∧ (view.latestSequence = view'.latestSequence → view = view') ∧
    { view with
      status := view'.status, updatedAt := view'.updatedAt, latestSequence := view'.latestSequence
      latestFailure := view'.latestFailure } = view' ∧
    ∀ i report n₂, (.call i report, n₂) ∈ newer ++ (act, n₁) :: older → report.messageID = view'.messageID →
      report.idempotencyKey = view'.idempotencyKey ∧ report.sequence ≤ view'.latestSequence ∧
      (report.sequence = view'.latestSequence →
        report.status = view'.status ∧ report.occurredAt = view'.updatedAt) := by
  obtain ⟨r₁, hr₁, hview₁⟩ := getEmail_shows hget
  obtain ⟨r, hmem, hview⟩ := getEmail_shows hget'
  obtain ⟨hid₁, -, hsequence₁, -⟩ := messageToProto_row hview₁
  obtain ⟨hid', hkey, hsequence, hupdated, hstatus⟩ := messageToProto_row hview
  have hsound := hr.ok.sound
  obtain ⟨r', hr', hlater, hdescends⟩ := Notifying.follows hr r₁ hr₁
  obtain rfl : r' = r := by
    refine List.inj_on_of_nodup_map hsound.keyed.ids hr' hmem ?_
    rw [hlater.id_eq, ← hid₁, ← hid, hid']
  refine ⟨?_, fun hsame => ?_, hdescends.views hview₁ hview, fun i report n₂ hcall hmessage => ?_⟩
  · rw [hsequence₁, hsequence]
    exact hlater.sequence_le
  · rcases hlater with rfl | ⟨-, -, hlt, -⟩
    · exact Except.ok.inj (hview₁.symm.trans hview)
    · rw [hsequence₁, hsequence] at hsame
      omega
  · obtain ⟨j, hj, hreport⟩ := Notifying.requested hr i report n₂ hcall
    obtain ⟨-, hmessage', hreported, hkey', hoccurred, hstatus'⟩ := reportRequest_eq_ok hreport
    have hjmessage : j.messageID = r'.snapshot.id := hmessage'.symm.trans (hmessage.trans hid')
    obtain ⟨hjkey, hjtime⟩ := Notifying.dated hr r' hmem j hj hjmessage
    have hinStep := (hsound.rows r' hmem).inStep
    have hjournal : j ∈ n.service.db.journal r'.snapshot.id := by simp [Db.journal, hj, hjmessage]
    refine ⟨?_, ?_, fun hlatest => ?_⟩
    · rw [hkey', hkey]
      exact hjkey
    · rw [hreported, hsequence]
      exact hinStep.sequence_le hjournal
    · rw [hreported, hsequence] at hlatest
      have hjstatus : j.persisted.status = r'.snapshot.status := hinStep.status_eq hjournal hlatest
      have hjoccurred : j.persisted.occurredAt = r'.snapshot.updatedAt := hjtime hlatest
      rw [hjstatus, hstatus] at hstatus'
      rw [hoccurred, hupdated, hjoccurred]
      exact ⟨(Option.some.inj hstatus').symm, rfl⟩

/-- A message is queried after its first report, and again when that has failed. -/
theorem views_agree_with_reports_first : ∃ E newer older act n₁ n tenant request view report n₂,
    Notifying E (newer ++ (act, n₁) :: older) n ∧ (.call 0 report, n₂) ∈ older ∧
    DeliveryServer.getEmail E.L tenant request n₁.service.db = .ok view ∧
    DeliveryServer.getEmail E.L tenant request n.service.db = .ok view ∧ report.messageID = view.messageID ∧
    report.idempotencyKey = view.idempotencyKey ∧ report.sequence ≤ view.latestSequence := by
  obtain ⟨hash, h, n, d, o, hr, -, hidle, hqueue, ho, hsent, hkey, hload⟩ := Sample.exists_arrived
  obtain ⟨j, hj, -, report, hreport, hruns⟩ :=
    Notifying.reports hr (Sample.timeTexts hash) hidle hqueue ho hsent hkey
  obtain ⟨n₁, n₂, n₃, n₄, hr₄, hlane, hdb⟩ := hruns (.failed .deadlineExceeded)
  have hrequeued := hr₄.next (.settle hlane)
  obtain ⟨r, hmem, hid, -⟩ := hr₄.ok.sound.keyed.journal j (hdb ▸ hj)
  obtain ⟨view, hview, hget⟩ := Notifying.shows hr₄ hmem (hload r (hdb ▸ hmem))
  have hmessage : report.messageID = view.messageID := by
    rw [(reportRequest_eq_ok hreport).2.1, (messageToProto_row hview).1, hid]
    rfl
  obtain ⟨hsame, hle, -⟩ :=
    (@views_agree_with_reports _ _ _ [_] _ _ _ _ _ _ _ _ hrequeued hget hget rfl).2.2.2 0 report n₃
    (by simp) hmessage
  exact ⟨_, [_], _, _, n₄, _, _, _, view, report, n₃, hrequeued, by simp, hget, hget, hmessage, hsame, hle⟩

/-! ## A submission and its view -/

section Submission

variable {catalog : SubmissionCatalog} {protector : Protector} {command : SubmitEmailCommand}
  {drawn : Uuid} {nonce : Nonce}
  {p : PreparedSubmission}

/-- A message that was made at a whole microsecond is stored with the times it has. -/
theorem Submitted.truncated (hs : Submitted L catalog protector command drawn nonce now p m row)
    (hnow : truncate now = now) : m.snapshot.truncated = m.snapshot := by
  obtain ⟨email, locale, templateVariables, hfrom⟩ := prepareSubmission_eq_ok.1 hs.prepared
  obtain ⟨hdeadline, hscheduled⟩ := hfrom.truncated
  obtain ⟨-, rfl⟩ := Message.new_eq_ok.1 hs.new
  unfold routedMessage
  split
  · simp only [Message.changeStatus, acceptedMessage, submissionParams, Message.snapshot,
      Snapshot.truncated, hdeadline, hscheduled, hnow, Option.map_none]
  · simp only [queuedMessage, Message.requestDispatch, Message.changeStatus,
      acceptedMessage, submissionParams, Message.snapshot, Snapshot.truncated, hdeadline, hscheduled,
      hnow, Option.map_none]

/-- The caller is shown what was stored. -/
theorem Submitted.shown (hs : Submitted L catalog protector command drawn nonce now p m row)
    (hnow : truncate now = now) :
    ∃ view, messageToProto L (p.record m).pulled = .ok view ∧ view.messageID = row.snapshot.id ∧
      (row.Loadable → messageToProto L row.record = .ok view) := by
  obtain ⟨tenant, stored, -, -, hholds⟩ := hs.holds (.refl row)
  obtain ⟨-, -, -, -, hsnapshot⟩ := createRow_eq_some hs.stored
  have hvalid := hs.valid
  rw [MessageRecord.validateForCreate, unit_bind_eq_ok] at hvalid
  have hmessage : row.snapshot.id = m.snapshot.id := by
    rw [hholds.id]
    exact (Message.new_moved hs.new).1.id.symm
  have hstored : row.snapshot = m.snapshot := by
    rw [hsnapshot, hmessage]
    exact hs.truncated hnow
  obtain ⟨status, hstatus⟩ : ∃ status, statusToProto m.snapshot.status = some status := by
    refine statusToProto_isSome ?_
    rcases (Message.new_moved hs.new).2.1 with hscheduled | hqueued
    · rw [hscheduled]
      rfl
    · rw [hqueued]
      rfl
  refine ⟨messageView L (p.record m).pulled p.details status,
    messageToProto_eq_ok.2 ⟨hvalid.1, _, rfl, status, hstatus, rfl⟩, hmessage.symm,
    fun hload => messageToProto_eq_ok.2 ⟨hload.record, _, hholds.submission, status, ?_, ?_⟩⟩
  · change statusToProto row.snapshot.status = _
    rw [hstored]
    exact hstatus
  · simp only [messageView, MessageRow.record, MessageRow.message, MessageRecord.pulled,
      MessageRecord.withMessage, PreparedSubmission.record, Message.snapshot, hstored,
      hholds.idempotencyKey, hholds.category, hholds.priority]

/-- A submission that was taken is shown, whether it was accepted now or before. -/
theorem submit_shown {result : SubmitEmailResult} (hr : Reached E h s) (hid : drawn ∈ E.ids)
    (hnow : truncate now = now)
    (hsubmit : submit E.L catalog protector command drawn nonce now s.db = .ok (db', result)) :
    isUUID command.tenantID = true ∧ idempotencyKeyPattern command.idempotencyKey = true ∧
      ∃ r ∈ db'.messages, uuidColumn command.tenantID = some r.tenantID ∧
      r.idempotencyKey = command.idempotencyKey ∧ ∃ view, messageToProto E.L result.record = .ok view ∧
      view.messageID = r.snapshot.id ∧ (r.Loadable → messageToProto E.L r.record = .ok view) := by
  have hkeyed := (Reached.ok hr).sound.keyed
  obtain ⟨p, hp, heffect⟩ := submit_effect hkeyed hid hsubmit
  obtain ⟨email, locale, templateVariables, hfrom⟩ := prepareSubmission_eq_ok.1 hp
  have htenant : p.normalized.tenantID = command.tenantID := by rw [hfrom.normalized]; rfl
  have hkey : p.normalized.idempotencyKey = command.idempotencyKey := by rw [hfrom.normalized]; rfl
  refine ⟨hfrom.checked.tenantID, hfrom.checked.idempotencyKey, ?_⟩
  cases heffect with
  | accepted hnew hstored hcreated =>
    obtain ⟨p', m, row, hs, hrecord, hcreated⟩ := submit_accepted hkeyed hid hsubmit
    obtain rfl : p = p' := Except.ok.inj (hp.symm.trans hs.prepared)
    obtain ⟨view, hview, hmessage, hshown⟩ := hs.shown hnow
    obtain ⟨tenant, stored, hcolumn, -, hholds⟩ := hs.holds (.refl row)
    refine ⟨row, ?_, ?_, hholds.idempotencyKey.trans hkey, view, ?_, hmessage, hshown⟩
    · rw [hcreated.messages]
      exact List.mem_append_right _ List.mem_cons_self
    · rw [← htenant, hcolumn, hholds.tenantID]
    · rw [hrecord]
      exact hview
  | @duplicate tenant r hcolumn hfound hload _ =>
    have hmem := List.mem_of_find?_eq_some hfound
    have hfields : r.tenantID = tenant ∧ r.idempotencyKey = p.normalized.idempotencyKey := by
      simpa using List.find?_some hfound
    obtain ⟨d, hd⟩ := Reached.details hr hmem
    obtain ⟨view, hview⟩ := hload.shown hd
    refine ⟨r, hmem, ?_, hfields.2.trans hkey, view, hview, (messageToProto_row hview).1, fun _ => hview⟩
    rw [← htenant, hcolumn, hfields.1]

theorem tenantIDFromContext_eq_ok {tenant : Option String} {tenantID : String}
    (htenant : tenantIDFromContext tenant = .ok tenantID) : tenant = some tenantID := by
  unfold tenantIDFromContext at htenant
  split at htenant
  · cases htenant
  · cases htenant
  · exact congrArg some (Except.ok.inj htenant)

/-- The tenant of a command is that of the context, and its key that of the request. -/
theorem submitCommandFromProto_eq_ok {tenantID : String} {request : DeliveryV1.SubmitEmailRequest}
    (hcommand : submitCommandFromProto L tenantID request = .ok command) :
    command.tenantID = tenantID ∧ command.idempotencyKey = request.idempotencyKey := by
  unfold submitCommandFromProto at hcommand
  split at hcommand
  · cases hcommand
  · simp only [bind_eq_ok, pure_eq_ok] at hcommand
    obtain ⟨_, -, _, -, _, -, _, -, _, -, _, -, rfl⟩ := hcommand
    exact ⟨rfl, rfl⟩

/-- A transaction that fails by itself is answered with one of three statuses. -/
theorem publicStatus_transaction {errors : List Error} (hne : errors ≠ [])
    (herrors : ∀ e ∈ errors, (∃ operation, e = .transaction operation) ∨ ∃ c, e = .context c) :
    publicStatus errors ∈ [(.canceled, "request canceled"), (.deadlineExceeded, "request deadline exceeded"),
      (.unavailable, "service storage is temporarily unavailable")] := by
  by_cases hcanceled : .context .canceled ∈ errors
  · simp [publicStatus, publicErrors, hcanceled, Code.grpc]
  by_cases hdeadline : .context .deadlineExceeded ∈ errors
  · simp [publicStatus, publicErrors, hcanceled, hdeadline, Code.grpc]
  have htransaction : ∀ e ∈ errors, ∃ operation, e = .transaction operation := by
    intro e he
    rcases herrors e he with htransaction | ⟨c, rfl⟩
    · exact htransaction
    · cases c with
      | canceled => exact absurd he hcanceled
      | deadlineExceeded => exact absurd he hdeadline
  have hinvalid : errors.any Error.invalidRequest = false := by
    refine List.any_eq_false.2 fun e he => ?_
    obtain ⟨_, rfl⟩ := htransaction e he
    simp [Error.invalidRequest]
  have hunavailable : errors.any Error.unavailable = true := by
    obtain ⟨e, he⟩ := List.exists_mem_of_ne_nil _ hne
    obtain ⟨_, rfl⟩ := htransaction e he
    exact List.any_eq_true.2 ⟨_, he, rfl⟩
  have hother {e : Error} (hne : ∀ operation, e ≠ .transaction operation) : e ∉ errors := fun he =>
    (htransaction e he).elim hne
  simp [publicStatus, publicErrors, hcanceled, hdeadline, hinvalid, hunavailable, hother, Code.grpc]

theorem DeliveryServer.submitAnswer_eq_ok {answer : SubmitEmailResult} {view : DeliveryV1.EmailMessage}
    (hview : messageToProto L answer.record = .ok view) :
    submitAnswer L (.ok answer) = .ok ⟨dispositionToProto answer.disposition, view⟩ := by
  simp only [submitAnswer, Except.mapError, ok_bind, hview]
  rfl

/-- Where nothing fails, a call does what `submit` says. -/
theorem DeliveryServer.submitEmail_reliable {tenant : Option String} {tenantID : String}
    {request : DeliveryV1.SubmitEmailRequest} {answer : SubmitEmailResult}
    {response : DeliveryV1.SubmitEmailResponse} (htenant : tenantIDFromContext tenant = .ok tenantID)
    (hcommand : submitCommandFromProto L tenantID request = .ok command)
    (hsubmit : submit L catalog protector command drawn nonce now db = .ok (db', answer))
    (hanswer : submitAnswer L (.ok answer) = .ok response) :
    submitEmail L catalog protector .reliable tenant request drawn nonce now db = (db', .ok response) := by
  obtain ⟨prepared, hprepared, htransaction⟩ := bind_eq_ok.1 hsubmit
  simp only [submitEmail, htenant, hcommand, EmailSubmissionService.submit, hprepared,
    Transactor.reliable, undisturbed, htransaction, hanswer]

/-- A submission that was taken is answered with a view, which is what `GetEmail` shows if the
message can be read. -/
theorem submit_answered {tenantID : String} {request : DeliveryV1.SubmitEmailRequest}
    {answer : SubmitEmailResult} (hr : Reached E h s) (hclock : Precise h) (hid : drawn ∈ E.ids)
    (hnow : truncate now = now) (hcommand : submitCommandFromProto E.L tenantID request = .ok command)
    (hsubmit : submit E.L catalog protector command drawn nonce now s.db = .ok (db', answer)) :
    ∃ response, DeliveryServer.submitAnswer E.L (.ok answer) = .ok response ∧
      ∃ r ∈ db'.messages, r.snapshot.id = response.message.messageID ∧
      (r.Short →
        DeliveryServer.getEmail E.L (some tenantID) ⟨some (.idempotencyKey request.idempotencyKey)⟩ db' =
          .ok response.message ∧
        DeliveryServer.getEmail E.L (some tenantID) ⟨some (.messageID response.message.messageID)⟩ db' =
          if r.tenantID = tenantID then .ok response.message
          else .error (.notFound, "requested resource was not found")) ∧
      (¬ r.Short → ∀ selector ∈ [.idempotencyKey request.idempotencyKey, .messageID response.message.messageID],
        DeliveryServer.getEmail E.L (some tenantID) ⟨some selector⟩ db' =
          .error (.internal, "internal service error")) := by
  obtain ⟨huuid, hpattern, r, hmem, hcolumn, hkey, view, hview, hmessage, hshown⟩ :=
    submit_shown hr hid hnow hsubmit
  obtain ⟨rfl, hkey'⟩ := submitCommandFromProto_eq_ok hcommand
  have hr' := hr.next (.submit hid hsubmit)
  have hclock' : Precise ((.submit command now answer, { s with db := db' }) :: h) := by
    intro command₀ now₀ result₀ s₀ hentry
    rcases List.mem_cons.1 hentry with heq | hentry
    · cases heq
      exact hnow
    · exact hclock _ _ _ _ hentry
  have hfinds : r.FoundBy command.tenantID := ⟨huuid, hcolumn, hkey ▸ hpattern⟩
  refine ⟨_, DeliveryServer.submitAnswer_eq_ok hview, r, hmem, hmessage.symm, ?_⟩
  rw [← hkey', ← hkey, hmessage]
  refine ⟨fun hshort => ?_, fun hlong => ?_⟩
  · have hload := (Reached.loadable_iff hr' hclock' hmem).2 hshort
    have hshows := Reached.shows hr' hmem hfinds hload (hshown hload)
    exact hshows
  · have hcorrupt := mt (Reached.loadable_iff hr' hclock' hmem).1 hlong
    simpa using Reached.hides hr' hmem hfinds hcorrupt

/-- What `SubmitEmail` stores is what it answers, if it answers, and what `GetEmail` shows
afterwards, if the message can be read again. By its id the message is found under one spelling of
the tenant. A call that returns an error has stored nothing, unless its commit took effect without
being reported. -/
theorem submitted_email_is_shown {transactor : Transactor SubmitEmailResult} {tenant : Option String}
    {request : DeliveryV1.SubmitEmailRequest} {result : Except GrpcStatus DeliveryV1.SubmitEmailResponse}
    (hr : Reached E h s) (hclock : Precise h) (hid : drawn ∈ E.ids) (hnow : truncate now = now)
    (hcall : DeliveryServer.submitEmail E.L catalog protector transactor tenant request drawn nonce now s.db =
      (db', result)) :
    (db' = s.db ∧ ∃ status, result = .error status) ∨
    ∃ response, DeliveryServer.submitEmail E.L catalog protector .reliable tenant request
      drawn nonce now s.db =
        (db', .ok response) ∧
      (result = .ok response ∨ ∃ status ∈ [(.canceled, "request canceled"),
        (.deadlineExceeded, "request deadline exceeded"),
        (.unavailable, "service storage is temporarily unavailable")], result = .error status) ∧
      ∃ tenantID ∈ tenant, ∃ r ∈ db'.messages, r.snapshot.id = response.message.messageID ∧
      (r.Short →
        DeliveryServer.getEmail E.L tenant ⟨some (.idempotencyKey request.idempotencyKey)⟩ db' =
          .ok response.message ∧
        DeliveryServer.getEmail E.L tenant ⟨some (.messageID response.message.messageID)⟩ db' =
          if r.tenantID = tenantID then .ok response.message
          else .error (.notFound, "requested resource was not found")) ∧
      (¬ r.Short → ∀ selector ∈ [.idempotencyKey request.idempotencyKey, .messageID response.message.messageID],
        DeliveryServer.getEmail E.L tenant ⟨some selector⟩ db' =
          .error (.internal, "internal service error")) := by
  unfold DeliveryServer.submitEmail at hcall
  split at hcall
  · cases hcall
    exact .inl ⟨rfl, _, rfl⟩
  rename_i tenantID htenant
  split at hcall
  · cases hcall
    exact .inl ⟨rfl, _, rfl⟩
  rename_i command hcommand
  obtain rfl := tenantIDFromContext_eq_ok htenant
  have hwithin := EmailSubmissionService.submit_within E.L catalog protector transactor
    command drawn nonce now s.db
  generalize EmailSubmissionService.submit E.L catalog protector transactor command drawn
    nonce now s.db = returned at hcall hwithin
  obtain ⟨db'', returned⟩ := returned
  cases hcall
  -- a commit leaves the database of an undisturbed call, whether it is reported or not
  cases hwithin with
  | committed hsubmit =>
    obtain ⟨response, hanswer, hshown⟩ := submit_answered hr hclock hid hnow hcommand hsubmit
    exact .inr ⟨response, DeliveryServer.submitEmail_reliable htenant hcommand hsubmit hanswer,
      .inl hanswer, tenantID, rfl, hshown⟩
  | @unreported _ _ contextError cause rollback hsubmit =>
    obtain ⟨response, hanswer, hshown⟩ := submit_answered hr hclock hid hnow hcommand hsubmit
    have herrors : ∀ e ∈ mapStorageError contextError .transaction "commit" cause :: rollbackErrors rollback,
        (∃ operation, e = .transaction operation) ∨ ∃ c, e = .context c := by
      intro e he
      rcases List.mem_cons.1 he with rfl | he
      · exact (mapStorageError_transaction contextError "commit" cause).imp_left fun heq => ⟨_, heq⟩
      · exact mem_rollbackErrors he
    exact .inr ⟨response, DeliveryServer.submitEmail_reliable htenant hcommand hsubmit hanswer,
      .inr ⟨_, publicStatus_transaction (List.cons_ne_nil _ _) herrors, rfl⟩, tenantID, rfl, hshown⟩
  | refused => exact .inl ⟨rfl, _, rfl⟩
  | interrupted => exact .inl ⟨rfl, _, rfl⟩

end Submission

namespace Sample

def submitRequest : DeliveryV1.SubmitEmailRequest where
  idempotencyKey := "order-1"
  recipient := some ⟨"ann@example.com", some "Ann"⟩
  senderIdentityKey := "noreply"
  content := some ⟨some ⟨"welcome", none⟩, "en", some (some "\x7b\x7d")⟩
  category := .transactional
  priority := 5
  scheduledAt := none
  dispatchDeadline := some (timestampNew deadline)
  duplicateRiskPolicy := .avoidDuplicate
  metadata := none

theorem submitRequest_command (hash : String → Uuid) :
    submitCommandFromProto (libs hash) tenant.text submitRequest = .ok (command none none) := by
  rfl

/-- Every commit takes effect and fails. -/
def unreporting (callback : Db → Except Error (Db × SubmitEmailResult)) (db : Db) :
    Db × Except (List Error) SubmitEmailResult :=
  match callback db with
  | .ok (db', _) => (db', .error [.transaction "commit"])
  | .error e => (db, .error [e])

theorem within_unreporting (callback : Db → Except Error (Db × SubmitEmailResult)) (db : Db) :
    WithinTransaction db (callback db) (unreporting callback db).1 (unreporting callback db).2 := by
  unfold unreporting
  split
  · rename_i hok
    exact @WithinTransaction.unreported _ _ _ _ _ none none none hok
  · rename_i herror
    exact @WithinTransaction.refused _ _ _ _ none herror

def unreportingTransactor : Transactor SubmitEmailResult := ⟨unreporting, within_unreporting⟩

end Sample

/-- A message is stored by a call that returns an error, and then queried. -/
theorem submitted_email_is_shown_unreported :
    ∃ E h s catalog protector drawn nonce now db' response, Reached E h s ∧
    DeliveryServer.submitEmail E.L catalog protector Sample.unreportingTransactor (some Sample.tenant.text)
      Sample.submitRequest drawn nonce now s.db =
        (db', .error (.unavailable, "service storage is temporarily unavailable")) ∧
    DeliveryServer.submitEmail E.L catalog protector .reliable
      (some Sample.tenant.text) Sample.submitRequest drawn nonce
      now s.db = (db', .ok response) ∧
    DeliveryServer.getEmail E.L (some Sample.tenant.text) ⟨some (.idempotencyKey "order-1")⟩ db' =
      .ok response.message ∧
    DeliveryServer.getEmail E.L (some Sample.tenant.text) ⟨some (.messageID response.message.messageID)⟩ db' =
      .ok response.message := by
  obtain ⟨hm, hlen, hobject, hstored⟩ := Sample.metadata_empty
  obtain ⟨hash, canonical, m, row, -, -, hrow, hp, ha⟩ :=
    Sample.exists_accepted (.inl rfl) hm hlen hobject hstored
  have hshort := Sample.newRow_short hrow hlen.2
  have htenant : row.tenantID = Sample.tenant.text := by rw [hrow]; rfl
  clear hrow
  have hsubmitted := submitTransaction_accepts ha
  generalize Sample.prepared none _ canonical = p at hp ha hsubmitted
  have hr := Sample.reached_start hash
  have hnow : truncate Sample.now = Sample.now := by decide
  have hclock : Precise [] := fun _ _ _ _ hentry => by cases hentry
  have hcall : DeliveryServer.submitEmail
    (Sample.libs hash) Sample.catalog Sample.protector Sample.unreportingTransactor
      (some Sample.tenant.text) Sample.submitRequest Sample.messageID Sample.nonce
        Sample.now Sample.start.db =
        (acceptedDb (Sample.libs hash) Sample.now Sample.start.db p m row,
          .error (.unavailable, "service storage is temporarily unavailable")) := by
    have hcontext : tenantIDFromContext (some Sample.tenant.text) = .ok Sample.tenant.text :=
      tenantIDFromContext_some (isUUID_of_uuidColumn (uuidColumn_text Sample.tenant))
    simp only [DeliveryServer.submitEmail, hcontext, Sample.submitRequest_command hash,
      EmailSubmissionService.submit, hp, Sample.unreportingTransactor, Sample.unreporting, hsubmitted]
    rfl
  obtain ⟨hsame, -⟩ | ⟨response, hagain, -, tenantID, htenantID, r', hmem', hid, hgets, -⟩ :=
    submitted_email_is_shown hr hclock (Set.mem_singleton _) hnow hcall
  · cases congrArg (·.messages) hsame
  obtain rfl := Option.mem_some_iff.1 htenantID
  obtain rfl : r' = row := List.mem_singleton.1 hmem'
  obtain ⟨hbyKey, hbyID⟩ := hgets hshort
  rw [if_pos htenant] at hbyID
  exact ⟨_, _, _, _, _, _, _, _, _, _, hr, hcall, hagain, hbyKey, hbyID⟩

end MailService
