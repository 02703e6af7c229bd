import MailService.Concurrency
import MailService.Storage
/-!
# One message for a key

What the callers of concurrent submissions see: one message for a key, the same
message for every success, and one acceptance. A call that has inserted its
message is not refused any more, so that a call waits only for calls that can
end.
-/
open Runs Checks Table Unique

namespace MailService

open Db

variable {E : Env} {L : Libs} {s s' : Intake} {action : IntakeAction} {db db' : Db}
  {call : SubmitCall} {m : Message}
  {row r : MessageRow} {record : MessageRecord} {work work' : SubmitWork} {i : Nat}
  {h : List (IntakeAction × Intake)}

/-! ## Progress -/

section Progress

variable (hi : call.Inserts db m row) (hdrawn : ∃ u ∈ E.ids, call.prepared.messageID = u.text)
  (hfree : ∀ x ∈ db.messages, ¬ x.Clashes row) (hs : Sound E.L E.ids db) (hc : E.L.CollisionFree E.ids)
  (hclock : E.L.Stores call.now)

include hi hdrawn hfree hs hc hclock

/-- The statements that follow the insert, as the transaction as a whole takes them. -/
theorem SubmitCall.Inserts.statements : ∃ mapped view view',
    mapAllMessageEvents E.L (call.prepared.record m) m.pendingEvents = .ok mapped ∧
    (Uncommitted.overlay ⟨[row], [], []⟩ db).appendDeliveryEvents mapped.delivery = .ok view ∧
    view.appendOutbox call.now mapped.outbox = .ok view' := by
  have ha := hi.acceptable hdrawn hfree hs hc hclock
  have haccepts := submitTransaction_accepts ha
  have hrecord : submissionRecord call.prepared call.now = .ok (call.prepared.record m) :=
    submissionRecord_eq_ok.2 ⟨hi.times, m, hi.new, rfl⟩
  rw [submitTransaction, hrecord, ok_bind, ha.created, ok_bind] at haccepts
  simp only [bind_eq_ok] at haccepts
  obtain ⟨mapped, hmap, view, hview, view', hview', -⟩ := haccepts
  refine ⟨mapped, view, view', hmap, ?_, hview'⟩
  simpa only [Uncommitted.overlay, List.append_nil] using hview

theorem SubmitCall.Inserts.can_journal : ∃ work',
    call.next E.L db (.inserted (call.prepared.record m) ⟨[row], [], []⟩) = some (.ok work') := by
  obtain ⟨mapped, view, -, hmap, hview, -⟩ := hi.statements hdrawn hfree hs hc hclock
  exact ⟨_, congrArg some (bind_eq_ok.2 ⟨mapped, hmap, bind_eq_ok.2 ⟨view, hview, rfl⟩⟩)⟩

theorem SubmitCall.Inserts.can_write : ∃ work', call.next E.L db (.journaled (call.prepared.record m)
    (m.pendingEvents.map (outboxEventOf E.L call.prepared.normalized.tenantID))
    ⟨[row], journalRows E.L row.tenantID call.prepared.normalized.idempotencyKey m.pendingEvents, []⟩) =
      some (.ok work') := by
  obtain ⟨mapped, view, view', hmap, hview, hview'⟩ := hi.statements hdrawn hfree hs hc hclock
  obtain rfl := mapAllMessageEvents_eq_ok hmap
  obtain rfl := hi.journal_view hs.keyed hdrawn hfree hview
  exact ⟨_, congrArg some (bind_eq_ok.2 ⟨view', hview', rfl⟩)⟩

end Progress

/-- What a call has inserted makes no other transaction wait for more than it waited for before. -/
theorem Intake.Ok.unlocked (hs : s.Ok E) (hcall : s.calls i = some (call, work))
    (hmessages : work'.rows.messages = work.rows.messages) : s.Unlocked i work'.rows := by
  intro j hj r hr x hx
  refine hs.separate.others i j hj.symm r ?_ x hx
  simp only [Intake.rows_of_call hcall, ← hmessages]
  exact hr

/-- The call that takes a step. -/
def IntakeAction.caller : IntakeAction → Option Nat
  | .service _ => none
  | .begins i _ | .advances i _ _ | .refuses i _ | .commits i _ _ _ | .returns i | .fails i => some i

/-- Call `i` can go on to its acceptance by its own steps. -/
def Completes (E : Env) (h : List (IntakeAction × Intake)) (i : Nat) (call : SubmitCall) : Prop :=
  ∃ newer s record, Submitting E (newer ++ h) s ∧ (∀ entry ∈ newer, entry.1.caller = some i) ∧
    s.calls i = some (call, .returned (.ok ⟨.accepted, record⟩))

theorem Completes.step (hcomplete : Completes E ((action, s) :: h) i call) (hown : action.caller = some i) :
    Completes E h i call := by
  obtain ⟨newer, s', record, hr, hnewer, hcall⟩ := hcomplete
  refine ⟨newer ++ [(action, s)], s', record, by simpa using hr, fun entry hentry => ?_, hcall⟩
  rcases List.mem_append.1 hentry with hentry | hentry
  · exact hnewer entry hentry
  · rw [List.mem_singleton.1 hentry]
    exact hown

theorem Submitting.advance (hr : Submitting E h s) (hcall : s.calls i = some (call, work))
    (hnext : call.next E.L s.service.db work = some (.ok work')) (hunlocked : s.Unlocked i work'.rows) :
    ∃ s', Submitting E ((.advances i call work', s') :: h) s' ∧ s'.service = s.service ∧
      s'.calls i = some (call, work') ∧
      ∀ j, j ≠ i → s'.calls j = s.calls j :=
  ⟨_, hr.next (.advances hcall hnext hunlocked), rfl, Intake.setCall_self ..,
    fun _ hj => Intake.setCall_of_ne _ _ _ hj⟩

theorem Submitting.commit {rows : Uncommitted} (hr : Submitting E h s)
    (hcall : s.calls i = some (call, .written record rows)) :
    ∃ s', Submitting E ((.commits i call record true, s') :: h) s' ∧
    s'.service.db = rows.overlay s.service.db ∧
      s'.calls i = some (call, .returned (.ok ⟨.accepted, record.pulled⟩)) ∧ ∀ j, j ≠ i →
      s'.calls j = s.calls j :=
  ⟨_, hr.next (.commits hcall), rfl, Intake.setCall_self .., fun _ hj => Intake.setCall_of_ne _ _ _ hj⟩

theorem Submitting.completes_written {rows : Uncommitted} (hr : Submitting E h s)
    (hcall : s.calls i = some (call, .written record rows)) : Completes E h i call := by
  obtain ⟨s', hr', -, hcall', -⟩ := hr.commit hcall
  exact Completes.step
    ⟨[], s', record.pulled, hr', fun _ hentry => absurd hentry List.not_mem_nil, hcall'⟩ rfl

theorem Submitting.completes_journaled {outbox : List OutboxEvent} {rows : Uncommitted}
    (hr : Submitting E h s) (hc : E.L.CollisionFree E.ids) (hL : E.L.ClockTexts)
    (hcall : s.calls i = some (call, .journaled record outbox rows))
    (hclock : E.L.Stores call.now) : Completes E h i call := by
  have hs := Submitting.ok hr hc hL
  have hdrawn := (hs.prepared i call _ hcall).drawn
  obtain ⟨m, row, hinserts, -, rfl, rfl, rfl⟩ := hs.works i call _ hcall
  obtain ⟨work', hnext⟩ :=
    hinserts.can_write hdrawn (hs.free hcall List.mem_cons_self) hs.service.sound hc hclock
  obtain rfl := hinserts.writes hs.service.sound.keyed hdrawn (hs.free hcall List.mem_cons_self) hnext
  obtain ⟨s', hr', -, hcall', -⟩ := hr.advance hcall hnext (hs.unlocked hcall rfl)
  exact (hr'.completes_written hcall').step rfl

theorem Submitting.completes_inserted {rows : Uncommitted} (hr : Submitting E h s)
    (hc : E.L.CollisionFree E.ids) (hL : E.L.ClockTexts)
    (hcall : s.calls i = some (call, .inserted record rows)) (hclock : E.L.Stores call.now) :
    Completes E h i call := by
  have hs := Submitting.ok hr hc hL
  have hdrawn := (hs.prepared i call _ hcall).drawn
  obtain ⟨m, row, hinserts, rfl, rfl⟩ := hs.works i call _ hcall
  obtain ⟨work', hnext⟩ :=
    hinserts.can_journal hdrawn (hs.free hcall List.mem_cons_self) hs.service.sound hc hclock
  obtain ⟨-, rfl⟩ := hinserts.journals hs.service.sound.keyed hdrawn (hs.free hcall List.mem_cons_self) hnext
  obtain ⟨s', hr', -, hcall', -⟩ := hr.advance hcall hnext (hs.unlocked hcall rfl)
  exact (hr'.completes_journaled hc hL hcall' hclock).step rfl

/-! ## The messages -/

/-- The call that commits a message in a step. -/
def IntakeAction.committed : IntakeAction → Option (Nat × SubmitCall)
  | .commits i call _ _ => some (i, call)
  | _ => none

/-- The calls that committed a message, oldest first. -/
def committed (h : List (IntakeAction × Intake)) : List (Nat × SubmitCall) :=
  (h.filterMap fun entry => entry.1.committed).reverse

theorem committed_commits {reported : Bool} : committed ((.commits i call record reported, s) :: h) =
    committed h ++ [(i, call)] := by
  simp [committed, IntakeAction.committed]

/-- The message holds the key of the call. -/
def SubmitCall.Names (call : SubmitCall) (r : MessageRow) : Prop :=
  uuidColumn call.prepared.normalized.tenantID = some r.tenantID ∧
    r.idempotencyKey = call.prepared.normalized.idempotencyKey

/-- The message is the one that the call created. -/
structure SubmitCall.Creates (call : SubmitCall) (r : MessageRow) : Prop where
  names : call.Names r
  payloadFingerprint : r.payloadFingerprint = call.prepared.fingerprint
  id : r.snapshot.id = call.prepared.messageID

theorem SubmitCall.Creates.of_fixed {r' : MessageRow} (hcreates : call.Creates r)
    (hfixed : r'.fixed = r.fixed) :
    call.Creates r' := by
  simp only [MessageRow.fixed, Prod.mk.injEq] at hfixed
  obtain ⟨htenant, hkey, hfingerprint, -, -, -, -, hid, -⟩ := hfixed
  exact ⟨⟨htenant ▸ hcreates.names.1, hkey.trans hcreates.names.2⟩,
    hfingerprint.trans hcreates.payloadFingerprint, hid.trans hcreates.id⟩

theorem SubmitCall.Inserts.creates (hi : call.Inserts db m row)
    (hdrawn : ∃ u ∈ E.ids, call.prepared.messageID = u.text) : call.Creates row := by
  obtain ⟨-, htenant, hkey, hfingerprint, -⟩ := createRow_eq_some hi.stored
  exact ⟨⟨htenant, hkey⟩, hfingerprint, (hi.messageID hdrawn).1⟩

/-- Rows that were updated in place correspond to what they corresponded to before. -/
theorem forall₂_of_fixed {rows rows' : List MessageRow} {entries : List (Nat × SubmitCall)}
    (hall : List.Forall₂ (fun r entry => entry.2.Creates r) rows entries)
    (hfixed : rows'.map MessageRow.fixed = rows.map MessageRow.fixed) :
    List.Forall₂ (fun r entry => entry.2.Creates r) rows' entries := by
  induction hall generalizing rows' with
  | nil =>
    rw [List.map_nil, List.map_eq_nil_iff] at hfixed
    rw [hfixed]
    exact .nil
  | cons hcreates _ ih =>
    obtain ⟨r', rest, rfl, hr', hrest⟩ := List.map_eq_cons_iff.1 hfixed
    exact .cons (hcreates.of_fixed hr') (ih hrest)

/-- The messages are those that calls committed, in the order of the commits. -/
theorem Submitting.messages (hr : Submitting E h s) (hc : E.L.CollisionFree E.ids) (hL : E.L.ClockTexts) :
    List.Forall₂ (fun r entry => entry.2.Creates r) s.service.db.messages (committed h) := by
  refine hr.induct (P := fun h s => List.Forall₂
    (fun r entry => SubmitCall.Creates entry.2 r) s.service.db.messages
    (committed h)) (fun s hinit => ?_) fun h s a s' hr ih hstep => ?_
  · obtain ⟨⟨⟨tenants, hdb⟩, -⟩, -⟩ := hinit
    rw [hdb]
    exact .nil
  have hs := Submitting.ok hr hc hL
  cases hstep with
  | service hstep hother => exact forall₂_of_fixed ih (hstep.submissions_kept hs.service hother)
  | @commits i call record rows reported hcall =>
    have hdrawn := (hs.prepared i call _ hcall).drawn
    obtain ⟨m, row, hinserts, -, rfl, rfl⟩ := hs.works i call _ hcall
    rw [committed_commits]
    exact List.rel_append ih (.cons (hinserts.creates hdrawn) .nil)
  | begins => exact ih
  | advances => exact ih
  | refuses => exact ih
  | returns => exact ih
  | fails => exact ih

theorem exists_created {rows : List MessageRow} {entries : List (Nat × SubmitCall)}
    (hall : List.Forall₂ (fun r entry => entry.2.Creates r) rows entries) {entry : Nat × SubmitCall}
    (he : entry ∈ entries) :
    ∃ r ∈ rows, entry.2.Creates r := by
  induction hall with
  | nil => cases he
  | cons hcreates _ ih =>
    rcases List.mem_cons.1 he with rfl | he
    · exact ⟨_, List.mem_cons_self, hcreates⟩
    · obtain ⟨r, hr, hcreates'⟩ := ih he
      exact ⟨r, List.mem_cons_of_mem _ hr, hcreates'⟩

theorem exists_creator {rows : List MessageRow} {entries : List (Nat × SubmitCall)}
    (hall : List.Forall₂ (fun r entry => entry.2.Creates r) rows entries) (hr : r ∈ rows) :
    ∃ entry ∈ entries, entry.2.Creates r := by
  induction hall with
  | nil => cases hr
  | cons hcreates _ ih =>
    rcases List.mem_cons.1 hr with rfl | hr
    · exact ⟨_, List.mem_cons_self, hcreates⟩
    · obtain ⟨entry, hentry, hcreates'⟩ := ih hr
      exact ⟨entry, List.mem_cons_of_mem _ hentry, hcreates'⟩

theorem SubmitCall.Creates.key {x : MessageRow} (hcreates : call.Creates x) (hnames : call.Names r) :
    (x.tenantID, x.idempotencyKey) = (r.tenantID, r.idempotencyKey) := by
  rw [hcreates.names.2, hnames.2, Option.some.inj (hcreates.names.1.symm.trans hnames.1)]

/-- One message for a key, so one commit. -/
theorem entry_unique {rows : List MessageRow} {entries : List (Nat × SubmitCall)}
    (hall : List.Forall₂ (fun r entry => entry.2.Creates r) rows entries)
    (hn : (rows.map fun r => (r.tenantID, r.idempotencyKey)).Nodup) {entry entry' : Nat × SubmitCall}
    (he : entry ∈ entries) (he' : entry' ∈ entries) (hr : entry.2.Names r) (hr' : entry'.2.Names r) :
    entry = entry' := by
  induction hall with
  | nil => cases he
  | @cons x first rest entries hcreates hall ih =>
    rw [List.map_cons, List.nodup_cons] at hn
    have hothers : ∀ {other : Nat × SubmitCall}, other ∈ entries → other.2.Names r → ¬ first.2.Names r := by
      intro other hother hnames hfirst
      obtain ⟨y, hy, hcreates'⟩ := exists_created hall hother
      exact hn.1 (List.mem_map.2 ⟨y, hy, (hcreates'.key hnames).trans (hcreates.key hfirst).symm⟩)
    rcases List.mem_cons.1 he with hfirst | hin <;> rcases List.mem_cons.1 he' with hfirst' | hin'
    · exact hfirst.trans hfirst'.symm
    · exact absurd (hfirst ▸ hr) (hothers hin' hr')
    · exact absurd (hfirst' ▸ hr') (hothers hin hr)
    · exact ih hn.2 hin hin'

/-! ## The answers -/

/-- The call was answered with the message that holds its key, and asked for the same. -/
def SubmitCall.Gets (call : SubmitCall) (db : Db) (result : SubmitEmailResult) : Prop :=
  ∃ r ∈ db.messages, call.Names r ∧ r.payloadFingerprint = call.prepared.fingerprint ∧
    result.record.message.id = r.snapshot.id

theorem SubmitCall.Gets.later {result : SubmitEmailResult} (hgets : call.Gets db result) (hl : db.Later db') :
    call.Gets db' result := by
  obtain ⟨r, hr, hnames, hfingerprint, hid⟩ := hgets
  obtain ⟨r', hr', hlater⟩ := hl.messages r hr
  have hfixed := hlater.fixed_eq
  simp only [MessageRow.fixed, Prod.mk.injEq] at hfixed
  obtain ⟨htenant, hkey, hfp, -⟩ := hfixed
  exact ⟨r', hr', ⟨htenant ▸ hnames.1, hkey.trans hnames.2⟩, hfp.trans hfingerprint,
    hid.trans hlater.id_eq.symm⟩

/-- Every result that a call has is the message that holds its key. -/
def Intake.Got (s : Intake) : Prop :=
  ∀ i call work result, s.calls i = some (call, work) → work.result = some result →
    call.Gets s.service.db result

theorem Intake.Got.setCall (hs : s.Got) (hcalls : s'.calls = s.calls) (hl : s.service.db.Later s'.service.db)
    (hnew : ∀ result, work.result = some result → call.Gets s'.service.db result) :
    (s'.setCall i call work).Got := by
  intro j call' work' result hcall hresult
  rcases Intake.setCall_eq_some hcall with ⟨rfl, rfl, rfl⟩ | ⟨-, hcall⟩
  · exact hnew result hresult
  · exact (hs j call' work' result (hcalls ▸ hcall) hresult).later hl

theorem Submitting.got (hr : Submitting E h s) (hc : E.L.CollisionFree E.ids) (hL : E.L.ClockTexts) :
    s.Got := by
  refine hr.induct (P := fun _ s => s.Got) (fun s hinit i call work result hcall => ?_)
    fun h s a s' hr ih hstep => ?_
  · rw [hinit.2] at hcall
    cases hcall
  have hs := Submitting.ok hr hc hL
  cases hstep with
  | service hstep _ =>
    exact fun i call work result hcall hresult =>
      (ih i call work result hcall hresult).later (hstep.evolves hs.service).later
  | begins => exact ih.setCall rfl (.refl _) fun _ hresult => by cases hresult
  | @advances i call work work' hcall hnext _ =>
    refine ih.setCall rfl (.refl _) fun result hresult => ?_
    have hdrawn := (hs.prepared i call work hcall).drawn
    cases hs.statement hcall hnext with
    | resolves hsubmits =>
      cases hresult
      cases submitTransaction_effect hs.service.sound.keyed hdrawn hsubmits with
      | @duplicate tenant r hcolumn hfound _ hfingerprint =>
        have hmatch := List.find?_some hfound
        simp only [decide_eq_true_eq] at hmatch
        exact ⟨r, List.mem_of_find?_eq_some hfound, ⟨hmatch.1 ▸ hcolumn, hmatch.2⟩, hfingerprint, rfl⟩
    | _ => cases hresult
  | refuses => exact ih.setCall rfl (.refl _) fun _ hresult => by cases hresult
  | @commits i call record rows reported hcall =>
    have hdrawn := (hs.prepared i call _ hcall).drawn
    have hl := ((hs.commits hc hL hcall).evolves hs.service).later
    obtain ⟨m, row, hinserts, -, rfl, rfl⟩ := hs.works i call _ hcall
    have hcreates := hinserts.creates hdrawn
    refine ih.setCall rfl hl fun result hresult => ?_
    cases reported with
    | false => cases hresult
    | true =>
      cases hresult
      have hid : m.id = call.prepared.messageID := hinserts.moved.id
      exact ⟨row, List.mem_append_right _ List.mem_cons_self, hcreates.names, hcreates.payloadFingerprint,
        hid.trans hcreates.id.symm⟩
  | returns hcall =>
    refine ih.setCall rfl (.refl _) fun result hresult => ?_
    cases hresult
    exact ih _ _ _ _ hcall rfl
  | fails => exact ih.setCall rfl (.refl _) fun _ hresult => by cases hresult

/-- A call that has returned is done. -/
theorem IntakeStep.returned_kept {result : Except (Option Error) SubmitEmailResult}
    (hstep : IntakeStep E s action s') (hcall : s.calls i = some (call, .returned result)) :
    s'.calls i = some (call, .returned result) := by
  have hset : ∀ {t : Intake} {j : Nat} {call' : SubmitCall} {work : SubmitWork}, t.calls = s.calls → j ≠ i →
      (t.setCall j call' work).calls i = some (call, .returned result) := by
    intro t j call' work hcalls hj
    rw [Intake.setCall_of_ne t call' work hj.symm, hcalls, hcall]
  cases hstep with
  | service => exact hcall
  | begins hfree => exact hset rfl fun hj => by rw [hj, hcall] at hfree; cases hfree
  | advances hcall' hnext =>
    refine hset rfl fun hj => ?_
    rw [hj, hcall] at hcall'
    cases hcall'
    cases hnext
  | refuses hcall' hnext =>
    refine hset rfl fun hj => ?_
    rw [hj, hcall] at hcall'
    cases hcall'
    cases hnext
  | commits hcall' => exact hset rfl fun hj => by rw [hj, hcall] at hcall'; cases hcall'
  | returns hcall' => exact hset rfl fun hj => by rw [hj, hcall] at hcall'; cases hcall'
  | fails hcall' hopen =>
    refine hset rfl fun hj => ?_
    rw [hj, hcall] at hcall'
    cases hcall'
    exact hopen result rfl

theorem Submitting.committed_returned (hr : Submitting E h s) : ∀ i call record reported,
    .commits i call record reported ∈ h.map Prod.fst →
      s.calls i = some (call, .returned (commitAnswer record reported)) := by
  refine hr.induct (P := fun h s => ∀ i call record reported,
    .commits i call record reported ∈ h.map Prod.fst →
    s.calls i = some (call, .returned (commitAnswer record reported)))
      (fun s hinit i call record reported hmem => ?_)
    fun h s a s' hr ih hstep i call record reported hmem => ?_
  · cases hmem
  rw [List.map_cons, List.mem_cons] at hmem
  rcases hmem with hlast | hmem
  · cases hlast
    cases hstep with
    | commits => exact Intake.setCall_self ..
  · exact hstep.returned_kept (ih i call record reported hmem)

theorem committed_mem {reported : Bool} (hmem : .commits i call record reported ∈ h.map Prod.fst) :
    (i, call) ∈ committed h := by
  obtain ⟨⟨action, s⟩, hin, rfl⟩ := List.mem_map.1 hmem
  rw [committed, List.mem_reverse, List.mem_filterMap]
  exact ⟨_, hin, rfl⟩

theorem mem_committed {entry : Nat × SubmitCall} (hmem : entry ∈ committed h) :
    ∃ record reported, .commits entry.1 entry.2 record reported ∈ h.map Prod.fst := by
  rw [committed, List.mem_reverse, List.mem_filterMap] at hmem
  obtain ⟨⟨action, s⟩, hin, hcommitted⟩ := hmem
  cases action with
  | commits i call record reported =>
    cases hcommitted
    exact ⟨record, reported, List.mem_map.2 ⟨_, hin, rfl⟩⟩
  | _ => cases hcommitted

/-- A success is an acceptance exactly if its call committed. -/
theorem Submitting.accepted_iff {result : SubmitEmailResult} (hr : Submitting E h s)
    (hc : E.L.CollisionFree E.ids) (hL : E.L.ClockTexts)
    (hcall : s.calls i = some (call, .returned (.ok result))) :
    result.disposition = .accepted ↔ (i, call) ∈ committed h := by
  refine ⟨fun haccepted => ?_, fun hmem => ?_⟩
  · rcases Submitting.answered hr hc hL i call _ result hcall rfl with ⟨hduplicate, -⟩ | ⟨record, -, hin⟩
    · rw [hduplicate] at haccepted
      cases haccepted
    · exact committed_mem hin
  · obtain ⟨record, reported, hin⟩ := mem_committed hmem
    have hreturned := hcall.symm.trans (hr.committed_returned i call record reported hin)
    cases reported with
    | false => cases hreturned
    | true =>
      cases hreturned
      rfl

/-- A call that failed although it committed was not told. -/
theorem Submitting.failed_committed {e : Option Error} (hr : Submitting E h s)
    (hcall : s.calls i = some (call, .returned (.error e))) (hmem : (i, call) ∈ committed h) :
    e = none ∧ ∃ record, .commits i call record false ∈ h.map Prod.fst := by
  obtain ⟨record, reported, hin⟩ := mem_committed hmem
  have hreturned := hcall.symm.trans (hr.committed_returned i call record reported hin)
  cases reported with
  | true => cases hreturned
  | false =>
    cases hreturned
    exact ⟨rfl, record, hin⟩

/-- What the read of the stored message finds: the same submission, or another under its key. -/
theorem SubmitCall.Taken.next_conflicted (htaken : call.Taken db record) (hn : db.keys.Nodup)
    (hr : r ∈ db.messages) (hnames : call.Names r) (hload : r.Loadable) :
    call.next L db (.conflicted record) =
      some (if r.payloadFingerprint = call.prepared.fingerprint then .ok (.resolved ⟨.duplicate, r.record⟩)
        else .error .idempotencyConflict) := by
  obtain ⟨-, m, -, rfl⟩ := submissionRecord_eq_ok.1 htaken.submission
  obtain ⟨htext, htrimmed, -⟩ := PreparedSubmission.record_validate_eq_ok.1 (unit_bind_eq_ok.1 htaken.valid).1
  have hget : db.getByIdempotencyKey call.prepared.normalized.tenantID
    call.prepared.normalized.idempotencyKey =
      .ok r.record := by
    rw [getByIdempotencyKey, check_bind htext, check_bind htrimmed, hnames.1, ← hnames.2]
    exact (congrArg scanFound (findKey_of_mem hn hr)).trans (scanMessageRecord_eq_ok.2 ⟨hload, rfl⟩)
  have hresolve : call.next L db (.conflicted (call.prepared.record m)) =
      some (resolveDuplicate (call.prepared.record m) (.ok r.record) >>=
        fun persisted => pure (.resolved ⟨.duplicate, persisted.record⟩)) := by
    rw [← hget]
    rfl
  rw [hresolve, resolveDuplicate, ok_bind]
  split
  · rename_i hsame
    rw [check_bind (show r.record.payloadFingerprint =
      (call.prepared.record m).payloadFingerprint from hsame)]
    rfl
  · rename_i hother
    have hconflict : check (r.record.payloadFingerprint = (call.prepared.record m).payloadFingerprint)
        Error.idempotencyConflict = .error .idempotencyConflict := if_neg hother
    rw [hconflict]
    rfl

/-- What concurrent submissions come to, in state `s` of a run with history `h`. -/
structure Intake.Idempotent (E : Env) (s : Intake) (h : List (IntakeAction × Intake)) : Prop where
  /-- A key has one message. -/
  keys : s.service.db.keys.Nodup
  /-- The messages are those that calls committed: no other statement of a call leaves one. -/
  messages : List.Forall₂ (fun r entry => entry.2.Creates r) s.service.db.messages (committed h)
  /-- Of the calls with one key, one has committed. -/
  once : ∀ entry ∈ committed h, ∀ entry' ∈ committed h, ∀ r, entry.2.Names r →
    entry'.2.Names r → entry = entry'
  /-- A success is the message under the key, for the same payload; it is ACCEPTED if the call
  committed it. -/
  success : ∀ i call result, s.calls i = some (call, .returned (.ok result)) → call.Gets s.service.db result ∧
    (result.disposition = .accepted ↔ (i, call) ∈ committed h)
  /-- A call that fails after its commit was not told of it, and leaves nothing otherwise. -/
  failure : ∀ i call e, s.calls i = some (call, .returned (.error e)) → (i, call) ∈ committed h →
    e = none ∧ ∃ record, .commits i call record false ∈ h.map Prod.fst
  /-- Another payload under a key is a conflict. -/
  conflict : ∀ i call record, s.calls i = some (call, .conflicted record) →
    ∀ r ∈ s.service.db.messages, call.Names r →
    r.Loadable → r.payloadFingerprint ≠ call.prepared.fingerprint →
      call.next E.L s.service.db (.conflicted record) = some (.error .idempotencyConflict)

/-- Every commit that took effect was reported to its call. -/
def Reported (h : List (IntakeAction × Intake)) : Prop := ∀ i call record,
    .commits i call record false ∉ h.map Prod.fst

/-- The fingerprints of the calls tell their canonical payloads apart. -/
def Intake.Distinguishes (s : Intake) : Prop :=
  ∀ i call work j call' work', s.calls i = some (call, work) → s.calls j = some (call', work') →
    call.prepared.fingerprint = call'.prepared.fingerprint →
    call.prepared.canonical = call'.prepared.canonical

/-- A call for the tenant and the key has succeeded. -/
structure Intake.Succeeds (s : Intake) (tenant key : String) (i : Nat) (call : SubmitCall)
    (result : SubmitEmailResult) : Prop where
  returned : s.calls i = some (call, .returned (.ok result))
  tenantID : uuidColumn call.prepared.normalized.tenantID = some tenant
  idempotencyKey : call.prepared.normalized.idempotencyKey = key

/-- What the callers see who submit under one tenant and key, where every commit is reported. -/
structure Intake.OncePerKey (E : Env) (s : Intake) (h : List (IntakeAction × Intake))
    (tenant key : String) : Prop where
  one : s.service.db.keys.count (tenant, key) ≤ 1
  /-- The message is that of the call that was accepted. -/
  stored : ∀ r ∈ s.service.db.messages, r.tenantID = tenant → r.idempotencyKey = key →
    ∃ i call record, s.Succeeds tenant key i call ⟨.accepted, record⟩ ∧ call.Creates r
  /-- Every success returns its id. -/
  same : ∀ i call result, s.Succeeds tenant key i call result → ∃ r ∈ s.service.db.messages,
    r.tenantID = tenant ∧ r.idempotencyKey = key ∧ result.record.message.id = r.snapshot.id
  /-- If there is a success, one call and no other was accepted. -/
  accepted : ∀ i call result, s.Succeeds tenant key i call result →
    ∃! j, ∃ call' record, s.Succeeds tenant key j call' ⟨.accepted, record⟩
  /-- Every success has the payload of the accepted call. -/
  payload : ∀ i call result j call' record, s.Succeeds tenant key i call result →
    s.Succeeds tenant key j call' ⟨.accepted, record⟩ → call.prepared.canonical = call'.prepared.canonical
  /-- A call with another payload whose insert found the key taken is refused, if the message can be read. -/
  conflict : ∀ i call taken r j call' record, s.calls i = some (call, .conflicted taken) →
    r ∈ s.service.db.messages →
    call.Names r → r.Loadable → r.tenantID = tenant → r.idempotencyKey = key →
    s.Succeeds tenant key j call' ⟨.accepted, record⟩ → call.prepared.canonical ≠ call'.prepared.canonical →
      call.next E.L s.service.db (.conflicted taken) = some (.error .idempotencyConflict)
  /-- A call that was not accepted has left the database alone in each of its steps. -/
  unchanged : ∀ i call result, s.calls i = some (call, .returned result) →
    (∀ record, result ≠ .ok ⟨.accepted, record⟩) →
      ∀ newer action s₁ older, h = newer ++ (action, s₁) :: older →
      action.caller = some i → ∃ s₀, Submitting E older s₀ ∧ IntakeStep E s₀ action s₁ ∧
        s₁.service.db = s₀.service.db

namespace Sample

theorem clockTexts (hash : String → Uuid) : (libs hash).ClockTexts := by
  have hplain : ∀ stamp ∈ stamps, Plain stamp.2 := by decide
  refine ⟨timeTexts hash, fun t text hformat => ?_⟩
  obtain ⟨before, after, hmem, -⟩ := List.lookup_eq_some_iff.1 hformat
  exact hplain (t, text) (hmem ▸ by simp)

/-- The insert of a message that can be accepted, and the same insert once its key is taken. -/
theorem next_of_acceptable {ids : Set Uuid} (ha : Acceptable L ids call.now db call.prepared m row) :
    call.next L db .began = some (.ok (.inserted (call.prepared.record m) ⟨[row], [], []⟩)) ∧
    ∀ db', (db'.findKey row.tenantID row.idempotencyKey).isSome = true →
      call.Taken db' (call.prepared.record m) ∧
      call.next L db' .began = some (.ok (.conflicted (call.prepared.record m))) := by
  have hrecord : submissionRecord call.prepared call.now = .ok (call.prepared.record m) :=
    submissionRecord_eq_ok.2 ⟨ha.times, m, ha.new, rfl⟩
  have hcreated := ha.created
  simp only [create, bind_eq_ok] at hcreated
  obtain ⟨_, hvalid, _, hcounters, inserted, hinsert, hcreated⟩ := hcreated
  constructor
  · cases inserted with
    | none =>
      obtain ⟨row', hrow', htaken⟩ := insertMessage_eq_none hinsert
      rw [ha.stored] at hrow'
      cases hrow'
      rw [ha.key] at htaken
      cases htaken
    | some view =>
      obtain ⟨rfl, -⟩ := Prod.mk.inj (pure_eq_ok.1 hcreated)
      have hrows : Uncommitted.beyond db { db with messages := db.messages ++ [row] } = ⟨[row], [], []⟩ := by
        simp [Uncommitted.beyond]
      rw [← hrows]
      exact congrArg some (bind_eq_ok.2 ⟨_, hrecord, bind_eq_ok.2 ⟨_, hvalid, bind_eq_ok.2 ⟨_, hcounters,
        bind_eq_ok.2 ⟨_, hinsert, rfl⟩⟩⟩⟩)
  · intro db' hkey
    have htaken : db'.insertMessage (call.prepared.record m) = .ok none := by
      simp only [insertMessage, ha.stored]
      rw [if_neg (not_not.2 ha.allowed), if_pos hkey]
    exact ⟨⟨hrecord, hvalid, hcounters, htaken⟩,
      congrArg some (bind_eq_ok.2 ⟨_, hrecord, bind_eq_ok.2 ⟨_, hvalid,
      bind_eq_ok.2 ⟨_, hcounters, bind_eq_ok.2 ⟨_, htaken, rfl⟩⟩⟩⟩)⟩

def submission (p : PreparedSubmission) : SubmitCall := ⟨command none none, p, now⟩

/-- A first call has begun. -/
def arriving (p : PreparedSubmission) : Intake :=
  Intake.setCall ⟨start, fun _ => none⟩ 0 (submission p) .began

/-- Two calls with the same submission are under way, and the first has inserted its message. -/
theorem exists_interleaved :
    ∃ hash h s call m row, (libs hash).CollisionFree {messageID} ∧ Submitting (env hash) h s ∧
    Reported h ∧ (∀ i, i ≠ 0 → i ≠ 1 → s.calls i = none) ∧ s.service = start ∧
    Acceptable (libs hash) {messageID} call.now start.db call.prepared m row ∧ row.Loadable ∧
    s.calls 0 = some (call, .inserted (call.prepared.record m) ⟨[row], [], []⟩) ∧
    s.calls 1 = some (call, .began) := by
  obtain ⟨hm, hlen, hobject, hstored⟩ := metadata_empty
  obtain ⟨hash, canonical, m, row, hc, -, hrow, hp, ha⟩ := exists_accepted (.inl rfl) hm hlen hobject hstored
  have hshort := newRow_short hrow hlen.2
  clear hrow
  generalize prepared none _ canonical = p at hp ha
  have hload : row.Loadable :=
    (Reached.loadable_iff (Reached.accepts (reached_start hash) rfl hp ha) precise mem_acceptedDb).2 hshort
  have hstart : Submitting (env hash) [] ⟨start, fun _ => none⟩ :=
    .start ⟨⟨⟨_, rfl⟩, rfl, rfl, rfl, rfl, rfl⟩, rfl⟩
  have hfirst : IntakeStep (env hash) ⟨start, fun _ => none⟩ (.begins 0 (submission p)) (arriving p) :=
    .begins rfl rfl hp
  have hsecond : IntakeStep (env hash) (arriving p) (.begins 1 (submission p))
      ((arriving p).setCall 1 (submission p) .began) :=
    .begins rfl rfl hp
  have hinsert : (submission p).next (libs hash) start.db .began =
      some (.ok (.inserted (p.record m) ⟨[row], [], []⟩)) := (next_of_acceptable ha).1
  have hunlocked : ((arriving p).setCall 1 (submission p) .began).Unlocked 0 ⟨[row], [], []⟩ := by
    intro j hj r hr x hx
    by_cases hone : j = 1
    · subst hone
      cases hx
    · simp only [Intake.rows, Intake.setCall, arriving, Function.update_of_ne hj,
        Function.update_of_ne hone] at hx
      cases hx
  have hthird : IntakeStep (env hash) ((arriving p).setCall 1 (submission p) .began)
      (.advances 0 (submission p) (.inserted (p.record m) ⟨[row], [], []⟩)) _ :=
        .advances rfl hinsert hunlocked
  refine ⟨hash, _, _, submission p, m, row, hc, ((hstart.next hfirst).next hsecond).next hthird,
    fun i call record => ?_, fun i hzero hone => ?_, rfl, ha, hload, rfl, rfl⟩
  · simp
  · simp [Intake.setCall, arriving, Function.update_of_ne hzero, Function.update_of_ne hone]

/-- The first call is accepted, and the second finds its message. -/
theorem exists_duplicate :
    ∃ hash h s call record stored, (libs hash).CollisionFree {messageID} ∧ Submitting (env hash) h s ∧
    Reported h ∧ s.Distinguishes ∧
    s.calls 0 = some (call, .returned (.ok ⟨.accepted, record⟩)) ∧
    s.calls 1 = some (call, .returned (.ok ⟨.duplicate, stored⟩)) := by
  obtain ⟨hash, h, s, call, m, row, hc, hr, hreported, hnone, hstart, ha, hload, hfirst, hsecond⟩ :=
    exists_interleaved
  have hL := clockTexts hash
  have hs := Submitting.ok hr hc hL
  have hdrawn := (hs.prepared 0 call _ hfirst).drawn
  have hfree := hs.free hfirst List.mem_cons_self
  have hinserts : call.Inserts s.service.db m row :=
    ⟨ha.times, ha.new, ha.valid, ha.stored, ha.allowed, hstart ▸ ha.tenant⟩
  -- the first call goes on alone
  obtain ⟨work₁, hjournal⟩ := hinserts.can_journal hdrawn hfree hs.service.sound hc ha.clock
  obtain ⟨-, rfl⟩ := hinserts.journals hs.service.sound.keyed hdrawn hfree hjournal
  obtain ⟨s₁, hr₁, hservice₁, hcall₁, hothers₁⟩ := hr.advance hfirst hjournal (hs.unlocked hfirst rfl)
  obtain ⟨work₂, hwrite⟩ := hinserts.can_write hdrawn hfree hs.service.sound hc ha.clock
  obtain rfl := hinserts.writes hs.service.sound.keyed hdrawn hfree hwrite
  rw [← hservice₁] at hwrite
  obtain ⟨s₂, hr₂, hservice₂, hcall₂, hothers₂⟩ :=
    hr₁.advance hcall₁ hwrite ((Submitting.ok hr₁ hc hL).unlocked hcall₁ rfl)
  obtain ⟨s₃, hr₃, hdb, hcall₃, hothers₃⟩ := hr₂.commit hcall₂
  rw [hservice₂, hservice₁] at hdb
  -- the second finds the key taken, and reads the message
  have hmem : row ∈ s₃.service.db.messages := by
    rw [hdb]
    exact List.mem_append_right _ List.mem_cons_self
  obtain ⟨h', hr', -⟩ := Submitting.serial hr₃ hc hL
  have hkeys := Reached.keys hr'
  obtain ⟨htaken, hconflict⟩ :=
    (next_of_acceptable ha).2 _ (Option.isSome_iff_exists.2 ⟨row, findKey_of_mem hkeys hmem⟩)
  have hsecond₃ : s₃.calls 1 = some (call, .began) := by
    rw [hothers₃ 1 (by decide), hothers₂ 1 (by decide), hothers₁ 1 (by decide), hsecond]
  obtain ⟨s₄, hr₄, hservice₄, hcall₄, hothers₄⟩ := hr₃.advance hsecond₃ hconflict fun _ _ r hr => by cases hr
  have hresolve := SubmitCall.Taken.next_conflicted (L := libs hash) htaken hkeys hmem
    (hinserts.creates hdrawn).names hload
  rw [if_pos (hinserts.creates hdrawn).payloadFingerprint, ← hservice₄] at hresolve
  obtain ⟨s₅, hr₅, -, hcall₅, hothers₅⟩ := hr₄.advance hcall₄ hresolve fun _ _ r hr => by cases hr
  have hzero : (s₅.setCall 1 call (.returned (.ok ⟨.duplicate, row.record⟩))).calls 0 =
      some (call, .returned (.ok ⟨.accepted, (call.prepared.record m).pulled⟩)) := by
    rw [Intake.setCall_of_ne s₅ call _ (by decide : 0 ≠ 1), hothers₅ 0 (by decide),
      hothers₄ 0 (by decide), hcall₃]
  -- both calls are for one submission
  have hall : ∀ k call' work', (s₅.setCall 1 call (.returned (.ok ⟨.duplicate, row.record⟩))).calls k =
      some (call', work') → call' = call := by
    intro k call' work' hcall
    by_cases hone : k = 1
    · subst hone
      rw [Intake.setCall_self] at hcall
      cases hcall
      rfl
    by_cases hk : k = 0
    · subst hk
      rw [hzero] at hcall
      cases hcall
      rfl
    · rw [Intake.setCall_of_ne s₅ call _ hone, hothers₅ k hone, hothers₄ k hone, hothers₃ k hk, hothers₂ k hk,
        hothers₁ k hk, hnone k hk hone] at hcall
      cases hcall
  refine ⟨hash, _, _, call, (call.prepared.record m).pulled, row.record, hc,
    hr₅.next (.returns hcall₅), ?_, ?_, hzero, Intake.setCall_self ..⟩
  · intro i call' record
    simp [hreported i call' record]
  · intro i call₁ work j call₂ work' hcall₁ hcall₂ _
    rw [hall i call₁ work hcall₁, hall j call₂ work' hcall₂]

end Sample

/-- Whatever runs beside it, a call that has inserted its message can go on to its acceptance by its
own statements alone: no insert waits for a call that cannot end. -/
theorem inserted_call_completes (hc : E.L.CollisionFree E.ids) (hL : E.L.ClockTexts) (hr : Submitting E h s)
    (hcall : s.calls i = some (call, work)) (hinserted : work.rows.messages ≠ [])
    (hclock : E.L.Stores call.now) :
    ∃ newer s' record, Submitting E (newer ++ h) s' ∧ (∀ entry ∈ newer, entry.1.caller = some i) ∧
      s'.calls i = some (call, .returned (.ok ⟨.accepted, record⟩)) := by
  cases work with
  | inserted record rows => exact hr.completes_inserted hc hL hcall hclock
  | journaled record outbox rows => exact hr.completes_journaled hc hL hcall hclock
  | written record rows => exact hr.completes_written hcall
  | began => exact absurd rfl hinserted
  | conflicted _ => exact absurd rfl hinserted
  | resolved _ => exact absurd rfl hinserted
  | returned _ => exact absurd rfl hinserted

/-- The second call waits until the first has been accepted. -/
theorem inserted_call_completes_waiting :
    ∃ E h s i call, Submitting E h s ∧ s.calls (i + 1) = some (call, .began) ∧
    ∃ newer s' record, Submitting E (newer ++ h) s' ∧ (∀ entry ∈ newer, entry.1.caller = some i) ∧
      s'.calls i = some (call, .returned (.ok ⟨.accepted, record⟩)) := by
  obtain ⟨hash, h, s, call, m, row, hc, hr, -, -, -, ha, -, hfirst, hsecond⟩ := Sample.exists_interleaved
  exact ⟨_, h, s, 0, call, hr, hsecond,
    inserted_call_completes hc (Sample.clockTexts hash) hr hfirst (List.cons_ne_nil _ _) ha.clock⟩

/-- Interleaved submissions are equivalent to atomic ones, each at the moment in which its call took
effect. -/
theorem submissions_serialize {h : List (IntakeAction × Intake)} (hc : E.L.CollisionFree E.ids)
    (hL : E.L.ClockTexts) (hr : Submitting E h s) : ∃ h', Reached E h' s.service ∧
      h'.map Prod.fst = h.filterMap (fun entry => entry.1.serial) ∧
      ∀ i call result, s.calls i = some (call, .returned (.ok result)) →
        TookEffect h i call result ∧ .submit call.command call.now result ∈ h'.map Prod.fst := by
  obtain ⟨h', hr', hactions⟩ := Submitting.serial hr hc hL
  refine ⟨h', hr', hactions, fun i call result hcall => ?_⟩
  have heffect := Submitting.answered hr hc hL i call _ result hcall rfl
  exact ⟨heffect, hactions ▸ heffect.serial⟩

/-- Two calls of which each began before the other returned are two atomic submissions. -/
theorem submissions_serialize_two : ∃ E h s call record stored, Submitting E h s ∧
    (∃ h', Reached E h' s.service ∧ h'.map Prod.fst = h.filterMap (fun entry => entry.1.serial) ∧
      ∀ i call result, s.calls i = some (call, .returned (.ok result)) →
        TookEffect h i call result ∧ .submit call.command call.now result ∈ h'.map Prod.fst) ∧
    s.calls 0 = some (call, .returned (.ok ⟨.accepted, record⟩)) ∧
    s.calls 1 = some (call, .returned (.ok ⟨.duplicate, stored⟩)) := by
  obtain ⟨hash, h, s, call, record, stored, hc, hr, -, -, hfirst, hsecond⟩ := Sample.exists_duplicate
  exact ⟨_, h, s, call, record, stored, hr,
    submissions_serialize hc (Sample.clockTexts hash) hr, hfirst, hsecond⟩

/-- However the statements of concurrent submissions interleave, a key gets one message, one call is
told that it was accepted, and every other success is a duplicate of it. -/
theorem concurrent_submissions (hc : E.L.CollisionFree E.ids) (hL : E.L.ClockTexts) (hr : Submitting E h s) :
    s.Idempotent E h := by
  obtain ⟨h', hr', -⟩ := Submitting.serial hr hc hL
  have hkeys := Reached.keys hr'
  have hmessages := hr.messages hc hL
  refine ⟨hkeys, hmessages, ?_, ?_, ?_, ?_⟩
  · intro entry he entry' he' r hnames hnames'
    exact entry_unique hmessages hkeys he he' hnames hnames'
  · intro i call result hcall
    exact ⟨hr.got hc hL i call _ result hcall rfl, hr.accepted_iff hc hL hcall⟩
  · intro i call e hcall hmem
    exact hr.failed_committed hcall hmem
  · intro i call record hcall r hmem hnames hload hother
    rw [SubmitCall.Taken.next_conflicted
      ((Submitting.ok hr hc hL).works i call _ hcall) hkeys hmem hnames hload,
      if_neg hother]

/-- Two calls with the same submission succeed; one was accepted, and the other is its duplicate. -/
theorem concurrent_submissions_duplicate : ∃ E h s call record stored, Submitting E h s ∧ s.Idempotent E h ∧
    s.calls 0 = some (call, .returned (.ok ⟨.accepted, record⟩)) ∧
    s.calls 1 = some (call, .returned (.ok ⟨.duplicate, stored⟩)) := by
  obtain ⟨hash, h, s, call, record, stored, hc, hr, -, -, hfirst, hsecond⟩ := Sample.exists_duplicate
  exact ⟨_, h, s, call, record, stored, hr,
    concurrent_submissions hc (Sample.clockTexts hash) hr, hfirst, hsecond⟩

/-- A committed call was accepted, where every commit is reported. -/
theorem Submitting.succeeds (hr : Submitting E h s) (hreported : Reported h) (hmem : (i, call) ∈ committed h)
    (hnames : call.Names r) :
    ∃ record, s.Succeeds r.tenantID r.idempotencyKey i call ⟨.accepted, record⟩ := by
  obtain ⟨record, reported, hin⟩ := mem_committed hmem
  cases reported with
  | false => exact absurd hin (hreported i call record)
  | true => exact ⟨_, hr.committed_returned i call record true hin, hnames.1, hnames.2.symm⟩

/-- The database is changed by commits only, as far as calls go. -/
theorem IntakeStep.unchanged (hstep : IntakeStep E s action s') (hown : action.caller = some i)
    (hother : ∀ call record reported, action ≠ .commits i call record reported) :
    s'.service.db = s.service.db := by
  cases hstep with
  | service => cases hown
  | commits =>
    cases hown
    exact absurd rfl (hother _ _ _)
  | _ => rfl

/-- Concurrent calls for one tenant and key, whose statements interleave in any order and any of
which may fail: they make one message, and one of them is accepted; the others are duplicates with
the same payload, or fail and leave nothing. -/
theorem submissions_once_per_key (hc : E.L.CollisionFree E.ids) (hL : E.L.ClockTexts) (hr : Submitting E h s)
    (hreported : Reported h) (hhmac : s.Distinguishes) (tenant key : String) :
    s.OncePerKey E h tenant key := by
  obtain ⟨h', hr', -⟩ := Submitting.serial hr hc hL
  have hkeys := Reached.keys hr'
  have hmessages := hr.messages hc hL
  -- the message under the key and the call that committed it
  have hgot : ∀ i call result, s.Succeeds tenant key i call result →
    ∃ r ∈ s.service.db.messages, r.tenantID = tenant ∧
      r.idempotencyKey = key ∧ r.payloadFingerprint = call.prepared.fingerprint ∧
      result.record.message.id = r.snapshot.id := by
    intro i call result hsucceeds
    obtain ⟨r, hmem, hnames, hfingerprint, hid⟩ := hr.got hc hL i call _ result hsucceeds.returned rfl
    exact ⟨r, hmem, Option.some.inj (hnames.1.symm.trans hsucceeds.tenantID),
      hnames.2.trans hsucceeds.idempotencyKey, hfingerprint, hid⟩
  -- every commit was reported, so the call that created a row was told that it was accepted
  have hstored : ∀ r ∈ s.service.db.messages, ∃ i call record,
      s.Succeeds r.tenantID r.idempotencyKey i call ⟨.accepted, record⟩ ∧ call.Creates r := by
    intro r hmem
    obtain ⟨⟨i, call⟩, hentry, hcreates⟩ := exists_creator hmessages hmem
    obtain ⟨record, hsucceeds⟩ := hr.succeeds hreported hentry hcreates.names
    exact ⟨i, call, record, hsucceeds, hcreates⟩
  -- two accepted calls would be two entries for the one row under the key
  have hunique : ∀ i call record j call' record', s.Succeeds tenant key i call ⟨.accepted, record⟩ →
      s.Succeeds tenant key j call' ⟨.accepted, record'⟩ → (i, call) = (j, call') := by
    intro i call record j call' record' hi hj
    obtain ⟨r, -, rfl, rfl, -⟩ := hgot i call _ hi
    exact entry_unique (r := r) hmessages hkeys ((hr.accepted_iff hc hL hi.returned).1 rfl)
      ((hr.accepted_iff hc hL hj.returned).1 rfl) ⟨hi.tenantID, hi.idempotencyKey.symm⟩
      ⟨hj.tenantID, hj.idempotencyKey.symm⟩
  have hpayload : ∀ r ∈ s.service.db.messages, r.tenantID = tenant → r.idempotencyKey = key →
      ∀ j call record, s.Succeeds tenant key j call ⟨.accepted, record⟩ →
        r.payloadFingerprint = call.prepared.fingerprint := by
    intro r hmem htenant hkey j call record hj
    subst htenant hkey
    obtain ⟨i, creator, record', hsucceeds, hcreates⟩ := hstored r hmem
    obtain ⟨-, rfl⟩ := Prod.mk.inj (hunique i creator record' j call record hsucceeds hj)
    exact hcreates.payloadFingerprint
  refine ⟨List.nodup_iff_count_le_one.1 hkeys _, ?_, ?_, ?_, ?_, ?_, ?_⟩
  · intro r hmem htenant hkey
    subst htenant hkey
    exact hstored r hmem
  · intro i call result hsucceeds
    obtain ⟨r, hmem, htenant, hkey, -, hid⟩ := hgot i call result hsucceeds
    exact ⟨r, hmem, htenant, hkey, hid⟩
  · intro i call result hsucceeds
    obtain ⟨r, hmem, rfl, rfl, -⟩ := hgot i call result hsucceeds
    obtain ⟨j, creator, record, haccepted, -⟩ := hstored r hmem
    refine ⟨j, ⟨creator, record, haccepted⟩, fun k hk => ?_⟩
    obtain ⟨call', record', hother⟩ := hk
    exact (Prod.mk.inj (hunique k call' record' j creator record hother haccepted)).1
  · intro i call result j call' record hi hj
    obtain ⟨r, hmem, htenant, hkey, hfingerprint, -⟩ := hgot i call result hi
    exact hhmac i call _ j call' _ hi.returned hj.returned
      (hfingerprint.symm.trans (hpayload r hmem htenant hkey j call' record hj))
  · intro i call taken r j call' record hcall hmem hnames hload htenant hkey hj hother
    have hfingerprint : r.payloadFingerprint ≠ call.prepared.fingerprint := by
      intro hsame
      exact hother (hhmac i call _ j call' _ hcall hj.returned
        (hsame.symm.trans (hpayload r hmem htenant hkey j call' record hj)))
    rw [SubmitCall.Taken.next_conflicted
      ((Submitting.ok hr hc hL).works i call _ hcall) hkeys hmem hnames hload,
      if_neg hfingerprint]
  · intro i call result hcall hresult newer action s₁ older hsplit hown
    subst hsplit
    obtain ⟨s₀, hr₀, hstep, -⟩ := hr.split
    refine ⟨s₀, hr₀, hstep, hstep.unchanged hown fun call' record reported hcommits => ?_⟩
    -- a commit would have been reported
    subst hcommits
    have hin : .commits i call' record
        reported ∈ (newer ++ (.commits i call' record reported, s₁) :: older).map Prod.fst :=
      List.mem_map.2 ⟨_, List.mem_append_right _ List.mem_cons_self, rfl⟩
    cases reported with
    | false => exact hreported i call' record hin
    | true =>
      have hreturned := hcall.symm.trans (hr.committed_returned i call' record true hin)
      cases hreturned
      exact hresult _ rfl

/-- Two calls for one key: the first was accepted, and the second is its duplicate. -/
theorem submissions_once_per_key_duplicate : ∃ E h s tenant key call record stored, Submitting E h s ∧
    Reported h ∧ s.Succeeds tenant key 0 call ⟨.accepted, record⟩ ∧
    s.Succeeds tenant key 1 call ⟨.duplicate, stored⟩ ∧
    s.OncePerKey E h tenant key := by
  obtain ⟨hash, h, s, call, record, stored, hc, hr, hreported, hhmac, hfirst, hsecond⟩ :=
    Sample.exists_duplicate
  have hL := Sample.clockTexts hash
  obtain ⟨r, -, hnames, -⟩ := hr.got hc hL 0 call _ _ hfirst rfl
  exact ⟨_, h, s, r.tenantID, r.idempotencyKey, call, record, stored, hr, hreported,
    ⟨hfirst, hnames.1, hnames.2.symm⟩, ⟨hsecond, hnames.1, hnames.2.symm⟩,
    submissions_once_per_key hc hL hr hreported hhmac _ _⟩

end MailService
