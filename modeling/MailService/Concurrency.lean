import MailService.Lib.Unique
import MailService.Origins
import MailService.Reporting
/-!
# Concurrent submissions

`Submit` is one READ COMMITTED transaction of several statements: the insert of
the message, the read of the message that holds the key if the insert found it
taken, the journal and the outbox. Any number of calls take their statements in
any order, and the scheduler, the workers and the relays commit between them. A
transaction reads the committed rows and its own; its inserts wait for the open
transactions that hold a key or an id of theirs.
-/
open Runs Checks Table Unique

namespace MailService

open Db

/-! ## Open transactions -/

/-- The rows that a transaction has inserted. -/
structure Uncommitted where
  messages : List MessageRow
  events : List DeliveryEvent
  outbox : List OutboxRow

namespace Uncommitted

def empty : Uncommitted := ⟨[], [], []⟩

/-- What the transaction reads: the committed rows and its own. -/
def overlay (rows : Uncommitted) (db : Db) : Db :=
  { db with
    messages := db.messages ++ rows.messages
    events := db.events ++ rows.events
    outbox := db.outbox ++ rows.outbox }

/-- The rows of `view` that are not committed. -/
def beyond (db view : Db) : Uncommitted where
  messages := view.messages.drop db.messages.length
  events := view.events.drop db.events.length
  outbox := view.outbox.drop db.outbox.length

end Uncommitted

/-- A call of `Submit` that has prepared its submission and has read the database clock. -/
structure SubmitCall where
  command : SubmitEmailCommand
  prepared : PreparedSubmission
  now : Time

/-- How far the transaction of a call is. -/
inductive SubmitWork
  | began
  | inserted (record : MessageRecord) (rows : Uncommitted)
  /-- The insert returned no row. -/
  | conflicted (record : MessageRecord)
  | journaled (record : MessageRecord) (outbox : List OutboxEvent) (rows : Uncommitted)
  | written (record : MessageRecord) (rows : Uncommitted)
  | resolved (result : SubmitEmailResult)
  /-- The call has returned; it does not know more of a failed statement or commit than that it failed. -/
  | returned (result : Except (Option Error) SubmitEmailResult)

def SubmitWork.rows : SubmitWork → Uncommitted
  | .inserted _ rows | .journaled _ _ rows | .written _ rows => rows
  | _ => .empty

/-- The statement that a call takes next where `db` is committed. -/
def SubmitCall.next (L : Libs) (call : SubmitCall) (db : Db) : SubmitWork → Option (Except Error SubmitWork)
  | .began => some do
    let record ← submissionRecord call.prepared call.now
    record.validateForCreate
    databaseCounters record.message.snapshot
    match ← db.insertMessage record with
    | some view => pure (.inserted record (.beyond db view))
    | none => pure (.conflicted record)
  | .conflicted record => some do
    let persisted ← resolveDuplicate record (db.getByIdempotencyKey record.tenantID record.idempotencyKey)
    pure (.resolved ⟨.duplicate, persisted.record⟩)
  | .inserted record rows => some do
    let mapped ← mapAllMessageEvents L record record.message.pendingEvents
    let view ← (rows.overlay db).appendDeliveryEvents mapped.delivery
    pure (.journaled record mapped.outbox (.beyond db view))
  | .journaled record outbox rows => some do
    let view ← (rows.overlay db).appendOutbox call.now outbox
    pure (.written record (.beyond db view))
  | .written .. | .resolved _ | .returned _ => none

/-- A unique index of `mail_messages` refuses to hold both. -/
def MessageRow.Clashes (r r' : MessageRow) : Prop :=
  (r.tenantID = r'.tenantID ∧ r.idempotencyKey = r'.idempotencyKey) ∨ r.snapshot.id = r'.snapshot.id

/-- The service with its calls of `Submit`. -/
structure Intake where
  service : System
  calls : Nat → Option (SubmitCall × SubmitWork)

namespace Intake

def rows (s : Intake) (i : Nat) : Uncommitted :=
  match s.calls i with
  | some (_, work) => work.rows
  | none => .empty

def setCall (s : Intake) (i : Nat) (call : SubmitCall) (work : SubmitWork) : Intake :=
  { s with calls := Function.update s.calls i (some (call, work)) }

/-- No other open transaction holds a row that these clash with. -/
def Unlocked (s : Intake) (i : Nat) (rows : Uncommitted) : Prop :=
  ∀ j, j ≠ i → ∀ r ∈ rows.messages, ∀ x ∈ (s.rows j).messages, ¬ x.Clashes r

end Intake

inductive IntakeAction
  | service (action : Action)
  | begins (i : Nat) (call : SubmitCall)
  | advances (i : Nat) (call : SubmitCall) (work : SubmitWork)
  | refuses (i : Nat) (error : Error)
  /-- The inserts of a call were committed; `reported` says whether the call was told. -/
  | commits (i : Nat) (call : SubmitCall) (record : MessageRecord) (reported : Bool)
  | returns (i : Nat)
  | fails (i : Nat)

def Action.isSubmit : Action → Bool
  | .submit .. => true
  | _ => false

/-- What the caller of a commit is told. -/
def commitAnswer (record : MessageRecord) (reported : Bool) : Except (Option Error) SubmitEmailResult :=
  if reported then .ok ⟨.accepted, record.pulled⟩ else .error none

inductive IntakeStep (E : Env) : Intake → IntakeAction → Intake → Prop
  | service {s : Intake} {action t} : Step E s.service action t → action.isSubmit = false →
      IntakeStep E s (.service action) { s with service := t }
  | begins {s : Intake} {i catalog protector command messageID nonce now p} : s.calls i = none →
      messageID ∈ E.ids →
      prepareSubmission E.L catalog protector command messageID nonce = .ok p →
      IntakeStep E s (.begins i ⟨command, p, now⟩) (s.setCall i ⟨command, p, now⟩ .began)
  | advances {s : Intake} {i call work work'} : s.calls i = some (call, work) →
      call.next E.L s.service.db work = some (.ok work') → s.Unlocked i work'.rows →
      IntakeStep E s (.advances i call work') (s.setCall i call work')
  | refuses {s : Intake} {i call work e} : s.calls i = some (call, work) →
      call.next E.L s.service.db work = some (.error e) →
      IntakeStep E s (.refuses i e) (s.setCall i call (.returned (.error (some e))))
  | commits {s : Intake} {i call record rows} {reported : Bool} :
      s.calls i = some (call, .written record rows) →
      IntakeStep E s (.commits i call record reported)
        ({ s with service := { s.service with db := rows.overlay s.service.db } }.setCall i call
          (.returned (commitAnswer record reported)))
  | returns {s : Intake} {i call result} : s.calls i = some (call, .resolved result) →
      IntakeStep E s (.returns i) (s.setCall i call (.returned (.ok result)))
  /-- A statement fails, the commit of a transaction fails, or its connection is lost; nothing of it
  is kept. -/
  | fails {s : Intake} {i call work} : s.calls i = some (call, work) → (∀ result, work ≠ .returned result) →
      IntakeStep E s (.fails i) (s.setCall i call (.returned (.error none)))

abbrev Submitting (E : Env) (h : List (IntakeAction × Intake)) (s : Intake) : Prop :=
  Run (fun s => Initial s.service ∧ s.calls = fun _ => none) (IntakeStep E) h s

variable {E : Env} {L : Libs} {s s' : Intake} {action : IntakeAction} {db db' : Db}
  {call : SubmitCall} {m : Message}
  {row : MessageRow} {record : MessageRecord} {work work' : SubmitWork} {i : Nat}

/-! ## What a call has found -/

theorem Uncommitted.beyond_overlay (rows : Uncommitted) (db : Db) : .beyond db (rows.overlay db) = rows := by
  simp [beyond, overlay]

theorem MessageRow.Clashes.symm {r r' : MessageRow} (h : r.Clashes r') : r'.Clashes r :=
  h.imp (fun hkey => ⟨hkey.1.symm, hkey.2.symm⟩) Eq.symm

/-- What the indexes compare is never updated. -/
theorem MessageRow.Clashes.of_fixed {r r' x : MessageRow} (h : r'.Clashes x)
    (hfixed : r'.fixed = r.fixed) : r.Clashes x := by
  simp only [fixed, Prod.mk.injEq] at hfixed
  obtain ⟨htenant, hkey, -, -, -, -, -, hid, -⟩ := hfixed
  rw [Clashes, ← htenant, ← hkey, ← hid]
  exact h

/-- What `encoding/json` writes for a time can be stored and is read back. -/
structure Libs.ClockTexts (L : Libs) : Prop extends L.TimeTexts where
  plain : ∀ t text, L.formatTime t = some text → Plain text

theorem Libs.ClockTexts.stores (hL : L.ClockTexts) {t : Time} (ht : t ≠ 0)
    (hformat : (L.formatTime t).isSome = true) :
    L.Stores t := by
  obtain ⟨text, htext⟩ := Option.isSome_iff_exists.1 hformat
  exact ⟨⟨ht, text, htext, hL.parsed t text htext, hL.short t text htext⟩, hL.plain t⟩

/-- The message that a call inserts, and its row. -/
structure SubmitCall.Inserts (call : SubmitCall) (db : Db) (m : Message) (row : MessageRow) : Prop where
  times : validateSubmissionTimes call.now call.prepared.normalized.scheduledAt
    call.prepared.normalized.dispatchDeadline = .ok ()
  new : Message.new (submissionParams call.prepared call.now) = .ok m
  valid : (call.prepared.record m).validate = .ok ()
  stored : createRow (call.prepared.record m) = some row
  allowed : row.Allowed
  tenant : ∃ t ∈ db.tenants, t.id = row.tenantID

/-- The insert of a call finds its key taken. -/
structure SubmitCall.Taken (call : SubmitCall) (db : Db) (record : MessageRecord) : Prop where
  submission : submissionRecord call.prepared call.now = .ok record
  valid : record.validateForCreate = .ok ()
  counters : databaseCounters record.message.snapshot = .ok ()
  taken : db.insertMessage record = .ok none

/-- The rows that a call has inserted are those of its message. -/
def SubmitWork.Ok (L : Libs) (db : Db) (call : SubmitCall) : SubmitWork → Prop
  | .inserted record rows => ∃ m row, call.Inserts db m row ∧ record = call.prepared.record m ∧
      rows = ⟨[row], [], []⟩
  | .conflicted record => call.Taken db record
  | .journaled record outbox rows => ∃ m row, call.Inserts db m row ∧ (L.formatTime call.now).isSome = true ∧
      record = call.prepared.record m ∧
      outbox = m.pendingEvents.map (outboxEventOf L call.prepared.normalized.tenantID) ∧
      rows = ⟨[row], journalRows L row.tenantID call.prepared.normalized.idempotencyKey m.pendingEvents, []⟩
  | .written record rows => ∃ m row, call.Inserts db m row ∧ (L.formatTime call.now).isSome = true ∧
      record = call.prepared.record m ∧
      rows = ⟨[row], journalRows L row.tenantID call.prepared.normalized.idempotencyKey m.pendingEvents,
        outboxRows L call.now call.prepared.normalized.tenantID m.pendingEvents⟩
  | _ => True

theorem SubmitCall.Inserts.later (h : call.Inserts db m row) (hl : db.Later db') : call.Inserts db' m row :=
  { h with tenant := hl.tenants ▸ h.tenant }

/-- A key that is taken stays so. -/
theorem SubmitCall.Taken.later (h : call.Taken db record) (hl : db.Later db') : call.Taken db' record := by
  refine { h with taken := ?_ }
  obtain ⟨row, hrow, hkey⟩ := insertMessage_eq_none h.taken
  have hallowed : row.Allowed := by
    by_contra hrefused
    have htaken := h.taken
    simp only [insertMessage, hrow] at htaken
    rw [if_pos hrefused] at htaken
    cases htaken
  have hkey' : (db'.findKey row.tenantID row.idempotencyKey).isSome = true := by
    obtain ⟨r, hfound⟩ := Option.isSome_iff_exists.1 hkey
    have hmatch := List.find?_some hfound
    simp only [decide_eq_true_eq] at hmatch
    obtain ⟨r', hr', hlater⟩ := hl.messages r (List.mem_of_find?_eq_some hfound)
    have hfixed := hlater.fixed_eq
    simp only [MessageRow.fixed, Prod.mk.injEq] at hfixed
    rw [findKey, List.find?_isSome]
    exact ⟨r', hr', decide_eq_true ⟨hfixed.1.trans hmatch.1, hfixed.2.1.trans hmatch.2⟩⟩
  simp only [insertMessage, hrow]
  rw [if_neg (not_not.2 hallowed), if_pos hkey']

theorem SubmitWork.Ok.later (h : work.Ok L db call) (hl : db.Later db') : work.Ok L db' call := by
  cases work with
  | inserted _ _ =>
    obtain ⟨m, row, hinserts, hrest⟩ := h
    exact ⟨m, row, hinserts.later hl, hrest⟩
  | conflicted _ => exact SubmitCall.Taken.later h hl
  | journaled _ _ _ =>
    obtain ⟨m, row, hinserts, hrest⟩ := h
    exact ⟨m, row, hinserts.later hl, hrest⟩
  | written _ _ =>
    obtain ⟨m, row, hinserts, hrest⟩ := h
    exact ⟨m, row, hinserts.later hl, hrest⟩
  | began => trivial
  | resolved _ => trivial
  | returned _ => trivial

/-! ## The statements -/

/-- The first statement inserts a row that clashes with no committed one, or finds the key taken. -/
theorem SubmitCall.next_began (h : call.next L db .began = some (.ok work')) :
    (∃ m row, call.Inserts db m row ∧ work' = .inserted (call.prepared.record m) ⟨[row], [], []⟩ ∧
      ∀ x ∈ db.messages, ¬ x.Clashes row) ∨ ∃ record, call.Taken db record ∧ work' = .conflicted record := by
  simp only [next, Option.some.injEq, bind_eq_ok] at h
  obtain ⟨record, hrecord, _, hvalid, _, hcounters, inserted, hinsert, h⟩ := h
  cases inserted with
  | none => exact .inr ⟨record, ⟨hrecord, hvalid, hcounters, hinsert⟩, (pure_eq_ok.1 h).symm⟩
  | some view =>
    obtain ⟨htimes, m, hnew, rfl⟩ := submissionRecord_eq_ok.1 hrecord
    obtain ⟨row, hrow, hallowed, hkey, hid, htenant, rfl⟩ := insertMessage_eq_some hinsert
    simp only [MessageRecord.validateForCreate, unit_bind_eq_ok] at hvalid
    refine .inl ⟨m, row, ⟨htimes, hnew, hvalid.1, hrow, hallowed, htenant⟩, ?_, fun x hx hclash => ?_⟩
    · rw [← pure_eq_ok.1 h]
      simp [Uncommitted.beyond]
    · rcases hclash with hsame | hsame
      · have hfree := List.find?_eq_none.1 hkey x hx
        simp only [decide_eq_true_eq] at hfree
        exact hfree hsame
      · exact hid (List.mem_map.2 ⟨x, hx, hsame⟩)

/-- The read of the message that holds the key is `Submit` as a whole, at that moment. -/
theorem SubmitCall.Taken.resolved (h : call.Taken db record)
    (hnext : call.next L db (.conflicted record) = some (.ok work')) :
    ∃ stored, work' = .resolved ⟨.duplicate, stored⟩ ∧
      submitTransaction L call.prepared call.now db = .ok (db, ⟨.duplicate, stored⟩) := by
  simp only [next, Option.some.injEq, bind_eq_ok] at hnext
  obtain ⟨persisted, hresolve, hnext⟩ := hnext
  refine ⟨_, (pure_eq_ok.1 hnext).symm, ?_⟩
  have hdisposition : persisted.disposition = .duplicate := by
    simp only [resolveDuplicate, bind_eq_ok, pure_eq_ok] at hresolve
    obtain ⟨_, -, _, -, rfl⟩ := hresolve
    rfl
  have hcreate : db.create record = .ok (db, persisted) := by
    rw [create, h.valid, ok_bind, h.counters, ok_bind, h.taken, ok_bind]
    exact bind_eq_ok.2 ⟨persisted, hresolve, rfl⟩
  rw [submitTransaction, h.submission, ok_bind, hcreate, ok_bind]
  simp only [hdisposition]
  rfl

section Insert

variable (h : call.Inserts db m row) (hk : db.Keyed) (hdrawn : ∃ u ∈ E.ids, call.prepared.messageID = u.text)
  (hfree : ∀ x ∈ db.messages, ¬ x.Clashes row)

include h

theorem SubmitCall.Inserts.moved : Moved (submissionParams call.prepared call.now).now
    (acceptedMessage (submissionParams call.prepared call.now)) m :=
  (Message.new_moved h.new).1

include hdrawn

theorem SubmitCall.Inserts.messageID :
    row.snapshot.id = call.prepared.messageID ∧
    uuidColumn call.prepared.messageID = some call.prepared.messageID := by
  obtain ⟨u, -, hu⟩ := hdrawn
  have hcolumn : uuidColumn call.prepared.messageID = some call.prepared.messageID := by
    rw [hu]
    exact uuidColumn_text u
  obtain ⟨hid, -⟩ := createRow_eq_some h.stored
  have hmid : m.id = call.prepared.messageID := h.moved.id
  change uuidColumn m.id = _ at hid
  rw [hmid, hcolumn] at hid
  exact ⟨(Option.some.inj hid).symm, hcolumn⟩

include hfree

theorem SubmitCall.Inserts.fresh : call.prepared.messageID ∉ db.messageIDs := by
  intro hmem
  obtain ⟨x, hx, hid⟩ := List.mem_map.1 hmem
  exact hfree x hx (.inr (hid.trans (h.messageID hdrawn).1.symm))

include hk

/-- The journal gets the rows of the message's events. -/
theorem SubmitCall.Inserts.journal_view {view : Db}
    (hview : (Uncommitted.overlay ⟨[row], [], []⟩ db).appendDeliveryEvents
      ((lifecycleEvents m.pendingEvents).map (deliveryEventOf E.L call.prepared.normalized.tenantID
        call.prepared.normalized.idempotencyKey)) = .ok view) :
    view = Uncommitted.overlay
      ⟨[row], journalRows E.L row.tenantID call.prepared.normalized.idempotencyKey m.pendingEvents, []⟩
        db := by
  have hfresh : (submissionParams call.prepared call.now).id ∉ db.messageIDs := h.fresh hdrawn hfree
  have hcolumn : uuidColumn call.prepared.normalized.tenantID = some row.tenantID :=
    (createRow_eq_some h.stored).2.1
  obtain ⟨hdb, -⟩ := appendDeliveryEvents_eq_ok (created_eventRow hcolumn (h.messageID hdrawn).2 h.moved)
    (by rw [created_journal]; simpa [Uncommitted.overlay] using fresh_createdJournal hk hfresh h.moved) hview
  rw [hdb, created_journal]
  simp only [Uncommitted.overlay, List.append_nil]

theorem SubmitCall.Inserts.journals
    (hnext : call.next E.L db (.inserted (call.prepared.record m) ⟨[row], [], []⟩) = some (.ok work')) :
    (E.L.formatTime call.now).isSome = true ∧
      work' = .journaled (call.prepared.record m)
        (m.pendingEvents.map (outboxEventOf E.L call.prepared.normalized.tenantID))
        ⟨[row], journalRows E.L row.tenantID call.prepared.normalized.idempotencyKey m.pendingEvents,
          []⟩ := by
  simp only [next, Option.some.injEq, bind_eq_ok] at hnext
  obtain ⟨mapped, hmap, view, hview, hnext⟩ := hnext
  change mapAllMessageEvents E.L (call.prepared.record m) m.pendingEvents = .ok mapped at hmap
  constructor
  · obtain ⟨accepted, moved, hevents, -⟩ := h.moved.created_pending
    have he : accepted ∈ m.pendingEvents := by
      rw [hevents]
      exact List.mem_cons_self
    have hmapped : mapEvents E.L (call.prepared.record m) m.pendingEvents = .ok mapped := by
      rw [mapAllMessageEvents, if_neg (List.ne_nil_of_mem he)] at hmap
      exact hmap
    have hencoded := ((mapEvents_eq_ok.1 hmapped).1 accepted he).encoded
    rw [messageEventEnvelope, Option.isSome_map, Message.new_occurredAt h.new accepted he] at hencoded
    exact hencoded
  · obtain rfl := mapAllMessageEvents_eq_ok hmap
    rw [← pure_eq_ok.1 hnext, h.journal_view hk hdrawn hfree hview, Uncommitted.beyond_overlay]
    rfl

/-- The outbox gets the message's events. -/
theorem SubmitCall.Inserts.writes {events : List DeliveryEvent}
    (hnext : call.next E.L db (.journaled (call.prepared.record m)
      (m.pendingEvents.map (outboxEventOf E.L call.prepared.normalized.tenantID)) ⟨[row], events, []⟩) =
        some (.ok work')) :
    work' = .written (call.prepared.record m)
      ⟨[row], events, outboxRows E.L call.now call.prepared.normalized.tenantID m.pendingEvents⟩ := by
  simp only [next, Option.some.injEq, bind_eq_ok] at hnext
  obtain ⟨view, hview, hnext⟩ := hnext
  have hfresh : (submissionParams call.prepared call.now).id ∉ db.messageIDs := h.fresh hdrawn hfree
  obtain ⟨hdb, -⟩ := appendOutbox_eq_ok (created_canonicalIDs (h.messageID hdrawn).2 h.moved)
    (by rw [created_outbox, Uncommitted.overlay, List.append_nil]; exact fresh_createdOutbox hk hfresh h.moved)
    hview
  have hrows : view = Uncommitted.overlay
      ⟨[row], events, outboxRows E.L call.now call.prepared.normalized.tenantID m.pendingEvents⟩ db := by
    rw [hdb, created_outbox]
    simp only [Uncommitted.overlay, List.append_nil]
  rw [← pure_eq_ok.1 hnext, hrows, Uncommitted.beyond_overlay]

omit hk

theorem SubmitCall.Inserts.acceptable (hs : Sound E.L E.ids db) (hc : E.L.CollisionFree E.ids)
    (hclock : E.L.Stores call.now) : Acceptable E.L E.ids call.now db call.prepared m row := by
  have hkey : db.findKey row.tenantID row.idempotencyKey = none := by
    rw [findKey, List.find?_eq_none]
    intro x hx hsame
    exact hfree x hx (.inl (of_decide_eq_true hsame))
  exact {
    sound := hs, collisionFree := hc, drawn := hdrawn, times := h.times, new := h.new,
      valid := h.valid, stored := h.stored
    allowed := h.allowed, tenant := h.tenant, key := hkey, fresh := h.fresh hdrawn hfree, clock := hclock }

/-- What is committed is what `Submit` as a whole does at that moment. -/
theorem SubmitCall.Inserts.submits (hs : Sound E.L E.ids db) (hc : E.L.CollisionFree E.ids)
    (hL : E.L.ClockTexts) (hformat : (E.L.formatTime call.now).isSome = true) :
    submitTransaction E.L call.prepared call.now db = .ok (Uncommitted.overlay
      ⟨[row], journalRows E.L row.tenantID call.prepared.normalized.idempotencyKey m.pendingEvents,
        outboxRows E.L call.now call.prepared.normalized.tenantID m.pendingEvents⟩ db,
      ⟨.accepted, (call.prepared.record m).pulled⟩) := by
  obtain ⟨-, -, -, hnow, -⟩ := Message.new_moved h.new
  exact submitTransaction_accepts (h.acceptable hdrawn hfree hs hc (hL.stores hnow hformat))

end Insert

/-! ## Steps -/

/-- The call was prepared, with an id that was drawn. -/
def SubmitCall.Prepared (E : Env) (call : SubmitCall) : Prop :=
  ∃ catalog protector messageID nonce, messageID ∈ E.ids ∧
    prepareSubmission E.L catalog protector call.command messageID nonce = .ok call.prepared

theorem SubmitCall.Prepared.drawn (h : call.Prepared E) : ∃ u ∈ E.ids, call.prepared.messageID = u.text := by
  obtain ⟨_, _, messageID, _, hid, hp⟩ := h
  exact ⟨messageID, hid, prepareSubmission_messageID hp⟩

theorem SubmitCall.Prepared.step {service : System} {result : SubmitEmailResult} (h : call.Prepared E)
    (hsubmit : submitTransaction E.L call.prepared call.now service.db = .ok (db', result)) :
    Step E service (.submit call.command call.now result) { service with db := db' } := by
  obtain ⟨catalog, protector, messageID, nonce, hid, hp⟩ := h
  refine .submit hid (?_ : submit E.L catalog protector call.command messageID nonce call.now service.db = _)
  rw [submit, hp, ok_bind, hsubmit]

structure Intake.Ok (E : Env) (s : Intake) : Prop where
  service : s.service.Ok E
  prepared : ∀ i call work, s.calls i = some (call, work) → call.Prepared E
  works : ∀ i call work, s.calls i = some (call, work) → work.Ok E.L s.service.db call
  separate : Separate MessageRow.Clashes s.service.db.messages fun i => (s.rows i).messages

/-- What one statement of a call does. -/
inductive Statement (L : Libs) (db : Db) (call : SubmitCall) : SubmitWork → SubmitWork → Prop
  | inserts {m : Message} {row : MessageRow} (inserts : call.Inserts db m row)
      (free : ∀ x ∈ db.messages, ¬ x.Clashes row) :
      Statement L db call .began (.inserted (call.prepared.record m) ⟨[row], [], []⟩)
  | conflicts {record : MessageRecord} (taken : call.Taken db record) :
      Statement L db call .began (.conflicted record)
  | resolves {record stored : MessageRecord}
      (submits : submitTransaction L call.prepared call.now db = .ok (db, ⟨.duplicate, stored⟩)) :
      Statement L db call (.conflicted record) (.resolved ⟨.duplicate, stored⟩)
  | journals {m : Message} {row : MessageRow} (inserts : call.Inserts db m row)
      (format : (L.formatTime call.now).isSome = true) :
      Statement L db call (.inserted (call.prepared.record m) ⟨[row], [], []⟩)
        (.journaled (call.prepared.record m)
          (m.pendingEvents.map (outboxEventOf L call.prepared.normalized.tenantID))
          ⟨[row], journalRows L row.tenantID call.prepared.normalized.idempotencyKey m.pendingEvents, []⟩)
  | writes {m : Message} {row : MessageRow} (inserts : call.Inserts db m row)
      (format : (L.formatTime call.now).isSome = true) :
      Statement L db call
        (.journaled (call.prepared.record m)
          (m.pendingEvents.map (outboxEventOf L call.prepared.normalized.tenantID))
          ⟨[row], journalRows L row.tenantID call.prepared.normalized.idempotencyKey m.pendingEvents, []⟩)
        (.written (call.prepared.record m)
          ⟨[row], journalRows L row.tenantID call.prepared.normalized.idempotencyKey m.pendingEvents,
            outboxRows L call.now call.prepared.normalized.tenantID m.pendingEvents⟩)

theorem Intake.rows_of_call (hcall : s.calls i = some (call, work)) : s.rows i = work.rows := by
  rw [rows, hcall]

/-- The row that a call has inserted clashes with no committed one. -/
theorem Intake.Ok.free (hs : s.Ok E) (hcall : s.calls i = some (call, work))
    (hrow : row ∈ work.rows.messages) :
    ∀ x ∈ s.service.db.messages, ¬ x.Clashes row := by
  refine hs.separate.stored i row ?_
  simp only [Intake.rows_of_call hcall]
  exact hrow

theorem Intake.Ok.statement (hs : s.Ok E) (hcall : s.calls i = some (call, work))
    (hnext : call.next E.L s.service.db work = some (.ok work')) :
    Statement E.L s.service.db call work work' := by
  have hk := hs.service.sound.keyed
  have hdrawn := (hs.prepared i call work hcall).drawn
  have hwork := hs.works i call work hcall
  cases work with
  | began =>
    rcases SubmitCall.next_began hnext with ⟨m, row, hinserts, rfl, hfree⟩ | ⟨record, htaken, rfl⟩
    · exact .inserts hinserts hfree
    · exact .conflicts htaken
  | conflicted record =>
    obtain ⟨stored, rfl, hsubmits⟩ := SubmitCall.Taken.resolved hwork hnext
    exact .resolves hsubmits
  | inserted record rows =>
    obtain ⟨m, row, hinserts, rfl, rfl⟩ := hwork
    obtain ⟨hformat, rfl⟩ := hinserts.journals hk hdrawn (hs.free hcall List.mem_cons_self) hnext
    exact .journals hinserts hformat
  | journaled record outbox rows =>
    obtain ⟨m, row, hinserts, hformat, rfl, rfl, rfl⟩ := hwork
    obtain rfl := hinserts.writes hk hdrawn (hs.free hcall List.mem_cons_self) hnext
    exact .writes hinserts hformat
  | written _ _ => cases hnext
  | resolved _ => cases hnext
  | returned _ => cases hnext

theorem Statement.ok (h : Statement L db call work work') : work'.Ok L db call := by
  cases h with
  | inserts hinserts => exact ⟨_, _, hinserts, rfl, rfl⟩
  | conflicts htaken => exact htaken
  | resolves => trivial
  | journals hinserts hformat => exact ⟨_, _, hinserts, hformat, rfl, rfl, rfl⟩
  | writes hinserts hformat => exact ⟨_, _, hinserts, hformat, rfl, rfl⟩

/-- A statement adds no message, or one that clashes with no committed message. -/
theorem Statement.messages (h : Statement L db call work work') : work'.rows.messages = work.rows.messages ∨
    ∀ r ∈ work'.rows.messages, ∀ x ∈ db.messages, ¬ x.Clashes r := by
  cases h with
  | inserts _ hfree =>
    refine .inr fun r hr => ?_
    rw [List.mem_singleton.1 hr]
    exact hfree
  | _ => exact .inl rfl

/-- A call that has written its rows commits what `Submit` as a whole does at that moment. -/
theorem Intake.Ok.commits {rows : Uncommitted} (hs : s.Ok E) (hc : E.L.CollisionFree E.ids)
    (hL : E.L.ClockTexts) (hcall : s.calls i = some (call, .written record rows)) :
    Step E s.service (.submit call.command call.now ⟨.accepted, record.pulled⟩)
      { s.service with db := rows.overlay s.service.db } := by
  have hprepared := hs.prepared i call _ hcall
  obtain ⟨m, row, hinserts, hformat, rfl, rfl⟩ := hs.works i call _ hcall
  exact hprepared.step
    (hinserts.submits hprepared.drawn (hs.free hcall List.mem_cons_self) hs.service.sound hc hL hformat)

/-- The atomic step that an interleaved one stands for: a call takes effect where it commits its
rows or reads the message that holds its key. -/
def IntakeAction.serial : IntakeAction → Option Action
  | .service action => some action
  | .advances _ call (.resolved result) => some (.submit call.command call.now result)
  | .commits _ call record _ => some (.submit call.command call.now ⟨.accepted, record.pulled⟩)
  | _ => none

theorem IntakeStep.serial (h : IntakeStep E s action s') (hs : s.Ok E) (hc : E.L.CollisionFree E.ids)
    (hL : E.L.ClockTexts) : (action.serial = none ∧ s'.service = s.service) ∨
      ∃ a, action.serial = some a ∧ Step E s.service a s'.service := by
  cases h with
  | service hstep => exact .inr ⟨_, rfl, hstep⟩
  | begins => exact .inl ⟨rfl, rfl⟩
  | @advances i call work work' hcall hnext =>
    cases hs.statement hcall hnext with
    | resolves hsubmits => exact .inr ⟨_, rfl, (hs.prepared i call _ hcall).step hsubmits⟩
    | _ => exact .inl ⟨rfl, rfl⟩
  | refuses => exact .inl ⟨rfl, rfl⟩
  | commits hcall => exact .inr ⟨_, rfl, hs.commits hc hL hcall⟩
  | returns => exact .inl ⟨rfl, rfl⟩
  | fails => exact .inl ⟨rfl, rfl⟩

/-! ## Runs -/

@[simp]
theorem Intake.setCall_self (s : Intake) (i : Nat) (call : SubmitCall) (work : SubmitWork) :
    (s.setCall i call work).calls i = some (call, work) := Function.update_self ..

theorem Intake.setCall_of_ne {j : Nat} (s : Intake) (call : SubmitCall) (work : SubmitWork) (hj : j ≠ i) :
    (s.setCall i call work).calls j = s.calls j := Function.update_of_ne hj ..

theorem Intake.rows_setCall (s : Intake) (i : Nat) (call : SubmitCall) (work : SubmitWork) :
    (fun j => ((s.setCall i call work).rows j).messages) =
      Function.update (fun j => (s.rows j).messages) i work.rows.messages := by
  funext j
  by_cases hj : j = i
  · subst hj
    simp [rows, setCall]
  · simp [rows, setCall, Function.update_of_ne hj]

theorem Intake.setCall_eq_some {j : Nat} {call' : SubmitCall}
    (h : (s.setCall i call work).calls j = some (call', work')) :
    j = i ∧ call' = call ∧ work' = work ∨ j ≠ i ∧ s.calls j = some (call', work') := by
  by_cases hj : j = i
  · subst hj
    rw [setCall_self] at h
    cases h
    exact .inl ⟨rfl, rfl, rfl⟩
  · rw [setCall_of_ne s call work hj] at h
    exact .inr ⟨hj, h⟩

/-- All stays in order where one call goes on. -/
theorem Intake.Ok.setCall (hs : s.Ok E) (hservice : s'.service.Ok E) (hl : s.service.db.Later s'.service.db)
    (hcalls : s'.calls = s.calls) (hprepared : call.Prepared E) (hwork : work.Ok E.L s'.service.db call)
    (hseparate : Separate MessageRow.Clashes s'.service.db.messages
      (Function.update (fun j => (s.rows j).messages) i work.rows.messages)) : (s'.setCall i
        call work).Ok E where
  service := hservice
  prepared j call' work' hcall := by
    rcases Intake.setCall_eq_some hcall with ⟨-, rfl, -⟩ | ⟨-, hcall⟩
    · exact hprepared
    · exact hs.prepared j call' work' (hcalls ▸ hcall)
  works j call' work' hcall := by
    rcases Intake.setCall_eq_some hcall with ⟨-, rfl, rfl⟩ | ⟨-, hcall⟩
    · exact hwork
    · exact (hs.works j call' work' (hcalls ▸ hcall)).later hl
  separate := by
    have hrows : (fun j => (s'.rows j).messages) = fun j => (s.rows j).messages := by
      funext j
      rw [Intake.rows, Intake.rows, hcalls]
    rw [Intake.rows_setCall, hrows]
    exact hseparate

/-- Changes that draw no id keep what was submitted. -/
theorem fixed_eq_of_changes (h : Relation.ReflTransGen (Change L ∅) db db') :
    db'.messages.map MessageRow.fixed = db.messages.map MessageRow.fixed := by
  induction h with
  | refl => rfl
  | tail _ hchange ih =>
    rw [← ih]
    cases hchange with
    | created hcreated =>
      obtain ⟨u, hu, -⟩ := hcreated.drawn
      exact hu.elim
    | advanced hadvance =>
      rw [hadvance.messages, map_exchange]
      exact hadvance.rowLater.fixed_eq

theorem Step.submissions_kept {t t' : System} {a : Action} (h : Step E t a t') (ht : t.Ok E)
    (hother : a.isSubmit = false) :
    t'.db.messages.map MessageRow.fixed = t.db.messages.map MessageRow.fixed := by
  cases h.messages ht with
  | accepted _ _ _ hreported =>
    rw [hreported] at hother
    cases hother
  | moved hchanges => exact fixed_eq_of_changes hchanges
  | kept hmessages => rw [hmessages]

theorem IntakeStep.ok (h : IntakeStep E s action s') (hs : s.Ok E) (hc : E.L.CollisionFree E.ids)
    (hL : E.L.ClockTexts) :
    s'.Ok E := by
  have hsymm : ∀ x r : MessageRow, x.Clashes r → r.Clashes x := fun _ _ => MessageRow.Clashes.symm
  cases h with
  | service hstep hother =>
    refine ⟨hstep.ok hs.service, hs.prepared, fun i call work hcall => ?_, ?_⟩
    · exact (hs.works i call work hcall).later (hstep.evolves hs.service).later
    · refine hs.separate.change fun x' hx' => ?_
      have hfixed : x'.fixed ∈ s.service.db.messages.map MessageRow.fixed :=
        hstep.submissions_kept hs.service hother ▸ List.mem_map_of_mem hx'
      obtain ⟨x, hx, heq⟩ := List.mem_map.1 hfixed
      exact ⟨x, hx, fun r hclash => hclash.of_fixed heq.symm⟩
  | @begins i catalog protector command messageID nonce now p _ hid hp =>
    exact hs.setCall hs.service (.refl _) rfl ⟨catalog, protector, messageID, nonce, hid, hp⟩ trivial
      (hs.separate.close hsymm i)
  | @advances i call work work' hcall hnext hunlocked =>
    have hstatement := hs.statement hcall hnext
    refine hs.setCall hs.service (.refl _) rfl (hs.prepared i call work hcall) hstatement.ok
      (hs.separate.insert hsymm ?_ hunlocked)
    rcases hstatement.messages with hkept | hfree
    · rw [hkept]
      exact fun r hr => hs.free hcall hr
    · exact hfree
  | @refuses i call work _ hcall =>
    exact hs.setCall hs.service (.refl _) rfl (hs.prepared i call work hcall) trivial
      (hs.separate.close hsymm i)
  | @commits i call record rows reported hcall =>
    have hstep := hs.commits hc hL hcall
    have hseparate := hs.separate.commit hsymm i
    simp only [Intake.rows_of_call hcall] at hseparate
    exact hs.setCall (hstep.ok hs.service) (hstep.evolves hs.service).later rfl
      (hs.prepared i call _ hcall) trivial hseparate
  | @returns i call _ hcall =>
    exact hs.setCall hs.service (.refl _) rfl (hs.prepared i call _ hcall) trivial (hs.separate.close hsymm i)
  | @fails i call work hcall =>
    exact hs.setCall hs.service (.refl _) rfl (hs.prepared i call work hcall) trivial
      (hs.separate.close hsymm i)

theorem Submitting.ok {h : List (IntakeAction × Intake)} (hr : Submitting E h s)
    (hc : E.L.CollisionFree E.ids) (hL : E.L.ClockTexts) : s.Ok E := by
  refine hr.invariant (fun s hinit => ?_) fun s a s' hs hstep => hstep.ok hs hc hL
  obtain ⟨hservice, hcalls⟩ := hinit
  refine ⟨hservice.ok, fun i call work hcall => ?_, fun i call work hcall => ?_,
    ⟨fun i r hr => ?_, fun i j _ r hr => ?_⟩⟩
  · rw [hcalls] at hcall
    cases hcall
  · rw [hcalls] at hcall
    cases hcall
  · simp only [Intake.rows, hcalls] at hr
    cases hr
  · simp only [Intake.rows, hcalls] at hr
    cases hr

/-- Where call `i` took effect: at its read of the stored message, or at its commit. -/
def TookEffect (h : List (IntakeAction × Intake)) (i : Nat) (call : SubmitCall)
    (result : SubmitEmailResult) : Prop :=
  result.disposition = .duplicate ∧ .advances i call (.resolved result) ∈ h.map Prod.fst ∨
    ∃ record, result = ⟨.accepted, record.pulled⟩ ∧ .commits i call record true ∈ h.map Prod.fst

theorem TookEffect.cons {h : List (IntakeAction × Intake)} {result : SubmitEmailResult}
    (heffect : TookEffect h i call result) (entry : IntakeAction × Intake) :
    TookEffect (entry :: h) i call result :=
  heffect.imp (And.imp_right (List.mem_cons_of_mem _)) fun hcommit =>
    hcommit.imp fun _ => And.imp_right (List.mem_cons_of_mem _)

/-- The result that a call has. -/
def SubmitWork.result : SubmitWork → Option SubmitEmailResult
  | .resolved result | .returned (.ok result) => some result
  | _ => none

/-- Every result stems from where its call took effect. -/
def Intake.Answered (s : Intake) (h : List (IntakeAction × Intake)) : Prop :=
  ∀ i call work result, s.calls i = some (call, work) → work.result = some result → TookEffect h i call result

theorem Intake.Answered.setCall {h : List (IntakeAction × Intake)} (hs : s.Answered h)
    (hcalls : s'.calls = s.calls) (entry : IntakeAction × Intake)
    (hnew : ∀ result, work.result = some result → TookEffect (entry :: h) i call result) :
    (s'.setCall i call work).Answered (entry :: h) := by
  intro j call' work' result hcall hresult
  rcases Intake.setCall_eq_some hcall with ⟨rfl, rfl, rfl⟩ | ⟨-, hcall⟩
  · exact hnew result hresult
  · exact (hs j call' work' result (hcalls ▸ hcall) hresult).cons entry

theorem Submitting.answered {h : List (IntakeAction × Intake)} (hr : Submitting E h s)
    (hc : E.L.CollisionFree E.ids) (hL : E.L.ClockTexts) : s.Answered h := by
  refine hr.induct (P := fun h s => s.Answered h) (fun s hinit i call work result hcall => ?_)
    fun h s a s' hr ih hstep => ?_
  · rw [hinit.2] at hcall
    cases hcall
  cases hstep with
  | service => exact fun i call work result hcall hresult => (ih i call work result hcall hresult).cons _
  | begins => exact ih.setCall rfl _ fun _ hresult => by cases hresult
  | advances hcall hnext =>
    refine ih.setCall rfl _ fun result hresult => ?_
    cases (Submitting.ok hr hc hL).statement hcall hnext with
    | resolves =>
      cases hresult
      exact .inl ⟨rfl, List.mem_cons_self⟩
    | _ => cases hresult
  | refuses => exact ih.setCall rfl _ fun _ hresult => by cases hresult
  | @commits i call record rows reported =>
    refine ih.setCall rfl _ fun result hresult => ?_
    cases reported with
    | false => cases hresult
    | true =>
      cases hresult
      exact .inr ⟨record, rfl, List.mem_cons_self⟩
  | returns hcall =>
    refine ih.setCall rfl _ fun result hresult => ?_
    cases hresult
    exact (ih _ _ _ _ hcall rfl).cons _
  | fails => exact ih.setCall rfl _ fun _ hresult => by cases hresult

theorem TookEffect.serial {h : List (IntakeAction × Intake)} {result : SubmitEmailResult}
    (heffect : TookEffect h i call result) :
    .submit call.command call.now result ∈ h.filterMap fun entry => entry.1.serial := by
  rcases heffect with ⟨-, hmem⟩ | ⟨record, rfl, hmem⟩
  · obtain ⟨entry, hentry, hfst⟩ := List.mem_map.1 hmem
    exact List.mem_filterMap.2 ⟨entry, hentry, by rw [hfst]; rfl⟩
  · obtain ⟨entry, hentry, hfst⟩ := List.mem_map.1 hmem
    exact List.mem_filterMap.2 ⟨entry, hentry, by rw [hfst]; rfl⟩

theorem Submitting.serial {h : List (IntakeAction × Intake)} (hr : Submitting E h s)
    (hc : E.L.CollisionFree E.ids) (hL : E.L.ClockTexts) :
    ∃ h', Reached E h' s.service ∧ h'.map Prod.fst = h.filterMap fun entry => entry.1.serial := by
  have hserial : ∃ h' t, Reached E h' t ∧ (s.service = t ∧ s.Ok E) ∧
      h'.map Prod.fst = h.filterMap fun entry => entry.1.serial := by
    refine hr.refine (R := fun s t => s.service = t ∧ s.Ok E)
      (fun s hinit => ⟨s.service, hinit.1, rfl, Submitting.ok (.start hinit) hc hL⟩)
        fun s a s' t hs hstep => ?_
    obtain ⟨rfl, hs⟩ := hs
    have hs' := hstep.ok hs hc hL
    rcases hstep.serial hs hc hL with ⟨hnone, hservice⟩ | ⟨b, hsome, hstep'⟩
    · exact .inl ⟨hnone, hservice, hs'⟩
    · exact .inr ⟨b, s'.service, hsome, hstep', rfl, hs'⟩
  obtain ⟨h', t, hr', ⟨rfl, -⟩, hactions⟩ := hserial
  exact ⟨h', hr', hactions⟩

end MailService
