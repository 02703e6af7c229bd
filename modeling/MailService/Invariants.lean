import MailService.Changes
import Mathlib.Data.List.Chain
/-!
# The invariants of the database

What every committed state keeps of a message and of the rows that go with it:
its journal and its outbox events are in step with its status (`InStep`), and
its attempts are numbered with its generations and were all spent on retryable
failures before it was queued again (`Ledger`). Both are lists that a change
extends at the end, so each has one lemma for a move of its message and is
untouched by a move of another one.
-/
open Text Checks Table

namespace MailService

open Db

/-! ## The rows of one message -/

namespace Db

def journal (db : Db) (messageID : String) : List DeliveryEvent := db.events.filter (·.messageID = messageID)

def outboxEvents (db : Db) (messageID : String) : List OutboxEvent :=
  (db.outbox.map (·.event)).filter (·.aggregateID = messageID)

def attemptsOf (db : Db) (messageID : String) : List AttemptRow :=
  db.attempts.filter (·.messageID = messageID)

end Db

def OutboxEvent.isDispatch (o : OutboxEvent) : Bool := o.eventType = EventKind.dispatchRequested.text

/-- The type of the lifecycle event that announces a status. -/
def lifecycleType : Status → String
  | .accepted => EventKind.messageAccepted.text
  | _ => EventKind.statusChanged.text

/-- The sequences of the QUEUED rows of a journal. -/
def queuedSequences (journal : List DeliveryEvent) : List Nat :=
  (journal.filter (·.status = .queued)).map (·.sequence)

/-! ## Journal and outbox -/

/-- The journal leads to the status, and the outbox has one lifecycle event for each
journal row and one dispatch request for each QUEUED row, numbered by generation. -/
structure InStep (journal : List DeliveryEvent) (outbox : List OutboxEvent) (s : Snapshot) : Prop where
  sequences : journal.map (·.sequence) = List.range' 1 s.latestSequence
  edges : (journal.map (·.status)).IsChain fun a b => canTransition a b = true
  status : (journal.map (·.status)).getLast? = some s.status
  lifecycle : (outbox.filter (!·.isDispatch)).map (fun o => (o.id, o.eventType, o.aggregateSequence)) =
    journal.map fun j => (j.id, lifecycleType j.status, j.sequence)
  dispatch : (outbox.filter (·.isDispatch)).map (fun o => (o.aggregateSequence, o.dispatchGeneration)) =
    (queuedSequences journal).zipIdx 1
  generations : (queuedSequences journal).length = s.dispatchGeneration

/-- Nothing leads back to ACCEPTED. -/
theorem lifecycleType_of_edge {a b : Status} (h : canTransition a b = true) :
    lifecycleType b = EventKind.statusChanged.text := by
  cases b <;> first | rfl | (cases a <;> simp [canTransition, oneOf] at h)

section InStep

variable {now : Time} {journal : List DeliveryEvent} {outbox : List OutboxEvent} {s s' : Snapshot}

theorem InStep.congr (h : InStep journal outbox s) (hs : s'.status = s.status)
    (hq : s'.latestSequence = s.latestSequence) (hg : s'.dispatchGeneration = s.dispatchGeneration) :
    InStep journal outbox s' :=
  ⟨hq ▸ h.sequences, h.edges, hs ▸ h.status, h.lifecycle, h.dispatch, hg ▸ h.generations⟩

/-- One more journal row with its lifecycle event and, when it is QUEUED, its dispatch request. -/
theorem InStep.push {j : DeliveryEvent} {o : OutboxEvent} {requests : List OutboxEvent}
    (h : InStep journal outbox s) (hedge : canTransition s.status j.status = true)
    (hseq : j.sequence = s.latestSequence + 1) (hid : o.id = j.id)
    (htype : o.eventType = EventKind.statusChanged.text) (hoseq : o.aggregateSequence = j.sequence)
    (hrequests : requests.filter (!·.isDispatch) = [] ∧
      (requests.filter (·.isDispatch)).map (fun o => (o.aggregateSequence, o.dispatchGeneration)) =
        if j.status = .queued then [(j.sequence, s.dispatchGeneration + 1)] else [])
    (hs : s'.status = j.status) (hs' : s'.latestSequence = s.latestSequence + 1)
    (hg : s'.dispatchGeneration = s.dispatchGeneration + if j.status = .queued then 1 else 0) :
    InStep (journal ++ [j]) (outbox ++ o :: requests) s' := by
  have hlife : o.isDispatch = false := by simp [OutboxEvent.isDispatch, htype, EventKind.text]
  have hq : queuedSequences (journal ++ [j]) =
      queuedSequences journal ++ if j.status = .queued then [j.sequence] else [] := by
    by_cases hst : j.status = .queued <;> simp [queuedSequences, hst]
  constructor
  · rw [List.map_append, h.sequences, hs', List.range'_1_concat, List.map_singleton, hseq, Nat.add_comm 1]
  · rw [List.map_append, List.isChain_append]
    refine ⟨h.edges, by simp, ?_⟩
    rw [h.status]
    simpa using hedge
  · simp [hs]
  · simp only [List.filter_append, List.map_append, h.lifecycle, List.filter_cons, hlife,
      Bool.not_false, if_true, hrequests.1, List.map_cons, List.map_nil, hid, htype, hoseq,
      lifecycleType_of_edge hedge]
  · simp only [List.filter_append, List.map_append, h.dispatch, List.filter_cons, hlife,
      Bool.false_eq_true, if_false, hrequests.2, hq, List.zipIdx_append, h.generations]
    split <;> simp [Nat.add_comm 1]
  · rw [hq, List.length_append, h.generations, hg]
    split <;> rfl

/-- The rows that go with one move of the message. -/
theorem InStep.moved {m m' : Message} (L : Libs) (tenantID tenant key : String) (details : EventDetails)
    (h : InStep journal outbox m.toSnapshot) (hm : Moved now m m') : InStep
      (journal ++ journalRows L tenant key (changedEvent m m' now details :: dispatchEvents m' now))
      (outbox ++ (outboxRows L now tenantID
        (changedEvent m m' now details :: dispatchEvents m' now)).map (·.event)) m'.toSnapshot := by
  have hjournal : journalRows L tenant key (changedEvent m m' now details :: dispatchEvents m' now) =
      [{ deliveryEventOf L tenant key (changedEvent m m' now details) with
        occurredAt := truncate now }] := by
    unfold dispatchEvents
    split <;> simp [journalRows, lifecycleEvents, changedEvent, dispatchEvent]
  have hcounts : m'.dispatchGeneration = m.dispatchGeneration + if m'.status = .queued then 1 else 0 := by
    cases hm.counts with
    | queued status generation => simpa [status] using generation
    | started _ status generation => simpa [status] using generation
    | kept notQueued _ generation => simpa [notQueued] using generation
  rw [hjournal]
  refine h.push hm.edge hm.sequence rfl rfl rfl ?_ rfl hm.sequence hcounts
  simp only [deliveryEventOf, changedEvent]
  unfold dispatchEvents
  split
  · rename_i hst
    simp [outboxEventOf, storedOutbox, dispatchEvent, OutboxEvent.isDispatch, hst, hcounts]
  · rename_i hst
    simp [hst]

/-- A message at the moment of its acceptance. -/
theorem InStep.accepted (L : Libs) (params : NewParams) (tenantID tenant key : String) : InStep
    (journalRows L tenant key (acceptedMessage params).pendingEvents)
    ((outboxRows L params.now tenantID (acceptedMessage params).pendingEvents).map (·.event))
    (acceptedMessage params).toSnapshot := by
  constructor <;>
    simp [journalRows, outboxRows, storedOutbox, outboxEventOf, deliveryEventOf,
      lifecycleEvents, acceptedMessage, OutboxEvent.isDispatch, EventKind.text,
      lifecycleType, queuedSequences]

end InStep

/-! ## Attempts -/

/-- One attempt for each generation that was sent. The last one is open exactly while
the message is SENDING; all that came before a new generation failed in a way
that allowed it. -/
structure Ledger (attempts : List AttemptRow) (s : Snapshot) : Prop where
  numbers : attempts.map (fun a => (a.attemptNo, a.dispatchGeneration)) =
    (List.range' 1 s.attemptCount).map fun n => (n, n)
  started : ∀ a ∈ attempts, a.status = .started ↔ s.status = .sending ∧ a.attemptNo = s.attemptCount
  startedAt : ∀ a ∈ attempts, a.status = .started → a.startedAt = s.updatedAt
  retried : ∀ a ∈ attempts, a.attemptNo < s.attemptCount ∨ s.status = .queued ∨ s.status = .retryScheduled →
    a.status = .failed ∧ ∃ f ∈ a.failure, f.retryable = true
  last : ∀ a ∈ attempts, a.attemptNo = s.attemptCount → a.status = attemptStatus s.status
  early : ∀ a ∈ attempts, a.startedAt < s.dispatchDeadline

namespace Ledger

variable {attempts : List AttemptRow} {s s' : Snapshot} {row : AttemptRow}

theorem mem_numbers (h : Ledger attempts s) {a : AttemptRow} (ha : a ∈ attempts) :
    a.dispatchGeneration = a.attemptNo ∧ 0 < a.attemptNo ∧ a.attemptNo ≤ s.attemptCount := by
  have : (a.attemptNo, a.dispatchGeneration) ∈ (List.range' 1 s.attemptCount).map fun n => (n, n) := by
    rw [← h.numbers]
    exact List.mem_map_of_mem ha
  simp only [List.mem_map, List.mem_range'_1, Prod.mk.injEq] at this
  omega

theorem inj (h : Ledger attempts s) {a b : AttemptRow} (ha : a ∈ attempts) (hb : b ∈ attempts)
    (hn : a.attemptNo = b.attemptNo) : a = b := by
  refine List.inj_on_of_nodup_map (f := fun a => (a.attemptNo, a.dispatchGeneration)) ?_ ha hb ?_
  · rw [h.numbers]
    exact List.Nodup.map (fun _ _ he => (Prod.mk.inj he).1) List.nodup_range'
  · rw [(h.mem_numbers ha).1, (h.mem_numbers hb).1, hn]

/-- A move between statuses without an open attempt, to QUEUED only where every
attempt allows it. -/
theorem idle (h : Ledger attempts s) (hs : s.status ≠ .sending) (hs' : s'.status ≠ .sending)
    (hr : s'.status ≠ .retryScheduled)
    (hq : s'.status = .queued → s.status = .retryScheduled ∨ s.attemptCount = 0)
    (hn : s'.attemptCount = s.attemptCount) (hlast : attemptStatus s'.status = attemptStatus s.status)
    (hd : s'.dispatchDeadline = s.dispatchDeadline) : Ledger attempts s' := by
  have hclosed : ∀ a ∈ attempts, a.status ≠ .started := fun a ha hst => hs ((h.started a ha).1 hst).1
  refine ⟨hn ▸ h.numbers, fun a ha => ?_, fun a ha hst => absurd hst (hclosed a ha), fun a ha hlt => ?_,
    fun a ha hno => (h.last a ha (hno.trans hn)).trans hlast.symm, fun a ha => hd ▸ h.early a ha⟩
  · simp [hclosed a ha, hs']
  · rcases hlt with hlt | hst | hst
    · exact h.retried a ha (.inl (hn ▸ hlt))
    · rcases hq hst with hsrc | hzero
      · exact h.retried a ha (.inr (.inr hsrc))
      · have := h.mem_numbers ha
        omega
    · exact absurd hst hr

/-- A new attempt of a queued message. -/
theorem start (h : Ledger attempts s) (hs : s.status = .queued) (hs' : s'.status = .sending)
    (hn : s'.attemptCount = s.attemptCount + 1) (hrow : row.attemptNo = s'.attemptCount)
    (hgen : row.dispatchGeneration = row.attemptNo) (hst : row.status = .started)
    (hat : row.startedAt = s'.updatedAt) (hearly : row.startedAt < s'.dispatchDeadline)
    (hd : s'.dispatchDeadline = s.dispatchDeadline) :
    Ledger (attempts ++ [row]) s' := by
  have hold : ∀ a ∈ attempts, a.status = .failed ∧ ∃ f ∈ a.failure, f.retryable = true :=
    fun a ha => h.retried a ha (.inr (.inl hs))
  refine ⟨?_, fun a ha => ?_, fun a ha hstarted => ?_, fun a ha hlt => ?_, fun a ha hno => ?_, fun a ha => ?_⟩
  · rw [List.map_append, h.numbers, hn, List.range'_1_concat, List.map_append,
      List.map_singleton, List.map_singleton, hgen, hrow, hn, Nat.add_comm 1]
  · rcases List.mem_append.1 ha with ha | ha
    · have := (h.mem_numbers ha).2.2
      simp only [(hold a ha).1, reduceCtorEq, false_iff, not_and]
      omega
    · rw [List.mem_singleton.1 ha]
      simp [hst, hs', hrow]
  · rcases List.mem_append.1 ha with ha | ha
    · simp [(hold a ha).1] at hstarted
    · rw [List.mem_singleton.1 ha]
      exact hat
  · rcases List.mem_append.1 ha with ha | ha
    · exact hold a ha
    · rw [List.mem_singleton.1 ha] at hlt
      simp [hs', hrow] at hlt
  · rcases List.mem_append.1 ha with ha | ha
    · have := (h.mem_numbers ha).2.2
      omega
    · rw [List.mem_singleton.1 ha, hst, hs']
      rfl
  · rcases List.mem_append.1 ha with ha | ha
    · exact hd ▸ h.early a ha
    · rw [List.mem_singleton.1 ha]
      exact hearly

/-- The open attempt is completed. -/
theorem finish {completion : CompleteDeliveryAttempt} (h : Ledger attempts s) (hmem : row ∈ attempts)
    (hst : row.status = .started) (hs' : s'.status ≠ .sending) (hq : s'.status ≠ .queued)
    (hn : s'.attemptCount = s.attemptCount) (hfin : completion.status ≠ .started)
    (hret : s'.status = .retryScheduled →
      completion.status = .failed ∧ ∃ f ∈ completion.failure, f.retryable = true)
    (hlast : completion.status = attemptStatus s'.status) (hd : s'.dispatchDeadline = s.dispatchDeadline) :
    Ledger (exchange attempts row (completedAttempt row completion)) s' := by
  have hrow := ((h.started row hmem).1 hst).2
  -- all others have a lower number, so they were spent before
  have hothers : ∀ a ∈ attempts, a ≠ row → a.status = .failed ∧ ∃ f ∈ a.failure, f.retryable = true := by
    intro a ha hne
    refine h.retried a ha (.inl ?_)
    have := (h.mem_numbers ha).2.2
    have : a.attemptNo ≠ row.attemptNo := fun he => hne (h.inj ha hmem he)
    omega
  refine ⟨?_, fun a ha => ?_, fun a ha hstarted => ?_, fun a ha hlt => ?_, fun a ha hno => ?_, fun a ha => ?_⟩
  · rw [map_exchange _ _ (by rfl), hn]
    exact h.numbers
  · rcases (mem_exchange hmem).1 ha with rfl | ⟨ha, hne⟩
    · simp [completedAttempt, hfin, hs']
    · simp [(hothers a ha hne).1, hs']
  · rcases (mem_exchange hmem).1 ha with rfl | ⟨ha, hne⟩
    · exact absurd hstarted hfin
    · simp [(hothers a ha hne).1] at hstarted
  · rcases (mem_exchange hmem).1 ha with rfl | ⟨ha, hne⟩
    · rcases hlt with hlt | hlt | hlt
      · have : row.attemptNo < s'.attemptCount := hlt
        omega
      · exact absurd hlt hq
      · exact hret hlt
    · exact hothers a ha hne
  · rcases (mem_exchange hmem).1 ha with rfl | ⟨ha, hne⟩
    · exact hlast
    · exact absurd (h.inj ha hmem (hno.trans (hn.trans hrow.symm))) hne
  · rcases (mem_exchange hmem).1 ha with rfl | ⟨ha, -⟩
    · exact hd ▸ h.early row hmem
    · exact hd ▸ h.early a ha

end Ledger

/-! ## What a change does to the rows of a message -/

section Rows

variable {L : Libs} {ids : Set Uuid} {now : Time} {db db' : Db} {r row : MessageRow}
  {m : Message} {params : NewParams}
  {tenantID id : String}

theorem filter_journalRows {tenant key : String} {events : List Event} (h : ∀ e ∈ events, e.messageID = id)
    (messageID : String) : (journalRows L tenant key events).filter (·.messageID = messageID) =
      if messageID = id then journalRows L tenant key events else [] := by
  have hrows : ∀ j ∈ journalRows L tenant key events, j.messageID = id := by
    intro j hj
    obtain ⟨e, he, hm, -⟩ := mem_journalRows hj
    exact hm.trans (h e he)
  split
  · simpa [List.filter_eq_self, ‹messageID = id›] using hrows
  · rename_i hne
    simp only [List.filter_eq_nil_iff, decide_eq_true_eq]
    exact fun j hj he => hne (he.symm.trans (hrows j hj))

theorem filter_outboxRows {events : List Event} (h : ∀ e ∈ events, e.messageID = id) (messageID : String) :
    ((outboxRows L now tenantID events).map (·.event)).filter (·.aggregateID = messageID) =
      if messageID = id then (outboxRows L now tenantID events).map (·.event) else [] := by
  have hrows : ∀ o ∈ (outboxRows L now tenantID events).map (·.event), o.aggregateID = id := by
    intro o ho
    obtain ⟨x, hx, rfl⟩ := List.mem_map.1 ho
    obtain ⟨e, he, hm, -⟩ := mem_outboxRows hx
    exact hm.trans (h e he)
  split
  · simpa [List.filter_eq_self, ‹messageID = id›] using hrows
  · rename_i hne
    simp only [List.filter_eq_nil_iff, decide_eq_true_eq]
    exact fun o ho he => hne (he.symm.trans (hrows o ho))

namespace Advance

theorem journal_eq (h : Advance L now db r m db') (messageID : String) : db'.journal messageID =
    db.journal messageID ++ if messageID = r.snapshot.id then
      journalRows L r.tenantID r.idempotencyKey m.pendingEvents else [] := by
  rw [Db.journal, h.events, List.filter_append, filter_journalRows fun e he => (h.pending e he).1]
  rfl

theorem outboxEvents_eq (h : Advance L now db r m db') (messageID : String) : db'.outboxEvents messageID =
    db.outboxEvents messageID ++ if messageID = r.snapshot.id then
      (outboxRows L now r.tenantID m.pendingEvents).map (·.event) else [] := by
  rw [Db.outboxEvents, h.outbox, List.map_append, List.filter_append,
    filter_outboxRows fun e he => (h.pending e he).1]
  rfl

theorem attemptsOf_other (h : Advance L now db r m db') {messageID : String}
    (hne : messageID ≠ r.snapshot.id) :
    db'.attemptsOf messageID = db.attemptsOf messageID := by
  have hattempts := h.attempts
  unfold Db.attemptsOf
  generalize db'.attempts = attempts at hattempts
  cases hattempts with
  | unchanged => rfl
  | started _ hm => simp [List.filter_append, hm, hne.symm]
  | @completed a completion _ _ _ hm =>
    rw [filter_exchange _ _ (by rfl), exchange_of_notMem]
    simp [hm, hne.symm]

end Advance

namespace Created

theorem messageID_ne (h : Created L ids tenantID db row params m db') (hr : r ∈ db.messages) :
    r.snapshot.id ≠ params.id :=
  fun he => h.freshID (List.mem_map.2 ⟨r, hr, he⟩)

theorem journal_eq (h : Created L ids tenantID db row params m db') (messageID : String) :
    db'.journal messageID =
    db.journal messageID ++ if messageID = params.id then
      journalRows L row.tenantID row.idempotencyKey m.pendingEvents else [] := by
  rw [Db.journal, h.events, List.filter_append, filter_journalRows fun e he => (h.pending e he).1]
  rfl

theorem outboxEvents_eq (h : Created L ids tenantID db row params m db') (messageID : String) :
    db'.outboxEvents messageID = db.outboxEvents messageID ++ if messageID = params.id then
      (outboxRows L params.now tenantID m.pendingEvents).map (·.event) else [] := by
  rw [Db.outboxEvents, h.outbox, List.map_append, List.filter_append,
    filter_outboxRows fun e he => (h.pending e he).1]
  rfl

/-- Nothing is stored under a new id. -/
theorem nothing_before (h : Created L ids tenantID db row params m db') (hk : db.Keyed) :
    db.journal params.id = [] ∧ db.outboxEvents params.id = [] ∧ db.attemptsOf params.id = [] := by
  simp only [Db.journal, Db.outboxEvents, Db.attemptsOf, List.filter_eq_nil_iff,
    decide_eq_true_eq, List.mem_map]
  refine ⟨fun e he hid => ?_, fun o ho hid => ?_, fun a ha hid => ?_⟩
  · obtain ⟨x, hx, hxid, -⟩ := hk.journal e he
    exact h.messageID_ne hx (hxid.trans hid)
  · obtain ⟨y, hy, rfl⟩ := ho
    obtain ⟨x, hx, hxid, -⟩ := hk.outbox y hy
    exact h.messageID_ne hx (hxid.trans hid)
  · obtain ⟨x, hx, hxid⟩ := hk.attempts a ha
    exact h.messageID_ne hx (hxid.trans hid)

end Created

end Rows

/-! ## Sound states -/

/-- The id of an outbox event is derived from what identifies it. -/
def OutboxEvent.Derived (L : Libs) (o : OutboxEvent) : Prop :=
  o.aggregateType = outboxAggregateMailMessage ∧ ∃ kind : EventKind, o.eventType = kind.text ∧
    o.id = (L.newSHA1 deliveryEventNamespace
      (eventIdentity o.aggregateID kind o.aggregateSequence o.dispatchGeneration)).text

/-- What a state keeps of one message. -/
structure MessageRow.SoundIn (r : MessageRow) (db : Db) : Prop where
  inStep : InStep (db.journal r.snapshot.id) (db.outboxEvents r.snapshot.id) r.snapshot
  ledger : Ledger (db.attemptsOf r.snapshot.id) r.snapshot
  counted : r.snapshot.Counted
  stored : r.snapshot.truncated = r.snapshot
  allowed : r.Allowed
  checked : r.Checked
  version : r.snapshot.version + 2 = r.snapshot.latestSequence
  failure : ∀ f ∈ r.snapshot.lastFailure, f.validate = .ok ()

structure Sound (L : Libs) (ids : Set Uuid) (db : Db) : Prop where
  keyed : db.Keyed
  rows : ∀ r ∈ db.messages, r.SoundIn db
  drawn : ∀ r ∈ db.messages, ∃ u ∈ ids, r.snapshot.id = u.text
  tenants : ∀ r ∈ db.messages, ∃ t ∈ db.tenants, t.id = r.tenantID
  derived : ∀ o ∈ db.outbox, o.event.Derived L

theorem Snapshot.truncated_truncated (s : Snapshot) : s.truncated.truncated = s.truncated := by
  have : truncate ∘ truncate = truncate := funext truncate_truncate
  simp [Snapshot.truncated, truncate_truncate, this]

theorem Sound.uuidColumn_event {L : Libs} {ids : Set Uuid} {db : Db} {o : OutboxRow} (hs : Sound L ids db)
    (ho : o ∈ db.outbox) : uuidColumn o.event.id = some o.event.id := by
  obtain ⟨-, kind, -, hid⟩ := hs.derived o ho
  rw [hid, uuidColumn_text]

theorem derived_outboxRows {L : Libs} {now : Time} {tenantID : String} {events : List Event} :
    ∀ o ∈ outboxRows L now tenantID events, o.event.Derived L := by
  intro o ho
  obtain ⟨e, -, rfl⟩ := List.mem_map.1 ho
  exact ⟨rfl, e.kind, rfl, rfl⟩

section Preservation

variable {L : Libs} {ids : Set Uuid} {now : Time} {db db' : Db} {r row : MessageRow}
  {m : Message} {params : NewParams}
  {tenantID : String}

/-- Which attempts a message has when its rows are as sound as its move requires. -/
theorem Advance.ledger (h : Advance L now db r m db') (hs : r.SoundIn db) :
    Ledger (db'.attemptsOf r.snapshot.id) (updatedRow r m.toSnapshot).snapshot := by
  have hattempts := h.attempts
  have hcounts := h.moved.counts
  have hcounted := h.moved.counted hs.counted
  have hledger := hs.ledger
  have hdeadline : (updatedRow r m.toSnapshot).snapshot.dispatchDeadline = r.snapshot.dispatchDeadline :=
    (congrArg truncate h.moved.dispatchDeadline).trans (congrArg Snapshot.dispatchDeadline hs.stored)
  unfold Db.attemptsOf at hledger ⊢
  generalize db'.attempts = attempts at hattempts
  cases hattempts with
  | unchanged source target =>
    have hn : m.attemptCount = r.snapshot.attemptCount := by
      cases hcounts with
      | queued _ _ attempts => exact attempts
      | started _ status => simp [status] at target
      | kept _ _ _ attempts => exact attempts
    have hlast := attemptStatus_of_idle h.moved.edge target
    refine hledger.idle source ?_ ?_ (fun hq => ?_) hn (hlast.2.trans hlast.1.symm) hdeadline
    · rcases target with ht | ht <;> simp [updatedRow, Snapshot.truncated, ht]
    · rcases target with ht | ht <;> simp [updatedRow, Snapshot.truncated, ht]
    · have edge : canTransition r.snapshot.status .queued = true := by
        have := h.moved.edge
        rwa [show m.status = .queued from hq] at this
      have hb := hs.counted.byStatus
      rcases queued_source edge with hsrc | hsrc | hsrc
      · rw [hsrc] at hb; exact .inr hb.2.1
      · rw [hsrc] at hb; exact .inr hb.2.1
      · exact .inl hsrc
  | @started a target hm attemptNo generation status startedAt _ early =>
    rw [List.filter_append]
    have hfilter : [a].filter (·.messageID = r.snapshot.id) = [a] := by simp [hm]
    have hb := hcounted.byStatus
    rw [target] at hb
    rw [hfilter]
    cases hcounts with
    | queued hq => simp [target] at hq
    | started source _ _ attempts =>
      exact hledger.start source target attempts attemptNo
        ((generation.trans hb.1).trans attemptNo.symm) status startedAt
        (hdeadline ▸ early) hdeadline
    | kept _ hns => exact absurd target hns
  | @completed a completion source target mem hm status finished retried requeued answer =>
    have hn : m.attemptCount = r.snapshot.attemptCount := by
      cases hcounts with
      | queued hq => exact absurd hq requeued
      | started _ hst => exact absurd hst target
      | kept _ _ _ attempts => exact attempts
    rw [filter_exchange _ _ (by rfl)]
    exact hledger.finish (List.mem_filter.2 ⟨mem, by simp [hm]⟩) status target requeued hn finished retried
      answer hdeadline

theorem Advance.soundIn_self (h : Advance L now db r m db') (hs : r.SoundIn db) :
    (updatedRow r m.toSnapshot).SoundIn db' := by
  have hid : (updatedRow r m.toSnapshot).snapshot.id = r.snapshot.id := rfl
  have hversion : m.version = r.snapshot.version := h.moved.version
  have hsequence : m.latestSequence = r.snapshot.latestSequence + 1 := h.moved.sequence
  refine ⟨?_, hid ▸ h.ledger hs, ?_, ?_, h.allowed,
    ⟨hs.checked.idempotencyKey, hs.checked.submission⟩, ?_, ?_⟩
  · rw [hid, h.journal_eq, h.outboxEvents_eq, if_pos rfl, if_pos rfl]
    obtain ⟨details, he⟩ := h.moved.events
    have he' : m.pendingEvents = changedEvent r.message m now details :: dispatchEvents m now := by
      simpa [MessageRow.message] using he
    rw [he']
    exact (InStep.moved L r.tenantID r.tenantID r.idempotencyKey details hs.inStep h.moved).congr
      rfl rfl rfl
  · have := h.moved.counted (m := r.message) hs.counted
    exact ⟨⟨this.byStatus, this.generation_le, this.maxAttempts_pos, this.sequence_pos⟩, this.maxAttempts_le⟩
  · have hacc : truncate r.snapshot.acceptedAt = r.snapshot.acceptedAt :=
      congrArg Snapshot.acceptedAt hs.stored
    have := Snapshot.truncated_truncated m.toSnapshot
    simp only [Snapshot.truncated, Snapshot.mk.injEq, true_and] at this
    simp [updatedRow, Snapshot.truncated, hacc, this]
  · have hs := hs.version
    simp only [updatedRow, Snapshot.truncated]
    omega
  · exact fun f hf => (h.moved.lastFailure f hf).elim (hs.failure f) id

theorem Advance.soundIn_other (h : Advance L now db r m db') {x : MessageRow}
    (hne : x.snapshot.id ≠ r.snapshot.id) (hs : x.SoundIn db) : x.SoundIn db' := by
  refine ⟨?_, ?_, hs.counted, hs.stored, hs.allowed, hs.checked, hs.version, hs.failure⟩
  · rw [h.journal_eq, h.outboxEvents_eq, if_neg hne, if_neg hne, List.append_nil, List.append_nil]
    exact hs.inStep
  · rw [h.attemptsOf_other hne]
    exact hs.ledger

theorem Created.soundIn_new (h : Created L ids tenantID db row params m db') (hk : db.Keyed) :
    row.SoundIn db' := by
  have hid : row.snapshot.id = params.id := by rw [h.snapshot]; exact h.moved.id
  obtain ⟨hj, ho, ha⟩ := h.nothing_before hk
  have hcounted := h.moved.counted
    (acceptedMessage_counted (Nat.pos_iff_ne_zero.1 h.maxAttempts.1) h.maxAttempts.2)
  refine ⟨?_, ?_, ?_, ?_, h.allowed, h.checked, ?_, ?_⟩
  · rw [hid, h.journal_eq, h.outboxEvents_eq, if_pos rfl, if_pos rfl, hj, ho,
      List.nil_append, List.nil_append]
    obtain ⟨details, he⟩ := h.moved.events
    have hstep := InStep.moved L tenantID row.tenantID row.idempotencyKey details
      (InStep.accepted L params tenantID row.tenantID row.idempotencyKey) h.moved
    simp only [journalRows, outboxRows,
      lifecycleEvents, ← List.map_append, ← List.filter_append, ← he] at hstep
    rw [h.snapshot]
    exact hstep.congr rfl rfl rfl
  · have hzero : m.attemptCount = 0 := by
      have hb := hcounted.byStatus
      rcases h.routed with hs | hs
      · rw [hs] at hb
        exact hb.2.1
      · cases h.moved.counts with
        | queued _ _ attempts => exact attempts
        | started _ status => simp [hs] at status
        | kept notQueued => exact absurd hs notQueued
    rw [hid, Db.attemptsOf, h.attempts, ← Db.attemptsOf, ha, h.snapshot]
    exact ⟨by simp [Snapshot.truncated, hzero], by simp, by simp, by simp, by simp, by simp⟩
  · rw [h.snapshot]
    exact ⟨⟨hcounted.byStatus, hcounted.generation_le, hcounted.maxAttempts_pos, hcounted.sequence_pos⟩,
      hcounted.maxAttempts_le⟩
  · rw [h.snapshot]
    exact Snapshot.truncated_truncated _
  · have hversion : m.version = 0 := h.moved.version
    have hsequence : m.latestSequence = 2 := h.moved.sequence
    simp only [h.snapshot, Snapshot.truncated]
    omega
  · intro f hf
    rw [h.snapshot] at hf
    exact (h.moved.lastFailure f hf).resolve_left (by simp [acceptedMessage])

theorem Created.soundIn_other (h : Created L ids tenantID db row params m db') (hr : r ∈ db.messages)
    (hs : r.SoundIn db) : r.SoundIn db' := by
  have hne := h.messageID_ne hr
  refine ⟨?_, ?_, hs.counted, hs.stored, hs.allowed, hs.checked, hs.version, hs.failure⟩
  · rw [h.journal_eq, h.outboxEvents_eq, if_neg hne, if_neg hne, List.append_nil, List.append_nil]
    exact hs.inStep
  · rw [Db.attemptsOf, h.attempts]
    exact hs.ledger

/-- A change of a sound state leaves a sound state. -/
theorem Change.sound (h : Change L ids db db') (hs : Sound L ids db) : Sound L ids db' := by
  have hk := h.keyed hs.keyed
  cases h with
  | @created tenantID row params m _ h =>
    have hid : row.snapshot.id = params.id := by rw [h.snapshot]; exact h.moved.id
    refine ⟨hk, fun r hr => ?_, fun r hr => ?_, fun r hr => ?_, fun o ho => ?_⟩
    · rw [h.messages] at hr
      rcases List.mem_append.1 hr with hr | hr
      · exact h.soundIn_other hr (hs.rows r hr)
      · rw [List.mem_singleton.1 hr]
        exact h.soundIn_new hs.keyed
    · rw [h.messages] at hr
      rcases List.mem_append.1 hr with hr | hr
      · exact hs.drawn r hr
      · rw [List.mem_singleton.1 hr, hid]
        exact h.drawn
    · rw [h.messages] at hr
      rw [h.tenants]
      rcases List.mem_append.1 hr with hr | hr
      · exact hs.tenants r hr
      · rw [List.mem_singleton.1 hr]
        exact h.tenantKnown
    · rw [h.outbox] at ho
      rcases List.mem_append.1 ho with ho | ho
      · exact hs.derived o ho
      · exact derived_outboxRows o ho
  | @advanced now r m _ h =>
    refine ⟨hk, fun x hx => ?_, fun x hx => ?_, fun x hx => ?_, fun o ho => ?_⟩
    · rw [h.messages] at hx
      rcases (mem_exchange h.mem).1 hx with rfl | ⟨hx, hne⟩
      · exact h.soundIn_self (hs.rows r h.mem)
      · exact h.soundIn_other
          (fun he => hne (List.inj_on_of_nodup_map hs.keyed.ids hx h.mem he)) (hs.rows x hx)
    · rw [h.messages] at hx
      rcases (mem_exchange h.mem).1 hx with rfl | ⟨hx, -⟩
      · exact hs.drawn r h.mem
      · exact hs.drawn x hx
    · rw [h.messages] at hx
      rw [h.tenants]
      rcases (mem_exchange h.mem).1 hx with rfl | ⟨hx, -⟩
      · exact hs.tenants r h.mem
      · exact hs.tenants x hx
    · rw [h.outbox] at ho
      rcases List.mem_append.1 ho with ho | ho
      · exact hs.derived o ho
      · exact derived_outboxRows o ho

theorem Relayed.sound (h : Relayed db db') (hs : Sound L ids db) : Sound L ids db' := by
  have hk := h.keyed hs.keyed
  obtain ⟨events, rest⟩ := h
  refine ⟨hk, fun r hr => ?_, fun r hr => hs.drawn r (by rwa [rest] at hr),
    fun r hr => by rw [rest] at hr ⊢; exact hs.tenants r hr, fun o ho => ?_⟩
  · have hr' : r ∈ db.messages := by rwa [rest] at hr
    have hj : db'.journal r.snapshot.id = db.journal r.snapshot.id := by rw [rest]; rfl
    have ho : db'.outboxEvents r.snapshot.id =
        db.outboxEvents r.snapshot.id := by simp only [Db.outboxEvents, events]
    have ha : db'.attemptsOf r.snapshot.id = db.attemptsOf r.snapshot.id := by rw [rest]; rfl
    obtain ⟨h1, h2, h3, h4, h5, h6, h7, h8⟩ := hs.rows r hr'
    exact ⟨by rw [hj, ho]; exact h1, by rw [ha]; exact h2, h3, h4, h5, h6, h7, h8⟩
  · have : o.event ∈ db.outbox.map (·.event) := events ▸ List.mem_map_of_mem ho
    obtain ⟨x, hx, he⟩ := List.mem_map.1 this
    exact he ▸ hs.derived x hx

end Preservation

end MailService
