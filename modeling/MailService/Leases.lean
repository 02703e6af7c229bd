import MailService.Changes
import MailService.Relay
/-!
# What a relay does to the outbox

A claim leases rows that are pending and not leased to anybody whose time has
not run out; a result is recorded on the one row that its claim still holds.
Neither touches an event or another table.
-/
open Text Checks Table

namespace MailService

open Db

variable {db db' : Db} {now : Time}

/-! ## Leasing -/

/-- A row leased under a token. -/
def OutboxRow.leasedTo (o : OutboxRow) (token : String) (leaseUntil : Time) : OutboxRow :=
  { o with lease := some (token, leaseUntil) }

/-- What the relay is handed for a row. -/
def OutboxRow.leasedEvent (o : OutboxRow) (token : String) (leaseUntil : Time) : LeasedOutboxEvent :=
  ⟨o.event, token, leaseUntil, o.attemptCount + 1⟩

/-- A committed claim of the rows `claimed` under `token`. -/
structure LeasedBatch (token : String) (now leaseUntil : Time) (claimed : List OutboxRow) (db db' : Db)
    (events : List LeasedOutboxEvent) : Prop where
  mem : ∀ o ∈ claimed, o ∈ db.outbox
  claimable : ∀ o ∈ claimed, claimable now o = true
  valid : ∀ o ∈ claimed, (o.leasedEvent token leaseUntil).validate = .ok ()
  future : claimed ≠ [] → now < leaseUntil
  events : events = claimed.map (·.leasedEvent token leaseUntil)
  outbox : db'.outbox = db.outbox.map fun o => if o ∈ claimed then o.leasedTo token leaseUntil else o
  rest : db' = { db with outbox := db'.outbox }

theorem scanLeased_eq_ok {o : OutboxRow} {token : String} {leaseUntil : Time} {leased : LeasedOutboxEvent}
    (h : scanLeased now (o.leasedTo token leaseUntil) = .ok leased) :
    leased = o.leasedEvent token leaseUntil ∧
      (o.leasedEvent token leaseUntil).validate = .ok () ∧ now < leaseUntil := by
  simp only [scanLeased, OutboxRow.leasedTo, unit_bind_eq_ok, mapError_ok_iff, check_eq_ok, pure_eq_ok] at h
  obtain ⟨-, hv, ⟨-, hlt⟩, rfl⟩ := h
  exact ⟨rfl, hv, hlt⟩

theorem mem_candidates {limit : Nat} {locked : String → Bool} {o : OutboxRow}
    (h : o ∈ db.candidates now limit locked) :
    o ∈ db.outbox ∧ claimable now o = true := by
  have hmem := List.mem_of_mem_take h
  simp only [List.mem_insertionSort, List.mem_filter, Bool.and_eq_true] at hmem
  exact ⟨hmem.1, hmem.2.1⟩

theorem claimBatch_leased {c : OutboxRelayConfig} {run : Uuid} {locked : String → Bool}
    {events : List LeasedOutboxEvent} (hn : (db.outbox.map (·.event.id)).Nodup)
    (h : claimBatch c run locked now db = .ok (db', events)) :
    ∃ leaseUntil claimed, LeasedBatch (c.leaseToken run) now leaseUntil claimed db db' events := by
  simp only [claimBatch, claimPending, bind_eq_ok, pure_eq_ok, Prod.mk.injEq] at h
  obtain ⟨⟨db₁, batch⟩, ⟨_, -, _, -, scanned, hscan, rfl, rfl⟩, _, -, rfl, rfl⟩ := h
  have hrow : leasedRow ⟨c.leaseToken run, c.leaseDuration, c.batchSize⟩ now =
      fun o => o.leasedTo (c.leaseToken run) (now + wholeMilliseconds c.leaseDuration) := rfl
  rw [hrow] at hscan ⊢
  generalize now + wholeMilliseconds c.leaseDuration = leaseUntil at hscan ⊢
  rw [List.mapM_map] at hscan
  obtain ⟨rfl, hall⟩ := mapM_eq_ok (fun o _ h => scanLeased_eq_ok h) hscan
  refine ⟨_, db.candidates now c.batchSize locked, fun o ho => (mem_candidates ho).1,
    fun o ho => (mem_candidates ho).2, fun o ho => (hall o ho).1, fun hne => ?_, rfl, ?_, rfl⟩
  · obtain ⟨o, ho⟩ := List.exists_mem_of_ne_nil _ hne
    exact (hall o ho).2
  refine List.map_congr_left fun o ho => ?_
  -- a row is claimed by its id, which no other row has
  have hiff : ((db.candidates now c.batchSize locked).any fun x => x.event.id = o.event.id) = true ↔
      o ∈ db.candidates now c.batchSize locked := by
    simp only [List.any_eq_true, decide_eq_true_eq]
    constructor
    · rintro ⟨x, hx, he⟩
      obtain rfl : x = o := List.inj_on_of_nodup_map hn (mem_candidates hx).1 ho he
      exact hx
    · exact fun hmem => ⟨o, hmem, rfl⟩
  by_cases hmem : o ∈ db.candidates now c.batchSize locked
  · rw [if_pos (hiff.2 hmem), if_pos hmem]
  · rw [if_neg (fun hany => hmem (hiff.1 hany)), if_neg hmem]

theorem LeasedBatch.relayed {token : String} {leaseUntil : Time} {claimed : List OutboxRow}
    {events : List LeasedOutboxEvent} (h : LeasedBatch token now leaseUntil claimed db db' events) :
    Relayed db db' := by
  refine ⟨?_, h.rest⟩
  rw [h.outbox, List.map_map]
  refine List.map_congr_left fun o _ => ?_
  simp only [Function.comp]
  split <;> rfl

/-! ## Recording a result -/

/-- The reference of a valid claim is valid. -/
theorem LeasedOutboxEvent.reference_valid {leased : LeasedOutboxEvent} (h : leased.validate = .ok ()) :
    leased.reference.validate = .ok () := by
  simp only [LeasedOutboxEvent.validate, OutboxEvent.validate, unit_bind_eq_ok, check_eq_ok] at h
  simp only [OutboxLeaseReference.validate, unit_bind_eq_ok, check_eq_ok]
  exact ⟨h.1.1, h.2.1, h.2.2.2⟩

/-- The row after a result of attempt `attemptNumber` was recorded at `now`. -/
def OutboxRow.recorded (o : OutboxRow) (attemptNumber : Nat) (now : Time) : Completion → OutboxRow
  | .published =>
    { o with
      status := .published, attemptCount := attemptNumber, lastErrorCode := none, lease := none
      publishedAt := some now }
  | .retried delay errorCode =>
    { o with
      attemptCount := attemptNumber, lastErrorCode := some errorCode,
        availableAt := now + wholeMilliseconds delay
      lease := none }
  | .deadLettered errorCode =>
    { o with
      status := .deadLettered, attemptCount := attemptNumber, lastErrorCode := some errorCode, lease := none }

theorem OutboxRow.recorded_event (o : OutboxRow) (attemptNumber : Nat) (now : Time)
    (completion : Completion) :
    (o.recorded attemptNumber now completion).event = o.event := by
  cases completion with
  | published => rfl
  | retried => rw [recorded]
  | deadLettered => rfl

/-- The claim behind a reference is the one that holds the row. -/
structure OutboxLeaseReference.Holds (reference : OutboxLeaseReference) (o : OutboxRow) : Prop where
  id : uuidColumn reference.eventID = some o.event.id
  pending : o.status = .pending
  owner : o.lease.map Prod.fst = some reference.leaseToken
  attempt : o.attemptCount + 1 = reference.attemptNumber

/-- A committed result: of the row that the claim holds, and of no other. -/
structure Recorded (reference : OutboxLeaseReference) (now : Time) (completion : Completion) (o : OutboxRow)
    (db db' : Db) : Prop where
  mem : o ∈ db.outbox
  holds : reference.Holds o
  outbox : db'.outbox = exchange db.outbox o (o.recorded reference.attemptNumber now completion)
  rest : db' = { db with outbox := db'.outbox }

theorem holdsLease_iff {reference : OutboxLeaseReference} {id : String} {o : OutboxRow}
    (hid : uuidColumn reference.eventID = some id) :
    holdsLease reference id o = true ↔ reference.Holds o := by
  simp only [holdsLease, Bool.decide_and, Bool.and_eq_true, decide_eq_true_eq]
  constructor
  · rintro ⟨rfl, hp, ho, ha⟩
    exact ⟨hid, hp, ho, ha⟩
  · rintro ⟨h1, h2, h3, h4⟩
    exact ⟨(Option.some.inj (hid.symm.trans h1)).symm, h2, h3, h4⟩

theorem completeLease_recorded {reference : OutboxLeaseReference} {operation : String}
    {completion : Completion} (hn : (db.outbox.map (·.event.id)).Nodup)
    (h : db.completeLease reference operation (·.recorded reference.attemptNumber now completion) = .ok db') :
    ∃ o, Recorded reference now completion o db db' := by
  unfold completeLease at h
  split at h
  · simp at h
  rename_i id hid
  split at h
  · rename_i hany
    simp only [Except.ok.injEq] at h
    subst h
    obtain ⟨o, ho, hholds⟩ := List.any_eq_true.1 hany
    have hholds' := (holdsLease_iff hid).1 hholds
    refine ⟨o, ho, hholds', ?_, rfl⟩
    exact map_if_eq_exchange (fun o => OutboxRow.recorded o reference.attemptNumber now completion)
      (fun o => holdsLease reference id o = true) hn ho hholds fun x hx =>
        Option.some.inj (((holdsLease_iff hid).1 hx).id.symm.trans hholds'.id)
  · simp at h

theorem recordCompletion_recorded {reference : OutboxLeaseReference} {completion : Completion}
    (hn : (db.outbox.map (·.event.id)).Nodup) (h : recordCompletion reference now db completion = .ok db') :
    ∃ o, Recorded reference now completion o db db' := by
  cases completion with
  | published =>
    simp only [recordCompletion, markPublished, unit_bind_eq_ok] at h
    exact completeLease_recorded hn h.2
  | retried delay errorCode =>
    simp only [recordCompletion, reschedule, unit_bind_eq_ok, check_eq_ok] at h
    obtain ⟨-, -, -, h⟩ := h
    exact completeLease_recorded hn h
  | deadLettered errorCode =>
    simp only [recordCompletion, deadLetter, unit_bind_eq_ok] at h
    exact completeLease_recorded hn h.2.2

theorem Recorded.relayed {reference : OutboxLeaseReference} {completion : Completion} {o : OutboxRow}
    (h : Recorded reference now completion o db db') : Relayed db db' := by
  refine ⟨?_, h.rest⟩
  rw [h.outbox]
  exact map_exchange (fun x : OutboxRow => x.event) _ (o.recorded_event _ _ _)

end MailService
