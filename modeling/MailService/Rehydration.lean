import MailService.Aggregate
/-!
# What every aggregate keeps

Over any life: the counters and the time of the next attempt follow from the
status, so a queued message can always be sent before its deadline and is sent at
most `maxAttempts` times. `Restore` checks these and the times; all that can fail
is the order of acceptance and last update, because a delivery fact brings a time
of its own.
-/
open Runs Text

namespace MailService

/-! ## The invariant -/

/-- What `validateSnapshot` asks for, except the time of the last update. -/
structure Snapshot.Consistent (s : Snapshot) : Prop where
  accounted : s.Accounted
  id : trimSpace s.id ≠ ""
  acceptedAt : s.acceptedAt ≠ 0
  deadline : s.acceptedAt < s.dispatchDeadline
  scheduled : ∀ t ∈ s.scheduledAt, t < s.dispatchDeadline
  retry : s.nextAttemptAt ≠ none ↔ s.status = .retryScheduled
  retry_lt : ∀ t ∈ s.nextAttemptAt, t < s.dispatchDeadline
  lastFailure : ∀ f ∈ s.lastFailure, f.validate = .ok ()

variable {t : Time} {m m' : Message} {l l' : Life} {call : Call} {calls : List (Call × Life)}

theorem Moved.consistent (h : Moved t m m') (hc : m.toSnapshot.Consistent) : m'.toSnapshot.Consistent where
  accounted := h.accounted hc.accounted
  id := by
    rw [h.id]
    exact hc.id
  acceptedAt := by
    rw [h.acceptedAt]
    exact hc.acceptedAt
  deadline := by
    rw [h.acceptedAt, h.dispatchDeadline]
    exact hc.deadline
  scheduled := by
    rw [h.scheduledAt, h.dispatchDeadline]
    exact hc.scheduled
  retry := by
    cases h.retryTime with
    | scheduled status next => simp [status, next]
    | cleared status next => simp [status, next]
    | untouched source status next =>
      have hnone : m.nextAttemptAt = none := by
        by_contra hne
        exact source (hc.retry.1 hne)
      simp [status, next, hnone]
  retry_lt := by
    intro t ht
    rw [h.dispatchDeadline]
    cases h.retryTime with
    | scheduled status next future deadline =>
      rw [next, Option.mem_some_iff] at ht
      exact ht ▸ deadline
    | cleared status next => simp [next] at ht
    | untouched source status next =>
      rw [next] at ht
      exact hc.retry_lt t ht
  lastFailure := by
    intro f hf
    rcases h.lastFailure f hf with hold | hvalid
    · exact hc.lastFailure f hold
    · exact hvalid

theorem Message.new_consistent {params : NewParams} (h : Message.new params = .ok m) :
    m.toSnapshot.Consistent := by
  obtain ⟨hm, -, hd, hnow, hmax⟩ := Message.new_moved h
  have hvalid := (Message.new_eq_ok.1 h).1
  exact hm.consistent ⟨acceptedMessage_accounted hmax, hvalid.id, hnow, hd,
    hvalid.scheduledAt, by simp [acceptedMessage], by simp [acceptedMessage], by simp [acceptedMessage]⟩

theorem Lived.consistent (h : Lived calls l) : l.message.toSnapshot.Consistent := by
  refine h.invariant (P := fun l => l.message.toSnapshot.Consistent) ?_ ?_
  · rintro l ⟨⟨params, hnew⟩, -⟩
    exact Message.new_consistent hnew
  · intro l call l' hc hstep
    cases hstep with
    | @operation op m' outcome hp =>
      rcases Message.perform_moved hp with ⟨-, rfl⟩ | ⟨-, hm, -⟩
      · exact hc
      · exact hm.consistent hc
    | pullEvents => exact hc

/-! ## Counters -/

/-- The counters and the retry time, by status. -/
structure Snapshot.ByStatus (s : Snapshot) : Prop where
  waiting : oneOf s.status [.accepted, .scheduled] → s.dispatchGeneration = 0 ∧ s.attemptCount = 0
  queued : s.status = .queued → s.dispatchGeneration = s.attemptCount + 1 ∧ s.attemptCount < s.maxAttempts
  sent : oneOf s.status
    [.sending, .retryScheduled, .submissionUnknown, .providerAccepted, .delivered, .bounced,
    .complained, .permanentlyFailed, .deadLettered, .unknownFinal] →
      s.dispatchGeneration = s.attemptCount ∧ 1 ≤ s.attemptCount ∧ s.attemptCount ≤ s.maxAttempts
  retryable : s.status = .retryScheduled → s.attemptCount < s.maxAttempts
  retry : s.nextAttemptAt ≠ none ↔ s.status = .retryScheduled
  retry_lt : ∀ t ∈ s.nextAttemptAt, t < s.dispatchDeadline

theorem Snapshot.Consistent.byStatus {s : Snapshot} (h : s.Consistent) : s.ByStatus := by
  have hb := h.accounted.byStatus
  have hg := h.accounted.generation_le
  refine ⟨?_, ?_, ?_, ?_, h.retry, h.retry_lt⟩
  · intro hs
    rcases Message.oneOf_pair hs with hs | hs <;> rw [hs] at hb
    · exact ⟨hb.1, hb.2.1⟩
    · exact ⟨hb.1, hb.2.1⟩
  · intro hs
    rw [hs] at hb
    simp only [CountedFor] at hb
    omega
  · intro hs
    have hle := h.accounted.attempts_le
    cases hst : s.status <;> rw [hst] at hb hs <;> simp only [CountedFor] at hb <;>
      first
      | exact ⟨hb.1, hb.2.1, hle⟩
      | simp [oneOf] at hs
  · intro hs
    rw [hs] at hb
    exact hb.2.2.1

/-- No counter of the aggregate overflows its Go type. -/
theorem Lived.counters_fit (h : Lived calls l) (hmax : l.message.maxAttempts < 2 ^ 32) :
    l.message.attemptCount < 2 ^ 32 ∧ l.message.dispatchGeneration < 2 ^ 64 ∧
    l.message.latestSequence < 2 ^ 64 := by
  have hc := (Lived.consistent h).accounted
  have h1 := hc.attempts_le
  have h2 := hc.generation_le
  have h3 := hc.sequence_le
  omega

/-- The calls of `StartSending` that started an attempt. -/
def Call.starts : Call → Bool
  | .operation op outcome => op.isStartSending && outcome == .changed
  | .pullEvents => false

def starts (calls : List (Call × Life)) : Nat := calls.countP (·.1.starts)

theorem Moved.attemptCount (h : Moved t m m') :
    m'.attemptCount = m.attemptCount + if m'.status = .sending then 1 else 0 := by
  cases h.counts with
  | queued status generation attempts => simp [status, attempts]
  | started source status generation attempts limit => simp [status, attempts]
  | kept notQueued notSending generation attempts limit => simp [notSending, attempts]

/-- Every started attempt was counted. -/
theorem Lived.starts_eq (h : Lived calls l) : starts calls = l.message.attemptCount := by
  induction h with
  | start hb =>
    obtain ⟨⟨params, hnew⟩, -⟩ := hb
    obtain ⟨hm, hs, -⟩ := Message.new_moved hnew
    have hcount := hm.attemptCount
    rcases hs with hs | hs <;> simpa [hs, starts, acceptedMessage] using hcount.symm
  | @next calls l l' call hr hstep ih =>
    cases hstep with
    | @operation op m' outcome hp =>
      rcases Message.perform_moved hp with ⟨ho, rfl⟩ | ⟨rfl, hm, htarget⟩
      · simpa [starts, Call.starts, ho] using ih
      · have hsend : op.isStartSending = true ↔ m'.status = .sending := by
          rw [← Operation.target_sending, htarget, Option.some.injEq]
        have hcount := hm.attemptCount
        simp only [starts, List.countP_cons, Call.starts, beq_self_eq_true, Bool.and_true, hsend] at ih ⊢
        omega
    | pullEvents => simpa [starts, Call.starts, Message.pullEvents] using ih

/-- The accounting of retries and generations over any life. -/
theorem retry_accounting (h : Lived calls l) :
    l.message.toSnapshot.ByStatus ∧
    (∀ now e, l.message.status = .queued →
      (l.message.startSending l.message.dispatchGeneration now).2 = .error e →
        e = .dispatchDeadlineExceeded ∧ l.message.dispatchDeadline ≤ now) ∧
    starts calls ≤ l.message.maxAttempts := by
  have hc := Lived.consistent h
  refine ⟨hc.byStatus, ?_, ?_⟩
  · intro now e hs he
    have hlimit := (hc.byStatus.queued hs).2
    unfold Message.startSending at he
    rw [if_neg (by simpa using hs), if_neg (by simp)] at he
    split at he
    · rename_i hd
      exact ⟨(Except.error.inj he).symm, Nat.le_of_not_lt hd⟩
    · rw [if_neg (Nat.not_le_of_lt hlimit)] at he
      simp at he
  · rw [Lived.starts_eq h]
    exact hc.accounted.attempts_le

/-- Both attempts of a message that is allowed three. -/
theorem retry_accounting_retried : ∃ calls l, Lived calls l ∧ l.message.status = .sending ∧ starts calls = 2 ∧
    l.message.dispatchGeneration = l.message.attemptCount ∧ starts calls ≤ l.message.maxAttempts := by
  have h0 : Lived [] ⟨immediateMessage, []⟩ := .start immediate_begins
  have h1 := h0.next (.performed _ (.startSending 1 11))
  have h2 := h1.next (.performed _ (.scheduleRetry ⟨.network, "DOWN", true⟩ 20 12))
  have h3 := h2.next (.performed _ (.queue 20))
  have h4 := h3.next (.performed _ (.startSending 2 21))
  have haccounting := retry_accounting h4
  exact ⟨_, _, h4, rfl, rfl, (haccounting.1.sent rfl).1, haccounting.2.2⟩

/-! ## Rehydration -/

/-- The times at which commands were given. -/
def Call.now : Call → Option Time
  | .operation op _ => op.now
  | .pullEvents => none

def commandTimes (calls : List (Call × Life)) : List Time := calls.filterMap (·.1.now)

/-- The operation that a call changed the message by. -/
def Call.change : Call → Option Operation
  | .operation op .changed => some op
  | _ => none

/-- The last of them. -/
def lastChange (calls : List (Call × Life)) : Option Operation := calls.findSome? (·.1.change)

theorem Lived.updatedAt (h : Lived calls l) :
    l.message.updatedAt = ((lastChange calls).map (·.occurredAt)).getD l.message.acceptedAt := by
  induction h with
  | start hb =>
    obtain ⟨⟨params, hnew⟩, -⟩ := hb
    obtain ⟨hm, -⟩ := Message.new_moved hnew
    rw [hm.updatedAt, hm.acceptedAt]
    rfl
  | @next calls l l' call hr hstep ih =>
    cases hstep with
    | @operation op m' outcome hp =>
      rcases Message.perform_moved hp with ⟨ho, rfl⟩ | ⟨rfl, hm, -⟩
      · have hnone : (Call.operation op outcome).change = none := by
          cases outcome <;> simp_all [Call.change]
        simpa [lastChange, List.findSome?_cons, hnone] using ih
      · simp [lastChange, Call.change, hm.updatedAt]
    | pullEvents => simpa [lastChange, List.findSome?_cons, Call.change, Message.pullEvents] using ih

theorem Lived.fact_time {fact : DeliveryFact} (h : Lived calls l)
    (hf : lastChange calls = some (.applyDeliveryFact fact)) : fact.occurredAt ≠ 0 := by
  induction h with
  | start => simp [lastChange] at hf
  | @next calls l l' call hr hstep ih =>
    cases hstep with
    | @operation op m' outcome hp =>
      cases outcome with
      | changed =>
        simp only [lastChange, List.findSome?_cons, Call.change, Option.some.injEq] at hf
        subst hf
        exact (Message.applyDeliveryFact_applied (Outcome.map_ofResult.1 hp)).2.2
      | unchanged | failed => exact ih (by simpa [lastChange, List.findSome?_cons, Call.change] using hf)
    | pullEvents => exact ih (by simpa [lastChange, List.findSome?_cons, Call.change] using hf)

theorem mem_commandTimes {op : Operation} {t : Time} (hop : lastChange calls = some op)
    (ht : op.now = some t) :
    t ∈ commandTimes calls := by
  obtain ⟨⟨call, l⟩, hmem, hchange⟩ := List.exists_of_findSome?_eq_some hop
  refine List.mem_filterMap.2 ⟨_, hmem, ?_⟩
  cases call with
  | operation op' outcome =>
    cases outcome with
    | changed => exact Option.some.inj hchange ▸ ht
    | unchanged | failed => simp [Call.change] at hchange
  | pullEvents => simp [Call.change] at hchange

/-- A consistent aggregate is rejected only for the time of its last update. -/
theorem Snapshot.Consistent.validateSnapshot_iff {s : Snapshot} (h : s.Consistent) (hu : s.updatedAt ≠ 0) :
    validateSnapshot s = .ok () ↔ s.acceptedAt ≤ s.updatedAt := by
  have hb := h.byStatus
  have hvalid : s.status.valid = true := by
    have hcounted := h.accounted.byStatus
    cases hst : s.status <;> simp_all [Status.valid, CountedFor]
  have hpos := h.accounted.maxAttempts_pos
  have hle := h.accounted.attempts_le
  have hseq := h.accounted.sequence_pos
  have hdeadline : s.dispatchDeadline ≠ 0 := (Nat.zero_lt_of_lt h.deadline).ne'
  rw [validateSnapshot_eq_ok]
  refine ⟨fun hv => hv.updatedAt, fun hupdated => ?_⟩
  refine ⟨h.id, hvalid, ⟨h.acceptedAt, hu, hdeadline⟩, h.deadline, hupdated, ⟨hpos.ne', hle⟩,
    h.scheduled, h.retry_lt, ?_, ?_, h.retry.2, hseq.ne', h.lastFailure⟩
  · have hcounted := h.accounted.byStatus
    cases hst : s.status <;> simp_all [requiresDispatchGeneration, oneOf, CountedFor] <;> omega
  · have hcounted := h.accounted.byStatus
    cases hst : s.status <;> simp_all [requiresAttempt, oneOf, CountedFor] <;> omega

theorem restore_snapshot {s : Snapshot} :
    (∃ m, restore s = .ok m ∧ m.snapshot = s) ↔ validateSnapshot s = .ok () := by
  unfold restore
  cases validateSnapshot s with
  | ok => simp [Message.snapshot]
  | error => simp

/-- An aggregate whose commands were given after its acceptance can be rehydrated, unless
the last change was a delivery fact from before it. -/
theorem restore_iff (h : Lived calls l) (ht : ∀ t ∈ commandTimes calls, l.message.acceptedAt ≤ t) :
    (∃ m, restore l.message.snapshot = .ok m ∧ m.snapshot = l.message.snapshot) ↔
      ∀ fact, lastChange calls = some (.applyDeliveryFact fact) → l.message.acceptedAt ≤ fact.occurredAt := by
  have hc := Lived.consistent h
  have hu := Lived.updatedAt h
  rw [restore_snapshot]
  cases hlast : lastChange calls with
  | none =>
    rw [hlast] at hu
    have hupdated : l.message.updatedAt = l.message.acceptedAt := hu
    rw [hc.validateSnapshot_iff (hupdated ▸ hc.acceptedAt), hupdated]
    simp
  | some op =>
    rw [hlast] at hu
    have hupdated : l.message.updatedAt = op.occurredAt := hu
    cases hnow : op.now with
    | some t =>
      -- a command sets the time that it was given at
      have hle := ht t (mem_commandTimes hlast hnow)
      have hop : op.occurredAt = t := by cases op <;> simp_all [Operation.occurredAt, Operation.now]
      have hpos := Nat.pos_of_ne_zero hc.acceptedAt
      rw [hc.validateSnapshot_iff (by rw [hupdated, hop]; exact (Nat.lt_of_lt_of_le hpos hle).ne'),
        hupdated, hop]
      refine iff_of_true hle fun fact hfact => ?_
      rw [Option.some.inj hfact] at hnow
      simp [Operation.now] at hnow
    | none =>
      obtain ⟨fact, rfl⟩ : ∃ fact, op = .applyDeliveryFact fact := by
        cases op <;> simp_all [Operation.now]
      rw [hc.validateSnapshot_iff (by rw [hupdated]; exact Lived.fact_time h hlast), hupdated]
      simp [Operation.occurredAt]

/-- A message accepted at `10` that was sent and then, by its provider's clock, accepted
at `5`. -/
theorem restore_skewed : ∃ calls l, Lived calls l ∧ (commandTimes calls).Pairwise (· ≥ ·) ∧
    (∀ t ∈ commandTimes calls, l.message.acceptedAt ≤ t) ∧ l.message.status = .providerAccepted ∧
    restore l.message.snapshot = .error (.invalidMessage "updated time precedes acceptance") := by
  have h0 : Lived [] ⟨immediateMessage, []⟩ := .start immediate_begins
  have h1 := h0.next (.performed _ (.startSending 1 11))
  have h2 := h1.next (.performed _ (.applyDeliveryFact ⟨.providerAccepted, 5, "id"⟩))
  exact ⟨_, _, h2, by decide, by decide, rfl, rfl⟩

/-- The same with a fact from after the acceptance. -/
theorem restore_iff_later : ∃ calls l, Lived calls l ∧ l.message.status = .providerAccepted ∧
    ∃ m, restore l.message.snapshot = .ok m ∧ m.snapshot = l.message.snapshot := by
  have h0 : Lived [] ⟨immediateMessage, []⟩ := .start immediate_begins
  have h1 := h0.next (.performed _ (.startSending 1 11))
  have h2 := h1.next (.performed _ (.applyDeliveryFact ⟨.providerAccepted, 12, "id"⟩))
  refine ⟨_, _, h2, rfl, (restore_iff h2 (by decide)).2 ?_⟩
  rintro fact ⟨⟩
  decide

end MailService
