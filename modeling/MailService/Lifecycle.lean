import MailService.Message
/-!
# What a transition does

Every transition that the service makes moves a message along one edge of the
state machine, raises its sequence by one and leaves one lifecycle event, plus a
dispatch request when it queues the message (`Moved`). The counters follow from
the status (`Snapshot.Counted`): a generation is opened by queueing, its attempt
by sending, and a message is only queued again after its attempt was spent.
-/

namespace MailService

/-- The lifecycle event of a move from `m` to `m'`. -/
def changedEvent (m m' : Message) (now : Time) (details : EventDetails) : Event where
  kind := .statusChanged
  messageID := m.id
  source := m.status
  target := m'.status
  occurredAt := now
  sequence := m'.latestSequence
  dispatchGeneration := m'.dispatchGeneration
  attemptNumber := m'.attemptCount
  providerMessageID := details.providerMessageID
  reasonCode := details.reasonCode
  failure := details.failure

/-- The dispatch request of a message that was just queued. -/
def dispatchEvent (m : Message) (now : Time) : Event where
  kind := .dispatchRequested
  messageID := m.id
  source := m.status
  target := m.status
  occurredAt := now
  sequence := m.latestSequence
  dispatchGeneration := m.dispatchGeneration
  attemptNumber := m.attemptCount
  providerMessageID := ""
  reasonCode := ""
  failure := .zero

def dispatchEvents (m : Message) (now : Time) : List Event :=
  if m.status = .queued then [dispatchEvent m now] else []

/-- How a move changes the counters. -/
inductive Counts (m m' : Snapshot) : Prop
  | queued (status : m'.status = .queued) (generation : m'.dispatchGeneration = m.dispatchGeneration + 1)
      (attempts : m'.attemptCount = m.attemptCount)
  | started (source : m.status = .queued) (status : m'.status = .sending)
      (generation : m'.dispatchGeneration = m.dispatchGeneration)
      (attempts : m'.attemptCount = m.attemptCount + 1) (limit : m.attemptCount < m.maxAttempts)
  | kept (notQueued : m'.status ≠ .queued) (notSending : m'.status ≠ .sending)
      (generation : m'.dispatchGeneration = m.dispatchGeneration)
      (attempts : m'.attemptCount = m.attemptCount)
      (limit : m'.status = .retryScheduled → m.attemptCount < m.maxAttempts)

/-- What a move leaves as the next attempt's time: a new one for a retry, or the old
one for a message that was and is not to be retried. -/
inductive RetryTime (now : Time) (m m' : Snapshot) : Prop
  | scheduled {t : Time} (status : m'.status = .retryScheduled)
      (next : m'.nextAttemptAt = some t) (future : now < t) (deadline : t < m.dispatchDeadline)
  | cleared (status : m'.status ≠ .retryScheduled) (next : m'.nextAttemptAt = none)
  | untouched (source : m.status ≠ .retryScheduled) (status : m'.status ≠ .retryScheduled)
      (next : m'.nextAttemptAt = m.nextAttemptAt)

/-- One move at `now`. -/
structure Moved (now : Time) (m m' : Message) : Prop where
  id : m'.id = m.id
  scheduledAt : m'.scheduledAt = m.scheduledAt
  dispatchDeadline : m'.dispatchDeadline = m.dispatchDeadline
  maxAttempts : m'.maxAttempts = m.maxAttempts
  version : m'.version = m.version
  acceptedAt : m'.acceptedAt = m.acceptedAt
  updatedAt : m'.updatedAt = now
  sequence : m'.latestSequence = m.latestSequence + 1
  edge : canTransition m.status m'.status = true
  counts : Counts m.toSnapshot m'.toSnapshot
  retryTime : RetryTime now m.toSnapshot m'.toSnapshot
  lastFailure : ∀ f ∈ m'.lastFailure, f ∈ m.lastFailure ∨ f.validate = .ok ()
  events : ∃ details, m'.pendingEvents = m.pendingEvents ++ changedEvent m m' now details ::
    dispatchEvents m' now

namespace Message

variable {m m' : Message} {now nextAttemptAt : Time} {failure : Failure} {generation : Nat}

/-- A transition that neither queues nor starts the message changes only its
status, its failure, its retry time and what is known of the provider. -/
theorem changeStatus_moved {b : Message} {target : Status} {details : EventDetails}
    (hb : b = { m with
      nextAttemptAt := b.nextAttemptAt, lastFailure := b.lastFailure, providerMessageID := b.providerMessageID
      providerAcceptedAt := b.providerAcceptedAt })
    (hk : details.kind = .statusChanged) (hq : target ≠ .queued) (hs : target ≠ .sending)
    (edge : canTransition m.status target = true)
    (limit : target = .retryScheduled → m.attemptCount < m.maxAttempts)
    (retry : RetryTime now m.toSnapshot
      { m.toSnapshot with status := target, nextAttemptAt := b.nextAttemptAt })
    (hf : ∀ f ∈ b.lastFailure, f ∈ m.lastFailure ∨ f.validate = .ok ()) :
    Moved now m (b.changeStatus target now details) := by
  rw [hb]
  exact {
    id := rfl, scheduledAt := rfl, dispatchDeadline := rfl, maxAttempts := rfl,
      version := rfl, acceptedAt := rfl
    updatedAt := rfl, sequence := rfl, edge := edge
    counts := .kept hq hs rfl rfl limit
    retryTime := by
      cases retry with
      | scheduled status next future deadline => exact .scheduled status next future deadline
      | cleared status next => exact .cleared status next
      | untouched source status next => exact .untouched source status next
    lastFailure := hf
    events := ⟨details, by simp [changeStatus, changedEvent, dispatchEvents, hk, hq]⟩ }

theorem queue_moved (h : m.queue now = (m', .ok ())) :
    Moved now m m' ∧ m'.status = .queued ∧ now < m.dispatchDeadline := by
  unfold queue at h
  split at h
  · simp at h
  · rename_i hd
    split at h
    · simp at h
    · rename_i he
      simp only [Prod.mk.injEq, and_true] at h
      subst h
      refine ⟨?_, rfl, not_not.1 hd⟩
      exact {
        id := rfl, scheduledAt := rfl, dispatchDeadline := rfl, maxAttempts := rfl, version := rfl
        acceptedAt := rfl, updatedAt := rfl, sequence := rfl
        edge := by simpa [changeStatus, requestDispatch] using he
        counts := .queued rfl rfl rfl
        retryTime := .cleared (by simp [changeStatus, requestDispatch]) rfl
        lastFailure := fun _ hf => .inl hf
        events := ⟨{ kind := .statusChanged }, by
          simp [changeStatus, requestDispatch, changedEvent, dispatchEvents, dispatchEvent]⟩ }

theorem startSending_moved (h : m.startSending generation now = (m', .ok ())) :
    Moved now m m' ∧ m.status = .queued ∧ m'.status = .sending ∧ generation = m.dispatchGeneration ∧
      now < m.dispatchDeadline ∧ m.attemptCount < m.maxAttempts := by
  unfold startSending at h
  split at h
  · simp at h
  split at h
  · simp at h
  split at h
  · simp at h
  split at h
  · simp at h
  rename_i hst hg hd hl
  simp only [Prod.mk.injEq, and_true] at h
  subst h
  rw [not_not] at hst hg hd
  have hl' : m.attemptCount < m.maxAttempts := Nat.lt_of_not_le hl
  refine ⟨?_, hst, rfl, hg, hd, hl'⟩
  exact {
    id := rfl, scheduledAt := rfl, dispatchDeadline := rfl, maxAttempts := rfl, version := rfl
    acceptedAt := rfl, updatedAt := rfl, sequence := rfl
    edge := by simp [changeStatus, hst, canTransition, oneOf]
    counts := .started hst rfl rfl rfl hl'
    retryTime := .untouched (by simp [hst]) (by simp [changeStatus]) rfl
    lastFailure := fun _ hf => .inl hf
    events := ⟨{ kind := .statusChanged }, by simp [changeStatus, changedEvent, dispatchEvents]⟩ }

theorem startSending_succeeds (hs : m.status = .queued) (hd : now < m.dispatchDeadline)
    (hl : m.attemptCount < m.maxAttempts) : ∃ m', m.startSending m.dispatchGeneration now = (m', .ok ()) := by
  unfold startSending
  rw [if_neg (not_not.2 hs), if_neg (not_not.2 rfl), if_neg (not_not.2 hd), if_neg (Nat.not_le.2 hl)]
  exact ⟨_, rfl⟩

/-- The statuses that a message can be canceled or expired in lead to both. -/
theorem waiting_edges {s : Status} (h : oneOf s [.accepted, .scheduled, .queued, .retryScheduled] = true) :
    canTransition s .canceled = true ∧ canTransition s .expired = true := by
  simp only [oneOf, List.contains_eq_mem, List.mem_cons, List.not_mem_nil, or_false, decide_eq_true_eq] at h
  rcases h with rfl | rfl | rfl | rfl <;> simp [canTransition, oneOf]

theorem cancel_moved {reasonCode : String} (h : m.cancel reasonCode now = (m', .ok true)) :
    Moved now m m' ∧ m'.status = .canceled := by
  unfold cancel at h
  split at h
  · simp at h
  split at h
  · simp at h
  split at h
  · simp at h
  rename_i _ ho _
  simp only [Prod.mk.injEq, and_true] at h
  subst h
  exact ⟨changeStatus_moved rfl rfl (by decide) (by decide) (waiting_edges (by simpa using ho)).1 (by simp)
    (.cleared (by simp) rfl) (fun _ hf => .inl hf), rfl⟩

theorem expire_moved (h : m.expire now = (m', .ok true)) :
    Moved now m m' ∧ m'.status = .expired ∧ oneOf m.status [.accepted, .scheduled, .queued, .retryScheduled] ∧
      m.dispatchDeadline ≤ now := by
  unfold expire at h
  split at h
  · simp at h
  split at h
  · simp at h
  split at h
  · simp at h
  rename_i _ hd ho
  simp only [Prod.mk.injEq, and_true] at h
  subst h
  have ho' : oneOf m.status [.accepted, .scheduled, .queued, .retryScheduled] = true := by simpa using ho
  refine ⟨?_, rfl, ho', Nat.le_of_not_lt hd⟩
  exact changeStatus_moved rfl rfl (by decide) (by decide) (waiting_edges ho').2 (by simp)
    (.cleared (by simp) rfl) (fun _ hf => .inl hf)

theorem oneOf_pair {s a b : Status} (h : oneOf s [a, b] = true) : s = a ∨ s = b := by
  simpa [oneOf] using h

theorem scheduleRetry_moved (h : m.scheduleRetry failure nextAttemptAt now = (m', .ok ())) :
    Moved now m m' ∧ m'.status = .retryScheduled ∧ failure.retryable = true := by
  unfold scheduleRetry at h
  split at h
  · simp at h
  rename_i hs
  split at h
  · simp at h
  rename_i hf
  split at h
  · simp at h
  split at h
  · simp at h
  split at h
  · simp at h
  rename_i hr hl ht
  simp only [Prod.mk.injEq, and_true] at h
  subst h
  rw [not_or, not_not, not_not] at ht
  have edge : canTransition m.status .retryScheduled = true := by
    rcases oneOf_pair (by simpa using hs) with hs | hs <;> simp [hs, canTransition, oneOf]
  refine ⟨changeStatus_moved rfl rfl (by decide) (by decide) edge (fun _ => Nat.lt_of_not_le hl)
    (.scheduled rfl rfl ht.1 ht.2) ?_, rfl, by simpa using hr⟩
  rintro f ⟨⟩
  exact .inr hf

theorem markSubmissionUnknown_moved (h : m.markSubmissionUnknown failure now = (m', .ok ())) :
    Moved now m m' ∧ m'.status = .submissionUnknown := by
  unfold markSubmissionUnknown at h
  split at h
  · simp at h
  rename_i hs
  split at h
  · simp at h
  rename_i hf
  split at h
  · simp at h
  simp only [Prod.mk.injEq, and_true] at h
  subst h
  rw [not_not] at hs
  refine ⟨changeStatus_moved rfl rfl (by decide) (by decide) (by simp [hs, canTransition, oneOf]) (by simp)
    (.untouched (by simp [hs]) (by simp) rfl) ?_, rfl⟩
  rintro f ⟨⟩
  exact .inr hf

theorem markUnknownFinal_moved (h : m.markUnknownFinal failure now = (m', .ok ())) :
    Moved now m m' ∧ m'.status = .unknownFinal := by
  unfold markUnknownFinal at h
  split at h
  · simp at h
  rename_i hs
  split at h
  · simp at h
  rename_i hf
  simp only [Prod.mk.injEq, and_true] at h
  subst h
  rw [not_not] at hs
  refine ⟨changeStatus_moved rfl rfl (by decide) (by decide) (by simp [hs, canTransition, oneOf]) (by simp)
    (.untouched (by simp [hs]) (by simp) rfl) ?_, rfl⟩
  rintro f ⟨⟩
  exact .inr hf

theorem markPermanentlyFailed_moved (h : m.markPermanentlyFailed failure now = (m', .ok ())) :
    Moved now m m' ∧ m'.status = .permanentlyFailed := by
  unfold markPermanentlyFailed at h
  split at h
  · simp at h
  rename_i hs
  split at h
  · simp at h
  rename_i hf
  simp only [Prod.mk.injEq, and_true] at h
  subst h
  have edge : canTransition m.status .permanentlyFailed = true := by
    rcases oneOf_pair (by simpa using hs) with hs | hs <;> simp [hs, canTransition, oneOf]
  refine ⟨changeStatus_moved rfl rfl (by decide) (by decide) edge (by simp) (.cleared (by simp) rfl) ?_, rfl⟩
  rintro f ⟨⟩
  exact .inr hf

theorem markDeadLettered_moved (h : m.markDeadLettered failure now = (m', .ok ())) :
    Moved now m m' ∧ m'.status = .deadLettered := by
  unfold markDeadLettered at h
  split at h
  · simp at h
  rename_i hs
  split at h
  · simp at h
  rename_i hf
  simp only [Prod.mk.injEq, and_true] at h
  subst h
  have edge : canTransition m.status .deadLettered = true := by
    rcases oneOf_pair (by simpa using hs) with hs | hs <;> simp [hs, canTransition, oneOf]
  refine ⟨changeStatus_moved rfl rfl (by decide) (by decide) edge (by simp) (.cleared (by simp) rfl) ?_, rfl⟩
  rintro f ⟨⟩
  exact .inr hf

theorem applyDeliveryFact_applied {fact : DeliveryFact} (h : m.applyDeliveryFact fact = (m', .ok .applied)) :
    Moved fact.occurredAt m m' ∧ deliveryFactTarget fact.kind = some m'.status ∧ fact.occurredAt ≠ 0 := by
  unfold applyDeliveryFact at h
  split at h
  · simp at h
  rename_i hz
  split at h
  · simp at h
  rename_i target htarget
  split at h
  · simp at h
  split at h
  · simp at h
  split at h
  · simp at h
  rename_i hedge
  simp only [Prod.mk.injEq, and_true] at h
  subst h
  have hne : target ≠ .queued ∧ target ≠ .sending ∧ target ≠ .retryScheduled := by
    cases hk : fact.kind <;> simp [deliveryFactTarget, hk] at htarget <;> simp [← htarget]
  refine ⟨changeStatus_moved (by simp) rfl hne.1 hne.2.1 (by simpa using hedge) (fun h => absurd h hne.2.2)
    (.cleared hne.2.2 rfl) ?_, htarget, hz⟩
  simp

theorem applyDeliveryFact_moved {providerMessageID : String} {result : ApplyResult} (hs : m.status = .sending)
    (h : m.applyDeliveryFact ⟨.providerAccepted, now, providerMessageID⟩ = (m', .ok result)) :
    Moved now m m' ∧ m'.status = .providerAccepted := by
  -- a message in SENDING has not been accepted, and being accepted is no step back
  have happlied : result = .applied := by
    unfold applyDeliveryFact at h
    split at h
    · simp at h
    simp only [deliveryFactTarget, hs, reduceCtorEq, if_false, observationWouldRegress, canTransition, oneOf,
      List.contains_cons, BEq.rfl, Bool.true_or, Bool.or_true, Bool.not_true, Prod.mk.injEq] at h
    simpa using h.2.symm
  subst happlied
  obtain ⟨hm, htarget, -⟩ := applyDeliveryFact_applied h
  exact ⟨hm, (Option.some.inj htarget).symm⟩

end Message

/-! ## Counters -/

/-- What the status says about the counters: the generation that is open, the
attempts made so far, and how many events can have led here. -/
def CountedFor (status : Status) (generation attempts sequence maxAttempts : Nat) : Prop :=
  match status with
  | .accepted => generation = 0 ∧ attempts = 0 ∧ sequence ≤ 1
  | .scheduled => generation = 0 ∧ attempts = 0 ∧ sequence ≤ 2
  | .queued => generation = attempts + 1 ∧ sequence + 1 ≤ 4 * generation
  | .sending => generation = attempts ∧ 0 < attempts ∧ sequence ≤ 4 * generation
  | .submissionUnknown => generation = attempts ∧ 0 < attempts ∧ sequence ≤ 4 * generation + 1
  | .retryScheduled => generation = attempts ∧ 0 < attempts ∧ attempts < maxAttempts ∧
      sequence ≤ 4 * generation + 2
  | .providerAccepted | .permanentlyFailed | .unknownFinal =>
    generation = attempts ∧ 0 < attempts ∧ sequence ≤ 4 * generation + 2
  | .delivered | .bounced | .deadLettered => generation = attempts ∧ 0 < attempts ∧
      sequence ≤ 4 * generation + 3
  | .complained => generation = attempts ∧ 0 < attempts ∧ sequence ≤ 4 * generation + 4
  | .canceled | .expired => attempts ≤ generation ∧ generation ≤ attempts + 1 ∧ sequence ≤ 4 * generation + 3
  | .unknown _ => False

structure Snapshot.Accounted (s : Snapshot) : Prop where
  byStatus : CountedFor s.status s.dispatchGeneration s.attemptCount s.latestSequence s.maxAttempts
  generation_le : s.dispatchGeneration ≤ s.maxAttempts
  maxAttempts_pos : 0 < s.maxAttempts
  sequence_pos : 0 < s.latestSequence

/-- The counters of a message that was submitted: no category allows more than ten
attempts. -/
structure Snapshot.Counted (s : Snapshot) : Prop extends Snapshot.Accounted s where
  maxAttempts_le : s.maxAttempts ≤ 10

theorem queued_source {a : Status} (h : canTransition a .queued = true) :
    a = .accepted ∨ a = .scheduled ∨ a = .retryScheduled := by
  cases a <;> simp [canTransition, oneOf] at h ⊢

theorem valid_of_edge {a b : Status} (h : canTransition a b = true) : a.valid = true ∧ b.valid = true := by
  cases a <;> cases b <;> first | exact ⟨rfl, rfl⟩ | simp [canTransition, oneOf] at h

/-- A status is terminal when no edge leads on from it. -/
theorem Status.terminal_iff {s : Status} (h : s.valid = true) :
    s.terminal = true ↔ ∀ target, canTransition s target = false := by
  cases s with
  | unknown => simp [valid] at h
  | _ =>
    constructor
    · intro ht target
      cases target <;> simp_all [terminal, canTransition]
    · intro hn
      simp only [canTransition, oneOf] at hn
      first
      | rfl
      | exact absurd (hn .canceled) (by decide)
      | exact absurd (hn .complained) (by decide)

/-- A move that opens no generation and starts no attempt. -/
theorem countedFor_kept {a b : Status} {generation attempts sequence maxAttempts : Nat}
    (edge : canTransition a b = true) (hq : b ≠ .queued) (hs : b ≠ .sending)
    (limit : b = .retryScheduled → attempts < maxAttempts)
    (h : CountedFor a generation attempts sequence maxAttempts) :
    CountedFor b generation attempts (sequence + 1) maxAttempts := by
  cases a <;> cases b <;> simp_all [canTransition, oneOf, CountedFor] <;> omega

theorem Moved.accounted {now : Time} {m m' : Message} (h : Moved now m m') (hc : m.toSnapshot.Accounted) :
    m'.toSnapshot.Accounted := by
  have hb := hc.byStatus
  have hg := hc.generation_le
  have hm := h.maxAttempts
  have hseq := h.sequence
  refine ⟨?_, ?_, hm ▸ hc.maxAttempts_pos, by omega⟩
  · cases h.counts with
    | queued status generation attempts =>
      have edge := h.edge
      rw [status] at edge
      rw [status, generation, attempts, hseq]
      rcases queued_source edge with hs | hs |
        hs <;> rw [hs] at hb <;> simp only [CountedFor] at hb ⊢ <;> omega
    | started source status generation attempts limit =>
      rw [source] at hb
      rw [status, generation, attempts, hseq]
      simp only [CountedFor] at hb ⊢
      omega
    | kept notQueued notSending generation attempts limit =>
      rw [generation, attempts, hseq, hm]
      exact countedFor_kept h.edge notQueued notSending limit hb
  · cases h.counts with
    | queued status generation attempts =>
      have edge := h.edge
      rw [status] at edge
      have hp := hc.maxAttempts_pos
      rw [generation, hm]
      rcases queued_source edge with hs | hs | hs <;> rw [hs] at hb <;> simp only [CountedFor] at hb <;> omega
    | started source status generation attempts limit => rw [generation, hm]; exact hg
    | kept notQueued notSending generation attempts limit => rw [generation, hm]; exact hg

theorem Moved.counted {now : Time} {m m' : Message} (h : Moved now m m') (hc : m.toSnapshot.Counted) :
    m'.toSnapshot.Counted where
  toAccounted := h.accounted hc.toAccounted
  maxAttempts_le := by
    rw [h.maxAttempts]
    exact hc.maxAttempts_le

namespace Snapshot.Accounted

variable {s : Snapshot}

theorem attempts_le (h : s.Accounted) : s.attemptCount ≤ s.maxAttempts := by
  have hg := h.generation_le
  have hb := h.byStatus
  unfold CountedFor at hb
  split at hb <;> first | exact hb.elim | omega

theorem attempts_le_generation (h : s.Accounted) : s.attemptCount ≤ s.dispatchGeneration := by
  have hb := h.byStatus
  unfold CountedFor at hb
  split at hb <;> first | exact hb.elim | omega

/-- A message is queued, retried or expired a bounded number of times. -/
theorem sequence_le (h : s.Accounted) : s.latestSequence ≤ 4 * s.dispatchGeneration + 4 := by
  have hb := h.byStatus
  unfold CountedFor at hb
  split at hb <;> first | exact hb.elim | omega

end Snapshot.Accounted

/-! ## Rehydration -/

/-- What `Restore` accepts. -/
structure Snapshot.Valid (s : Snapshot) : Prop where
  id : Text.trimSpace s.id ≠ ""
  status : s.status.valid = true
  times : s.acceptedAt ≠ 0 ∧ s.updatedAt ≠ 0 ∧ s.dispatchDeadline ≠ 0
  deadline : s.acceptedAt < s.dispatchDeadline
  updatedAt : s.acceptedAt ≤ s.updatedAt
  attempts : s.maxAttempts ≠ 0 ∧ s.attemptCount ≤ s.maxAttempts
  scheduledAt : ∀ t ∈ s.scheduledAt, t < s.dispatchDeadline
  nextAttemptAt : ∀ t ∈ s.nextAttemptAt, t < s.dispatchDeadline
  generation : requiresDispatchGeneration s.status = true → s.dispatchGeneration ≠ 0
  attempted : requiresAttempt s.status = true → s.attemptCount ≠ 0
  retry : s.status = .retryScheduled → s.nextAttemptAt ≠ none
  sequence : s.latestSequence ≠ 0
  lastFailure : ∀ f ∈ s.lastFailure, f.validate = .ok ()

theorem validateSnapshot_eq_ok {s : Snapshot} : validateSnapshot s = .ok () ↔ s.Valid := by
  have hbefore (t : Option Time) : t.any (fun value => !decide (value < s.dispatchDeadline)) = true ↔
      ¬ ∀ v ∈ t, v < s.dispatchDeadline := by
    cases t <;> simp
  have hguard (c : Prop) [Decidable c] (e : MessageError) (x : Except MessageError Unit) :
      (if c then .error e else x) = .ok () ↔ ¬ c ∧ x = .ok () := by
    split <;> simp_all
  simp only [validateSnapshot, hguard, hbefore, not_not, not_or, not_lt, not_le,
    Bool.and_eq_true, Bool.not_eq_true', Bool.not_eq_false, beq_iff_eq,
    Option.isNone_iff_eq_none, not_and, ← ne_eq]
  constructor
  · rintro ⟨h1, h2, h3, h4, h5, h6, h7, h8, h9, h10, h11, h12, h13⟩
    refine ⟨h1, h2, h3, h4, h5, h6, h7, h8, h9, h10, h11, h12, fun f hf => ?_⟩
    simpa [Option.mem_def.1 hf] using h13
  · intro h
    refine ⟨h.id, h.status, h.times, h.deadline, h.updatedAt, h.attempts, h.scheduledAt,
      h.nextAttemptAt, h.generation, h.attempted, h.retry, h.sequence, ?_⟩
    cases hf : s.lastFailure with
    | none => rfl
    | some failure => exact h.lastFailure failure hf

/-! ## Creation -/

/-- A message at the moment of its acceptance, before it is routed. -/
def acceptedMessage (params : NewParams) : Message where
  id := params.id
  status := .accepted
  scheduledAt := params.scheduledAt
  dispatchDeadline := params.dispatchDeadline
  nextAttemptAt := none
  attemptCount := 0
  maxAttempts := params.maxAttempts
  dispatchGeneration := 0
  providerAcceptedAt := none
  providerMessageID := ""
  latestSequence := 1
  version := 0
  acceptedAt := params.now
  updatedAt := params.now
  lastFailure := none
  pendingEvents := [{
    kind := .messageAccepted, messageID := params.id, source := .unknown "", target := .accepted
    occurredAt := params.now, sequence := 1, dispatchGeneration := 0, attemptNumber := 0,
      providerMessageID := ""
    reasonCode := "", failure := .zero }]

/-- The message after it was queued at once. -/
def queuedMessage (params : NewParams) : Message :=
  (({ acceptedMessage params with dispatchGeneration := 1 }).changeStatus .queued params.now
    { kind := .statusChanged }).requestDispatch params.now

theorem acceptedMessage_queue {params : NewParams} (h : params.now < params.dispatchDeadline) :
    (acceptedMessage params).queue params.now = (queuedMessage params, .ok ()) := by
  have hdeadline : ¬ ¬ params.now < (acceptedMessage params).dispatchDeadline := not_not.2 h
  have hedge : ¬ (!canTransition .accepted .queued) = true := by decide
  rw [Message.queue, if_neg hdeadline]
  exact if_neg hedge

/-- The message that `New` returns: accepted, and then scheduled or queued. -/
def routedMessage (params : NewParams) : Message :=
  if params.scheduledAt.any (params.now < ·) then
    (acceptedMessage params).changeStatus .scheduled params.now { kind := .statusChanged }
  else queuedMessage params

/-- What `New` checks of its parameters. -/
structure NewParams.Valid (params : NewParams) : Prop where
  id : Text.trimSpace params.id ≠ ""
  now : params.now ≠ 0
  deadline : params.now < params.dispatchDeadline
  maxAttempts : params.maxAttempts ≠ 0
  scheduledAt : ∀ t ∈ params.scheduledAt, t < params.dispatchDeadline

theorem Message.new_eq_ok {params : NewParams} {m : Message} :
    Message.new params = .ok m ↔ params.Valid ∧ m = routedMessage params := by
  have hguard (c : Prop) [Decidable c] (e : MessageError) (x : Except MessageError Message) :
      (if c then .error e else x) = .ok m ↔ ¬ c ∧ x = .ok m := by
    split <;> simp_all
  have hbefore : params.scheduledAt.any (fun value => !decide (value < params.dispatchDeadline)) = true ↔
      ¬ ∀ t ∈ params.scheduledAt, t < params.dispatchDeadline := by
    cases params.scheduledAt <;> simp
  simp only [Message.new, hguard, hbefore, not_not, not_or]
  constructor
  · rintro ⟨hid, ⟨hnow, -⟩, hdeadline, hmax, hscheduled, hrouted⟩
    refine ⟨⟨hid, hnow, hdeadline, hmax, hscheduled⟩, ?_⟩
    erw [acceptedMessage_queue hdeadline] at hrouted
    unfold routedMessage
    split at hrouted
    · rename_i hlater
      rw [if_pos hlater]
      exact (Except.ok.inj hrouted).symm
    · rename_i hdue
      rw [if_neg hdue]
      exact (Except.ok.inj hrouted).symm
  · rintro ⟨h, rfl⟩
    refine ⟨h.id, ⟨h.now, Nat.ne_of_gt (Nat.zero_lt_of_lt h.deadline)⟩, h.deadline,
      h.maxAttempts, h.scheduledAt, ?_⟩
    erw [acceptedMessage_queue h.deadline]
    unfold routedMessage
    split <;> rfl

/-- `New` accepts the message and moves it once, to SCHEDULED or to QUEUED. -/
theorem Message.new_moved {params : NewParams} {m : Message} (h : Message.new params = .ok m) :
    Moved params.now (acceptedMessage params) m ∧ (m.status = .scheduled ∨ m.status = .queued) ∧
      params.now < params.dispatchDeadline ∧ params.now ≠ 0 ∧ params.maxAttempts ≠ 0 := by
  obtain ⟨hvalid, rfl⟩ := Message.new_eq_ok.1 h
  -- the two routes differ in the move that follows the acceptance
  unfold routedMessage
  split
  · exact ⟨changeStatus_moved (m := acceptedMessage params) rfl rfl (by decide) (by decide) rfl (by simp)
      (.cleared (by simp) rfl) (fun _ hf => .inl hf), .inl rfl, hvalid.deadline,
        hvalid.now, hvalid.maxAttempts⟩
  · obtain ⟨hmoved, hs, -⟩ := queue_moved (acceptedMessage_queue hvalid.deadline)
    exact ⟨hmoved, .inr hs, hvalid.deadline, hvalid.now, hvalid.maxAttempts⟩

theorem acceptedMessage_accounted {params : NewParams} (h : params.maxAttempts ≠ 0) :
    (acceptedMessage params).toSnapshot.Accounted :=
  ⟨⟨rfl, rfl, Nat.le_refl 1⟩, Nat.zero_le _, Nat.pos_of_ne_zero h, Nat.one_pos⟩

theorem acceptedMessage_counted {params : NewParams} (h : params.maxAttempts ≠ 0)
    (h' : params.maxAttempts ≤ 10) :
    (acceptedMessage params).toSnapshot.Counted :=
  ⟨acceptedMessage_accounted h, h'⟩

end MailService
