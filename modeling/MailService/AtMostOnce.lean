import MailService.Dispatching
import MailService.ProviderCalls
/-!
# The provider is called at most once per generation

Every call of `Submit` follows a committed claim of its own, and a second call for
the same message follows a finalized retryable failure of the first.
-/
open Runs Checks Table

namespace MailService

open Db

variable {E : Env} {s s' : System} {c c₀ : DispatchClaim} {h older oldest between : History} {i i₀ : Nat}
  {request request₀ : ProviderRequest}

/-- The generation of a call of `Submit` for the message, if the entry is one. -/
def submittedGeneration (messageID : String) : Action × System → Option Nat
  | (.callSubmit _ c request, _) =>
    if c.record.message.id = messageID then some request.dispatchGeneration else none
  | _ => none

/-- The generations that `Submit` was called for, newest first. -/
def submitted (messageID : String) (h : History) : List Nat := h.filterMap (submittedGeneration messageID)

/-- The only result after which a message is sent again. -/
def ProviderResult.RetryableFailure (r : ProviderResult) : Prop :=
  r.outcome = .failed ∧ ∃ f ∈ r.failure, f.retryable = true

/-- The message is SENDING and the attempt of the claim STARTED before the deadline. -/
def DispatchClaim.CommittedIn (c : DispatchClaim) (db : Db) : Prop :=
  ∃ r ∈ db.messages, ∃ a, c.HeldIn db a ∧ a.messageID = r.snapshot.id ∧ r.snapshot.status = .sending ∧
    a.status = .started ∧ a.startedAt < r.snapshot.dispatchDeadline

theorem mem_submitted {messageID : String} {g : Nat} : g ∈ submitted messageID h ↔ ∃ i c request s,
    (.callSubmit i c request, s) ∈ h ∧ c.record.message.id = messageID ∧ request.dispatchGeneration = g := by
  simp only [submitted, List.mem_filterMap]
  constructor
  · rintro ⟨⟨action, s⟩, he, hg⟩
    cases action with
    | callSubmit i c request =>
      simp only [submittedGeneration, Option.ite_none_right_eq_some, Option.some.injEq] at hg
      exact ⟨i, c, request, s, he, hg⟩
    | _ => simp [submittedGeneration] at hg
  · rintro ⟨i, c, request, s, he, hid, hg⟩
    exact ⟨_, he, by simp [submittedGeneration, hid, hg]⟩

/-! ## The claim before a call -/

theorem prepareRequest_generation {built : Except MaterialError DeliveryMaterial}
    (h : prepareRequest c built = .ok request) :
    request.dispatchGeneration = c.attempt.dispatchGeneration := by
  unfold prepareRequest at h
  split at h
  · simp at h
  · split at h
    · simp at h
    · split at h
      · simp at h
      · obtain rfl := Except.ok.inj h
        rfl

/-- A call is made by a lane that holds a claim and has done nothing else with it. -/
theorem Step.call (h : Step E s (.callSubmit i c request) s') :
    (s.lanes i).progress = some (c, .claimed) ∧ (∃ d, s.lanes i = .holds d (.claimed c)) ∧
      request.dispatchGeneration = c.attempt.dispatchGeneration := by
  cases h with
  | callSubmit hlane hbuilt => exact ⟨progress_holds hlane, ⟨_, hlane⟩, prepareRequest_generation hbuilt⟩

theorem Advance.updated_deadline {L : Libs} {now : Time} {db db' : Db} {r : MessageRow} {m : Message}
    (h : Advance L now db r m db') (hs : r.SoundIn db) :
    (updatedRow r m.toSnapshot).snapshot.dispatchDeadline = r.snapshot.dispatchDeadline := by
  have hd : truncate r.snapshot.dispatchDeadline = r.snapshot.dispatchDeadline :=
    congrArg Snapshot.dispatchDeadline hs.stored
  change truncate m.dispatchDeadline = _
  rw [h.moved.dispatchDeadline]
  exact hd

/-- What a claim that started an attempt committed. -/
theorem Step.claim_committed {reported : Bool}
    (h : Step E s (.claim i (.started c) reported) s') (hs : s.Ok E) :
    c.CommittedIn s'.db := by
  cases h with
  | @claim _ d command read now providerKey attemptID db' _ _ hlane _ h =>
    obtain ⟨-, hl⟩ := hs.lanes _ _ _ hlane
    obtain ⟨r, -, hid, -, -, heffect⟩ := claim_effect hs.sound.keyed hl h
    obtain ⟨a, ha, hmessage, hstarted, hat⟩ := heffect.held hid
    cases heffect with
    | started _ _ status _ deadline advance =>
      refine ⟨_, advance.updated_mem, a, ha, hmessage, status, hstarted, ?_⟩
      rw [advance.updated_deadline (hs.sound.rows r advance.mem), hat]
      exact lt_of_le_of_lt (truncate_le now) deadline

/-- Before a call, its claim was committed. -/
theorem Reached.call_claimed (hr : Reached E older s) (hstep : Step E s (.callSubmit i c request) s') :
    ∃ s₀, (.claim i (.started c) true, s₀) ∈ older ∧ c.CommittedIn s₀.db := by
  obtain ⟨s₀, hmem⟩ := (Reached.tracked hr).claimed i c _ hstep.call.1
  obtain ⟨newer, before, rfl⟩ := List.append_of_mem hmem
  obtain ⟨s₁, hr₁, hclaim, -⟩ := hr.split
  exact ⟨s₀, hmem, hclaim.claim_committed (Reached.ok hr₁)⟩

/-! ## The call before a call -/

/-- The attempt of the claim that a lane is about to send is STARTED. -/
theorem Reached.held_started (hr : Reached E h s) {p : Progress} {a : AttemptRow}
    (hp : (s.lanes i).progress = some (c, p)) (ha : c.HeldIn s.db a) : a.status = .started := by
  obtain ⟨b, hb, hid, hst⟩ := (Reached.tracked hr).started i c p hp
  have : b = a := List.inj_on_of_nodup_map (Reached.ok hr).sound.keyed.attemptIDs hb ha.mem
    (hid.trans ha.id.symm)
  exact this ▸ hst

/-- The row of the message that a claim is for. -/
theorem Sound.message_of {L : Libs} {ids : Set Uuid} {db : Db} {a : AttemptRow} (hs : Sound L ids db)
    (ha : c.HeldIn db a) :
    ∃ r ∈ db.messages, r.snapshot.id = c.record.message.id ∧ a ∈ db.attemptsOf r.snapshot.id := by
  obtain ⟨r, hr, hid⟩ := hs.keyed.attempts a ha.mem
  refine ⟨r, hr, hid.trans ha.record.symm, ?_⟩
  simp [Db.attemptsOf, ha.mem, hid]

/-- Of two claims of one message, the one whose attempt is STARTED has the later
generation, and the attempt of the other is FAILED and may be retried. -/
theorem Sound.earlier {L : Libs} {ids : Set Uuid} {db : Db} {a a₀ : AttemptRow} (hs : Sound L ids db)
    (ha : c.HeldIn db a) (ha₀ : c₀.HeldIn db a₀) (hst : a.status = .started)
    (hne : c₀.attempt.id ≠ c.attempt.id) (hmessage : c₀.record.message.id = c.record.message.id) :
    c₀.attempt.dispatchGeneration < c.attempt.dispatchGeneration ∧ a₀.status = .failed ∧
      ∃ f ∈ a₀.failure, f.retryable = true := by
  obtain ⟨r, hr, hid, hmem⟩ := hs.message_of ha
  have hledger := (hs.rows r hr).ledger
  have hmem₀ : a₀ ∈ db.attemptsOf r.snapshot.id := by
    simp [Db.attemptsOf, ha₀.mem, hid, ← hmessage, ha₀.record]
  have hneq : a₀ ≠ a := fun he => hne (by rw [← ha₀.id, ← ha.id, he])
  have hlast := ((hledger.started a hmem).1 hst).2
  obtain ⟨hg, -, -⟩ := hledger.mem_numbers hmem
  obtain ⟨hg₀, -, hle⟩ := hledger.mem_numbers hmem₀
  have hno : a₀.attemptNo ≠ a.attemptNo := fun he => hneq (hledger.inj hmem₀ hmem he)
  have hlt : a₀.attemptNo < r.snapshot.attemptCount := by omega
  refine ⟨?_, hledger.retried a₀ hmem₀ (.inl hlt)⟩
  rw [← ha₀.generation, ← ha.generation]
  omega

/-- A call in the history, seen from a later state: nothing was known of its attempt before it, and
the attempt is still there. -/
theorem Reached.call_before (hr : Reached E (between ++ (.callSubmit i₀ c₀ request₀, s') :: oldest) s) :
    (∀ e ∈ oldest, e.1.attempt ≠ some c₀.attempt.id) ∧ (∃ a₀, c₀.HeldIn s.db a₀) ∧
      (∃ e ∈ oldest, e.1.starts = some c₀) ∧ request₀.dispatchGeneration = c₀.attempt.dispatchGeneration := by
  obtain ⟨s₁, hr₁, hstep, -⟩ := hr.split
  obtain ⟨hp, ⟨d, hlane⟩, hgeneration⟩ := hstep.call
  have hheld : ∃ a, c₀.HeldIn s₁.db a := (Reached.ok hr₁).lanes _ _ _ hlane
  obtain ⟨a, ha⟩ := hheld
  obtain ⟨a', ha', -⟩ := ha.later (hstep.evolves (Reached.ok hr₁)).later
  obtain ⟨a'', ha'', -⟩ := ha'.later (Reached.later hr)
  obtain ⟨s₂, hclaim⟩ := (Reached.tracked hr₁).claimed _ _ _ hp
  exact ⟨(Reached.tracked hr₁).told _ _ _ hp, ⟨a'', ha''⟩, ⟨_, hclaim, rfl⟩, hgeneration⟩

/-- The claim that a finalized entry is for was started in the history. -/
theorem Reached.finalize_claim {reported : Bool} {result : ProviderResult} (hr : Reached E h s)
    (hmem : (.finalize i c result reported, s') ∈ h) : ∃ e ∈ h, e.1.starts = some c := by
  obtain ⟨newer, before, rfl⟩ := List.append_of_mem hmem
  obtain ⟨s₁, hr₁, hstep, -⟩ := hr.split
  cases hstep with
  | finalize hlane =>
    obtain ⟨s₂, hclaim⟩ := (Reached.tracked hr₁).claimed _ _ _ (progress_holds hlane)
    exact ⟨_, List.mem_append_right _ (List.mem_cons_of_mem _ hclaim), rfl⟩

theorem observeResult_failed {returned result : ProviderResult} {contextError : Option ContextError}
    (h : observeResult returned contextError = .ok result) (hf : result.outcome = .failed) :
    returned = result := by
  unfold observeResult at h
  split at h
  · exact Except.ok.inj h
  · simp at h
  · obtain rfl := Except.ok.inj h
    simp at hf

/-- An attempt that a call was made for and that is FAILED was finalized, after the call, with the
result that the call returned. -/
theorem Reached.failed_call {a₀ : AttemptRow}
    (hr : Reached E (between ++ (.callSubmit i₀ c₀ request₀, s') :: oldest) s)
    (ha₀ : c₀.HeldIn s.db a₀) (hfailed : a₀.status = .failed) : ∃ result : ProviderResult,
      result.outcome = .failed ∧ a₀.failure = result.failure ∧
      (∃ j s₁, (.submitReturned j c₀ result, s₁) ∈ between) ∧
      ∃ j reported s₁, (.finalize j c₀ result reported, s₁) ∈ between ∧ c₀.HeldIn s₁.db a₀ := by
  have ht := Reached.tracked hr
  obtain ⟨hnone, -, ⟨e₀, he₀, hstarts₀⟩, -⟩ := Reached.call_before hr
  obtain ⟨j, c₁, result, reported, s₁, hmem, hid, hs₁, ⟨-, hshows⟩, hanswered⟩ :=
    ht.finished a₀ ha₀.mem (by simp [hfailed])
  obtain ⟨e₁, he₁, hstarts₁⟩ := Reached.finalize_claim hr hmem
  obtain rfl : c₁ = c₀ := ht.single e₁ he₁ e₀ (by simp [he₀]) c₁ c₀ hstarts₁ hstarts₀ (hid.trans ha₀.id)
  obtain ⟨houtcome, hfailure⟩ := hshows hfailed
  -- what the history says about the attempt came after the call
  have hafter : ∀ action t, action.attempt = some c₁.attempt.id →
    (∀ k request, action ≠ .callSubmit k c₁ request) →
      (action, t) ∈ between ++ (.callSubmit i₀ c₁ request₀, s') :: oldest → (action, t) ∈ between := by
    intro action t hattempt hcall hmem
    rcases List.mem_append.1 hmem with hmem | hmem
    · exact hmem
    · rcases List.mem_cons.1 hmem with heq | hmem
      · exact absurd (Prod.mk.inj heq).1 (hcall _ _)
      · exact absurd hattempt (hnone _ hmem)
  refine ⟨result, houtcome, hfailure, ?_, j, reported, s₁, hafter _ _ rfl (by simp) hmem,
    ⟨hs₁, ha₀.id, ha₀.canonical, ha₀.messageID, ha₀.record, ha₀.attemptNo, ha₀.generation, ha₀.startedAt⟩⟩
  rcases hanswered with hno | ⟨k, returned, contextError, s₂, hreturned, hobs⟩
  · exact absurd rfl (hno (_, s') (by simp) i₀ c₁ request₀ rfl)
  · obtain rfl := observeResult_failed hobs houtcome
    exact ⟨k, s₂, hafter _ _ rfl (by simp) hreturned⟩

/-- A call and an earlier one for the same message. -/
theorem Reached.call_again
    (hr : Reached E (between ++ (.callSubmit i₀ c₀ request₀, s') :: oldest) s) {s'' : System}
    (hstep : Step E s (.callSubmit i c request) s'') (hmessage : c₀.record.message.id = c.record.message.id) :
    request₀.dispatchGeneration < request.dispatchGeneration ∧
      ∃ result : ProviderResult, result.RetryableFailure ∧
      (∃ j s₁, (.submitReturned j c₀ result, s₁) ∈ between) ∧
      ∃ j reported s₁ a₀, (.finalize j c₀ result reported, s₁) ∈ between ∧ c₀.HeldIn s₁.db a₀ ∧
        a₀.status = .failed := by
  obtain ⟨hp, ⟨d, hlane⟩, hgeneration⟩ := hstep.call
  obtain ⟨-, ⟨a₀, ha₀⟩, -, hgeneration₀⟩ := Reached.call_before hr
  have hheld : ∃ a, c.HeldIn s.db a := (Reached.ok hr).lanes _ _ _ hlane
  obtain ⟨a, ha⟩ := hheld
  have hne : c₀.attempt.id ≠ c.attempt.id := fun he =>
    (Reached.tracked hr).told _ _ _ hp (.callSubmit i₀ c₀ request₀, s') (by simp)
      (by simp [Action.attempt, he])
  obtain ⟨hlt, hfailed, hretryable⟩ :=
    (Reached.ok hr).sound.earlier ha ha₀ (Reached.held_started hr hp ha) hne hmessage
  obtain ⟨result, houtcome, hfailure, hreturned, j, reported, s₁, hfinalize, hs₁⟩ :=
    Reached.failed_call hr ha₀ hfailed
  exact ⟨by rw [hgeneration, hgeneration₀]; exact hlt, result, ⟨houtcome, hfailure ▸ hretryable⟩, hreturned,
    j, reported, s₁, a₀, hfinalize, hs₁, hfailed⟩

/-! ## All calls of a run -/

/-- Every call for a message has a later generation than the ones before it. -/
theorem Reached.submitted_sorted (hr : Reached E h s) (messageID : String) :
    (submitted messageID h).Pairwise (· > ·) := by
  refine hr.induct (P := fun h _ => (submitted messageID h).Pairwise (· > ·))
    (fun _ _ => List.Pairwise.nil) ?_
  intro h s action s' hr ih hstep
  unfold submitted at ih ⊢
  rw [List.filterMap_cons]
  split
  · exact ih
  · rename_i g hg
    refine List.pairwise_cons.2 ⟨fun g₀ hg₀ => ?_, ih⟩
    obtain ⟨i, c, request, _, hmem, hid, rfl⟩ :=
      mem_submitted.1 (show g ∈ submitted messageID [(action, s')] by
      simp [submitted, hg])
    obtain ⟨i₀, c₀, request₀, s₀, hmem₀, hid₀, rfl⟩ := mem_submitted.1 hg₀
    obtain ⟨rfl, rfl⟩ := Prod.mk.inj (List.mem_singleton.1 hmem)
    obtain ⟨between, oldest, rfl⟩ := List.append_of_mem hmem₀
    exact (Reached.call_again hr hstep (hid₀.trans hid.symm)).1

/-- The generation of a call is one of the attempts that its message may have. -/
theorem Reached.submitted_le (hr : Reached E h s) {r : MessageRow} (hmem : r ∈ s.db.messages) {g : Nat}
    (hg : g ∈ submitted r.snapshot.id h) : 0 < g ∧ g ≤ r.snapshot.maxAttempts := by
  obtain ⟨i, c, request, s₀, hcall, hid, rfl⟩ := mem_submitted.1 hg
  obtain ⟨between, oldest, rfl⟩ := List.append_of_mem hcall
  obtain ⟨-, ⟨a, ha⟩, -, hgeneration⟩ := Reached.call_before hr
  have hsound := (Reached.ok hr).sound.rows r hmem
  have hof : a ∈ s.db.attemptsOf r.snapshot.id := by
    simp [Db.attemptsOf, ha.mem, ← hid, ha.record]
  obtain ⟨hn, hpos, hle⟩ := hsound.ledger.mem_numbers hof
  have hmax := hsound.counted.attempts_le
  rw [hgeneration, ← ha.generation]
  omega

/-- The provider's `Submit` is called at most once for each generation of a message and at most
`maxAttempts` times for a message, each time after a claim that committed SENDING and a STARTED
attempt before the deadline, and again for the same message only after the call before returned a
retryable failure and that result was finalized. -/
theorem submit_at_most_once (hr : Reached E h s) :
    (∀ messageID, (submitted messageID h).Nodup) ∧
    (∀ r ∈ s.db.messages, (submitted r.snapshot.id h).length ≤ r.snapshot.maxAttempts) ∧
    ∀ newer older i c request s', h = newer ++ (.callSubmit i c request, s') :: older →
      (∃ s₀, (.claim i (.started c) true, s₀) ∈ older ∧ c.CommittedIn s₀.db) ∧
      ∀ between oldest i₀ c₀ request₀ s₀, older = between ++ (.callSubmit i₀ c₀ request₀, s₀) :: oldest →
        c₀.record.message.id = c.record.message.id → ∃ result : ProviderResult, result.RetryableFailure ∧
          (∃ j s₁, (.submitReturned j c₀ result, s₁) ∈ between) ∧
          ∃ j reported s₁ a₀, (.finalize j c₀ result reported, s₁) ∈ between ∧ c₀.HeldIn s₁.db a₀ ∧
            a₀.status = .failed := by
  have hnodup : ∀ messageID, (submitted messageID h).Nodup := fun messageID =>
    (Reached.submitted_sorted hr messageID).imp fun h => Nat.ne_of_gt h
  refine ⟨hnodup, fun r hmem => ?_, ?_⟩
  · have hsub : submitted r.snapshot.id h ⊆ List.range' 1 r.snapshot.maxAttempts := fun g hg => by
      have := Reached.submitted_le hr hmem hg
      rw [List.mem_range'_1]
      omega
    simpa using (List.subperm_of_subset (hnodup r.snapshot.id) hsub).length_le
  · rintro newer older i c request s' rfl
    obtain ⟨s₁, hr₁, hstep, -⟩ := hr.split
    refine ⟨Reached.call_claimed hr₁ hstep, ?_⟩
    rintro between oldest i₀ c₀ request₀ s₀ rfl hmessage
    exact (Reached.call_again hr₁ hstep hmessage).2

/-- A message is accepted, relayed and claimed, and its provider is called once, after the claim. -/
theorem submit_at_most_once_called :
    ∃ E h s i c request s₁, Reached E h s ∧ (Action.callSubmit i c request, s₁) ∈ h ∧
    (∀ messageID, (submitted messageID h).Nodup) ∧ (∃ r ∈ s.db.messages, r.snapshot.id = c.record.message.id ∧
      (submitted r.snapshot.id h).length ≤ r.snapshot.maxAttempts) ∧
    ∃ s₀, (.claim i (.started c) true, s₀) ∈ h ∧ c.CommittedIn s₀.db := by
  obtain ⟨hash, h, s, leased, c, request, s₁, s₂, -, hr, hcall, -, r, hmem, hid, -⟩ := Sample.exists_called
  obtain ⟨newer, older, rfl⟩ := List.append_of_mem hcall
  obtain ⟨hnodup, hbound, hcalls⟩ := submit_at_most_once hr
  obtain ⟨⟨s₀, hclaim, hcommitted⟩, -⟩ := hcalls newer older 0 c request s₁ rfl
  exact ⟨_, _, s, 0, c, request, s₁, hr, hcall, hnodup, ⟨r, hmem, hid, hbound r hmem⟩,
    s₀, by simp [hclaim], hcommitted⟩

/-! ## The attempts of a message -/

/-- A message that is out with its provider, or was, has an attempt. -/
theorem Snapshot.Accounted.attempted {t : Snapshot} (h : t.Accounted)
    (hs : attemptStatus t.status ≠ .failed) :
    0 < t.attemptCount := by
  have hb := h.byStatus
  cases hstatus : t.status <;> rw [hstatus] at hb hs <;> simp [attemptStatus] at hs <;>
    simp [CountedFor] at hb <;> omega

/-- The attempts of a message are numbered from one to its count, each in the generation of its
number. All but the last are failures that allowed the next one, the last one has the status that
goes with the message's, and each was started before the deadline. -/
theorem attempt_ledger (hr : Reached E h s) {r : MessageRow} (hmem : r ∈ s.db.messages) :
    ((s.db.attemptsOf r.snapshot.id).map fun a => (a.attemptNo, a.dispatchGeneration)) =
      ((List.range' 1 r.snapshot.attemptCount).map fun n => (n, n)) ∧
    (∀ a ∈ s.db.attemptsOf r.snapshot.id, a.attemptNo < r.snapshot.attemptCount →
      a.status = .failed ∧ ∃ f ∈ a.failure, f.retryable = true) ∧
    (∀ a ∈ s.db.attemptsOf r.snapshot.id, a.attemptNo = r.snapshot.attemptCount →
      (a.status = .started ↔ r.snapshot.status = .sending) ∧
      (a.status = .providerAccepted ↔ r.snapshot.status = .providerAccepted) ∧
      (a.status = .submissionUnknown ↔ r.snapshot.status = .submissionUnknown) ∧
      (a.status = .failed ↔ r.snapshot.status ≠ .sending ∧ r.snapshot.status ≠ .providerAccepted ∧
        r.snapshot.status ≠ .submissionUnknown)) ∧
    (r.snapshot.status = .sending ∨ r.snapshot.status = .providerAccepted ∨
      r.snapshot.status = .submissionUnknown →
      0 < r.snapshot.attemptCount) ∧
    r.snapshot.attemptCount ≤ r.snapshot.maxAttempts ∧
    ∀ a ∈ s.db.attemptsOf r.snapshot.id, a.startedAt < r.snapshot.dispatchDeadline := by
  have hsound := (Reached.ok hr).sound.rows r hmem
  have hledger := hsound.ledger
  refine ⟨hledger.numbers, fun a ha hlt => hledger.retried a ha (.inl hlt),
    fun a ha hlast => ?_, fun hout => ?_, hsound.counted.attempts_le, hledger.early⟩
  · rw [hledger.last a ha hlast]
    cases r.snapshot.status <;> simp [attemptStatus]
  · refine hsound.counted.attempted ?_
    rcases hout with h | h | h <;> rw [h] <;> decide

/-- A message is accepted, relayed and claimed: its first attempt is open. -/
theorem attempt_ledger_called : ∃ E h s, Reached E h s ∧ ∃ r ∈ s.db.messages, r.snapshot.status = .sending ∧
    0 < r.snapshot.attemptCount ∧ ∀ a ∈ s.db.attemptsOf r.snapshot.id, a.attemptNo = r.snapshot.attemptCount →
      a.status = .started := by
  obtain ⟨hash, h, s, leased, c, request, s₁, s₂, -, hr, -, -, r, hmem, -, hsending⟩ := Sample.exists_called
  obtain ⟨-, -, hlast, hpositive, -⟩ := attempt_ledger hr hmem
  exact ⟨_, h, s, hr, r, hmem, hsending, hpositive (.inl hsending),
    fun a ha hno => (hlast a ha hno).1.2 hsending⟩

end MailService
