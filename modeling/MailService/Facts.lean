import MailService.Aggregate
/-!
# Delivery facts

Observations of the provider arrive late, twice and out of order. Once a fact was taken
in without an error the message is where only facts lead on, and they lead one way: a
fact of the same kind says nothing new at any later moment of its life.
-/
open Runs

namespace MailService

/-- How many moves facts can still make from an observed status. -/
def Status.movesLeft : Status → Nat
  | .providerAccepted => 2
  | .delivered => 1
  | _ => 0

/-- The statuses that a fact can leave a message in. -/
def Status.observed : Status → Bool
  | .providerAccepted | .delivered | .bounced | .complained => true
  | _ => false

/-- Where a message can be later that had this status. -/
def Status.Onward : Status → Status → Prop
  | .providerAccepted, later => later = .providerAccepted ∨ later = .delivered ∨
      later = .bounced ∨ later = .complained
  | .delivered, later => later = .delivered ∨ later = .complained
  | .bounced, later => later = .bounced
  | .complained, later => later = .complained
  | _, _ => False

/-- A fact that points there says nothing new. -/
def Status.Covers (status target : Status) : Prop :=
  status = target ∨ observationWouldRegress status target = true

namespace Status

variable {s t u target : Status}

theorem movesLeft_le (s : Status) : s.movesLeft ≤ 2 := by
  unfold movesLeft
  split <;> decide

theorem Onward.refl (h : s.observed = true) : s.Onward s := by
  cases s <;> simp_all [observed, Onward]

theorem Onward.observed (h : s.Onward t) : t.observed = true := by
  cases s <;> simp only [Onward] at h
  case providerAccepted => obtain rfl | rfl | rfl | rfl := h <;> rfl
  case delivered => obtain rfl | rfl := h <;> rfl
  case bounced | complained => subst h; rfl

theorem Onward.trans (h : s.Onward t) (h' : t.Onward u) : s.Onward u := by
  cases s <;> simp only [Onward] at h
  case providerAccepted =>
    obtain rfl | rfl | rfl | rfl := h
    · exact h'
    · exact h'.elim (fun h => .inr (.inl h)) fun h => .inr (.inr (.inr h))
    · exact .inr (.inr (.inl h'))
    · exact .inr (.inr (.inr h'))
  case delivered =>
    obtain rfl | rfl := h
    · exact h'
    · exact .inr h'
  case bounced | complained => subst h; exact h'

/-- Every edge from an observed status leads onward and costs a move. -/
theorem Onward.of_edge (hs : s.observed = true) (h : canTransition s t = true) :
    s.Onward t ∧ t.movesLeft + 1 ≤ s.movesLeft := by
  cases s <;> simp_all only [Status.observed, canTransition, Onward, oneOf,
    List.contains_cons, List.contains_nil, Bool.or_false, Bool.or_eq_true,
    beq_iff_eq, Bool.false_eq_true]
  case providerAccepted => obtain rfl | rfl | rfl := h <;> exact ⟨by simp, by decide⟩
  case delivered => exact ⟨by simp, by decide⟩

theorem Covers.onward (h : s.Covers target) (hl : s.Onward t) (ht : target.observed = true) :
    t.Covers target := by
  cases s <;> simp only [Onward] at hl
  case providerAccepted =>
    obtain rfl : target = .providerAccepted := by
      rcases h with h | h
      · exact h.symm
      · simpa [observationWouldRegress] using h
    obtain rfl | rfl | rfl | rfl := hl <;> simp [Covers, observationWouldRegress, oneOf]
  case delivered =>
    obtain rfl | rfl := hl
    · exact h
    · exact .inr rfl
  case bounced | complained => subst hl; exact h

theorem Covers.observed (h : s.Covers target) (ht : target.observed = true) : s.observed = true := by
  rcases h with rfl | h
  · exact ht
  · cases s <;> simp_all [observationWouldRegress, Status.observed]

end Status

theorem deliveryFactTarget_observed {kind : DeliveryFactKind} {target : Status}
    (h : deliveryFactTarget kind = some target) : target.observed = true := by
  cases kind <;> simp only [deliveryFactTarget, Option.some.injEq, reduceCtorEq] at h <;> subst h <;> rfl

namespace Message

variable {m m' : Message} {op : Operation} {outcome : Outcome} {fact : DeliveryFact}

/-- A fact taken in without an error leaves a status that covers it. -/
theorem applyDeliveryFact_covers {result : ApplyResult} (h : m.applyDeliveryFact fact = (m', .ok result)) :
    ∃ target, deliveryFactTarget fact.kind = some target ∧ m'.status.Covers target := by
  unfold applyDeliveryFact at h
  split at h
  · cases h
  split at h
  · cases h
  rename_i target htarget
  refine ⟨target, htarget, ?_⟩
  split at h
  · cases h
    exact .inl ‹_›
  split at h
  · cases h
    exact .inr ‹_›
  split at h
  · cases h
  · cases h
    exact .inl rfl

/-- A fact that is covered changes nothing. -/
theorem applyDeliveryFact_covered {target : Status} (hat : fact.occurredAt ≠ 0)
    (ht : deliveryFactTarget fact.kind = some target) (hc : m.status.Covers target) :
    m.applyDeliveryFact fact = (m, .ok .duplicate) ∨
    m.applyDeliveryFact fact = (m, .ok .ignoredRegression) := by
  unfold applyDeliveryFact
  rw [if_neg hat, ht]
  by_cases hsame : m.status = target
  · exact .inl (if_pos hsame)
  · rcases hc with h | h
    · exact absurd h hsame
    · exact .inr ((if_neg hsame).trans (if_pos h))

/-- From an observed status only facts lead on. -/
theorem perform_other (hs : m.status.observed = true) (hop : ∀ fact, op ≠ .applyDeliveryFact fact) :
    (m.perform op).1 = m := by
  rcases perform_moved (Prod.eta (m.perform op)).symm with ⟨-, h⟩ | ⟨-, hm, htarget⟩
  · exact h
  · obtain ⟨honward, -⟩ := Status.Onward.of_edge hs hm.edge
    have hobserved := honward.observed
    cases op with
    | applyDeliveryFact fact => exact absurd rfl (hop fact)
    | _ =>
      simp only [Operation.target, Option.some.injEq] at htarget
      rw [← htarget] at hobserved
      cases hobserved

/-- What the provider told stays. -/
theorem perform_provider_kept (h : m.perform op = (m', outcome)) :
    (m.providerMessageID ≠ "" → m'.providerMessageID = m.providerMessageID) ∧
      (m.providerAcceptedAt ≠ none → m'.providerAcceptedAt = m.providerAcceptedAt) := by
  cases op with
  | applyDeliveryFact fact =>
    have hm : (m.applyDeliveryFact fact).1 = m' := congrArg Prod.fst h
    subst hm
    unfold applyDeliveryFact
    split
    · exact ⟨fun _ => rfl, fun _ => rfl⟩
    split
    · exact ⟨fun _ => rfl, fun _ => rfl⟩
    split
    · exact ⟨fun _ => rfl, fun _ => rfl⟩
    split
    · exact ⟨fun _ => rfl, fun _ => rfl⟩
    split
    · exact ⟨fun _ => rfl, fun _ => rfl⟩
    -- a fact sets only what is not set yet
    · exact ⟨fun hset => if_neg fun h => hset h.2, fun hset => if_neg fun h => hset h.2⟩
  | _ =>
    simp only [perform, queue, startSending, scheduleRetry, markSubmissionUnknown, markPermanentlyFailed,
      markDeadLettered, markUnknownFinal, cancel, expire] at h
    repeat' split at h
    all_goals
      simp only [Prod.map_apply, id, Prod.mk.injEq] at h
      obtain ⟨rfl, -⟩ := h
      exact ⟨fun _ => rfl, fun _ => rfl⟩

end Message

/-! ## Lives -/

def Call.changes : Call → Bool
  | .operation _ .changed => true
  | _ => false

variable {l l' l₁ : Life} {call : Call} {calls newer older : List (Call × Life)}

theorem Life.Step.onward (h : Life.Step l call l') (hs : l.message.status.observed = true) :
    l.message.status.Onward l'.message.status ∧
      l'.message.status.movesLeft + (if call.changes then 1 else 0) ≤ l.message.status.movesLeft := by
  cases h with
  | @operation op m' outcome hp =>
    rcases Message.perform_moved hp with ⟨hne, rfl⟩ | ⟨rfl, hm, -⟩
    · refine ⟨.refl hs, ?_⟩
      cases outcome with
      | changed => exact absurd rfl hne
      | _ => exact Nat.le_refl _
    · exact Status.Onward.of_edge hs hm.edge
  | pullEvents => exact ⟨.refl hs, Nat.le_refl _⟩

/-- From a moment with an observed status on. -/
theorem Lived.onward (h : Lived (newer ++ (call, l₁) :: older) l) (hs : l₁.message.status.observed = true) :
    l₁.message.status.Onward l.message.status ∧
      newer.countP (·.1.changes) + l.message.status.movesLeft ≤ l₁.message.status.movesLeft := by
  induction newer generalizing l with
  | nil =>
    cases h with
    | next _ _ => exact ⟨.refl hs, by simp⟩
  | cons e newer ih =>
    cases h with
    | next hr hstep =>
      obtain ⟨hbefore, hcount⟩ := ih hr
      obtain ⟨hafter, hcost⟩ := hstep.onward hbefore.observed
      refine ⟨hbefore.trans hafter, ?_⟩
      simp only [List.countP_cons]
      omega

theorem Life.Step.provider_kept (h : Life.Step l call l') :
    (l.message.providerMessageID ≠ "" → l'.message.providerMessageID = l.message.providerMessageID) ∧
      (l.message.providerAcceptedAt ≠ none →
        l'.message.providerAcceptedAt = l.message.providerAcceptedAt) := by
  cases h with
  | operation hp => exact Message.perform_provider_kept hp
  | pullEvents => exact ⟨fun _ => rfl, fun _ => rfl⟩

theorem Steps.provider_kept (h : Steps Life.Step l l') :
    (l.message.providerMessageID ≠ "" → l'.message.providerMessageID = l.message.providerMessageID) ∧
      (l.message.providerAcceptedAt ≠ none →
        l'.message.providerAcceptedAt = l.message.providerAcceptedAt) := by
  induction h with
  | refl => exact ⟨fun _ => rfl, fun _ => rfl⟩
  | tail _ hstep ih =>
    obtain ⟨hid, hat⟩ := hstep.provider_kept
    constructor
    · intro h
      have hs := ih.1 h
      rw [hid (hs ▸ h), hs]
    · intro h
      have hs := ih.2 h
      rw [hat (hs ▸ h), hs]

/-- The moment of a fact that was taken in. -/
theorem Lived.fact_taken {fact : DeliveryFact} {outcome : Outcome}
    (h : Lived (newer ++ (.operation (.applyDeliveryFact fact) outcome, l₁) :: older) l)
    (ho : ∀ e, outcome ≠ .failed e) :
    ∃ target, deliveryFactTarget fact.kind = some target ∧ l₁.message.status.Covers target := by
  obtain ⟨l₀, -, hstep, -⟩ := h.split
  cases hstep with
  | @operation op m' outcome hp =>
    cases hresult : (l₀.message.applyDeliveryFact fact).2 with
    | error e =>
      have : outcome = .failed e := by
        rw [Message.perform, Prod.map, hresult] at hp
        exact (congrArg Prod.snd hp).symm
      exact absurd this (ho e)
    | ok result =>
      have hm : (l₀.message.applyDeliveryFact fact).1 = m' := congrArg Prod.fst hp
      exact Message.applyDeliveryFact_covers (Prod.ext hm hresult)

/-- Facts are safe to repeat and lead one way. After a fact was taken in, one of the same
kind changes nothing ever after, nothing but facts moves the message, and at most two
moves follow. At no moment does a message leave an observed status but onward, and what
the provider told is never changed. -/
theorem facts_replay_safe (h : Lived calls l) :
    (∀ newer fact outcome l₁ older,
      calls = newer ++ (.operation (.applyDeliveryFact fact) outcome, l₁) :: older →
      (∀ e, outcome ≠ .failed e) →
      (∀ again : DeliveryFact, again.kind = fact.kind → again.occurredAt ≠ 0 →
        l.message.applyDeliveryFact again = (l.message, .ok .duplicate) ∨
          l.message.applyDeliveryFact again = (l.message, .ok .ignoredRegression)) ∧
      (∀ op, (∀ again, op ≠ .applyDeliveryFact again) → (l.message.perform op).1 = l.message) ∧
      newer.countP (·.1.changes) ≤ 2 ∧ l₁.message.status.Onward l.message.status) ∧
    ∀ newer call l₁ older, calls = newer ++ (call, l₁) :: older →
      (l₁.message.status.observed = true → l₁.message.status.Onward l.message.status) ∧
      (l₁.message.providerMessageID ≠ "" → l.message.providerMessageID = l₁.message.providerMessageID) ∧
      (l₁.message.providerAcceptedAt ≠ none →
        l.message.providerAcceptedAt = l₁.message.providerAcceptedAt) := by
  constructor
  · rintro newer fact outcome l₁ older rfl ho
    obtain ⟨target, htarget, hcovers⟩ := Lived.fact_taken h ho
    have hobserved := deliveryFactTarget_observed htarget
    obtain ⟨honward, hcount⟩ := Lived.onward h (hcovers.observed hobserved)
    refine ⟨?_, ?_, ?_, honward⟩
    · intro again hkind hat
      exact Message.applyDeliveryFact_covered hat (hkind ▸ htarget) (hcovers.onward honward hobserved)
    · intro op hop
      exact Message.perform_other honward.observed hop
    · have hmoves := l₁.message.status.movesLeft_le
      omega
  · rintro newer call l₁ older rfl
    obtain ⟨-, -, -, hsteps⟩ := h.split
    exact ⟨fun hs => (Lived.onward h hs).1, Steps.provider_kept hsteps⟩

/-- The provider reports delivery, acceptance, and delivery again. -/
theorem facts_replay_safe_repeated : ∃ calls l, Lived calls l ∧ l.message.status = .delivered ∧
    l.message.applyDeliveryFact ⟨.delivered, 99, "p-2"⟩ = (l.message, .ok .duplicate) ∧
    l.message.applyDeliveryFact ⟨.providerAccepted, 99, "p-2"⟩ = (l.message, .ok .ignoredRegression) ∧
    (l.message.perform (.cancel "LATE" 99)).1 = l.message := by
  have h0 : Lived [] ⟨immediateMessage, []⟩ := .start immediate_begins
  have h1 := h0.next (.performed _ (.startSending 1 11))
  have h2 := h1.next (.performed _ (.applyDeliveryFact ⟨.delivered, 12, "p-1"⟩))
  have h3 := h2.next (.performed _ (.applyDeliveryFact ⟨.providerAccepted, 13, "p-1"⟩))
  have hsafe := (facts_replay_safe h3).1 [_] _ _ _ _ rfl nofun
  exact ⟨_, _, h3, rfl, rfl, rfl, hsafe.2.1 _ nofun⟩

end MailService
