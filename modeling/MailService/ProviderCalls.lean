import MailService.Evolution
/-!
# Calls of the provider

The provider is called by a lane that holds a claim, and a claim is an attempt
that nobody else has. The invariant ties the lanes to the table of attempts and
to the history: a lane that has not called `Submit` finds its attempt STARTED and
nothing in the history about it, and an attempt that is not STARTED was finalized
with the result that it shows.
-/
open Runs Checks Table

namespace MailService

open Db

/-! ## Claims that lanes hold -/

/-- How far a lane is with a claim. -/
inductive Progress
  | claimed
  | submitting
  | observed (result : ProviderResult)

def Work.progress : Work → Option (DispatchClaim × Progress)
  | .claimed c => some (c, .claimed)
  | .submitting c => some (c, .submitting)
  | .observed c result | .finalizing c result _ _ => some (c, .observed result)
  | .parsed _ | .claiming .. | .processed _ => none

def Lane.progress : Lane → Option (DispatchClaim × Progress)
  | .idle => none
  | .holds _ work => work.progress

/-- The attempt that a call, its return or a second transaction is about. -/
def Action.attempt : Action → Option String
  | .callSubmit _ c _ | .submitReturned _ c _ | .finalize _ c _ _ => some c.attempt.id
  | _ => none

/-- The claim that an action starts. -/
def Action.starts : Action → Option DispatchClaim
  | .claim _ (.started c) _ => some c
  | _ => none

/-- An attempt as a result leaves it. -/
def Shows (result : ProviderResult) (a : AttemptRow) : Prop :=
  a.status ≠ .started ∧ (a.status = .failed → result.outcome = .failed ∧ a.failure = result.failure)

variable {E : Env} {s s' : System} {db db' : Db} {action : Action} {c : DispatchClaim}
  {h newer older : History}

/-- What a step means for the claims: nothing, a new claim, or one of the four
steps of the lane that holds it. -/
inductive ClaimStep (s : System) : Action → System → Prop
  | other {action : Action} {s' : System} (about : action.attempt = none) (starts : action.starts = none)
      (attempts : s'.db.attempts = s.db.attempts)
      (lanes : ∀ j x, (s'.lanes j).progress = some x → (s.lanes j).progress = some x) :
      ClaimStep s action s'
  | started {i : Nat} {c : DispatchClaim} {reported : Bool} {row : AttemptRow} {s' : System}
      (fresh : c.attempt.id ∉ s.db.attemptIDs) (id : row.id = c.attempt.id) (status : row.status = .started)
      (attempts : s'.db.attempts = s.db.attempts ++ [row])
      (lanes : ∀ j x, (s'.lanes j).progress = some x →
        (s.lanes j).progress = some x ∨ j = i ∧ reported = true ∧ x = (c, .claimed)) :
      ClaimStep s (.claim i (.started c) reported) s'
  | notBuilt {i : Nat} {c : DispatchClaim} {s' : System} (result : ProviderResult)
      (before : (s.lanes i).progress = some (c, .claimed)) (attempts : s'.db.attempts = s.db.attempts)
      (lanes : ∀ j x, (s'.lanes j).progress = some x →
        j ≠ i ∧ (s.lanes j).progress = some x ∨ j = i ∧ x = (c, .observed result)) :
      ClaimStep s (.buildFailed i) s'
  | called {i : Nat} {c : DispatchClaim} {request : ProviderRequest} {s' : System}
      (before : (s.lanes i).progress = some (c, .claimed)) (attempts : s'.db.attempts = s.db.attempts)
      (lanes : ∀ j x, (s'.lanes j).progress = some x →
        j ≠ i ∧ (s.lanes j).progress = some x ∨ j = i ∧ x = (c, .submitting)) :
      ClaimStep s (.callSubmit i c request) s'
  | returned {i : Nat} {c : DispatchClaim} {result : ProviderResult} {s' : System}
      (before : (s.lanes i).progress = some (c, .submitting)) (attempts : s'.db.attempts = s.db.attempts)
      (lanes : ∀ j x, (s'.lanes j).progress = some x → j ≠ i ∧ (s.lanes j).progress = some x ∨
        j = i ∧ ∃ observed contextError, observeResult result contextError = .ok observed ∧
        x = (c, .observed observed)) :
      ClaimStep s (.submitReturned i c result) s'
  | finished {i : Nat} {c : DispatchClaim} {result : ProviderResult} {reported : Bool} {s' : System}
      (before : (s.lanes i).progress = some (c, .observed result))
      (attempts : s'.db.attempts = s.db.attempts ∨
        ∃ a a', a ∈ s.db.attempts ∧ a.id = c.attempt.id ∧ a'.id = a.id ∧
        Shows result a' ∧ s'.db.attempts = exchange s.db.attempts a a')
      (lanes : ∀ j x, (s'.lanes j).progress = some x → j ≠ i ∧ (s.lanes j).progress = some x) :
      ClaimStep s (.finalize i c result reported) s'

theorem progress_of_setLane {i j : Nat} {lane : Lane} {x : DispatchClaim × Progress}
    (h : ((s.setLane i lane).lanes j).progress = some x) :
    j ≠ i ∧ (s.lanes j).progress = some x ∨ j = i ∧ lane.progress = some x := by
  by_cases hj : j = i
  · exact .inr ⟨hj, by simpa [System.setLane, hj] using h⟩
  · exact .inl ⟨hj, by simpa [System.setLane, hj] using h⟩

theorem progress_holds {i : Nat} {d : Delivery} {work : Work} (h : s.lanes i = .holds d work) :
    (s.lanes i).progress = work.progress := by
  rw [h, Lane.progress]

/-- A lane that takes up or ends something that is not a claim. -/
theorem progress_setLane_none {i j : Nat} {lane : Lane} {x : DispatchClaim × Progress}
    (hlane : lane.progress = none) (h : ((s.setLane i lane).lanes j).progress = some x) :
    j ≠ i ∧ (s.lanes j).progress = some x := by
  rcases progress_of_setLane h with h | ⟨-, h⟩
  · exact h
  · simp [hlane] at h

theorem progress_received (L : Libs) (d : Delivery) : (Lane.holds d (received L d)).progress = none := by
  unfold received
  split <;> rfl

theorem Settled.shows {now : Time} {attemptID : String} {result : ProviderResult} {status : Status}
    {completion : CompleteDeliveryAttempt} {disposition : DispatchDisposition}
    (h : Settled now attemptID result status completion disposition) (a : AttemptRow) :
    Shows result (completedAttempt a completion) := by
  cases h <;> simp_all [Shows, completedAttempt]

theorem AttemptChange.eq_of_idle {r : MessageRow} {m : Message} {attempts : List AttemptRow}
    (h : AttemptChange db r m attempts) (hs : r.snapshot.status ≠ .sending) (ht : m.status ≠ .sending) :
    attempts = db.attempts := by
  cases h with
  | unchanged => rfl
  | started target => exact absurd target ht
  | completed source => exact absurd source hs

theorem runOnce_attempts {batchSize : Nat} {locked : String → Bool} {now : Time}
    {result : SchedulerBatchResult} (hk : db.Keyed)
    (h : runOnce E.L batchSize locked now db = .ok (db', result)) : db'.attempts = db.attempts := by
  obtain ⟨moves, -, rfl, -⟩ := runOnce_moves hk h
  rw [foldl_applyMove]

theorem SubmitEffect.attempts_eq {L : Libs} {ids : Set Uuid} {p : PreparedSubmission} {now : Time}
    {result : SubmitEmailResult} (h : SubmitEffect L ids p now db db' result) :
    db'.attempts = db.attempts := by
  cases h with
  | accepted _ _ created => exact created.attempts
  | duplicate => rfl

theorem Relayed.attempts_eq (h : Relayed db db') : db'.attempts = db.attempts := by
  rw [h.rest]

theorem Step.claimStep (h : Step E s action s') (hs : s.Ok E) : ClaimStep s action s' := by
  have hk := hs.sound.keyed
  cases h with
  | submit hid h =>
    obtain ⟨p, -, heffect⟩ := submit_effect hk hid h
    exact .other rfl rfl heffect.attempts_eq fun _ _ => id
  | schedule h => exact .other rfl rfl (runOnce_attempts hk h) fun _ _ => id
  | arrive => exact .other rfl rfl rfl fun _ _ => id
  | deadLetter => exact .other rfl rfl rfl fun _ _ => id
  | deliver =>
    exact .other rfl rfl rfl fun _ _ hp => (progress_setLane_none (progress_received _ _) hp).2
  | readForClaim => exact .other rfl rfl rfl fun _ _ hp => (progress_setLane_none rfl hp).2
  | @claim i d command read now providerKey attemptID db' outcome reported hlane _ h =>
    obtain ⟨-, hl⟩ := hs.lanes _ _ _ hlane
    obtain ⟨r, -, hid, -, -, heffect⟩ := claim_effect hk hl h
    have hresolved : ∀ result, outcome = .resolved result → db'.attempts = s.db.attempts →
        ClaimStep s (.claim i outcome reported) ({ s with db := db' }.setLane i
          (.holds d (if reported then afterClaim outcome else .processed .requeue))) := by
      intro result houtcome hattempts
      refine .other rfl (by simp [houtcome, Action.starts]) hattempts fun j x hp =>
        (progress_setLane_none ?_ hp).2
      cases reported <;> simp [houtcome, afterClaim, Lane.progress, Work.progress]
    cases heffect with
    | stale => exact hresolved _ rfl rfl
    | duplicate => exact hresolved _ rfl rfl
    | expired _ source status advance =>
      exact hresolved _ rfl (advance.attempts.eq_of_idle (by simp [source]) (by simp [status]))
    | started _ _ _ _ _ _ fresh attempts =>
      refine .started ?_ rfl rfl attempts fun j x hp => ?_
      · simp only [attemptIDs, List.mem_map, not_exists, not_and]
        exact fun row hrow => (fresh row hrow).1
      · rcases progress_of_setLane hp with ⟨-, hp⟩ | ⟨hj, hp⟩
        · exact .inl hp
        · cases reported with
          | false => simp [Lane.progress, Work.progress] at hp
          | true =>
            simp only [if_true, afterClaim, Lane.progress, Work.progress, Option.some.injEq] at hp
            exact .inr ⟨hj, rfl, hp.symm⟩
  | claimFailed => exact .other rfl rfl rfl fun _ _ hp => (progress_setLane_none rfl hp).2
  | @buildFailed _ _ _ _ result hlane =>
    refine .notBuilt result (progress_holds hlane) rfl fun j x hp => ?_
    simpa [Lane.progress, Work.progress, eq_comm] using progress_of_setLane hp
  | callSubmit hlane =>
    refine .called (progress_holds hlane) rfl fun j x hp => ?_
    simpa [Lane.progress, Work.progress, eq_comm] using progress_of_setLane hp
  | @submitReturned i d c result contextError hlane =>
    refine .returned (progress_holds hlane) rfl fun j x hp => ?_
    rcases progress_of_setLane hp with hp | ⟨hj, hp⟩
    · exact .inl hp
    · refine .inr ⟨hj, ?_⟩
      cases hobs : observeResult result contextError with
      | error e => simp [hobs, Lane.progress, Work.progress] at hp
      | ok observed =>
        simp only [hobs, Lane.progress, Work.progress, Option.some.injEq] at hp
        exact ⟨observed, contextError, hobs, hp.symm⟩
  | @readForFinalize i d c result now hlane =>
    refine .other rfl rfl rfl fun j x hp => ?_
    rcases progress_of_setLane hp with ⟨-, hp⟩ | ⟨rfl, hp'⟩
    · exact hp
    · exact (progress_holds hlane).trans hp'
  | @finalize i d c result delay read now db' dispatched reported hlane h =>
    obtain ⟨-, hl, a, ha⟩ := hs.lanes _ _ _ hlane
    obtain ⟨a', ha', -⟩ := ha.later hl
    obtain ⟨r, -, -, -, -, -, -, heffect⟩ := finalize_effect hk hl ha' h
    refine .finished (progress_holds hlane) ?_ fun j x hp => progress_setLane_none rfl hp
    generalize dispatched.disposition = disposition at heffect
    cases heffect with
    | duplicate => exact .inl rfl
    | @finished _ b completion _ _ _ settled held _ _ attempts =>
      exact .inr ⟨b, completedAttempt b completion, held.mem, held.id, rfl, settled.shows b, attempts⟩
  | finalizeFailed => exact .other rfl rfl rfl fun _ _ hp => (progress_setLane_none rfl hp).2
  | @settle _ _ answer =>
    cases answer <;> exact .other rfl rfl rfl fun _ _ hp => (progress_setLane_none rfl hp).2
  | laneLost => exact .other rfl rfl rfl fun _ _ hp => (progress_setLane_none rfl hp).2
  | lease _ _ _ h =>
    obtain ⟨leaseUntil, claimed, hleased⟩ := claimBatch_leased hk.outboxIDs h
    exact .other rfl rfl hleased.relayed.attempts_eq fun _ _ => id
  | leaseFailed => exact .other rfl rfl rfl fun _ _ => id
  | publish => exact .other rfl rfl rfl fun _ _ => id
  | record _ _ h =>
    obtain ⟨o, hrecorded⟩ := recordCompletion_recorded hk.outboxIDs h
    exact .other rfl rfl hrecorded.relayed.attempts_eq fun _ _ => id
  | recordFailed => exact .other rfl rfl rfl fun _ _ => id
  | jobLost => exact .other rfl rfl rfl fun _ _ => id

/-! ## Lanes, attempts and the history -/

/-- `result` is what the call of `Submit` for the claim came back with, if there was one. -/
def Answered (h : History) (c : DispatchClaim) (result : ProviderResult) : Prop :=
  (∀ e ∈ h, ∀ i c' request, e.1 = .callSubmit i c' request → c'.attempt.id ≠ c.attempt.id) ∨
    ∃ i returned contextError s, (.submitReturned i c returned, s) ∈ h ∧
      observeResult returned contextError = .ok result

/-- What the history says about a claim that a lane holds. -/
def Progress.Told (h : History) (c : DispatchClaim) : Progress → Prop
  | .claimed => ∀ e ∈ h, e.1.attempt ≠ some c.attempt.id
  | .submitting => True
  | .observed result => Answered h c result

structure Tracked (h : History) (s : System) : Prop where
  claimed : ∀ i c p, (s.lanes i).progress = some (c, p) → ∃ s₀, (.claim i (.started c) true, s₀) ∈ h
  started : ∀ i c p, (s.lanes i).progress = some (c, p) →
    ∃ a ∈ s.db.attempts, a.id = c.attempt.id ∧ a.status = .started
  told : ∀ i c p, (s.lanes i).progress = some (c, p) → p.Told h c
  unique : ∀ i j c c' p p', (s.lanes i).progress = some (c, p) → (s.lanes j).progress = some (c', p') →
    c.attempt.id = c'.attempt.id → i = j
  known : ∀ e ∈ h, ∀ x, e.1.attempt = some x → x ∈ s.db.attemptIDs
  drawn : ∀ e ∈ h, ∀ c, e.1.starts = some c → c.attempt.id ∈ s.db.attemptIDs
  single : ∀ e ∈ h, ∀ e' ∈ h, ∀ c c', e.1.starts = some c → e'.1.starts = some c' →
    c.attempt.id = c'.attempt.id → c = c'
  finished : ∀ a ∈ s.db.attempts, a.status ≠ .started → ∃ i c result reported s₁,
    (.finalize i c result reported, s₁) ∈ h ∧ c.attempt.id = a.id ∧ a ∈ s₁.db.attempts ∧
    Shows result a ∧ Answered h c result

variable {result : ProviderResult}

/-- An answer stands when the next call is for another attempt. -/
theorem Answered.cons (ha : Answered h c result)
    (hcall : ∀ i c' request, action = .callSubmit i c' request → c'.attempt.id ≠ c.attempt.id) :
    Answered ((action, s') :: h) c result := by
  rcases ha with ha | ⟨i, returned, e, s₀, hmem, hobs⟩
  · refine .inl fun e he i c' request heq => ?_
    rcases List.mem_cons.1 he with rfl | he
    · exact hcall i c' request heq
    · exact ha e he i c' request heq
  · exact .inr ⟨i, returned, e, s₀, List.mem_cons_of_mem _ hmem, hobs⟩

/-- What is told of a claim stands when the next step is about another attempt. -/
theorem Progress.Told.cons {p : Progress} (ht : p.Told h c) (hne : action.attempt ≠ some c.attempt.id) :
    p.Told ((action, s') :: h) c := by
  cases p with
  | claimed => exact fun e he => (List.mem_cons.1 he).elim (fun heq => heq ▸ hne) (ht e)
  | submitting => trivial
  | observed result =>
    refine Answered.cons ht fun i c' request heq => ?_
    simpa [heq, Action.attempt] using hne

namespace ClaimStep

/-- Where the claims of the lanes come from. -/
theorem origin (hstep : ClaimStep s action s') {j : Nat} {c : DispatchClaim} {p : Progress}
    (hp : (s'.lanes j).progress = some (c, p)) : (∃ p₀, (s.lanes j).progress = some (c, p₀)) ∨
      action = .claim j (.started c) true ∧ c.attempt.id ∉ s.db.attemptIDs ∧
        ∃ row ∈ s'.db.attempts, row.id = c.attempt.id ∧ row.status = .started := by
  cases hstep with
  | other _ _ _ lanes => exact .inl ⟨p, lanes j _ hp⟩
  | started fresh id status attempts lanes =>
    rcases lanes j _ hp with h | ⟨rfl, rfl, hx⟩
    · exact .inl ⟨p, h⟩
    · cases hx
      exact .inr ⟨rfl, fresh, _, by simp [attempts], id, status⟩
  | notBuilt _ before _ lanes =>
    rcases lanes j _ hp with h | ⟨rfl, hx⟩
    · exact .inl ⟨p, h.2⟩
    · cases hx
      exact .inl ⟨_, before⟩
  | called before _ lanes =>
    rcases lanes j _ hp with h | ⟨rfl, hx⟩
    · exact .inl ⟨p, h.2⟩
    · cases hx
      exact .inl ⟨_, before⟩
  | returned before _ lanes =>
    rcases lanes j _ hp with h | ⟨rfl, _, _, -, hx⟩
    · exact .inl ⟨p, h.2⟩
    · cases hx
      exact .inl ⟨_, before⟩
  | finished _ _ lanes => exact .inl ⟨p, (lanes j _ hp).2⟩

/-- The rows of the attempts: kept, one more, or the one of the lane finished. -/
theorem rows (hstep : ClaimStep s action s') : s'.db.attempts = s.db.attempts ∨
    (∃ i c reported row, action = .claim i (.started c) reported ∧ row.id = c.attempt.id ∧
      row.status = .started ∧
      s'.db.attempts = s.db.attempts ++ [row]) ∨
    ∃ i c result reported a a', action = .finalize i c result reported ∧
      (s.lanes i).progress = some (c, .observed result) ∧ (∀ j x, (s'.lanes j).progress = some x → j ≠ i) ∧
      a ∈ s.db.attempts ∧ a.id = c.attempt.id ∧ a'.id = a.id ∧ Shows result a' ∧
      s'.db.attempts = exchange s.db.attempts a a' := by
  cases hstep with
  | other _ _ attempts => exact .inl attempts
  | started _ id status attempts => exact .inr (.inl ⟨_, _, _, _, rfl, id, status, attempts⟩)
  | notBuilt _ _ attempts => exact .inl attempts
  | called _ attempts => exact .inl attempts
  | returned _ attempts => exact .inl attempts
  | finished before attempts lanes =>
    rcases attempts with h | ⟨a, a', ha, hid, hid', hshows, h⟩
    · exact .inl h
    · exact .inr (.inr ⟨_, _, _, _, a, a', rfl, before, fun j x hx => (lanes j x hx).1, ha,
        hid, hid', hshows, h⟩)

theorem attemptIDs_subset (hstep : ClaimStep s action s') : s.db.attemptIDs ⊆ s'.db.attemptIDs := by
  rcases hstep.rows with h | ⟨_, _, _, _, -, -, -, h⟩ | ⟨_, _, _, _, a, a', -, -, -, -, -, hid, -, h⟩
  · simp [attemptIDs, h]
  · simp [attemptIDs, h]
  · simp [attemptIDs, h, map_exchange (fun x : AttemptRow => x.id) _ hid]

/-- A new claim has an attempt of its own. -/
theorem new_attempt {c : DispatchClaim} (hstep : ClaimStep s action s') (hc : action.starts = some c) :
    c.attempt.id ∉ s.db.attemptIDs ∧ c.attempt.id ∈ s'.db.attemptIDs := by
  cases hstep with
  | other _ starts => simp [starts] at hc
  | started fresh id _ attempts =>
    obtain rfl : _ = c := Option.some.inj hc
    exact ⟨fresh, by simp [attemptIDs, attempts, id]⟩
  | _ => simp [Action.starts] at hc

/-- An action on an attempt is one of the lane that holds it. -/
theorem about (hstep : ClaimStep s action s') {x : String} (hx : action.attempt = some x) :
    ∃ i c p, (s.lanes i).progress = some (c, p) ∧ c.attempt.id = x ∧
      ∀ j y, (s'.lanes j).progress = some y → j ≠ i → (s.lanes j).progress = some y := by
  cases hstep with
  | other about => simp [about] at hx
  | started => simp [Action.attempt] at hx
  | notBuilt => simp [Action.attempt] at hx
  | called before _ lanes =>
    refine ⟨_, _, _, before, by simpa [Action.attempt] using hx, fun j y hy hj => ?_⟩
    exact ((lanes j y hy).resolve_right fun h => hj h.1).2
  | returned before _ lanes =>
    refine ⟨_, _, _, before, by simpa [Action.attempt] using hx, fun j y hy hj => ?_⟩
    exact ((lanes j y hy).resolve_right fun h => hj h.1).2
  | finished before _ lanes =>
    exact ⟨_, _, _, before, by simpa [Action.attempt] using hx, fun j y hy _ => (lanes j y hy).2⟩

end ClaimStep

namespace Tracked

variable {i j : Nat} {p : Progress}

theorem mem_attemptIDs (ht : Tracked h s) (hp : (s.lanes i).progress = some (c, p)) :
    c.attempt.id ∈ s.db.attemptIDs := by
  obtain ⟨a, ha, hid, -⟩ := ht.started i c p hp
  exact hid ▸ List.mem_map_of_mem ha

theorem started_step (ht : Tracked h s) (hstep : ClaimStep s action s')
    (hp : (s'.lanes j).progress = some (c, p)) :
    ∃ a ∈ s'.db.attempts, a.id = c.attempt.id ∧ a.status = .started := by
  rcases hstep.origin hp with ⟨p₀, hp₀⟩ | ⟨-, -, hrow⟩
  · obtain ⟨a, ha, hid, hst⟩ := ht.started j c p₀ hp₀
    rcases hstep.rows with h | ⟨_, _, _, _, -, -, -, h⟩ |
      ⟨i, c', _, _, b, b', -, hi, hother, hb, hbid, -, -, h⟩
    · exact ⟨a, h ▸ ha, hid, hst⟩
    · exact ⟨a, by simp [h, ha], hid, hst⟩
    · -- the finished attempt is the one of another lane
      have hne : a ≠ b := fun he =>
        hother j _ hp (ht.unique j i c c' _ _ hp₀ hi (hid.symm.trans (he ▸ hbid)))
      exact ⟨a, h ▸ (mem_exchange hb).2 (.inr ⟨ha, hne⟩), hid, hst⟩
  · exact hrow

theorem unique_step (ht : Tracked h s) (hstep : ClaimStep s action s') {c' : DispatchClaim} {p' : Progress}
    (hp : (s'.lanes i).progress = some (c, p)) (hp' : (s'.lanes j).progress = some (c', p'))
    (hid : c.attempt.id = c'.attempt.id) : i = j := by
  rcases hstep.origin hp with ⟨p₀, hp₀⟩ |
    ⟨ha, hf, -⟩ <;> rcases hstep.origin hp' with ⟨p₀', hp₀'⟩ | ⟨ha', hf', -⟩
  · exact ht.unique i j c c' _ _ hp₀ hp₀' hid
  · exact absurd (hid ▸ ht.mem_attemptIDs hp₀) hf'
  · exact absurd (hid ▸ ht.mem_attemptIDs hp₀') hf
  · rw [ha] at ha'
    exact (Action.claim.inj ha').1

/-- What is told of a claim stands when another lane goes on with its own. -/
theorem told_other (ht : Tracked h s) {c' : DispatchClaim} {p' : Progress}
    (hp : (s.lanes j).progress = some (c, p)) (hi : (s.lanes i).progress = some (c', p'))
    (ha : action.attempt = some c'.attempt.id) (hj : j ≠ i) :
    p.Told ((action, s') :: h) c := by
  refine (ht.told j c p hp).cons fun hx => hj (ht.unique j i c c' _ _ hp hi ?_)
  rw [hx] at ha
  exact Option.some.inj ha

theorem told_step (ht : Tracked h s) (hstep : ClaimStep s action s')
    (hp : (s'.lanes j).progress = some (c, p)) :
    p.Told ((action, s') :: h) c := by
  cases hstep with
  | other about _ _ lanes => exact (ht.told j c p (lanes j _ hp)).cons (by simp [about])
  | started fresh _ _ _ lanes =>
    rcases lanes j _ hp with hp | ⟨rfl, rfl, hx⟩
    · exact (ht.told j c p hp).cons (by simp [Action.attempt])
    · cases hx
      intro e he hx
      rcases List.mem_cons.1 he with rfl | he
      · simp [Action.attempt] at hx
      · exact fresh (ht.known e he _ hx)
  | notBuilt result before _ lanes =>
    rcases lanes j _ hp with ⟨-, hp⟩ | ⟨rfl, hx⟩
    · exact (ht.told j c p hp).cons (by simp [Action.attempt])
    · cases hx
      have hnone : ∀ e ∈ h, e.1.attempt ≠ some c.attempt.id := ht.told j c .claimed before
      refine .inl fun e he i c' request heq hid => ?_
      rcases List.mem_cons.1 he with rfl | he
      · simp at heq
      · exact hnone e he (by simp [heq, Action.attempt, hid])
  | called before _ lanes =>
    rcases lanes j _ hp with ⟨hj, hp⟩ | ⟨rfl, hx⟩
    · exact ht.told_other hp before rfl hj
    · cases hx
      trivial
  | returned before _ lanes =>
    rcases lanes j _ hp with ⟨hj, hp⟩ | ⟨rfl, _, e, hobs, hx⟩
    · exact ht.told_other hp before rfl hj
    · cases hx
      exact .inr ⟨_, _, e, _, List.mem_cons_self, hobs⟩
  | finished before _ lanes =>
    obtain ⟨hj, hp⟩ := lanes j _ hp
    exact ht.told_other hp before rfl hj

theorem known_step (ht : Tracked h s) (hstep : ClaimStep s action s') {e : Action × System}
    (he : e ∈ (action, s') :: h) {x : String} (hx : e.1.attempt = some x) : x ∈ s'.db.attemptIDs := by
  refine hstep.attemptIDs_subset ?_
  rcases List.mem_cons.1 he with rfl | he
  · obtain ⟨i, c, p, hp, rfl, -⟩ := hstep.about hx
    exact ht.mem_attemptIDs hp
  · exact ht.known e he x hx

theorem finished_step (ht : Tracked h s) (hn : s.db.attemptIDs.Nodup)
    (hstep : ClaimStep s action s') {a : AttemptRow} (ha : a ∈ s'.db.attempts)
    (hst : a.status ≠ .started) : ∃ i c result reported s₁,
      (.finalize i c result reported, s₁) ∈ (action, s') :: h ∧ c.attempt.id = a.id ∧ a ∈ s₁.db.attempts ∧
        Shows result a ∧ Answered ((action, s') :: h) c result := by
  -- a row that was finished before: nobody can call the provider for it any more
  have hold : a ∈ s.db.attempts → ∃ i c result reported s₁,
      (.finalize i c result reported, s₁) ∈ (action, s') :: h ∧ c.attempt.id = a.id ∧ a ∈ s₁.db.attempts ∧
        Shows result a ∧ Answered ((action, s') :: h) c result := by
    intro ha
    obtain ⟨i, c, result, reported, s₁, hmem, hid, hs₁, hshows, hans⟩ := ht.finished a ha hst
    refine ⟨i, c, result, reported, s₁, List.mem_cons_of_mem _ hmem, hid, hs₁, hshows, hans.cons ?_⟩
    rintro k c' request rfl heq
    obtain ⟨l, c'', p, hl, hid', -⟩ := hstep.about (x := c'.attempt.id) rfl
    obtain ⟨b, hb, hbid, hbst⟩ := ht.started l c'' p hl
    have : b = a := List.inj_on_of_nodup_map hn hb ha (by rw [hbid, hid', heq, hid])
    exact hst (this ▸ hbst)
  rcases hstep.rows with h' | ⟨_, _, _, row, -, -, hrow, h'⟩ |
    ⟨i, c, result, reported, b, b', rfl, hi, -, hb, hbid, hbid', hshows, h'⟩
  · exact hold (h' ▸ ha)
  · rw [h', List.mem_append, List.mem_singleton] at ha
    rcases ha with ha | rfl
    · exact hold ha
    · exact absurd hrow hst
  · have ha' := ha
    rw [h', mem_exchange hb] at ha'
    rcases ha' with rfl | ⟨ha', -⟩
    · exact ⟨i, c, result, reported, s', by simp, (hbid'.trans hbid).symm, ha, hshows,
        Answered.cons (ht.told i c _ hi) (by simp)⟩
    · exact hold ha'

theorem step (ht : Tracked h s) (hn : s.db.attemptIDs.Nodup) (hstep : ClaimStep s action s') :
    Tracked ((action, s') :: h) s' where
  claimed i c p hp := by
    rcases hstep.origin hp with ⟨p₀, hp₀⟩ | ⟨rfl, -⟩
    · obtain ⟨s₀, hs₀⟩ := ht.claimed i c p₀ hp₀
      exact ⟨s₀, List.mem_cons_of_mem _ hs₀⟩
    · exact ⟨s', by simp⟩
  started _ _ _ hp := ht.started_step hstep hp
  told _ _ _ hp := ht.told_step hstep hp
  unique _ _ _ _ _ _ hp hp' hid := ht.unique_step hstep hp hp' hid
  known _ he _ hx := ht.known_step hstep he hx
  drawn e he c hc := by
    rcases List.mem_cons.1 he with rfl | he
    · exact (hstep.new_attempt hc).2
    · exact hstep.attemptIDs_subset (ht.drawn e he c hc)
  single e he e' he' c c' hc hc' hid := by
    rcases List.mem_cons.1 he with rfl | he <;> rcases List.mem_cons.1 he' with rfl | he'
    · exact Option.some.inj (hc.symm.trans hc')
    · exact absurd (hid ▸ ht.drawn e' he' c' hc') (hstep.new_attempt hc).1
    · exact absurd (hid ▸ ht.drawn e he c hc) (hstep.new_attempt hc').1
    · exact ht.single e he e' he' c c' hc hc' hid
  finished _ ha hst := ht.finished_step hn hstep ha hst

end Tracked

theorem Reached.tracked (hr : Reached E h s) : Tracked h s := by
  refine hr.induct (fun s₀ hinit => ?_) fun h₀ s₀ action s₁ hr₀ ht hstep =>
    ht.step (Reached.ok hr₀).sound.keyed.attemptIDs (hstep.claimStep (Reached.ok hr₀))
  obtain ⟨⟨tenants, hdb⟩, hlanes, -⟩ := hinit
  constructor <;> simp [hlanes, hdb, Lane.progress]

end MailService
