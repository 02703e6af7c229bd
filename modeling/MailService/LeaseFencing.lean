import MailService.Dispatching
import MailService.Outbox
/-!
# Lease fencing

A relay's claim of an outbox row is its token. Tokens are never drawn twice, so a
row remembers which claim it belongs to, and the result of any other claim finds
no row to record on.
-/
open Runs Checks Table

namespace MailService

open Db

variable {E : Env} {s s' : System} {action : Action} {h newer older : History} {leased : LeasedOutboxEvent}

/-- A claim in the history handed out this event. -/
def Claimed (h : History) (leased : LeasedOutboxEvent) : Prop :=
  ∃ now events reported s₁, (.lease now events reported, s₁) ∈ h ∧ leased ∈ events

/-- `Publish` returned nil for this claim. -/
def Delivered (h : History) (leased : LeasedOutboxEvent) : Prop :=
  ∃ reply s₁, (.publish leased reply, s₁) ∈ h ∧
    (publish .default ⟨leased.event, leased.attemptNumber⟩ reply).2 = .ok ()

structure Fenced (E : Env) (h : History) (s : System) : Prop where
  tokens : ∀ o ∈ s.db.outbox, ∀ token leaseUntil, o.lease = some (token, leaseUntil) → token ∈ s.tokens
  attempts : ∀ o ∈ s.db.outbox, o.attemptCount ≤ E.maxAttempts ∧
    (o.status = .pending → o.attemptCount = 0 ∨ o.attemptCount < E.maxAttempts)
  jobs : ∀ job ∈ s.jobs, Claimed h job.leased ∧ E.maxAttempts ≠ 0
  answers : ∀ job ∈ s.jobs, ∀ contextError, job.result = some (.ok (), contextError) → Delivered h job.leased
  claims : ∀ leased, Claimed h leased →
    leased.validate = .ok () ∧ leased.leaseToken ∈ s.tokens ∧ ∃ o ∈ s.db.outbox, o.event = leased.event

theorem Claimed.cons (hc : Claimed h leased) : Claimed ((action, s') :: h) leased := by
  obtain ⟨now, events, reported, s₁, hmem, hl⟩ := hc
  exact ⟨now, events, reported, s₁, List.mem_cons_of_mem _ hmem, hl⟩

theorem Delivered.cons (hd : Delivered h leased) : Delivered ((action, s') :: h) leased := by
  obtain ⟨reply, s₁, hmem, hok⟩ := hd
  exact ⟨reply, s₁, List.mem_cons_of_mem _ hmem, hok⟩

theorem Claimed.of_cons (hc : Claimed ((action, s') :: h) leased) :
    Claimed h leased ∨ ∃ now events reported, action = .lease now events reported ∧ leased ∈ events := by
  obtain ⟨now, events, reported, s₁, hmem, hl⟩ := hc
  rcases List.mem_cons.1 hmem with heq | hmem
  · exact .inr ⟨now, events, reported, (Prod.mk.inj heq).1.symm, hl⟩
  · exact .inl ⟨now, events, reported, s₁, hmem, hl⟩

/-! ## One step -/

/-- The events that a claim hands out. -/
theorem OutboxStep.lease_events {now : Time} {events : List LeasedOutboxEvent} {reported : Bool}
    (hstep : OutboxStep E s (.lease now events reported) s') (hl : leased ∈ events) :
    leased.validate = .ok () ∧ leased.leaseToken ∉ s.tokens ∧ leased.leaseToken ∈ s'.tokens ∧
      ∃ o ∈ s.db.outbox, claimable now o = true ∧ leased = o.leasedEvent leased.leaseToken leased.leaseUntil ∧
        o.leasedTo leased.leaseToken leased.leaseUntil ∈ s'.db.outbox := by
  cases hstep with
  | written _ about => simp [Action.relays] at about
  | @leased _ leaseUntil _ _ token claimed _ fresh _ batch tokens =>
    rw [batch.events] at hl
    obtain ⟨o, ho, rfl⟩ := List.mem_map.1 hl
    have hmem := List.mem_map_of_mem (f := fun o => if o ∈ claimed then o.leasedTo token leaseUntil else o)
      (batch.mem o ho)
    rw [← batch.outbox, if_pos ho] at hmem
    exact ⟨batch.valid o ho, fresh, by simp [tokens, OutboxRow.leasedEvent], o, batch.mem o ho,
      batch.claimable o ho, rfl, hmem⟩
  | dropped _ _ about => simp at about

/-- What the relay decides keeps the number of attempts within the limit. -/
theorem decideCompletion_bound {maxAttempts attemptNumber : Nat} {published : Except PublishError Unit}
    {contextError : Option ContextError} {delay : Int} {completion : Completion}
    (h : decideCompletion maxAttempts attemptNumber published contextError delay = .ok completion) :
    (completion = .published → published = .ok ()) ∧
      ((∃ delay code, completion = .retried delay code) → attemptNumber < maxAttempts) := by
  unfold decideCompletion at h
  split at h
  · obtain rfl := Except.ok.inj h
    simp
  · dsimp only at h
    split at h
    · obtain rfl := Except.ok.inj h
      simp
    · rename_i hlimit
      split at h
      · simp at h
      · obtain rfl := Except.ok.inj h
        refine ⟨by simp, fun _ => ?_⟩
        omega

theorem OutboxRow.recorded_attempts (o : OutboxRow) (attemptNumber : Nat) (now : Time)
    (completion : Completion) :
    (o.recorded attemptNumber now completion).attemptCount = attemptNumber := by
  cases completion with
  | published => rfl
  | retried => rw [recorded]
  | deadLettered => rfl

theorem OutboxRow.recorded_lease (o : OutboxRow) (attemptNumber : Nat) (now : Time)
    (completion : Completion) :
    (o.recorded attemptNumber now completion).lease = none := by
  cases completion with
  | published => rfl
  | retried => rw [recorded]
  | deadLettered => rfl

theorem OutboxRow.recorded_status (o : OutboxRow) (attemptNumber : Nat) (now : Time)
    (completion : Completion) :
    (o.recorded attemptNumber now completion).status = match completion with
      | .published => .published
      | .retried _ _ => o.status
      | .deadLettered _ => .deadLettered := by
  cases completion with
  | published => rfl
  | retried => rw [recorded]
  | deadLettered => rfl

theorem Fenced.attempts_step (hf : Fenced E h s) (hstep : OutboxStep E s action s') {o' : OutboxRow}
    (ho' : o' ∈ s'.db.outbox) : o'.attemptCount ≤ E.maxAttempts ∧
      (o'.status = .pending → o'.attemptCount = 0 ∨ o'.attemptCount < E.maxAttempts) := by
  rcases hstep.origin ho' with ho | hu | ⟨o, ho, token, leaseUntil, -, rfl⟩ |
    ⟨o, ho, leased, now, completion, hr, rfl⟩
  · exact hf.attempts o' ho
  · simp [hu.attempts]
  · exact hf.attempts o ho
  · obtain ⟨hle, hpending⟩ := hf.attempts o ho
    obtain ⟨published, contextError, delay, hjob, hdecided⟩ := hr.job
    have hpos := (hf.jobs _ hjob).2
    have hnumber : o.attemptCount + 1 = leased.attemptNumber := hr.holds.attempt
    have hlt := hpending hr.holds.pending
    obtain ⟨-, hretried⟩ := decideCompletion_bound hdecided
    rw [o.recorded_attempts, o.recorded_status]
    refine ⟨by omega, fun hp => .inr ?_⟩
    cases completion with
    | published => simp at hp
    | retried delay code => exact hretried ⟨_, _, rfl⟩
    | deadLettered code => simp at hp

theorem Fenced.step (hf : Fenced E h s) (hstep : OutboxStep E s action s') :
    Fenced E ((action, s') :: h) s' where
  tokens o' ho' token leaseUntil hlease := by
    rcases hstep.origin ho' with ho | hu | ⟨o, ho, token', leaseUntil', hl, rfl⟩ |
      ⟨o, ho, leased, now, completion, -, rfl⟩
    · exact hstep.tokens_subset (hf.tokens o' ho token leaseUntil hlease)
    · simp [hu.lease] at hlease
    · obtain ⟨now, events, reported, rfl, -, hevent⟩ := hl.action
      obtain ⟨rfl, -⟩ := Prod.mk.inj (Option.some.inj hlease)
      exact (hstep.lease_events hevent).2.2.1
    · simp [o.recorded_lease] at hlease
  attempts o' ho' := hf.attempts_step hstep ho'
  jobs job hjob := by
    rcases hstep.job_origin hjob with hjob | ⟨now, events, reported, rfl, hl, -, hmax⟩ |
      ⟨reply, _, rfl, hjob, -⟩
    · exact ⟨(hf.jobs job hjob).1.cons, (hf.jobs job hjob).2⟩
    · exact ⟨⟨now, events, reported, s', by simp, hl⟩, hmax⟩
    · exact ⟨(hf.jobs _ hjob).1.cons, (hf.jobs _ hjob).2⟩
  answers job hjob contextError hresult := by
    rcases hstep.job_origin hjob with hjob | ⟨now, events, reported, rfl, -, hnone, -⟩ |
      ⟨reply, _, rfl, -, hanswer⟩
    · exact (hf.answers job hjob contextError hresult).cons
    · simp [hnone] at hresult
    · rw [hanswer] at hresult
      exact ⟨reply, s', by simp, (Prod.mk.inj (Option.some.inj hresult)).1⟩
  claims leased hc := by
    rcases hc.of_cons with hc | ⟨now, events, reported, rfl, hl⟩
    · obtain ⟨hv, ht, o, ho, he⟩ := hf.claims leased hc
      obtain ⟨o', ho', he'⟩ := hstep.event_mem ho
      exact ⟨hv, hstep.tokens_subset ht, o', ho', he'.trans he⟩
    · obtain ⟨hv, -, ht, o, ho, -, heq, ho'⟩ := hstep.lease_events hl
      exact ⟨hv, ht, _, ho', by rw [heq]; rfl⟩

theorem Reached.fenced (hr : Reached E h s) : Fenced E h s := by
  refine hr.induct (fun s₀ hinit => ?_) fun h₀ s₀ action s₁ hr₀ hf hstep =>
    hf.step (hstep.outboxStep (Reached.ok hr₀))
  obtain ⟨⟨tenants, hdb⟩, -, -, -, hjobs, -⟩ := hinit
  constructor <;> simp [hdb, hjobs, Claimed]

/-! ## What becomes of a claim -/

/-- The row is leased to this claim. -/
structure LeasedOutboxEvent.Current (leased : LeasedOutboxEvent) (o : OutboxRow) : Prop where
  event : o.event = leased.event
  pending : o.status = .pending
  lease : o.lease = some (leased.leaseToken, leased.leaseUntil)
  attempt : o.attemptCount + 1 = leased.attemptNumber

/-- The row that a claim's reference holds is the row of its event. -/
theorem Reached.holds_event (hr : Reached E h s) (hc : Claimed h leased) {o : OutboxRow}
    (ho : o ∈ s.db.outbox) (hholds : leased.reference.Holds o) : o.event = leased.event := by
  have hsound := (Reached.ok hr).sound
  obtain ⟨-, -, o₁, ho₁, he⟩ := (Reached.fenced hr).claims leased hc
  have hid : uuidColumn leased.event.id = some o.event.id := hholds.id
  rw [← he, hsound.uuidColumn_event ho₁] at hid
  have : o₁ = o := List.inj_on_of_nodup_map hsound.keyed.outboxIDs ho₁ ho (Option.some.inj hid)
  rw [← this, he]

theorem Reached.tokens_subset (hr : Reached E (newer ++ (action, s') :: older) s) : s'.tokens ⊆ s.tokens := by
  induction newer generalizing s with
  | nil =>
    cases hr
    exact List.Subset.refl _
  | cons e newer ih =>
    cases hr with
    | next hr hstep => exact List.Subset.trans (ih hr) (hstep.outboxStep (Reached.ok hr)).tokens_subset

/-- A claim is current until its result is recorded, or until its lease has run out and the row is
claimed again. -/
theorem Reached.claim_fate {now : Time} {events : List LeasedOutboxEvent} {reported : Bool} {s₁ : System}
    (hr : Reached E (newer ++ (.lease now events reported, s₁) :: older) s) (hl : leased ∈ events) :
    (∃ o ∈ s.db.outbox, leased.Current o) ∨
    (∃ other completion s₂, (.record other completion, s₂) ∈ newer ∧ other.reference = leased.reference) ∨
    ∃ now' events' reported' s₂ leased', (.lease now' events' reported', s₂) ∈ newer ∧ leased' ∈ events' ∧
      leased'.event = leased.event ∧ leased.leaseUntil ≤ now' := by
  induction newer generalizing s with
  | nil =>
    cases hr with
    | next hr hstep =>
      obtain ⟨-, -, -, o, -, hclaimable, heq, ho'⟩ := (hstep.outboxStep (Reached.ok hr)).lease_events hl
      refine .inl ⟨_, ho', ?_, ?_, rfl, ?_⟩
      · rw [heq]
        rfl
      · simp only [claimable, Bool.and_eq_true, decide_eq_true_eq] at hclaimable
        exact hclaimable.1.1
      · rw [heq]
        rfl
  | cons e newer ih =>
    cases hr with
    | @next _ s₀ _ action hr hstep =>
      have hout := hstep.outboxStep (Reached.ok hr)
      rcases ih hr with ⟨o, ho, hcurrent⟩ | ⟨other, completion, s₂, hmem, href⟩ |
        ⟨now', events', reported', s₂, leased', hmem, hl', he', hle⟩
      · rcases hout.fate ho with ho' | ⟨token, leaseUntil, hby, -⟩ | ⟨other, now', completion, hby, -⟩
        · exact .inl ⟨o, ho', hcurrent⟩
        · obtain ⟨now', events', reported', rfl, hclaimable, hevent⟩ := hby.action
          refine .inr (.inr ⟨now', events', reported', s, _, by simp, hevent, hcurrent.event, ?_⟩)
          simp only [claimable, hcurrent.lease, Option.all_some, Bool.and_eq_true,
            decide_eq_true_eq] at hclaimable
          exact hclaimable.2
        · obtain ⟨published, contextError, delay, hjob, -⟩ := hby.job
          have he := Reached.holds_event hr ((Reached.fenced hr).jobs _ hjob).1 ho hby.holds
          refine .inr (.inl ⟨other, completion, s, by simp [hby.action], ?_⟩)
          have howner : some leased.leaseToken = some other.leaseToken := by
            rw [← show o.lease.map Prod.fst = some other.leaseToken from hby.holds.owner, hcurrent.lease]
            rfl
          have hattempt : o.attemptCount + 1 = other.attemptNumber := hby.holds.attempt
          rw [LeasedOutboxEvent.reference, LeasedOutboxEvent.reference, ← he, hcurrent.event,
            Option.some.inj howner, ← hattempt, hcurrent.attempt]
      · exact .inr (.inl ⟨other, completion, s₂, List.mem_cons_of_mem _ hmem, href⟩)
      · exact .inr (.inr ⟨now', events', reported', s₂, leased', List.mem_cons_of_mem _ hmem, hl', he', hle⟩)

/-- Since a claim, its row was leased only to it and to tokens drawn later. -/
theorem Reached.owner_since {now : Time} {events : List LeasedOutboxEvent} {reported : Bool} {s₁ : System}
    (hr : Reached E (newer ++ (.lease now events reported, s₁) :: older) s)
    (hl : leased ∈ events) {o : OutboxRow} (ho : o ∈ s.db.outbox) (hid : o.event.id = leased.event.id)
    {token : String} {leaseUntil : Time} (hlease : o.lease = some (token, leaseUntil)) :
    token = leased.leaseToken ∨ token ∉ s₁.tokens := by
  induction newer generalizing s o with
  | nil =>
    have hn := (Reached.ok hr).sound.keyed.outboxIDs
    cases hr with
    | next hr hstep =>
      obtain ⟨-, -, -, o₁, -, -, heq, ho'⟩ := (hstep.outboxStep (Reached.ok hr)).lease_events hl
      have hid' : (o₁.leasedTo leased.leaseToken leased.leaseUntil).event.id = o.event.id := by
        rw [hid, heq]
        rfl
      have : o₁.leasedTo leased.leaseToken leased.leaseUntil = o := List.inj_on_of_nodup_map hn ho' ho hid'
      rw [← this] at hlease
      exact .inl (Prod.mk.inj (Option.some.inj hlease)).1.symm
  | cons e newer ih =>
    cases hr with
    | next hr hstep =>
      rcases (hstep.outboxStep (Reached.ok hr)).origin ho with ho | hu |
        ⟨o₁, ho₁, token', leaseUntil', hby, rfl⟩ | ⟨o₁, ho₁, other, now', completion, -, rfl⟩
      · exact ih hr ho hid hlease
      · simp [hu.lease] at hlease
      · obtain ⟨rfl, -⟩ := Prod.mk.inj (Option.some.inj hlease)
        exact .inr fun hmem => hby.fresh (Reached.tokens_subset hr hmem)
      · simp [o₁.recorded_lease] at hlease

/-- A claim whose row was claimed again holds no row. -/
theorem Reached.superseded {now now' : Time} {events events' : List LeasedOutboxEvent}
    {reported reported' : Bool} {s₁ s₂ : System} {between : History} {leased' : LeasedOutboxEvent}
    (hr : Reached E (newer ++ (.lease now' events' reported', s₂) ::
      (between ++ (.lease now events reported, s₁) :: older)) s)
    (hl : leased ∈ events) (hl' : leased' ∈ events') (he : leased'.event.id = leased.event.id) {o : OutboxRow}
    (ho : o ∈ s.db.outbox) : ¬ leased.reference.Holds o := by
  intro hholds
  have hc : Claimed (newer ++ (.lease now' events' reported', s₂) ::
      (between ++ (.lease now events reported, s₁) :: older))
        leased := ⟨now, events, reported, s₁, by simp, hl⟩
  have hevent := Reached.holds_event hr hc ho hholds
  obtain ⟨⟨token, leaseUntil⟩, hlease, hfst⟩ := Option.map_eq_some_iff.1 hholds.owner
  obtain rfl : token = leased.leaseToken := hfst
  obtain ⟨s₃, hr₃, hstep, -⟩ := hr.split
  have hbefore : leased.leaseToken ∈ s₃.tokens := by
    obtain ⟨s₄, hr₄, hstep₄, -⟩ := hr₃.split
    exact Reached.tokens_subset hr₃ ((hstep₄.outboxStep (Reached.ok hr₄)).lease_events hl).2.2.1
  have hlater := hstep.outboxStep (Reached.ok hr₃)
  rcases Reached.owner_since hr hl' ho (by rw [hevent, he]) hlease with heq | hnot
  · exact (hlater.lease_events hl').2.1 (heq ▸ hbefore)
  · exact hnot (hlater.tokens_subset hbefore)

/-! ## Late results -/

/-- What the database accepts as a result. -/
def Completion.Valid : Completion → Prop
  | .published => True
  | .retried delay errorCode => delay ≤ 24 * 3600 * second ∧ validStableCode errorCode = true
  | .deadLettered errorCode => validStableCode errorCode = true

theorem classifyPublishFailure_code (e : PublishError) (contextError : Option ContextError) :
    validStableCode (classifyPublishFailure e contextError).1 = true := by
  unfold classifyPublishFailure
  split
  · decide
  · decide
  · split
    · assumption
    · decide
  · decide

theorem decideCompletion_valid {maxAttempts attemptNumber : Nat} {published : Except PublishError Unit}
    {contextError : Option ContextError} {delay : Int} {completion : Completion}
    (h : decideCompletion maxAttempts attemptNumber published contextError delay = .ok completion) :
    completion.Valid := by
  unfold decideCompletion at h
  split at h
  · obtain rfl := Except.ok.inj h
    trivial
  · rename_i e
    have hcode := classifyPublishFailure_code e contextError
    dsimp only at h
    split at h
    · obtain rfl := Except.ok.inj h
      exact hcode
    · split at h
      · simp at h
      · rename_i hdelay
        obtain rfl := Except.ok.inj h
        refine ⟨?_, hcode⟩
        simp only [second] at hdelay ⊢
        omega

theorem completeLease_eq_error {db : Db} {reference : OutboxLeaseReference} {id operation : String}
    {f : OutboxRow → OutboxRow} {e : Error} (hid : uuidColumn reference.eventID = some id) :
    db.completeLease reference operation f = .error e ↔
      e = .outboxLeaseLost ∧ ∀ o ∈ db.outbox, ¬ reference.Holds o := by
  have hany : db.outbox.any (holdsLease reference id) = true ↔ ∃ o ∈ db.outbox, reference.Holds o := by
    simp only [List.any_eq_true, holdsLease_iff hid]
  unfold completeLease
  simp only [hid]
  split
  · rename_i hsome
    obtain ⟨o, ho, hholds⟩ := hany.1 hsome
    simp only [reduceCtorEq, false_iff, not_and, not_forall]
    exact fun _ => ⟨o, ho, not_not.2 hholds⟩
  · rename_i hnone
    rw [hany] at hnone
    simp only [Except.error.injEq]
    constructor
    · rintro rfl
      exact ⟨rfl, fun o ho hholds => hnone ⟨o, ho, hholds⟩⟩
    · rintro ⟨rfl, -⟩
      rfl

theorem recordCompletion_eq_error {db : Db} {reference : OutboxLeaseReference} {id : String} {now : Time}
    {completion : Completion} {e : Error} (hv : reference.validate = .ok ())
    (hid : uuidColumn reference.eventID = some id) (hc : completion.Valid) :
    recordCompletion reference now db completion = .error e ↔
      e = .outboxLeaseLost ∧ ∀ o ∈ db.outbox, ¬ reference.Holds o := by
  cases completion with
  | published =>
    simp only [recordCompletion, markPublished, hv, ok_bind]
    exact completeLease_eq_error hid
  | retried delay errorCode =>
    simp only [recordCompletion, reschedule, hv, ok_bind]
    rw [check_bind hc.1, check_bind hc.2]
    exact completeLease_eq_error hid
  | deadLettered errorCode =>
    simp only [recordCompletion, deadLetter, hv, ok_bind]
    rw [check_bind (show validStableCode errorCode = true from hc)]
    exact completeLease_eq_error hid

/-- The result of a job is recorded or finds its lease lost, and nothing else. -/
theorem Reached.record_eq_error (hr : Reached E h s) {published : Except PublishError Unit}
    {contextError : Option ContextError} {delay : Int} {completion : Completion} {now : Time} {e : Error}
    (hjob : ⟨leased, some (published, contextError)⟩ ∈ s.jobs)
    (hdecided : decideCompletion E.maxAttempts leased.attemptNumber published contextError delay =
      .ok completion) :
    recordCompletion leased.reference now s.db completion = .error e ↔
      e = .outboxLeaseLost ∧ ∀ o ∈ s.db.outbox, ¬ leased.reference.Holds o := by
  have hf := Reached.fenced hr
  obtain ⟨hv, -, o, ho, he⟩ := hf.claims leased (hf.jobs _ hjob).1
  have hid : uuidColumn leased.reference.eventID = some o.event.id := by
    rw [← (Reached.ok hr).sound.uuidColumn_event ho, he]
    rfl
  exact recordCompletion_eq_error (LeasedOutboxEvent.reference_valid hv) hid (decideCompletion_valid hdecided)

/-! ## The fence -/

/-- What a recorded result did to the row `o`, which its claim held. -/
structure RecordedOn (h : History) (s s' : System) (leased : LeasedOutboxEvent) (completion : Completion)
    (o o' : OutboxRow) : Prop where
  mem : o ∈ s.db.outbox
  event : o.event = leased.event
  pending : o.status = .pending
  owner : o.lease.map Prod.fst = some leased.leaseToken
  number : leased.attemptNumber = o.attemptCount + 1
  outbox : s'.db.outbox = exchange s.db.outbox o o'
  kept : o'.event = o.event
  attempts : o'.attemptCount = o.attemptCount + 1
  lease : o'.lease = none
  status : o'.status = match completion with
    | .published => .published
    | .retried _ _ => .pending
    | .deadLettered _ => .deadLettered
  delivered : completion = .published → Delivered h leased

theorem Reached.recordedOn (hr : Reached E h s) {completion : Completion}
    (hstep : Step E s (.record leased completion) s') : ∃ o o', RecordedOn h s s' leased completion o o' := by
  have hf := Reached.fenced hr
  cases hstep.outboxStep (Reached.ok hr) with
  | written _ about => simp [Action.relays] at about
  | @recorded _ published contextError delay _ now o before after _ job _ decided row =>
    have hjob : ⟨leased, some (published, contextError)⟩ ∈ s.jobs := by simp [job]
    have hattempt : o.attemptCount + 1 = leased.attemptNumber := row.holds.attempt
    refine ⟨o, _, row.mem, Reached.holds_event hr (hf.jobs _ hjob).1 row.mem row.holds, row.holds.pending,
      row.holds.owner, hattempt.symm, row.outbox, o.recorded_event _ _ _, ?_, o.recorded_lease _ _ _, ?_, ?_⟩
    · rw [o.recorded_attempts, hattempt]
      rfl
    · rw [o.recorded_status]
      cases completion with
      | published => rfl
      | retried => exact row.holds.pending
      | deadLettered => rfl
    · intro hc
      obtain rfl := (decideCompletion_bound decided).1 hc
      exact hf.answers _ hjob contextError rfl
  | dropped _ _ about => simp at about

/-- Any step but a record adds untried rows and leases others, and leaves a row that is not pending
as it is. -/
theorem Reached.row_kept (hr : Reached E h s) (hstep : Step E s action s') {o : OutboxRow}
    (ho : o ∈ s.db.outbox) (hdone : o.status ≠ .pending) : o ∈ s'.db.outbox := by
  rcases (hstep.outboxStep (Reached.ok hr)).fate ho with ho' | ⟨token, leaseUntil, hby, -⟩ |
    ⟨leased, now, completion, hby, -⟩
  · exact ho'
  · obtain ⟨now, events, reported, -, hclaimable, -⟩ := hby.action
    simp only [claimable, Bool.and_eq_true, decide_eq_true_eq] at hclaimable
    exact absurd hclaimable.1.1 hdone
  · exact absurd hby.holds.pending hdone

theorem Reached.row_unrecorded (hr : Reached E h s) (hstep : Step E s action s')
    (hrecord : ∀ leased completion, action ≠ .record leased completion) {o' : OutboxRow}
    (ho' : o' ∈ s'.db.outbox) :
    o'.Untried ∨ ∃ o ∈ s.db.outbox, o' = { o with lease := o'.lease } := by
  rcases (hstep.outboxStep (Reached.ok hr)).origin ho' with ho | hu | ⟨o, ho, token, leaseUntil, -, rfl⟩ |
    ⟨o, -, leased, now, completion, hby, -⟩
  · exact .inr ⟨o', ho, rfl⟩
  · exact .inl hu
  · exact .inr ⟨o, ho, rfl⟩
  · exact absurd hby.action (hrecord leased completion)

/-- A row is claimed again only when the claim before it has a recorded result or a lease that has
run out, at the latest by the highest time that a claim has seen. -/
theorem Reached.claimed_again {now now' : Time} {events events' : List LeasedOutboxEvent}
    {reported reported' : Bool} {s₁ : System} {between : History} {leased' : LeasedOutboxEvent}
    (hr : Reached E (between ++ (.lease now events reported, s₁) :: older) s)
    (hstep : Step E s (.lease now' events' reported') s') (hl : leased ∈ events) (hl' : leased' ∈ events')
    (he : leased'.event.id = leased.event.id) :
    (∃ other completion s₃, (.record other completion, s₃) ∈ between ∧ other.reference = leased.reference) ∨
    leased.leaseUntil ≤ now' ∨
    ∃ t events'' reported'' s₃, (.lease t events'' reported'', s₃) ∈ between ∧ now' < t ∧
      leased.leaseUntil ≤ t := by
  rcases Reached.claim_fate hr hl with ⟨o, ho, hcurrent⟩ | hrecord |
    ⟨t, events'', reported'', s₃, _, hmem, -, -, hle⟩
  · right; left
    obtain ⟨-, -, -, o₂, ho₂, hclaimable, heq, -⟩ := (hstep.outboxStep (Reached.ok hr)).lease_events hl'
    have hid : o₂.event.id = o.event.id := by
      rw [hcurrent.event, ← he, heq]
      rfl
    obtain rfl : o₂ = o := List.inj_on_of_nodup_map (Reached.ok hr).sound.keyed.outboxIDs ho₂ ho hid
    simp only [claimable, hcurrent.lease, Option.all_some, Bool.and_eq_true, decide_eq_true_eq] at hclaimable
    exact hclaimable.2
  · exact .inl hrecord
  · right
    by_cases hlt : now' < t
    · exact .inr ⟨t, events'', reported'', s₃, hmem, hlt, hle⟩
    · exact .inl (le_trans hle (not_lt.1 hlt))

/-- Outbox leases fence the relays. A result is recorded on the row that its claim holds, raises its
attempts by one and clears its lease; only a record changes a row in anything but its lease, and no
step changes a row that is PUBLISHED or DEAD_LETTERED; no row has more attempts than the relays
allow; a row is claimed again only after a result or a lease that ran out, and the claim before it
then holds no row; and a result whose claim holds no row is reported as a lost lease. -/
theorem outbox_lease_fencing (hr : Reached E h s) :
    (∀ leased completion s', Step E s (.record leased completion) s' →
      ∃ o o', RecordedOn h s s' leased completion o o') ∧
    (∀ action s', Step E s action s' → (∀ leased completion, action ≠ .record leased completion) →
      ∀ o' ∈ s'.db.outbox, o'.Untried ∨ ∃ o ∈ s.db.outbox, o' = { o with lease := o'.lease }) ∧
    (∀ action s', Step E s action s' → ∀ o ∈ s.db.outbox, o.status ≠ .pending → o ∈ s'.db.outbox) ∧
    (∀ o ∈ s.db.outbox, o.attemptCount ≤ E.maxAttempts) ∧
    (∀ newer between older now now' events events' reported reported' s₁ s₂ leased leased',
      h = newer ++ (.lease now' events' reported', s₂) ::
      (between ++ (.lease now events reported, s₁) :: older) →
      leased ∈ events → leased' ∈ events' → leased'.event.id = leased.event.id →
      ((∃ other completion s₃, (.record other completion, s₃) ∈ between ∧
        other.reference = leased.reference) ∨
        leased.leaseUntil ≤ now' ∨ ∃ t events'' reported'' s₃, (.lease t events'' reported'', s₃) ∈ between ∧
          now' < t ∧ leased.leaseUntil ≤ t) ∧
      ∀ o ∈ s.db.outbox, ¬ leased.reference.Holds o) ∧
    (∀ leased published contextError delay completion now, ⟨leased, some (published, contextError)⟩ ∈ s.jobs →
      decideCompletion E.maxAttempts leased.attemptNumber published contextError delay = .ok completion →
      (∀ o ∈ s.db.outbox, ¬ leased.reference.Holds o) →
      recordCompletion leased.reference now s.db completion = .error .outboxLeaseLost) ∧
    ∀ leased outcome s', Step E s (.recordFailed leased outcome) s' →
      outcome = .leaseLost ∧ s'.db = s.db := by
  refine ⟨fun _ _ _ hstep => Reached.recordedOn hr hstep, fun _ _ hstep hrecord o' ho' =>
    Reached.row_unrecorded hr hstep hrecord ho',
      fun _ _ hstep o ho hdone => Reached.row_kept hr hstep ho hdone,
    fun o ho => ((Reached.fenced hr).attempts o ho).1, ?_, ?_, ?_⟩
  · rintro newer between older now now' events events' reported reported' s₁ s₂ leased leased' rfl hl hl' he
    obtain ⟨s₃, hr₃, hstep, -⟩ := hr.split
    exact ⟨Reached.claimed_again hr₃ hstep hl hl' he, fun o ho => Reached.superseded hr hl hl' he ho⟩
  · intro leased published contextError delay completion now hjob hdecided hnone
    exact (Reached.record_eq_error hr hjob hdecided).2 ⟨rfl, hnone⟩
  · intro leased outcome s' hstep
    cases hstep with
    | @recordFailed _ published contextError delay completion now e before after hjob hdecided hfailed =>
      have hmem : ⟨leased, some (published, contextError)⟩ ∈ s.jobs := by simp [hjob]
      obtain ⟨rfl, -⟩ := (Reached.record_eq_error hr hmem hdecided).1 hfailed
      exact ⟨rfl, rfl⟩

/-- A message is accepted, and its request is leased, published and recorded. -/
theorem outbox_lease_fencing_recorded :
    ∃ E h s leased s₁, Reached E h s ∧ (.record leased .published, s₁) ∈ h ∧
    (∀ o ∈ s.db.outbox, o.attemptCount ≤ E.maxAttempts) ∧
    ∀ action s', Step E s action s' → ∀ o ∈ s.db.outbox, o.status ≠ .pending → o ∈ s'.db.outbox := by
  obtain ⟨hash, h, s, leased, c, request, s₁, s₂, -, hr, -, hrecord, -⟩ := Sample.exists_called
  obtain ⟨-, -, hkept, hattempts, -⟩ := outbox_lease_fencing hr
  exact ⟨_, h, s, leased, s₂, hr, hrecord, hattempts, hkept⟩

end MailService
