import MailService.Evolution
/-!
# The outbox along a run

What one step does to the outbox rows, the relays' jobs and the tokens. All
transactions but the relays' only add rows that nobody has tried to publish; a
relay leases rows, publishes, and records on the row its lease still holds.
-/
open Runs Checks Table

namespace MailService

open Db

variable {E : Env} {s s' : System} {db db' : Db} {action : Action} {h : History}

/-- A row that no relay has touched. -/
structure OutboxRow.Untried (o : OutboxRow) : Prop where
  pending : o.status = .pending
  attempts : o.attemptCount = 0
  lease : o.lease = none

/-- The actions of relays. -/
def Action.relays : Action → Bool
  | .lease .. | .leaseFailed | .publish .. | .record .. | .recordFailed .. | .jobLost _ => true
  | _ => false

inductive OutboxStep (E : Env) (s : System) : Action → System → Prop
  /-- No relay's step: at most new rows. -/
  | written {action : Action} {s' : System} (new : List OutboxRow) (about : action.relays = false)
      (untried : ∀ o ∈ new, o.Untried) (outbox : s'.db.outbox = s.db.outbox ++ new) (jobs : s'.jobs = s.jobs)
      (tokens : s'.tokens = s.tokens) : OutboxStep E s action s'
  | leased {now leaseUntil : Time} {events : List LeasedOutboxEvent} {reported : Bool} {token : String}
      {claimed : List OutboxRow} {s' : System} (fresh : token ∉ s.tokens) (attempts : E.maxAttempts ≠ 0)
      (batch : LeasedBatch token now leaseUntil claimed s.db s'.db events)
      (tokens : s'.tokens = token :: s.tokens)
      (jobs : s'.jobs = s.jobs ++ if reported then events.map (⟨·, none⟩) else []) :
      OutboxStep E s (.lease now events reported) s'
  | leaseFailed {token : String} {s' : System} (db : s'.db = s.db) (jobs : s'.jobs = s.jobs)
      (tokens : s'.tokens = token :: s.tokens) : OutboxStep E s .leaseFailed s'
  | tried {leased : LeasedOutboxEvent} {reply : BrokerReply} {contextError : Option ContextError}
      {before after : List Job} {s' : System} (db : s'.db = s.db) (tokens : s'.tokens = s.tokens)
      (job : s.jobs = before ++ ⟨leased, none⟩ :: after) (jobs : s'.jobs = before ++
        ⟨leased, some ((publish .default ⟨leased.event, leased.attemptNumber⟩ reply).2, contextError)⟩ ::
        after) :
      OutboxStep E s (.publish leased reply) s'
  | recorded {leased : LeasedOutboxEvent} {published : Except PublishError Unit}
      {contextError : Option ContextError} {delay : Int} {completion : Completion} {now : Time}
      {o : OutboxRow} {before after : List Job} {s' : System}
      (job : s.jobs = before ++ ⟨leased, some (published, contextError)⟩ :: after)
      (jobs : s'.jobs = before ++ after)
      (decided : decideCompletion E.maxAttempts leased.attemptNumber published contextError delay =
        .ok completion)
      (row : Recorded leased.reference now completion o s.db s'.db) (tokens : s'.tokens = s.tokens) :
      OutboxStep E s (.record leased completion) s'
  /-- A relay gave up on a job: its record failed, or the relay did. -/
  | dropped {action : Action} {job : Job} {before after : List Job} {s' : System} (db : s'.db = s.db)
      (tokens : s'.tokens = s.tokens)
      (about : action = .jobLost job.leased ∨ ∃ outcome, action = .recordFailed job.leased outcome)
      (job : s.jobs = before ++ job :: after) (jobs : s'.jobs = before ++ after) : OutboxStep E s action s'

/-! ## The other transactions -/

theorem untried_storedOutbox (now : Time) (e : OutboxEvent) : (storedOutbox now e).Untried := ⟨rfl, rfl, rfl⟩

/-- A change only adds rows that nobody has tried. -/
theorem Change.outbox_new {L : Libs} {ids : Set Uuid} (h : Change L ids db db') :
    ∃ new, db'.outbox = db.outbox ++ new ∧ ∀ o ∈ new, o.Untried := by
  cases h with
  | created h =>
    refine ⟨_, h.outbox, fun o ho => ?_⟩
    obtain ⟨e, -, rfl⟩ := List.mem_map.1 ho
    exact untried_storedOutbox _ _
  | advanced h =>
    refine ⟨_, h.outbox, fun o ho => ?_⟩
    obtain ⟨e, -, rfl⟩ := List.mem_map.1 ho
    exact untried_storedOutbox _ _

theorem changes_outbox_new {L : Libs} {ids : Set Uuid} (h : Relation.ReflTransGen (Change L ids) db db') :
    ∃ new, db'.outbox = db.outbox ++ new ∧ ∀ o ∈ new, o.Untried := by
  induction h with
  | refl => exact ⟨[], by simp, by simp⟩
  | tail _ hstep ih =>
    obtain ⟨new, hout, hnew⟩ := ih
    obtain ⟨new', hout', hnew'⟩ := hstep.outbox_new
    refine ⟨new ++ new', by rw [hout', hout, List.append_assoc], fun o ho => ?_⟩
    rcases List.mem_append.1 ho with ho | ho
    · exact hnew o ho
    · exact hnew' o ho

theorem OutboxStep.unchanged (about : action.relays = false) (hdb : s'.db = s.db) (hjobs : s'.jobs = s.jobs)
    (htokens : s'.tokens = s.tokens) : OutboxStep E s action s' :=
  .written [] about (by simp) (by simp [hdb]) hjobs htokens

theorem OutboxStep.of_changes (h : Relation.ReflTransGen (Change E.L E.ids) s.db s'.db)
    (about : action.relays = false) (hjobs : s'.jobs = s.jobs) (htokens : s'.tokens = s.tokens) :
    OutboxStep E s action s' := by
  obtain ⟨new, hout, hnew⟩ := changes_outbox_new h
  exact .written new about hnew hout hjobs htokens

theorem OutboxRelayConfig.maxAttempts_ne_zero {config : OutboxRelayConfig} (h : config.valid = true) :
    config.maxAttempts ≠ 0 := by
  simp only [OutboxRelayConfig.valid, Bool.decide_and, Bool.and_eq_true, decide_eq_true_eq] at h
  tauto

theorem Step.outboxStep (h : Step E s action s') (hs : s.Ok E) : OutboxStep E s action s' := by
  have hk := hs.sound.keyed
  cases h with
  | submit hid h =>
    obtain ⟨p, -, heffect⟩ := submit_effect hk hid h
    exact .of_changes heffect.changes rfl rfl rfl
  | schedule h => exact .of_changes (runOnce_changes hk h) rfl rfl rfl
  | claim hlane _ h =>
    obtain ⟨-, hl⟩ := hs.lanes _ _ _ hlane
    obtain ⟨r, -, -, -, -, heffect⟩ := claim_effect hk hl h
    exact .of_changes heffect.changes rfl rfl rfl
  | finalize hlane h =>
    obtain ⟨-, hl, a, ha⟩ := hs.lanes _ _ _ hlane
    obtain ⟨a', ha', -⟩ := ha.later hl
    obtain ⟨r, -, -, -, -, -, -, heffect⟩ := finalize_effect hk hl ha' h
    exact .of_changes heffect.changes rfl rfl rfl
  | lease hvalid hmax hfresh h =>
    obtain ⟨leaseUntil, claimed, hleased⟩ := claimBatch_leased hk.outboxIDs h
    exact .leased hfresh (hmax ▸ OutboxRelayConfig.maxAttempts_ne_zero hvalid) hleased rfl rfl
  | leaseFailed => exact .leaseFailed rfl rfl rfl
  | publish hjob => exact .tried rfl rfl hjob rfl
  | record hjob hdecided h =>
    obtain ⟨o, hrecorded⟩ := recordCompletion_recorded hk.outboxIDs h
    exact .recorded hjob rfl hdecided hrecorded rfl
  | recordFailed hjob => exact .dropped rfl rfl (.inr ⟨_, rfl⟩) hjob rfl
  | jobLost hjob => exact .dropped rfl rfl (.inl rfl) hjob rfl
  | @settle _ _ answer => cases answer <;> exact .unchanged rfl rfl rfl rfl
  | _ => exact .unchanged rfl rfl rfl rfl

/-! ## One row -/

/-- A row that this step leased. -/
structure LeasedBy (s : System) (action : Action) (o : OutboxRow) (token : String) (leaseUntil : Time) :
    Prop where
  action : ∃ now events reported, action = .lease now events reported ∧ claimable now o = true ∧
    o.leasedEvent token leaseUntil ∈ events
  fresh : token ∉ s.tokens

/-- A row whose result this step recorded. -/
structure RecordedBy (E : Env) (s : System) (action : Action) (o : OutboxRow)
    (leased : LeasedOutboxEvent) (now : Time) (completion : Completion) : Prop where
  action : action = .record leased completion
  holds : leased.reference.Holds o
  job : ∃ published contextError delay, ⟨leased, some (published, contextError)⟩ ∈ s.jobs ∧
    decideCompletion E.maxAttempts leased.attemptNumber published contextError delay = .ok completion

/-- Where a row of the outbox comes from. -/
theorem OutboxStep.origin (hstep : OutboxStep E s action s') {o' : OutboxRow} (ho' : o' ∈ s'.db.outbox) :
    o' ∈ s.db.outbox ∨ o'.Untried ∨
      (∃ o ∈ s.db.outbox, ∃ token leaseUntil, LeasedBy s action o token leaseUntil ∧
        o' = o.leasedTo token leaseUntil) ∨
      ∃ o ∈ s.db.outbox, ∃ leased now completion, RecordedBy E s action o leased now completion ∧
        o' = o.recorded leased.attemptNumber now completion := by
  cases hstep with
  | written new _ untried outbox =>
    rw [outbox] at ho'
    rcases List.mem_append.1 ho' with ho | ho
    · exact .inl ho
    · exact .inr (.inl (untried o' ho))
  | @leased now leaseUntil events reported token claimed _ fresh _ batch =>
    rw [batch.outbox] at ho'
    obtain ⟨o, ho, rfl⟩ := List.mem_map.1 ho'
    by_cases hc : o ∈ claimed
    · rw [if_pos hc]
      have hevent : o.leasedEvent token leaseUntil ∈ events := by
        rw [batch.events]
        exact List.mem_map_of_mem hc
      exact .inr (.inr (.inl ⟨o, ho, token, leaseUntil,
        ⟨⟨now, events, reported, rfl, batch.claimable o hc, hevent⟩, fresh⟩, rfl⟩))
    · rw [if_neg hc]
      exact .inl ho
  | leaseFailed db => exact .inl (db ▸ ho')
  | tried db => exact .inl (db ▸ ho')
  | @recorded leased published contextError delay completion now o before after _ job _ decided row =>
    rw [row.outbox, mem_exchange row.mem] at ho'
    rcases ho' with rfl | ⟨ho, -⟩
    · have hjob : ⟨leased, some (published, contextError)⟩ ∈ s.jobs := by simp [job]
      exact .inr (.inr (.inr ⟨o, row.mem, leased, now, completion,
        ⟨rfl, row.holds, published, contextError, delay, hjob, decided⟩, rfl⟩))
    · exact .inl ho
  | dropped db => exact .inl (db ▸ ho')

/-- What becomes of a row of the outbox. -/
theorem OutboxStep.fate (hstep : OutboxStep E s action s') {o : OutboxRow} (ho : o ∈ s.db.outbox) :
    o ∈ s'.db.outbox ∨
      (∃ token leaseUntil, LeasedBy s action o token leaseUntil ∧
        o.leasedTo token leaseUntil ∈ s'.db.outbox) ∨
      ∃ leased now completion, RecordedBy E s action o leased now completion ∧
        o.recorded leased.attemptNumber now completion ∈ s'.db.outbox := by
  cases hstep with
  | written new _ _ outbox => exact .inl (by rw [outbox]; exact List.mem_append_left _ ho)
  | @leased now leaseUntil events reported token claimed _ fresh _ batch =>
    have hmem := List.mem_map_of_mem (f := fun o => if o ∈ claimed then o.leasedTo token leaseUntil else o) ho
    rw [← batch.outbox] at hmem
    by_cases hc : o ∈ claimed
    · rw [if_pos hc] at hmem
      have hevent : o.leasedEvent token leaseUntil ∈ events := by
        rw [batch.events]
        exact List.mem_map_of_mem hc
      exact .inr (.inl ⟨token, leaseUntil,
        ⟨⟨now, events, reported, rfl, batch.claimable o hc, hevent⟩, fresh⟩, hmem⟩)
    · rw [if_neg hc] at hmem
      exact .inl hmem
  | leaseFailed db => exact .inl (db ▸ ho)
  | tried db => exact .inl (db ▸ ho)
  | @recorded leased published contextError delay completion now o₁ before after _ job _ decided row =>
    by_cases he : o = o₁
    · subst he
      have hjob : ⟨leased, some (published, contextError)⟩ ∈ s.jobs := by simp [job]
      refine .inr (.inr ⟨leased, now, completion,
        ⟨rfl, row.holds, published, contextError, delay, hjob, decided⟩, ?_⟩)
      rw [row.outbox]
      exact (mem_exchange row.mem).2 (.inl rfl)
    · exact .inl (by rw [row.outbox]; exact (mem_exchange row.mem).2 (.inr ⟨ho, he⟩))
  | dropped db => exact .inl (db ▸ ho)

/-- The events of the outbox only grow. -/
theorem OutboxStep.event_mem (hstep : OutboxStep E s action s') {o : OutboxRow} (ho : o ∈ s.db.outbox) :
    ∃ o' ∈ s'.db.outbox, o'.event = o.event := by
  rcases hstep.fate ho with h | ⟨token, leaseUntil, -, h⟩ | ⟨leased, now, completion, -, h⟩
  · exact ⟨o, h, rfl⟩
  · exact ⟨_, h, rfl⟩
  · exact ⟨_, h, o.recorded_event _ _ _⟩

theorem OutboxStep.tokens_subset (hstep : OutboxStep E s action s') : s.tokens ⊆ s'.tokens := by
  cases hstep with
  | written _ _ _ _ _ tokens => simp [tokens]
  | leased _ _ _ tokens => simp [tokens]
  | leaseFailed _ _ tokens => simp [tokens]
  | tried _ tokens => simp [tokens]
  | recorded _ _ _ _ tokens => simp [tokens]
  | dropped _ tokens => simp [tokens]

/-- A job is an old one, possibly with its result, or one of the rows just leased. -/
theorem OutboxStep.job_origin (hstep : OutboxStep E s action s') {job : Job} (hjob : job ∈ s'.jobs) :
    job ∈ s.jobs ∨
      (∃ now events reported, action = .lease now events reported ∧ job.leased ∈ events ∧ job.result = none ∧
        E.maxAttempts ≠ 0) ∨
      ∃ reply contextError, action = .publish job.leased reply ∧ ⟨job.leased, none⟩ ∈ s.jobs ∧
        job.result = some ((publish .default ⟨job.leased.event, job.leased.attemptNumber⟩ reply).2,
          contextError) := by
  cases hstep with
  | written _ _ _ _ jobs => exact .inl (jobs ▸ hjob)
  | @leased now leaseUntil events reported token claimed _ fresh attempts batch _ jobs =>
    rw [jobs] at hjob
    rcases List.mem_append.1 hjob with hjob | hjob
    · exact .inl hjob
    · cases reported with
      | false => simp at hjob
      | true =>
        obtain ⟨leased, hleased, rfl⟩ := List.mem_map.1 hjob
        exact .inr (.inl ⟨now, events, true, rfl, hleased, rfl, attempts⟩)
  | leaseFailed _ jobs => exact .inl (jobs ▸ hjob)
  | @tried leased reply contextError before after _ _ _ job jobs =>
    rw [jobs] at hjob
    rcases List.mem_append.1 hjob with hjob | hjob
    · exact .inl (by simp [job, hjob])
    · rcases List.mem_cons.1 hjob with rfl | hjob
      · exact .inr (.inr ⟨reply, contextError, rfl, by simp [job], rfl⟩)
      · exact .inl (by simp [job, hjob])
  | recorded job jobs =>
    rw [jobs] at hjob
    exact .inl (by rcases List.mem_append.1 hjob with h | h <;> simp [job, h])
  | dropped _ _ _ job jobs =>
    rw [jobs] at hjob
    exact .inl (by rcases List.mem_append.1 hjob with h | h <;> simp [job, h])

end MailService
