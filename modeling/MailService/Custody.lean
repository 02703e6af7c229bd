import MailService.LeaseFencing
/-!
# No dispatch command is lost

A dispatch request is in the outbox until the broker has confirmed it, and in the
broker until a lane acknowledges it, and a lane acknowledges it only when the
message is past it.
-/
open Runs Checks Table

namespace MailService

open Db

variable {E : Env} {s s' : System} {db db' : Db} {action : Action} {h : History} {d : Delivery}

/-! ## Past a command -/

/-- The message has moved on since the command of this generation and sequence. -/
def MessageRow.Past (r : MessageRow) (generation sequence : Nat) : Prop :=
  generation < r.snapshot.dispatchGeneration ∨ sequence < r.snapshot.latestSequence ∨
    r.snapshot.dispatchGeneration = generation ∧ r.snapshot.latestSequence = sequence ∧
    r.snapshot.status ≠ .queued

def DispatchCommand.PastIn (command : DispatchCommand) (db : Db) : Prop :=
  ∃ r ∈ db.messages, uuidColumn command.messageID = some r.snapshot.id ∧
    r.Past command.dispatchGeneration command.aggregateSequence

def OutboxEvent.PastIn (e : OutboxEvent) (db : Db) : Prop :=
  ∃ r ∈ db.messages, r.snapshot.id = e.aggregateID ∧ r.Past e.dispatchGeneration e.aggregateSequence

theorem RowLater.past {r r' : MessageRow} {generation sequence : Nat} (h : RowLater r r')
    (hp : r.Past generation sequence) : r'.Past generation sequence := by
  rcases h with rfl | ⟨-, -, hseq, hgen⟩
  · exact hp
  · unfold MessageRow.Past at hp ⊢
    omega

theorem DispatchCommand.PastIn.later {command : DispatchCommand} (h : command.PastIn db) (hl : db.Later db') :
    command.PastIn db' := by
  obtain ⟨r, hr, hid, hp⟩ := h
  obtain ⟨r', hr', hrow⟩ := hl.messages r hr
  exact ⟨r', hr', by rw [hid, hrow.id_eq], hrow.past hp⟩

theorem OutboxEvent.PastIn.later {e : OutboxEvent} (h : e.PastIn db) (hl : db.Later db') : e.PastIn db' := by
  obtain ⟨r, hr, hid, hp⟩ := h
  obtain ⟨r', hr', hrow⟩ := hl.messages r hr
  exact ⟨r', hr', hrow.id_eq.trans hid, hrow.past hp⟩

theorem Advance.past {L : Libs} {now : Time} {r : MessageRow} {m : Message} (h : Advance L now db r m db')
    {generation sequence : Nat} (hseq : r.snapshot.latestSequence = sequence) :
    (updatedRow r m.toSnapshot).Past generation sequence := by
  have hlater : (updatedRow r m.toSnapshot).snapshot.latestSequence = r.snapshot.latestSequence + 1 :=
    h.moved.sequence
  unfold MessageRow.Past
  omega

/-- A committed claim leaves its message past the command. -/
theorem ClaimEffect.past {L : Libs} {now : Time} {command : DispatchCommand}
    {providerKey : String} {attemptID : Uuid} {r : MessageRow} {read : Db} {outcome : ClaimOutcome}
    (h : ClaimEffect L now db command providerKey attemptID r db' outcome) (hr : r ∈ read.messages)
    (hl : read.Later db) (hid : uuidColumn command.messageID = some r.snapshot.id) : command.PastIn db' := by
  -- what was read may be old, but a message never goes back
  have hold : r.Past command.dispatchGeneration command.aggregateSequence → command.PastIn db := fun hp =>
    DispatchCommand.PastIn.later ⟨r, hr, hid, hp⟩ hl
  cases h with
  | stale behind =>
    apply hold
    rcases behind with hg | hs
    · exact .inl hg
    · exact .inr (.inl hs)
  | duplicate generation sequence status => exact hold (.inr (.inr ⟨generation, sequence, status⟩))
  | expired sequence _ _ advance => exact ⟨_, advance.updated_mem, hid, advance.past sequence⟩
  | started sequence _ _ _ _ advance => exact ⟨_, advance.updated_mem, hid, advance.past sequence⟩

/-! ## Lanes -/

/-- What a lane knows of the delivery it holds. -/
def Work.Answers (L : Libs) (db : Db) (d : Delivery) : Work → Prop
  | .parsed command | .claiming command _ _ => parseDispatchDelivery L .default d = .ok command
  | .claimed c | .submitting c | .observed c _ | .finalizing c _ _ _ =>
    parseDispatchDelivery L .default d = .ok c.command ∧ c.command.PastIn db
  | .processed answer => answer = .ack →
      ∃ command, parseDispatchDelivery L .default d = .ok command ∧ command.PastIn db

theorem Work.Answers.later {L : Libs} {work : Work} (h : work.Answers L db d) (hl : db.Later db') :
    work.Answers L db' d := by
  cases work with
  | parsed => exact h
  | claiming => exact h
  | claimed => exact ⟨h.1, h.2.later hl⟩
  | submitting => exact ⟨h.1, h.2.later hl⟩
  | observed => exact ⟨h.1, h.2.later hl⟩
  | finalizing => exact ⟨h.1, h.2.later hl⟩
  | processed =>
    intro hack
    obtain ⟨command, hparse, hp⟩ := h hack
    exact ⟨command, hparse, hp.later hl⟩

theorem settlement_error_ne_ack {α : Type} (e : Error) : settlement (.error e : Except Error α) ≠ .ack := by
  simp only [settlement]
  split <;> simp

def System.Answering (E : Env) (s : System) : Prop :=
  ∀ i d work, s.lanes i = .holds d work → work.Answers E.L s.db d

theorem System.Answering.step (ha : s.Answering E) (hl : s.db.Later s'.db) (hlanes : s'.lanes = s.lanes) :
    s'.Answering E := by
  intro i d work hw
  rw [hlanes] at hw
  exact (ha i d work hw).later hl

theorem System.Answering.setLane {i : Nat} {lane : Lane} (ha : s.Answering E) (hl : s.db.Later s'.db)
    (hlanes : s'.lanes = s.lanes) (hnew : ∀ d work, lane = .holds d work → work.Answers E.L s'.db d) :
    (s'.setLane i lane).Answering E := by
  intro j d work hw
  rcases System.setLane_holds hw with ⟨-, h⟩ | ⟨-, h⟩
  · exact hnew d work h
  · rw [hlanes] at h
    exact (ha j d work h).later hl

theorem Step.answering (h : Step E s action s') (hs : s.Ok E) (ha : s.Answering E) : s'.Answering E := by
  have hlater := (h.evolves hs).later
  cases h with
  | submit => exact ha.step hlater rfl
  | schedule => exact ha.step hlater rfl
  | arrive => exact ha.step hlater rfl
  | deadLetter => exact ha.step hlater rfl
  | lease => exact ha.step hlater rfl
  | leaseFailed => exact ha.step hlater rfl
  | publish => exact ha.step hlater rfl
  | record => exact ha.step hlater rfl
  | recordFailed => exact ha.step hlater rfl
  | jobLost => exact ha.step hlater rfl
  | @deliver _ d =>
    refine ha.setLane hlater rfl fun d' work hw => ?_
    cases hw
    unfold received
    split
    · assumption
    · exact fun hack => nomatch hack
  | @readForClaim i d command _ hlane =>
    have hparse : parseDispatchDelivery E.L .default d = .ok command := ha _ _ _ hlane
    refine ha.setLane hlater rfl fun d' work hw => ?_
    cases hw
    exact hparse
  | @claim i d command read now providerKey attemptID db' outcome reported hlane _ h =>
    have hparse : parseDispatchDelivery E.L .default d = .ok command := ha _ _ _ hlane
    obtain ⟨-, hl⟩ := hs.lanes _ _ _ hlane
    obtain ⟨r, hr, hid, -, -, heffect⟩ := claim_effect hs.sound.keyed hl h
    have hpast := heffect.past hr hl hid
    refine ha.setLane hlater rfl fun d' work hw => ?_
    cases hw
    cases reported with
    | false => exact fun hack => nomatch hack
    | true =>
      cases outcome with
      | resolved => exact fun _ => ⟨command, hparse, hpast⟩
      | started c =>
        have hc : c.command = command := by cases heffect; rfl
        exact ⟨hc ▸ hparse, hc ▸ hpast⟩
  | claimFailed =>
    refine ha.setLane hlater rfl fun d' work hw => ?_
    cases hw
    exact fun hack => absurd hack (settlement_error_ne_ack _)
  | @buildFailed i d c _ _ hlane =>
    have hclaim : parseDispatchDelivery E.L .default d = .ok c.command ∧ c.command.PastIn s.db :=
      ha _ _ _ hlane
    refine ha.setLane hlater rfl fun d' work hw => ?_
    cases hw
    exact hclaim
  | @callSubmit i d c _ _ hlane =>
    have hclaim : parseDispatchDelivery E.L .default d = .ok c.command ∧ c.command.PastIn s.db :=
      ha _ _ _ hlane
    refine ha.setLane hlater rfl fun d' work hw => ?_
    cases hw
    exact hclaim
  | @submitReturned i d c _ _ hlane =>
    have hclaim : parseDispatchDelivery E.L .default d = .ok c.command ∧ c.command.PastIn s.db :=
      ha _ _ _ hlane
    refine ha.setLane hlater rfl fun d' work hw => ?_
    cases hw
    split
    · exact hclaim
    · exact fun hack => absurd hack (settlement_error_ne_ack _)
  | @readForFinalize i d c _ _ hlane =>
    have hclaim : parseDispatchDelivery E.L .default d = .ok c.command ∧ c.command.PastIn s.db :=
      ha _ _ _ hlane
    refine ha.setLane hlater rfl fun d' work hw => ?_
    cases hw
    exact hclaim
  | @finalize i d c result delay read now db' dispatched reported hlane h =>
    have hclaim : parseDispatchDelivery E.L .default d = .ok c.command ∧ c.command.PastIn s.db :=
      ha _ _ _ hlane
    refine ha.setLane hlater rfl fun d' work hw => ?_
    cases hw
    exact fun _ => ⟨c.command, hclaim.1, hclaim.2.later hlater⟩
  | finalizeFailed =>
    refine ha.setLane hlater rfl fun d' work hw => ?_
    cases hw
    exact fun hack => absurd hack (settlement_error_ne_ack _)
  | @settle _ _ answer => cases answer <;> exact ha.setLane hlater rfl fun _ _ hw => nomatch hw
  | laneLost => exact ha.setLane hlater rfl fun _ _ hw => nomatch hw

theorem Reached.answering (hr : Reached E h s) : s.Answering E := by
  refine hr.induct (P := fun _ s => s.Answering E) (fun s₀ hinit i d work hw => ?_)
    fun h₀ s₀ action s₁ hr₀ ha hstep => hstep.answering (Reached.ok hr₀) ha
  simp [hinit.2.1] at hw

/-! ## The broker -/

/-- The broker has the delivery: in a queue, unsettled at a lane, or dead-lettered. -/
def System.InBroker (s : System) (d : Delivery) : Prop :=
  d ∈ s.queue ∨ (∃ i work, s.lanes i = .holds d work) ∨ d ∈ s.dead

/-- A lane goes on with the delivery it holds. -/
theorem System.InBroker.work {i : Nat} {d₀ : Delivery} {work work' : Work} (hb : s.InBroker d)
    (hlane : s.lanes i = .holds d₀ work) (hlanes : s'.lanes = s.lanes) (hqueue : s'.queue = s.queue)
    (hdead : s'.dead = s.dead) : (s'.setLane i (.holds d₀ work')).InBroker d := by
  rcases hb with hb | ⟨j, work₀, hj⟩ | hb
  · exact .inl (hqueue ▸ hb)
  · refine .inr (.inl ⟨j, ?_⟩)
    by_cases hij : j = i
    · subst hij
      obtain ⟨rfl, -⟩ := Lane.holds.inj (hlane.symm.trans hj)
      exact ⟨work', by simp [System.setLane]⟩
    · exact ⟨work₀, by simp [System.setLane, hij, hlanes, hj]⟩
  · exact .inr (.inr (hdead ▸ hb))

/-- A lane lets go of its delivery, which goes where it is sent. -/
theorem System.InBroker.release {i : Nat} {d₀ : Delivery} {work : Work} (hb : s.InBroker d)
    (hlane : s.lanes i = .holds d₀ work) (hlanes : s'.lanes = s.lanes) (hqueue : s.queue ⊆ s'.queue)
    (hdead : s.dead ⊆ s'.dead) (hsent : d = d₀ → d ∈ s'.queue ∨ d ∈ s'.dead) :
    (s'.setLane i .idle).InBroker d := by
  rcases hb with hb | ⟨j, work₀, hj⟩ | hb
  · exact .inl (hqueue hb)
  · by_cases hij : j = i
    · subst hij
      obtain ⟨rfl, -⟩ := Lane.holds.inj (hlane.symm.trans hj)
      rcases hsent rfl with h | h
      · exact .inl h
      · exact .inr (.inr h)
    · exact .inr (.inl ⟨j, work₀, by simp [System.setLane, hij, hlanes, hj]⟩)
  · exact .inr (.inr (hdead hb))

/-- The broker keeps what it has until a lane acknowledges it. -/
theorem Step.inBroker (h : Step E s action s') (hb : s.InBroker d) :
    s'.InBroker d ∨ ∃ i, action = .settle i d .ack := by
  cases h with
  | submit => exact .inl hb
  | schedule => exact .inl hb
  | lease => exact .inl hb
  | leaseFailed => exact .inl hb
  | record => exact .inl hb
  | recordFailed => exact .inl hb
  | jobLost => exact .inl hb
  | arrive => exact .inl (hb.imp (List.mem_append_left _) id)
  | publish => exact .inl (hb.imp (List.mem_append_left _) id)
  | @deadLetter d₀ before after hqueue =>
    left
    rcases hb with hb | hb | hb
    · rw [hqueue, List.mem_append, List.mem_cons] at hb
      rcases hb with hb | rfl | hb
      · exact .inl (List.mem_append_left _ hb)
      · exact .inr (.inr (by simp))
      · exact .inl (List.mem_append_right _ hb)
    · exact .inr (.inl hb)
    · exact .inr (.inr (List.mem_append_left _ hb))
  | @deliver i d₀ before after hidle hqueue =>
    left
    rcases hb with hb | ⟨j, work, hj⟩ | hb
    · rw [hqueue, List.mem_append, List.mem_cons] at hb
      rcases hb with hb | rfl | hb
      · exact .inl (List.mem_append_left _ hb)
      · exact .inr (.inl ⟨i, received E.L d, by simp [System.setLane]⟩)
      · exact .inl (List.mem_append_right _ hb)
    · have hij : j ≠ i := fun he => by simp [he, hidle] at hj
      exact .inr (.inl ⟨j, work, by simp [System.setLane, hij, hj]⟩)
    · exact .inr (.inr hb)
  | readForClaim hlane => exact .inl (hb.work hlane rfl rfl rfl)
  | claim hlane => exact .inl (hb.work hlane rfl rfl rfl)
  | claimFailed hlane => exact .inl (hb.work hlane rfl rfl rfl)
  | buildFailed hlane => exact .inl (hb.work hlane rfl rfl rfl)
  | callSubmit hlane => exact .inl (hb.work hlane rfl rfl rfl)
  | submitReturned hlane => exact .inl (hb.work hlane rfl rfl rfl)
  | readForFinalize hlane => exact .inl (hb.work hlane rfl rfl rfl)
  | finalize hlane => exact .inl (hb.work hlane rfl rfl rfl)
  | finalizeFailed hlane => exact .inl (hb.work hlane rfl rfl rfl)
  | laneLost hlane =>
    refine .inl (hb.release hlane rfl (List.subset_append_left _ _) (List.Subset.refl _) fun he => ?_)
    exact .inl (by simp [System.returned, he])
  | @settle i d₀ answer hlane =>
    cases answer with
    | ack =>
      by_cases he : d = d₀
      · exact .inr ⟨i, by rw [he]⟩
      · exact .inl (hb.release hlane rfl (List.Subset.refl _) (List.Subset.refl _) fun h => absurd h he)
    | deadLetter =>
      refine .inl (hb.release hlane rfl (List.Subset.refl _) (List.subset_append_left _ _) fun he => ?_)
      exact .inr (by simp [System.returned, he])
    | requeue =>
      refine .inl (hb.release hlane rfl (List.subset_append_left _ _) (List.Subset.refl _) fun he => ?_)
      exact .inl (by simp [System.returned, he])

/-! ## Copies of an event -/

/-- The delivery is the event, published under its routing key. -/
def CopyOf (e : OutboxEvent) (d : Delivery) : Prop :=
  ∃ routingKey attemptNumber, PublisherConfig.default.routes e.eventType = some routingKey ∧
    d = makePublishing .default routingKey ⟨e, attemptNumber⟩

/-- The event is in the broker, or its message is past it. -/
def System.Placed (s : System) (e : OutboxEvent) : Prop := (∃ d, CopyOf e d ∧ s.InBroker d) ∨ e.PastIn s.db

/-- The command in a copy is the one of the event. -/
theorem parseDispatchDelivery_copy {L : Libs} {e : OutboxEvent}
    {command : DispatchCommand} (hcopy : CopyOf e d)
    (h : parseDispatchDelivery L .default d = .ok command) : command.messageID = e.aggregateID ∧
      command.dispatchGeneration = e.dispatchGeneration ∧
      command.aggregateSequence = e.aggregateSequence := by
  obtain ⟨routingKey, attemptNumber, -, rfl⟩ := hcopy
  obtain ⟨envelope, hp⟩ := parseDispatchDelivery_eq_ok.1 h
  have hsequence := (positiveLongHeader_eq_some (n := e.aggregateSequence) rfl).1 hp.sequence
  have hgeneration := (positiveLongHeader_eq_some (n := e.dispatchGeneration) rfl).1 hp.generation
  rw [hp.parsed]
  exact ⟨hp.correlation, hgeneration.2, hsequence.2⟩

/-- What `Publish` confirmed was sent as a copy. -/
theorem publish_eq_ok {config : PublisherConfig} {p : OutboxPublication} {reply : BrokerReply}
    (h : (publish config p reply).2 = .ok ()) : reply = .ack none ∧ ∃ routingKey,
      config.routes p.event.eventType = some routingKey ∧
      (publish config p reply).1 = some (makePublishing config routingKey p) := by
  unfold publish at h ⊢
  split at h
  · simp at h
  · rename_i hvalid
    rw [if_neg hvalid]
    split at h
    · simp at h
    · rename_i routingKey hroute
      rw [hroute]
      refine ⟨?_, routingKey, rfl, rfl⟩
      simp only [publishReply] at h
      split at h <;> first | rfl | simp at h
      split at h <;> simp at h

/-- Whatever `Publish` sends is a copy. -/
theorem publish_copy {p : OutboxPublication} {reply : BrokerReply}
    (h : (publish .default p reply).1 = some d) :
    CopyOf p.event d := by
  unfold publish at h
  split at h
  · simp at h
  · split at h
    · simp at h
    · rename_i routingKey hroute
      exact ⟨routingKey, p.attemptNumber, hroute, (Option.some.inj h).symm⟩

/-! ## The invariant -/

structure Custody (h : History) (s : System) : Prop where
  jobs : ∀ job ∈ s.jobs, ∀ contextError, job.result = some (.ok (), contextError) → s.Placed job.leased.event
  rows : ∀ o ∈ s.db.outbox, o.status = .published →
    s.Placed o.event ∧ ∃ leased, leased.event = o.event ∧ Delivered h leased

/-- An event in the broker stays there until its message is past it. -/
theorem Step.placed (h : Step E s action s') (hs : s.Ok E) (ha : s.Answering E) {o : OutboxRow}
    (ho : o ∈ s.db.outbox) (hp : s.Placed o.event) : s'.Placed o.event := by
  have hlater := (h.evolves hs).later
  rcases hp with ⟨d, hcopy, hb⟩ | hpast
  · rcases h.inBroker hb with hb' | ⟨i, rfl⟩
    · exact .inl ⟨d, hcopy, hb'⟩
    · -- an acknowledged copy: the lane found the message past its command
      have hlane : s.lanes i = .holds d (.processed .ack) := by
        cases h with
        | settle hlane => exact hlane
      obtain ⟨command, hparse, r, hr, hid, hpast⟩ := ha i d _ hlane rfl
      obtain ⟨hmessage, hgeneration, hsequence⟩ := parseDispatchDelivery_copy hcopy hparse
      obtain ⟨r₀, hr₀, hid₀, -⟩ := hs.sound.keyed.outbox o ho
      have hcanonical := (hs.sound.keyed.canonical r₀ hr₀).1
      rw [hmessage, ← hid₀, hcanonical] at hid
      rw [hgeneration, hsequence] at hpast
      exact .inr (OutboxEvent.PastIn.later ⟨r, hr, (Option.some.inj hid).symm.trans hid₀, hpast⟩ hlater)
  · exact .inr (hpast.later hlater)

/-- A confirmed publication is in a queue. -/
theorem Step.published_placed {leased : LeasedOutboxEvent} {reply : BrokerReply}
    (h : Step E s (.publish leased reply) s')
    (hok : (MailService.publish .default ⟨leased.event, leased.attemptNumber⟩ reply).2 = .ok ()) :
    s'.Placed leased.event := by
  obtain ⟨hreply, routingKey, hroute, hsent⟩ := publish_eq_ok hok
  cases h with
  | publish _ hkept =>
    refine .inl ⟨_, ⟨routingKey, leased.attemptNumber, hroute, rfl⟩, .inl ?_⟩
    simp [hkept hreply, hsent]

theorem Custody.step (hc : Custody h s) (hr : Reached E h s) (hstep : Step E s action s') :
    Custody ((action, s') :: h) s' := by
  have hs := Reached.ok hr
  have ha := Reached.answering hr
  have hf := Reached.fenced hr
  have hout := hstep.outboxStep hs
  -- the event of a job is one of the outbox
  have hevent : ∀ job ∈ s.jobs, s.Placed job.leased.event → s'.Placed job.leased.event := by
    intro job hjob hp
    obtain ⟨-, -, o, ho, he⟩ := hf.claims job.leased (hf.jobs job hjob).1
    rw [← he] at hp ⊢
    exact hstep.placed hs ha ho hp
  constructor
  · intro job hjob contextError hresult
    rcases hout.job_origin hjob with hjob | ⟨_, _, _, -, -, hnone, -⟩ | ⟨reply, _, rfl, -, hanswer⟩
    · exact hevent job hjob (hc.jobs job hjob contextError hresult)
    · simp [hnone] at hresult
    · rw [hanswer] at hresult
      exact hstep.published_placed (Prod.mk.inj (Option.some.inj hresult)).1
  · intro o' ho' hstatus
    rcases hout.origin ho' with ho | hu | ⟨o, ho, token, leaseUntil, hby, rfl⟩ |
      ⟨o, ho, leased, now, completion, hby, rfl⟩
    · obtain ⟨hp, leased, he, hd⟩ := hc.rows o' ho hstatus
      exact ⟨hstep.placed hs ha ho hp, leased, he, hd.cons⟩
    · simp [hu.pending] at hstatus
    · obtain ⟨hp, leased, he, hd⟩ := hc.rows o ho hstatus
      have hp' : s'.Placed o.event := hstep.placed hs ha ho hp
      exact ⟨hp', leased, he, hd.cons⟩
    · obtain ⟨published, contextError, delay, hjob, hdecided⟩ := hby.job
      have hcompletion : completion = .published := by
        rw [o.recorded_status] at hstatus
        cases completion with
        | published => rfl
        | retried => simp [hby.holds.pending] at hstatus
        | deadLettered => simp at hstatus
      obtain rfl := (decideCompletion_bound hdecided).1 hcompletion
      have he := Reached.holds_event hr (hf.jobs _ hjob).1 ho hby.holds
      rw [o.recorded_event, he]
      exact ⟨hevent _ hjob (hc.jobs _ hjob contextError rfl), leased, rfl,
        (hf.answers _ hjob contextError rfl).cons⟩

theorem Reached.custody (hr : Reached E h s) : Custody h s := by
  refine hr.induct (fun s₀ hinit => ?_) fun h₀ s₀ action s₁ hr₀ hc hstep => hc.step hr₀ hstep
  obtain ⟨⟨tenants, hdb⟩, -, -, -, hjobs, -⟩ := hinit
  constructor <;> simp [hdb, hjobs]

/-! ## Queued messages -/

section InStep

variable {journal : List DeliveryEvent} {outbox : List OutboxEvent} {s : Snapshot} {o o' : OutboxEvent}

/-- The last journal row has the status and the sequence of the message. -/
theorem InStep.last (h : InStep journal outbox s) :
    ∃ front j, journal = front ++ [j] ∧ j.status = s.status ∧ j.sequence = s.latestSequence := by
  have hlast := h.status
  rw [List.getLast?_map, Option.map_eq_some_iff] at hlast
  obtain ⟨j, hj, hstatus⟩ := hlast
  obtain ⟨front, rfl⟩ := List.getLast?_eq_some_iff.1 hj
  refine ⟨front, j, rfl, hstatus, ?_⟩
  have hlength : s.latestSequence = front.length + 1 := by
    simpa using (congrArg List.length h.sequences).symm
  have hsequences := h.sequences
  rw [List.map_append, hlength, List.range'_1_concat] at hsequences
  have hlast : j.sequence = 1 + front.length := (List.cons.inj (List.append_inj' hsequences rfl).2).1
  omega

/-- The last QUEUED row has the request of the present generation. -/
theorem InStep.request {before : List Nat} {sequence : Nat} (h : InStep journal outbox s)
    (hq : queuedSequences journal = before ++ [sequence]) : ∃ o ∈ outbox, o.isDispatch = true ∧
      o.aggregateSequence = sequence ∧ o.dispatchGeneration = s.dispatchGeneration := by
  have hgeneration := h.generations
  have hmem : (sequence, s.dispatchGeneration) ∈ (queuedSequences journal).zipIdx 1 := by
    rw [hq, List.zipIdx_append]
    rw [hq, List.length_append] at hgeneration
    simp only [List.length_cons, List.length_nil] at hgeneration
    simp
    omega
  rw [← h.dispatch] at hmem
  obtain ⟨o, ho, heq⟩ := List.mem_map.1 hmem
  obtain ⟨ho, hd⟩ := List.mem_filter.1 ho
  exact ⟨o, ho, hd, (Prod.mk.inj heq).1, (Prod.mk.inj heq).2⟩

/-- A generation that was opened has its request. -/
theorem InStep.current_request (h : InStep journal outbox s) (hopened : 0 < s.dispatchGeneration) :
    ∃ o ∈ outbox,
    o.isDispatch = true ∧ o.dispatchGeneration = s.dispatchGeneration := by
  have hne : queuedSequences journal ≠ [] := by
    intro hnil
    have hnone := h.generations
    rw [hnil] at hnone
    exact absurd hnone.symm hopened.ne'
  obtain ⟨before, sequence, hq⟩ := (List.eq_nil_or_concat (queuedSequences journal)).resolve_left hne
  rw [List.concat_eq_append] at hq
  obtain ⟨o, ho, hd, -, hg⟩ := h.request hq
  exact ⟨o, ho, hd, hg⟩

/-- A QUEUED message has the dispatch request of its generation and sequence. -/
theorem InStep.queued_dispatch (h : InStep journal outbox s) (hs : s.status = .queued) : ∃ o ∈ outbox,
    o.isDispatch = true ∧ o.aggregateSequence = s.latestSequence ∧
    o.dispatchGeneration = s.dispatchGeneration := by
  obtain ⟨front, j, hj, hstatus, hsequence⟩ := h.last
  have hlast : queuedSequences journal = queuedSequences front ++ [s.latestSequence] := by
    rw [← hsequence, hj]
    simp [queuedSequences, hstatus, hs]
  exact h.request hlast

/-- A SENDING message was QUEUED just before, and has the request of that row. -/
theorem InStep.sending_dispatch (h : InStep journal outbox s) (hs : s.status = .sending)
    (hopened : 0 < s.dispatchGeneration) : ∃ o ∈ outbox, o.isDispatch = true ∧
      o.aggregateSequence + 1 = s.latestSequence ∧ o.dispatchGeneration = s.dispatchGeneration := by
  obtain ⟨front, j, hj, hstatus, hsequence⟩ := h.last
  rw [hs] at hstatus
  have hqueued : queuedSequences journal = queuedSequences front := by simp [queuedSequences, hj, hstatus]
  have hne : front ≠ [] := by
    rintro rfl
    have hnone := h.generations
    rw [hqueued] at hnone
    exact absurd hnone.symm hopened.ne'
  obtain ⟨front', k, rfl⟩ := List.eq_nil_or_concat front |>.resolve_left hne
  simp only [List.concat_eq_append] at hj hqueued
  -- the edge into SENDING starts at QUEUED
  have hedge : canTransition k.status .sending = true := by
    have hedges := h.edges
    rw [hj, List.append_assoc, List.map_append] at hedges
    have htail := hedges.right_of_append
    simp only [List.singleton_append, List.map_cons, List.map_nil, hstatus] at htail
    exact (List.isChain_cons_cons.1 htail).1
  have hk : k.status = .queued := by
    cases hk : k.status <;> simp [hk, canTransition, oneOf] at hedge ⊢
  have hprevious : k.sequence + 1 = s.latestSequence := by
    have hsequences := h.sequences
    have hlength : s.latestSequence = front'.length + 2 := by
      simpa [hj] using (congrArg List.length h.sequences).symm
    rw [hj, List.append_assoc, List.map_append, hlength, ← List.range'_append_1] at hsequences
    have hlast := (List.append_inj' hsequences rfl).2
    have hfirst : k.sequence = 1 + front'.length := (List.cons.inj hlast).1
    omega
  rw [← hprevious]
  have hlast : queuedSequences journal = queuedSequences front' ++ [k.sequence] := by
    rw [hqueued]
    simp [queuedSequences, hk]
  obtain ⟨o, ho, hd, hseq, hgen⟩ := h.request hlast
  exact ⟨o, ho, hd, by rw [hseq], hgen⟩

theorem InStep.numbered (h : InStep journal outbox s) (ho : o ∈ outbox) (hd : o.isDispatch = true) :
    0 < o.dispatchGeneration ∧
    (queuedSequences journal)[o.dispatchGeneration - 1]? = some o.aggregateSequence := by
  have hmem : (o.aggregateSequence, o.dispatchGeneration) ∈ (queuedSequences journal).zipIdx 1 := by
    rw [← h.dispatch]
    exact List.mem_map_of_mem (f := fun o : OutboxEvent => (o.aggregateSequence, o.dispatchGeneration))
      (List.mem_filter.2 ⟨ho, hd⟩)
  exact List.mem_zipIdx_iff_le_and_getElem?_sub.1 hmem

/-- There is one request for a generation. -/
theorem InStep.request_unique (h : InStep journal outbox s) (ho : o ∈ outbox) (hd : o.isDispatch = true)
    (ho' : o' ∈ outbox) (hd' : o'.isDispatch = true) (hg : o.dispatchGeneration = o'.dispatchGeneration) :
    o.aggregateSequence = o'.aggregateSequence := by
  obtain ⟨-, hseq⟩ := h.numbered ho hd
  obtain ⟨-, hseq'⟩ := h.numbered ho' hd'
  rw [hg] at hseq
  exact Option.some.inj (hseq.symm.trans hseq')

/-- A message at the sequence of a request is QUEUED, in the generation of the request. -/
theorem InStep.at_request (h : InStep journal outbox s) (ho : o ∈ outbox) (hd : o.isDispatch = true)
    (hq : o.aggregateSequence = s.latestSequence) :
    s.status = .queued ∧ o.dispatchGeneration = s.dispatchGeneration := by
  obtain ⟨hpos, hseq⟩ := h.numbered ho hd
  have hnodup : (journal.map (·.sequence)).Nodup := by
    rw [h.sequences]
    exact List.nodup_range'
  have hstatus : s.status = .queued := by
    obtain ⟨j', hj', hj'q⟩ := List.mem_map.1 (List.mem_of_getElem? hseq)
    obtain ⟨hmem', hst'⟩ := List.mem_filter.1 hj'
    obtain ⟨front, j, hj, hstatus, hsequence⟩ := h.last
    have hmem : j ∈ journal := by simp [hj]
    obtain rfl : j' = j := List.inj_on_of_nodup_map hnodup hmem' hmem (by rw [hj'q, hsequence, hq])
    exact hstatus.symm.trans (by simpa using hst')
  refine ⟨hstatus, ?_⟩
  obtain ⟨o', ho', hd', hq', hg'⟩ := h.queued_dispatch hstatus
  obtain ⟨hpos', hseq'⟩ := h.numbered ho' hd'
  have hsublist : (queuedSequences journal).Nodup := hnodup.sublist (List.filter_sublist.map _)
  have hlength : o.dispatchGeneration - 1 < (queuedSequences journal).length :=
    (List.getElem?_eq_some_iff.1 hseq).1
  have hsame : (queuedSequences journal)[o.dispatchGeneration - 1]? =
      (queuedSequences journal)[o'.dispatchGeneration - 1]? := by
    rw [hseq, hseq', hq, hq']
  have hindex := (List.getElem?_inj hlength hsublist).1 hsame
  omega

end InStep

/-- A QUEUED message is not past the request of its generation and sequence. -/
theorem not_pastIn_of_queued (hk : db.Keyed) {r : MessageRow} {e : OutboxEvent} (hr : r ∈ db.messages)
    (hs : r.snapshot.status = .queued) (hid : e.aggregateID = r.snapshot.id)
    (hg : e.dispatchGeneration = r.snapshot.dispatchGeneration)
    (hq : e.aggregateSequence = r.snapshot.latestSequence) :
    ¬ e.PastIn db := by
  rintro ⟨r', hr', hid', hpast⟩
  obtain rfl : r' = r := List.inj_on_of_nodup_map hk.ids hr' hr (hid'.trans hid)
  unfold MessageRow.Past at hpast
  rcases hpast with h | h | ⟨-, -, h⟩
  · omega
  · omega
  · exact h hs

/-- No dispatch command is lost. The request of a QUEUED message is a PENDING or DEAD_LETTERED row
of the outbox, or the broker has a copy; a delivery is acknowledged only when its message is past
its command; and a row is PUBLISHED only after the broker confirmed its event. -/
theorem dispatch_command_kept (hr : Reached E h s) :
    (∀ r ∈ s.db.messages, r.snapshot.status = .queued → ∃ o ∈ s.db.outbox, o.event.isDispatch = true ∧
      o.event.aggregateID = r.snapshot.id ∧ o.event.dispatchGeneration = r.snapshot.dispatchGeneration ∧
      o.event.aggregateSequence = r.snapshot.latestSequence ∧
      (o.status = .pending ∨ o.status = .deadLettered ∨ ∃ d, CopyOf o.event d ∧ s.InBroker d)) ∧
    (∀ i d s', Step E s (.settle i d .ack) s' →
      ∃ command, parseDispatchDelivery E.L .default d = .ok command ∧ command.PastIn s.db) ∧
    ∀ o ∈ s.db.outbox, o.status = .published →
      ∃ leased s₁, leased.event = o.event ∧ (.publish leased (.ack none), s₁) ∈ h := by
  have hsound := (Reached.ok hr).sound
  refine ⟨fun r hmem hqueued => ?_, fun i d s' hstep => ?_, fun o ho hpublished => ?_⟩
  · obtain ⟨e, he, hdispatch, hsequence, hgeneration⟩ := (hsound.rows r hmem).inStep.queued_dispatch hqueued
    obtain ⟨hin, hid⟩ := List.mem_filter.1 he
    obtain ⟨o, ho, rfl⟩ := List.mem_map.1 hin
    have hid' : o.event.aggregateID = r.snapshot.id := by simpa using hid
    refine ⟨o, ho, hdispatch, hid', hgeneration, hsequence, ?_⟩
    cases hstatus : o.status with
    | pending => exact .inl rfl
    | deadLettered => exact .inr (.inl rfl)
    | published =>
      rcases ((Reached.custody hr).rows o ho hstatus).1 with hcopy | hpast
      · exact .inr (.inr hcopy)
      · exact absurd hpast (not_pastIn_of_queued hsound.keyed hmem hqueued hid' hgeneration hsequence)
  · cases hstep with
    | settle hlane => exact Reached.answering hr i d _ hlane rfl
  · obtain ⟨-, leased, he, reply, s₁, hmem, hok⟩ := (Reached.custody hr).rows o ho hpublished
    obtain ⟨rfl, -⟩ := publish_eq_ok hok
    exact ⟨leased, s₁, he, hmem⟩

/-- A message is accepted and queued, and its request waits in the outbox. -/
theorem dispatch_command_kept_accepted :
    ∃ E h s, Reached E h s ∧ ∃ r ∈ s.db.messages, r.snapshot.status = .queued ∧
    ∃ o ∈ s.db.outbox, o.event.isDispatch = true ∧ o.event.aggregateID = r.snapshot.id ∧
      (o.status = .pending ∨ o.status = .deadLettered ∨ ∃ d, CopyOf o.event d ∧ s.InBroker d) := by
  obtain ⟨hm, hlen, hobject, hstored⟩ := Sample.metadata_empty
  obtain ⟨hash, canonical, m, row, -, rfl, hrow, hp, ha⟩ :=
    Sample.exists_accepted (.inl rfl) hm hlen hobject hstored
  have hr := Reached.accepts (Sample.reached_start hash) rfl hp ha
  have hqueued : row.snapshot.status = .queued := by
    rw [hrow]
    rfl
  obtain ⟨o, ho, hdispatch, hid, -, -, hheld⟩ := (dispatch_command_kept hr).1 row mem_acceptedDb hqueued
  exact ⟨_, _, _, hr, row, mem_acceptedDb, hqueued, o, ho, hdispatch, hid, hheld⟩

end MailService
