import MailService.Reporting
/-!
# Every event is reported, and as it was journalled

Whatever the lanes, the relays and the subscriber do: all reports of an event are
one request, made of its journal row; an event whose publication was recorded is in
the broker until the subscriber has answered for it; and the consumer gives up on
an event only if the subscriber refuses it for good.
-/
open Text Checks Table Runs

namespace MailService

open Db

variable {E : Env} {h : CallbackHistory} {n n' : Notifier} {s s' : System} {action : Action}
  {act : CallbackAction}
  {d : Delivery} {o : OutboxEvent}

/-! ## Requests -/

/-- Every request so far was made of a row of the journal. -/
def Requested (L : Libs) (h : CallbackHistory) (n : Notifier) : Prop :=
  ∀ i request n₁, (.call i request, n₁) ∈ h →
    ∃ j ∈ n.service.db.events, reportRequest L j.persisted = .ok request

theorem Requested.step (hq : Requested E.L h n) (hr : Notifying E h n) (hstep : CallbackStep E n act n') :
    Requested E.L ((act, n') :: h) n' := by
  intro i request n₁ hmem
  have hsubset := hstep.events_subset hr.ok
  rcases List.mem_cons.1 hmem with heq | hmem
  · obtain ⟨rfl, rfl⟩ := Prod.mk.inj heq
    cases hstep with
    | call hlane hrequest =>
      obtain ⟨-, j, hj, rfl⟩ := Notifying.answering hr _ _ _ hlane
      exact ⟨j, hj, hrequest⟩
  · obtain ⟨j, hj, hrequest⟩ := hq i request n₁ hmem
    exact ⟨j, hsubset hj, hrequest⟩

theorem Notifying.requested (hr : Notifying E h n) : Requested E.L h n := by
  refine hr.induct (P := Requested E.L) (fun n₀ _ i request n₁ hmem => ?_)
    fun h₀ n₀ act n₁ hr₀ hq hstep => hq.step hr₀ hstep
  cases hmem

/-! ## The broker -/

/-- The broker has the delivery: in a queue, unsettled at a lane, or dead-lettered. -/
def Notifier.InBroker (n : Notifier) (d : Delivery) : Prop :=
  n.service.InBroker d ∨ ∃ i work, n.lanes i = .holds d work

/-- A lane goes on with the delivery it holds. -/
theorem Notifier.InBroker.work {i : Nat} {d₀ : Delivery} {work : CallbackWork}
    (work' : CallbackWork) (hb : n.InBroker d) (hlane : n.lanes i = .holds d₀ work) :
    (n.setLane i (.holds d₀ work')).InBroker d := by
  rcases hb with hb | ⟨k, work₀, hk⟩
  · exact .inl hb
  · refine .inr ⟨k, ?_⟩
    by_cases hki : k = i
    · subst hki
      obtain ⟨rfl, -⟩ := CallbackLane.holds.inj (hlane.symm.trans hk)
      exact ⟨work', by simp [Notifier.setLane]⟩
    · exact ⟨work₀, by simp [Notifier.setLane, hki, hk]⟩

/-- A lane lets go of its delivery, which goes where it is sent. -/
theorem Notifier.InBroker.release {i : Nat} {d₀ : Delivery} {work : CallbackWork}
    {answer : Settlement} (hb : n.InBroker d) (hlane : n.lanes i = .holds d₀ work)
    (hsent : d = d₀ → answer ≠ .ack) :
    ((n.returned d₀ answer).setLane i .idle).InBroker d := by
  rcases hb with hb | ⟨k, work₀, hk⟩
  · left
    cases answer with
    | ack => exact hb
    | deadLetter => exact hb.imp id (Or.imp id (List.mem_append_left _))
    | requeue => exact hb.imp (List.mem_append_left _) id
  · by_cases hki : k = i
    · subst hki
      obtain ⟨rfl, -⟩ := CallbackLane.holds.inj (hlane.symm.trans hk)
      left
      cases answer with
      | ack => exact absurd rfl (hsent rfl)
      | deadLetter => exact .inr (.inr (List.mem_append_right _ List.mem_cons_self))
      | requeue => exact .inl (List.mem_append_right _ List.mem_cons_self)
    · exact .inr ⟨k, work₀, by simp [Notifier.setLane, Notifier.returned, hki, hk]⟩

/-- The broker keeps what it has until a lane of either consumer acknowledges it. -/
theorem CallbackStep.inBroker (hstep : CallbackStep E n act n') (hb : n.InBroker d) :
    n'.InBroker d ∨ (∃ i, act = .settle i d .ack) ∨ ∃ i, act = .service (.settle i d .ack) := by
  have hservice : ∀ {action s'}, Step E n.service action s' →
      (s'.InBroker d ∨ ∃ i work, n.lanes i = .holds d work) ∨ ∃ i, action = .settle i d .ack := by
    intro action s' hstep
    rcases hb with hb | hb
    · exact (hstep.inBroker hb).imp .inl id
    · exact .inl (.inr hb)
  cases hstep with
  | commit hstep =>
    rcases hservice hstep with hb' | ⟨i, rfl⟩
    · exact .inl hb'
    · exact .inr (.inr ⟨i, rfl⟩)
  | service hstep =>
    rcases hservice hstep with hb' | ⟨i, rfl⟩
    · exact .inl hb'
    · exact .inr (.inr ⟨i, rfl⟩)
  | @deliver i d₀ before after hidle hqueue =>
    left
    rcases hb with (hb | hb) | ⟨k, work, hk⟩
    · rw [hqueue, List.mem_append, List.mem_cons] at hb
      rcases hb with hb | rfl | hb
      · exact .inl (.inl (List.mem_append_left _ hb))
      · exact .inr ⟨i, notified E.L d, by simp [Notifier.setLane]⟩
      · exact .inl (.inl (List.mem_append_right _ hb))
    · exact .inl (.inr hb)
    · have hki : k ≠ i := fun he => by simp [he, hidle] at hk
      exact .inr ⟨k, work, by simp [Notifier.setLane, hki, hk]⟩
  | load hlane => exact .inl (hb.work _ hlane)
  | loadFailed hlane => exact .inl (hb.work _ hlane)
  | call hlane => exact .inl (hb.work _ hlane)
  | callFailed hlane => exact .inl (hb.work _ hlane)
  | answered hlane => exact .inl (hb.work _ hlane)
  | @settle i d₀ answer hlane =>
    by_cases hack : d = d₀ ∧ answer = .ack
    · obtain ⟨rfl, rfl⟩ := hack
      exact .inr (.inl ⟨i, rfl⟩)
    · exact .inl (hb.release hlane fun he ha => hack ⟨he, ha⟩)
  | laneLost hlane => exact .inl (hb.release hlane fun _ => by decide)

/-! ## Published events -/

/-- What is known of the events whose publication was confirmed or recorded. -/
structure System.Published (K : OutboxEvent → Prop) (s : System) : Prop where
  jobs : ∀ job ∈ s.jobs, ∀ contextError, job.result = some (.ok (), contextError) → K job.leased.event
  rows : ∀ o ∈ s.db.outbox, o.status = .published → K o.event

/-- A relay records as published only what `Publish` has confirmed. -/
theorem OutboxStep.published {K K' : OutboxEvent → Prop} (hout : OutboxStep E s action s')
    (hjobs : ∀ job ∈ s.jobs, ∃ o ∈ s.db.outbox, o.event = job.leased.event)
    (hholds : ∀ job ∈ s.jobs, ∀ o ∈ s.db.outbox, job.leased.reference.Holds o → o.event = job.leased.event)
    (hkeep : ∀ o ∈ s.db.outbox, K o.event → K' o.event)
    (hpublish : ∀ leased reply, action = .publish leased reply →
      (publish .default ⟨leased.event, leased.attemptNumber⟩ reply).2 = .ok () → K' leased.event)
    (hp : s.Published K) : s'.Published K' := by
  have hjob : ∀ job ∈ s.jobs, K job.leased.event → K' job.leased.event := by
    intro job hmem hk
    obtain ⟨o, ho, he⟩ := hjobs job hmem
    exact he ▸ hkeep o ho (he ▸ hk)
  constructor
  · intro job hmem contextError hresult
    rcases hout.job_origin hmem with hold | ⟨_, _, _, -, -, hnone, -⟩ | ⟨reply, _, haction, -, hanswer⟩
    · exact hjob job hold (hp.jobs job hold contextError hresult)
    · simp [hnone] at hresult
    · rw [hanswer] at hresult
      exact hpublish job.leased reply haction (Prod.mk.inj (Option.some.inj hresult)).1
  · intro o' ho' hstatus
    rcases hout.origin ho' with ho | hu | ⟨o, ho, token, leaseUntil, -, rfl⟩ |
      ⟨o, ho, leased, now, completion, hby, rfl⟩
    · exact hkeep o' ho (hp.rows o' ho hstatus)
    · simp [hu.pending] at hstatus
    · exact hkeep o ho (hp.rows o ho hstatus)
    · obtain ⟨published, contextError, delay, hmem, hdecided⟩ := hby.job
      have hcompletion : completion = .published := by
        rw [o.recorded_status] at hstatus
        cases completion with
        | published => rfl
        | retried => simp [hby.holds.pending] at hstatus
        | deadLettered => simp at hstatus
      obtain rfl := (decideCompletion_bound hdecided).1 hcompletion
      rw [o.recorded_event, hholds _ hmem o ho hby.holds]
      exact hjob _ hmem (hp.jobs _ hmem contextError rfl)

/-- The jobs of the relays are about rows of the outbox. -/
theorem Notifying.job_rows (hr : Notifying E h n) :
    (∀ job ∈ n.service.jobs, ∃ o ∈ n.service.db.outbox, o.event = job.leased.event) ∧
    ∀ job ∈ n.service.jobs, ∀ o ∈ n.service.db.outbox, job.leased.reference.Holds o →
      o.event = job.leased.event := by
  obtain ⟨h', s, hr', dead, rfl⟩ := hr.serves
  have hf := Reached.fenced hr'
  refine ⟨fun job hjob => ?_, fun job hjob o ho hholds => ?_⟩
  · exact (hf.claims job.leased (hf.jobs job hjob).1).2.2
  · exact Reached.holds_event hr' (hf.jobs job hjob).1 ho hholds

/-- The event is in the broker, or the subscriber has answered for it. -/
def Notifier.Kept (n : Notifier) (h : CallbackHistory) (o : OutboxEvent) : Prop :=
  (∃ d, Sent o d ∧ n.InBroker d) ∨ Acknowledged h o.id

/-- No lane of the dispatch consumer acknowledges a lifecycle event. -/
theorem Notifying.not_dispatch_acknowledged {i : Nat} (hr : Notifying E h n)
    (hlane : n.service.lanes i = .holds d (.processed .ack)) : ¬ isLifecycleDelivery d := by
  obtain ⟨h', s, hr', dead, rfl⟩ := hr.serves
  obtain ⟨command, hparse, -⟩ := Reached.answering hr' i d _ hlane rfl
  obtain ⟨envelope, hparsed⟩ := parseDispatchDelivery_eq_ok.1 hparse
  rintro ⟨-, hkey⟩
  rw [hparsed.route.2] at hkey
  revert hkey
  decide

theorem CallbackStep.kept (hstep : CallbackStep E n act n') (hr : Notifying E h n)
    (hkind : o.isDispatch = false) (hk : n.Kept h o) : n'.Kept ((act, n') :: h) o := by
  rcases hk with ⟨d, hsent, hb⟩ | hack
  · rcases hstep.inBroker hb with hb' | ⟨i, rfl⟩ | ⟨i, rfl⟩
    · exact .inl ⟨d, hsent, hb'⟩
    · cases hstep with
      | settle hlane =>
        have hack := Notifying.answering hr _ _ _ hlane rfl
        exact .inr (hsent.messageID ▸ hack.cons)
    · have hlane : n.service.lanes i = .holds d (.processed .ack) := by
        cases hstep with
        | commit hstep => cases hstep with
          | settle hlane => exact hlane
        | service hstep => cases hstep with
          | settle hlane => exact hlane
      exact absurd (hsent.isLifecycleDelivery_iff.2 hkind) (Notifying.not_dispatch_acknowledged hr hlane)
  · exact .inr hack.cons

/-- What is confirmed is in a queue. -/
theorem Step.publish_queued {leased : LeasedOutboxEvent} {reply : BrokerReply}
    (hstep : Step E s (.publish leased reply) s')
    (hok : (MailService.publish .default ⟨leased.event, leased.attemptNumber⟩ reply).2 = .ok ()) :
    ∃ d, Sent leased.event d ∧ d ∈ s'.queue := by
  obtain ⟨hreply, routingKey, -, hsent⟩ := publish_eq_ok hok
  refine ⟨_, ⟨leased.attemptNumber, reply, hsent⟩, ?_⟩
  cases hstep with
  | publish _ hkept => simp [hkept hreply, hsent]

/-- The events that were published as far as the relays know. -/
def Notifier.Custody (h : CallbackHistory) (n : Notifier) : Prop :=
  n.service.Published fun o => o.isDispatch = false → n.Kept h o

theorem Notifier.Custody.step (hc : n.Custody h) (hr : Notifying E h n) (hstep : CallbackStep E n act n') :
    n'.Custody ((act, n') :: h) := by
  have hkept : ∀ o : OutboxEvent, (o.isDispatch = false → n.Kept h o) →
      o.isDispatch = false → n'.Kept ((act, n') :: h) o := fun o hk hkind => hstep.kept hr hkind (hk hkind)
  obtain ⟨hjobs, hholds⟩ := Notifying.job_rows hr
  have hservice : ∀ {action}, Step E n.service action n'.service → n'.Custody ((act, n') :: h) := by
    intro action hstep'
    refine (hstep'.outboxStep hr.ok).published hjobs hholds (fun o _ => hkept o.event)
      (fun leased reply haction hok _ => ?_) hc
    subst haction
    obtain ⟨d, hsent, hqueue⟩ := hstep'.publish_queued hok
    exact .inl ⟨d, hsent, .inl (.inl hqueue)⟩
  have hsame : n'.service.jobs = n.service.jobs → n'.service.db = n.service.db →
      n'.Custody ((act, n') :: h) := by
    intro hjobs hdb
    refine ⟨fun job hjob contextError hresult => ?_, fun o ho hstatus => ?_⟩
    · exact hkept _ (hc.jobs job (hjobs ▸ hjob) contextError hresult)
    · exact hkept _ (hc.rows o (hdb ▸ ho) hstatus)
  cases hstep with
  | commit hstep' => exact hservice hstep'
  | service hstep' => exact hservice hstep'
  | @settle i d answer => cases answer <;> exact hsame rfl rfl
  | _ => exact hsame rfl rfl

theorem Notifying.custody (hr : Notifying E h n) : n.Custody h := by
  refine hr.induct (P := fun h n => n.Custody h) (fun n₀ hinit => ?_)
    fun h₀ n₀ act n₁ hr₀ hc hstep => hc.step hr₀ hstep
  obtain ⟨⟨⟨tenants, hdb⟩, -, -, -, hjobs, -⟩, -⟩ := hinit
  constructor <;> simp [hdb, hjobs]

/-- A delivery of the lifecycle consumer is acknowledged after the subscriber's answer only. -/
theorem Notifying.acknowledged {i : Nat} {n₁ : Notifier} (hr : Notifying E h n)
    (hmem : (.settle i d .ack, n₁) ∈ h) :
    Acknowledged h d.messageID := by
  refine hr.induct (P := fun h _ => (.settle i d .ack, n₁) ∈ h → Acknowledged h d.messageID)
    (fun _ _ hmem => nomatch hmem) (fun h₀ n₀ act n' hr₀ ih hstep hmem => ?_) hmem
  rcases List.mem_cons.1 hmem with heq | hmem
  · obtain ⟨rfl, rfl⟩ := Prod.mk.inj heq
    cases hstep with
    | settle hlane => exact (Notifying.answering hr₀ _ _ _ hlane rfl).cons
  · exact (ih hmem).cons

/-! ## What the subscriber can rely on -/

/-- All reports of an event are one request, made of its journal row, whose times are
equal; and an event is named by its id as well as by its message and sequence. -/
theorem reports_are_journal_rows (hr : Notifying E h n) :
    (∀ i request n₁, (.call i request, n₁) ∈ h → ∃ j ∈ n.service.db.events,
      reportRequest E.L j.persisted = .ok request) ∧
    ∀ i i' request request' n₁ n₁', (.call i request, n₁) ∈ h → (.call i' request', n₁') ∈ h →
      (request.eventID = request'.eventID ↔ request = request') ∧
      (request.messageID = request'.messageID ∧ request.sequence = request'.sequence ↔
        request = request') := by
  have hrequested := Notifying.requested hr
  have hsound := hr.ok.sound
  refine ⟨hrequested, fun i i' request request' n₁ n₁' hmem hmem' => ?_⟩
  obtain ⟨j, hj, hrequest⟩ := hrequested i request n₁ hmem
  obtain ⟨j', hj', hrequest'⟩ := hrequested i' request' n₁' hmem'
  obtain ⟨hid, hmessage, hsequence, -⟩ := reportRequest_eq_ok hrequest
  obtain ⟨hid', hmessage', hsequence', -⟩ := reportRequest_eq_ok hrequest'
  have hsame : j = j' → request = request' := by
    rintro rfl
    exact Except.ok.inj (hrequest.symm.trans hrequest')
  refine ⟨⟨fun heq => hsame ?_, fun heq => heq ▸ rfl⟩, ⟨fun heq => hsame ?_, fun heq => heq ▸ ⟨rfl, rfl⟩⟩⟩
  · rw [hid, hid'] at heq
    exact hsound.journal_id_unique hj hj' heq
  · rw [hmessage, hmessage', hsequence, hsequence'] at heq
    exact hsound.journal_unique hj hj' heq.1 heq.2

/-- A report that timed out is made again. -/
theorem reports_are_journal_rows_repeated : ∃ E newer older n request n₁ n₂,
    Notifying E (newer ++ (.call 0 request, n₂) :: older) n ∧ (.call 0 request, n₁) ∈ older := by
  obtain ⟨hash, h, n, d, o, hr, -, hidle, hqueue, ho, hsent, hkey, -⟩ := Sample.exists_arrived
  have hL := Sample.timeTexts hash
  obtain ⟨j, -, hid, request, hrequest, hreport⟩ := Notifying.reports hr hL hidle hqueue ho hsent hkey
  obtain ⟨n₁, n₂, n₃, n₄, hr₄, hlane, hdb⟩ := hreport (.failed .deadlineExceeded)
  have hrequeued := hr₄.next (.settle hlane)
  have ho' : o ∈ n₄.service.db.outbox := hdb ▸ ho
  obtain ⟨j', -, hid', request', hrequest', hreport'⟩ :=
    Notifying.reports hrequeued hL (Function.update_self 0 _ _)
    (List.mem_append_right _ List.mem_cons_self) ho' hsent hkey
  obtain ⟨n₁', n₂', n₃', n₄', hr₄', -⟩ := hreport' (.failed .deadlineExceeded)
  have hsame := ((reports_are_journal_rows hr₄').2 0 0 request request' n₃ n₃' (by simp) (by simp)).1.1
    ((reportRequest_eq_ok hrequest).1.trans
      (hid.trans (hid'.symm.trans (reportRequest_eq_ok hrequest').1.symm)))
  subst hsame
  exact ⟨_, [_], _, n₄', request, n₃, n₃', hr₄', by simp⟩

/-- Each row of the journal has its event in the outbox; once that is recorded as
published, a copy is in the broker or the subscriber has taken the event. A delivery
is acknowledged after such an answer only. -/
theorem events_reported_at_least_once (hr : Notifying E h n) :
    (∀ j ∈ n.service.db.events, ∃ o ∈ n.service.db.outbox, o.event.id = j.id ∧ (o.status = .published →
      (∃ d, Sent o.event d ∧ n.InBroker d) ∨ Acknowledged h j.id)) ∧
    ∀ i d n₁, (.settle i d .ack, n₁) ∈ h → Acknowledged h d.messageID := by
  refine ⟨fun j hj => ?_, fun i d n₁ hmem => Notifying.acknowledged hr hmem⟩
  obtain ⟨o, ho, hid, -, -, hkind⟩ := hr.ok.sound.lifecycle_row hj
  exact ⟨o, ho, hid, fun hstatus => hid ▸ (Notifying.custody hr).rows o ho hstatus hkind⟩

/-- The subscriber knows the event already. -/
theorem events_reported_at_least_once_duplicate : ∃ E h n d n₁, Notifying E h n ∧ (.settle 0 d .ack, n₁) ∈ h ∧
    Acknowledged h d.messageID := by
  obtain ⟨hash, h, n, d, o, hr, -, hidle, hqueue, ho, hsent, hkey, -⟩ := Sample.exists_arrived
  obtain ⟨j, -, -, request, -, hreport⟩ :=
    Notifying.reports hr (Sample.timeTexts hash) hidle hqueue ho hsent hkey
  obtain ⟨n₁, n₂, n₃, n₄, hr₄, hlane, -⟩ := hreport (.response d.messageID .duplicate)
  have hanswer : replySettlement d.messageID (.response d.messageID .duplicate) = .ack := by
    simp [replySettlement, CallbackReply.accepts, dispositionFromProto]
  rw [hanswer] at hlane
  have hsettled := hr₄.next (.settle hlane)
  exact ⟨_, _, _, d, _, hsettled, List.mem_cons_self,
    (events_reported_at_least_once hsettled).2 0 d _ List.mem_cons_self⟩

end MailService
