import MailService.AtLeastOnce
/-!
# Giving up

If nobody else publishes under the service's exchange, every delivery is a copy of
an event of the outbox. Such a copy passes all checks of the consumer, so that the
consumer gives up on it only after an answer that no further report can change.
-/
open Text Checks Table Runs

namespace MailService

open Db

variable {E : Env} {h : CallbackHistory} {n n' : Notifier} {s s' : System} {action : Action}
  {act : CallbackAction}
  {d : Delivery}

/-! ## Deliveries -/

/-- The delivery is queued or at a lane of the dispatch consumer. -/
def System.Carries (s : System) (d : Delivery) : Prop := d ∈ s.queue ∨ ∃ i work, s.lanes i = .holds d work

theorem System.Carries.setLane {i : Nat} {lane : Lane} (hc : (s.setLane i lane).Carries d)
    (hlane : ∀ work, lane = .holds d work → s.Carries d) : s.Carries d := by
  rcases hc with hc | ⟨k, work, hk⟩
  · exact .inl hc
  · rcases System.setLane_holds hk with ⟨-, h⟩ | ⟨-, h⟩
    · exact hlane work h
    · exact .inr ⟨k, work, h⟩

/-- Where a delivery comes from. -/
theorem Step.carries (hstep : Step E s action s') (hc : s'.Carries d) : s.Carries d ∨ action = .arrive d ∨
    ∃ leased reply, action = .publish leased reply ∧ ⟨leased, none⟩ ∈ s.jobs ∧
      (MailService.publish .default ⟨leased.event, leased.attemptNumber⟩ reply).1 = some d := by
  -- a lane that goes on holds what it held
  have hwork : ∀ {i d₀ work work'} {between : System}, s.lanes i = .holds d₀ work → between.lanes = s.lanes →
      between.queue = s.queue → (between.setLane i (.holds d₀ work')).Carries d → s.Carries d := by
    intro i d₀ work work' between hlane hlanes hqueue hc
    have hc' : between.Carries d := hc.setLane fun _ heq => by
      cases heq
      exact .inr ⟨i, work, hlanes ▸ hlane⟩
    simpa only [System.Carries, hlanes, hqueue] using hc'
  have hreturned : ∀ {i d₀ work} (answer), s.lanes i = .holds d₀ work →
      ((s.returned d₀ answer).setLane i .idle).Carries d → s.Carries d := by
    intro i d₀ work answer hlane hc
    have hc' : (s.returned d₀ answer).Carries d := hc.setLane fun _ heq => nomatch heq
    cases answer with
    | ack => exact hc'
    | deadLetter => exact hc'
    | requeue =>
      rcases hc' with hqueue | hc'
      · rcases List.mem_append.1 hqueue with hqueue | hqueue
        · exact .inl hqueue
        · obtain rfl := List.mem_singleton.1 hqueue
          exact .inr ⟨i, work, hlane⟩
      · exact .inr hc'
  cases hstep with
  | submit => exact .inl hc
  | schedule => exact .inl hc
  | lease => exact .inl hc
  | leaseFailed => exact .inl hc
  | record => exact .inl hc
  | recordFailed => exact .inl hc
  | jobLost => exact .inl hc
  | @arrive d₀ =>
    rcases hc with hqueue | hc
    · rcases List.mem_append.1 hqueue with hqueue | hqueue
      · exact .inl (.inl hqueue)
      · exact .inr (.inl (by rw [List.mem_singleton.1 hqueue]))
    · exact .inl (.inr hc)
  | @deadLetter d₀ before after hqueue =>
    refine .inl (hc.imp (fun hmem => ?_) id)
    rw [hqueue]
    exact (List.mem_append.1 hmem).elim (List.mem_append_left _) fun hmem =>
      List.mem_append_right _ (List.mem_cons_of_mem _ hmem)
  | @deliver i d₀ before after hidle hqueue =>
    have hrest : ∀ x ∈ before ++ after, x ∈ s.queue := by
      intro x hx
      rw [hqueue]
      exact (List.mem_append.1 hx).elim (List.mem_append_left _) fun hx =>
        List.mem_append_right _ (List.mem_cons_of_mem _ hx)
    rcases hc with hmem | ⟨k, work, hk⟩
    · exact .inl (.inl (hrest d hmem))
    · rcases System.setLane_holds hk with ⟨-, heq⟩ | ⟨-, hk⟩
      · cases heq
        exact .inl (.inl (by simp [hqueue]))
      · exact .inl (.inr ⟨k, work, hk⟩)
  | readForClaim hlane => exact .inl (hwork hlane rfl rfl hc)
  | claim hlane => exact .inl (hwork hlane rfl rfl hc)
  | claimFailed hlane => exact .inl (hwork hlane rfl rfl hc)
  | buildFailed hlane => exact .inl (hwork hlane rfl rfl hc)
  | callSubmit hlane => exact .inl (hwork hlane rfl rfl hc)
  | submitReturned hlane => exact .inl (hwork hlane rfl rfl hc)
  | readForFinalize hlane => exact .inl (hwork hlane rfl rfl hc)
  | finalize hlane => exact .inl (hwork hlane rfl rfl hc)
  | finalizeFailed hlane => exact .inl (hwork hlane rfl rfl hc)
  | @settle i d₀ answer hlane => exact .inl (hreturned answer hlane hc)
  | laneLost hlane => exact .inl (hreturned .requeue hlane hc)
  | @publish leased before after reply contextError kept hjob =>
    rcases hc with hqueue | hc
    · rcases List.mem_append.1 hqueue with hqueue | hqueue
      · exact .inl (.inl hqueue)
      · refine .inr (.inr ⟨leased, reply, rfl, by simp [hjob], ?_⟩)
        cases kept with
        | false => simp at hqueue
        | true => simpa [Option.mem_toList] using hqueue
    · exact .inl (.inr hc)

/-- Every delivery is a copy of an event of the outbox, and the lanes take those of their keys. -/
structure Notifier.Own (n : Notifier) : Prop where
  carried : ∀ d, n.service.Carries d → ∃ o ∈ n.service.db.outbox, Sent o.event d
  held : ∀ i d work, n.lanes i = .holds d work →
    isLifecycleDelivery d ∧ ∃ o ∈ n.service.db.outbox, Sent o.event d

theorem CallbackStep.outbox_later (hstep : CallbackStep E n act n') (hs : n.service.Ok E) :
    ∀ o ∈ n.service.db.outbox, ∃ o' ∈ n'.service.db.outbox, o'.event = o.event := by
  cases hstep with
  | commit hstep => exact (hstep.evolves hs).later.outbox
  | service hstep => exact (hstep.evolves hs).later.outbox
  | @settle i d answer => cases answer <;> exact fun o ho => ⟨o, ho, rfl⟩
  | _ => exact fun o ho => ⟨o, ho, rfl⟩

/-- A lane lets go of its delivery. -/
theorem System.returned_carries {answer : Settlement} {d₀ : Delivery}
    (hc : (s.returned d₀ answer).Carries d) :
    s.Carries d ∨ d = d₀ := by
  cases answer with
  | ack => exact .inl hc
  | deadLetter => exact .inl hc
  | requeue =>
    rcases hc with hqueue | hc
    · rcases List.mem_append.1 hqueue with hqueue | hqueue
      · exact .inl (.inl hqueue)
      · exact .inr (List.mem_singleton.1 hqueue)
    · exact .inl (.inr hc)

theorem Notifier.Own.step (hown : n.Own) (hr : Notifying E h n) (hstep : CallbackStep E n act n')
    (hclosed : Closed ((act, n') :: h)) : n'.Own := by
  have hlater := hstep.outbox_later hr.ok
  have hcopy : ∀ d, (∃ o ∈ n.service.db.outbox, Sent o.event d) →
      ∃ o ∈ n'.service.db.outbox, Sent o.event d := by
    rintro d ⟨o, ho, hsent⟩
    obtain ⟨o', ho', he⟩ := hlater o ho
    exact ⟨o', ho', he ▸ hsent⟩
  have hheld : ∀ i d work, n.lanes i = .holds d work →
      isLifecycleDelivery d ∧ ∃ o ∈ n'.service.db.outbox, Sent o.event d := fun i d work hlane =>
    (hown.held i d work hlane).imp id (hcopy d)
  have hservice : ∀ {action}, act = .service action → Step E n.service action n'.service →
      ∀ d, n'.service.Carries d → ∃ o ∈ n'.service.db.outbox, Sent o.event d := by
    intro action hact hstep' d hc
    rcases hstep'.carries hc with hc | rfl | ⟨leased, reply, rfl, hjob, hsent⟩
    · exact hcopy d (hown.carried d hc)
    · exact hclosed d n' (hact ▸ List.mem_cons_self)
    · obtain ⟨o, ho, he⟩ := (Notifying.job_rows hr).1 _ hjob
      exact hcopy d ⟨o, ho, he ▸ ⟨leased.attemptNumber, reply, hsent⟩⟩
  -- a lane of the lifecycle consumer goes on with what it holds, or lets go of it
  have hset : ∀ {i d₀ work} {lane : CallbackLane}, n.lanes i = .holds d₀ work →
    (∀ d work', lane = .holds d work' → d = d₀) →
      n' = n.setLane i lane → n'.Own := by
    rintro i d₀ work lane hlane hsame rfl
    refine ⟨hown.carried, fun k d work' hk => ?_⟩
    rcases Notifier.setLane_holds hk with hk | hk
    · exact hsame d work' hk ▸ hown.held i d₀ work hlane
    · exact hown.held k d work' hk
  have hrelease : ∀ {i d₀ work answer}, n.lanes i = .holds d₀ work →
      n' = (n.returned d₀ answer).setLane i .idle → n'.Own := by
    rintro i d₀ work answer hlane rfl
    have houtbox : (n.service.returned d₀ answer).db.outbox = n.service.db.outbox := by cases answer <;> rfl
    refine ⟨fun d hc => ?_, fun k d work' hk => ?_⟩
    · change ∃ o ∈ (n.service.returned d₀ answer).db.outbox, Sent o.event d
      rw [houtbox]
      rcases System.returned_carries hc with hc | rfl
      · exact hown.carried d hc
      · exact (hown.held i d work hlane).2
    · rcases Notifier.setLane_holds hk with hk | hk
      · cases hk
      · exact hheld k d work' hk
  cases hstep with
  | commit hstep' => exact ⟨hservice rfl hstep', hheld⟩
  | service hstep' => exact ⟨hservice rfl hstep', hheld⟩
  | @deliver i d₀ before after hidle hqueue hkey =>
    have hmem : ∀ x ∈ before ++ d₀ :: after, ∃ o ∈ n.service.db.outbox, Sent o.event x := fun x hx =>
      hown.carried x (.inl (hqueue ▸ hx))
    refine ⟨fun d hc => ?_, fun k d work hk => ?_⟩
    · rcases hc with hc | hc
      · refine hmem d ((List.mem_append.1 hc).elim (List.mem_append_left _) fun hc => ?_)
        exact List.mem_append_right _ (List.mem_cons_of_mem _ hc)
      · exact hown.carried d (.inr hc)
    · rcases Notifier.setLane_holds hk with hk | hk
      · cases hk
        exact ⟨hkey, hmem d₀ (by simp)⟩
      · exact hown.held k d work hk
  | load hlane => exact hset hlane (fun _ _ heq => (CallbackLane.holds.inj heq).1.symm) rfl
  | loadFailed hlane => exact hset hlane (fun _ _ heq => (CallbackLane.holds.inj heq).1.symm) rfl
  | call hlane => exact hset hlane (fun _ _ heq => (CallbackLane.holds.inj heq).1.symm) rfl
  | callFailed hlane => exact hset hlane (fun _ _ heq => (CallbackLane.holds.inj heq).1.symm) rfl
  | answered hlane => exact hset hlane (fun _ _ heq => (CallbackLane.holds.inj heq).1.symm) rfl
  | settle hlane => exact hrelease hlane rfl
  | laneLost hlane => exact hrelease hlane rfl

theorem Closed.of_cons (hclosed : Closed ((act, n') :: h)) : Closed h := fun d n₁ hmem =>
  hclosed d n₁ (List.mem_cons_of_mem _ hmem)

theorem Notifying.own (hr : Notifying E h n) (hclosed : Closed h) : n.Own := by
  refine hr.induct (P := fun h n => Closed h → n.Own) (fun n₀ hinit _ => ?_)
    (fun h₀ n₀ act n₁ hr₀ ih hstep hclosed => (ih hclosed.of_cons).step hr₀ hstep hclosed) hclosed
  obtain ⟨⟨-, hlanes, hqueue, -⟩, hidle⟩ := hinit
  constructor
  · rintro d (hmem | ⟨i, work, hlane⟩)
    · simp [hqueue] at hmem
    · simp [hlanes] at hlane
  · intro i d work hlane
    simp [hidle] at hlane

/-- A lane gives up on what the subscriber has refused. -/
def Notifier.Refusing (h : CallbackHistory) (n : Notifier) : Prop :=
  ∀ i d, n.lanes i = .holds d (.processed .deadLetter) → Refused h d.messageID

theorem Notifier.Refusing.step (hf : n.Refusing h) (hr : Notifying E h n) (hL : E.L.TimeTexts) (hown : n.Own)
    (hstep : CallbackStep E n act n') : n'.Refusing ((act, n') :: h) := by
  have ha := Notifying.answering hr
  -- a lane goes on, and the others stay
  have hset : ∀ {between : Notifier} {i lane}, n' = between.setLane i lane → between.lanes = n.lanes →
      (∀ d, lane = .holds d (.processed .deadLetter) → Refused ((act, n') :: h) d.messageID) →
      n'.Refusing ((act, n') :: h) := by
    intro between i lane hn' hlanes hnew k d hk
    rw [hn'] at hk
    rcases Notifier.setLane_holds hk with hk | hk
    · exact hnew d hk
    · exact (hf k d (hlanes ▸ hk)).cons
  cases hstep with
  | commit => exact fun k d hk => (hf k d hk).cons
  | service => exact fun k d hk => (hf k d hk).cons
  | @deliver i d before after _ hqueue hkey =>
    refine hset rfl rfl fun d' hw => ?_
    obtain ⟨rfl, hsettled⟩ := CallbackLane.holds.inj hw
    obtain ⟨o, ho, hsent⟩ := hown.carried d (.inl (by simp [hqueue]))
    rw [notified, (Notifying.readable hr hL ho hsent hkey).1] at hsettled
    cases hsettled
  | load => exact hset rfl rfl fun d' hw => by cases hw
  | @loadFailed i d command e hlane hfailed =>
    refine hset rfl rfl fun d' hw => ?_
    obtain ⟨rfl, hsettled⟩ := CallbackLane.holds.inj hw
    obtain ⟨hkey, o, ho, hsent⟩ := hown.held i d _ hlane
    obtain ⟨hparse, j, hj, -, hload, -⟩ := Notifying.readable hr hL ho hsent hkey
    obtain rfl : ⟨d.messageID⟩ = command := Except.ok.inj (hparse.symm.trans (ha _ _ _ hlane))
    rcases hfailed with hfailed | htransient
    · rw [hload] at hfailed
      cases hfailed
    · simp [lifecycleSettlement, htransient] at hsettled
  | call => exact hset rfl rfl fun d' hw => by cases hw
  | @callFailed i d event e contextError hlane hfailed =>
    obtain ⟨-, j, hj, rfl⟩ := ha _ _ _ hlane
    obtain ⟨t, hwritten, ht, -⟩ := Notifying.observed hr j hj
    obtain ⟨request, hrequest⟩ := hwritten.request ht hL
    rw [hrequest] at hfailed
    cases hfailed
  | @answered i d event request reply contextError hlane =>
    refine hset rfl rfl fun d' hw => ?_
    obtain ⟨rfl, hsettled⟩ := CallbackLane.holds.inj hw
    obtain ⟨⟨hid, -⟩, hrequest⟩ : event.Read n.service.db d ∧ reportRequest E.L event = .ok request :=
      ha _ _ _ hlane
    rw [settlement_reply, CallbackWork.processed.injEq] at hsettled
    have hpermanent : reply.permanent event.id = true := by
      by_contra hno
      rw [if_neg hno] at hsettled
      split at hsettled <;> cases hsettled
    exact ⟨i, request, reply, _, List.mem_cons_self,
      (reportRequest_eq_ok hrequest).1.trans hid, hid ▸ hpermanent⟩
  | settle => exact hset rfl rfl fun d' hw => by cases hw
  | laneLost => exact hset rfl rfl fun d' hw => by cases hw

theorem Notifying.refusing (hr : Notifying E h n) (hL : E.L.TimeTexts) (hclosed : Closed h) :
    n.Refusing h := by
  refine hr.induct (P := fun h n => Closed h → n.Refusing h) (fun n₀ hinit _ i d hlane => ?_)
    (fun h₀ n₀ act n₁ hr₀ ih hstep hclosed => ?_) hclosed
  · simp [hinit.2] at hlane
  · exact (ih hclosed.of_cons).step hr₀ hL (Notifying.own hr₀ hclosed.of_cons) hstep

theorem Notifying.refused {i : Nat} {n₁ : Notifier} (hr : Notifying E h n)
    (hL : E.L.TimeTexts) (hclosed : Closed h) (hmem : (.settle i d .deadLetter, n₁) ∈ h) :
    Refused h d.messageID := by
  refine hr.induct (P := fun h _ => Closed h → (.settle i d .deadLetter, n₁) ∈ h → Refused h d.messageID)
    (fun _ _ _ hmem => nomatch hmem) (fun h₀ n₀ act n' hr₀ ih hstep hclosed hmem => ?_) hclosed hmem
  rcases List.mem_cons.1 hmem with heq | hmem
  · obtain ⟨rfl, rfl⟩ := Prod.mk.inj heq
    cases hstep with
    | settle hlane => exact (Notifying.refusing hr₀ hL hclosed.of_cons _ _ hlane).cons
  · exact (ih hclosed.of_cons hmem).cons

/-- The lifecycle consumer dead-letters an event only if the subscriber refused it for
good; and whatever is queued for it, an idle lane can report, with any answer. -/
theorem only_refused_events_dead_lettered (hL : E.L.TimeTexts) (hr : Notifying E h n) (hclosed : Closed h) :
    (∀ i d n₁, (.settle i d .deadLetter, n₁) ∈ h → Refused h d.messageID) ∧
    ∀ i d, n.lanes i = .idle → d ∈ n.service.queue → isLifecycleDelivery d →
      ∃ j ∈ n.service.db.events, j.id = d.messageID ∧ ∃ request, reportRequest E.L j.persisted = .ok request ∧
        ∀ reply, ∃ n₁ n₂ n₃ n₄, Notifying E ((.answered i request reply, n₄) :: (.call i request, n₃) ::
          (.load i j.persisted, n₂) :: (.deliver i d, n₁) :: h) n₄ ∧
          n₄.lanes i = .holds d (.processed (replySettlement d.messageID reply)) ∧
          n₄.service.db = n.service.db := by
  refine ⟨fun i d n₁ hmem => Notifying.refused hr hL hclosed hmem, fun i d hidle hqueue hkey => ?_⟩
  obtain ⟨o, ho, hsent⟩ := (Notifying.own hr hclosed).carried d (.inl hqueue)
  exact Notifying.reports hr hL hidle hqueue ho hsent hkey

/-- The subscriber returns no response. -/
theorem only_refused_events_dead_lettered_no_response : ∃ E h n d n₁, Notifying E h n ∧ Closed h ∧
    (.settle 0 d .deadLetter, n₁) ∈ h ∧ Refused h d.messageID := by
  obtain ⟨hash, h, n, d, o, hr, hclosed, hidle, hqueue, -, -, hkey, -⟩ := Sample.exists_arrived
  have hL := Sample.timeTexts hash
  obtain ⟨j, -, -, request, -, hreport⟩ :=
    (only_refused_events_dead_lettered hL hr hclosed).2 0 d hidle hqueue hkey
  obtain ⟨n₁, n₂, n₃, n₄, hr₄, hlane, -⟩ := hreport .missing
  have hrefused : n₄.lanes 0 = .holds d (.processed .deadLetter) := hlane
  have hsettled := hr₄.next (.settle hrefused)
  have hclosed' : ∀ n₅,
    Closed ((.settle 0 d .deadLetter, n₅) :: (.answered 0 request .missing, n₄) ::
    (.call 0 request, n₃) ::
      (.load 0 j.persisted, n₂) :: (.deliver 0 d, n₁) :: h) := by
    intro n₅ d' n' hmem
    simp only [List.mem_cons, Prod.mk.injEq, reduceCtorEq, false_and, false_or] at hmem
    exact hclosed d' n' hmem
  exact ⟨_, _, _, d, _, hsettled, hclosed' _, List.mem_cons_self,
    (only_refused_events_dead_lettered hL hsettled (hclosed' _)).1 0 d _ List.mem_cons_self⟩

end MailService
