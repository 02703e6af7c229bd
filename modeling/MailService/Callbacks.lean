import MailService.Custody
import MailService.Notification
import MailService.Progress
import MailService.Traces
/-!
# The service with its lifecycle consumers

The running service of `System`, any number of lanes of the lifecycle consumer and
a subscriber that may answer anything, or nothing. A lane reads the journal in one
step and calls the subscriber in a later one; it may be lost between any two, and
then its delivery goes back to the queue.

Every run of it is, for the database and the relays, a run of `System`, so that
all that holds along those holds here.
-/
open Text Checks Table Runs

namespace MailService

open Db

/-- How far a lifecycle lane is with the delivery it holds. -/
inductive CallbackWork
  | parsed (command : NotificationCommand)
  | loaded (event : PersistedDeliveryEvent)
  /-- The subscriber was sent `request` and has not answered. -/
  | calling (event : PersistedDeliveryEvent) (request : DeliveryV1.DeliveryEvent)
  | processed (settlement : Settlement)

inductive CallbackLane
  | idle
  | holds (delivery : Delivery) (work : CallbackWork)

structure Notifier where
  service : System
  /-- The column `observed_at` of the journal, by event id. -/
  observedAt : String → Time
  lanes : Nat → CallbackLane

inductive CallbackAction
  | service (action : Action)
  | deliver (lane : Nat) (delivery : Delivery)
  | load (lane : Nat) (event : PersistedDeliveryEvent)
  | loadFailed (lane : Nat) (error : NotificationError)
  | call (lane : Nat) (request : DeliveryV1.DeliveryEvent)
  | callFailed (lane : Nat)
  | answered (lane : Nat) (request : DeliveryV1.DeliveryEvent) (reply : CallbackReply)
  | settle (lane : Nat) (delivery : Delivery) (settlement : Settlement)
  | laneLost (lane : Nat)

namespace Notifier

def setLane (n : Notifier) (i : Nat) (lane : CallbackLane) : Notifier :=
  { n with lanes := Function.update n.lanes i lane }

/-- `observed_at` after a transaction at `t`: its rows have the column's default. -/
def observe (n : Notifier) (t : Time) (eventID : String) : Time :=
  if n.service.db.events.any (·.id = eventID) then n.observedAt eventID else t

/-- What `Process` reads for a command. -/
def load (n : Notifier) (command : NotificationCommand) : Except NotificationError PersistedDeliveryEvent :=
  loadEvent (n.service.db.getDeliveryEvent n.observedAt) command

/-- The broker has taken back a delivery, or has let go of it. -/
def returned (n : Notifier) (d : Delivery) (answer : Settlement) : Notifier :=
  { n with service := n.service.returned d answer }

end Notifier

def isLifecycleDelivery (d : Delivery) : Prop :=
  d.exchange = ConsumerConfig.defaultLifecycle.exchange ∧
    d.routingKey ∈ ConsumerConfig.defaultLifecycle.routingKeys

/-- What a lane does first with a delivery: an invalid one is dead-lettered. -/
def notified (L : Libs) (d : Delivery) : CallbackWork :=
  match parseLifecycleDelivery L .defaultLifecycle d with
  | .ok command => .parsed command
  | .error _ => .processed .deadLetter

inductive CallbackStep (E : Env) : Notifier → CallbackAction → Notifier → Prop
  /-- The clock of a transaction and the default of `observed_at` are both
  `transaction_timestamp()`, which has the precision of the column. -/
  | commit {n : Notifier} {action s'} {t : Time} : Step E n.service action s' → CommitsAt n.service action t →
      truncate t = t → CallbackStep E n (.service action) { n with service := s', observedAt := n.observe t }
  | service {n : Notifier} {action s'} : Step E n.service action s' → (∀ t, ¬ CommitsAt n.service action t) →
      CallbackStep E n (.service action) { n with service := s' }
  | deliver {n : Notifier} {i d before after} : n.lanes i = .idle → n.service.queue = before ++ d :: after →
      isLifecycleDelivery d →
      CallbackStep E n (.deliver i d)
        ({ n with service := { n.service with queue := before ++ after } }.setLane i
          (.holds d (notified E.L d)))
  | load {n : Notifier} {i d command event} : n.lanes i = .holds d (.parsed command) →
      n.load command = .ok event →
      CallbackStep E n (.load i event) (n.setLane i (.holds d (.loaded event)))
  /-- `Process` ended before the call, in its own error or in one of storage or context. -/
  | loadFailed {n : Notifier} {i d command e} : n.lanes i = .holds d (.parsed command) →
      n.load command = .error e ∨ classifyError e = .transient →
      CallbackStep E n (.loadFailed i e)
        (n.setLane i (.holds d (.processed (lifecycleSettlement (α := Unit) (.error e)))))
  | call {n : Notifier} {i d event request} : n.lanes i = .holds d (.loaded event) →
      reportRequest E.L event = .ok request →
      CallbackStep E n (.call i request) (n.setLane i (.holds d (.calling event request)))
  | callFailed {n : Notifier} {i d event e contextError} : n.lanes i = .holds d (.loaded event) →
      reportRequest E.L event = .error e →
      CallbackStep E n (.callFailed i) (n.setLane i
        (.holds d (.processed
          (lifecycleSettlement (finishReport contextError (.error (.typed reportFailure)))))))
  | answered {n : Notifier} {i d event request reply contextError} :
      n.lanes i = .holds d (.calling event request) →
      CallbackStep E n (.answered i request reply) (n.setLane i
        (.holds d (.processed (lifecycleSettlement (finishReport contextError (reportReply event reply))))))
  | settle {n : Notifier} {i d answer} : n.lanes i = .holds d (.processed answer) →
      CallbackStep E n (.settle i d answer) ((n.returned d answer).setLane i .idle)
  | laneLost {n : Notifier} {i d work} : n.lanes i = .holds d work →
      CallbackStep E n (.laneLost i) ((n.returned d .requeue).setLane i .idle)

def Notifier.Initial (n : Notifier) : Prop := MailService.Initial n.service ∧ n.lanes = fun _ => .idle

abbrev CallbackHistory := List (CallbackAction × Notifier)

/-- `n` is reached by the run with history `h`. -/
abbrev Notifying (E : Env) (h : CallbackHistory) (n : Notifier) : Prop :=
  Run Notifier.Initial (CallbackStep E) h n

variable {E : Env} {h : CallbackHistory} {n n' : Notifier} {s s' : System} {action : Action}
  {act : CallbackAction} {d : Delivery}

/-! ## Runs of the service -/

/-- No step of the service depends on what was dead-lettered. -/
theorem Step.withDead (hstep : Step E s action s') (dead : List Delivery) :
    ∃ dead', Step E { s with dead := dead } action { s' with dead := dead' } := by
  cases hstep with
  | submit hid h => exact ⟨_, .submit hid h⟩
  | schedule h => exact ⟨_, .schedule h⟩
  | arrive => exact ⟨_, .arrive⟩
  | deadLetter hqueue => exact ⟨_, .deadLetter hqueue⟩
  | deliver hidle hqueue hd => exact ⟨_, .deliver hidle hqueue hd⟩
  | readForClaim hlane => exact ⟨_, .readForClaim hlane⟩
  | claim hlane hkey h => exact ⟨_, .claim hlane hkey h⟩
  | claimFailed hlane hkey h => exact ⟨_, .claimFailed hlane hkey h⟩
  | buildFailed hlane h => exact ⟨_, .buildFailed hlane h⟩
  | callSubmit hlane h => exact ⟨_, .callSubmit hlane h⟩
  | submitReturned hlane => exact ⟨_, .submitReturned hlane⟩
  | readForFinalize hlane => exact ⟨_, .readForFinalize hlane⟩
  | finalize hlane h => exact ⟨_, .finalize hlane h⟩
  | finalizeFailed hlane h => exact ⟨_, .finalizeFailed hlane h⟩
  | @settle i d answer hlane => cases answer <;> exact ⟨_, .settle hlane⟩
  | laneLost hlane => exact ⟨_, .laneLost hlane⟩
  | lease hvalid hmax hfresh h => exact ⟨_, .lease hvalid hmax hfresh h⟩
  | leaseFailed => exact ⟨_, .leaseFailed⟩
  | publish hjob hkept => exact ⟨_, .publish hjob hkept⟩
  | record hjob hdecided h => exact ⟨_, .record hjob hdecided h⟩
  | recordFailed hjob hdecided h => exact ⟨_, .recordFailed hjob hdecided h⟩
  | jobLost hjob => exact ⟨_, .jobLost hjob⟩

/-- The service as `System` knows it: what a lifecycle lane holds has left it. -/
def Notifier.Serves (n : Notifier) (s : System) : Prop := ∃ dead, s = { n.service with dead := dead }

/-- A lane's delivery leaves the queue and may come back to it. -/
theorem CallbackStep.serves (hstep : CallbackStep E n act n') (hs : n.Serves s) :
    n'.Serves s ∨ ∃ action s', Step E s action s' ∧ n'.Serves s' := by
  obtain ⟨dead, rfl⟩ := hs
  have hback : ∀ d, ∃ action s', Step E { n.service with dead := dead } action s' ∧
      (n.returned d .requeue).Serves s' := fun d => ⟨.arrive d, _, .arrive, dead, rfl⟩
  cases hstep with
  | commit h =>
    obtain ⟨dead', h'⟩ := h.withDead dead
    exact .inr ⟨_, _, h', dead', rfl⟩
  | service h =>
    obtain ⟨dead', h'⟩ := h.withDead dead
    exact .inr ⟨_, _, h', dead', rfl⟩
  | @deliver i d before after _ hqueue =>
    exact .inr ⟨.deadLetter d, _, .deadLetter hqueue, _, rfl⟩
  | @settle i d answer =>
    cases answer with
    | ack => exact .inl ⟨dead, rfl⟩
    | deadLetter => exact .inl ⟨dead, rfl⟩
    | requeue => exact .inr (hback d)
  | @laneLost i d => exact .inr (hback d)
  | _ => exact .inl ⟨dead, rfl⟩

/-- Every run is a run of the service. -/
theorem Notifying.serves (hr : Notifying E h n) : ∃ h' s, Reached E h' s ∧ n.Serves s :=
  hr.simulate (fun n hinit => ⟨n.service, hinit.1, n.service.dead, rfl⟩)
    fun _ _ _ _ hs hstep => hstep.serves hs

theorem Notifying.ok (hr : Notifying E h n) : n.service.Ok E := by
  obtain ⟨h', s, hr', dead, rfl⟩ := hr.serves
  exact ⟨(Reached.ok hr').sound, (Reached.ok hr').lanes⟩

theorem Notifying.traced (hr : Notifying E h n) : n.service.db.Traced E.L := by
  obtain ⟨h', s, hr', dead, rfl⟩ := hr.serves
  exact ⟨(Reached.traced hr').journal, (Reached.traced hr').outbox⟩

/-! ## The journal -/

section Journal

variable {L : Libs} {ids : Set Uuid} {db db' : Db} {j j' : DeliveryEvent}

/-- A lifecycle row of the outbox for every journal row. -/
theorem Sound.lifecycle_row (hs : Sound L ids db) (hj : j ∈ db.events) : ∃ o ∈ db.outbox, o.event.id = j.id ∧
    o.event.aggregateID = j.messageID ∧ o.event.aggregateSequence = j.sequence ∧
    o.event.isDispatch = false := by
  obtain ⟨r, hr, hid, -⟩ := hs.keyed.journal j hj
  have hmem : j ∈ db.journal r.snapshot.id := List.mem_filter.2 ⟨hj, by simp [hid]⟩
  have hrow := List.mem_map_of_mem (f := fun j => (j.id, lifecycleType j.status, j.sequence)) hmem
  rw [← (hs.rows r hr).inStep.lifecycle] at hrow
  obtain ⟨o, ho, heq⟩ := List.mem_map.1 hrow
  obtain ⟨ho, hkind⟩ := List.mem_filter.1 ho
  obtain ⟨ho, haggregate⟩ := List.mem_filter.1 ho
  obtain ⟨x, hx, rfl⟩ := List.mem_map.1 ho
  simp only [Prod.mk.injEq] at heq
  exact ⟨x, hx, heq.1, (of_decide_eq_true haggregate).trans hid, heq.2.2, by simpa using hkind⟩

/-- A journal row for every lifecycle row of the outbox. -/
theorem Sound.journal_row {o : OutboxRow} (hs : Sound L ids db) (ho : o ∈ db.outbox)
    (hkind : o.event.isDispatch = false) :
    ∃ j ∈ db.events, j.id = o.event.id := by
  obtain ⟨r, hr, hid, -⟩ := hs.keyed.outbox o ho
  have hmem : o.event ∈ (db.outboxEvents r.snapshot.id).filter (!·.isDispatch) := by
    refine List.mem_filter.2 ⟨List.mem_filter.2 ⟨List.mem_map_of_mem ho, ?_⟩, by simp [hkind]⟩
    simp [hid]
  have hrow := List.mem_map_of_mem (f := fun o => (o.id, o.eventType, o.aggregateSequence)) hmem
  rw [(hs.rows r hr).inStep.lifecycle] at hrow
  obtain ⟨j, hj, heq⟩ := List.mem_map.1 hrow
  exact ⟨j, List.mem_of_mem_filter hj, congrArg Prod.fst heq⟩

/-- One row for each sequence of a message. -/
theorem Sound.journal_unique (hs : Sound L ids db) (hj : j ∈ db.events) (hj' : j' ∈ db.events)
    (hmessage : j.messageID = j'.messageID) (hsequence : j.sequence = j'.sequence) : j = j' := by
  obtain ⟨r, hr, hid, -⟩ := hs.keyed.journal j hj
  have hnodup : ((db.journal r.snapshot.id).map (·.sequence)).Nodup := by
    rw [(hs.rows r hr).inStep.sequences]
    exact List.nodup_range'
  refine List.inj_on_of_nodup_map hnodup ?_ ?_ hsequence
  · exact List.mem_filter.2 ⟨hj, by simp [hid]⟩
  · exact List.mem_filter.2 ⟨hj', by simp [hid, hmessage]⟩

/-- No two rows share an id: they would share their outbox row. -/
theorem Sound.journal_id_unique (hs : Sound L ids db) (hj : j ∈ db.events) (hj' : j' ∈ db.events)
    (hid : j.id = j'.id) :
    j = j' := by
  obtain ⟨o, ho, hoid, hmessage, hsequence, -⟩ := hs.lifecycle_row hj
  obtain ⟨o', ho', hoid', hmessage', hsequence', -⟩ := hs.lifecycle_row hj'
  have heq : o = o' := List.inj_on_of_nodup_map hs.keyed.outboxIDs ho ho' (hoid.trans (hid.trans hoid'.symm))
  subst heq
  exact hs.journal_unique hj hj' (hmessage.symm.trans hmessage') (hsequence.symm.trans hsequence')

/-- Nothing leaves the journal. -/
theorem Change.events_subset (hchange : Change L ids db db') : db.events ⊆ db'.events := by
  cases hchange with
  | created h => exact h.events ▸ List.subset_append_left _ _
  | advanced h => exact h.events ▸ List.subset_append_left _ _

theorem Evolves.events_subset (he : Evolves E db db') : db.events ⊆ db'.events := by
  cases he with
  | changed h =>
    induction h with
    | refl => exact List.Subset.refl _
    | tail _ hstep ih => exact List.Subset.trans ih hstep.events_subset
  | relayed h =>
    rw [h.rest]
    exact List.Subset.refl _

end Journal

theorem CallbackStep.events_subset (hstep : CallbackStep E n act n') (hs : n.service.Ok E) :
    n.service.db.events ⊆ n'.service.db.events := by
  cases hstep with
  | commit h => exact (h.evolves hs).events_subset
  | service h => exact (h.evolves hs).events_subset
  | @settle i d answer => cases answer <;> exact List.Subset.refl _
  | _ => exact List.Subset.refl _

/-- Each journal row was observed when it was written. -/
def Notifier.Observed (E : Env) (n : Notifier) : Prop :=
  ∀ j ∈ n.service.db.events, ∃ t, j.WrittenAt E.L t ∧ truncate t = t ∧ n.observedAt j.id = t

theorem Notifier.Observed.step (ho : n.Observed E) (hr : Notifying E h n) (hstep : CallbackStep E n act n') :
    n'.Observed E := by
  have hs := hr.ok
  have hs' := Notifying.ok (hr.next hstep)
  have hsame : n'.service.db = n.service.db → n'.observedAt = n.observedAt → n'.Observed E := by
    intro hdb hobserved j hj
    rw [hobserved]
    exact ho j (hdb ▸ hj)
  cases hstep with
  | @commit action s' t h hcommit htime =>
    intro j hj
    have hold : ∀ j₀ ∈ n.service.db.events, j₀.id = j.id → j₀ = j := fun j₀ hj₀ hid =>
      hs'.sound.journal_id_unique ((h.evolves hs).events_subset hj₀) hj hid
    by_cases hmem : j ∈ n.service.db.events
    · obtain ⟨t₀, hwritten, htime₀, hobserved⟩ := ho j hmem
      refine ⟨t₀, hwritten, htime₀, ?_⟩
      change n.observe t j.id = t₀
      rw [Notifier.observe, if_pos (List.any_eq_true.2 ⟨j, hmem, by simp⟩), hobserved]
    · have hnew : j.WrittenAt E.L t := by
        rcases h.writes hs with ⟨t', hcommit', hwrites⟩ | ⟨hevents, -⟩
        · rw [hcommit.unique hcommit']
          exact (hwrites.journal j hj).resolve_left hmem
        · exact absurd (hevents ▸ hj) hmem
      refine ⟨t, hnew, htime, ?_⟩
      change n.observe t j.id = t
      refine if_neg fun hany => ?_
      obtain ⟨j₀, hj₀, hid⟩ := List.any_eq_true.1 hany
      exact hmem (hold j₀ hj₀ (of_decide_eq_true hid) ▸ hj₀)
  | service h hnone =>
    intro j hj
    rcases h.writes hs with ⟨t, hcommit, -⟩ | ⟨hevents, -⟩
    · exact absurd hcommit (hnone t)
    · exact ho j (hevents ▸ hj)
  | @settle i d answer => cases answer <;> exact hsame rfl rfl
  | _ => exact hsame rfl rfl

theorem Notifying.observed (hr : Notifying E h n) : n.Observed E := by
  refine hr.induct (P := fun _ n => n.Observed E) (fun n₀ hinit j hj => ?_)
    fun h₀ n₀ act n₁ hr₀ ho hstep => ho.step hr₀ hstep
  obtain ⟨⟨⟨tenants, hdb⟩, -⟩, -⟩ := hinit
  simp [hdb] at hj

end MailService
