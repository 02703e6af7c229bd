import MailService.Callbacks
import MailService.Storage
/-!
# What the subscriber is told

What `Publish` sends for a lifecycle event is parsed, found in the journal and put
into a request; the request is the journal row, whichever copy of the event and
whichever attempt it is made for. A delivery is acknowledged only once the
subscriber has answered for its event, and an event that was published is in the
broker until then.
-/
open Text Checks Table Runs

namespace MailService

open Db

variable {E : Env} {L : Libs} {h : CallbackHistory} {n n' : Notifier} {s s' : System} {action : Action}
  {act : CallbackAction} {d : Delivery} {db : Db} {j : DeliveryEvent} {o : OutboxEvent} {t : Time}
  {record : MessageRecord}
  {e : Event}

/-! ## Answers -/

/-- The subscriber's answer ends the reports of an event. -/
def CallbackReply.accepts (eventID : String) : CallbackReply → Bool
  | .response id disposition => id = eventID ∧ (dispositionFromProto disposition).isSome
  | _ => false

/-- The subscriber's answer is one that no further report can change. -/
def CallbackReply.permanent (eventID : String) : CallbackReply → Bool
  | .failed code => !(classifyGRPCError code).retryable
  | .missing => true
  | .response id disposition => id ≠ eventID ∨ (dispositionFromProto disposition).isNone

theorem classifyGRPCError_valid (code : GrpcCode) : (classifyGRPCError code).valid = true := by
  cases code with
  | other => exact (by decide +kernel : validStableCode ("GRPC_" ++ "UNKNOWN_CODE") = true)
  | _ => decide +kernel

theorem dispositionFromProto_valid {value : DeliveryV1.EventAckDisposition}
    {disposition : EventAckDisposition} (hvalue : dispositionFromProto value = some disposition) :
    disposition.valid = true := by
  cases value <;> cases hvalue <;> rfl

/-- A typed error with a stable code goes back to the queue exactly if it is retryable. -/
theorem settlement_typed {error : DeliveryEventSubscriberError} (hvalid : error.valid = true)
    (contextError : Option ContextError) :
    lifecycleSettlement (finishReport contextError (.error (.typed error))) =
      if error.retryable then .requeue else .deadLetter := by
  cases hretry : error.retryable <;> simp [finishReport, lifecycleSettlement, classifyError, hvalid, hretry]

/-- How a delivery is settled after the subscriber's answer. -/
theorem settlement_reply (event : PersistedDeliveryEvent) (reply : CallbackReply)
    (contextError : Option ContextError) :
    lifecycleSettlement (finishReport contextError (reportReply event reply)) =
      if reply.accepts event.id then .ack else if reply.permanent event.id then
        .deadLetter else .requeue := by
  have hprotocol : DeliveryEventSubscriberError.valid ⟨"GRPC_PROTOCOL_ERROR", false⟩ =
      true := by decide +kernel
  cases reply with
  | failed code =>
    rw [reportReply, settlement_typed (classifyGRPCError_valid code)]
    cases hretry : (classifyGRPCError code).retryable <;>
      simp [CallbackReply.accepts, CallbackReply.permanent, hretry]
  | missing =>
    rw [reportReply, settlement_typed hprotocol]
    simp [CallbackReply.accepts, CallbackReply.permanent]
  | response id disposition =>
    by_cases hid : id = event.id
    · cases hvalue : dispositionFromProto disposition with
      | none =>
        simp only [reportReply, hid, ne_eq, not_true, if_false, hvalue]
        rw [settlement_typed hprotocol]
        simp [CallbackReply.accepts, CallbackReply.permanent, hvalue]
      | some value =>
        simp [reportReply, hid, hvalue, finishReport, dispositionFromProto_valid hvalue, lifecycleSettlement,
          CallbackReply.accepts]
    · simp only [reportReply, ne_eq, hid, not_false_eq_true, if_true]
      rw [settlement_typed hprotocol]
      simp [CallbackReply.accepts, CallbackReply.permanent, hid]

/-! ## Requests -/

/-- A journal row that was observed when it was written. -/
def DeliveryEvent.persisted (j : DeliveryEvent) : PersistedDeliveryEvent :=
  { j with observedAt := j.occurredAt }

/-- What `encoding/json` writes for a time is short and read back, and such a time, of a
year up to 9999, has a valid timestamp. -/
structure Libs.TimeTexts (L : Libs) : Prop where
  parsed : ∀ t text, L.formatTime t = some text → L.parseTime text = some t
  short : ∀ t text, L.formatTime t = some text → len text ≤ 64
  valid : ∀ t text, L.formatTime t = some text → L.timestampValid (L.timestampNew t) = true

theorem Event.From.formatted (hf : e.From L t record) : ∃ text, L.formatTime t = some text := by
  have hencoded := hf.mappable.encoded
  rw [messageEventEnvelope, Option.isSome_map, hf.occurredAt] at hencoded
  exact Option.isSome_iff_exists.1 hencoded

theorem Event.From.encodes (hf : e.From L t record) (hL : L.TimeTexts) : L.Encodes e.occurredAt := by
  obtain ⟨text, htext⟩ := hf.formatted
  exact ⟨hf.mappable.occurredAt, text, hf.occurredAt ▸ htext, hf.occurredAt ▸ hL.parsed t text htext,
    hL.short t text htext⟩

theorem statusToProto_isSome {status : Status} (hvalid : status.valid = true) :
    ∃ value, statusToProto status = some value := by
  cases status with
  | unknown => cases hvalid
  | _ => exact ⟨_, rfl⟩

/-- A row has the time of its transaction, as far as the column holds it. -/
theorem DeliveryEvent.WrittenAt.occurredAt (hw : j.WrittenAt L t) : j.occurredAt = truncate t := by
  obtain ⟨record, e, hf, -, hrow, -⟩ := hw
  unfold eventRow at hrow
  split at hrow
  · obtain rfl := Option.some.inj hrow
    exact congrArg truncate hf.occurredAt
  · cases hrow

/-- What was valid when it was written is valid when it is read. -/
theorem DeliveryEvent.WrittenAt.valid (hw : j.WrittenAt L t) (ht : truncate t = t) : j.validate = .ok () := by
  obtain ⟨record, e, hf, hkind, hrow, -⟩ := hw
  have hvalid := hf.mappable.delivery hkind
  have htime : truncate e.occurredAt ≠ 0 := by
    rw [hf.occurredAt, ht, ← hf.occurredAt]
    exact hf.mappable.occurredAt
  unfold eventRow at hrow
  split at hrow
  · rename_i id tenant message hid htenant hmessage
    obtain rfl := Option.some.inj hrow
    simp only [DeliveryEvent.validate, check_bind_eq_ok] at hvalid ⊢
    obtain ⟨-, -, -, hkey, hstatus, hcounters, -, hprovider, hfailure⟩ := hvalid
    exact ⟨isUUID_of_uuidColumn (uuidColumn_stable hid), isUUID_of_uuidColumn (uuidColumn_stable htenant),
      isUUID_of_uuidColumn (uuidColumn_stable hmessage), hkey, hstatus, hcounters, htime, hprovider, hfailure⟩
  · cases hrow

theorem DeliveryEvent.WrittenAt.persisted_valid (hw : j.WrittenAt L t) (ht : truncate t = t) :
    j.persisted.validate = .ok () := by
  have hvalid := hw.valid ht
  refine unit_bind_eq_ok.2 ⟨hvalid, check_eq_ok.2 ?_⟩
  simp only [DeliveryEvent.validate, check_bind_eq_ok] at hvalid
  exact hvalid.2.2.2.2.2.2.1

/-- Every row has a request. -/
theorem DeliveryEvent.WrittenAt.request (hw : j.WrittenAt L t) (ht : truncate t = t) (hL : L.TimeTexts) :
    ∃ request, reportRequest L j.persisted = .ok request := by
  have hvalid := hw.persisted_valid ht
  have htime : j.occurredAt = t := hw.occurredAt.trans ht
  obtain ⟨record, e, hf, -, -, hcolumns⟩ := hw
  obtain ⟨text, htext⟩ := hf.formatted
  have hrange : L.timestampValid (L.timestampNew j.occurredAt) = true := htime ▸ hL.valid t text htext
  obtain ⟨value, hvalue⟩ := statusToProto_isSome hcolumns.2.2.1
  have hstatus : statusToProto j.persisted.status = some value := hvalue
  simp only [reportRequest, bind_eq_ok, mapError_ok_iff, check_eq_ok, hstatus, pure_eq_ok]
  exact ⟨_, (), hvalid, (), hrange, (), hrange, rfl⟩

/-- What of the row stands in its request. -/
theorem reportRequest_eq_ok {event : PersistedDeliveryEvent} {request : DeliveryV1.DeliveryEvent}
    (hrequest : reportRequest L event = .ok request) :
    request.eventID = event.id ∧ request.messageID = event.messageID ∧ request.sequence = event.sequence ∧
    request.idempotencyKey = event.idempotencyKey ∧ request.occurredAt = L.timestampNew event.occurredAt ∧
    statusToProto event.status = some request.status := by
  simp only [reportRequest, bind_eq_ok, mapError_ok_iff, check_eq_ok] at hrequest
  obtain ⟨-, -, -, -, -, -, hrequest⟩ := hrequest
  split at hrequest
  · cases hrequest
  · rename_i hstatus
    obtain rfl := pure_eq_ok.1 hrequest
    exact ⟨rfl, rfl, rfl, rfl, rfl, hstatus⟩

/-! ## Copies -/

/-- The delivery is what `Publish` sends for the event. -/
def Sent (o : OutboxEvent) (d : Delivery) : Prop :=
  ∃ attemptNumber reply, (publish .default ⟨o, attemptNumber⟩ reply).1 = some d

theorem Sent.eq_makePublishing (hsent : Sent o d) : ∃ routingKey attemptNumber, 0 < attemptNumber ∧
    PublisherConfig.default.routes o.eventType = some routingKey ∧
    d = makePublishing .default routingKey ⟨o, attemptNumber⟩ := by
  obtain ⟨attemptNumber, reply, hd⟩ := hsent
  unfold publish at hd
  split at hd
  · cases hd
  · rename_i hvalid
    split at hd
    · cases hd
    · rename_i routingKey hroute
      simp only [validPublication, Bool.not_eq_true', decide_eq_false_iff_not, not_not] at hvalid
      exact ⟨routingKey, attemptNumber, Nat.pos_of_ne_zero hvalid.2.1, hroute, (Option.some.inj hd).symm⟩

theorem Sent.messageID (hsent : Sent o d) : d.messageID = o.id := by
  obtain ⟨routingKey, attemptNumber, -, -, rfl⟩ := hsent.eq_makePublishing
  rfl

/-- The two consumers share no copy. -/
theorem Sent.isLifecycleDelivery_iff (hsent : Sent o d) : isLifecycleDelivery d ↔ o.isDispatch = false := by
  obtain ⟨routingKey, attemptNumber, -, hroute, rfl⟩ := hsent.eq_makePublishing
  have hkeys : isLifecycleDelivery (makePublishing .default routingKey ⟨o, attemptNumber⟩) ↔
      routingKey ∈ ConsumerConfig.defaultLifecycle.routingKeys := ⟨And.right, fun hkey => ⟨rfl, hkey⟩⟩
  rw [hkeys]
  simp only [PublisherConfig.default] at hroute
  unfold OutboxEvent.isDispatch
  split at hroute
  · rename_i hkind
    obtain rfl := Option.some.inj hroute
    rw [hkind]
    decide
  split at hroute
  · rename_i hkind
    obtain rfl := Option.some.inj hroute
    rw [hkind]
    decide
  split at hroute
  · rename_i hkind
    obtain rfl := Option.some.inj hroute
    rw [hkind]
    decide
  · cases hroute

/-- The outbox holds an event as it was mapped, with its payload in the spacing of `jsonb`. -/
theorem OutboxEvent.WrittenAt.carried (hw : o.WrittenAt L t) : ∃ record e body, Event.From e L t record ∧
    Carried (outboxEventOf L record.tenantID e).payload body ∧
    o = { outboxEventOf L record.tenantID e with payload := body } := by
  obtain ⟨record, e, row, hf, hrow, rfl⟩ := hw
  unfold outboxRow at hrow
  split at hrow
  · rename_i id aggregateID payload hid haggregate hjsonb
    obtain rfl := Option.some.inj hrow
    obtain ⟨u, hu⟩ := hf.addressed.messageID
    have hid' : id = stableMessageEventID L e := Option.some.inj (hid.symm.trans (uuidColumn_stableID L e))
    have haggregate' : aggregateID = e.messageID := by
      have hcolumn : uuidColumn e.messageID =
          some e.messageID := by rw [hf.mappable.messageID, hu, uuidColumn_text]
      exact Option.some.inj (haggregate.symm.trans hcolumn)
    exact ⟨record, e, payload, hf, .inr hjsonb, by rw [hid', haggregate']; rfl⟩
  · cases hrow

/-- A copy of a lifecycle event is parsed as its id. -/
theorem Sent.parsed (hsent : Sent o d) (hw : o.WrittenAt L t)
    (hkind : o.isDispatch = false) (hL : L.TimeTexts) :
    parseLifecycleDelivery L .defaultLifecycle d = .ok ⟨o.id⟩ := by
  obtain ⟨record, e, body, hf, hcarried, rfl⟩ := hw.carried
  obtain ⟨routingKey, attemptNumber, hpos, hroute, rfl⟩ := hsent.eq_makePublishing
  have hlifecycle : e.kind ≠ .dispatchRequested := by
    intro hk
    simp [OutboxEvent.isDispatch, outboxEventOf, hk] at hkind
  exact parse_lifecycle hf.addressed hf.proper (hf.encodes hL) hcarried hpos hroute hlifecycle

/-- `Publish` sends what the outbox holds. -/
theorem OutboxEvent.WrittenAt.sent (hw : o.WrittenAt L t) (hL : L.TimeTexts) : ∃ d, Sent o d := by
  obtain ⟨record, e, body, hf, hcarried, rfl⟩ := hw.carried
  obtain ⟨routingKey, hroute⟩ : ∃ routingKey,
      PublisherConfig.default.routes e.kind.text = some routingKey := by
    cases e.kind <;> exact ⟨_, rfl⟩
  exact ⟨_, 1, .ack none, publish_proper hf.addressed hf.proper (hf.encodes hL) hcarried Nat.one_pos hroute _⟩

/-- The command of a parsed delivery is its message id. -/
theorem parseLifecycleDelivery_eventID {config : ConsumerConfig} {command : NotificationCommand}
    (hparse : parseLifecycleDelivery L config d = .ok command) : command.eventID = d.messageID := by
  simp only [parseLifecycleDelivery, bind_eq_ok, pure_eq_ok] at hparse
  obtain ⟨_, -, _, -, _, -, _, -, _, -, _, -, _, -, _, -, _, -, _, -, _, -, _, -, _, -, _,
      -, _, -, rfl⟩ := hparse
  rfl

/-! ## Reading the journal -/

theorem getDeliveryEvent_eq_ok {observedAt : String → Time} {eventID : String}
    {event : PersistedDeliveryEvent} (hget : db.getDeliveryEvent observedAt eventID = .ok event) :
    ∃ j ∈ db.events, event = { j with observedAt := observedAt j.id } := by
  simp only [getDeliveryEvent, check_bind_eq_ok] at hget
  obtain ⟨-, hget⟩ := hget
  split at hget
  · cases hget
  · split at hget
    · cases hget
    · rename_i j hfind
      simp only [scanDeliveryEvent, bind_eq_ok, mapError_ok_iff, pure_eq_ok] at hget
      obtain ⟨-, -, -, -, rfl⟩ := hget
      exact ⟨j, List.mem_of_find?_eq_some hfind, rfl⟩

theorem loadEvent_eq_ok {journal : String → Except NotificationError PersistedDeliveryEvent}
    {command : NotificationCommand} {event : PersistedDeliveryEvent} :
    loadEvent journal command = .ok event ↔ command.valid = true ∧
      journal command.eventID = .ok event ∧ event.id = command.eventID ∧ event.validate = .ok () := by
  simp only [loadEvent, bind_eq_ok, check_eq_ok, mapError_ok_iff, pure_eq_ok]
  constructor
  · rintro ⟨_, hvalid, event', hjournal, _, hid, _, hcheck, rfl⟩
    exact ⟨hvalid, hjournal, hid, hcheck⟩
  · rintro ⟨hvalid, hjournal, hid, hcheck⟩
    exact ⟨(), hvalid, event, hjournal, (), hid, (), hcheck, rfl⟩

theorem Notifier.Observed.persisted (hobserved : n.Observed E) (hj : j ∈ n.service.db.events) :
    ({ j with observedAt := n.observedAt j.id } : PersistedDeliveryEvent) = j.persisted := by
  obtain ⟨t, hw, ht, htime⟩ := hobserved j hj
  rw [htime, DeliveryEvent.persisted, hw.occurredAt, ht]

/-- What a lane reads is a journal row. -/
theorem Notifier.Observed.load {command : NotificationCommand} {event : PersistedDeliveryEvent}
    (hobserved : n.Observed E) (hload : n.load command = .ok event) :
    event.id = command.eventID ∧ ∃ j ∈ n.service.db.events, event = j.persisted := by
  obtain ⟨-, hget, hid, -⟩ := loadEvent_eq_ok.1 hload
  obtain ⟨j, hj, rfl⟩ := getDeliveryEvent_eq_ok hget
  exact ⟨hid, j, hj, hobserved.persisted hj⟩

/-- Every journal row can be read. -/
theorem Notifying.load_row (hr : Notifying E h n) (hj : j ∈ n.service.db.events) :
    n.load ⟨j.id⟩ = .ok j.persisted := by
  have hsound := hr.ok.sound
  have hobserved := Notifying.observed hr
  obtain ⟨o, ho, hid, -⟩ := hsound.lifecycle_row hj
  have hcolumn : uuidColumn j.id = some j.id := hid ▸ hsound.uuidColumn_event ho
  have huuid : isUUID j.id = true := isUUID_of_uuidColumn hcolumn
  obtain ⟨t, hw, ht, -⟩ := hobserved j hj
  have hvalid := hw.persisted_valid ht
  have hfind : n.service.db.events.find? (·.id = j.id) = some j := by
    obtain ⟨j', hj'⟩ : ∃ j', n.service.db.events.find? (·.id = j.id) = some j' :=
      Option.isSome_iff_exists.1 (List.find?_isSome.2 ⟨j, hj, by simp⟩)
    have hid' : j'.id = j.id := by simpa using List.find?_some hj'
    rw [hj', hsound.journal_id_unique (List.mem_of_find?_eq_some hj') hj hid']
  refine loadEvent_eq_ok.2 ⟨huuid, ?_, rfl, hvalid⟩
  have hsequence : j.sequence ≠ 0 := by
    have hcheck := hw.valid ht
    simp only [DeliveryEvent.validate, check_bind_eq_ok] at hcheck
    exact hcheck.2.2.2.2.2.1.1
  simp only [getDeliveryEvent, hcolumn, hfind, scanDeliveryEvent, bind_eq_ok, check_eq_ok,
    mapError_ok_iff, pure_eq_ok, hobserved.persisted hj]
  exact ⟨(), huuid, (), hsequence, (), hvalid, trivial⟩

/-! ## Lanes -/

/-- The subscriber took the event, or knows it already. -/
def Acknowledged (h : CallbackHistory) (eventID : String) : Prop :=
  ∃ i request reply n₁, (.answered i request reply, n₁) ∈ h ∧ request.eventID = eventID ∧
    reply.accepts eventID = true

/-- The subscriber refused the event for good. -/
def Refused (h : CallbackHistory) (eventID : String) : Prop :=
  ∃ i request reply n₁, (.answered i request reply, n₁) ∈ h ∧ request.eventID = eventID ∧
    reply.permanent eventID = true

theorem Acknowledged.cons {eventID : String} (ha : Acknowledged h eventID) :
    Acknowledged ((act, n') :: h) eventID := by
  obtain ⟨i, request, reply, n₁, hmem, hid⟩ := ha
  exact ⟨i, request, reply, n₁, List.mem_cons_of_mem _ hmem, hid⟩

theorem Refused.cons {eventID : String} (ha : Refused h eventID) : Refused ((act, n') :: h) eventID := by
  obtain ⟨i, request, reply, n₁, hmem, hid⟩ := ha
  exact ⟨i, request, reply, n₁, List.mem_cons_of_mem _ hmem, hid⟩

/-- The event is what the journal holds for the delivery. -/
def PersistedDeliveryEvent.Read (event : PersistedDeliveryEvent) (db : Db) (d : Delivery) : Prop :=
  event.id = d.messageID ∧ ∃ j ∈ db.events, event = j.persisted

/-- What a lane knows of the delivery it holds. -/
def CallbackWork.Answers (L : Libs) (h : CallbackHistory) (db : Db) (d : Delivery) : CallbackWork → Prop
  | .parsed command => parseLifecycleDelivery L .defaultLifecycle d = .ok command
  | .loaded event => event.Read db d
  | .calling event request => event.Read db d ∧ reportRequest L event = .ok request
  | .processed answer => answer = .ack → Acknowledged h d.messageID

theorem PersistedDeliveryEvent.Read.later {event : PersistedDeliveryEvent} {db' : Db}
    (hread : event.Read db d) (hsubset : db.events ⊆ db'.events) : event.Read db' d := by
  obtain ⟨hid, j, hj, rfl⟩ := hread
  exact ⟨hid, j, hsubset hj, rfl⟩

theorem CallbackWork.Answers.later {work : CallbackWork} {db' : Db} (hw : work.Answers L h db d)
    (hsubset : db.events ⊆ db'.events) : work.Answers L ((act, n') :: h) db' d := by
  cases work with
  | parsed => exact hw
  | loaded => exact PersistedDeliveryEvent.Read.later hw hsubset
  | calling => exact ⟨hw.1.later hsubset, hw.2⟩
  | processed => exact fun hack => (hw hack).cons

def Notifier.Answering (E : Env) (h : CallbackHistory) (n : Notifier) : Prop :=
  ∀ i d work, n.lanes i = .holds d work → work.Answers E.L h n.service.db d

theorem Notifier.setLane_holds {i k : Nat} {lane : CallbackLane} {work : CallbackWork}
    (hlane : (n.setLane i lane).lanes k = .holds d work) :
    lane = .holds d work ∨ n.lanes k = .holds d work := by
  by_cases hk : k = i
  · exact .inl (by simpa [Notifier.setLane, hk] using hlane)
  · exact .inr (by simpa [Notifier.setLane, hk] using hlane)

theorem Notifier.returned_lanes (n : Notifier) (d : Delivery) (answer : Settlement) :
    (n.returned d answer).lanes = n.lanes := rfl

theorem Notifier.returned_db (n : Notifier) (d : Delivery) (answer : Settlement) :
    (n.returned d answer).service.db = n.service.db := by
  cases answer <;> rfl

/-- A lane moves on and the others stay. -/
theorem Notifier.Answering.setLane {i : Nat} {lane : CallbackLane} {between : Notifier} (ha : n.Answering E h)
    (hlane : between.setLane i lane = n') (hlanes : between.lanes = n.lanes)
    (hdb : between.service.db = n.service.db)
    (hnew : ∀ d work, lane = .holds d work → work.Answers E.L ((act, n') :: h) n.service.db d) :
    n'.Answering E ((act, n') :: h) := by
  intro k d work hk
  subst hlane
  change work.Answers E.L _ between.service.db d
  rw [hdb]
  rcases Notifier.setLane_holds hk with hk | hk
  · exact hnew d work hk
  · rw [hlanes] at hk
    exact (ha k d work hk).later (List.Subset.refl _)

theorem lifecycleSettlement_error_ne_ack {α : Type} (e : NotificationError) :
    lifecycleSettlement (.error e : Except NotificationError α) ≠ .ack := by
  simp only [lifecycleSettlement]
  split <;> simp

theorem CallbackStep.answering (hstep : CallbackStep E n act n') (hr : Notifying E h n)
    (ha : n.Answering E h) :
    n'.Answering E ((act, n') :: h) := by
  have hsubset := hstep.events_subset hr.ok
  cases hstep with
  | commit => exact fun i d work hlane => (ha i d work hlane).later hsubset
  | service => exact fun i d work hlane => (ha i d work hlane).later hsubset
  | @deliver i d =>
    refine ha.setLane rfl rfl rfl fun d' work hw => ?_
    cases hw
    unfold notified
    split
    · assumption
    · exact fun hack => nomatch hack
  | @load i d command event hlane hload =>
    have hparse : parseLifecycleDelivery E.L .defaultLifecycle d = .ok command := ha _ _ _ hlane
    obtain ⟨hid, hrow⟩ := (Notifying.observed hr).load hload
    refine ha.setLane rfl rfl rfl fun d' work hw => ?_
    cases hw
    exact ⟨hid.trans (parseLifecycleDelivery_eventID hparse), hrow⟩
  | loadFailed =>
    refine ha.setLane rfl rfl rfl fun d' work hw => ?_
    cases hw
    exact fun hack => absurd hack (lifecycleSettlement_error_ne_ack _)
  | @call i d event request hlane hrequest =>
    have hread : event.Read n.service.db d := ha _ _ _ hlane
    refine ha.setLane rfl rfl rfl fun d' work hw => ?_
    cases hw
    exact ⟨hread, hrequest⟩
  | callFailed =>
    refine ha.setLane rfl rfl rfl fun d' work hw => ?_
    cases hw
    have hvalid : reportFailure.valid = true := by decide +kernel
    rw [settlement_typed hvalid]
    exact fun hack => nomatch hack
  | @answered i d event request reply contextError hlane =>
    obtain ⟨⟨hid, -⟩, hrequest⟩ : event.Read n.service.db d ∧ reportRequest E.L event = .ok request :=
      ha _ _ _ hlane
    refine ha.setLane rfl rfl rfl fun d' work hw => ?_
    cases hw
    intro hack
    rw [settlement_reply] at hack
    have haccepts : reply.accepts event.id = true := by
      by_contra hno
      rw [if_neg hno] at hack
      split at hack <;> cases hack
    exact ⟨i, request, reply, _, List.mem_cons_self,
      (reportRequest_eq_ok hrequest).1.trans hid, hid ▸ haccepts⟩
  | @settle i d answer =>
    exact ha.setLane rfl (n.returned_lanes d answer) (n.returned_db d answer) fun _ _ hw => nomatch hw
  | @laneLost i d =>
    exact ha.setLane rfl (n.returned_lanes d .requeue) (n.returned_db d .requeue) fun _ _ hw => nomatch hw

theorem Notifying.answering (hr : Notifying E h n) : n.Answering E h := by
  refine hr.induct (P := fun h n => n.Answering E h) (fun n₀ hinit i d work hlane => ?_)
    fun h₀ n₀ act n₁ hr₀ ha hstep => hstep.answering hr₀ ha
  simp [hinit.2] at hlane

/-! ## Reports -/

/-- A copy of a lifecycle event passes all checks before the call. -/
theorem Notifying.readable {o : OutboxRow} (hr : Notifying E h n) (hL : E.L.TimeTexts)
    (ho : o ∈ n.service.db.outbox) (hsent : Sent o.event d) (hkey : isLifecycleDelivery d) :
    parseLifecycleDelivery E.L .defaultLifecycle d = .ok ⟨d.messageID⟩ ∧
      ∃ j ∈ n.service.db.events, j.id = d.messageID ∧
      n.load ⟨d.messageID⟩ = .ok j.persisted ∧ ∃ request, reportRequest E.L j.persisted = .ok request := by
  have hkind := hsent.isLifecycleDelivery_iff.1 hkey
  obtain ⟨t, hw⟩ := (Notifying.traced hr).outbox o ho
  obtain ⟨j, hj, hid⟩ := hr.ok.sound.journal_row ho hkind
  obtain ⟨t', hwritten, ht, -⟩ := Notifying.observed hr j hj
  rw [hsent.messageID]
  exact ⟨hsent.parsed hw hkind hL, j, hj, hid, hid ▸ Notifying.load_row hr hj, hwritten.request ht hL⟩

/-- How a delivery is settled after a reply for its event. -/
def replySettlement (eventID : String) (reply : CallbackReply) : Settlement :=
  if reply.accepts eventID then .ack else if reply.permanent eventID then .deadLetter else .requeue

/-- An idle lane can report any copy that is queued. -/
theorem Notifying.reports {i : Nat} {o : OutboxRow} (hr : Notifying E h n) (hL : E.L.TimeTexts)
    (hidle : n.lanes i = .idle) (hqueue : d ∈ n.service.queue) (ho : o ∈ n.service.db.outbox)
    (hsent : Sent o.event d) (hkey : isLifecycleDelivery d) :
    ∃ j ∈ n.service.db.events, j.id = d.messageID ∧ ∃ request, reportRequest E.L j.persisted = .ok request ∧
      ∀ reply, ∃ n₁ n₂ n₃ n₄, Notifying E ((.answered i request reply, n₄) :: (.call i request, n₃) ::
        (.load i j.persisted, n₂) :: (.deliver i d, n₁) :: h) n₄ ∧
        n₄.lanes i = .holds d (.processed (replySettlement d.messageID reply)) ∧
        n₄.service.db = n.service.db := by
  obtain ⟨hparse, j, hj, hid, hload, request, hrequest⟩ := Notifying.readable hr hL ho hsent hkey
  obtain ⟨before, after, hsplit⟩ := List.append_of_mem hqueue
  refine ⟨j, hj, hid, request, hrequest, fun reply => ?_⟩
  have hnotified : notified E.L d = .parsed ⟨d.messageID⟩ := by rw [notified, hparse]
  have hdelivered := hr.next (.deliver hidle hsplit hkey)
  rw [hnotified] at hdelivered
  have hloaded := hdelivered.next (.load (Function.update_self i _ _) hload)
  have hcalled := hloaded.next (.call (Function.update_self i _ _) hrequest)
  have hanswered := hcalled.next
    (@CallbackStep.answered E _ i d j.persisted request reply none (Function.update_self i _ _))
  refine ⟨_, _, _, _, hanswered, ?_, rfl⟩
  rw [settlement_reply, show j.persisted.id = d.messageID from hid]
  exact Function.update_self i _ _

/-! ## A run with a report -/

/-- Nobody else publishes: what arrives is a further copy of an event of the outbox. -/
def Closed (h : CallbackHistory) : Prop :=
  ∀ d n₁, (.service (.arrive d), n₁) ∈ h → ∃ o ∈ n₁.service.db.outbox, Sent o.event d

namespace Sample

theorem timeTexts (hash : String → Uuid) : (libs hash).TimeTexts := by
  have hstamps : ∀ stamp ∈ stamps,
    (stamps.find? (·.2 = stamp.2)).map Prod.fst = some stamp.1 ∧ len stamp.2 ≤ 64 ∧
      timestampValid (timestampNew stamp.1) = true := by decide
  have hall : ∀ t text, (libs hash).formatTime t = some text →
    (stamps.find? (·.2 = text)).map Prod.fst = some t ∧
      len text ≤ 64 ∧ timestampValid (timestampNew t) = true := by
    intro t text hformat
    obtain ⟨before, after, hmem, -⟩ := List.lookup_eq_some_iff.1 hformat
    exact hstamps (t, text) (hmem ▸ by simp)
  exact ⟨fun t text hformat => (hall t text hformat).1, fun t text hformat => (hall t text hformat).2.1,
    fun t text hformat => (hall t text hformat).2.2⟩

/-- A message was accepted and a copy of its first event has arrived. -/
theorem exists_arrived :
    ∃ hash h n d, ∃ o : OutboxRow, Notifying (env hash) h n ∧ Closed h ∧ n.lanes 0 = .idle ∧
    d ∈ n.service.queue ∧ o ∈ n.service.db.outbox ∧ Sent o.event d ∧ isLifecycleDelivery d ∧
    ∀ r ∈ n.service.db.messages, r.Loadable := by
  obtain ⟨hm, hlen, hobject, hstored⟩ := metadata_empty
  obtain ⟨hash, canonical, m, row, -, -, hrow, hp, ha⟩ := exists_accepted (.inl rfl) hm hlen hobject hstored
  have hshort := newRow_short hrow hlen.2
  clear hrow
  have hstart : Notifying (env hash) [] ⟨start, fun _ => 0, fun _ => .idle⟩ :=
    .start ⟨⟨⟨_, rfl⟩, rfl, rfl, rfl, rfl, rfl⟩, rfl⟩
  have hsubmitted := submitTransaction_accepts ha
  generalize prepared none _ canonical = p at hp ha hsubmitted
  have hload : row.Loadable :=
    (Reached.loadable_iff (Reached.accepts (reached_start hash) rfl hp ha) precise mem_acceptedDb).2 hshort
  have hsubmit : submit (libs hash) catalog protector (command none none) messageID nonce now start.db =
      .ok (acceptedDb (libs hash) now start.db p m row, ⟨.accepted, (p.record m).pulled⟩) := by
    rw [submit, hp, ok_bind, hsubmitted]
  have haccepted := hstart.next (.commit (.submit rfl hsubmit) .submit (by decide : truncate now = now))
  have hsound := (Notifying.ok haccepted).sound
  -- the journal has the row of the acceptance, and the outbox its event
  obtain ⟨j, hj⟩ : ∃ j, j ∈ (acceptedDb (libs hash) now start.db p m row).journal row.snapshot.id := by
    refine List.exists_mem_of_ne_nil _ fun hnil => ?_
    have hstatus := (hsound.rows row mem_acceptedDb).inStep.status
    rw [hnil] at hstatus
    cases hstatus
  obtain ⟨o, ho, -, -, -, hkind⟩ := hsound.lifecycle_row (List.mem_of_mem_filter hj)
  obtain ⟨t, hw⟩ := (Notifying.traced haccepted).outbox o ho
  obtain ⟨d, hsent⟩ := hw.sent (timeTexts hash)
  have harrived := haccepted.next (.service (.arrive (d := d)) fun t hcommit => by cases hcommit)
  refine ⟨hash, _, _, d, o, harrived, fun d' n₁ hmem => ?_, rfl,
    List.mem_append_right _ List.mem_cons_self, ho, hsent, hsent.isLifecycleDelivery_iff.2 hkind,
    fun r hr => List.mem_singleton.1 hr ▸ hload⟩
  rcases List.mem_cons.1 hmem with heq | hmem
  · obtain ⟨hact, rfl⟩ := Prod.mk.inj heq
    cases hact
    exact ⟨o, ho, hsent⟩
  · rcases List.mem_singleton.1 hmem with ⟨⟩

end Sample

end MailService
