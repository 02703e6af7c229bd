import MailService.Lib.Runs
import MailService.Lifecycle
/-!
# Lives of an aggregate

The ten operations of a message behind one interface, and the runs in which they
are called in any order and with any arguments, with `PullEvents` in between. An
operation either moves the message, and its events say how, or leaves it as it
was; so the events of a whole life, pulled and pending, tell its history without
a gap.
-/
open Runs

namespace MailService

/-- A call of one of the ten operations. -/
inductive Operation
  | queue (now : Time)
  | startSending (generation : Nat) (now : Time)
  | scheduleRetry (failure : Failure) (nextAttemptAt now : Time)
  | markSubmissionUnknown (failure : Failure) (now : Time)
  | markPermanentlyFailed (failure : Failure) (now : Time)
  | markDeadLettered (failure : Failure) (now : Time)
  | markUnknownFinal (failure : Failure) (now : Time)
  | cancel (reasonCode : String) (now : Time)
  | expire (now : Time)
  | applyDeliveryFact (fact : DeliveryFact)
  deriving DecidableEq, Repr

/-- What a call came to. `unchanged` is `changed=false`, `DUPLICATE` and
`IGNORED_REGRESSION`. -/
inductive Outcome
  | changed
  | unchanged
  | failed (e : MessageError)
  deriving DecidableEq, Repr

namespace Outcome

def ofError : Except MessageError Unit → Outcome
  | .ok () => changed
  | .error e => failed e

def ofChanged : Except MessageError Bool → Outcome
  | .ok true => changed
  | .ok false => unchanged
  | .error e => failed e

def ofResult : Except MessageError ApplyResult → Outcome
  | .ok .applied => changed
  | .ok .duplicate | .ok .ignoredRegression => unchanged
  | .error e => failed e

end Outcome

def Message.perform (m : Message) : Operation → Message × Outcome
  | .queue now => (m.queue now).map id .ofError
  | .startSending generation now => (m.startSending generation now).map id .ofError
  | .scheduleRetry failure nextAttemptAt now => (m.scheduleRetry failure nextAttemptAt now).map id .ofError
  | .markSubmissionUnknown failure now => (m.markSubmissionUnknown failure now).map id .ofError
  | .markPermanentlyFailed failure now => (m.markPermanentlyFailed failure now).map id .ofError
  | .markDeadLettered failure now => (m.markDeadLettered failure now).map id .ofError
  | .markUnknownFinal failure now => (m.markUnknownFinal failure now).map id .ofError
  | .cancel reasonCode now => (m.cancel reasonCode now).map id .ofChanged
  | .expire now => (m.expire now).map id .ofChanged
  | .applyDeliveryFact fact => (m.applyDeliveryFact fact).map id .ofResult

namespace Operation

/-- The time of a command; a fact has none, only the time it occurred at. -/
def now : Operation → Option Time
  | queue now | startSending _ now | scheduleRetry _ _ now | markSubmissionUnknown _ now
  | markPermanentlyFailed _ now
  | markDeadLettered _ now | markUnknownFinal _ now | cancel _ now | expire now => some now
  | applyDeliveryFact _ => none

/-- The time that its event carries. -/
def occurredAt : Operation → Time
  | applyDeliveryFact fact => fact.occurredAt
  | op => op.now.getD 0

/-- The status it asks for. -/
def target : Operation → Option Status
  | queue _ => some .queued
  | startSending _ _ => some .sending
  | scheduleRetry _ _ _ => some .retryScheduled
  | markSubmissionUnknown _ _ => some .submissionUnknown
  | markPermanentlyFailed _ _ => some .permanentlyFailed
  | markDeadLettered _ _ => some .deadLettered
  | markUnknownFinal _ _ => some .unknownFinal
  | cancel _ _ => some .canceled
  | expire _ => some .expired
  | applyDeliveryFact fact => deliveryFactTarget fact.kind

/-- The texts it brings from outside. -/
def texts : Operation → List String
  | scheduleRetry failure _ _ | markSubmissionUnknown failure _ | markPermanentlyFailed failure _
  | markDeadLettered failure _ | markUnknownFinal failure _ => [failure.code]
  | cancel reasonCode _ => [reasonCode]
  | applyDeliveryFact fact => [fact.providerMessageID]
  | queue _ | startSending _ _ | expire _ => []

def isQueue : Operation → Bool
  | queue _ => true
  | _ => false

def isStartSending : Operation → Bool
  | startSending _ _ => true
  | _ => false

theorem target_queued {op : Operation} : op.target = some .queued ↔ op.isQueue = true := by
  cases op with
  | applyDeliveryFact fact => cases hk : fact.kind <;> simp [target, deliveryFactTarget, hk, isQueue]
  | _ => simp [target, isQueue]

theorem target_sending {op : Operation} : op.target = some .sending ↔ op.isStartSending = true := by
  cases op with
  | applyDeliveryFact fact => cases hk : fact.kind <;> simp [target, deliveryFactTarget, hk, isStartSending]
  | _ => simp [target, isStartSending]

end Operation

namespace Outcome

variable {m' : Message}

theorem map_ofError {step : Message × Except MessageError Unit} :
    step.map id ofError = (m', changed) ↔ step = (m', .ok ()) := by
  rcases step with ⟨m, e | _⟩ <;> simp [ofError]

theorem map_ofChanged {step : Message × Except MessageError Bool} :
    step.map id ofChanged = (m', changed) ↔ step = (m', .ok true) := by
  rcases step with ⟨m, e | _ | _⟩ <;> simp [ofChanged]

theorem map_ofResult {step : Message × Except MessageError ApplyResult} :
    step.map id ofResult = (m', changed) ↔ step = (m', .ok .applied) := by
  rcases step with ⟨m, e | _ | _ | _⟩ <;> simp [ofResult]

end Outcome

/-! ## One call -/

namespace Message

variable {m m' : Message} {op : Operation} {outcome : Outcome}

/-- A call that reports a change made one move, to the status it asked for. -/
theorem perform_changed (h : m.perform op = (m', .changed)) :
    Moved op.occurredAt m m' ∧ op.target = some m'.status := by
  cases op with
  | queue now =>
    obtain ⟨hm, hs, -⟩ := queue_moved (Outcome.map_ofError.1 h)
    exact ⟨hm, congrArg some hs.symm⟩
  | startSending generation now =>
    obtain ⟨hm, -, hs, -⟩ := startSending_moved (Outcome.map_ofError.1 h)
    exact ⟨hm, congrArg some hs.symm⟩
  | scheduleRetry failure nextAttemptAt now =>
    obtain ⟨hm, hs, -⟩ := scheduleRetry_moved (Outcome.map_ofError.1 h)
    exact ⟨hm, congrArg some hs.symm⟩
  | markSubmissionUnknown failure now =>
    obtain ⟨hm, hs⟩ := markSubmissionUnknown_moved (Outcome.map_ofError.1 h)
    exact ⟨hm, congrArg some hs.symm⟩
  | markPermanentlyFailed failure now =>
    obtain ⟨hm, hs⟩ := markPermanentlyFailed_moved (Outcome.map_ofError.1 h)
    exact ⟨hm, congrArg some hs.symm⟩
  | markDeadLettered failure now =>
    obtain ⟨hm, hs⟩ := markDeadLettered_moved (Outcome.map_ofError.1 h)
    exact ⟨hm, congrArg some hs.symm⟩
  | markUnknownFinal failure now =>
    obtain ⟨hm, hs⟩ := markUnknownFinal_moved (Outcome.map_ofError.1 h)
    exact ⟨hm, congrArg some hs.symm⟩
  | cancel reasonCode now =>
    obtain ⟨hm, hs⟩ := cancel_moved (Outcome.map_ofChanged.1 h)
    exact ⟨hm, congrArg some hs.symm⟩
  | expire now =>
    obtain ⟨hm, hs, -⟩ := expire_moved (Outcome.map_ofChanged.1 h)
    exact ⟨hm, congrArg some hs.symm⟩
  | applyDeliveryFact fact =>
    obtain ⟨hm, hs, -⟩ := applyDeliveryFact_applied (Outcome.map_ofResult.1 h)
    exact ⟨hm, hs⟩

/-- Any other call left the message and its events as they were: every check comes
before the first assignment. -/
theorem perform_unchanged (h : m.perform op = (m', outcome)) (ho : outcome ≠ .changed) : m' = m := by
  cases op <;> simp only [perform, queue, startSending, scheduleRetry, markSubmissionUnknown,
    markPermanentlyFailed, markDeadLettered, markUnknownFinal, cancel, expire, applyDeliveryFact] at h
  all_goals
    repeat' split at h
    all_goals
      simp only [Prod.map_apply, id, Outcome.ofError, Outcome.ofChanged, Outcome.ofResult, Prod.mk.injEq] at h
      first
      | exact h.1.symm
      | exact absurd h.2.symm ho

/-- What an event says beyond the move it reports: a failure that was checked, a short
reason, and the provider's id as the fact gave it. -/
structure Describes (op : Operation) (e : Event) : Prop where
  failure : e.failure = .zero ∨ e.failure.validate = .ok ()
  reasonCode : Text.len e.reasonCode ≤ 128
  providerMessageID : e.providerMessageID = "" ∨
    ∃ fact, op = .applyDeliveryFact fact ∧ e.providerMessageID = fact.providerMessageID
  texts : ∀ text ∈ [e.providerMessageID, e.reasonCode, e.failure.code], text = "" ∨ text ∈ op.texts

theorem perform_describes (h : m.perform op = (m', .changed)) :
    ∀ e ∈ m'.pendingEvents, e ∈ m.pendingEvents ∨ Describes op e := by
  have hempty : Text.len "" ≤ 128 := by decide
  cases op <;> simp only [perform, queue, startSending, scheduleRetry, markSubmissionUnknown,
    markPermanentlyFailed, markDeadLettered, markUnknownFinal, cancel, expire, applyDeliveryFact] at h
  all_goals
    repeat' split at h
    all_goals
      simp only [Prod.map_apply, id, Outcome.ofError, Outcome.ofChanged, Outcome.ofResult,
        Prod.mk.injEq, reduceCtorEq, and_false, and_true] at h
  all_goals
    subst h
    intro e he
    simp only [changeStatus, requestDispatch, List.mem_append, List.mem_singleton] at he
    -- `queue` adds two events, the others one
    first
    | obtain (he | rfl) | rfl := he
    | obtain he | rfl := he
  all_goals first
    | exact .inl he
    | exact .inr ⟨.inr (by assumption), hempty, .inl rfl, by simp [Operation.texts]⟩
    | exact .inr ⟨.inl rfl, hempty, .inl rfl, by simp [Failure.zero]⟩
    | exact .inr ⟨.inl rfl, Nat.le_of_not_lt (not_or.1 (by assumption)).1,
        .inl rfl, by simp [Operation.texts, Failure.zero]⟩
    | exact .inr ⟨.inl rfl, hempty, .inr ⟨_, rfl, rfl⟩, by simp [Operation.texts, Failure.zero]⟩

/-- What is known of the provider is what it was, or what the operation brought. -/
theorem perform_provider (h : m.perform op = (m', .changed)) :
    (m'.providerMessageID = m.providerMessageID ∨
      ∃ fact, op = .applyDeliveryFact fact ∧ m'.providerMessageID = fact.providerMessageID) ∧
    ∀ f ∈ m'.lastFailure, f ∈ m.lastFailure ∨ f.code ∈ op.texts := by
  cases op <;> simp only [perform, queue, startSending, scheduleRetry, markSubmissionUnknown,
    markPermanentlyFailed, markDeadLettered, markUnknownFinal, cancel, expire, applyDeliveryFact] at h
  all_goals
    repeat' split at h
    all_goals
      simp only [Prod.map_apply, id, Outcome.ofError, Outcome.ofChanged, Outcome.ofResult,
        Prod.mk.injEq, reduceCtorEq, and_false, and_true] at h
  all_goals
    subst h
    simp +contextual [changeStatus, requestDispatch, Operation.texts]

theorem perform_moved (h : m.perform op = (m', outcome)) :
    (outcome ≠ .changed ∧ m' = m) ∨
      (outcome = .changed ∧ Moved op.occurredAt m m' ∧ op.target = some m'.status) := by
  by_cases ho : outcome = .changed
  · subst ho
    exact .inr ⟨rfl, perform_changed h⟩
  · exact .inl ⟨ho, perform_unchanged h ho⟩

end Message

/-! ## Lives -/

/-- An aggregate and the events pulled from it so far. -/
structure Life where
  message : Message
  pulled : List Event

inductive Call
  | operation (op : Operation) (outcome : Outcome)
  | pullEvents
  deriving DecidableEq, Repr

inductive Life.Step : Life → Call → Life → Prop
  | operation {l : Life} {op : Operation} {m' : Message} {outcome : Outcome} :
      l.message.perform op = (m', outcome) → Step l (.operation op outcome) { l with message := m' }
  | pullEvents {l : Life} :
      Step l .pullEvents ⟨l.message.pullEvents.1, l.pulled ++ l.message.pullEvents.2⟩

/-- Every operation can be called at any time. -/
theorem Life.Step.performed (l : Life) (op : Operation) :
    Step l (.operation op (l.message.perform op).2) { l with message := (l.message.perform op).1 } :=
  .operation rfl

/-- A life begins with `New`. -/
def Life.Begins (l : Life) : Prop := (∃ params, Message.new params = .ok l.message) ∧ l.pulled = []

/-- The lives that these calls, newest first, lead to. -/
abbrev Lived (calls : List (Call × Life)) (l : Life) : Prop := Run Life.Begins Life.Step calls l

/-- The status events of a life, in the order in which they were emitted. -/
def Life.statusEvents (l : Life) : List Event :=
  (l.pulled ++ l.message.pendingEvents).filter (·.kind ≠ .dispatchRequested)

/-- The dispatch requests of a life. -/
def Life.dispatchRequests (l : Life) : List Event :=
  (l.pulled ++ l.message.pendingEvents).filter (·.kind = .dispatchRequested)

/-- The status that a list of events leads to from a status. -/
def replay (s : Status) : List Event → Option Status
  | [] => some s
  | e :: events => if e.source = s then replay e.target events else none

theorem replay_append {s t : Status} {before after : List Event} (h : replay s before = some t) :
    replay s (before ++ after) = replay t after := by
  induction before generalizing s with
  | nil => simp_all [replay]
  | cons e before ih =>
    simp only [replay, List.cons_append] at h ⊢
    split at h
    · rename_i he
      rw [if_pos he]
      exact ih h
    · simp at h

theorem replay_linked {s t : Status} {events : List Event} (h : replay s events = some t) :
    events.IsChain fun e e' => e.target = e'.source := by
  induction events generalizing s with
  | nil => exact .nil
  | cons e events ih =>
    simp only [replay] at h
    split at h
    · cases events with
      | nil => exact .singleton e
      | cons e' events =>
        refine .cons_cons ?_ (ih h)
        simp only [replay] at h
        split at h
        · rename_i he
          exact he.symm
        · simp at h
    · simp at h

/-- What the events of a life record: every sequence once, the way to the status, and a
dispatch request for each generation. -/
structure Life.Recorded (l : Life) : Prop where
  sequences : l.statusEvents.map (·.sequence) = List.range' 1 l.message.latestSequence
  history : replay (.unknown "") l.statusEvents = some l.message.status
  requests : l.dispatchRequests.map (·.dispatchGeneration) = List.range' 1 l.message.dispatchGeneration

variable {l l' : Life} {call : Call} {calls : List (Call × Life)}

/-- A move adds one status event, and one dispatch request if it queues the message. -/
theorem Life.Recorded.moved {m' : Message} {now : Time} (h : l.Recorded) (hm : Moved now l.message m') :
    { l with message := m' }.Recorded := by
  obtain ⟨details, he⟩ := hm.events
  have hstatus : { l with message := m' }.statusEvents =
      l.statusEvents ++ [changedEvent l.message m' now details] := by
    simp only [statusEvents, he, ← List.append_assoc, List.filter_append]
    congr 1
    unfold dispatchEvents
    split <;> simp [changedEvent, dispatchEvent]
  have hdispatch : { l with message := m' }.dispatchRequests =
      l.dispatchRequests ++ dispatchEvents m' now := by
    simp only [dispatchRequests, he, ← List.append_assoc, List.filter_append]
    congr 1
    unfold dispatchEvents
    split <;> simp [changedEvent, dispatchEvent]
  refine ⟨?_, ?_, ?_⟩
  · rw [hstatus, List.map_append, h.sequences]
    simp only [hm.sequence, List.range'_concat, List.map_cons, List.map_nil, changedEvent, Nat.one_mul]
    rw [Nat.add_comm 1]
  · rw [hstatus, replay_append h.history]
    simp [replay, changedEvent]
  · rw [hdispatch, List.map_append, h.requests]
    unfold dispatchEvents
    cases hm.counts with
    | queued status generation attempts =>
      simp only [status, if_true, List.map_cons, List.map_nil, dispatchEvent, generation,
        List.range'_concat, Nat.one_mul]
      rw [Nat.add_comm 1]
    | started source status generation attempts limit => simp [status, generation]
    | kept notQueued notSending generation attempts limit => simp [notQueued, generation]

theorem Life.Begins.recorded (h : l.Begins) : l.Recorded := by
  obtain ⟨⟨params, hnew⟩, hpulled⟩ := h
  obtain ⟨hm, -⟩ := Message.new_moved hnew
  -- the acceptance is the first event, and the route the first move
  have haccepted : (⟨acceptedMessage params, []⟩ : Life).Recorded := by
    refine ⟨?_, ?_, ?_⟩ <;> simp [statusEvents, dispatchRequests, acceptedMessage, replay]
  have := haccepted.moved hm
  rw [← hpulled] at this
  exact this

theorem Life.Step.recorded (h : Life.Step l call l') (hr : l.Recorded) : l'.Recorded := by
  cases h with
  | @operation op m' outcome hp =>
    rcases Message.perform_moved hp with ⟨-, rfl⟩ | ⟨-, hm, -⟩
    · exact hr
    · exact hr.moved hm
  | pullEvents =>
    obtain ⟨h1, h2, h3⟩ := hr
    refine ⟨?_, ?_, ?_⟩ <;>
      simpa only [statusEvents, dispatchRequests, Message.pullEvents, List.append_nil] using ‹_›

theorem Lived.recorded (h : Lived calls l) : l.Recorded :=
  h.invariant (fun _ => Life.Begins.recorded) fun _ _ _ hr hstep => hstep.recorded hr

/-- What one call does to the message and its pending events. -/
structure Message.CallRecorded (m : Message) (op : Operation) (m' : Message) : Prop where
  edge : canTransition m.status m'.status = true
  sequence : m'.latestSequence = m.latestSequence + 1
  events : ∃ details, m'.pendingEvents = m.pendingEvents ++ changedEvent m m' op.occurredAt details ::
    if op.isQueue then [dispatchEvent m' op.occurredAt] else []

/-- Every call is atomic and recorded, and the events of a life tell all of it. -/
theorem calls_recorded (h : Lived calls l) :
    (∀ op, ((l.message.perform op).2 ≠ .changed → (l.message.perform op).1 = l.message) ∧
      ((l.message.perform op).2 = .changed → l.message.CallRecorded op (l.message.perform op).1)) ∧
    l.statusEvents.map (·.sequence) = List.range' 1 l.message.latestSequence ∧
    l.statusEvents.IsChain (fun e e' => e.target = e'.source) ∧
    replay (.unknown "") l.statusEvents = some l.message.status := by
  have hr := Lived.recorded h
  refine ⟨fun op => ⟨fun ho => ?_, fun ho => ?_⟩, hr.sequences, replay_linked hr.history, hr.history⟩
  · exact Message.perform_unchanged rfl ho
  · obtain ⟨hm, htarget⟩ := Message.perform_changed (Prod.ext rfl ho)
    obtain ⟨details, he⟩ := hm.events
    refine ⟨hm.edge, hm.sequence, details, ?_⟩
    have hqueue : op.isQueue = true ↔ (l.message.perform op).1.status = .queued := by
      rw [← Operation.target_queued, htarget, Option.some.injEq]
    rw [he]
    unfold dispatchEvents
    simp only [hqueue]

/-- A message that is to be sent at once, with three attempts. -/
def immediateParams : NewParams := ⟨"m", 10, none, 100, 3⟩

def immediateMessage : Message := ((acceptedMessage immediateParams).queue 10).1

theorem immediate_begins : Life.Begins ⟨immediateMessage, []⟩ := ⟨⟨immediateParams, rfl⟩, rfl⟩

/-- Sent, to be retried, pulled, and queued again. -/
theorem calls_recorded_retried : ∃ calls l, Lived calls l ∧ l.message.status = .queued ∧ l.pulled.length = 5 ∧
    l.statusEvents.map (·.sequence) = List.range' 1 5 ∧
    replay (.unknown "") l.statusEvents = some .queued := by
  have h0 : Lived [] ⟨immediateMessage, []⟩ := .start immediate_begins
  have h1 := h0.next (.performed _ (.startSending 1 11))
  have h2 := h1.next (.performed _ (.scheduleRetry ⟨.network, "DOWN", true⟩ 20 12))
  have h3 := h2.next .pullEvents
  have h4 := h3.next (.performed _ (.queue 20))
  have hrecorded := calls_recorded h4
  exact ⟨_, _, h4, rfl, rfl, hrecorded.2.1, hrecorded.2.2.2⟩

end MailService
