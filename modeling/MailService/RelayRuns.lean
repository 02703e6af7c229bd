import MailService.Dispatching
import MailService.Emission
import MailService.LeaseFencing
/-!
# Runs of the relay

`OutboxRelay.RunOnce` from its claim to the joined errors, over the transaction
manager and the retry policy that it is built with. Any number of relays work on
one outbox; a statement, a commit or a rollback may fail, `Publish` may return
anything, and the context may end at any time. No run returns an error that
stops the service.
-/
open Text Checks Table Runs

namespace MailService

open Db

/-! ## The retry policy -/

/-- A policy that `NewFullJitterBackoff` accepted. -/
structure FullJitterBackoff where
  base : Nat
  cap : Nat
  base_pos : 0 < base
  base_le : base ≤ cap
  cap_le : cap ≤ 24 * 3600 * second

namespace FullJitterBackoff

variable (b : FullJitterBackoff)

/-- The loop of `NextDelay`, with the rounds it may still take. -/
def doubled : Nat → Nat → Nat
  | 0, maximum => maximum
  | rounds + 1, maximum =>
    if maximum < b.cap then
      if b.cap / 2 < maximum then b.cap else doubled rounds (maximum * 2)
    else maximum

def maximum (attemptNumber : Nat) : Nat :=
  let maximum := b.doubled (attemptNumber - 1) b.base
  if b.cap ≤ maximum then b.cap else maximum

/-- `NextDelay`, where `rand.Int64N(n + 1)` returns `random n`. -/
def nextDelay (random : (n : Nat) → Fin (n + 1)) (attemptNumber : Nat) : Nat :=
  random (b.maximum attemptNumber)

theorem doubled_eq (rounds : Nat) {maximum : Nat} (h : maximum ≤ b.cap) :
    b.doubled rounds maximum = min b.cap (maximum * 2 ^ rounds) := by
  induction rounds generalizing maximum with
  | zero => simp [doubled, h]
  | succ rounds ih =>
    have hgrows : maximum * 2 ≤ maximum * 2 ^ (rounds + 1) := by
      rw [pow_succ', ← Nat.mul_assoc]
      exact Nat.le_mul_of_pos_right _ (Nat.two_pow_pos rounds)
    unfold doubled
    split
    · split
      · have hfull : b.cap ≤ maximum * 2 := by omega
        rw [min_eq_left (hfull.trans hgrows)]
      · rw [ih (by omega), pow_succ', Nat.mul_assoc]
    · have hfull : maximum = b.cap := by omega
      rw [hfull, min_eq_left (Nat.le_mul_of_pos_right _ (Nat.two_pow_pos _))]

/-- The delay is below the cap and below the doubled base, as the policy documents. -/
theorem maximum_eq (attemptNumber : Nat) :
    b.maximum attemptNumber = min b.cap (b.base * 2 ^ (attemptNumber - 1)) := by
  unfold maximum
  dsimp only
  rw [b.doubled_eq _ b.base_le]
  split
  · rename_i hcap
    exact (min_eq_left (le_min_iff.1 hcap).2).symm
  · rfl

theorem nextDelay_le (random : (n : Nat) → Fin (n + 1)) (attemptNumber : Nat) :
    b.nextDelay random attemptNumber ≤ 24 * 3600 * second := by
  have hdelay : b.nextDelay random attemptNumber ≤ b.maximum attemptNumber :=
    Nat.le_of_lt_succ (random _).isLt
  rw [maximum_eq] at hdelay
  exact (hdelay.trans (min_le_left _ _)).trans b.cap_le

end FullJitterBackoff

/-! ## Errors -/

/-- The errors that stop the service. -/
def Error.fatal : Error → Bool
  | .outboxRelayInvariant _ | .invalidOutboxRetryDelay | .corruptOutboxDelivery _ | .invalidOutboxDelivery _
  | .invalidOutboxEvent _ => true
  | _ => false

/-- `isFatalRelayError`, of joined errors. -/
def isFatalRelayError (errors : List Error) : Bool := errors.any Error.fatal

/-! ## One run -/

/-- What `Publish` may return; the pointer of a typed error may be nil. -/
inductive PublishReturn
  | confirmed
  | typed (pointer : Option (String × Bool))
  | untyped
  deriving DecidableEq, Repr

def PublishReturn.result : PublishReturn → Except PublishError Unit
  | confirmed => .ok ()
  | typed (some (code, retryable)) => .error (.typed code retryable)
  -- `Validate` refuses a nil pointer, so that it counts as an untyped error
  | typed none => .error .untyped
  | untyped => .error .untyped

/-- What one call of `publishOne` meets: its context before and after `Publish`, what
`Publish` and its own context came to, and the random numbers of the policy. -/
structure Publishing where
  before : Option ContextError
  published : PublishReturn
  publishContextError : Option ContextError
  after : Option ContextError
  random : (n : Nat) → Fin (n + 1)

/-- `publishOne` up to its transaction. -/
def publishOne (config : OutboxRelayConfig) (backoff : FullJitterBackoff)
    (leased : LeasedOutboxEvent) (p : Publishing) :
    Except Error Completion :=
  match p.before, p.after with
  | some e, _ => .error (.context e)
  | none, some e => .error (.context e)
  | none, none => decideCompletion config.maxAttempts leased.attemptNumber p.published.result
      p.publishContextError
      (backoff.nextDelay p.random leased.attemptNumber)

/-- `relayEventOutcome`; `relayOutcomeNone` is `none`. -/
structure RelayEventOutcome where
  kind : Option RelayOutcome
  errors : List Error
  deriving DecidableEq, Repr

/-- `completionOutcome` of a transaction: `errors.Is` finds a lost lease among joined errors. -/
def RelayEventOutcome.ofTransaction (success : RelayOutcome) : Except (List Error) Unit → RelayEventOutcome
  | .ok () => ⟨some success, []⟩
  | .error errors => if .outboxLeaseLost ∈ errors then ⟨some .leaseLost, []⟩ else ⟨none, errors⟩

structure OutboxRelayResult where
  claimed : Nat
  published : Nat
  retried : Nat
  deadLettered : Nat
  leaseLost : Nat
  deriving DecidableEq, Repr

def relayResult (outcomes : List RelayEventOutcome) : OutboxRelayResult where
  claimed := outcomes.length
  published := outcomes.countP (·.kind = some .published)
  retried := outcomes.countP (·.kind = some .retried)
  deadLettered := outcomes.countP (·.kind = some .deadLettered)
  leaseLost := outcomes.countP (·.kind = some .leaseLost)

/-! ## Relays over one outbox -/

inductive RelayRun
  | idle
  /-- The workers have still to publish `waiting`, in any order. -/
  | publishing (config : OutboxRelayConfig) (backoff : FullJitterBackoff) (waiting : List LeasedOutboxEvent)
      (outcomes : List RelayEventOutcome)

structure Relays where
  db : Db
  runs : Nat → RelayRun

inductive RelayAction
  | append (record : MessageRecord)
  | elsewhere
  | claimed (relay : Nat) (events : List LeasedOutboxEvent)
  | attempted (relay : Nat) (leased : LeasedOutboxEvent)
  | returned (relay : Nat) (result : OutboxRelayResult) (errors : List Error)
  | stopped (relay : Nat)

/-- The steps of the relays, and of the transactions that append to the outbox. -/
inductive RelayStep (L : Libs) : Relays → RelayAction → Relays → Prop
  | append {s : Relays} {record : MessageRecord} {mapped : MappedMessageEvents} {now : Time} {db' : Db} :
      record.message.Built → record.validate = .ok () →
      mapAllMessageEvents L record record.message.pendingEvents = .ok mapped →
      s.db.appendOutbox now mapped.outbox = .ok db' →
      RelayStep L s (.append record) { s with db := db' }
  | elsewhere {s : Relays} {db' : Db} : db'.outbox = s.db.outbox →
      RelayStep L s .elsewhere { s with db := db' }
  | claimed {s : Relays} {i : Nat} {config : OutboxRelayConfig} {backoff : FullJitterBackoff} {run : Uuid}
      {locked : String → Bool} {now : Time} {db' : Db} {events : List LeasedOutboxEvent} :
      s.runs i = .idle → config.valid = true → now ≠ 0 →
      WithinTransaction s.db (claimBatch config run locked now s.db) db' (.ok events) →
      RelayStep L s (.claimed i events) ⟨db', Function.update s.runs i (.publishing config backoff events [])⟩
  | claimFailed {s : Relays} {i : Nat} {config : OutboxRelayConfig} {run : Uuid}
      {locked : String → Bool} {now : Time} {db' : Db} {errors : List Error} :
      s.runs i = .idle → config.valid = true → now ≠ 0 →
      WithinTransaction s.db (claimBatch config run locked now s.db) db' (.error errors) →
      RelayStep L s (.returned i (relayResult []) errors) { s with db := db' }
  | recorded {s : Relays} {i : Nat} {config : OutboxRelayConfig} {backoff : FullJitterBackoff}
      {before after : List LeasedOutboxEvent} {leased : LeasedOutboxEvent} {outcomes : List RelayEventOutcome}
      {p : Publishing} {completion : Completion} {now : Time} {db' : Db} {result : Except (List Error) Unit} :
      s.runs i = .publishing config backoff (before ++ leased :: after) outcomes →
      publishOne config backoff leased p = .ok completion →
      WithinTransaction s.db
        ((recordCompletion leased.reference now s.db completion).map (·, ())) db' result →
      RelayStep L s (.attempted i leased)
        ⟨db', Function.update s.runs i (.publishing config backoff (before ++ after)
        (outcomes ++ [.ofTransaction completion.success result]))⟩
  | unrecorded {s : Relays} {i : Nat} {config : OutboxRelayConfig} {backoff : FullJitterBackoff}
      {before after : List LeasedOutboxEvent} {leased : LeasedOutboxEvent} {outcomes : List RelayEventOutcome}
      {p : Publishing} {error : Error} :
      s.runs i = .publishing config backoff (before ++ leased :: after) outcomes →
      publishOne config backoff leased p = .error error →
      RelayStep L s (.attempted i leased) { s with
        runs := Function.update s.runs i
          (.publishing config backoff (before ++ after) (outcomes ++ [⟨none, [error]⟩])) }
  | returned {s : Relays} {i : Nat} {config : OutboxRelayConfig} {backoff : FullJitterBackoff}
      {outcomes : List RelayEventOutcome} : s.runs i = .publishing config backoff [] outcomes →
      RelayStep L s (.returned i (relayResult outcomes) (outcomes.flatMap (·.errors)))
        { s with runs := Function.update s.runs i .idle }
  | stopped {s : Relays} {i : Nat} :
      RelayStep L s (.stopped i) { s with runs := Function.update s.runs i .idle }

/-- The outbox is empty, and no relay is at work. -/
def Relays.Initial (s : Relays) : Prop := s.db.outbox = [] ∧ ∀ i, s.runs i = .idle

abbrev Relayings (L : Libs) (h : List (RelayAction × Relays)) (s : Relays) : Prop :=
  Run Relays.Initial (RelayStep L) h s

/-! ## What a run works on -/

section Valid

variable {config : OutboxRelayConfig} {run : Uuid} {now : Time} {db db' : Db}

/-- The token of a run: an instance without spaces around it, a slash and a UUID. -/
theorem leaseToken_valid (h : config.valid = true) : validateLeaseToken (config.leaseToken run) = .ok () := by
  obtain ⟨hblank, htrimmed, hlen, hplain, -⟩ := of_decide_eq_true h
  have hne : config.instanceID ≠ "" := htrimmed ▸ hblank
  have htail : ∀ c ∈ ("/" ++ run.text).toList, isSpace c = false ∧ c ∉ ['\r', '\n'] := by
    have hhex : ∀ d : Fin 16, isSpace (hexDigit d) = false ∧ hexDigit d ∉ ['\r', '\n'] := by decide
    intro c hc
    rw [String.toList_append, List.mem_append] at hc
    rcases hc with hc | hc
    · obtain rfl : c = '/' := List.mem_singleton.1 hc
      decide
    · obtain rfl | ⟨d, rfl⟩ := Uuid.mem_text hc
      · decide
      · exact hhex d
  have htoken : config.leaseToken run = config.instanceID ++ ("/" ++ run.text) := String.append_assoc
  have htrim := trimSpace_append htrimmed hne (by simp) fun c hc => (htail c hc).1
  rw [validateLeaseToken, check_eq_ok, htoken]
  refine ⟨⟨?_, htrim, ?_⟩, ?_⟩
  · rw [htrim]
    simp
  · have hslash : len "/" = 1 := by decide
    simp only [len_append, Uuid.len_text, hslash]
    omega
  · simp only [containsAny, List.any_eq_false, decide_eq_true_eq, String.toList_append,
      List.mem_append] at hplain ⊢
    rintro c (hc | hc)
    · have := hplain c hc
      simp only [List.mem_cons, List.not_mem_nil, or_false, not_or] at this ⊢
      exact ⟨this.1, this.2.1⟩
    · exact (htail c (by simpa using hc)).2

/-- What the outbox keeps for the relays: valid events, the pending ones below the last
attempt number of the column. -/
structure OutboxRow.Relayable (o : OutboxRow) : Prop where
  event : o.event.validate = .ok ()
  attempts : o.status = .pending → o.attemptCount < maxInt32

theorem OutboxRow.Relayable.leasedTo {o : OutboxRow} (h : o.Relayable) (token : String) (leaseUntil : Time) :
    (o.leasedTo token leaseUntil).Relayable := ⟨h.event, h.attempts⟩

/-- A claim fails in the database or not at all. -/
theorem claimBatch_nonfatal {locked : String → Bool} (hrows : ∀ o ∈ db.outbox, o.Relayable)
    (h : config.valid = true) (hnow : now ≠ 0) :
    Fails (fun e => e.fatal = false) (claimBatch config run locked now db) := by
  by_cases hcolumn : varchar 255 (config.leaseToken run) ∧ notBtrimEmpty (config.leaseToken run)
  · have hleasable : ∀ o ∈ db.candidates now config.batchSize locked, Leasable config run now db o := by
      intro o ho
      obtain ⟨hmem, hclaimable⟩ := mem_candidates ho
      have hpending : o.status = .pending := by
        simp only [claimable, Bool.and_eq_true, decide_eq_true_eq] at hclaimable
        exact hclaimable.1.1
      exact ⟨h, leaseToken_valid h, hcolumn, hmem, hclaimable, (hrows o hmem).event,
        (hrows o hmem).attempts hpending, hnow⟩
    have hscan : ((db.candidates now config.batchSize locked).map
        (leasedRow ⟨config.leaseToken run, config.leaseDuration, config.batchSize⟩ now)).mapM
          (scanLeased now) =
          .ok ((db.candidates now config.batchSize locked).map
            (·.leasedEvent (config.leaseToken run) (config.leaseUntil now))) := by
      rw [List.mapM_map]
      exact mapM_of_forall fun o ho => (hleasable o ho).scanned
    have hbatch (events : List LeasedOutboxEvent) (hevents : ∀ e ∈ events, e.validate = .ok () ∧
        e.leaseToken = config.leaseToken run ∧ now < e.leaseUntil) :
        validateClaimedOutboxBatch ⟨now, events⟩ (config.leaseToken run) = .ok () := by
      unfold validateClaimedOutboxBatch
      split
      · rfl
      · rw [check_bind hnow]
        refine forM_eq_ok.2 fun e he => ?_
        obtain ⟨hvalid, htoken, hfuture⟩ := hevents e he
        exact unit_bind_eq_ok.2 ⟨mapError_ok_iff.2 hvalid, check_bind_eq_ok.2 ⟨htoken, check_eq_ok.2 hfuture⟩⟩
    have hleased : ∀ e ∈ (db.candidates now config.batchSize locked).map
        (·.leasedEvent (config.leaseToken run) (config.leaseUntil now)), e.validate = .ok () ∧
          e.leaseToken = config.leaseToken run ∧ now < e.leaseUntil := by
      intro e he
      obtain ⟨o, ho, rfl⟩ := List.mem_map.1 he
      exact ⟨(hleasable o ho).leased_valid, rfl, (hleasable o ho).future⟩
    rw [claimBatch, claimPending, config.query_valid h (leaseToken_valid h), ok_bind, check_bind hcolumn]
    dsimp only
    rw [hscan, ok_bind, pure_bind]
    dsimp only
    rw [hbatch _ hleased]
    exact fails_ok
  · have hquery := @OutboxRelayConfig.query_valid config run h (leaseToken_valid h)
    rw [claimBatch, claimPending, hquery, ok_bind]
    refine Fails.bind (Fails.bind ?_ fun _ hu => absurd (check_eq_ok.1 hu) hcolumn) fun _ hu => ?_
    · exact fails_check.2 (.inr rfl)
    · obtain ⟨_, hu, -⟩ := bind_eq_ok.1 hu
      exact absurd (check_eq_ok.1 hu) hcolumn

/-- A result of a valid claim fails in the database, finds its lease lost, or is recorded. -/
theorem recordCompletion_nonfatal {reference : OutboxLeaseReference} {completion : Completion}
    (hv : reference.validate = .ok ()) (hc : completion.Valid) :
    Fails (fun e => e.fatal = false) (recordCompletion reference now db completion) := by
  have hcomplete (operation : String) (f : OutboxRow → OutboxRow) :
      Fails (fun e => e.fatal = false) (db.completeLease reference operation f) := by
    unfold completeLease
    split
    · exact fails_error.2 rfl
    · split
      · exact fails_ok
      · exact fails_error.2 rfl
  cases completion with
  | published =>
    rw [recordCompletion, markPublished, hv, ok_bind]
    exact hcomplete _ _
  | retried delay errorCode =>
    rw [recordCompletion, reschedule, hv, ok_bind, check_bind hc.1, check_bind hc.2]
    exact hcomplete _ _
  | deadLettered errorCode =>
    rw [recordCompletion, deadLetter, hv, ok_bind, check_bind (show validStableCode errorCode = true from hc)]
    exact hcomplete _ _

section

variable {backoff : FullJitterBackoff} {leased : LeasedOutboxEvent} {p : Publishing} {completion : Completion}
  {error : Error}

/-- What `publishOne` decides is accepted by the database. -/
theorem publishOne_eq_ok (h : publishOne config backoff leased p = .ok completion) : completion.Valid ∧
    ((∃ delay code, completion = .retried delay code) → leased.attemptNumber < config.maxAttempts) := by
  unfold publishOne at h
  split at h
  · simp at h
  · simp at h
  · exact ⟨decideCompletion_valid h, (decideCompletion_bound h).2⟩

/-- It fails with its context only: the policy returns no delay that is out of range. -/
theorem publishOne_eq_error (h : publishOne config backoff leased p = .error error) :
    ∃ e, error = .context e := by
  unfold publishOne at h
  split at h
  · exact ⟨_, (Except.error.inj h).symm⟩
  · exact ⟨_, (Except.error.inj h).symm⟩
  · exfalso
    have hdelay := backoff.nextDelay_le p.random leased.attemptNumber
    unfold decideCompletion at h
    split at h
    · cases h
    · dsimp only at h
      split at h
      · cases h
      · split at h
        · rename_i hrange
          omega
        · cases h

end

/-- A transaction whose callback returns no fatal error returns none. -/
theorem WithinTransaction.nonfatal {α : Type} {callback : Except Error (Db × α)} {errors : List Error}
    (h : WithinTransaction db callback db' (.error errors))
    (hcallback : Fails (fun e => e.fatal = false) callback) :
    ∀ e ∈ errors, e.fatal = false := by
  intro e he
  rcases h.errors e he with hstorage | herror
  · unfold Error.ofStorage at hstorage
    split at hstorage <;> first | rfl | cases hstorage
  · exact hcallback e herror

end Valid

/-! ## What the outbox and the relays keep -/

/-- The outbox as the relays need it. -/
structure Db.Relayable (db : Db) : Prop where
  ids : (db.outbox.map (·.event.id)).Nodup
  rows : ∀ o ∈ db.outbox, o.Relayable

theorem Relayed.outboxIDs {db db' : Db} (h : Relayed db db') (hn : (db.outbox.map (·.event.id)).Nodup) :
    (db'.outbox.map (·.event.id)).Nodup := by
  have hids : db'.outbox.map (·.event.id) = db.outbox.map (·.event.id) := by
    have := congrArg (List.map OutboxEvent.id) h.events
    rw [List.map_map, List.map_map] at this
    exact this
  rw [hids]
  exact hn

section Relayable

variable {L : Libs} {config : OutboxRelayConfig} {run : Uuid} {now : Time} {db db' : Db}

theorem Db.Relayable.insert {o : OutboxEvent} (hd : db.Relayable)
    (ho : ∀ row, outboxRow now o = some row → row.Relayable) (h : db.insertOutboxEvent now o = .ok db') :
    db'.Relayable := by
  unfold insertOutboxEvent at h
  split at h
  · simp at h
  rename_i row hrow
  rw [check_bind_eq_ok] at h
  replace h := h.2
  split at h
  · -- the same event is there already
    simp only [check_bind_eq_ok, pure_eq_ok] at h
    exact h.2 ▸ hd
  · simp only [check_bind_eq_ok, pure_eq_ok] at h
    obtain ⟨hfresh, rfl⟩ := h
    have habsent : ∀ r ∈ db.outbox, r.event.id ≠ row.event.id := by simpa using hfresh
    constructor
    · rw [List.map_append, List.nodup_append]
      refine ⟨hd.ids, by simp, ?_⟩
      simpa using habsent
    · intro r hr
      rcases List.mem_append.1 hr with hr | hr
      · exact hd.rows r hr
      · exact List.mem_singleton.1 hr ▸ ho row hrow

/-- Events that were mapped from a message are appended as rows that can be relayed. -/
theorem Db.Relayable.append {record : MessageRecord} {mapped : MappedMessageEvents}
    (hformat : ∀ t text, L.formatTime t = some text → len text ≤ 64) (hd : db.Relayable)
    (hb : record.message.Built) (hrecord : record.validate = .ok ())
    (hmapped : mapAllMessageEvents L record record.message.pendingEvents = .ok mapped)
    (happend : db.appendOutbox now mapped.outbox = .ok db') : db'.Relayable := by
  simp only [MessageRecord.validate, unit_bind_eq_ok, check_eq_ok] at hrecord
  obtain ⟨htenant, -, -, -, -, hrest⟩ := hrecord
  have hid : isUUID record.message.id = true := by
    split at hrest
    · exact check_eq_ok.1 (unit_bind_eq_ok.1 hrest).2
    · exact check_eq_ok.1 hrest
  unfold mapAllMessageEvents at hmapped
  split at hmapped
  · simp at hmapped
  obtain ⟨hall, rfl⟩ := mapEvents_eq_ok.1 hmapped
  obtain ⟨hchecks, hfold⟩ := unit_bind_eq_ok.1 happend
  rw [forM_eq_ok] at hchecks
  have hcounters : ∀ e ∈ record.message.pendingEvents, e.sequence ≤ maxInt64 ∧
      e.dispatchGeneration ≤ maxInt64 := by
    intro e he
    have := hchecks _ (List.mem_map_of_mem he)
    exact check_eq_ok.1 (unit_bind_eq_ok.1 this).2
  have hrows : ∀ o ∈ record.message.pendingEvents.map (outboxEventOf L record.tenantID),
      ∀ row, outboxRow now o = some row → row.Relayable := by
    intro o ho row hrow
    obtain ⟨e, he, rfl⟩ := List.mem_map.1 ho
    have hmappable := hall e he
    obtain ⟨occurredAt, htext⟩ : ∃ occurredAt, L.formatTime e.occurredAt = some occurredAt := by
      have hencoded := hmappable.encoded
      rw [messageEventEnvelope, Option.isSome_map] at hencoded
      exact Option.isSome_iff_exists.1 hencoded
    obtain ⟨hvalid, -, hattempts⟩ := outboxRow_valid (hb.event_proper hmapped he (hcounters e he)) htenant
      (hmappable.messageID ▸ hid) htext (hformat _ _ htext) hrow
    exact ⟨hvalid, fun _ => by rw [hattempts]; decide⟩
  clear hchecks happend hmapped hall
  generalize record.message.pendingEvents.map (outboxEventOf L record.tenantID) = os at hfold hrows
  induction os generalizing db with
  | nil =>
    rw [List.foldlM_nil, pure_eq_ok] at hfold
    exact hfold ▸ hd
  | cons o os ih =>
    rw [List.foldlM_cons, bind_eq_ok] at hfold
    obtain ⟨db₁, hinsert, hrest⟩ := hfold
    exact ih (hd.insert (hrows o List.mem_cons_self) hinsert) hrest fun x hx =>
      hrows x (List.mem_cons_of_mem o hx)

/-- Claims only lease rows. -/
theorem Db.Relayable.claim {locked : String → Bool} {events : List LeasedOutboxEvent} (hd : db.Relayable)
    (h : claimBatch config run locked now db = .ok (db', events)) :
    db'.Relayable ∧ ∀ leased ∈ events, leased.validate = .ok () := by
  obtain ⟨leaseUntil, claimed, hbatch⟩ := claimBatch_leased hd.ids h
  refine ⟨⟨hbatch.relayed.outboxIDs hd.ids, fun o ho => ?_⟩, fun leased hleased => ?_⟩
  · rw [hbatch.outbox] at ho
    obtain ⟨r, hr, rfl⟩ := List.mem_map.1 ho
    split
    · exact (hd.rows r hr).leasedTo _ _
    · exact hd.rows r hr
  · rw [hbatch.events] at hleased
    obtain ⟨r, hr, rfl⟩ := List.mem_map.1 hleased
    exact hbatch.valid r hr

/-- A row is tried again only below the limit of its relay. -/
theorem Db.Relayable.record {reference : OutboxLeaseReference} {completion : Completion} (hd : db.Relayable)
    (hlimit : (∃ delay code, completion = .retried delay code) → reference.attemptNumber < maxInt32)
    (h : recordCompletion reference now db completion = .ok db') : db'.Relayable := by
  obtain ⟨o, hrecorded⟩ := recordCompletion_recorded hd.ids h
  refine ⟨hrecorded.relayed.outboxIDs hd.ids, fun r hr => ?_⟩
  rw [hrecorded.outbox, mem_exchange hrecorded.mem] at hr
  rcases hr with rfl | ⟨hr, -⟩
  · refine ⟨?_, fun hpending => ?_⟩
    · rw [o.recorded_event]
      exact (hd.rows o hrecorded.mem).event
    · rw [o.recorded_attempts]
      rw [o.recorded_status] at hpending
      cases completion with
      | retried delay code => exact hlimit ⟨delay, code, rfl⟩
      | published => simp at hpending
      | deadLettered => simp at hpending
  · exact hd.rows r hr

end Relayable

/-- What the relays have leased, and what they have met so far. -/
structure RelayRun.Sound (config : OutboxRelayConfig) (waiting : List LeasedOutboxEvent)
    (outcomes : List RelayEventOutcome) : Prop where
  config : config.valid = true
  waiting : ∀ leased ∈ waiting, leased.validate = .ok ()
  outcomes : ∀ outcome ∈ outcomes, ∀ e ∈ outcome.errors, e.fatal = false

structure Relays.Sound (s : Relays) : Prop where
  db : s.db.Relayable
  runs : ∀ i config backoff waiting outcomes, s.runs i = .publishing config backoff waiting outcomes →
    RelayRun.Sound config waiting outcomes

/-- The relays whose state does not change keep what they have. -/
theorem Relays.Sound.update {s : Relays} {db' : Db} {i : Nat} {run : RelayRun}
    (hs : s.Sound) (hd : db'.Relayable)
    (hrun : ∀ config backoff waiting outcomes, run = .publishing config backoff waiting outcomes →
      RelayRun.Sound config waiting outcomes) : Relays.Sound ⟨db', Function.update s.runs i run⟩ := by
  refine ⟨hd, fun j config backoff waiting outcomes hj => ?_⟩
  by_cases hij : j = i
  · subst hij
    exact hrun config backoff waiting outcomes ((Function.update_self ..).symm.trans hj)
  · exact hs.runs j config backoff waiting outcomes ((Function.update_of_ne hij ..).symm.trans hj)

theorem RelayEventOutcome.ofTransaction_nonfatal {success : RelayOutcome} {result : Except (List Error) Unit}
    (h : ∀ errors, result = .error errors → ∀ e ∈ errors, e.fatal = false) :
    ∀ e ∈ (ofTransaction success result).errors, e.fatal = false := by
  cases result with
  | ok => simp [ofTransaction]
  | error errors =>
    rw [ofTransaction]
    split
    · simp
    · exact h errors rfl

section Runs

variable {L : Libs} {s s' : Relays} {action : RelayAction} {h : List (RelayAction × Relays)}

/-- An attempt takes its event off the list, and what it met is not fatal. -/
theorem RelayRun.Sound.attempted {config : OutboxRelayConfig} {before after : List LeasedOutboxEvent}
    {leased : LeasedOutboxEvent} {outcomes : List RelayEventOutcome} {outcome : RelayEventOutcome}
    (hs : RelayRun.Sound config (before ++ leased :: after) outcomes)
    (houtcome : ∀ e ∈ outcome.errors, e.fatal = false) :
    RelayRun.Sound config (before ++ after) (outcomes ++ [outcome]) := by
  refine ⟨hs.config, fun x hx => hs.waiting x ?_, fun x hx => ?_⟩
  · rcases List.mem_append.1 hx with hx | hx
    · exact List.mem_append_left _ hx
    · exact List.mem_append_right _ (List.mem_cons_of_mem _ hx)
  · rcases List.mem_append.1 hx with hx | hx
    · exact hs.outcomes x hx
    · exact List.mem_singleton.1 hx ▸ houtcome

/-- One step keeps the outbox and the relays sound, and a run that returns in it returns
nothing fatal. -/
theorem RelayStep.sound (hformat : ∀ t text, L.formatTime t = some text → len text ≤ 64)
    (hstep : RelayStep L s action s') (hs : s.Sound) : s'.Sound ∧
    ∀ i result errors, action = .returned i result errors → isFatalRelayError errors = false := by
  cases hstep with
  | append hb hrecord hmapped happend =>
    exact ⟨⟨hs.db.append hformat hb hrecord hmapped happend, hs.runs⟩, nofun⟩
  | elsewhere houtbox => exact ⟨⟨⟨houtbox ▸ hs.db.ids, houtbox ▸ hs.db.rows⟩, hs.runs⟩, nofun⟩
  | @claimed _ config backoff run locked now db' events _ hvalid hnow ht =>
    cases ht with
    | committed hok =>
      obtain ⟨hd, hleased⟩ := hs.db.claim hok
      refine ⟨hs.update hd fun config backoff waiting outcomes heq => ?_, nofun⟩
      simp only [RelayRun.publishing.injEq] at heq
      obtain ⟨rfl, rfl, rfl, rfl⟩ := heq
      exact ⟨hvalid, hleased, by simp⟩
  | @claimFailed i config run locked now db' errors _ hvalid hnow ht =>
    refine ⟨⟨?_, hs.runs⟩, ?_⟩
    · rcases ht.state with rfl | ⟨events, hok⟩
      · exact hs.db
      · exact (hs.db.claim hok).1
    · rintro _ _ _ ⟨⟩
      have hnone := ht.nonfatal (claimBatch_nonfatal hs.db.rows hvalid hnow)
      simpa [isFatalRelayError] using hnone
  | @recorded i config backoff before after leased outcomes p completion now db' result hrun hpublish ht =>
    have hsound := hs.runs i _ _ _ _ hrun
    have hleased := hsound.waiting leased (by simp)
    obtain ⟨hcompletion, hlimit⟩ := publishOne_eq_ok hpublish
    have hcallback := @recordCompletion_nonfatal now s.db leased.reference completion
      (LeasedOutboxEvent.reference_valid hleased) hcompletion
    refine ⟨hs.update ?_ fun _ _ _ _ heq => ?_, nofun⟩
    · rcases ht.state with rfl | ⟨_, hok⟩
      · exact hs.db
      · obtain ⟨db₁, hrecord, heq⟩ := map_eq_ok.1 hok
        obtain rfl : db₁ = db' := congrArg Prod.fst heq
        obtain ⟨-, -, -, -, -, -, -, -, -, -, -, -, -, hmax⟩ := of_decide_eq_true hsound.config
        exact hs.db.record (fun hretried => (hlimit hretried).trans_le hmax) hrecord
    · simp only [RelayRun.publishing.injEq] at heq
      obtain ⟨rfl, rfl, rfl, rfl⟩ := heq
      refine hsound.attempted (RelayEventOutcome.ofTransaction_nonfatal fun errors herrors => ?_)
      subst herrors
      exact ht.nonfatal (fails_map.2 hcallback)
  | @unrecorded i config backoff before after leased outcomes p error hrun hpublish =>
    refine ⟨hs.update hs.db fun _ _ _ _ heq => ?_, nofun⟩
    simp only [RelayRun.publishing.injEq] at heq
    obtain ⟨rfl, rfl, rfl, rfl⟩ := heq
    refine (hs.runs i _ _ _ _ hrun).attempted fun e he => ?_
    obtain rfl := List.mem_singleton.1 he
    obtain ⟨_, rfl⟩ := publishOne_eq_error hpublish
    rfl
  | returned hrun =>
    refine ⟨hs.update hs.db nofun, ?_⟩
    rintro _ _ _ ⟨⟩
    have houtcomes := (hs.runs _ _ _ _ _ hrun).outcomes
    simpa [isFatalRelayError] using houtcomes
  | stopped => exact ⟨hs.update hs.db nofun, nofun⟩

theorem Relayings.sound (hformat : ∀ t text, L.formatTime t = some text → len text ≤ 64)
    (hr : Relayings L h s) :
    s.Sound ∧ ∀ i result errors s', (RelayAction.returned i result errors, s') ∈ h →
    isFatalRelayError errors = false := by
  refine hr.induct (P := fun h s => s.Sound ∧
    ∀ i result errors s', (RelayAction.returned i result errors, s') ∈ h →
    isFatalRelayError errors = false) (fun s hinit => ?_) fun h s action s' _ hp hstep => ?_
  · obtain ⟨houtbox, hidle⟩ := hinit
    refine ⟨⟨⟨?_, ?_⟩, fun i config backoff waiting outcomes hrun => ?_⟩, by simp⟩
    · rw [houtbox]
      exact List.nodup_nil
    · rw [houtbox]
      exact fun _ ho => absurd ho List.not_mem_nil
    · rw [hidle i] at hrun
      cases hrun
  · obtain ⟨hs, hreturned⟩ := hstep.sound hformat hp.1
    refine ⟨hs, fun i result errors s₁ hmem => ?_⟩
    rcases List.mem_cons.1 hmem with heq | hmem
    · exact hreturned i result errors (congrArg Prod.fst heq).symm
    · exact hp.2 i result errors s₁ hmem

/-- The relay cannot stop the service: no run of any relay returns a fatal error, since all
that it passes on is valid. -/
theorem relay_never_fatal (hformat : ∀ t text, L.formatTime t = some text → len text ≤ 64)
    (hr : Relayings L h s) :
    (∀ i result errors s', (RelayAction.returned i result errors, s') ∈ h →
      isFatalRelayError errors = false) ∧
    (∀ (config : OutboxRelayConfig) (run : Uuid), config.valid = true →
      validateLeaseToken (config.leaseToken run) = .ok () ∧
      OutboxClaimQuery.validate ⟨config.leaseToken run, config.leaseDuration, config.batchSize⟩ = .ok ()) ∧
    ∀ i config backoff waiting outcomes, s.runs i = .publishing config backoff waiting outcomes →
      ∀ leased ∈ waiting, leased.validate = .ok () ∧ leased.reference.validate = .ok () ∧ ∀ p : Publishing,
        match publishOne config backoff leased p with
        | .ok completion => completion.Valid
        | .error error => ∃ e, error = .context e := by
  obtain ⟨hs, hreturned⟩ := Relayings.sound hformat hr
  refine ⟨hreturned, fun config run hvalid => ?_,
    fun i config backoff waiting outcomes hrun leased hleased => ?_⟩
  · exact ⟨leaseToken_valid hvalid, config.query_valid hvalid (leaseToken_valid hvalid)⟩
  · have hvalid := (hs.runs i _ _ _ _ hrun).waiting leased hleased
    refine ⟨hvalid, LeasedOutboxEvent.reference_valid hvalid, fun p => ?_⟩
    split
    · rename_i hok
      exact (publishOne_eq_ok hok).1
    · rename_i herror
      exact publishOne_eq_error herror

/-- The events of a message that is accepted are appended, with the rest of what its
transaction writes. -/
theorem Acceptable.relayings {ids : Set Uuid} {now : Time} {db : Db} {p : PreparedSubmission} {m : Message}
    {row : MessageRow} {runs : Nat → RelayRun} (ha : Acceptable L ids now db p m row)
    (hr : Relayings L h ⟨db, runs⟩) :
    ∃ h', Relayings L h' ⟨acceptedDb L now db p m row, runs⟩ := by
  have hpending : m.pendingEvents ≠ [] := by
    obtain ⟨details, hevents⟩ := ha.moved.events
    simp [hevents]
  have happended := hr.next (.append (.new ha.new) ha.valid (ha.ready.mapped hpending)
    (ha.ready.appendOutbox db now (fresh_createdOutbox ha.sound.keyed ha.fresh' ha.moved) ha.outboxIDs))
  exact ⟨_, happended.next (@RelayStep.elsewhere L _ (acceptedDb L now db p m row) rfl)⟩

/-- A run of one event returns when the transaction for its result has failed. -/
theorem Relayings.interrupted {i : Nat} {config : OutboxRelayConfig} {backoff : FullJitterBackoff}
    {leased : LeasedOutboxEvent} {p : Publishing} {completion : Completion} (hr : Relayings L h s)
    (hrun : s.runs i = .publishing config backoff [leased] [])
    (hpublish : publishOne config backoff leased p = .ok completion) :
    ∃ h' s', Relayings L h' s' ∧
      (RelayAction.returned i ⟨1, 0, 0, 0, 0⟩ [.transaction "begin"], s') ∈ h' := by
  have hattempted := hr.next
    (@RelayStep.recorded L s i config backoff [] [] leased [] p completion 0 _ _ hrun hpublish
    (@WithinTransaction.interrupted Unit _ _ (.transaction "begin") none rfl))
  have hreturned := hattempted.next (.returned (Function.update_self ..))
  exact ⟨_, _, hreturned, List.mem_cons_self⟩

/-- A relay leases the request of a new message, `Publish` returns a typed nil, and the
transaction that is to schedule the retry fails. -/
theorem relay_never_fatal_nilPointer : ∃ L h s result errors s', Relayings L h s ∧
    (RelayAction.returned 0 result errors, s') ∈ h ∧ result.claimed = 1 ∧ errors ≠ [] ∧
    isFatalRelayError errors = false := by
  obtain ⟨hm, hlen, hobject, hstored⟩ := Sample.metadata_empty
  obtain ⟨hash, canonical, m, row, -, hmessage, -, -, ha⟩ :=
    Sample.exists_accepted (.inl rfl) hm hlen hobject hstored
  have hformat : ∀ t text, (Sample.libs hash).formatTime t = some text → len text ≤ 64 := by
    have hshort : ∀ stamp ∈ Sample.stamps, len stamp.2 ≤ 64 := by decide
    intro t text ht
    obtain ⟨before, after, hmem, -⟩ := List.lookup_eq_some_iff.1 ht
    exact hshort (t, text) (hmem ▸ by simp)
  have hvalid : Sample.relay.valid = true := by decide
  have hcolumn : varchar 255 (Sample.relay.leaseToken Sample.attemptID) ∧
      notBtrimEmpty (Sample.relay.leaseToken Sample.attemptID) := by decide
  have hclock : Sample.now ≠ 0 := by decide
  have hq : m.status = .queued := by
    rw [hmessage]
    rfl
  have hstart : Relayings (Sample.libs hash) [] ⟨Sample.start.db, fun _ => .idle⟩ :=
    .start ⟨rfl, fun _ => rfl⟩
  obtain ⟨h, haccepted⟩ := ha.relayings hstart
  have hclaimed := haccepted.next (@RelayStep.claimed _ _ 0 Sample.relay
    ⟨second, 60 * second, by decide, by decide, by decide⟩ Sample.attemptID _ _ _ _ rfl hvalid hclock
    (.committed (claimBatch_one (Relayings.sound hformat haccepted).1.db.ids
      (ha.leasable hq hvalid (leaseToken_valid hvalid) hcolumn))))
  have hpublish (leased : LeasedOutboxEvent) (hfirst : leased.attemptNumber = 1) :
      publishOne Sample.relay ⟨second, 60 * second, by decide, by decide, by decide⟩ leased
        ⟨none, .typed none, none, none, fun _ => 0⟩ = .ok (.retried 0 "PUBLISH_INTERNAL") := by
    simp only [publishOne, hfirst]
    rfl
  obtain ⟨h', s', hr, hreturned⟩ := Relayings.interrupted hclaimed (Function.update_self ..) (hpublish _ rfl)
  exact ⟨_, h', s', _, _, s', hr, hreturned, rfl, by simp, (relay_never_fatal hformat hr).1 _ _ _ _ hreturned⟩

end Runs

end MailService
