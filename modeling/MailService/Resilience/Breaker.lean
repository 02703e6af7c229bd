import MailService.Lib.Runs
import MailService.Ports
/-!
# The circuit breaker

`circuit_breaker.go`. Calls are admitted with a ticket that names the epoch they
were admitted in; results come back in any order. Every change of state opens a
new epoch, so a result can only count in the epoch of its ticket.

The epoch is a `Nat`: a `uint64` does not wrap in the life of a process.
-/
open Checks Runs

namespace MailService

inductive CircuitState
  | closed | opened | halfOpen
  deriving DecidableEq, Repr

structure CircuitConfig where
  failureThreshold : Nat
  openDuration : Nat
  deriving DecidableEq, Repr

/-- `ErrInvalidConfig` with its detail. -/
structure InvalidConfig where
  detail : String
  deriving DecidableEq, Repr

def CircuitConfig.default : CircuitConfig := ⟨5, 30 * 1000000000⟩

def CircuitConfig.validate (c : CircuitConfig) : Except InvalidConfig Unit := do
  check (c.failureThreshold ≠ 0 ∧ c.failureThreshold ≤ 100000)
    ⟨"circuit failure threshold must be in range 1..100000"⟩
  check (100 * 1000000 ≤ c.openDuration ∧ c.openDuration ≤ 24 * 3600 * 1000000000)
    ⟨"circuit open duration must be in range 100ms..24h"⟩

structure CircuitTicket where
  epoch : Nat
  halfOpen : Bool
  deriving DecidableEq, Repr

inductive CircuitTransitionReason
  | failureThreshold | authentication | cooldownElapsed | probeSucceeded | probeFailed
  deriving DecidableEq, Repr

structure CircuitTransition where
  source : CircuitState
  target : CircuitState
  reason : CircuitTransitionReason
  epoch : Nat
  deriving DecidableEq, Repr

inductive CircuitObservation
  | ignored | healthy | failure | immediateFailure
  deriving DecidableEq, Repr

structure CircuitBreaker where
  config : CircuitConfig
  state : CircuitState
  epoch : Nat
  consecutiveFails : Nat
  openUntil : Time
  halfOpenInFlight : Bool
  deriving DecidableEq, Repr

def newCircuitBreaker (config : CircuitConfig) : Except InvalidConfig CircuitBreaker := do
  config.validate
  pure ⟨config, .closed, 0, 0, 0, false⟩

/-- What a result says about the provider. A failed result without its failure does
not pass `Validate`. -/
def classifyCircuitResult (result : ProviderResult) : CircuitObservation :=
  match result.validate with
  | .error _ => .ignored
  | .ok () =>
    match result.outcome, result.failure with
    | .accepted, _ => .healthy
    | .submissionUnknown, _ => .failure
    | .failed, some failure =>
      match failure.category with
      | .authentication => .immediateFailure
      | .rateLimited | .providerDown | .network | .timeoutBeforeSend => .failure
      | .validation | .recipientRejected | .contentRejected => .healthy
      | .submissionUnknown => .failure
      | .internal => .ignored
      | .unknown _ => .ignored
    | _, _ => .ignored

namespace CircuitBreaker

/-- `acquire`: the ticket of an admitted call. -/
def acquire (b : CircuitBreaker) (now : Time) :
    CircuitBreaker × Option CircuitTicket × Option CircuitTransition :=
  match b.state with
  | .opened =>
    if now < b.openUntil then (b, none, none)
    else
      ({ b with state := .halfOpen, epoch := b.epoch + 1, halfOpenInFlight := true },
        some ⟨b.epoch + 1, true⟩, some ⟨.opened, .halfOpen, .cooldownElapsed, b.epoch + 1⟩)
  | .halfOpen =>
    if b.halfOpenInFlight then (b, none, none)
    else ({ b with halfOpenInFlight := true }, some ⟨b.epoch, true⟩, none)
  | .closed => (b, some ⟨b.epoch, false⟩, none)

/-- `cancel`: a call that was admitted and never reached the provider. -/
def cancel (b : CircuitBreaker) (ticket : CircuitTicket) : CircuitBreaker :=
  if ticket.halfOpen ∧ b.state = .halfOpen ∧
      b.epoch = ticket.epoch then { b with halfOpenInFlight := false } else b

/-- `open`. -/
def trip (b : CircuitBreaker) (now : Time) (reason : CircuitTransitionReason) :
    CircuitBreaker × Option CircuitTransition :=
  ({ b with
    state := .opened, epoch := b.epoch + 1, consecutiveFails := 0, openUntil := now + b.config.openDuration
    halfOpenInFlight := false }, some ⟨b.state, .opened, reason, b.epoch + 1⟩)

/-- `close`. -/
def close (b : CircuitBreaker) (reason : CircuitTransitionReason) :
    CircuitBreaker × Option CircuitTransition :=
  ({ b with
    state := .closed, epoch := b.epoch + 1, consecutiveFails := 0, openUntil := 0,
      halfOpenInFlight := false },
    some ⟨b.state, .closed, reason, b.epoch + 1⟩)

def record (b : CircuitBreaker) (ticket : CircuitTicket) (result : ProviderResult) (now : Time) :
    CircuitBreaker × Option CircuitTransition :=
  if ticket.epoch ≠ b.epoch then (b, none)
  else if ticket.halfOpen then
    if b.state ≠ .halfOpen ∨ !b.halfOpenInFlight then (b, none)
    else if classifyCircuitResult result = .healthy then close b .probeSucceeded
    else trip b now .probeFailed
  else if b.state ≠ .closed then (b, none)
  else match classifyCircuitResult result with
    | .healthy => ({ b with consecutiveFails := 0 }, none)
    | .failure =>
      if b.config.failureThreshold ≤ b.consecutiveFails + 1 then
        trip { b with consecutiveFails := b.consecutiveFails + 1 } now .failureThreshold
      else ({ b with consecutiveFails := b.consecutiveFails + 1 }, none)
    | .immediateFailure => trip b now .authentication
    | .ignored => (b, none)

/-! ## What a call does -/

variable {b b' : CircuitBreaker} {ticket : CircuitTicket} {result : ProviderResult} {now : Time}

inductive Acquired (b : CircuitBreaker) (now : Time) : CircuitBreaker → Option CircuitTicket → Prop
  | normal (state : b.state = .closed) : Acquired b now b (some ⟨b.epoch, false⟩)
  | early (state : b.state = .opened) (now_lt : now < b.openUntil) : Acquired b now b none
  | cooled (state : b.state = .opened) (le_now : b.openUntil ≤ now) : Acquired b now
      { b with state := .halfOpen, epoch := b.epoch + 1, halfOpenInFlight := true } (some ⟨b.epoch + 1, true⟩)
  | busy (state : b.state = .halfOpen) (inFlight : b.halfOpenInFlight = true) : Acquired b now b none
  | probe (state : b.state = .halfOpen) (free : b.halfOpenInFlight = false) :
      Acquired b now { b with halfOpenInFlight := true } (some ⟨b.epoch, true⟩)

theorem acquire_acquired (b : CircuitBreaker) (now : Time) :
    Acquired b now (b.acquire now).1 (b.acquire now).2.1 := by
  unfold acquire
  split
  · rename_i state
    split
    · exact .early state ‹_›
    · exact .cooled state (Nat.le_of_not_lt ‹_›)
  · rename_i state
    split
    · exact .busy state ‹_›
    · exact .probe state (by simpa using ‹¬ b.halfOpenInFlight = true›)
  · exact .normal ‹_›

inductive Recorded (b : CircuitBreaker) (ticket : CircuitTicket) (result : ProviderResult) (now : Time) :
    CircuitBreaker → Prop
  | stale (epoch : ticket.epoch ≠ b.epoch) : Recorded b ticket result now b
  /-- The ticket is not of the kind that the state admits. -/
  | unmatched (epoch : ticket.epoch = b.epoch)
      (state : if ticket.halfOpen then b.state ≠ .halfOpen ∨
        b.halfOpenInFlight = false else b.state ≠ .closed) :
      Recorded b ticket result now b
  | probeSucceeded {reason} (epoch : ticket.epoch = b.epoch) (probe : ticket.halfOpen = true)
      (state : b.state = .halfOpen) (inFlight : b.halfOpenInFlight = true)
      (healthy : classifyCircuitResult result = .healthy) : Recorded b ticket result now (b.close reason).1
  | probeFailed {reason} (epoch : ticket.epoch = b.epoch) (probe : ticket.halfOpen = true)
      (state : b.state = .halfOpen) (inFlight : b.halfOpenInFlight = true)
      (unhealthy : classifyCircuitResult result ≠ .healthy) :
      Recorded b ticket result now (b.trip now reason).1
  | healthy (epoch : ticket.epoch = b.epoch) (normal : ticket.halfOpen = false) (state : b.state = .closed)
      (healthy : classifyCircuitResult result = .healthy) :
      Recorded b ticket result now { b with consecutiveFails := 0 }
  | failed (epoch : ticket.epoch = b.epoch) (normal : ticket.halfOpen = false) (state : b.state = .closed)
      (failure : classifyCircuitResult result = .failure)
      (below : b.consecutiveFails + 1 < b.config.failureThreshold) :
      Recorded b ticket result now { b with consecutiveFails := b.consecutiveFails + 1 }
  | tripped {reason} (epoch : ticket.epoch = b.epoch) (normal : ticket.halfOpen = false)
      (state : b.state = .closed) (enough : classifyCircuitResult result = .immediateFailure ∨
        classifyCircuitResult result = .failure ∧ b.config.failureThreshold ≤ b.consecutiveFails + 1) :
      Recorded b ticket result now (b.trip now reason).1
  | ignored (epoch : ticket.epoch = b.epoch) (normal : ticket.halfOpen = false) (state : b.state = .closed)
      (ignored : classifyCircuitResult result = .ignored) : Recorded b ticket result now b

theorem record_recorded (b : CircuitBreaker) (ticket : CircuitTicket) (result : ProviderResult) (now : Time) :
    Recorded b ticket result now (b.record ticket result now).1 := by
  unfold record
  split
  · exact .stale ‹_›
  rename_i epoch
  rw [not_not] at epoch
  split
  · rename_i probe
    split
    · rename_i hstate
      exact .unmatched epoch (by simpa [probe] using hstate)
    rename_i hstate
    obtain ⟨state, inFlight⟩ : b.state = .halfOpen ∧ b.halfOpenInFlight = true := by simpa using hstate
    split
    · exact .probeSucceeded epoch probe state inFlight ‹_›
    · exact .probeFailed epoch probe state inFlight ‹_›
  · rename_i normal
    rw [Bool.not_eq_true] at normal
    split
    · rename_i hstate
      exact .unmatched epoch (by simpa [normal] using hstate)
    rename_i state
    rw [not_not] at state
    split
    · exact .healthy epoch normal state ‹_›
    · split
      · exact @Recorded.tripped b ticket result now .failureThreshold epoch normal state (.inr ⟨‹_›, ‹_›⟩)
      · exact .failed epoch normal state ‹_› (Nat.lt_of_not_le ‹_›)
    · exact .tripped epoch normal state (.inl ‹_›)
    · exact .ignored epoch normal state ‹_›

end CircuitBreaker

/-! ## Runs -/

/-- A breaker and the tickets of admitted calls that were neither cancelled nor
recorded yet. Tickets of one epoch are alike, so it does not matter which is which. -/
structure Circuit where
  breaker : CircuitBreaker
  tickets : List CircuitTicket

inductive CircuitCall
  | acquire (now : Time) (ticket : Option CircuitTicket)
  | cancel (ticket : CircuitTicket)
  | record (ticket : CircuitTicket) (result : ProviderResult) (now : Time)

inductive Circuit.Step : Circuit → CircuitCall → Circuit → Prop
  | acquire {b : CircuitBreaker} {before after : List CircuitTicket} {now : Time} :
      Step ⟨b, before ++ after⟩ (.acquire now (b.acquire now).2.1)
        ⟨(b.acquire now).1, before ++ (b.acquire now).2.1.toList ++ after⟩
  | cancel {b : CircuitBreaker} {before after : List CircuitTicket} {ticket : CircuitTicket} :
      Step ⟨b, before ++ ticket :: after⟩ (.cancel ticket) ⟨b.cancel ticket, before ++ after⟩
  | record {b : CircuitBreaker} {before after : List CircuitTicket} {ticket : CircuitTicket}
      {result : ProviderResult} {now : Time} :
      Step ⟨b, before ++ ticket :: after⟩ (.record ticket result now)
        ⟨(b.record ticket result now).1, before ++ after⟩

def Circuit.Begins (c : Circuit) : Prop :=
  (∃ config, newCircuitBreaker config = .ok c.breaker) ∧ c.tickets = []

/-- The circuits that these calls, newest first, lead to. -/
abbrev Circuit.Reached (calls : List (CircuitCall × Circuit)) (c : Circuit) : Prop :=
  Run Circuit.Begins Circuit.Step calls c

namespace Circuit

variable {c c' : Circuit} {call : CircuitCall} {calls : List (CircuitCall × Circuit)}

/-- A ticket is of the current epoch or of a past one. A current one is of the kind that
the state admits, and a probe is always current. -/
structure Fits (b : CircuitBreaker) (t : CircuitTicket) : Prop where
  past : t.epoch ≤ b.epoch
  current : t.epoch = b.epoch → b.state = if t.halfOpen then .halfOpen else .closed
  probe : t.halfOpen = true → t.epoch = b.epoch

/-- There is one probe while the breaker waits for one, and none otherwise. -/
structure Sound (c : Circuit) : Prop where
  threshold : 0 < c.breaker.config.failureThreshold
  fails : c.breaker.consecutiveFails < c.breaker.config.failureThreshold
  inFlight : c.breaker.halfOpenInFlight = true → c.breaker.state = .halfOpen
  tickets : ∀ t ∈ c.tickets, Fits c.breaker t
  probe : c.tickets.countP (·.halfOpen) = if c.breaker.halfOpenInFlight then 1 else 0

theorem Begins.sound (h : c.Begins) : c.Sound := by
  obtain ⟨⟨config, hnew⟩, ht⟩ := h
  simp only [newCircuitBreaker, CircuitConfig.validate, bind_eq_ok, check_eq_ok, pure_eq_ok] at hnew
  obtain ⟨_, ⟨_, hthreshold, -⟩, hb⟩ := hnew
  have hpos : 0 < config.failureThreshold := Nat.pos_of_ne_zero hthreshold.1
  constructor <;> simp [ht, ← hb, hpos]

section Tickets

variable {b b' : CircuitBreaker} {before after : List CircuitTicket} {ticket : CircuitTicket}

/-- A new epoch leaves behind all tickets but the probe. -/
theorem Fits.renewed {t : CircuitTicket} (h : Fits b t) (hn : t.halfOpen = false)
    (hepoch : b'.epoch = b.epoch + 1) :
    Fits b' t where
  past := by
    have := h.past
    omega
  current he := by
    have := h.past
    omega
  probe hp := by simp [hn] at hp

theorem Sound.none_of_free (h : c.Sound) (hfree : c.breaker.halfOpenInFlight = false) :
    ∀ t ∈ c.tickets, t.halfOpen = false := by
  have hcount := h.probe
  rw [hfree, if_neg (by simp), List.countP_eq_zero] at hcount
  intro t ht
  simpa using hcount t ht

/-- Who holds the probe's ticket: nobody else does, and the breaker waits for it. -/
theorem Sound.held (h : Sound ⟨b, before ++ ticket :: after⟩) (hp : ticket.halfOpen = true) :
    b.state = .halfOpen ∧ b.halfOpenInFlight = true ∧ ticket.epoch = b.epoch ∧
      ∀ t ∈ before ++ after, t.halfOpen = false := by
  have hfits := h.tickets ticket (by simp)
  have hstate := hfits.current (hfits.probe hp)
  have hcount := h.probe
  simp only [List.countP_append, List.countP_cons, hp, if_true] at hcount
  have hflight : b.halfOpenInFlight = true := by
    by_contra hn
    simp only [hn, if_false] at hcount
    omega
  refine ⟨by simpa [hp] using hstate, hflight, hfits.probe hp, ?_⟩
  rw [hflight, if_pos rfl] at hcount
  have hzero : (before ++ after).countP (·.halfOpen) = 0 := by
    rw [List.countP_append]
    omega
  intro t ht
  simpa using List.countP_eq_zero.1 hzero t ht

theorem mem_of_mem_removed {t : CircuitTicket} (ht : t ∈ before ++ after) :
    t ∈ before ++ ticket :: after := by
  simp only [List.mem_append, List.mem_cons] at ht ⊢
  tauto

/-- The ticket of an ordinary call was used. -/
theorem Sound.used (h : Sound ⟨b, before ++ ticket :: after⟩) (hn : ticket.halfOpen = false) :
    Sound ⟨b, before ++ after⟩ where
  threshold := h.threshold
  fails := h.fails
  inFlight := h.inFlight
  tickets t ht := h.tickets t (mem_of_mem_removed ht)
  probe := by simpa [hn] using h.probe

/-- The breaker changed its state and no probe is left. -/
theorem Sound.renewed (h : Sound ⟨b, before ++ ticket :: after⟩)
    (hn : ∀ t ∈ before ++ after, t.halfOpen = false) (hconfig : b'.config = b.config)
    (hepoch : b'.epoch = b.epoch + 1) (hfails : b'.consecutiveFails = 0)
    (hfree : b'.halfOpenInFlight = false) : Sound ⟨b', before ++ after⟩ where
  threshold := hconfig ▸ h.threshold
  fails := by
    simp only [hfails, hconfig]
    exact h.threshold
  inFlight := by simp [hfree]
  tickets t ht := (h.tickets t (mem_of_mem_removed ht)).renewed (hn t ht) hepoch
  probe := by
    simp only [hfree]
    exact List.countP_eq_zero.2 fun t ht => by simp [hn t ht]

theorem Sound.issued {issued : Option CircuitTicket} {now : Time} (h : Sound ⟨b, before ++ after⟩)
    (ha : CircuitBreaker.Acquired b now b' issued) : Sound ⟨b', before ++ issued.toList ++ after⟩ := by
  have hcount := h.probe
  have hmem : ∀ {t}, t ∈ before ++ issued.toList ++ after → t ∈ before ++ after ∨ issued = some t := by
    intro t ht
    simp only [List.mem_append, Option.mem_toList] at ht ⊢
    tauto
  cases ha with
  | early state now_lt => simpa using h
  | busy state inFlight => simpa using h
  | normal state =>
    refine ⟨h.threshold, h.fails, h.inFlight, fun t ht => ?_, by simpa using hcount⟩
    rcases hmem ht with hold | ⟨⟨⟩⟩
    · exact h.tickets t hold
    · exact ⟨Nat.le_refl _, fun _ => state, fun _ => rfl⟩
  | probe state free =>
    have hnone : before.countP (·.halfOpen) + after.countP (·.halfOpen) = 0 := by
      simpa [free] using hcount
    refine ⟨h.threshold, h.fails, fun _ => state, fun t ht => ?_, ?_⟩
    · rcases hmem ht with hold | ⟨⟨⟩⟩
      · have hfits := h.tickets t hold
        exact ⟨hfits.past, hfits.current, hfits.probe⟩
      · exact ⟨Nat.le_refl _, fun _ => state, fun _ => rfl⟩
    · simp only [Option.toList_some, List.countP_append, List.countP_singleton, if_true]
      omega
  | cooled state le_now =>
    -- while the breaker was open it did not wait for a probe
    have hfree : b.halfOpenInFlight = false := by
      by_contra hn
      have hstate := h.inFlight (by simpa using hn)
      simp [state] at hstate
    have hnone : before.countP (·.halfOpen) + after.countP (·.halfOpen) = 0 := by
      simpa [hfree] using hcount
    refine ⟨h.threshold, h.fails, fun _ => rfl, fun t ht => ?_, ?_⟩
    · rcases hmem ht with hold | ⟨⟨⟩⟩
      · exact (h.tickets t hold).renewed (h.none_of_free hfree t hold) rfl
      · exact ⟨Nat.le_refl _, fun _ => rfl, fun _ => rfl⟩
    · simp only [Option.toList_some, List.countP_append, List.countP_singleton, if_true]
      omega

/-- A cancelled probe makes room for the next. -/
theorem Sound.cancelled (h : Sound ⟨b, before ++ ticket :: after⟩) :
    Sound ⟨b.cancel ticket, before ++ after⟩ := by
  unfold CircuitBreaker.cancel
  cases hp : ticket.halfOpen with
  | false => simpa using h.used hp
  | true =>
    obtain ⟨state, -, hepoch, hnone⟩ := h.held hp
    rw [if_pos ⟨rfl, state, hepoch.symm⟩]
    refine ⟨h.threshold, h.fails, by simp, fun t ht => ?_, ?_⟩
    · have hfits := h.tickets t (mem_of_mem_removed ht)
      exact ⟨hfits.past, hfits.current, hfits.probe⟩
    · exact List.countP_eq_zero.2 fun t ht => by simp [hnone t ht]

/-- Every current ticket is of the kind that the state admits. -/
theorem Sound.matched (h : Sound ⟨b, before ++ ticket :: after⟩) (epoch : ticket.epoch = b.epoch) :
    ¬ if ticket.halfOpen then b.state ≠ .halfOpen ∨ b.halfOpenInFlight = false else b.state ≠ .closed := by
  have hstate := (h.tickets ticket (by simp)).current epoch
  cases hp : ticket.halfOpen with
  | false => simpa [hp] using hstate
  | true =>
    obtain ⟨state, inFlight, -⟩ := h.held hp
    simp [state, inFlight]

theorem Sound.recorded {result : ProviderResult} {now : Time} (h : Sound ⟨b, before ++ ticket :: after⟩)
    (hr : CircuitBreaker.Recorded b ticket result now b') : Sound ⟨b', before ++ after⟩ := by
  cases hr with
  | stale epoch =>
    refine h.used ?_
    by_contra hp
    exact epoch ((h.tickets ticket (by simp)).probe (by simpa using hp))
  | unmatched epoch state => exact absurd state (h.matched epoch)
  | probeSucceeded epoch probe state inFlight healthy => exact h.renewed (h.held probe).2.2.2 rfl rfl rfl rfl
  | probeFailed epoch probe state inFlight unhealthy => exact h.renewed (h.held probe).2.2.2 rfl rfl rfl rfl
  | healthy epoch normal state healthy =>
    have hu := h.used normal
    refine ⟨hu.threshold, hu.threshold, hu.inFlight, fun t ht => ?_, hu.probe⟩
    exact ⟨(hu.tickets t ht).past, (hu.tickets t ht).current, (hu.tickets t ht).probe⟩
  | failed epoch normal state failure below =>
    have hu := h.used normal
    refine ⟨hu.threshold, below, hu.inFlight, fun t ht => ?_, hu.probe⟩
    exact ⟨(hu.tickets t ht).past, (hu.tickets t ht).current, (hu.tickets t ht).probe⟩
  | tripped epoch normal state enough =>
    refine h.renewed (fun t ht => (h.used normal).none_of_free ?_ t ht) rfl rfl rfl rfl
    by_contra hn
    have hstate := h.inFlight (by simpa using hn)
    simp [state] at hstate
  | ignored epoch normal state ignored => exact h.used normal

end Tickets

theorem Step.sound (h : Step c call c') (hs : c.Sound) : c'.Sound := by
  cases h with
  | acquire => exact hs.issued (CircuitBreaker.acquire_acquired _ _)
  | cancel => exact hs.cancelled
  | record => exact hs.recorded (CircuitBreaker.record_recorded _ _ _ _)

theorem Reached.sound (h : Circuit.Reached calls c) : c.Sound :=
  h.invariant (fun _ => Begins.sound) fun _ _ _ hs hstep => hstep.sound hs

end Circuit

end MailService
