import MailService.Resilience.Breaker
/-!
# The provider guard

`guard.go`: any number of `Submit` calls go through the breaker, the bulkhead and
the token bucket to one provider. Each call is a program counter, and its atomic
steps interleave with those of the others. The breaker sees a `Circuit`: the
tickets that calls hold are those it waits for.
-/
open Runs

namespace MailService

/-! ## Token bucket -/

/-- The bucket. Its numbers are `float64` in the source and of any type here: nothing
depends on how they are rounded. -/
structure TokenBucket (F : Type) where
  rate : F
  burst : F
  tokens : F
  last : Time

section TokenBucket

variable {F : Type} [Add F] [Sub F] [Mul F] [One F] [LT F] [DecidableLT F] (seconds : Nat → F)

/-- What `allow` adds for the time since it was last called; `seconds` is
`Duration.Seconds`. -/
def TokenBucket.refill (g : TokenBucket F) (now : Time) : TokenBucket F :=
  if g.last < now then
    { g with
      tokens :=
        if g.burst < g.tokens + seconds (now - g.last) * g.rate then g.burst
        else g.tokens + seconds (now - g.last) * g.rate
      last := now }
  else g

def TokenBucket.allow (g : TokenBucket F) (now : Time) : TokenBucket F × Bool :=
  if (g.refill seconds now).tokens < 1 then (g.refill seconds now, false)
  else ({ g.refill seconds now with tokens := (g.refill seconds now).tokens - 1 }, true)

end TokenBucket

/-! ## Submit -/

inductive Rejection
  | contextDone | bulkheadFull | rateLimited | circuitOpen
  deriving DecidableEq, Repr

def retryableRateLimitResult (code : String) : ProviderResult :=
  ⟨.failed, "", some ⟨.rateLimited, code, true⟩⟩

def contextDoneResult : ProviderResult :=
  ⟨.failed, "", some ⟨.timeoutBeforeSend, "LOCAL_PROVIDER_CONTEXT_DONE", true⟩⟩

def circuitOpenResult : ProviderResult :=
  ⟨.failed, "", some ⟨.providerDown, "LOCAL_PROVIDER_CIRCUIT_OPEN", true⟩⟩

/-- What `Submit` returns when it rejects a call. -/
def Rejection.result : Rejection → ProviderResult
  | contextDone => contextDoneResult
  | bulkheadFull => retryableRateLimitResult "LOCAL_PROVIDER_BULKHEAD_FULL"
  | rateLimited => retryableRateLimitResult "LOCAL_PROVIDER_RATE_LIMITED"
  | circuitOpen => circuitOpenResult

inductive SubmitOutcome
  | rejected (reason : Rejection)
  | answered (result : ProviderResult)
  deriving DecidableEq, Repr

def SubmitOutcome.result : SubmitOutcome → ProviderResult
  | rejected reason => reason.result
  | answered result => result

/-- How far a call of `Submit` is: what it does next. -/
inductive SubmitState
  | entered
  | acquiring
  /-- Admitted by the breaker, without a slot yet. -/
  | admitted (ticket : CircuitTicket)
  | slotted (ticket : CircuitTicket)
  | checked (ticket : CircuitTicket)
  | allowed (ticket : CircuitTicket)
  /-- In `provider.Submit`. -/
  | calling (ticket : CircuitTicket)
  | returned (ticket : CircuitTicket) (result : ProviderResult)
  /-- Rejected, with the ticket to cancel and perhaps a slot to release. -/
  | cancelling (ticket : CircuitTicket) (reason : Rejection) (slot : Bool)
  | releasing (outcome : SubmitOutcome)
  | finished (outcome : SubmitOutcome)
  deriving DecidableEq, Repr

/-- The shared state. -/
structure Guard (F : Type) where
  maxConcurrent : Nat
  /-- How many slots are taken. -/
  slots : Nat
  breaker : CircuitBreaker
  bucket : TokenBucket F

inductive SubmitAction
  | checkContext (done : Bool)
  | acquire (now : Time)
  | takeSlot
  | allow (now : Time)
  | callProvider
  | providerReturned (result : ProviderResult)
  | record (now : Time)
  | cancel
  | release
  deriving DecidableEq, Repr

section Submit

variable {F : Type} [Add F] [Sub F] [Mul F] [One F] [LT F] [DecidableLT F] (seconds : Nat → F)

/-- One atomic step of a call. -/
inductive SubmitStep : Guard F → SubmitState → SubmitAction → Guard F → SubmitState → Prop
  | contextDone {g : Guard F} :
      SubmitStep g .entered (.checkContext true) g (.finished (.rejected .contextDone))
  | contextAlive {g : Guard F} : SubmitStep g .entered (.checkContext false) g .acquiring
  | acquired {g : Guard F} {ticket : CircuitTicket} (now : Time) : (g.breaker.acquire now).2.1 = some ticket →
      SubmitStep g .acquiring (.acquire now)
        { g with breaker := (g.breaker.acquire now).1 } (.admitted ticket)
  | refused {g : Guard F} (now : Time) : (g.breaker.acquire now).2.1 = none →
      SubmitStep g .acquiring (.acquire now) { g with breaker := (g.breaker.acquire now).1 }
        (.finished (.rejected .circuitOpen))
  | slotTaken {g : Guard F} {ticket : CircuitTicket} : g.slots < g.maxConcurrent →
      SubmitStep g (.admitted ticket) .takeSlot { g with slots := g.slots + 1 } (.slotted ticket)
  | slotsFull {g : Guard F} {ticket : CircuitTicket} : ¬ g.slots < g.maxConcurrent →
      SubmitStep g (.admitted ticket) .takeSlot g (.cancelling ticket .bulkheadFull false)
  | doneWithSlot {g : Guard F} {ticket : CircuitTicket} :
      SubmitStep g (.slotted ticket) (.checkContext true) g (.cancelling ticket .contextDone true)
  | aliveWithSlot {g : Guard F} {ticket : CircuitTicket} :
      SubmitStep g (.slotted ticket) (.checkContext false) g (.checked ticket)
  | allowed {g : Guard F} {ticket : CircuitTicket} (now : Time) : (g.bucket.allow seconds now).2 = true →
      SubmitStep g (.checked ticket) (.allow now)
        { g with bucket := (g.bucket.allow seconds now).1 } (.allowed ticket)
  | limited {g : Guard F} {ticket : CircuitTicket} (now : Time) : (g.bucket.allow seconds now).2 = false →
      SubmitStep g (.checked ticket) (.allow now) { g with bucket := (g.bucket.allow seconds now).1 }
        (.cancelling ticket .rateLimited true)
  | callProvider {g : Guard F} {ticket : CircuitTicket} :
      SubmitStep g (.allowed ticket) .callProvider g (.calling ticket)
  | providerReturned {g : Guard F} {ticket : CircuitTicket} {result : ProviderResult} :
      SubmitStep g (.calling ticket) (.providerReturned result) g (.returned ticket result)
  | record {g : Guard F} {ticket : CircuitTicket} {result : ProviderResult} (now : Time) :
      SubmitStep g (.returned ticket result) (.record now)
        { g with breaker := (g.breaker.record ticket result now).1 }
        (.releasing (.answered result))
  | cancel {g : Guard F} {ticket : CircuitTicket} {reason : Rejection} {slot : Bool} :
      SubmitStep g (.cancelling ticket reason slot) .cancel { g with breaker := g.breaker.cancel ticket }
        (if slot then .releasing (.rejected reason) else .finished (.rejected reason))
  | release {g : Guard F} {outcome : SubmitOutcome} :
      SubmitStep g (.releasing outcome) .release { g with slots := g.slots - 1 } (.finished outcome)

/-- The guard and all calls made so far. -/
structure Submits (F : Type) where
  guard : Guard F
  calls : List SubmitState

inductive Submits.Action
  | call
  | step (index : Nat) (action : SubmitAction)
  deriving DecidableEq, Repr

/-- A call of `Submit` begins, or one that has begun takes a step. -/
inductive Submits.Step : Submits F → Submits.Action → Submits F → Prop
  | call {s : Submits F} : Step s .call { s with calls := s.calls ++ [.entered] }
  | step {g g' : Guard F} {before after : List SubmitState} {pc pc' : SubmitState} {action : SubmitAction} :
      SubmitStep seconds g pc action g' pc' →
      Step ⟨g, before ++ pc :: after⟩ (.step before.length action) ⟨g', before ++ pc' :: after⟩

theorem Submits.Step.at {seconds : Nat → F} {g g' : Guard F} {pc pc' : SubmitState} {action : SubmitAction}
    (before after : List SubmitState) (h : SubmitStep seconds g pc action g' pc') :
    Step seconds ⟨g, before ++ pc :: after⟩ (.step before.length action) ⟨g', before ++ pc' :: after⟩ :=
  .step h

/-- A new guard: a full bucket and all slots free. -/
def Submits.Begins (s : Submits F) : Prop :=
  (∃ config, newCircuitBreaker config = .ok s.guard.breaker) ∧ s.guard.slots = 0 ∧
    s.guard.bucket.tokens = s.guard.bucket.burst ∧ s.calls = []

abbrev Submits.Reached (history : List (Submits.Action × Submits F)) (s : Submits F) : Prop :=
  Run Submits.Begins (Submits.Step seconds) history s

end Submit

/-! ## What a call holds -/

namespace SubmitState

/-- The ticket that was neither cancelled nor recorded yet. -/
def ticket : SubmitState → Option CircuitTicket
  | admitted ticket | slotted ticket | checked ticket | allowed ticket | calling ticket | returned ticket _
  | cancelling ticket _ _ => some ticket
  | entered | acquiring | releasing _ | finished _ => none

def holdsSlot : SubmitState → Bool
  | slotted _ | checked _ | allowed _ | calling _ | returned _ _ | cancelling _ _ true | releasing _ => true
  | entered | acquiring | admitted _ | cancelling _ _ false | finished _ => false

def inProvider : SubmitState → Bool
  | calling _ => true
  | _ => false

def isFinished : SubmitState → Bool
  | finished _ => true
  | _ => false

/-- Past the token check: the call took a token and goes on to the provider. -/
def passed : SubmitState → Bool
  | allowed _ | calling _ | returned _ _ | releasing (.answered _) | finished (.answered _) => true
  | _ => false

def holdsProbe (epoch : Nat) (pc : SubmitState) : Bool :=
  pc.ticket.any fun t => t.halfOpen && t.epoch == epoch

/-- In the provider with a half-open ticket of any epoch. -/
def probing (pc : SubmitState) : Bool := pc.inProvider && pc.ticket.any (·.halfOpen)

end SubmitState

section Submit

variable {F : Type} [Add F] [Sub F] [Mul F] [One F] [LT F] [DecidableLT F]
  {seconds : Nat → F} {g g' : Guard F}
  {pc pc' : SubmitState} {action : SubmitAction}

/-- A slot is taken and released by the call that holds it. -/
theorem SubmitStep.slots (h : SubmitStep seconds g pc action g' pc')
    (hs : pc.holdsSlot = true → 0 < g.slots) :
    g'.slots + (if pc.holdsSlot then 1 else 0) = g.slots + (if pc'.holdsSlot then 1 else 0) ∧
      (g.slots ≤ g.maxConcurrent → g'.slots ≤ g'.maxConcurrent) := by
  cases h with
  | slotTaken hfree => exact ⟨rfl, fun _ => hfree⟩
  | release =>
    have hpos : 0 < g.slots := hs rfl
    exact ⟨Nat.sub_add_cancel hpos, fun hle => Nat.le_trans (Nat.sub_le _ _) hle⟩
  | @cancel ticket reason slot => cases slot <;> simp [SubmitState.holdsSlot]
  | _ => simp [SubmitState.holdsSlot]

/-- A call past the token check stays there. -/
theorem SubmitStep.passed (h : SubmitStep seconds g pc action g' pc') (hp : pc.passed = true) :
    pc'.passed = true := by
  cases h with
  | callProvider | providerReturned | record => rfl
  | @release outcome =>
    cases outcome with
    | answered result => rfl
    | rejected reason => simp [SubmitState.passed] at hp
  | _ => simp [SubmitState.passed] at hp

/-- A rejection is a valid failure that may be retried. -/
theorem Rejection.result_valid (reason : Rejection) : reason.result.validate = .ok () ∧
    ∃ f ∈ reason.result.failure, f.retryable = true := by
  cases reason <;> exact ⟨by decide, _, rfl, rfl⟩

/-- What the call returns, once it is known, is a valid result; a rejection may be retried. -/
def SubmitState.Valid : SubmitState → Prop
  | .returned _ result => result.validate = .ok ()
  | .releasing outcome | .finished outcome => outcome.result.validate = .ok () ∧
      ∀ reason, outcome = .rejected reason → ∃ f ∈ outcome.result.failure, f.retryable = true
  | _ => True

theorem SubmitStep.valid (h : SubmitStep seconds g pc action g' pc') (hp : pc.Valid)
    (hprovider : ∀ result, action = .providerReturned result → result.validate = .ok ()) : pc'.Valid := by
  have hrejected (reason : Rejection) : SubmitState.Valid (.finished (.rejected reason)) := by
    refine ⟨reason.result_valid.1, fun other hother => ?_⟩
    cases hother
    exact reason.result_valid.2
  cases h with
  | contextDone | refused => exact hrejected _
  | providerReturned => exact hprovider _ rfl
  | record => exact ⟨hp, fun reason hreason => by cases hreason⟩
  | @cancel ticket reason slot => cases slot <;> exact hrejected reason
  | release => exact hp
  | _ => trivial

/-- What a step may change before the token check is passed. -/
structure Harmless (seconds : Nat → F) (g : Guard F) (action : SubmitAction) (g' : Guard F) : Prop where
  notCalled : action ≠ .callProvider
  fails : g'.breaker.consecutiveFails = g.breaker.consecutiveFails
  openUntil : g'.breaker.openUntil = g.breaker.openUntil
  tokens : g'.bucket = g.bucket ∨ ∃ now, g'.bucket = g.bucket.refill seconds now

theorem CircuitBreaker.acquire_frame (b : CircuitBreaker) (now : Time) :
    (b.acquire now).1.consecutiveFails = b.consecutiveFails ∧ (b.acquire now).1.openUntil = b.openUntil := by
  have h := acquire_acquired b now
  generalize (b.acquire now).2.1 = issued at h
  generalize (b.acquire now).1 = b' at h ⊢
  cases h <;> exact ⟨rfl, rfl⟩

theorem CircuitBreaker.cancel_frame (b : CircuitBreaker) (ticket : CircuitTicket) :
    (b.cancel ticket).consecutiveFails = b.consecutiveFails ∧ (b.cancel ticket).openUntil = b.openUntil := by
  unfold cancel
  split <;> exact ⟨rfl, rfl⟩

theorem SubmitStep.harmless (h : SubmitStep seconds g pc action g' pc') (hp : pc'.passed = false) :
    Harmless seconds g action g' := by
  cases h with
  | contextDone | contextAlive | slotTaken | slotsFull | doneWithSlot | aliveWithSlot | release =>
    exact ⟨by simp, rfl, rfl, .inl rfl⟩
  | acquired | refused =>
    obtain ⟨hf, ho⟩ := g.breaker.acquire_frame _
    exact ⟨by simp, hf, ho, .inl rfl⟩
  | @cancel ticket reason slot =>
    obtain ⟨hf, ho⟩ := g.breaker.cancel_frame ticket
    exact ⟨by simp, hf, ho, .inl rfl⟩
  | @limited ticket now hdenied =>
    refine ⟨by simp, rfl, rfl, .inr ⟨now, ?_⟩⟩
    unfold TokenBucket.allow at hdenied ⊢
    split at hdenied
    · simp_all
    · simp at hdenied
  | allowed | callProvider | providerReturned | record => simp [SubmitState.passed] at hp

/-- To the breaker, a step of a call is one of its own calls or none. -/
theorem SubmitStep.circuit (h : SubmitStep seconds g pc action g' pc') (before after : List CircuitTicket) :
    (g'.breaker = g.breaker ∧ pc'.ticket = pc.ticket) ∨
      ∃ call, Circuit.Step ⟨g.breaker, before ++ pc.ticket.toList ++ after⟩ call
        ⟨g'.breaker, before ++ pc'.ticket.toList ++ after⟩ := by
  cases h with
  | @acquired ticket now hticket =>
    refine .inr ⟨.acquire now (some ticket), ?_⟩
    have hstep := @Circuit.Step.acquire g.breaker before after now
    simpa [SubmitState.ticket, hticket] using hstep
  | @refused now hnone =>
    refine .inr ⟨.acquire now none, ?_⟩
    have hstep := @Circuit.Step.acquire g.breaker before after now
    simpa [SubmitState.ticket, hnone] using hstep
  | @record ticket result now =>
    refine .inr ⟨.record ticket result now, ?_⟩
    have hstep := @Circuit.Step.record g.breaker before after ticket result now
    simpa [SubmitState.ticket] using hstep
  | @cancel ticket reason slot =>
    refine .inr ⟨.cancel ticket, ?_⟩
    have hstep := @Circuit.Step.cancel g.breaker before after ticket
    cases slot <;> simpa [SubmitState.ticket] using hstep
  | _ => exact .inl ⟨rfl, rfl⟩

end Submit

/-! ## All calls -/

namespace Submits

variable {F : Type} [Add F] [Sub F] [Mul F] [One F] [LT F] [DecidableLT F]
  {seconds : Nat → F} {s s' : Submits F}
  {action : Submits.Action} {history : List (Submits.Action × Submits F)}

/-- The circuit that the breaker sees. -/
def circuit (s : Submits F) : Circuit := ⟨s.guard.breaker, s.calls.filterMap (·.ticket)⟩

/-- Every slot that is taken is held by a call, and the breaker sees a sound circuit. -/
structure Sound (s : Submits F) : Prop where
  slots : s.guard.slots = s.calls.countP (·.holdsSlot)
  bulkhead : s.guard.slots ≤ s.guard.maxConcurrent
  circuit : s.circuit.Sound

theorem Step.sound (h : Step seconds s action s') (hs : s.Sound) : s'.Sound := by
  cases h with
  | call =>
    refine ⟨?_, hs.bulkhead, ?_⟩
    · simpa [SubmitState.holdsSlot] using hs.slots
    · have : ({ s with calls := s.calls ++ [.entered] } : Submits F).circuit = s.circuit := by
        simp [Submits.circuit, SubmitState.ticket]
      exact this ▸ hs.circuit
  | @step g g' before after pc pc' action hstep =>
    have hslots : g.slots = (before ++ pc :: after).countP (·.holdsSlot) := hs.slots
    rw [List.countP_append, List.countP_cons] at hslots
    obtain ⟨hcount, hbulkhead⟩ := hstep.slots (by intro hp; rw [hp, if_pos rfl] at hslots; omega)
    refine ⟨?_, hbulkhead hs.bulkhead, ?_⟩
    · simp only [List.countP_append, List.countP_cons]
      omega
    · have hcircuit : Circuit.Sound ⟨g.breaker, before.filterMap (·.ticket) ++ pc.ticket.toList ++
          after.filterMap (·.ticket)⟩ := by
        have := hs.circuit
        simp only [Submits.circuit, List.filterMap_append, List.filterMap_cons] at this
        cases hpc : pc.ticket <;> simpa [hpc] using this
      have hgoal : (⟨g', before ++ pc' :: after⟩ : Submits F).circuit =
          ⟨g'.breaker, before.filterMap (·.ticket) ++ pc'.ticket.toList ++ after.filterMap (·.ticket)⟩ := by
        simp only [Submits.circuit, List.filterMap_append, List.filterMap_cons]
        cases hpc : pc'.ticket <;> simp
      rw [hgoal]
      rcases hstep.circuit (before.filterMap (·.ticket)) (after.filterMap (·.ticket)) with ⟨hb, ht⟩ |
        ⟨call, hc⟩
      · rw [hb, ht]
        exact hcircuit
      · exact hc.sound hcircuit

omit [Add F] [Sub F] [Mul F] [One F] [LT F] [DecidableLT F] in
theorem Begins.sound (h : s.Begins) : s.Sound := by
  obtain ⟨hnew, hslots, -, hcalls⟩ := h
  refine ⟨by simp [hslots, hcalls], by simp [hslots], Circuit.Begins.sound ⟨hnew, ?_⟩⟩
  simp [circuit, hcalls]

theorem Reached.sound (h : Submits.Reached seconds history s) : s.Sound :=
  h.invariant (fun _ => Begins.sound) fun _ _ _ hs hstep => hstep.sound hs

/-! ## What a call returns -/

/-- A call that was answered is valid from the provider's return on. -/
theorem Step.valid (h : Step seconds s action s') (hs : ∀ pc ∈ s.calls, pc.Valid)
    (hprovider : ∀ i result, action = .step i (.providerReturned result) → result.validate = .ok ()) :
    ∀ pc ∈ s'.calls, pc.Valid := by
  cases h with
  | call =>
    intro pc hpc
    rcases List.mem_append.1 hpc with hpc | hpc
    · exact hs pc hpc
    · rw [List.mem_singleton.1 hpc]
      trivial
  | @step g g' before after pc pc' action hstep =>
    intro x hx
    rcases List.mem_append.1 hx with hbefore | hx
    · exact hs x (List.mem_append_left _ hbefore)
    rcases List.mem_cons.1 hx with rfl | hafter
    · exact hstep.valid (hs pc (by simp)) fun result haction =>
        hprovider _ _ (congrArg (Action.step _) haction)
    · exact hs x (List.mem_append_right _ (List.mem_cons_of_mem _ hafter))

/-- Over a provider whose results are valid, `Submit` returns valid results: what the provider
answered, or a failure that may be retried. -/
theorem Reached.valid (h : Submits.Reached seconds history s) (hprovider : ∀ i result s',
    (.step i (.providerReturned result), s') ∈ history → result.validate = .ok ()) : ∀ pc ∈ s.calls,
    pc.Valid := by
  induction h with
  | start hbegins =>
    rw [hbegins.2.2.2]
    exact fun _ hpc => nomatch hpc
  | next hr hstep ih =>
    refine hstep.valid (ih fun i result s' hmem => hprovider i result s' (List.mem_cons_of_mem _ hmem)) ?_
    rintro i result rfl
    exact hprovider i result _ List.mem_cons_self

/-! ## Permits -/

omit [Add F] [Sub F] [Mul F] [One F] [LT F] [DecidableLT F] in
theorem Sound.probe (hs : s.Sound) : (s.calls.filterMap (·.ticket)).countP (·.halfOpen) =
    if s.guard.breaker.halfOpenInFlight then 1 else 0 := hs.circuit.probe

omit [Add F] [Sub F] [Mul F] [One F] [LT F] [DecidableLT F] in
/-- The breaker waits for a probe exactly while one call holds its ticket. -/
theorem Sound.probe_iff (hs : s.Sound) :
    s.guard.breaker.halfOpenInFlight = true ↔ s.calls.countP (·.holdsProbe s.guard.breaker.epoch) = 1 := by
  have hcount : s.calls.countP (·.holdsProbe s.guard.breaker.epoch) =
      if s.guard.breaker.halfOpenInFlight then 1 else 0 := by
    rw [← hs.probe, List.countP_filterMap]
    refine List.countP_congr fun pc hpc => ?_
    cases ht : pc.ticket with
    | none => simp [SubmitState.holdsProbe, ht]
    | some t =>
      have hfits := hs.circuit.tickets t (List.mem_filterMap.2 ⟨pc, hpc, ht⟩)
      have hepoch : t.halfOpen = true → t.epoch = s.guard.breaker.epoch := hfits.probe
      simpa [SubmitState.holdsProbe, ht] using hepoch
  rw [hcount]
  cases s.guard.breaker.halfOpenInFlight <;> simp

omit [Add F] [Sub F] [Mul F] [One F] [LT F] [DecidableLT F] in
theorem Sound.probing_le (hs : s.Sound) : s.calls.countP (·.probing) ≤ 1 := by
  have hle : s.calls.countP (·.probing) ≤ (s.calls.filterMap (·.ticket)).countP (·.halfOpen) := by
    rw [List.countP_filterMap]
    refine List.countP_mono_left fun pc _ hp => ?_
    simp only [SubmitState.probing, Bool.and_eq_true, Option.any_eq_true] at hp
    obtain ⟨-, t, ht, hh⟩ := hp
    simp [ht, hh]
  rw [hs.probe] at hle
  split at hle <;> omega

omit [Add F] [Sub F] [Mul F] [One F] [LT F] [DecidableLT F] in
theorem Sound.inProvider_le (hs : s.Sound) : s.calls.countP (·.inProvider) ≤ s.guard.maxConcurrent := by
  have hle : s.calls.countP (·.inProvider) ≤ s.calls.countP (·.holdsSlot) :=
    List.countP_mono_left
      fun pc _ hp => by cases pc <;> simp_all [SubmitState.inProvider, SubmitState.holdsSlot]
  have hslots := hs.slots
  have hbulkhead := hs.bulkhead
  omega

omit [Add F] [Sub F] [Mul F] [One F] [LT F] [DecidableLT F] in
/-- When all calls have finished, nothing is held and the next call is admitted once the
cooldown has passed. -/
theorem Sound.idle (hs : s.Sound) (hf : ∀ pc ∈ s.calls, pc.isFinished = true) :
    s.guard.slots = 0 ∧ s.guard.breaker.halfOpenInFlight = false ∧
      ∀ now, (s.guard.breaker.state = .opened → s.guard.breaker.openUntil ≤ now) →
        (s.guard.breaker.acquire now).2.1 ≠ none := by
  have hslots : s.guard.slots = 0 := by
    rw [hs.slots, List.countP_eq_zero]
    intro pc hpc
    have := hf pc hpc
    cases pc <;> simp_all [SubmitState.isFinished, SubmitState.holdsSlot]
  have hfree : s.guard.breaker.halfOpenInFlight = false := by
    by_contra hn
    have hone := hs.probe_iff.1 (by simpa using hn)
    have hzero : s.calls.countP (·.holdsProbe s.guard.breaker.epoch) = 0 := by
      rw [List.countP_eq_zero]
      intro pc hpc
      have := hf pc hpc
      cases pc <;> simp_all [SubmitState.isFinished, SubmitState.holdsProbe, SubmitState.ticket]
    omega
  refine ⟨hslots, hfree, fun now hnow => ?_⟩
  have ha := CircuitBreaker.acquire_acquired s.guard.breaker now
  generalize (s.guard.breaker.acquire now).2.1 = issued at ha ⊢
  generalize (s.guard.breaker.acquire now).1 = b' at ha
  cases ha with
  | normal | cooled | probe => simp
  | early state now_lt => exact absurd (hnow state) (Nat.not_le_of_lt now_lt)
  | busy state inFlight => simp [hfree] at inFlight

/-- A call that passed the token check has passed it ever after. -/
theorem Step.passed {i : Nat} {pc : SubmitState} (h : Step seconds s action s') (hi : s.calls[i]? = some pc)
    (hp : pc.passed = true) : ∃ pc', s'.calls[i]? = some pc' ∧ pc'.passed = true := by
  cases h with
  | call =>
    refine ⟨pc, ?_, hp⟩
    have hlt : i < s.calls.length := (List.getElem?_eq_some_iff.1 hi).1
    simpa [List.getElem?_append_left hlt] using hi
  | @step g g' before after pc₀ pc₁ action hstep =>
    rcases Nat.lt_trichotomy i before.length with hlt | rfl | hgt
    · exact ⟨pc, by simpa [List.getElem?_append_left hlt] using hi, hp⟩
    · simp only [List.getElem?_append_right (Nat.le_refl _), Nat.sub_self,
        List.getElem?_cons_zero, Option.some.injEq] at hi ⊢
      subst hi
      exact ⟨pc₁, rfl, hstep.passed hp⟩
    · obtain ⟨k, hk⟩ : ∃ k, i - before.length = k + 1 := ⟨i - before.length - 1, by omega⟩
      refine ⟨pc, ?_, hp⟩
      simpa [List.getElem?_append_right (Nat.le_of_lt hgt), hk] using hi

/-- Every step of a call that was rejected in the end was harmless. -/
theorem Reached.rejected_harmless {i : Nat} {reason : Rejection} (h : Submits.Reached seconds history s)
    (hi : s.calls[i]? = some (.finished (.rejected reason))) {newer older : List (Submits.Action × Submits F)}
    {a : SubmitAction} {s₁ : Submits F} (hsplit : history = newer ++ (.step i a, s₁) :: older) :
    ∃ s₀, Submits.Reached seconds older s₀ ∧ Step seconds s₀ (.step i a) s₁ ∧
      Harmless seconds s₀.guard a s₁.guard := by
  subst hsplit
  obtain ⟨s₀, hr, hstep, hsteps⟩ := h.split
  refine ⟨s₀, hr, hstep, ?_⟩
  -- had it passed the token check, it would have been answered
  have hlater : ∀ pc, s₁.calls[i]? = some pc → pc.passed = false := by
    intro pc hpc
    by_contra hp
    have hlift := Steps.lift (R := fun t t' : Submits F => ∀ pc, t.calls[i]? = some pc → pc.passed = true →
        ∃ pc', t'.calls[i]? = some pc' ∧ pc'.passed = true)
      (fun t pc hpc hp => ⟨pc, hpc, hp⟩)
      (fun t u v htu huv pc hpc hp => by
        obtain ⟨pc', hpc', hp'⟩ := htu pc hpc hp
        exact huv pc' hpc' hp')
      (fun t a t' hstep pc hpc hp => hstep.passed hpc hp) hsteps
    obtain ⟨pc', hpc', hp'⟩ := hlift pc hpc (by simpa using hp)
    rw [hi, Option.some.injEq] at hpc'
    subst hpc'
    simp [SubmitState.passed] at hp'
  generalize hact : Action.step i a = action at hstep
  cases hstep with
  | call => cases hact
  | @step g g' before after pc pc' a' hstep =>
    cases hact
    exact hstep.harmless (hlater pc' (by simp))

/-- Slots and the probe's permit are held by the calls that need them and by nobody else:
no call in any order of steps leaks one, and a call that is rejected leaves the breaker's
count, its open window and the tokens alone. -/
theorem guard_permits (h : Submits.Reached seconds history s) :
    s.calls.countP (·.inProvider) ≤ s.guard.maxConcurrent ∧
    (s.guard.breaker.halfOpenInFlight = true ↔ s.calls.countP (·.holdsProbe s.guard.breaker.epoch) = 1) ∧
    s.calls.countP (·.probing) ≤ 1 ∧
    (∀ i reason, s.calls[i]? = some (.finished (.rejected reason)) → ∀ newer a s₁ older,
      history = newer ++ (.step i a, s₁) :: older → ∃ s₀, Submits.Reached seconds older s₀ ∧
        Step seconds s₀ (.step i a) s₁ ∧ Harmless seconds s₀.guard a s₁.guard) ∧
    ((∀ pc ∈ s.calls, pc.isFinished = true) → s.guard.slots = 0 ∧ s.guard.breaker.halfOpenInFlight = false ∧
      ∀ now, (s.guard.breaker.state = .opened → s.guard.breaker.openUntil ≤ now) →
        (s.guard.breaker.acquire now).2.1 ≠ none) := by
  have hs := Reached.sound h
  exact ⟨hs.inProvider_le, hs.probe_iff, hs.probing_le,
    fun i reason hi newer a s₁ older hsplit => Reached.rejected_harmless h hi hsplit, hs.idle⟩

/-- Whole seconds, for a bucket that counts in natural numbers. -/
def wholeSeconds (d : Nat) : Nat := d / 1000000000

/-- Two calls and one slot: the first is in the provider, the second was turned away. -/
theorem guard_permits_full : ∃ history, ∃ s : Submits Nat, Submits.Reached wholeSeconds history s ∧
    s.calls = [.calling ⟨0, false⟩, .finished (.rejected .bulkheadFull)] ∧
    s.calls.countP (·.inProvider) ≤ s.guard.maxConcurrent ∧ s.guard.maxConcurrent = 1 ∧
    (s.guard.breaker.halfOpenInFlight = true ↔ s.calls.countP (·.holdsProbe s.guard.breaker.epoch) = 1) := by
  have h0 : Submits.Reached wholeSeconds [] ⟨⟨1, 0, ⟨.default, .closed, 0, 0, 0, false⟩, ⟨1, 2, 2, 0⟩⟩, []⟩ :=
    .start ⟨⟨.default, rfl⟩, rfl, rfl, rfl⟩
  have h1 := h0.next .call
  have h2 := h1.next (.at [] [] .contextAlive)
  have h3 := h2.next (.at [] [] (.acquired 5 rfl))
  have h4 := h3.next (.at [] [] (.slotTaken (by decide)))
  have h5 := h4.next (.at [] [] .aliveWithSlot)
  have h6 := h5.next (.at [] [] (.allowed 6 rfl))
  have h7 := h6.next (.at [] [] .callProvider)
  have h8 := h7.next .call
  have h9 := h8.next (.at [_] [] .contextAlive)
  have h10 := h9.next (.at [_] [] (.acquired 7 rfl))
  have h11 := h10.next (.at [_] [] (.slotsFull (by decide)))
  have h12 := h11.next (.at [_] [] .cancel)
  have hp := guard_permits h12
  exact ⟨_, _, h12, rfl, hp.1, rfl, hp.2.1⟩

end Submits

end MailService
