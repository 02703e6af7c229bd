import MailService.Resilience.Breaker
/-!
# The breaker keeps its rules

What the breaker is for, in terms of the calls that were made: it opens when
enough failures in a row were observed in one epoch, admits nothing until the
cooldown after that has passed, and then lets one probe decide. A result that
comes back after its epoch has ended decides nothing.
-/
open Checks Runs

namespace MailService

namespace Circuit

variable {c c' : Circuit} {call : CircuitCall} {calls : List (CircuitCall × Circuit)}

/-- The failures recorded with tickets of an epoch since the last healthy result of it. -/
def recentFailures (epoch : Nat) : List (CircuitCall × Circuit) → Nat
  | [] => 0
  | (.record ticket result _, _) :: calls =>
    if ticket.epoch = epoch then
      match classifyCircuitResult result with
      | .healthy => 0
      | .failure => recentFailures epoch calls + 1
      | .immediateFailure | .ignored => recentFailures epoch calls
    else recentFailures epoch calls
  | _ :: calls => recentFailures epoch calls

/-- The record that opened the circuit was made at `opening`. -/
def OpenedAt (calls : List (CircuitCall × Circuit)) (c : Circuit) (opening : Time) : Prop :=
  ∃ newer ticket result c₁ older c₀, calls = newer ++ (.record ticket result opening, c₁) :: older ∧
    Circuit.Reached older c₀ ∧ Step c₀ (.record ticket result opening) c₁ ∧
    c₀.breaker.state ≠ .opened ∧ c₁.breaker.state = .opened ∧ c₁.breaker.epoch = c.breaker.epoch

/-- The rules of one step. -/
structure StepConforms (c : Circuit) (call : CircuitCall) (c' : Circuit) : Prop where
  opens : c.breaker.state = .closed → (c'.breaker.state = .opened ↔ ∃ ticket result now,
    call = .record ticket result now ∧ ticket.epoch = c.breaker.epoch ∧
      (classifyCircuitResult result = .immediateFailure ∨ classifyCircuitResult result = .failure ∧
        c.breaker.config.failureThreshold ≤ c.breaker.consecutiveFails + 1))
  notHalfOpen : c.breaker.state = .closed → c'.breaker.state ≠ .halfOpen
  closes : c.breaker.state = .halfOpen → (c'.breaker.state = .closed ↔ ∃ ticket result now,
    call = .record ticket result now ∧ ticket.epoch = c.breaker.epoch ∧ ticket.halfOpen = true ∧
      classifyCircuitResult result = .healthy)
  reopens : c.breaker.state = .halfOpen → (c'.breaker.state = .opened ↔ ∃ ticket result now,
    call = .record ticket result now ∧ ticket.epoch = c.breaker.epoch ∧ ticket.halfOpen = true ∧
      classifyCircuitResult result ≠ .healthy)
  stale : ∀ ticket result now, call = .record ticket result now → ticket.epoch < c.breaker.epoch →
    c'.breaker = c.breaker
  epoch : c'.breaker.epoch = c.breaker.epoch + if c'.breaker.state = c.breaker.state then 0 else 1

theorem Sound.stepConforms (hs : c.Sound) (h : Step c call c') : StepConforms c call c' := by
  cases h with
  | @acquire b before after now =>
    have ha := CircuitBreaker.acquire_acquired b now
    generalize (b.acquire now).2.1 = issued at ha ⊢
    generalize (b.acquire now).1 = b' at ha ⊢
    cases ha with
    | normal state | early state _ | busy state _ | probe state _ | cooled state _ =>
      constructor <;> simp [state]
  | @cancel b before after ticket =>
    have hstate : (b.cancel ticket).state = b.state := by
      unfold CircuitBreaker.cancel
      split <;> rfl
    have hepoch : (b.cancel ticket).epoch = b.epoch := by
      unfold CircuitBreaker.cancel
      split <;> rfl
    constructor <;> simp +contextual [hstate, hepoch]
  | @record b before after ticket result now =>
    have hr := CircuitBreaker.record_recorded b ticket result now
    generalize (b.record ticket result now).1 = b' at hr ⊢
    cases hr with
    | stale epoch => constructor <;> simp +contextual [epoch]
    | unmatched epoch state => exact absurd state (hs.matched epoch)
    | probeSucceeded epoch probe state inFlight healthy =>
      constructor <;> simp [state, epoch, probe, healthy, CircuitBreaker.close]
    | probeFailed epoch probe state inFlight unhealthy =>
      constructor <;> simp [state, epoch, probe, unhealthy, CircuitBreaker.trip]
    | healthy epoch normal state healthy => constructor <;> simp [state, epoch, healthy]
    | failed epoch normal state failure below => constructor <;> simp [state, epoch, failure, below]
    | tripped epoch normal state enough =>
      constructor <;> simp [state, epoch, CircuitBreaker.trip]
      exact enough
    | ignored epoch normal state ignored => constructor <;> simp [state, epoch, ignored]

/-! ## Histories -/

/-- Nothing was recorded in an epoch that is yet to come. -/
def Records (calls : List (CircuitCall × Circuit)) (epoch : Nat) : Prop :=
  ∀ ticket result now c, (.record ticket result now, c) ∈ calls → ticket.epoch ≤ epoch

theorem recentFailures_of_new {epoch epoch' : Nat} (h : Records calls epoch) (hlt : epoch < epoch') :
    recentFailures epoch' calls = 0 := by
  induction calls with
  | nil => rfl
  | cons entry calls ih =>
    have ih := ih fun ticket result now c hmem => h ticket result now c (List.mem_cons_of_mem _ hmem)
    obtain ⟨call, c⟩ := entry
    cases call with
    | record ticket result now =>
      have hle := h ticket result now c List.mem_cons_self
      rw [recentFailures, if_neg (by omega), ih]
    | acquire => exact ih
    | cancel => exact ih

/-- What the history says of a reached circuit. -/
structure Told (calls : List (CircuitCall × Circuit)) (c : Circuit) : Prop where
  records : Records calls c.breaker.epoch
  failures : c.breaker.state = .closed → c.breaker.consecutiveFails = recentFailures c.breaker.epoch calls
  opened : c.breaker.state = .opened →
    ∃ opening, OpenedAt calls c opening ∧ c.breaker.openUntil = opening + c.breaker.config.openDuration

theorem OpenedAt.later {opening : Time} (h : OpenedAt calls c opening)
    (he : c'.breaker.epoch = c.breaker.epoch) :
    OpenedAt ((call, c') :: calls) c' opening := by
  obtain ⟨newer, ticket, result, c₁, older, c₀, rfl, hr, hstep, h0, h1, hepoch⟩ := h
  exact ⟨(call, c') :: newer, ticket, result, c₁, older, c₀, rfl, hr, hstep, h0, h1, hepoch.trans he.symm⟩

/-- A call that records nothing new about the provider. -/
theorem Told.kept (h : Told calls c) (hrecords : Records ((call, c') :: calls) c'.breaker.epoch)
    (hb : c'.breaker.state = c.breaker.state ∧ c'.breaker.epoch = c.breaker.epoch ∧
      c'.breaker.consecutiveFails = c.breaker.consecutiveFails ∧ c'.breaker.openUntil = c.breaker.openUntil ∧
      c'.breaker.config = c.breaker.config)
    (hf : recentFailures c.breaker.epoch ((call, c') :: calls) = recentFailures c.breaker.epoch calls) :
    Told ((call, c') :: calls) c' := by
  obtain ⟨hstate, hepoch, hfails, huntil, hconfig⟩ := hb
  refine ⟨hrecords, fun hs => ?_, fun hs => ?_⟩
  · rw [hepoch, hf, hfails]
    exact h.failures (hstate ▸ hs)
  · obtain ⟨opening, hop, hu⟩ := h.opened (hstate ▸ hs)
    exact ⟨opening, hop.later hepoch, by rw [huntil, hconfig, hu]⟩

theorem Records.cons (call : CircuitCall) (h : Records calls c.breaker.epoch)
    (hle : c.breaker.epoch ≤ c'.breaker.epoch)
    (hnew : ∀ ticket result now, call = .record ticket result now → ticket.epoch ≤ c'.breaker.epoch) :
    Records ((call, c') :: calls) c'.breaker.epoch := by
  intro ticket result now x hmem
  rcases List.mem_cons.1 hmem with heq | hold
  · simp only [Prod.mk.injEq] at heq
    exact hnew ticket result now heq.1.symm
  · exact Nat.le_trans (h ticket result now x hold) hle

theorem Told.step (h : Told calls c) (hr : Circuit.Reached calls c) (hs : c.Sound) (hstep : Step c call c') :
    Told ((call, c') :: calls) c' := by
  have hconf := hs.stepConforms hstep
  have hle : c.breaker.epoch ≤ c'.breaker.epoch := by
    rw [hconf.epoch]
    exact Nat.le_add_right _ _
  have hstep' := hstep
  cases hstep with
  | @acquire b before after now =>
    have hrecords := h.records.cons (.acquire now (b.acquire now).2.1) hle (by simp)
    have ha := CircuitBreaker.acquire_acquired b now
    generalize (b.acquire now).2.1 = issued at *
    generalize (b.acquire now).1 = b' at *
    cases ha with
    | normal state | early state _ | busy state _ | probe state _ =>
      exact h.kept hrecords ⟨rfl, rfl, rfl, rfl, rfl⟩ rfl
    | cooled state le_now => exact ⟨hrecords, by simp, by simp⟩
  | @cancel b before after ticket =>
    have hrecords := h.records.cons (.cancel ticket) hle (by simp)
    refine h.kept hrecords ?_ rfl
    unfold CircuitBreaker.cancel
    split <;> exact ⟨rfl, rfl, rfl, rfl, rfl⟩
  | @record b before after ticket result now =>
    have hfits := hs.tickets ticket (by simp)
    have hrecords := h.records.cons (.record ticket result now) hle (by
      rintro t r n ⟨⟩
      exact Nat.le_trans hfits.past hle)
    have hrec := CircuitBreaker.record_recorded b ticket result now
    generalize (b.record ticket result now).1 = b' at *
    cases hrec with
    | stale epoch => exact h.kept hrecords ⟨rfl, rfl, rfl, rfl, rfl⟩ (by simp [recentFailures, epoch])
    | unmatched epoch state => exact absurd state (hs.matched epoch)
    | probeSucceeded epoch probe state inFlight healthy =>
      refine ⟨hrecords, fun _ => ?_, by simp [CircuitBreaker.close]⟩
      have hold : Records calls b.epoch := h.records
      simp only [CircuitBreaker.close, recentFailures, epoch]
      rw [if_neg (by omega), recentFailures_of_new hold (Nat.lt_succ_self _)]
    | probeFailed epoch probe state inFlight unhealthy =>
      refine ⟨hrecords, by simp [CircuitBreaker.trip], fun _ => ⟨now, ?_, rfl⟩⟩
      exact ⟨[], ticket, result, _, calls, _, rfl, hr, hstep', by simp [state], rfl, rfl⟩
    | healthy epoch normal state healthy =>
      refine ⟨hrecords, fun _ => ?_, by simp [state]⟩
      simp [recentFailures, epoch, healthy]
    | failed epoch normal state failure below =>
      refine ⟨hrecords, fun _ => ?_, by simp [state]⟩
      have hfails : b.consecutiveFails = recentFailures b.epoch calls := h.failures state
      simp [recentFailures, epoch, failure, hfails]
    | tripped epoch normal state enough =>
      refine ⟨hrecords, by simp [CircuitBreaker.trip], fun _ => ⟨now, ?_, rfl⟩⟩
      exact ⟨[], ticket, result, _, calls, _, rfl, hr, hstep', by simp [state], rfl, rfl⟩
    | ignored epoch normal state ignored =>
      exact h.kept hrecords ⟨rfl, rfl, rfl, rfl, rfl⟩ (by simp [recentFailures, epoch, ignored])

theorem Begins.told (h : c.Begins) : Told [] c := by
  obtain ⟨⟨config, hnew⟩, -⟩ := h
  simp only [newCircuitBreaker, bind_eq_ok, pure_eq_ok] at hnew
  obtain ⟨_, -, hb⟩ := hnew
  refine ⟨by simp [Records], ?_, ?_⟩ <;> simp [← hb, recentFailures]

theorem Reached.told (h : Circuit.Reached calls c) : Told calls c :=
  h.induct (P := Told) (fun _ => Begins.told) fun _ _ _ _ hr ht hstep => ht.step hr (Reached.sound hr) hstep

/-- The rules of the breaker: how it counts, when it opens, how long it stays open and
what decides after that. -/
structure Conforms (calls : List (CircuitCall × Circuit)) (c : Circuit) : Prop where
  counts : c.breaker.state = .closed → c.breaker.consecutiveFails = recentFailures c.breaker.epoch calls ∧
    c.breaker.consecutiveFails < c.breaker.config.failureThreshold
  cooldown : c.breaker.state = .opened → ∃ opening, OpenedAt calls c opening ∧
    (∀ now, (c.breaker.acquire now).2.1 ≠ none → opening + c.breaker.config.openDuration ≤ now) ∧
    ∀ call c', Step c call c' → c'.breaker.state ≠ .opened → c'.breaker.state = .halfOpen ∧
      ∃ now ticket, call = .acquire now (some ticket) ∧ opening + c.breaker.config.openDuration ≤ now
  step : ∀ call c', Step c call c' → StepConforms c call c'

theorem circuit_conforms (h : Circuit.Reached calls c) : Conforms calls c := by
  have hs := Reached.sound h
  have ht := Reached.told h
  refine ⟨fun hstate => ⟨ht.failures hstate, hs.fails⟩, fun hstate => ?_,
    fun call c' hstep => hs.stepConforms hstep⟩
  obtain ⟨opening, hop, huntil⟩ := ht.opened hstate
  refine ⟨opening, hop, fun now hne => ?_, fun call c' hstep hne => ?_⟩
  · rw [← huntil]
    have ha := CircuitBreaker.acquire_acquired c.breaker now
    generalize (c.breaker.acquire now).2.1 = issued at ha hne
    generalize (c.breaker.acquire now).1 = b' at ha
    cases ha with
    | early _ _ => simp at hne
    | cooled _ le_now => exact le_now
    | normal state | busy state _ | probe state _ => simp [hstate] at state
  · rw [← huntil]
    cases hstep with
    | @acquire b before after now =>
      have ha := CircuitBreaker.acquire_acquired b now
      generalize (b.acquire now).2.1 = issued at ha ⊢
      generalize (b.acquire now).1 = b' at ha hne ⊢
      have hstate' : b.state = .opened := hstate
      cases ha with
      | early _ _ => exact absurd hstate hne
      | cooled _ le_now => exact ⟨rfl, now, _, rfl, le_now⟩
      | normal state | busy state _ | probe state _ => simp [hstate'] at state
    | @cancel b before after ticket =>
      refine absurd ?_ hne
      unfold CircuitBreaker.cancel
      split <;> exact hstate
    | @record b before after ticket result now =>
      have hrec := CircuitBreaker.record_recorded b ticket result now
      generalize (b.record ticket result now).1 = b' at hrec hne ⊢
      have hstate' : b.state = .opened := hstate
      cases hrec with
      | stale | unmatched => exact absurd hstate hne
      | probeSucceeded _ _ state | probeFailed _ _ state | healthy _ _ state
      | failed _ _ state | tripped _ _ state
      | ignored _ _ state => simp [hstate'] at state

/-- A breaker that opens at the first failure, after one. -/
theorem circuit_conforms_opened : ∃ calls c, Circuit.Reached calls c ∧ c.breaker.state = .opened ∧
    c.breaker.epoch = 1 ∧ Conforms calls c := by
  have h0 : Circuit.Reached [] ⟨⟨⟨1, 1000000000⟩, .closed, 0, 0, 0, false⟩, []⟩ :=
    .start ⟨⟨⟨1, 1000000000⟩, rfl⟩, rfl⟩
  have h1 := h0.next (@Step.acquire _ [] [] 5)
  have h2 := h1.next (@Step.record _ [] [] ⟨0, false⟩ ⟨.failed, "", some ⟨.network, "DOWN", true⟩⟩ 7)
  exact ⟨_, _, h2, by decide, by decide, circuit_conforms h2⟩

end Circuit

end MailService
