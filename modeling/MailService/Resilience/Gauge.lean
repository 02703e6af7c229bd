import MailService.Resilience.Guard
import Mathlib.Data.List.Nodup
import Mathlib.Logic.Function.Basic
/-!
# The circuit gauge

`observer.go` behind `guard.go`. A transition is decided under the breaker's lock and
reported after it is released, so observations of one provider reach the observer in any
order. The observer keeps the observation with the highest sequence; since every epoch
is opened by one transition and numbered by it, that is the newest one.
-/
open Checks Runs

namespace MailService

/-! ## The observer -/

structure CircuitStateObservation where
  providerKey : String
  state : CircuitState
  sequence : Nat
  deriving DecidableEq, Repr

def circuitStateValue : CircuitState → Int
  | .halfOpen => 1
  | .opened => 2
  | .closed => 0

def safeProviderKey (value : String) : String :=
  match validateProviderKey value with
  | .error _ => "unknown"
  | .ok () => value

/-- What the observer remembers of each provider, and what its gauge shows. -/
structure Observer where
  stateSequences : String → Option Nat
  circuitState : String → Option Int

def Observer.new : Observer := ⟨fun _ => none, fun _ => none⟩

def Observer.recordCircuitState (o : Observer) (observation : CircuitStateObservation) : Observer :=
  let providerKey := safeProviderKey observation.providerKey
  if (o.stateSequences providerKey).any (observation.sequence ≤ ·) then o
  else
    { stateSequences := Function.update o.stateSequences providerKey (some observation.sequence)
      circuitState := Function.update o.circuitState providerKey
        (some (circuitStateValue observation.state)) }

/-- What the observer has of the observations of one provider that were delivered. -/
inductive Observer.Latest (key : String) (o : Observer) (delivered : List CircuitStateObservation) : Prop
  | empty (none_delivered : delivered = []) (sequence : o.stateSequences key = none)
  | newest (x : CircuitStateObservation) (mem : x ∈ delivered)
      (newest : ∀ y ∈ delivered, y.sequence ≤ x.sequence)
      (sequence : o.stateSequences key = some x.sequence)
      (gauge : o.circuitState key = some (circuitStateValue x.state))

variable {key : String} {o : Observer} {x : CircuitStateObservation}
  {delivered : List CircuitStateObservation}

theorem Observer.Latest.record (h : o.Latest key delivered) (hx : safeProviderKey x.providerKey = key) :
    (o.recordCircuitState x).Latest key (delivered ++ [x]) := by
  unfold recordCircuitState
  rw [hx]
  cases h with
  | empty none_delivered sequence =>
    subst none_delivered
    simp only [sequence, Option.any_none, Bool.false_eq_true, if_false]
    exact .newest x (by simp) (by simp) (by simp) (by simp)
  | newest y mem newest sequence gauge =>
    by_cases hold : x.sequence ≤ y.sequence
    · -- an old observation is dropped
      simp only [sequence, Option.any_some, hold, decide_true, if_true]
      refine .newest y (List.mem_append_left _ mem) ?_ sequence gauge
      exact List.forall_mem_append.2 ⟨newest, by simpa using hold⟩
    · simp only [sequence, Option.any_some, hold, decide_false, Bool.false_eq_true, if_false]
      refine .newest x (by simp) ?_ (by simp) (by simp)
      intro z hz
      rcases List.mem_append.1 hz with hz | hz
      · exact Nat.le_trans (newest z hz) (Nat.le_of_not_le hold)
      · rw [List.mem_singleton.1 hz]

/-- Other providers do not matter. -/
theorem Observer.Latest.foreign (h : o.Latest key delivered) (hx : safeProviderKey x.providerKey ≠ key) :
    (o.recordCircuitState x).Latest key delivered := by
  have hframe : (o.recordCircuitState x).stateSequences key = o.stateSequences key ∧
      (o.recordCircuitState x).circuitState key = o.circuitState key := by
    simp only [recordCircuitState]
    split
    · exact ⟨rfl, rfl⟩
    · simp only [Function.update_of_ne hx.symm, and_self]
  cases h with
  | empty none_delivered sequence => exact .empty none_delivered (hframe.1.trans sequence)
  | newest y mem newest sequence gauge =>
    exact .newest y mem newest (hframe.1.trans sequence) (hframe.2.trans gauge)

/-! ## Transitions -/

/-- What a change of the breaker is told as: nothing, or the one transition that opens
the next epoch. -/
def CircuitBreaker.Announces (b : CircuitBreaker) (b' : CircuitBreaker) : Option CircuitTransition → Prop
  | none => b'.epoch = b.epoch ∧ b'.state = b.state
  | some t => t.source = b.state ∧ t.target = b'.state ∧ t.epoch = b.epoch + 1 ∧ b'.epoch = b.epoch + 1

namespace CircuitBreaker

theorem acquire_announces (b : CircuitBreaker) (now : Time) :
    b.Announces (b.acquire now).1 (b.acquire now).2.2 := by
  unfold acquire
  split
  · rename_i state
    split
    · exact ⟨rfl, rfl⟩
    · exact ⟨state.symm, rfl, rfl, rfl⟩
  · split <;> exact ⟨rfl, rfl⟩
  · exact ⟨rfl, rfl⟩

theorem cancel_announces (b : CircuitBreaker) (ticket : CircuitTicket) :
    b.Announces (b.cancel ticket) none := by
  unfold cancel
  split <;> exact ⟨rfl, rfl⟩

theorem record_announces (b : CircuitBreaker) (ticket : CircuitTicket)
    (result : ProviderResult) (now : Time) :
    b.Announces (b.record ticket result now).1 (b.record ticket result now).2 := by
  unfold record
  split
  · exact ⟨rfl, rfl⟩
  split
  · split
    · exact ⟨rfl, rfl⟩
    · split <;> exact ⟨rfl, rfl, rfl, rfl⟩
  split
  · exact ⟨rfl, rfl⟩
  split
  · exact ⟨rfl, rfl⟩
  · split
    · exact ⟨rfl, rfl, rfl, rfl⟩
    · exact ⟨rfl, rfl⟩
  · exact ⟨rfl, rfl, rfl, rfl⟩
  · exact ⟨rfl, rfl⟩

end CircuitBreaker

/-- The state in an epoch, as the announcements tell it. -/
def stateAt (announced : List CircuitTransition) : Nat → Option CircuitState
  | 0 => some .closed
  | epoch + 1 => announced[epoch]?.map (·.target)

theorem stateAt_mono {announced later : List CircuitTransition} (h : announced <+: later) {epoch : Nat}
    {state : CircuitState} (hs : stateAt announced epoch = some state) :
    stateAt later epoch = some state := by
  obtain ⟨rest, rfl⟩ := h
  cases epoch with
  | zero => exact hs
  | succ epoch =>
    simp only [stateAt, Option.map_eq_some_iff] at hs ⊢
    obtain ⟨t, ht, htarget⟩ := hs
    have hlt : epoch < announced.length := (List.getElem?_eq_some_iff.1 ht).1
    exact ⟨t, by rwa [List.getElem?_append_left hlt], htarget⟩

/-- The announcements number the epochs and each starts where the one before it ended. -/
structure Chained (b : CircuitBreaker) (announced : List CircuitTransition) : Prop where
  length : announced.length = b.epoch
  current : stateAt announced b.epoch = some b.state
  links : ∀ i t, announced[i]? = some t → t.epoch = i + 1 ∧ stateAt announced i = some t.source

variable {b b' : CircuitBreaker} {announced : List CircuitTransition} {told : Option CircuitTransition}

theorem Chained.step (h : Chained b announced) (ht : b.Announces b' told) :
    Chained b' (announced ++ told.toList) := by
  cases told with
  | none =>
    obtain ⟨hepoch, hstate⟩ := ht
    rw [Option.toList_none, List.append_nil]
    exact ⟨by rw [hepoch, h.length], by rw [hepoch, hstate, h.current], h.links⟩
  | some t =>
    obtain ⟨hsource, htarget, hepoch, hepoch'⟩ := ht
    have hgrows : announced <+: announced ++ [t] := List.prefix_append _ _
    refine ⟨by simp [h.length, hepoch'], ?_, ?_⟩
    · rw [hepoch', stateAt, ← h.length]
      simp [htarget]
    · intro i u hu
      rcases Nat.lt_trichotomy i announced.length with hlt | rfl | hgt
      · rw [Option.toList_some, List.getElem?_append_left hlt] at hu
        obtain ⟨hnumber, hfrom⟩ := h.links i u hu
        exact ⟨hnumber, stateAt_mono hgrows hfrom⟩
      · simp only [Option.toList_some, List.getElem?_concat_length, Option.some.injEq] at hu
        subst hu
        refine ⟨by rw [hepoch, h.length], stateAt_mono hgrows ?_⟩
        rw [h.length, hsource, h.current]
      · rw [Option.toList_some, List.getElem?_eq_none (by simpa using Nat.succ_le_of_lt hgt)] at hu
        cases hu

theorem Chained.epochs (h : Chained b announced) : announced.map (·.epoch) = List.range' 1 b.epoch := by
  refine List.ext_getElem? fun i => ?_
  rw [List.getElem?_map]
  cases hi : announced[i]? with
  | none =>
    have hle : announced.length ≤ i := List.getElem?_eq_none_iff.1 hi
    rw [h.length] at hle
    simp [hle]
  | some t =>
    have hlt : i < announced.length := (List.getElem?_eq_some_iff.1 hi).1
    rw [h.length] at hlt
    simp [(h.links i t hi).1, hlt, Nat.add_comm]

/-! ## Reports in any order -/

/-- The transition that a step of a call goes on to report. -/
def SubmitState.transition {F : Type} (g : Guard F) : SubmitState → SubmitAction → Option CircuitTransition
  | .acquiring, .acquire now => (g.breaker.acquire now).2.2
  | .returned ticket result, .record now => (g.breaker.record ticket result now).2
  | _, _ => none

def CircuitTransition.observation (key : String) (t : CircuitTransition) : CircuitStateObservation :=
  ⟨key, t.target, t.epoch⟩

/-- The calls of one guard, the transitions that they have to report, and the state
observations on their way to the observer. -/
structure Metered (F : Type) where
  submits : Submits F
  announced : List CircuitTransition
  pending : List CircuitStateObservation
  delivered : List CircuitStateObservation
  observer : Observer

inductive Metered.Action
  | guard (action : Submits.Action)
  | deliver (observation : CircuitStateObservation)
  /-- An observation of another provider. -/
  | foreign (observation : CircuitStateObservation)
  deriving DecidableEq, Repr

section Metered

variable {F : Type} [Add F] [Sub F] [Mul F] [One F] [LT F] [DecidableLT F] (seconds : Nat → F) (key : String)

inductive Metered.Step : Metered F → Metered.Action → Metered F → Prop
  | call {g : Guard F} {calls : List SubmitState} {announced : List CircuitTransition}
      {pending delivered : List CircuitStateObservation} {observer : Observer} :
      Step ⟨⟨g, calls⟩, announced, pending, delivered, observer⟩ (.guard .call)
        ⟨⟨g, calls ++ [.entered]⟩, announced, pending, delivered, observer⟩
  | step {g g' : Guard F} {before after : List SubmitState} {pc pc' : SubmitState} {action : SubmitAction}
      {announced : List CircuitTransition} {pending delivered : List CircuitStateObservation}
      {observer : Observer} :
      SubmitStep seconds g pc action g' pc' →
      Step ⟨⟨g, before ++ pc :: after⟩, announced, pending, delivered, observer⟩
        (.guard (.step before.length action))
        ⟨⟨g', before ++ pc' :: after⟩, announced ++ (pc.transition g action).toList,
          pending ++ (pc.transition g action).toList.map (·.observation key), delivered, observer⟩
  | deliver {submits : Submits F} {announced : List CircuitTransition} {observation : CircuitStateObservation}
      {before after delivered : List CircuitStateObservation} {observer : Observer} :
      Step ⟨submits, announced, before ++ observation :: after, delivered, observer⟩ (.deliver observation)
        ⟨submits, announced, before ++ after, delivered ++ [observation],
          observer.recordCircuitState observation⟩
  | foreign {submits : Submits F} {announced : List CircuitTransition} {observation : CircuitStateObservation}
      {pending delivered : List CircuitStateObservation} {observer : Observer} :
      safeProviderKey observation.providerKey ≠ key →
      Step ⟨submits, announced, pending, delivered, observer⟩ (.foreign observation)
        ⟨submits, announced, pending, delivered, observer.recordCircuitState observation⟩

/-- The observation that the constructor makes. -/
def initialObservation (key : String) : CircuitStateObservation := ⟨key, .closed, 0⟩

def Metered.Begins (m : Metered F) : Prop :=
  validateProviderKey key = .ok () ∧ m.submits.Begins ∧ m.announced = [] ∧
    m.pending = [initialObservation key] ∧
    m.delivered = [] ∧ m.observer = Observer.new

abbrev Metered.Reached (history : List (Metered.Action × Metered F)) (m : Metered F) : Prop :=
  Run (Metered.Begins key) (Metered.Step seconds key) history m

end Metered

section Runs

variable {F : Type} [Add F] [Sub F] [Mul F] [One F] [LT F] [DecidableLT F] {seconds : Nat → F} {key : String}
  {g g' : Guard F} {pc pc' : SubmitState} {action : SubmitAction} {m m' : Metered F}
  {history : List (Metered.Action × Metered F)}

theorem SubmitStep.announces (h : SubmitStep seconds g pc action g' pc') :
    g.breaker.Announces g'.breaker (pc.transition g action) := by
  cases h with
  | acquired now | refused now => exact g.breaker.acquire_announces now
  | @record ticket result now => exact g.breaker.record_announces ticket result now
  | cancel => exact g.breaker.cancel_announces _
  | _ => exact ⟨rfl, rfl⟩

namespace Metered

/-- Every epoch's observation is on its way or was delivered, once, and the observer has
the newest one delivered. -/
structure Sound (key : String) (m : Metered F) : Prop where
  safe : safeProviderKey key = key
  chained : Chained m.submits.guard.breaker m.announced
  emitted : (m.delivered ++ m.pending).Perm (initialObservation key :: m.announced.map (·.observation key))
  latest : m.observer.Latest key m.delivered

omit [Add F] [Sub F] [Mul F] [One F] [LT F] [DecidableLT F] in
theorem Begins.sound (h : m.Begins key) : m.Sound key := by
  obtain ⟨hkey, ⟨⟨config, hnew⟩, -⟩, hannounced, hpending, hdelivered, hobserver⟩ := h
  simp only [newCircuitBreaker, bind_eq_ok, pure_eq_ok] at hnew
  obtain ⟨-, -, hbreaker⟩ := hnew
  refine ⟨by simp [safeProviderKey, hkey], ?_, ?_, ?_⟩
  · rw [hannounced, ← hbreaker]
    exact ⟨rfl, rfl, by simp⟩
  · simp [hannounced, hpending, hdelivered]
  · rw [hdelivered, hobserver]
    exact .empty rfl rfl

theorem Step.sound {a : Metered.Action} (h : Step seconds key m a m') (hs : m.Sound key) : m'.Sound key := by
  cases h with
  | call => exact ⟨hs.safe, hs.chained, hs.emitted, hs.latest⟩
  | @step g g' before after pc pc' action announced pending delivered observer hstep =>
    refine ⟨hs.safe, hs.chained.step hstep.announces, ?_, hs.latest⟩
    have hperm : (delivered ++ pending).Perm
        (initialObservation key :: announced.map (·.observation key)) := hs.emitted
    simpa [← List.append_assoc] using hperm.append_right
      ((pc.transition g action).toList.map (·.observation key))
  | @deliver submits announced observation before after delivered observer =>
    have hperm : (delivered ++ (before ++ observation :: after)).Perm
        (initialObservation key :: announced.map (·.observation key)) := hs.emitted
    have hkey : safeProviderKey observation.providerKey = key := by
      have hmem : observation ∈ initialObservation key :: announced.map (·.observation key) :=
        hperm.mem_iff.1 (by simp)
      rcases List.mem_cons.1 hmem with rfl | hmem
      · exact hs.safe
      · obtain ⟨t, -, rfl⟩ := List.mem_map.1 hmem
        exact hs.safe
    refine ⟨hs.safe, hs.chained, List.Perm.trans ?_ hperm, hs.latest.record hkey⟩
    rw [List.append_assoc, List.singleton_append]
    exact List.perm_middle.symm.append_left delivered
  | foreign hne => exact ⟨hs.safe, hs.chained, hs.emitted, hs.latest.foreign hne⟩

theorem Reached.sound (h : Metered.Reached seconds key history m) : m.Sound key :=
  h.invariant (fun _ => Begins.sound) fun _ _ _ hs hstep => hstep.sound hs

theorem Step.grows {a : Metered.Action} (h : Step seconds key m a m') : m.announced <+: m'.announced := by
  cases h with
  | step hstep => exact List.prefix_append _ _
  | _ => exact List.prefix_refl _

omit [Add F] [Sub F] [Mul F] [One F] [LT F] [DecidableLT F] in
/-- Sequences are never used twice. -/
theorem Sound.sequences (hs : m.Sound key) : ((m.delivered ++ m.pending).map (·.sequence)).Nodup := by
  refine (hs.emitted.map _).nodup_iff.2 ?_
  have hmap : (m.announced.map (·.observation key)).map (·.sequence) = m.announced.map (·.epoch) := by
    rw [List.map_map]
    rfl
  rw [List.map_cons, hmap, hs.chained.epochs, List.nodup_cons]
  refine ⟨?_, List.nodup_range'⟩
  simp [initialObservation, List.mem_range'_1]

omit [Add F] [Sub F] [Mul F] [One F] [LT F] [DecidableLT F] in
/-- The gauge shows the newest observation that was delivered. -/
theorem Sound.gauge (hs : m.Sound key) {x : CircuitStateObservation} (hx : x ∈ m.delivered)
    (hnewest : ∀ y ∈ m.delivered, y.sequence ≤ x.sequence) :
    m.observer.circuitState key = some (circuitStateValue x.state) := by
  cases hs.latest with
  | empty none_delivered => simp [none_delivered] at hx
  | newest y mem newest sequence gauge =>
    have hseq : x.sequence = y.sequence := Nat.le_antisymm (newest x hx) (hnewest y mem)
    have hxy : x = y := List.inj_on_of_nodup_map hs.sequences (List.mem_append_left _ hx)
      (List.mem_append_left _ mem) hseq
    rw [hxy, gauge]

omit [Add F] [Sub F] [Mul F] [One F] [LT F] [DecidableLT F] in
/-- The observation of the current epoch, and that none is newer. -/
theorem Sound.current (hs : m.Sound key) :
    ⟨key, m.submits.guard.breaker.state, m.submits.guard.breaker.epoch⟩ ∈ m.delivered ++ m.pending ∧
      ∀ y ∈ m.delivered ++ m.pending, y.sequence ≤ m.submits.guard.breaker.epoch := by
  constructor
  · rw [hs.emitted.mem_iff]
    have hcurrent := hs.chained.current
    cases hepoch : m.submits.guard.breaker.epoch with
    | zero =>
      rw [hepoch, stateAt, Option.some.injEq] at hcurrent
      rw [← hcurrent]
      exact List.mem_cons_self
    | succ epoch =>
      rw [hepoch, stateAt, Option.map_eq_some_iff] at hcurrent
      obtain ⟨t, ht, htarget⟩ := hcurrent
      refine List.mem_cons_of_mem _ (List.mem_map.2 ⟨t, List.mem_of_getElem? ht, ?_⟩)
      rw [CircuitTransition.observation, htarget, (hs.chained.links epoch t ht).1]
  · intro y hy
    rcases List.mem_cons.1 (hs.emitted.mem_iff.1 hy) with rfl | hy
    · exact Nat.zero_le _
    · obtain ⟨t, ht, rfl⟩ := List.mem_map.1 hy
      obtain ⟨i, hi⟩ := List.mem_iff_getElem?.1 ht
      have hlt : i < m.announced.length := (List.getElem?_eq_some_iff.1 hi).1
      rw [hs.chained.length] at hlt
      have hnumber : t.epoch = i + 1 := (hs.chained.links i t hi).1
      change t.epoch ≤ _
      omega

/-- At an earlier moment of a run its announcements were a beginning of the later ones. -/
theorem Reached.earlier {newer older : List (Metered.Action × Metered F)}
    (h : Metered.Reached seconds key (newer ++ older) m) (h' : Metered.Reached seconds key older m') :
    m'.announced <+: m.announced := by
  cases older with
  | nil =>
    cases h' with
    | start hbegins =>
      obtain ⟨-, -, hnone, -⟩ := hbegins
      exact hnone ▸ List.nil_prefix
  | cons e older =>
    cases h' with
    | next _ _ =>
      obtain ⟨-, -, -, hsteps⟩ := h.split
      exact Steps.lift (R := fun t u : Metered F => t.announced <+: u.announced) (fun t => List.prefix_refl _)
        (fun t u v htu huv => htu.trans huv) (fun t a t' hstep => hstep.grows) hsteps

/-- In whatever order observations arrive, the gauge shows the newest one delivered, and
with all of them the breaker's state. Every epoch was announced by one transition, from
the state that the breaker had at every moment of the epoch before. -/
theorem gauge_converges (h : Metered.Reached seconds key history m) :
    (∀ x ∈ m.delivered, (∀ y ∈ m.delivered, y.sequence ≤ x.sequence) →
      m.observer.circuitState key = some (circuitStateValue x.state)) ∧
    (m.pending = [] → m.observer.circuitState key = some (circuitStateValue m.submits.guard.breaker.state)) ∧
    m.announced.map (·.epoch) = List.range' 1 m.submits.guard.breaker.epoch ∧
    ∀ t ∈ m.announced, ∀ newer older m', history = newer ++ older → Metered.Reached seconds key older m' →
      m'.submits.guard.breaker.epoch + 1 = t.epoch → t.source = m'.submits.guard.breaker.state := by
  have hs := Reached.sound h
  refine ⟨fun x hx hnewest => hs.gauge hx hnewest, ?_, hs.chained.epochs, ?_⟩
  · intro hpending
    obtain ⟨hmem, hnewest⟩ := hs.current
    rw [hpending, List.append_nil] at hmem hnewest
    exact hs.gauge hmem hnewest
  · rintro t ht newer older m' rfl h' hepoch
    obtain ⟨i, hi⟩ := List.mem_iff_getElem?.1 ht
    obtain ⟨hnumber, hsource⟩ := hs.chained.links i t hi
    have hi' : m'.submits.guard.breaker.epoch = i := by omega
    have hcurrent := stateAt_mono (Reached.earlier h h') (Reached.sound h').chained.current
    rw [hi', hsource, Option.some.injEq] at hcurrent
    exact hcurrent

theorem Step.at {announced : List CircuitTransition} {pending delivered : List CircuitStateObservation}
    {observer : Observer} (before after : List SubmitState) (h : SubmitStep seconds g pc action g' pc') :
    Step seconds key ⟨⟨g, before ++ pc :: after⟩, announced, pending, delivered, observer⟩
      (.guard (.step before.length action))
      ⟨⟨g', before ++ pc' :: after⟩, announced ++ (pc.transition g action).toList,
        pending ++ (pc.transition g action).toList.map (·.observation key), delivered, observer⟩ := .step h

theorem Step.arrives {submits : Submits F} {announced : List CircuitTransition} {x : CircuitStateObservation}
    {delivered : List CircuitStateObservation} {observer : Observer}
    (before after : List CircuitStateObservation) :
    Step seconds key ⟨submits, announced, before ++ x :: after, delivered, observer⟩ (.deliver x)
      ⟨submits, announced, before ++ after, delivered ++ [x], observer.recordCircuitState x⟩ := .deliver

/-- The circuit opens and half opens, and the newest observation arrives first: the gauge
shows it and keeps it. -/
theorem gauge_converges_reordered : ∃ history, ∃ m : Metered Nat,
    Metered.Reached Submits.wholeSeconds "smtp" history m ∧ m.delivered.map (·.sequence) = [2, 0, 1] ∧
    m.pending = [] ∧ m.submits.guard.breaker.state = .halfOpen ∧
    m.observer.circuitState "smtp" = some (circuitStateValue m.submits.guard.breaker.state) := by
  have h0 : Metered.Reached Submits.wholeSeconds "smtp" [] ⟨⟨⟨1, 0, ⟨.default, .closed, 0, 0, 0, false⟩,
      ⟨1, 2, 2, 0⟩⟩, []⟩, [], [initialObservation "smtp"], [], Observer.new⟩ :=
    .start ⟨by decide +kernel, ⟨⟨.default, rfl⟩, rfl, rfl, rfl⟩, rfl, rfl, rfl, rfl⟩
  have h1 := h0.next .call
  have h2 := h1.next (.at [] [] .contextAlive)
  have h3 := h2.next (.at [] [] (.acquired 5 rfl))
  have h4 := h3.next (.at [] [] (.slotTaken (by decide)))
  have h5 := h4.next (.at [] [] .aliveWithSlot)
  have h6 := h5.next (.at [] [] (.allowed 6 rfl))
  have h7 := h6.next (.at [] [] .callProvider)
  have h8 := h7.next (.at [] [] (@SubmitStep.providerReturned _ _ _ _ _ _ _ _ _ _
    ⟨.failed, "", some ⟨.authentication, "DENIED", false⟩⟩))
  have h9 := h8.next (.at [] [] (.record 7))
  have h10 := h9.next .call
  have h11 := h10.next (.at [_] [] .contextAlive)
  have h12 := h11.next (.at [_] [] (@SubmitStep.acquired _ _ _ _ _ _ _ _ _ ⟨2, true⟩ (7 + 30 * 1000000000)
    (by decide +kernel)))
  have h13 := h12.next (.arrives [_, _] [])
  have h14 := h13.next (.arrives [] [_])
  have h15 := h14.next (.arrives [] [])
  exact ⟨_, _, h15, rfl, rfl, rfl, (gauge_converges h15).2.1 rfl⟩

end Metered

end Runs

end MailService
