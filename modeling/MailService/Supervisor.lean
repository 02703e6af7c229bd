import MailService.Lib.Runs
import Mathlib.Data.List.Perm.Basic
import Mathlib.Logic.Function.Basic
/-!
# The staged supervisor

`supervisor.go`. Every component runs in its own goroutine and sends its result into one
channel that all stages share. After an external cancellation the supervisor cancels one
stage at a time and waits for the results of that stage; a result of a later stage that
arrives meanwhile is counted for its own stage. After an unexpected exit it cancels all
stages and waits for all goroutines.

Results are conserved: what was received and what is in the channel are the results that
were sent, each once. A stage whose count is complete has therefore returned as a whole.
-/
open Runs

namespace MailService

/-- A component; what its `run` does is not known. -/
structure RuntimeComponent where
  name : String
  stage : Nat
  deriving DecidableEq, Repr

structure ComponentResult (ε : Type) where
  name : String
  stage : Nat
  err : Option ε
  deriving DecidableEq, Repr

/-- What `Run` returns when it does not return nil. -/
inductive RunError (ε : Type)
  /-- `component %s stopped: %w`. -/
  | stopped (name : String) (err : ε)
  /-- `ErrComponentExited`. -/
  | exited (name : String)
  | shutdownTimeout
  /-- `errors.Join(trigger, ErrShutdownTimeout)`. -/
  | joined (trigger : RunError ε)
  deriving DecidableEq, Repr

def componentExitError {ε : Type} (result : ComponentResult ε) : RunError ε :=
  match result.err with
  | some err => .stopped result.name err
  | none => .exited result.name

/-- How far a component's goroutine is. -/
inductive WorkerPhase (ε : Type)
  | running
  /-- `run` has returned; the result is not sent yet. -/
  | returned (err : Option ε)
  | sent (err : Option ε)
  /-- After `workers.Done`. -/
  | done (err : Option ε)
  deriving DecidableEq, Repr

structure Worker (ε : Type) where
  component : RuntimeComponent
  phase : WorkerPhase ε
  deriving DecidableEq, Repr

namespace Worker

variable {ε : Type}

def hasReturned (w : Worker ε) : Prop := w.phase ≠ .running

def isDone (w : Worker ε) : Prop := ∃ err, w.phase = .done err

/-- The result that it has sent. -/
def result (w : Worker ε) : Option (ComponentResult ε) :=
  match w.phase with
  | .sent err | .done err => some ⟨w.component.name, w.component.stage, err⟩
  | .running | .returned _ => none

/-- A step of a goroutine, with what it puts into the channel. -/
inductive Step : Worker ε → List (ComponentResult ε) → Worker ε → Prop
  | returns {c : RuntimeComponent} {err : Option ε} : Step ⟨c, .running⟩ [] ⟨c, .returned err⟩
  | sends {c : RuntimeComponent} {err : Option ε} :
      Step ⟨c, .returned err⟩ [⟨c.name, c.stage, err⟩] ⟨c, .sent err⟩
  | finishes {c : RuntimeComponent} {err : Option ε} : Step ⟨c, .sent err⟩ [] ⟨c, .done err⟩

variable {w w' : Worker ε} {out : List (ComponentResult ε)}

theorem Step.component (h : Step w out w') : w'.component = w.component := by cases h <;> rfl

theorem Step.result (h : Step w out w') : w'.result.toList = w.result.toList ++ out := by cases h <;> rfl

theorem Step.not_done (h : Step w out w') : ¬ w.isDone := by
  rintro ⟨err, herr⟩
  cases h <;> cases herr

theorem hasReturned_of_result {r : ComponentResult ε} (h : w.result = some r) : w.hasReturned := by
  intro hrunning
  simp [Worker.result, hrunning] at h

theorem result_stage {r : ComponentResult ε} (h : w.result = some r) : r.stage = w.component.stage := by
  unfold Worker.result at h
  split at h <;> cases h <;> rfl

theorem isDone.result (h : w.isDone) : w.result ≠ none := by
  obtain ⟨err, herr⟩ := h
  simp [Worker.result, herr]

end Worker

/-! ## Run -/

/-- What the first `select` received. -/
inductive FirstEvent (ε : Type)
  | external
  | unexpected (result : ComponentResult ε)
  deriving DecidableEq, Repr

/-- What `Run` does next. -/
inductive RunState (ε : Type)
  | waiting
  /-- About to cancel a stage, after an external cancellation. -/
  | cancelling (stage : Nat)
  /-- Waiting for the results of a stage. -/
  | collecting (stage : Nat)
  /-- About to cancel a stage, after an unexpected exit. -/
  | cancellingAll (stage : Nat)
  /-- Waiting for all goroutines. -/
  | awaiting
  /-- In the deferred cancellation, with what will be returned. -/
  | finishing (outcome : Option (RunError ε)) (stage : Nat)
  | finished (outcome : Option (RunError ε))
  deriving DecidableEq, Repr

/-- Whether the shutdown timer runs. -/
def RunState.timed {ε : Type} : RunState ε → Bool
  | cancelling _ | collecting _ | awaiting => true
  | waiting | cancellingAll _ | finishing _ _ | finished _ => false

structure Supervisor (ε : Type) where
  workers : List (Worker ε)
  /-- The channel `results`. -/
  channel : List (ComponentResult ε)
  /-- What was received from it, oldest first. -/
  collected : List (ComponentResult ε)
  completedByStage : Nat → Nat
  trigger : Option (RunError ε)
  cancelled : Nat → Bool
  timerFired : Bool
  first : Option (FirstEvent ε)
  state : RunState ε

inductive Supervisor.Action
  | worker
  | fire
  | contextDone
  | receive
  | cancel (stage : Nat)
  | stageDone
  | allDone
  | timeout
  deriving DecidableEq, Repr

section Run

variable {ε : Type} (components : List RuntimeComponent)

def maxStage : Nat := (components.map (·.stage)).foldl max 0

def stageSizes (stage : Nat) : Nat := components.countP (·.stage == stage)

/-- `trigger` of the staged loop after a result. -/
def keepTrigger (trigger : Option (RunError ε)) (result : ComponentResult ε) : Option (RunError ε) :=
  match trigger, result.err with
  | none, some err => some (.stopped result.name err)
  | trigger, _ => trigger

inductive Supervisor.Step : Supervisor ε → Supervisor.Action → Supervisor ε → Prop
  | worker {s : Supervisor ε} {before after : List (Worker ε)} {w w' : Worker ε}
      {out : List (ComponentResult ε)} :
      s.workers = before ++ w :: after → Worker.Step w out w' →
      Step s .worker { s with workers := before ++ w' :: after, channel := s.channel ++ out }
  | fire {s : Supervisor ε} : s.state.timed = true → Step s .fire { s with timerFired := true }
  | contextDone {s : Supervisor ε} : s.state = .waiting →
      Step s .contextDone { s with first := some .external, state := .cancelling 0 }
  | exited {s : Supervisor ε} {result : ComponentResult ε} {rest : List (ComponentResult ε)} :
      s.state = .waiting → s.channel = result :: rest →
      Step s .receive { s with
        channel := rest, collected := s.collected ++ [result], trigger := some (componentExitError result)
        first := some (.unexpected result), state := .cancellingAll 0 }
  | cancelAll {s : Supervisor ε} {stage : Nat} : s.state = .cancellingAll stage →
      Step s (.cancel stage) { s with
        cancelled := Function.update s.cancelled stage true
        state := if stage < maxStage components then .cancellingAll (stage + 1) else .awaiting }
  | allDone {s : Supervisor ε} : s.state = .awaiting → (∀ w ∈ s.workers, w.isDone) →
      Step s .allDone { s with state := .finishing s.trigger 0 }
  | joinTimeout {s : Supervisor ε} : s.state = .awaiting → s.timerFired = true →
      Step s .timeout { s with state := .finishing (s.trigger.map .joined) 0 }
  | cancel {s : Supervisor ε} {stage : Nat} : s.state = .cancelling stage →
      Step s (.cancel stage) { s with
        cancelled := Function.update s.cancelled stage true, state := .collecting stage }
  | collect {s : Supervisor ε} {stage : Nat} {result : ComponentResult ε} {rest : List (ComponentResult ε)} :
      s.state = .collecting stage → s.completedByStage stage < stageSizes components stage →
      s.channel = result :: rest →
      Step s .receive { s with
        channel := rest, collected := s.collected ++ [result]
        completedByStage := Function.update s.completedByStage result.stage
          (s.completedByStage result.stage + 1)
        trigger := keepTrigger s.trigger result }
  | timeout {s : Supervisor ε} {stage : Nat} : s.state = .collecting stage →
      s.completedByStage stage < stageSizes components stage → s.timerFired = true →
      Step s .timeout { s with state := .finishing (some .shutdownTimeout) 0 }
  | stageDone {s : Supervisor ε} {stage : Nat} : s.state = .collecting stage →
      ¬ s.completedByStage stage < stageSizes components stage →
      Step s .stageDone { s with
        state := if stage < maxStage components then .cancelling (stage + 1) else .finishing s.trigger 0 }
  | deferred {s : Supervisor ε} {outcome : Option (RunError ε)} {stage : Nat} :
      s.state = .finishing outcome stage →
      Step s (.cancel stage) { s with
        cancelled := Function.update s.cancelled stage true
        state := if stage < maxStage components then .finishing outcome (stage + 1) else .finished outcome }

/-- `Run` has started all components. It panics on an empty list and on a component
without a name. -/
def Supervisor.Begins (s : Supervisor ε) : Prop :=
  components ≠ [] ∧ (∀ c ∈ components, c.name ≠ "") ∧
    s = ⟨components.map (⟨·, .running⟩), [], [], fun _ => 0, none, fun _ => false, false, none, .waiting⟩

abbrev Supervisor.Reached (history : List (Supervisor.Action × Supervisor ε)) (s : Supervisor ε) : Prop :=
  Run (Supervisor.Begins components) (Supervisor.Step components) history s

end Run

/-- The first result that is not nil, as the staged loop wraps it. -/
def firstError {ε : Type} (collected : List (ComponentResult ε)) : Option (RunError ε) :=
  collected.findSome? fun result => result.err.map (.stopped result.name)

theorem firstError_concat {ε : Type} (collected : List (ComponentResult ε)) (result : ComponentResult ε) :
    firstError (collected ++ [result]) = keepTrigger (firstError collected) result := by
  unfold firstError keepTrigger
  rw [List.findSome?_append]
  cases List.findSome?
    (fun result : ComponentResult ε => result.err.map (RunError.stopped result.name)) collected with
  | some trigger => rfl
  | none => cases herr : result.err <;> simp [herr]

theorem stage_le_maxStage {components : List RuntimeComponent} {c : RuntimeComponent} (h : c ∈ components) :
    c.stage ≤ maxStage components := by
  have hfold (l : List Nat) (start : Nat) : start ≤ l.foldl max start ∧ ∀ n ∈ l, n ≤ l.foldl max start := by
    induction l generalizing start with
    | nil => simp
    | cons m l ih =>
      obtain ⟨hstart, hl⟩ := ih (max start m)
      refine ⟨Nat.le_trans (Nat.le_max_left _ _) hstart, List.forall_mem_cons.2 ⟨?_, hl⟩⟩
      exact Nat.le_trans (Nat.le_max_right _ _) hstart
  exact (hfold _ 0).2 _ (List.mem_map_of_mem h)

namespace Supervisor

variable {ε : Type} {components : List RuntimeComponent} {s s' : Supervisor ε} {action : Supervisor.Action}
  {history : List (Supervisor.Action × Supervisor ε)}

/-! ## Results are conserved -/

/-- What was received and what is in the channel are the results sent, each once. -/
structure Conserved (components : List RuntimeComponent) (s : Supervisor ε) : Prop where
  started : s.workers.map (·.component) = components
  results : (s.collected ++ s.channel).Perm (s.workers.filterMap (·.result))

theorem Conserved.received {result : ComponentResult ε} {rest : List (ComponentResult ε)}
    (h : s.Conserved components) (hc : s.channel = result :: rest) :
    ((s.collected ++ [result]) ++ rest).Perm (s.workers.filterMap (·.result)) := by
  have hres := h.results
  rwa [hc, List.append_cons] at hres

theorem Step.conserved (h : Step components s action s') (hs : s.Conserved components) :
    s'.Conserved components := by
  cases h with
  | @worker before after w w' out hworkers hstep =>
    obtain ⟨hstarted, hresults⟩ := hs
    rw [hworkers] at hstarted hresults
    refine ⟨by simpa [hstep.component] using hstarted, ?_⟩
    have hsent : (w'.result.toList ++ after.filterMap (·.result)).Perm
        (w.result.toList ++ after.filterMap (·.result) ++ out) := by
      rw [hstep.result, List.append_assoc, List.append_assoc]
      exact List.perm_append_comm.append_left _
    have hflat (v : Worker ε) : (before ++ v :: after).filterMap (·.result) =
        before.filterMap (·.result) ++ (v.result.toList ++ after.filterMap (·.result)) := by
      rw [List.filterMap_append, List.filterMap_cons]
      cases v.result <;> rfl
    change (s.collected ++ (s.channel ++ out)).Perm ((before ++ w' :: after).filterMap (·.result))
    rw [hflat, ← List.append_assoc]
    rw [hflat] at hresults
    refine (hresults.append_right out).trans ?_
    rw [List.append_assoc]
    exact hsent.symm.append_left _
  | exited _ hc => exact ⟨hs.started, hs.received hc⟩
  | collect _ _ hc => exact ⟨hs.started, hs.received hc⟩
  | _ => exact ⟨hs.started, hs.results⟩

/-- Workers of a stage that have sent their result. -/
def sentOf (workers : List (Worker ε)) (stage : Nat) : Nat :=
  workers.countP fun w => w.component.stage == stage && w.result.isSome

theorem sentOf_le (workers : List (Worker ε)) (stage : Nat) :
    sentOf workers stage ≤ workers.countP (·.component.stage == stage) :=
  List.countP_mono_left fun _ _ hw => (Bool.and_eq_true _ _ ▸ hw).1

theorem Conserved.sent (h : s.Conserved components) (stage : Nat) :
    (s.collected ++ s.channel).countP (·.stage == stage) = sentOf s.workers stage := by
  rw [h.results.countP_eq, List.countP_filterMap, sentOf]
  refine List.countP_congr fun w _ => ?_
  cases hr : w.result with
  | none => simp
  | some r => simp [Worker.result_stage hr]

theorem Conserved.sizes (h : s.Conserved components) (stage : Nat) :
    stageSizes components stage = s.workers.countP (·.component.stage == stage) := by
  rw [stageSizes, ← h.started, List.countP_map]
  rfl

theorem Conserved.collected_le (h : s.Conserved components) (stage : Nat) :
    s.collected.countP (·.stage == stage) ≤ stageSizes components stage := by
  have hsent := h.sent stage
  have hle := sentOf_le s.workers stage
  rw [List.countP_append] at hsent
  rw [h.sizes]
  omega

theorem Conserved.sent_all (h : s.Conserved components)
    (hsent : ∀ w ∈ s.workers, w.result ≠ none) (stage : Nat) :
    (s.collected ++ s.channel).countP (·.stage == stage) = stageSizes components stage := by
  rw [h.sent, h.sizes, sentOf]
  refine List.countP_congr fun w hw => ?_
  simp [Option.isSome_iff_ne_none, hsent w hw]

/-- A stage whose results were all received has returned as a whole. -/
theorem Conserved.stage_returned (h : s.Conserved components) {stage : Nat}
    (hcount : stageSizes components stage ≤ s.collected.countP (·.stage == stage)) :
    ∀ w ∈ s.workers, w.component.stage = stage → w.hasReturned := by
  have hsent := h.sent stage
  rw [List.countP_append] at hsent
  rw [h.sizes] at hcount
  have hall : s.workers.countP (·.component.stage == stage) ≤ sentOf s.workers stage := by omega
  intro w hw hstage
  by_contra hrunning
  -- a worker without a result would make the stage larger than its results
  have hnone : w.result = none := by
    cases hr : w.result with
    | none => rfl
    | some r => exact absurd (Worker.hasReturned_of_result hr) hrunning
  obtain ⟨before, after, hsplit⟩ := List.append_of_mem hw
  have hbefore := sentOf_le before stage
  have hafter := sentOf_le after stage
  rw [hsplit] at hall
  simp only [sentOf, List.countP_append, List.countP_cons, hnone, hstage, Option.isSome_none, Bool.and_false,
    beq_self_eq_true, Bool.false_eq_true, if_false, if_true] at hall hbefore hafter
  omega

/-! ## Where Run is -/

/-- All results of the stages below were received. -/
def Complete (components : List RuntimeComponent) (s : Supervisor ε) (stage : Nat) : Prop :=
  ∀ k < stage, stageSizes components k ≤ s.completedByStage k

/-- What holds after an external cancellation, by what `Run` does next. -/
def Staged (components : List RuntimeComponent) (s : Supervisor ε) : RunState ε → Prop
  | .cancelling stage => s.Complete components stage ∧ ∀ k, s.cancelled k = true → k < stage
  | .collecting stage => s.Complete components stage ∧ ∀ k, s.cancelled k = true → k ≤ stage
  | .finishing outcome _ | .finished outcome =>
    outcome = some .shutdownTimeout ∧ s.timerFired = true ∨
      outcome = s.trigger ∧ s.Complete components (maxStage components + 1)
  | .waiting | .cancellingAll _ | .awaiting => False

/-- The same after an unexpected exit. -/
def Exited (components : List RuntimeComponent) (s : Supervisor ε) : RunState ε → Prop
  | .cancellingAll stage => ∀ k < stage, s.cancelled k = true
  | .awaiting => ∀ k ≤ maxStage components, s.cancelled k = true
  | .finishing outcome _ | .finished outcome =>
    (∀ k ≤ maxStage components, s.cancelled k = true) ∧
      (outcome = s.trigger ∧ (∀ w ∈ s.workers, w.isDone) ∨
        outcome = s.trigger.map .joined ∧ s.timerFired = true)
  | .waiting | .cancelling _ | .collecting _ => False

/-- What `Run` knows, by what the first `select` received. -/
inductive Sound (components : List RuntimeComponent) (s : Supervisor ε) : Prop
  | waiting (first : s.first = none) (state : s.state = .waiting) (collected : s.collected = [])
      (counted : ∀ k, s.completedByStage k = 0) (trigger : s.trigger = none)
      (cancelled : ∀ k, s.cancelled k = false)
  | external (first : s.first = some .external)
      (counted : ∀ k, s.completedByStage k = s.collected.countP (·.stage == k))
      (trigger : s.trigger = firstError s.collected) (staged : s.Staged components s.state)
  | unexpected (result : ComponentResult ε) (first : s.first = some (.unexpected result))
      (collected : s.collected = [result]) (trigger : s.trigger = some (componentExitError result))
      (exited : s.Exited components s.state)

theorem Begins.sound (h : s.Begins components) : s.Sound components ∧ s.Conserved components := by
  obtain ⟨-, -, rfl⟩ := h
  refine ⟨.waiting rfl rfl rfl (fun _ => rfl) rfl (fun _ => rfl), ?_, ?_⟩
  · simp [Function.comp_def]
  · simp [List.filterMap_map, Worker.result]

/-- A step of a goroutine or of the timer. -/
theorem Sound.environment (hs : s.Sound components) (hcollected : s'.collected = s.collected)
    (hcompleted : s'.completedByStage = s.completedByStage) (htrigger : s'.trigger = s.trigger)
    (hcancelled : s'.cancelled = s.cancelled) (hfirst : s'.first = s.first) (hstate : s'.state = s.state)
    (htimer : s.timerFired = true → s'.timerFired = true)
    (hdone : (∀ w ∈ s.workers, w.isDone) → ∀ w ∈ s'.workers, w.isDone) : s'.Sound components := by
  cases hs with
  | waiting first state collected counted trigger cancelled =>
    exact .waiting (hfirst.trans first) (hstate.trans state) (hcollected.trans collected)
      (fun k => (congrFun hcompleted k).trans (counted k)) (htrigger.trans trigger)
      fun k => (congrFun hcancelled k).trans (cancelled k)
  | external first counted trigger staged =>
    refine .external (hfirst.trans first) (by rwa [hcompleted, hcollected])
      (by rw [htrigger, hcollected, trigger]) ?_
    rw [hstate]
    cases hst : s.state with
    | cancelling stage | collecting stage =>
      simpa only [hst, Staged, Complete, hcompleted, hcancelled] using staged
    | finishing outcome stage | finished outcome =>
      simp only [hst, Staged, Complete, hcompleted, htrigger] at staged ⊢
      exact staged.imp_left fun h => ⟨h.1, htimer h.2⟩
    | _ => simp [hst, Staged] at staged
  | unexpected result first collected trigger exited =>
    refine .unexpected result (hfirst.trans first) (hcollected.trans collected) (htrigger.trans trigger) ?_
    rw [hstate]
    cases hst : s.state with
    | cancellingAll stage | awaiting => simpa only [hst, Exited, hcancelled] using exited
    | finishing outcome stage | finished outcome =>
      simp only [hst, Exited, hcancelled, htrigger] at exited ⊢
      exact ⟨exited.1, exited.2.imp (fun h => ⟨h.1, hdone h.2⟩) fun h => ⟨h.1, htimer h.2⟩⟩
    | _ => simp [hst, Exited] at exited

theorem Step.sound (h : Step components s action s') (hs : s.Sound components) : s'.Sound components := by
  cases h with
  | @worker before after w w' out hworkers hstep =>
    refine hs.environment rfl rfl rfl rfl rfl rfl id fun hdone => ?_
    exact absurd (hdone w (by simp [hworkers])) hstep.not_done
  | fire => exact hs.environment rfl rfl rfl rfl rfl rfl (fun _ => rfl) id
  | contextDone hstate =>
    cases hs with
    | waiting first state collected counted trigger cancelled =>
      refine .external rfl (by simpa [collected] using counted)
        (by simpa [collected, firstError] using trigger) ?_
      exact ⟨fun k hk => absurd hk (Nat.not_lt_zero k), fun k hk => by simp [cancelled k] at hk⟩
    | external _ _ _ staged => simp [hstate, Staged] at staged
    | unexpected _ _ _ _ exited => simp [hstate, Exited] at exited
  | @exited result rest hstate hchannel =>
    cases hs with
    | waiting first state collected counted trigger cancelled =>
      refine .unexpected result rfl (by simp [collected]) rfl ?_
      exact fun k hk => absurd hk (Nat.not_lt_zero k)
    | external _ _ _ staged => simp [hstate, Staged] at staged
    | unexpected _ _ _ _ exited => simp [hstate, Exited] at exited
  | @cancelAll stage hstate =>
    cases hs with
    | waiting _ state => simp [hstate] at state
    | external _ _ _ staged => simp [hstate, Staged] at staged
    | unexpected result first collected trigger exited =>
      rw [hstate] at exited
      have hnow : ∀ k ≤ stage, Function.update s.cancelled stage true k = true := by
        intro k hk
        by_cases he : k = stage
        · rw [he, Function.update_self]
        · rw [Function.update_of_ne he]
          exact exited k (Nat.lt_of_le_of_ne hk he)
      refine .unexpected result first collected trigger ?_
      by_cases hmore : stage < maxStage components
      · simp only [if_pos hmore]
        exact fun k hk => hnow k (Nat.le_of_lt_succ hk)
      · simp only [if_neg hmore]
        exact fun k hk => hnow k (Nat.le_trans hk (Nat.le_of_not_lt hmore))
  | allDone hstate hdone =>
    cases hs with
    | waiting _ state => simp [hstate] at state
    | external _ _ _ staged => simp [hstate, Staged] at staged
    | unexpected result first collected trigger exited =>
      rw [hstate] at exited
      exact .unexpected result first collected trigger ⟨exited, .inl ⟨rfl, hdone⟩⟩
  | joinTimeout hstate hfired =>
    cases hs with
    | waiting _ state => simp [hstate] at state
    | external _ _ _ staged => simp [hstate, Staged] at staged
    | unexpected result first collected trigger exited =>
      rw [hstate] at exited
      exact .unexpected result first collected trigger ⟨exited, .inr ⟨rfl, hfired⟩⟩
  | @cancel stage hstate =>
    cases hs with
    | waiting _ state => simp [hstate] at state
    | unexpected _ _ _ _ exited => simp [hstate, Exited] at exited
    | external first counted trigger staged =>
      rw [hstate] at staged
      refine .external first counted trigger ⟨staged.1, fun k hk => ?_⟩
      by_cases he : k = stage
      · exact Nat.le_of_eq he
      · simp only [Function.update_of_ne he] at hk
        exact Nat.le_of_lt (staged.2 k hk)
  | @collect stage result rest hstate hless hchannel =>
    cases hs with
    | waiting _ state => simp [hstate] at state
    | unexpected _ _ _ _ exited => simp [hstate, Exited] at exited
    | external first counted trigger staged =>
      have hcounts (k : Nat) :
        Function.update s.completedByStage result.stage (s.completedByStage result.stage + 1) k =
          (s.collected ++ [result]).countP (·.stage == k) := by
        rw [List.countP_append, ← counted k]
        by_cases he : k = result.stage
        · simp [he]
        · simp [Function.update_of_ne he, Ne.symm he]
      refine .external first hcounts (by rw [firstError_concat, ← trigger]) ?_
      simp only [hstate, Staged] at staged ⊢
      refine ⟨fun k hk => Nat.le_trans (staged.1 k hk) ?_, staged.2⟩
      change _ ≤ Function.update s.completedByStage result.stage (s.completedByStage result.stage + 1) k
      rw [hcounts k, counted k, List.countP_append]
      exact Nat.le_add_right _ _
  | timeout hstate _ hfired =>
    cases hs with
    | waiting _ state => simp [hstate] at state
    | unexpected _ _ _ _ exited => simp [hstate, Exited] at exited
    | external first counted trigger staged => exact .external first counted trigger (.inl ⟨rfl, hfired⟩)
  | @stageDone stage hstate hall =>
    cases hs with
    | waiting _ state => simp [hstate] at state
    | unexpected _ _ _ _ exited => simp [hstate, Exited] at exited
    | external first counted trigger staged =>
      rw [hstate] at staged
      have hcomplete : s.Complete components (stage + 1) := by
        intro k hk
        rcases Nat.lt_succ_iff_lt_or_eq.1 hk with hlt | rfl
        · exact staged.1 k hlt
        · exact Nat.le_of_not_lt hall
      refine .external first counted trigger ?_
      by_cases hmore : stage < maxStage components
      · simp only [if_pos hmore]
        exact ⟨hcomplete, fun k hk => Nat.lt_succ_of_le (staged.2 k hk)⟩
      · simp only [if_neg hmore]
        refine .inr ⟨rfl, fun k hk => hcomplete k ?_⟩
        omega
  | @deferred outcome stage hstate =>
    cases hs with
    | waiting _ state => simp [hstate] at state
    | external first counted trigger staged =>
      rw [hstate] at staged
      refine .external first counted trigger ?_
      by_cases hmore : stage < maxStage components
      · simp only [if_pos hmore]
        exact staged
      · simp only [if_neg hmore]
        exact staged
    | unexpected result first collected trigger exited =>
      rw [hstate] at exited
      have hstill : ∀ k ≤ maxStage components, Function.update s.cancelled stage true k = true := by
        intro k hk
        by_cases he : k = stage
        · rw [he, Function.update_self]
        · rw [Function.update_of_ne he]
          exact exited.1 k hk
      refine .unexpected result first collected trigger ?_
      by_cases hmore : stage < maxStage components
      · simp only [if_pos hmore]
        exact ⟨hstill, exited.2⟩
      · simp only [if_neg hmore]
        exact ⟨hstill, exited.2⟩

theorem Reached.sound (h : Supervisor.Reached components history s) :
    s.Sound components ∧ s.Conserved components :=
  h.invariant (P := fun s => s.Sound components ∧ s.Conserved components) (fun _ => Begins.sound)
    fun _ _ _ hs hstep => ⟨hstep.sound hs.1, hstep.conserved hs.2⟩

/-! ## Shutdown -/

/-- `Run` returns `ErrShutdownTimeout`. -/
def TimedOut (s : Supervisor ε) : Prop :=
  (∃ stage, s.state = .finishing (some .shutdownTimeout) stage) ∨ s.state = .finished (some .shutdownTimeout)

/-- All results of the stages below were received, so their components have returned. -/
theorem Conserved.below_returned {stage : Nat} (h : s.Conserved components)
    (hcounted : ∀ k, s.completedByStage k = s.collected.countP (·.stage == k))
    (hc : s.Complete components stage) :
    ∀ w ∈ s.workers, w.component.stage < stage → w.hasReturned := by
  intro w hw hlt
  have hcount := hc w.component.stage hlt
  rw [hcounted] at hcount
  exact h.stage_returned hcount w hw rfl

theorem Conserved.stage_le (h : s.Conserved components) {w : Worker ε} (hw : w ∈ s.workers) :
    w.component.stage ≤ maxStage components :=
  stage_le_maxStage (h.started ▸ List.mem_map_of_mem hw)

theorem Sound.lower_returned (hs : s.Sound components) (hc : s.Conserved components)
    (hfirst : s.first = some .external) {stage : Nat} (hcancelled : s.cancelled stage = true) :
    s.TimedOut ∨ ∀ w ∈ s.workers, w.component.stage < stage → w.hasReturned := by
  cases hs with
  | waiting first => simp [hfirst] at first
  | unexpected _ first => simp [hfirst] at first
  | external _ counted trigger staged =>
    have hbelow {k : Nat} (hk : s.Complete components k) (hle : stage ≤ k) :
        ∀ w ∈ s.workers, w.component.stage < stage → w.hasReturned :=
      fun w hw hlt => hc.below_returned counted hk w hw (Nat.lt_of_lt_of_le hlt hle)
    cases hstate : s.state with
    | cancelling k =>
      rw [hstate] at staged
      exact .inr (hbelow staged.1 (Nat.le_of_lt (staged.2 stage hcancelled)))
    | collecting k =>
      rw [hstate] at staged
      exact .inr (hbelow staged.1 (staged.2 stage hcancelled))
    | finishing outcome k | finished outcome =>
      rw [hstate] at staged
      rcases staged with ⟨rfl, -⟩ | ⟨-, hall⟩
      · simp [TimedOut, hstate]
      · exact .inr fun w hw _ => hc.below_returned counted hall w hw (Nat.lt_succ_of_le (hc.stage_le hw))
    | _ => simp [hstate, Staged] at staged

theorem Sound.external_outcome (hs : s.Sound components) (hc : s.Conserved components)
    (hfirst : s.first = some .external) {outcome : Option (RunError ε)} (hstate : s.state = .finished outcome)
    (hout : outcome ≠ some .shutdownTimeout) :
    (∀ w ∈ s.workers, w.hasReturned) ∧ outcome = firstError s.collected ∧
      ∀ stage, s.collected.countP (·.stage == stage) = stageSizes components stage := by
  cases hs with
  | waiting first => simp [hfirst] at first
  | unexpected _ first => simp [hfirst] at first
  | external _ counted trigger staged =>
    rw [hstate] at staged
    rcases staged with ⟨rfl, -⟩ | ⟨rfl, hall⟩
    · exact absurd rfl hout
    · refine ⟨fun w hw => hc.below_returned counted hall w hw (Nat.lt_succ_of_le (hc.stage_le hw)),
        trigger, ?_⟩
      intro stage
      refine Nat.le_antisymm (hc.collected_le stage) ?_
      by_cases hlt : stage < maxStage components + 1
      · exact counted stage ▸ hall stage hlt
      · rw [stageSizes, List.countP_eq_zero.2]
        · exact Nat.zero_le _
        · intro c hcm
          have := stage_le_maxStage hcm
          simp only [beq_iff_eq]
          omega

theorem Sound.unexpected_outcome (hs : s.Sound components)
    {result : ComponentResult ε} (hfirst : s.first = some (.unexpected result)) :
    (s.state = .awaiting → ∀ stage ≤ maxStage components, s.cancelled stage = true) ∧
    ∀ outcome, s.state = .finished outcome → (∀ stage ≤ maxStage components, s.cancelled stage = true) ∧
      (outcome = some (componentExitError result) ∧ (∀ w ∈ s.workers, w.hasReturned) ∨
        outcome = some (.joined (componentExitError result)) ∧ s.timerFired = true) := by
  cases hs with
  | waiting first => simp [hfirst] at first
  | external first => simp [hfirst] at first
  | unexpected result' first collected trigger exited =>
    obtain rfl : result' = result := by simpa [hfirst] using first.symm
    refine ⟨fun hstate => by simpa only [hstate, Exited] using exited, fun outcome hstate => ?_⟩
    rw [hstate] at exited
    refine ⟨exited.1, exited.2.imp ?_ ?_⟩
    · rintro ⟨rfl, hdone⟩
      refine ⟨trigger, fun w hw => ?_⟩
      obtain ⟨err, herr⟩ := hdone w hw
      simp [Worker.hasReturned, herr]
    · rintro ⟨rfl, hfired⟩
      exact ⟨by rw [trigger]; rfl, hfired⟩

/-- While a stage is awaited, a result of it that was sent is in the channel: `Run` does
not wait for a result that it has already seen. -/
theorem Sound.awaited (hs : s.Sound components) (hc : s.Conserved components) {stage : Nat}
    (hstate : s.state = .collecting stage) (hless : s.completedByStage stage < stageSizes components stage)
    (hsent : ∀ w ∈ s.workers, w.result ≠ none) : ∃ r ∈ s.channel, r.stage = stage := by
  cases hs with
  | waiting _ state => simp [hstate] at state
  | unexpected _ _ _ _ exited => simp [hstate, Exited] at exited
  | external _ counted =>
    have hall := hc.sent_all hsent stage
    rw [List.countP_append, ← counted stage] at hall
    have hpos : 0 < s.channel.countP (·.stage == stage) := by omega
    obtain ⟨r, hr, hst⟩ := List.countP_pos_iff.1 hpos
    exact ⟨r, hr, by simpa using hst⟩

/-- Staged shutdown. After an external cancellation a stage is cancelled only when the
stages below have returned, unless the shutdown timed out, and `Run` returns the first
error of all components when all have returned. After an unexpected exit all stages are
cancelled, and `Run` returns the component's error when all have returned, or with the
timeout when the timer has fired. No result is lost or received twice. -/
theorem staged_shutdown (h : Supervisor.Reached components history s) :
    (s.first = some .external →
      (∀ stage, s.cancelled stage = true →
        s.TimedOut ∨ ∀ w ∈ s.workers, w.component.stage < stage → w.hasReturned) ∧
      ∀ outcome, s.state = .finished outcome → outcome ≠ some .shutdownTimeout →
        (∀ w ∈ s.workers, w.hasReturned) ∧ outcome = firstError s.collected ∧
          ∀ stage, s.collected.countP (·.stage == stage) = stageSizes components stage) ∧
    (∀ result, s.first = some (.unexpected result) →
      (s.state = .awaiting → ∀ stage ≤ maxStage components, s.cancelled stage = true) ∧
      ∀ outcome, s.state = .finished outcome → (∀ stage ≤ maxStage components, s.cancelled stage = true) ∧
        (outcome = some (componentExitError result) ∧ (∀ w ∈ s.workers, w.hasReturned) ∨
          outcome = some (.joined (componentExitError result)) ∧ s.timerFired = true)) ∧
    (s.collected ++ s.channel).Perm (s.workers.filterMap (·.result)) ∧
    ∀ stage, s.state = .collecting stage → s.completedByStage stage < stageSizes components stage →
      (∀ w ∈ s.workers, w.result ≠ none) → ∃ r ∈ s.channel, r.stage = stage := by
  obtain ⟨hs, hc⟩ := Reached.sound h
  refine ⟨fun hfirst => ⟨fun stage => hs.lower_returned hc hfirst,
    fun outcome => hs.external_outcome hc hfirst⟩, fun result hfirst => hs.unexpected_outcome hfirst,
    hc.results, ?_⟩
  intro stage hstate hless hsent
  exact hs.awaited hc hstate hless hsent

theorem Step.at {w w' : Worker ε} {out : List (ComponentResult ε)} (before after : List (Worker ε))
    (hw : s.workers = before ++ w :: after) (h : Worker.Step w out w') :
    Step components s .worker { s with workers := before ++ w' :: after, channel := s.channel ++ out } :=
  .worker hw h

/-- A component of a later stage returns before its stage is cancelled; its result is
counted when its stage is awaited. -/
theorem staged_shutdown_early : ∃ history, ∃ s : Supervisor String,
    Supervisor.Reached [⟨"relay", 0⟩, ⟨"consumer", 2⟩] history s ∧ s.first = some .external ∧
      s.collected.map (·.stage) = [2, 0] ∧ s.state = .finished (some (.stopped "relay" "lost")) ∧
      ∀ w ∈ s.workers, w.hasReturned := by
  have h0 : Supervisor.Reached (ε := String) [⟨"relay", 0⟩, ⟨"consumer", 2⟩] [] _ :=
    .start ⟨by simp, by decide, rfl⟩
  have h1 := h0.next (.contextDone rfl)
  have h2 := h1.next (.cancel rfl)
  have h3 := h2.next (.at [_] [] rfl (@Worker.Step.returns _ _ none))
  have h4 := h3.next (.at [_] [] rfl .sends)
  have h5 := h4.next (.collect rfl (by decide) rfl)
  have h6 := h5.next (.at [] [_] rfl (@Worker.Step.returns _ _ (some "lost")))
  have h7 := h6.next (.at [] [_] rfl .sends)
  have h8 := h7.next (.collect rfl (by decide) rfl)
  have h9 := h8.next (.stageDone rfl (by decide))
  have h10 := h9.next (.cancel rfl)
  have h11 := h10.next (.stageDone rfl (by decide))
  have h12 := h11.next (.cancel rfl)
  have h13 := h12.next (.stageDone rfl (by decide))
  have h14 := h13.next (.deferred rfl)
  have h15 := h14.next (.deferred rfl)
  have h16 := h15.next (.deferred rfl)
  exact ⟨_, _, h16, rfl, rfl, rfl, (((staged_shutdown h16).1 rfl).2 _ rfl nofun).1⟩

/-- When the shutdown times out, the deferred cancellation reaches a stage whose lower
stage still runs. -/
theorem timeout_cancels_all : ∃ history, ∃ s : Supervisor String,
    Supervisor.Reached [⟨"relay", 0⟩, ⟨"consumer", 1⟩] history s ∧ s.first = some .external ∧
      s.cancelled 1 = true ∧ ∃ w ∈ s.workers, w.component.stage < 1 ∧ ¬ w.hasReturned := by
  have h0 : Supervisor.Reached (ε := String) [⟨"relay", 0⟩, ⟨"consumer", 1⟩] [] _ :=
    .start ⟨by simp, by decide, rfl⟩
  have h1 := h0.next (.contextDone rfl)
  have h2 := h1.next (.cancel rfl)
  have h3 := h2.next (.fire rfl)
  have h4 := h3.next (.timeout rfl (by decide) rfl)
  have h5 := h4.next (.deferred rfl)
  have h6 := h5.next (.deferred rfl)
  exact ⟨_, _, h6, rfl, rfl, ⟨⟨"relay", 0⟩, .running⟩, by simp, by decide, fun hr => hr rfl⟩

end Supervisor

end MailService
