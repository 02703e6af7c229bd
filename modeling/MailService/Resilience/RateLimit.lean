import MailService.Lib.Bucket
import MailService.Resilience.Guard
import Mathlib.Algebra.Order.Ring.Rat
import Mathlib.Data.Rat.Cast.Order
import Mathlib.Tactic.FieldSimp
/-!
# The rate limit

`allow` in exact numbers. Callers read the clock before they take the lock, so the
readings of successive calls may go back; the bucket goes by the latest reading it
has seen. Along that time it is an ideal bucket: it refills lazily and loses nothing
by it, so the window bound of the ideal bucket is the bound of the guard.
-/
open Checks TokenBuckets

namespace MailService

/-! ## The constructor -/

/-- `Config`, with its rate as an exact number. -/
structure GuardConfig where
  maxConcurrent : Nat
  ratePerSecond : ℚ
  burst : Nat
  circuit : CircuitConfig
  deriving DecidableEq, Repr

def GuardConfig.default : GuardConfig := ⟨2, 1, 2, .default⟩

def GuardConfig.validate (c : GuardConfig) : Except InvalidConfig Unit := do
  check (c.maxConcurrent ≠ 0 ∧ c.maxConcurrent ≤ 10000) ⟨"max concurrent must be in range 1..10000"⟩
  check (1 / 1000 ≤ c.ratePerSecond ∧ c.ratePerSecond ≤ 100000)
    ⟨"rate per second must be finite and in range 0.001..100000"⟩
  check (c.burst ≠ 0 ∧ c.burst ≤ 100000) ⟨"burst must be in range 1..100000"⟩
  c.circuit.validate

/-- `newWithClockAndObserver` for a provider that is there; `now` is what the clock reads. -/
def newGuard (config : GuardConfig) (now : Time) : Except InvalidConfig (Guard ℚ) := do
  config.validate
  let breaker ← newCircuitBreaker config.circuit
  pure ⟨config.maxConcurrent, 0, breaker, ⟨config.ratePerSecond, config.burst, config.burst, now⟩⟩

theorem newGuard_ok {config : GuardConfig} {now : Time} {g : Guard ℚ} (h : newGuard config now = .ok g) :
    g.bucket = ⟨config.ratePerSecond, config.burst, config.burst, now⟩ ∧ 0 ≤ config.ratePerSecond := by
  simp only [newGuard, bind_eq_ok, pure_eq_ok] at h
  obtain ⟨_, hvalid, breaker, -, rfl⟩ := h
  simp only [GuardConfig.validate, check_bind_eq_ok] at hvalid
  obtain ⟨-, ⟨hrate, -⟩, -, -⟩ := hvalid
  exact ⟨rfl, le_trans (by norm_num) hrate⟩

/-! ## Calls of allow -/

/-- `Duration.Seconds`. -/
def exactSeconds (d : Nat) : ℚ := d / 1000000000

theorem exactSeconds_nonneg (d : Nat) : 0 ≤ exactSeconds d := by
  unfold exactSeconds
  positivity

@[simp] theorem exactSeconds_zero : exactSeconds 0 = 0 := by simp [exactSeconds]

theorem exactSeconds_add (d e : Nat) : exactSeconds (d + e) = exactSeconds d + exactSeconds e := by
  unfold exactSeconds
  rw [Nat.cast_add, add_div]

/-- The largest clock reading seen so far. -/
def latest (start : Time) (readings : List Time) : Time := readings.foldl max start

theorem le_latest (start : Time) (readings : List Time) : start ≤ latest start readings := by
  induction readings generalizing start with
  | nil => exact Nat.le_refl _
  | cons now readings ih => exact Nat.le_trans (Nat.le_max_left _ _) (ih _)

theorem latest_append (start : Time) (before after : List Time) :
    latest start (before ++ after) = latest (latest start before) after := List.foldl_append

/-- The seconds by which each reading moves the latest one. -/
def gaps (start : Time) : List Time → List ℚ
  | [] => []
  | now :: readings => exactSeconds (max start now - start) :: gaps (max start now) readings

theorem gaps_nonneg (start : Time) (readings : List Time) : ∀ t ∈ gaps start readings, 0 ≤ t := by
  induction readings generalizing start with
  | nil => simp [gaps]
  | cons now readings ih => exact List.forall_mem_cons.2 ⟨exactSeconds_nonneg _, ih _⟩

theorem gaps_sum (start : Time) (readings : List Time) :
    (gaps start readings).sum = exactSeconds (latest start readings - start) := by
  induction readings generalizing start with
  | nil => simp [gaps, latest]
  | cons now readings ih =>
    have hle : max start now ≤ latest start (now :: readings) := le_latest _ readings
    have hstart : start ≤ max start now := Nat.le_max_left _ _
    rw [gaps, List.sum_cons, ih, ← exactSeconds_add, Nat.add_comm]
    exact congrArg exactSeconds (Nat.sub_add_sub_cancel hle hstart)

namespace TokenBucket

/-- The bucket after calls of `allow` with these clock readings, in the order in which
they took the lock. -/
def after (g : TokenBucket ℚ) : List Time → TokenBucket ℚ
  | [] => g
  | now :: readings => after (g.allow exactSeconds now).1 readings

/-- How many of them were admitted. -/
def admitted (g : TokenBucket ℚ) : List Time → Nat
  | [] => 0
  | now :: readings =>
    (if (g.allow exactSeconds now).2 then 1 else 0) + admitted (g.allow exactSeconds now).1 readings

/-- The bucket without its clock. -/
def ideal (g : TokenBucket ℚ) : Bucket ℚ := ⟨g.rate, g.burst, g.tokens⟩

variable {g : TokenBucket ℚ}

theorem refill_last (g : TokenBucket ℚ) (now : Time) : (g.refill exactSeconds now).last = max g.last now := by
  unfold refill
  split
  · exact (Nat.max_eq_right (Nat.le_of_lt ‹_›)).symm
  · exact (Nat.max_eq_left (Nat.le_of_not_lt ‹_›)).symm

/-- A refill is the wait since the latest reading. -/
theorem refill_ideal (h : g.tokens ≤ g.burst) (now : Time) :
    (g.refill exactSeconds now).ideal = g.ideal.wait (exactSeconds (max g.last now - g.last)) := by
  unfold refill
  by_cases hlater : g.last < now
  · rw [if_pos hlater, Nat.max_eq_right (Nat.le_of_lt hlater), ideal, Bucket.wait, mul_comm (exactSeconds _)]
    simp only [ideal, Bucket.mk.injEq, true_and, ← not_le, ite_not]
    rw [min_comm, min_def]
  · -- the clock went back or stands still
    rw [if_neg hlater, Nat.max_eq_left (Nat.le_of_not_lt hlater), Nat.sub_self, exactSeconds_zero]
    simp [ideal, Bucket.wait, h]

theorem allow_last (g : TokenBucket ℚ) (now : Time) : (g.allow exactSeconds now).1.last = max g.last now := by
  unfold allow
  split <;> exact g.refill_last now

/-- A call is a wait and a draw. -/
theorem allow_ideal (h : g.tokens ≤ g.burst) (now : Time) :
    (g.allow exactSeconds now).1.ideal = (g.ideal.wait (exactSeconds (max g.last now - g.last))).draw.1 ∧
      (g.allow exactSeconds now).2 = (g.ideal.wait (exactSeconds (max g.last now - g.last))).draw.2 := by
  rw [← refill_ideal h now]
  unfold allow Bucket.draw
  by_cases hless : (g.refill exactSeconds now).tokens < 1
  · rw [if_pos hless, if_pos (show (g.refill exactSeconds now).ideal.level < 1 from hless)]
    exact ⟨rfl, rfl⟩
  · rw [if_neg hless, if_neg (show ¬ (g.refill exactSeconds now).ideal.level < 1 from hless)]
    exact ⟨rfl, rfl⟩

theorem after_last (g : TokenBucket ℚ) (readings : List Time) :
    (g.after readings).last = latest g.last readings := by
  induction readings generalizing g with
  | nil => rfl
  | cons now readings ih =>
    rw [after, ih, allow_last]
    rfl

/-- Along the latest readings the bucket is an ideal one. -/
theorem after_ideal (h : g.ideal.Bounded) (readings : List Time) :
    (g.after readings).ideal = g.ideal.turns (gaps g.last readings) ∧
      g.admitted readings = g.ideal.drawn (gaps g.last readings) := by
  induction readings generalizing g with
  | nil => exact ⟨rfl, rfl⟩
  | cons now readings ih =>
    obtain ⟨hleft, hdrawn⟩ := allow_ideal h.burst now
    have hbounded : (g.allow exactSeconds now).1.ideal.Bounded := by
      rw [hleft]
      exact (h.wait (exactSeconds_nonneg _)).draw
    obtain ⟨hideal, hadmitted⟩ := ih hbounded
    rw [hleft, allow_last] at hideal hadmitted
    refine ⟨hideal, ?_⟩
    rw [admitted, gaps, Bucket.drawn, hdrawn, hadmitted]

theorem after_bounded (h : g.ideal.Bounded) (readings : List Time) : (g.after readings).ideal.Bounded := by
  rw [(after_ideal h readings).1]
  exact h.turns (gaps_nonneg _ _)

/-- In any window of calls. -/
theorem admitted_window (h : g.ideal.Bounded) (first : Time) (window : List Time) :
    (g.admitted (first :: window) : ℚ) ≤
      g.burst + g.rate * exactSeconds (latest g.last (first :: window) - latest g.last [first]) := by
  have hle := h.drawn_cons_le (exactSeconds_nonneg (max g.last first - g.last))
    (gaps_nonneg (max g.last first) window)
  rw [gaps_sum] at hle
  rw [(after_ideal h (first :: window)).2]
  exact hle

end TokenBucket

/-- The reference: it starts full, fills continuously along the latest readings, and
serves the calls one after another. -/
def referenceBucket (rate burst : ℚ) (start : Time) (readings : List Time) : Bucket ℚ :=
  Bucket.turns ⟨rate, burst, burst⟩ (gaps start readings)

/-- The guard's bucket holds between nothing and the burst, admits in every window of
calls at most the burst and what the window's time brings in, and rejects a call only
when the reference has less than one token then, however the wait for it is divided. -/
theorem rate_limit_bound {config : GuardConfig} {start : Time} {g : Guard ℚ}
    (h : newGuard config start = .ok g) (readings : List Time) :
    (0 ≤ (g.bucket.after readings).tokens ∧ (g.bucket.after readings).tokens ≤ config.burst) ∧
    (∀ before first window, readings = before ++ first :: window →
      ((g.bucket.after before).admitted (first :: window) : ℚ) ≤ config.burst +
        config.ratePerSecond * exactSeconds (latest start readings - latest start (before ++ [first]))) ∧
    ∀ now, ((g.bucket.after readings).allow exactSeconds now).2 = false →
      ∀ d e, 0 ≤ e → d + e = exactSeconds (latest start (readings ++ [now]) - latest start readings) →
        (((referenceBucket config.ratePerSecond config.burst start readings).wait d).wait e).level < 1 := by
  obtain ⟨hbucket, hrate⟩ := newGuard_ok h
  rw [hbucket]
  have hfull : TokenBucket.ideal ⟨config.ratePerSecond, config.burst, config.burst, start⟩ |>.Bounded :=
    ⟨hrate, Nat.cast_nonneg _, le_refl _⟩
  generalize hb : (⟨config.ratePerSecond, config.burst, config.burst, start⟩ : TokenBucket ℚ) = b at hfull
  have hconfig (calls : List Time) :
      (b.after calls).rate = config.ratePerSecond ∧ (b.after calls).burst = config.burst := by
    have hturns := b.ideal.turns_config (gaps b.last calls)
    rw [← (TokenBucket.after_ideal hfull calls).1] at hturns
    subst hb
    exact hturns
  have hlast (calls : List Time) : (b.after calls).last = latest start calls := by
    rw [b.after_last, ← hb]
  refine ⟨?_, ?_, ?_⟩
  · have hbounded := TokenBucket.after_bounded hfull readings
    exact ⟨hbounded.level, hbounded.burst.trans_eq (hconfig readings).2⟩
  · rintro before first window rfl
    have hwindow := TokenBucket.admitted_window (TokenBucket.after_bounded hfull before) first window
    rwa [(hconfig before).1, (hconfig before).2, hlast, ← latest_append, ← latest_append] at hwindow
  · intro now hrejected d e he hwait
    have hbounded := TokenBucket.after_bounded hfull readings
    have hdraw := (TokenBucket.allow_ideal hbounded.burst now).2
    have href : (b.after readings).ideal =
        referenceBucket config.ratePerSecond config.burst start readings := by
      rw [(TokenBucket.after_ideal hfull readings).1, ← hb]
      rfl
    have hgap : max (b.after readings).last now - (b.after readings).last =
        latest start (readings ++ [now]) - latest start readings := by
      rw [latest_append, hlast]
      rfl
    rw [href] at hbounded
    rw [hrejected, href, hgap, ← hwait, ← Bucket.wait_wait hbounded.rate he] at hdraw
    unfold Bucket.draw at hdraw
    split at hdraw
    · assumption
    · cases hdraw

/-- Three calls at once find two tokens; the third call's clock even went back. -/
theorem rate_limit_bound_default : ∃ g, newGuard .default 5 = .ok g ∧ g.bucket.admitted [5, 5, 4] = 2 ∧
    (g.bucket.admitted [5, 5, 4] : ℚ) ≤ 2 + 1 * exactSeconds (latest 5 [5, 5, 4] - latest 5 [5]) := by
  have hvalid : GuardConfig.default.validate = .ok () := by decide +kernel
  have hnew : newGuard .default 5 = .ok ⟨2, 0, ⟨.default, .closed, 0, 0, 0, false⟩, ⟨1, 2, 2, 5⟩⟩ := by
    rw [newGuard, hvalid]
    rfl
  refine ⟨_, hnew, by decide +kernel, ?_⟩
  exact (rate_limit_bound hnew [5, 5, 4]).2.1 [] 5 [5, 4] rfl

end MailService
