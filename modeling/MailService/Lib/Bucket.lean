import Mathlib.Algebra.Order.Field.Basic
import Mathlib.Algebra.BigOperators.Group.List.Basic
import Mathlib.Tactic.Linarith
/-!
# Token buckets

A bucket fills continuously at a rate, up to its burst, and gives away whole tokens.
Served after waits of any lengths, it never gives away more than its burst and what
it gained while it waited: every token drawn is paid for by the level.
-/

namespace TokenBuckets

/-- Tokens in exact numbers. -/
structure Bucket (K : Type*) where
  rate : K
  burst : K
  level : K
  deriving DecidableEq

namespace Bucket

variable {K : Type*} [Field K] [LinearOrder K] {b : Bucket K} {t u : K} {waits : List K}

/-- The bucket after a time in which nothing is drawn. -/
def wait (b : Bucket K) (t : K) : Bucket K := { b with level := min b.burst (b.level + b.rate * t) }

/-- One token, if a whole one is there. -/
def draw (b : Bucket K) : Bucket K × Bool :=
  if b.level < 1 then (b, false) else ({ b with level := b.level - 1 }, true)

/-- Draws, each after a wait. -/
def turns (b : Bucket K) : List K → Bucket K
  | [] => b
  | t :: waits => turns (b.wait t).draw.1 waits

/-- How many of the draws were given a token. -/
def drawn (b : Bucket K) : List K → Nat
  | [] => 0
  | t :: waits => (if (b.wait t).draw.2 then 1 else 0) + drawn (b.wait t).draw.1 waits

@[simp] theorem wait_rate : (b.wait t).rate = b.rate := rfl

@[simp] theorem wait_burst : (b.wait t).burst = b.burst := rfl

@[simp] theorem draw_rate : b.draw.1.rate = b.rate := by unfold draw; split <;> rfl

@[simp] theorem draw_burst : b.draw.1.burst = b.burst := by unfold draw; split <;> rfl

theorem turns_config (b : Bucket K) (waits : List K) :
    (b.turns waits).rate = b.rate ∧ (b.turns waits).burst = b.burst := by
  induction waits generalizing b with
  | nil => exact ⟨rfl, rfl⟩
  | cons t waits ih =>
    have h := ih (b.wait t).draw.1
    rwa [draw_rate, draw_burst, wait_rate, wait_burst] at h

/-- A draw moves one token from the level to the caller or moves nothing. -/
theorem draw_level (b : Bucket K) : b.draw.1.level + (if b.draw.2 then 1 else 0) = b.level := by
  unfold draw
  split <;> simp

/-- The level is one that the bucket can have. -/
structure Bounded (b : Bucket K) : Prop where
  rate : 0 ≤ b.rate
  level : 0 ≤ b.level
  burst : b.level ≤ b.burst

variable [IsStrictOrderedRing K]

/-- The refill is continuous: to wait is to wait for a part of the time and then for the
rest of it. -/
theorem wait_wait (hrate : 0 ≤ b.rate) (hu : 0 ≤ u) : (b.wait t).wait u = b.wait (t + u) := by
  have hgain : 0 ≤ b.rate * u := mul_nonneg hrate hu
  simp only [wait, Bucket.mk.injEq, true_and]
  rw [mul_add, ← add_assoc, ← min_add_add_right, ← min_assoc, min_eq_left (le_add_of_nonneg_right hgain)]

theorem Bounded.wait (h : b.Bounded) (ht : 0 ≤ t) : (b.wait t).Bounded := by
  have hgain : 0 ≤ b.rate * t := mul_nonneg h.rate ht
  refine ⟨h.rate, le_min (h.level.trans h.burst) (add_nonneg h.level hgain), min_le_left _ _⟩

theorem Bounded.draw (h : b.Bounded) : b.draw.1.Bounded := by
  unfold Bucket.draw
  split
  · exact h
  · rename_i hwhole
    have hone : 1 ≤ b.level := not_lt.1 hwhole
    exact ⟨h.rate, sub_nonneg.2 hone, (sub_le_self _ zero_le_one).trans h.burst⟩

theorem Bounded.turns (h : b.Bounded) (hw : ∀ t ∈ waits, 0 ≤ t) : (b.turns waits).Bounded := by
  induction waits generalizing b with
  | nil => exact h
  | cons t waits ih =>
    rw [List.forall_mem_cons] at hw
    exact ih (h.wait hw.1).draw hw.2

/-- The level pays for what is drawn: what was given away and what is left never exceed
what was there and what came in. -/
theorem Bounded.drawn_add_level (h : b.Bounded) (hw : ∀ t ∈ waits, 0 ≤ t) :
    b.drawn waits + (b.turns waits).level ≤ b.level + b.rate * waits.sum := by
  induction waits generalizing b with
  | nil => simp [drawn, Bucket.turns]
  | cons t waits ih =>
    rw [List.forall_mem_cons] at hw
    have hrest := ih (h.wait hw.1).draw hw.2
    have hdraw := draw_level (b.wait t)
    have hwait : (b.wait t).level ≤ b.level + b.rate * t := min_le_right _ _
    simp only [drawn, Bucket.turns, List.sum_cons, mul_add, draw_rate, wait_rate, Nat.cast_add, Nat.cast_ite,
      Nat.cast_one, Nat.cast_zero] at hrest ⊢
    linarith

/-- From the end of its first wait on, a bucket gives away at most its burst and what
comes in. -/
theorem Bounded.drawn_cons_le (h : b.Bounded) (ht : 0 ≤ t) (hw : ∀ t ∈ waits, 0 ≤ t) :
    (b.drawn (t :: waits) : K) ≤ b.burst + b.rate * waits.sum := by
  have hwait := h.wait ht
  have hrest := hwait.draw.drawn_add_level hw
  have hleft := (hwait.draw.turns hw).level
  have hdraw := draw_level (b.wait t)
  have hfull : (b.wait t).level ≤ b.burst := hwait.burst
  simp only [drawn, draw_rate, wait_rate, Nat.cast_add, Nat.cast_ite, Nat.cast_one, Nat.cast_zero] at hrest ⊢
  linarith

end Bucket

end TokenBuckets
