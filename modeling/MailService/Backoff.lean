import MailService.RelayRuns
/-!
# Backoff windows

`delivery_backoff.go`, `outbox_backoff.go`, `internal/consumer/rabbitmq/backoff.go` and
`internal/bootstrap/poller.go` double a delay until it reaches a cap and draw from the window
below it. The loop is the same in all four; here it runs on `int64`, whose products wrap, and is
shown never to wrap one.
-/
open Text Checks

namespace MailService

/-- `time.Duration`: nanoseconds in an `int64`. -/
abbrev Duration := Int64

def Duration.millisecond : Duration := 1000000

def Duration.day : Duration := 24 * 3600 * 1000000000

namespace Machine

/-! ## The loop -/

/-- The counter of a loop that goes on does not wrap. -/
theorem toNat_succ {exponent attempt : UInt32} (h : exponent < attempt) :
    (exponent + 1).toNat = exponent.toNat + 1 := by
  have hround := UInt32.lt_iff_toNat_lt.1 h
  have hattempt := attempt.toNat_lt
  have hone : (1 : UInt32).toNat = 1 := rfl
  rw [UInt32.toNat_add, hone, Nat.mod_eq_of_lt (by omega)]

/-- The loop from the round `exponent` on. -/
def doubled (cap : Duration) (attempt exponent : UInt32) (maximum : Duration) : Duration :=
  if exponent < attempt ∧ maximum < cap then
    if maximum > cap / 2 then cap else doubled cap attempt (exponent + 1) (maximum * 2)
  else maximum
termination_by attempt.toNat - exponent.toNat
decreasing_by
  have hguard : exponent < attempt ∧ maximum < cap := by assumption
  have hround := UInt32.lt_iff_toNat_lt.1 hguard.1
  rw [toNat_succ hguard.1]
  omega

/-- `rand.Int64N` on the arguments for which it does not panic. -/
structure Rand where
  int64N : (n : Int64) → 0 < n → { x : Int64 // 0 ≤ x ∧ x < n }

/-- `rand.Int64N`; `none` is its panic. -/
def Rand.draw (rand : Rand) (n : Int64) : Option Int64 := if h : 0 < n then some (rand.int64N n h).1 else none

/-! ## The policies -/

/-- A policy that `NewDeliveryFullJitterBackoff` accepted. -/
structure DeliveryFullJitterBackoff where
  base : Duration
  cap : Duration
  base_ge : Duration.millisecond ≤ base
  base_le : base ≤ cap
  cap_le : cap ≤ Duration.day

namespace DeliveryFullJitterBackoff

variable (b : DeliveryFullJitterBackoff) (attemptNumber : UInt32)

def maximum : Duration :=
  let maximum := doubled b.cap attemptNumber 1 b.base
  if maximum ≥ b.cap then b.cap else maximum

/-- What `NextDelay` asks `rand.Int64N` for. -/
def argument : Int64 := b.maximum attemptNumber - Duration.millisecond + 1

def nextDelay (rand : Rand) : Option Duration :=
  (rand.draw (b.argument attemptNumber)).map (Duration.millisecond + ·)

end DeliveryFullJitterBackoff

/-- A policy that `NewFullJitterBackoff` accepted. -/
structure FullJitterBackoff where
  base : Duration
  cap : Duration
  base_pos : 0 < base
  base_le : base ≤ cap
  cap_le : cap ≤ Duration.day

namespace FullJitterBackoff

variable (b : FullJitterBackoff) (attemptNumber : UInt32)

def maximum : Duration :=
  let maximum := doubled b.cap attemptNumber 1 b.base
  if maximum ≥ b.cap then b.cap else maximum

@[inherit_doc DeliveryFullJitterBackoff.argument]
def argument : Int64 := b.maximum attemptNumber + 1

def nextDelay (rand : Rand) : Option Duration := rand.draw (b.argument attemptNumber)

end FullJitterBackoff

theorem toInt_day : Duration.day.toInt = 86400000000000 := by decide

theorem toInt_millisecond : Duration.millisecond.toInt = 1000000 := by decide

/-- A result within the range of the type is the unbounded one. -/
theorem bmod_eq_self {x : Int} (h : -2 ^ 63 ≤ x ∧ x < 2 ^ 63) : x.bmod (2 ^ 64) = x := by
  rw [Int.bmod_eq_of_le] <;> omega

section Loop

variable {base cap maximum : Duration} {attempt exponent : UInt32}

theorem toInt_half (h : 0 ≤ cap.toInt) : (cap / 2).toInt = cap.toInt / 2 := by
  have htwo : (2 : Int64).toInt = 2 := by decide
  have hrange := cap.toInt_lt
  rw [Int64.toInt_div, htwo, Int.tdiv_eq_ediv_of_nonneg h, bmod_eq_self]
  omega

/-- Below half of the cap a product is exact. -/
theorem toInt_double (hcap : cap ≤ Duration.day) (hpos : 0 < maximum) (hhalf : ¬ maximum > cap / 2)
    (hbelow : maximum < cap) :
    (maximum * 2).toInt = maximum.toInt * 2 ∧ maximum * 2 ≤ cap := by
  have htwo : (2 : Int64).toInt = 2 := by decide
  have hzero : (0 : Int64).toInt = 0 := by decide
  rw [gt_iff_lt, Int64.lt_iff_toInt_lt] at hhalf
  rw [Int64.lt_iff_toInt_lt] at hpos hbelow
  rw [Int64.le_iff_toInt_le, toInt_day] at hcap
  rw [toInt_half (by omega)] at hhalf
  have hexact : (maximum * 2).toInt = maximum.toInt * 2 := by
    rw [Int64.toInt_mul, htwo, bmod_eq_self]
    omega
  rw [Int64.le_iff_toInt_le, hexact]
  exact ⟨rfl, by omega⟩

/-- The loop returns the doubled value over the unbounded integers, cut at the cap. -/
theorem toInt_doubled (hcap : cap ≤ Duration.day) (hpos : 0 < maximum) (hle : maximum ≤ cap) :
    (doubled cap attempt exponent maximum).toInt =
      min cap.toInt (maximum.toInt * 2 ^ (attempt.toNat - exponent.toNat)) := by
  have hzero : (0 : Int64).toInt = 0 := by decide
  fun_induction doubled cap attempt exponent maximum with
  | case1 exponent maximum hguard hhalf =>
    -- one more doubling passes the cap
    have hround := UInt32.lt_iff_toNat_lt.1 hguard.1
    rw [gt_iff_lt, Int64.lt_iff_toInt_lt] at hhalf
    rw [Int64.lt_iff_toInt_lt] at hpos
    have hnonneg : 0 ≤ cap.toInt := by
      have := Int64.le_iff_toInt_le.1 hle
      omega
    rw [toInt_half hnonneg] at hhalf
    obtain ⟨rounds, hrounds⟩ : ∃ rounds, attempt.toNat - exponent.toNat = rounds + 1 :=
      ⟨attempt.toNat - exponent.toNat - 1, by omega⟩
    have hgrows : maximum.toInt * 2 ≤ maximum.toInt * 2 ^ (rounds + 1) := by
      rw [pow_succ', ← mul_assoc]
      exact le_mul_of_one_le_right (by omega) (one_le_pow₀ (by norm_num))
    rw [hrounds, min_eq_left (le_trans (by omega) hgrows)]
  | case2 exponent maximum hguard hhalf ih =>
    obtain ⟨hexact, hle'⟩ := toInt_double hcap hpos hhalf hguard.2
    have hround := UInt32.lt_iff_toNat_lt.1 hguard.1
    have hpos' : 0 < maximum * 2 := by
      rw [Int64.lt_iff_toInt_lt] at hpos ⊢
      omega
    have hrounds : attempt.toNat - exponent.toNat = attempt.toNat - (exponent + 1).toNat + 1 := by
      rw [toNat_succ hguard.1]
      omega
    rw [ih hpos' hle', hexact, hrounds, pow_succ', mul_assoc]
  | case3 exponent maximum hguard =>
    rw [Int64.le_iff_toInt_le] at hle
    rw [Int64.lt_iff_toInt_lt] at hpos
    by_cases hround : exponent < attempt
    · have hfull : cap.toInt ≤ maximum.toInt :=
        not_lt.1 fun hlt => hguard ⟨hround, Int64.lt_iff_toInt_lt.2 hlt⟩
      have hgrows : maximum.toInt ≤ maximum.toInt * 2 ^ (attempt.toNat - exponent.toNat) :=
        le_mul_of_one_le_right (by omega) (one_le_pow₀ (by norm_num))
      rw [min_eq_left (hfull.trans hgrows)]
      exact le_antisymm hle hfull
    · have hrounds : attempt.toNat - exponent.toNat = 0 := by
        rw [UInt32.lt_iff_toNat_lt] at hround
        omega
      rw [hrounds, pow_zero, mul_one, min_eq_right hle]

end Loop

/-! ## The windows -/

/-- The upper end of the window, over the unbounded integers. -/
def window (base cap : Duration) (attempt : UInt32) : Int :=
  min cap.toInt (base.toInt * 2 ^ (max attempt.toNat 1 - 1))

/-- What is asked of `rand.Int64N` is positive and the exact size of the window, and the delay is in
the window. -/
structure Draws (argument : Int64) (delay : Rand → Option Duration) (lower upper : Int) : Prop where
  positive : 0 < argument
  exact_size : argument.toInt = upper - lower + 1
  delay : ∀ rand, ∃ d, delay rand = some d ∧ lower ≤ d.toInt ∧ d.toInt ≤ upper

section Windows

variable {base cap : Duration} (hpos : 0 < base) (hle : base ≤ cap)
  (hcap : cap ≤ Duration.day) (attempt : UInt32)

include hpos hle hcap

theorem toInt_doubled_one : (doubled cap attempt 1 base).toInt = window base cap attempt := by
  have hone : (1 : UInt32).toNat = 1 := rfl
  rw [toInt_doubled hcap hpos hle, hone, window, Nat.max_comm]
  congr 3
  omega

theorem window_bounds : base.toInt ≤ window base cap attempt ∧ window base cap attempt ≤ cap.toInt ∧
    0 < base.toInt ∧ cap.toInt ≤ 86400000000000 := by
  have hzero : (0 : Int64).toInt = 0 := by decide
  have hpos' := Int64.lt_iff_toInt_lt.1 hpos
  rw [Int64.le_iff_toInt_le] at hle hcap
  rw [toInt_day] at hcap
  have hgrows : base.toInt ≤ base.toInt * 2 ^ (max attempt.toNat 1 - 1) :=
    le_mul_of_one_le_right (by omega) (one_le_pow₀ (by norm_num))
  exact ⟨le_min hle hgrows, min_le_left _ _, by omega, hcap⟩

theorem toInt_clamped : (if doubled cap attempt 1 base ≥ cap then cap else doubled cap attempt 1 base).toInt =
    window base cap attempt := by
  have hdoubled := toInt_doubled_one hpos hle hcap attempt
  split
  · rename_i hover
    rw [ge_iff_le, Int64.le_iff_toInt_le, hdoubled] at hover
    exact le_antisymm hover (window_bounds hpos hle hcap attempt).2.1
  · exact hdoubled

end Windows

/-- A draw from zero up to a bound that is within the range. -/
theorem draws_from_zero {upper : Duration} (h : 0 ≤ upper.toInt ∧ upper.toInt ≤ 86400000000000) :
    Draws (upper + 1) (fun rand => rand.draw (upper + 1)) 0 upper.toInt := by
  have hone : (1 : Int64).toInt = 1 := by decide
  have hzero : (0 : Int64).toInt = 0 := by decide
  have hexact : (upper + 1).toInt = upper.toInt + 1 := by
    rw [Int64.toInt_add, hone, bmod_eq_self]
    omega
  have hpositive : 0 < upper + 1 := by
    rw [Int64.lt_iff_toInt_lt]
    omega
  refine ⟨hpositive, by omega, fun rand => ⟨_, dif_pos hpositive, ?_⟩⟩
  obtain ⟨x, hnonneg, hlt⟩ := rand.int64N (upper + 1) hpositive
  rw [Int64.le_iff_toInt_le] at hnonneg
  rw [Int64.lt_iff_toInt_lt] at hlt
  change 0 ≤ x.toInt ∧ x.toInt ≤ upper.toInt
  omega

/-- A draw from one millisecond up. -/
theorem draws_from_millisecond {upper : Duration} (h : 1000000 ≤ upper.toInt ∧ upper.toInt ≤ 86400000000000) :
    Draws (upper - Duration.millisecond + 1)
      (fun rand => (rand.draw (upper - Duration.millisecond + 1)).map (Duration.millisecond + ·))
        1000000 upper.toInt := by
  have hsize : (upper - Duration.millisecond).toInt = upper.toInt - 1000000 := by
    rw [Int64.toInt_sub, toInt_millisecond, bmod_eq_self]
    omega
  have hdraws := @draws_from_zero (upper - Duration.millisecond) (by omega)
  refine ⟨hdraws.positive, by rw [hdraws.exact_size]; omega, fun rand => ?_⟩
  obtain ⟨x, hx, hnonneg, hle⟩ := hdraws.delay rand
  have hexact : (Duration.millisecond + x).toInt = 1000000 + x.toInt := by
    rw [Int64.toInt_add, toInt_millisecond, bmod_eq_self]
    omega
  exact ⟨Duration.millisecond + x, by rw [hx]; rfl, by omega, by omega⟩

theorem DeliveryFullJitterBackoff.base_pos (b : DeliveryFullJitterBackoff) : 0 < b.base := by
  have hmillisecond := Int64.le_iff_toInt_le.1 b.base_ge
  have hzero : (0 : Int64).toInt = 0 := by decide
  rw [toInt_millisecond] at hmillisecond
  rw [Int64.lt_iff_toInt_lt]
  omega

theorem DeliveryFullJitterBackoff.toInt_maximum (b : DeliveryFullJitterBackoff) (attempt : UInt32) :
    (b.maximum attempt).toInt = window b.base b.cap attempt :=
  toInt_clamped b.base_pos b.base_le b.cap_le attempt

theorem DeliveryFullJitterBackoff.draws (b : DeliveryFullJitterBackoff) (attempt : UInt32) :
    Draws (b.argument attempt) (b.nextDelay attempt) 1000000 (window b.base b.cap attempt) := by
  obtain ⟨hlower, hupper, -, hday⟩ := window_bounds b.base_pos b.base_le b.cap_le attempt
  have hmillisecond := Int64.le_iff_toInt_le.1 b.base_ge
  rw [toInt_millisecond] at hmillisecond
  rw [← b.toInt_maximum attempt] at hlower hupper ⊢
  exact draws_from_millisecond ⟨hmillisecond.trans hlower, hupper.trans hday⟩

theorem FullJitterBackoff.toInt_maximum (b : FullJitterBackoff) (attempt : UInt32) :
    (b.maximum attempt).toInt = window b.base b.cap attempt :=
  toInt_clamped b.base_pos b.base_le b.cap_le attempt

theorem FullJitterBackoff.draws (b : FullJitterBackoff) (attempt : UInt32) :
    Draws (b.argument attempt) (b.nextDelay attempt) 0 (window b.base b.cap attempt) := by
  obtain ⟨hlower, hupper, hpos, hday⟩ := window_bounds b.base_pos b.base_le b.cap_le attempt
  rw [← b.toInt_maximum attempt] at hlower hupper ⊢
  exact draws_from_zero ⟨hpos.le.trans hlower, hupper.trans hday⟩

theorem FullJitterBackoff.toNat_base_pos (b : FullJitterBackoff) : 0 < b.base.toInt.toNat := by
  obtain ⟨-, -, hpos, -⟩ := window_bounds b.base_pos b.base_le b.cap_le 1
  omega

theorem FullJitterBackoff.toNat_base_le (b : FullJitterBackoff) : b.base.toInt.toNat ≤ b.cap.toInt.toNat := by
  have hle := Int64.le_iff_toInt_le.1 b.base_le
  omega

theorem FullJitterBackoff.toNat_cap_le (b : FullJitterBackoff) : b.cap.toInt.toNat ≤ 24 * 3600 * second := by
  obtain ⟨-, -, -, hday⟩ := window_bounds b.base_pos b.base_le b.cap_le 1
  simp only [second]
  omega

/-- The policy over the natural numbers that the runs of the relay use. -/
def FullJitterBackoff.unbounded (b : FullJitterBackoff) : MailService.FullJitterBackoff where
  base := b.base.toInt.toNat
  cap := b.cap.toInt.toNat
  base_pos := b.toNat_base_pos
  base_le := b.toNat_base_le
  cap_le := b.toNat_cap_le

/-- On `int64` the policy computes what it does over the natural numbers. -/
theorem FullJitterBackoff.maximum_unbounded (b : FullJitterBackoff) (attempt : UInt32) :
    (b.maximum attempt).toInt = b.unbounded.maximum attempt.toNat := by
  obtain ⟨-, -, hpos, -⟩ := window_bounds b.base_pos b.base_le b.cap_le attempt
  have hle := Int64.le_iff_toInt_le.1 b.base_le
  have hrounds : max attempt.toNat 1 - 1 = attempt.toNat - 1 := by omega
  rw [b.toInt_maximum, window, b.unbounded.maximum_eq, hrounds]
  simp only [unbounded, Nat.cast_min, Nat.cast_mul, Nat.cast_pow, Nat.cast_ofNat, Int.toNat_of_nonneg hpos.le,
    Int.toNat_of_nonneg (hpos.le.trans hle)]

/-! ## The four windows -/

end Machine

end MailService
