import Gomessenger.Consumer.Decision

/-! The retry delays of both adapters on 64-bit durations.

`rand.Int` is called with what its reader gives: nothing when reading fails, a
number to be reduced below the bound otherwise. It panics on a bound that is not
positive. -/

namespace Gomessenger.Consumer

/-- The doubling loop: the delay it leaves and the passes it makes. The first
argument after the maximum is what `current` may still count up to `attempt`. -/
def doubling (maximum : Int64) : Nat → Int64 → Int64 × Nat
  | 0, delay => (delay, 0)
  | steps + 1, delay =>
    if delay < maximum then
      if delay > maximum / 2 then (maximum, 1)
      else ((doubling maximum steps (delay * 2)).1, (doubling maximum steps (delay * 2)).2 + 1)
    else (delay, 0)

def backoff (base maximum : Int64) (attempt : UInt64) : Int64 :=
  let delay := (doubling maximum (attempt.toNat - 1) base).1
  if delay > maximum then maximum else delay

inductive Draw
  | panicked
  | failed
  | value (value : Int64)
  deriving DecidableEq, Repr

def randInt (source : Option Nat) (bound : Int64) : Draw :=
  if bound.toInt ≤ 0 then .panicked
  else match source with
    | none => .failed
    | some number => .value (.ofInt (number % bound.toInt))

def Kafka.retryDelayWithReader (source : Option Nat) (base maximum : Int64)
    (attempt : UInt64) : Option Int64 :=
  let delay := backoff base maximum attempt
  if delay ≤ 1 then some delay
  else match randInt source delay with
    | .panicked => none
    | .failed => some delay
    | .value value => some (value + 1)

structure Nats.RetryConfig where
  baseRetry : Int64
  maxRetry : Int64
  deriving DecidableEq, Repr

def Nats.applyRetryDefaults (config : RetryConfig) : RetryConfig where
  baseRetry := if config.baseRetry = 0 then 1000000000 else config.baseRetry
  maxRetry := if config.maxRetry = 0 then 300000000000 else config.maxRetry

/-- The part of `newConsumer` that sets and checks the retry delays. -/
def Nats.newRetryConfig (given : RetryConfig) : Option RetryConfig :=
  let config := applyRetryDefaults given
  if config.baseRetry ≤ 0 ∨ config.maxRetry < config.baseRetry then none else some config

def Nats.retryDelayOf (source : Option Nat) (config : RetryConfig)
    (attempt : UInt64) : Option Int64 :=
  let delay := backoff config.baseRetry config.maxRetry attempt
  if delay ≤ 1 then some delay
  else match randInt source (delay + 1) with
    | .panicked => none
    | .failed => some delay
    | .value value => some value

section Doubling

theorem bmod_small {value : Int} (low : -2 ^ 63 ≤ value) (high : value < 2 ^ 63) :
    value.bmod (2 ^ 64) = value :=
  Int.bmod_eq_of_le (by omega) (by omega)

theorem add_toInt {left right : Int64} (low : -2 ^ 63 ≤ left.toInt + right.toInt)
    (high : left.toInt + right.toInt < 2 ^ 63) :
    (left + right).toInt = left.toInt + right.toInt := by
  rw [Int64.toInt_add, bmod_small low high]

theorem half_toInt (maximum : Int64) (positive : 0 < maximum.toInt) :
    (maximum / 2).toInt = maximum.toInt / 2 := by
  have two : (2 : Int64).toInt = 2 := rfl
  have limit := maximum.toInt_lt
  rw [Int64.toInt_div, two, Int.tdiv_eq_ediv_of_nonneg (by omega), bmod_small (by omega) (by omega)]

variable {maximum : Int64}

theorem double_toInt {delay : Int64} (positive : 0 < delay.toInt)
    (below : delay.toInt ≤ maximum.toInt / 2) :
    (delay * 2).toInt = delay.toInt * 2 := by
  have two : (2 : Int64).toInt = 2 := rfl
  have limit := maximum.toInt_lt
  rw [Int64.toInt_mul, two, bmod_small (by omega) (by omega)]

/-- The 64-bit loop computes what the loop on exact durations computes. -/
theorem doubling_exact (maximum : Int64) (steps : Nat) (delay : Int64) (positive : 0 < delay.toInt)
    (below : delay.toInt ≤ maximum.toInt) :
    (doubling maximum steps delay).1.toInt = doubleDelay maximum.toInt steps delay.toInt := by
  induction steps generalizing delay with
  | zero => rfl
  | succ steps ih =>
    have half := half_toInt maximum (by omega)
    rw [doubling, doubleDelay]
    simp only [Int64.lt_iff_toInt_lt, gt_iff_lt, half]
    split_ifs with more exceeds
    · rfl
    · have double := double_toInt positive (not_lt.mp exceeds)
      rw [← double]
      exact ih (delay * 2) (by omega) (by omega)
    · rfl

theorem doubling_passes (maximum : Int64) (steps : Nat) (delay : Int64)
    (positive : 0 < delay.toInt) :
    2 ^ (doubling maximum steps delay).2 * delay.toInt < 2 ^ 64 ∨
      (doubling maximum steps delay).2 = 0 := by
  induction steps generalizing delay with
  | zero => exact .inr rfl
  | succ steps ih =>
    have limit := maximum.toInt_lt
    rw [doubling]
    by_cases more : delay < maximum
    · have under := Int64.lt_iff_toInt_lt.mp more
      have half := half_toInt maximum (by omega)
      rw [if_pos more]
      by_cases exceeds : delay > maximum / 2
      · rw [if_pos exceeds]
        change 2 ^ 1 * delay.toInt < 2 ^ 64 ∨ _
        exact .inl (by omega)
      · have fits : delay.toInt ≤ maximum.toInt / 2 := by
          rw [← half]
          exact not_lt.mp (fun less => exceeds (Int64.lt_iff_toInt_lt.mpr less))
        have double := double_toInt positive fits
        rw [if_neg exceeds]
        change 2 ^ ((doubling maximum steps (delay * 2)).2 + 1) * delay.toInt < 2 ^ 64 ∨ _
        refine .inl ?_
        rcases ih (delay * 2) (by omega) with inside | none
        · rw [double] at inside
          rw [pow_succ, mul_assoc, mul_comm 2 delay.toInt]
          exact inside
        · rw [none]
          omega
    · rw [if_neg more]
      exact .inr rfl

theorem doubling_ends (maximum : Int64) (steps : Nat) (delay : Int64) (positive : 0 < delay.toInt) :
    (doubling maximum steps delay).2 ≤ 63 := by
  rcases doubling_passes maximum steps delay positive with small | none
  · by_contra! many
    have power : (2 : Int) ^ 64 ≤ 2 ^ (doubling maximum steps delay).2 :=
      pow_le_pow_right₀ (by decide) (by omega)
    nlinarith
  · omega

theorem doubleDelay_min (maximum : Int) (steps : Nat) (delay : Int) (positive : 0 < delay)
    (below : delay ≤ maximum) : (doubleDelay maximum steps delay : Int) =
      min maximum (delay * 2 ^ steps) := by
  induction steps generalizing delay with
  | zero => rw [doubleDelay, pow_zero, mul_one, min_eq_right below]
  | succ steps ih =>
    have grows : delay * 2 ≤ delay * 2 ^ (steps + 1) := by
      have power : (1 : Int) ≤ 2 ^ steps := one_le_pow₀ (by decide)
      rw [pow_succ]
      nlinarith
    rw [doubleDelay]
    by_cases more : delay < maximum
    · rw [if_pos more]
      by_cases exceeds : delay > maximum / 2
      · rw [if_pos exceeds, min_eq_left (by omega)]
      · rw [if_neg exceeds, ih (delay * 2) (by omega) (by omega), pow_succ, mul_assoc,
          mul_comm 2 ((2 : Int) ^ steps)]
    · rw [if_neg more, min_eq_left (by omega)]
      exact le_antisymm below (not_lt.mp more)

theorem cappedDelay_min {base maximum : Int} (attempt : Nat) (positive : 0 < base)
    (ordered : base ≤ maximum) :
    (cappedDelay base maximum attempt : Int) = min maximum (base * 2 ^ (attempt - 1)) := by
  rw [cappedDelay, doubleDelay_min maximum (attempt - 1) base positive ordered]
  exact min_eq_left (min_le_left ..)

theorem backoff_toInt {base : Int64} (attempt : UInt64) (positive : 0 < base.toInt)
    (ordered : base.toInt ≤ maximum.toInt) :
    (backoff base maximum attempt).toInt = min maximum.toInt
      (base.toInt * 2 ^ (attempt.toNat - 1)) := by
  have exact := doubling_exact maximum (attempt.toNat - 1) base positive ordered
  rw [doubleDelay_min maximum.toInt (attempt.toNat - 1) base.toInt positive ordered] at exact
  unfold backoff
  simp only [gt_iff_lt, Int64.lt_iff_toInt_lt]
  split_ifs with exceeds
  · omega
  · exact exact

theorem backoff_pos {base : Int64} (attempt : UInt64) (positive : 0 < base.toInt)
    (ordered : base.toInt ≤ maximum.toInt) : 0 < (backoff base maximum attempt).toInt := by
  rw [backoff_toInt attempt positive ordered]
  exact lt_min (by omega) (by positivity)

theorem randInt_value (source : Option Nat) (bound : Int64) (positive : 0 < bound.toInt) :
    randInt source bound = .failed ∧ source = none ∨
      ∃ (number : Nat) (value : Int64), source = some number ∧ randInt source bound = .value value ∧
        value.toInt = number % bound.toInt ∧ 0 ≤ value.toInt ∧ value.toInt < bound.toInt := by
  have limit := bound.toInt_lt
  have admitted : ¬ bound.toInt ≤ 0 := by omega
  unfold randInt
  rw [if_neg admitted]
  cases source with
  | none => exact .inl ⟨rfl, rfl⟩
  | some number =>
    have low := Int.emod_nonneg (number : Int) (by omega : bound.toInt ≠ 0)
    have high := Int.emod_lt_of_pos (number : Int) positive
    have value := Int64.toInt_ofInt_of_le (n := (number : Int) % bound.toInt) (by omega) (by omega)
    exact .inr ⟨number, _, rfl, rfl, value, by omega, by omega⟩

end Doubling

/-- The delays of the Kafka retries, as exact arithmetic gives them. -/
theorem kafka_retry_delay_bounds (source : Option Nat) (base maximum : Int64) (attempt : UInt64)
    (positive : 1 ≤ base.toInt) (ordered : base.toInt ≤ maximum.toInt) :
    (doubling maximum (attempt.toNat - 1) base).2 ≤ 63 ∧
      ∃ delay : Int64, Kafka.retryDelayWithReader source base maximum attempt = some delay ∧
        1 ≤ delay.toInt ∧ delay.toInt ≤ min maximum.toInt (base.toInt * 2 ^ (attempt.toNat - 1)) ∧
        ∀ settings : Settings, settings.baseRetry = base.toInt → settings.maxRetry = maximum.toInt →
          settings.random = (fun bound => source.map (fun number => (number : Int) % bound)) →
          delay.toInt = Kafka.retryDelay settings attempt.toNat := by
  refine ⟨doubling_ends maximum (attempt.toNat - 1) base positive, ?_⟩
  have exact := backoff_toInt attempt positive ordered
  have capped := (cappedDelay_min attempt.toNat positive ordered).trans exact.symm
  have least := backoff_pos attempt positive ordered
  have one : (1 : Int64).toInt = 1 := rfl
  unfold Kafka.retryDelayWithReader Kafka.retryDelay
  simp only [Int64.le_iff_toInt_le, one]
  by_cases small : (backoff base maximum attempt).toInt ≤ 1
  · rw [if_pos small]
    refine ⟨_, rfl, by omega, by omega, ?_⟩
    intro settings isBase isMaximum isRandom
    rw [isBase, isMaximum, capped, if_pos small]
  · rw [if_neg small]
    rcases randInt_value source (backoff base maximum attempt) (by omega) with
      ⟨failed, unread⟩ | ⟨number, value, read, drawn, isValue, low, high⟩
    · rw [failed]
      refine ⟨_, rfl, by omega, by omega, ?_⟩
      intro settings isBase isMaximum isRandom
      rw [isBase, isMaximum, isRandom, capped, if_neg small, unread]
      rfl
    · have limit := (backoff base maximum attempt).toInt_lt
      have next : (value + 1).toInt = value.toInt + 1 := add_toInt (by omega) (by omega)
      rw [drawn]
      refine ⟨_, rfl, by omega, by omega, ?_⟩
      intro settings isBase isMaximum isRandom
      rw [isBase, isMaximum, isRandom, capped, if_neg small, read, next, isValue]
      rfl

theorem kafka_retry_delay_bounds_largest :
    ∃ delay : Int64, Kafka.retryDelayWithReader (some 5) 1 Int64.maxValue
      18446744073709551615 = some delay ∧
      1 ≤ delay.toInt ∧ delay.toInt ≤ Int64.maxValue.toInt := by
  obtain ⟨_, delay, returned, low, high, _⟩ := kafka_retry_delay_bounds (some 5) 1 Int64.maxValue
    18446744073709551615 (by decide) (by decide)
  exact ⟨delay, returned, low, high.trans (min_le_left ..)⟩

theorem Nats.newRetryConfig_ok {config accepted : Nats.RetryConfig}
    (valid : Nats.newRetryConfig config = some accepted) :
    0 < accepted.baseRetry.toInt ∧ accepted.baseRetry.toInt ≤ accepted.maxRetry.toInt := by
  simp only [Nats.newRetryConfig] at valid
  split_ifs at valid with refused
  rw [← Option.some.inj valid]
  have zero : (0 : Int64).toInt = 0 := rfl
  simp only [not_or, Int64.le_iff_toInt_le, Int64.lt_iff_toInt_lt, not_le, not_lt, zero] at refused
  exact refused

/-- The bound of the random draw wraps when the delay is the longest duration. -/
theorem nats_retry_delay_bounds_iff (source : Option Nat) (config accepted : Nats.RetryConfig)
    (attempt : UInt64) (valid : Nats.newRetryConfig config = some accepted) :
    (∃ delay : Int64, Nats.retryDelayOf source accepted attempt = some delay ∧ 0 ≤ delay.toInt ∧
        delay.toInt ≤ min accepted.maxRetry.toInt (accepted.baseRetry.toInt *
          2 ^ (attempt.toNat - 1))) ↔
      min accepted.maxRetry.toInt (accepted.baseRetry.toInt * 2 ^ (attempt.toNat - 1)) ≠ 2 ^ 63 -
        1 := by
  obtain ⟨positive, ordered⟩ := Nats.newRetryConfig_ok valid
  have exact := backoff_toInt attempt positive ordered
  have least := backoff_pos attempt positive ordered
  have limit := (backoff accepted.baseRetry accepted.maxRetry attempt).toInt_lt
  have one : (1 : Int64).toInt = 1 := rfl
  rw [← exact]
  unfold Nats.retryDelayOf
  simp only [Int64.le_iff_toInt_le, one]
  by_cases small : (backoff accepted.baseRetry accepted.maxRetry attempt).toInt ≤ 1
  · rw [if_pos small]
    exact ⟨fun _ => by omega, fun _ => ⟨_, rfl, by omega, le_refl _⟩⟩
  · rw [if_neg small]
    by_cases longest : (backoff accepted.baseRetry accepted.maxRetry attempt).toInt = 2 ^ 63 - 1
    · have wraps : (backoff accepted.baseRetry accepted.maxRetry attempt + 1).toInt ≤ 0 := by
        rw [Int64.toInt_add, one, longest]
        decide
      unfold randInt
      rw [if_pos wraps]
      exact ⟨fun returned => absurd returned (by simp), fun other => absurd longest other⟩
    · have next : (backoff accepted.baseRetry accepted.maxRetry attempt + 1).toInt =
          (backoff accepted.baseRetry accepted.maxRetry attempt).toInt + 1 :=
            add_toInt (by omega) (by omega)
      refine ⟨fun _ => longest, fun _ => ?_⟩
      rcases randInt_value source (backoff accepted.baseRetry accepted.maxRetry attempt + 1)
          (by omega) with
        ⟨failed, _⟩ | ⟨_, value, _, drawn, _, low, high⟩
      · rw [failed]
        exact ⟨_, rfl, by omega, le_refl _⟩
      · rw [drawn]
        exact ⟨value, rfl, low, by omega⟩

theorem nats_retry_delay_bounds_default :
    ∃ delay : Int64, Nats.retryDelayOf (some 7) ⟨1000000000, 300000000000⟩ 3 =
      some delay ∧ 0 ≤ delay.toInt := by
  obtain ⟨delay, returned, low, _⟩ :=
    (nats_retry_delay_bounds_iff (some 7) ⟨0, 0⟩ ⟨1000000000, 300000000000⟩ 3
    (by decide)).mpr (by decide)
  exact ⟨delay, returned, low⟩

/-- A consumer may retry after the longest duration, and then it panics. -/
theorem nats_retry_delay_panics :
    Nats.newRetryConfig ⟨Int64.maxValue, Int64.maxValue⟩ = some ⟨Int64.maxValue, Int64.maxValue⟩ ∧
      Nats.retryDelayOf none ⟨Int64.maxValue, Int64.maxValue⟩ 1 = none := by
  decide

end Gomessenger.Consumer
