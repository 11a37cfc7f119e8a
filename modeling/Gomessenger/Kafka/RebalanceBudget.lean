import Gomessenger.Kafka.Wire.Topics
import Gomessenger.Consumer.Backoff

/-! The rebalance timeout of a batch consumer, on 64-bit durations.

The durations printed in the error texts are left out. -/

namespace Gomessenger.Kafka

open Gomessenger.Consumer (bmod_small add_toInt)
open KafkaWire (invalidConfig)

def defaultConsumerRebalanceTimeout : Int64 := 60000000000

def defaultBatchRebalanceSafetyMargin : Int64 := 5000000000

def maxKafkaRebalanceTimeout : Int64 := 2147483647000000

def maxDuration : Int64 := 9223372036854775807

def handlerTransactionTimeout (handlerTimeout finalizationTimeout : Int64) : Int64 :=
  if handlerTimeout > maxDuration - finalizationTimeout then maxDuration
  else handlerTimeout + finalizationTimeout

/-- The budget once the batch wait and the handler transaction are known to fit
in the longest timeout, with what remains of it. -/
def budgetWithin (batchMaxWait handlerTx operationTimeout remaining : Int64) :
    Except GoError Int64 :=
  let totalBrokerTimeout := 2 * operationTimeout
  if totalBrokerTimeout > remaining then .error (invalidConfig "batch broker operation timeout")
  else if defaultBatchRebalanceSafetyMargin > remaining - totalBrokerTimeout then
    .error (invalidConfig "batch rebalance budget")
  else .ok (max defaultConsumerRebalanceTimeout
    (batchMaxWait + handlerTx + totalBrokerTimeout + defaultBatchRebalanceSafetyMargin))

def batchConsumerRebalanceTimeout (batchMaxWait handlerTimeout finalizationTimeout
    operationTimeout : Int64) :
    Except GoError Int64 :=
  if batchMaxWait < 0 ∨ handlerTimeout < 0 ∨ finalizationTimeout < 0 ∨ operationTimeout < 0 then
    .error (invalidConfig "negative timeout in batch rebalance calculation")
  else if batchMaxWait > maxKafkaRebalanceTimeout then .error (invalidConfig "batch MaxWait")
  else if handlerTransactionTimeout handlerTimeout finalizationTimeout >
      maxKafkaRebalanceTimeout - batchMaxWait then
    .error (invalidConfig "batch handler transaction timeout")
  else budgetWithin batchMaxWait (handlerTransactionTimeout handlerTimeout finalizationTimeout)
    operationTimeout
    (maxKafkaRebalanceTimeout - batchMaxWait - handlerTransactionTimeout
      handlerTimeout finalizationTimeout)

/-- The sum the timeout has to cover, in exact arithmetic. -/
def exactBudget (batchMaxWait handlerTimeout finalizationTimeout operationTimeout : Int64) : Int :=
  batchMaxWait.toInt + handlerTimeout.toInt + finalizationTimeout.toInt + 2 *
    operationTimeout.toInt +
    defaultBatchRebalanceSafetyMargin.toInt

/-- The timeout covers the exact sum and is one Kafka accepts; a longer sum is refused. -/
def BudgetKept (batchMaxWait handlerTimeout finalizationTimeout operationTimeout : Int64) : Prop :=
  (∀ timeout, batchConsumerRebalanceTimeout batchMaxWait handlerTimeout
    finalizationTimeout operationTimeout =
      .ok timeout → exactBudget batchMaxWait handlerTimeout finalizationTimeout
        operationTimeout ≤ timeout.toInt ∧
        timeout.toInt ≤ maxKafkaRebalanceTimeout.toInt) ∧
    (maxKafkaRebalanceTimeout.toInt < exactBudget batchMaxWait handlerTimeout
      finalizationTimeout operationTimeout →
      ∃ err, batchConsumerRebalanceTimeout batchMaxWait handlerTimeout
        finalizationTimeout operationTimeout =
        .error err)

section Exact

variable {batchMaxWait handlerTimeout finalizationTimeout operationTimeout : Int64}

theorem handlerTransactionTimeout_toInt (handler : 0 ≤ handlerTimeout.toInt)
    (finalization : 0 ≤ finalizationTimeout.toInt) :
    (handlerTransactionTimeout handlerTimeout finalizationTimeout).toInt =
      min (2 ^ 63 - 1) (handlerTimeout.toInt + finalizationTimeout.toInt) := by
  have longest : maxDuration.toInt = 2 ^ 63 - 1 := rfl
  have handlerLimit := handlerTimeout.toInt_lt
  have finalizationLimit := finalizationTimeout.toInt_lt
  have rest : (maxDuration - finalizationTimeout).toInt = 2 ^ 63 - 1 -
      finalizationTimeout.toInt := by
    rw [Int64.toInt_sub, longest, bmod_small (by omega) (by omega)]
  unfold handlerTransactionTimeout
  simp only [gt_iff_lt, Int64.lt_iff_toInt_lt, rest]
  split_ifs with exceeds
  · omega
  · rw [add_toInt (by omega) (by omega)]
    omega

theorem max_toInt (left right : Int64) : (max left right).toInt = max left.toInt right.toInt := by
  change (if left ≤ right then right else left).toInt = _
  simp only [Int64.le_iff_toInt_le]
  split_ifs with below
  · rw [max_eq_right below]
  · rw [max_eq_left (by omega)]

theorem doubled_toInt (operation : 0 ≤ operationTimeout.toInt) : (2 * operationTimeout).toInt =
      if operationTimeout.toInt < 2 ^ 62 then 2 * operationTimeout.toInt
        else 2 * operationTimeout.toInt - 2 ^ 64 := by
  have two : (2 : Int64).toInt = 2 := rfl
  have limit := operationTimeout.toInt_lt
  rw [Int64.toInt_mul, two, Int.bmod_def]
  split_ifs <;> omega

theorem budgetWithin_ok {handlerTx remaining timeout : Int64}
    (operation : 0 ≤ operationTimeout.toInt)
    (wait : 0 ≤ batchMaxWait.toInt) (handler : 0 ≤ handlerTx.toInt)
    (split : remaining.toInt + batchMaxWait.toInt + handlerTx.toInt =
      maxKafkaRebalanceTimeout.toInt)
    (left : 0 ≤ remaining.toInt)
    (returned : budgetWithin batchMaxWait handlerTx operationTimeout remaining = .ok timeout) :
    operationTimeout.toInt < 2 ^ 62 ∧
        2 * operationTimeout.toInt + defaultBatchRebalanceSafetyMargin.toInt ≤ remaining.toInt ∧
        timeout.toInt = max defaultConsumerRebalanceTimeout.toInt
          (batchMaxWait.toInt + handlerTx.toInt +
          2 * operationTimeout.toInt + defaultBatchRebalanceSafetyMargin.toInt) ∨
      remaining.toInt + 2 ^ 63 < 2 * operationTimeout.toInt ∧
        2 * operationTimeout.toInt + defaultBatchRebalanceSafetyMargin.toInt ≤
          remaining.toInt + 2 ^ 64 := by
  have longest : maxKafkaRebalanceTimeout.toInt = 2147483647000000 := rfl
  have margin : defaultBatchRebalanceSafetyMargin.toInt = 5000000000 := rfl
  have least : defaultConsumerRebalanceTimeout.toInt = 60000000000 := rfl
  have doubled := doubled_toInt operation
  have limit := operationTimeout.toInt_lt
  unfold budgetWithin at returned
  simp only [gt_iff_lt, Int64.lt_iff_toInt_lt, Int64.toInt_sub] at returned
  split_ifs at returned with broker short
  by_cases plain : operationTimeout.toInt < 2 ^ 62
  · rw [if_pos plain] at doubled
    rw [bmod_small (by omega) (by omega)] at short
    refine .inl ⟨plain, by omega, ?_⟩
    rw [← Except.ok.inj returned, max_toInt]
    have waited : (batchMaxWait + handlerTx).toInt = batchMaxWait.toInt + handlerTx.toInt :=
      add_toInt (by omega) (by omega)
    have brokered : (batchMaxWait + handlerTx + 2 * operationTimeout).toInt =
        batchMaxWait.toInt + handlerTx.toInt + 2 * operationTimeout.toInt := by
      rw [add_toInt (by omega) (by omega), waited, doubled]
    rw [add_toInt (by omega) (by omega), brokered]
  · rw [if_neg plain] at doubled
    rw [Int.bmod_def] at short
    refine .inr ⟨?_, ?_⟩
    · split_ifs at short <;> omega
    · split_ifs at short <;> omega

theorem rebalanceTimeout_eq (wait : 0 ≤ batchMaxWait.toInt) (handler : 0 ≤ handlerTimeout.toInt)
    (finalization : 0 ≤ finalizationTimeout.toInt) (operation : 0 ≤ operationTimeout.toInt) :
    (∃ err, batchConsumerRebalanceTimeout batchMaxWait handlerTimeout
      finalizationTimeout operationTimeout =
          .error err) ∧
        maxKafkaRebalanceTimeout.toInt < batchMaxWait.toInt + handlerTimeout.toInt +
          finalizationTimeout.toInt ∨
      ∃ handlerTx remaining : Int64, handlerTx.toInt = handlerTimeout.toInt +
        finalizationTimeout.toInt ∧
        remaining.toInt + batchMaxWait.toInt + handlerTx.toInt = maxKafkaRebalanceTimeout.toInt ∧
        0 ≤ remaining.toInt ∧
        batchConsumerRebalanceTimeout batchMaxWait handlerTimeout
          finalizationTimeout operationTimeout =
          budgetWithin batchMaxWait handlerTx operationTimeout remaining := by
  have longest : maxKafkaRebalanceTimeout.toInt = 2147483647000000 := rfl
  have zero : (0 : Int64).toInt = 0 := rfl
  have transaction := handlerTransactionTimeout_toInt handler finalization
  unfold batchConsumerRebalanceTimeout
  simp only [gt_iff_lt, Int64.lt_iff_toInt_lt, zero]
  rw [if_neg (by omega)]
  by_cases waits : maxKafkaRebalanceTimeout.toInt < batchMaxWait.toInt
  · rw [if_pos waits]
    exact .inl ⟨⟨_, rfl⟩, by omega⟩
  · have rest : (maxKafkaRebalanceTimeout - batchMaxWait).toInt =
        maxKafkaRebalanceTimeout.toInt - batchMaxWait.toInt := by
      rw [Int64.toInt_sub, bmod_small (by omega) (by omega)]
    rw [if_neg waits]
    by_cases exceeds : (maxKafkaRebalanceTimeout - batchMaxWait).toInt <
        (handlerTransactionTimeout handlerTimeout finalizationTimeout).toInt
    · rw [if_pos exceeds]
      exact .inl ⟨⟨_, rfl⟩, by omega⟩
    · rw [if_neg exceeds]
      refine .inr ⟨_, _, by omega, ?_, ?_, rfl⟩
      · rw [Int64.toInt_sub, bmod_small (by omega) (by omega)]
        omega
      · rw [Int64.toInt_sub, bmod_small (by omega) (by omega)]
        omega

theorem budgetWithin_refuses {handlerTx remaining : Int64} (operation : 0 ≤ operationTimeout.toInt)
    (left : 0 ≤ remaining.toInt) (bounded : remaining.toInt ≤ maxKafkaRebalanceTimeout.toInt) :
    (∃ err, budgetWithin batchMaxWait handlerTx operationTimeout remaining = .error err) ↔
      remaining.toInt < 2 * operationTimeout.toInt + defaultBatchRebalanceSafetyMargin.toInt ∧
        ¬ (remaining.toInt + 2 ^ 63 < 2 * operationTimeout.toInt ∧
          2 * operationTimeout.toInt + defaultBatchRebalanceSafetyMargin.toInt ≤
            remaining.toInt + 2 ^ 64) := by
  have longest : maxKafkaRebalanceTimeout.toInt = 2147483647000000 := rfl
  have margin : defaultBatchRebalanceSafetyMargin.toInt = 5000000000 := rfl
  have doubled := doubled_toInt operation
  have limit := operationTimeout.toInt_lt
  unfold budgetWithin
  simp only [gt_iff_lt, Int64.lt_iff_toInt_lt, Int64.toInt_sub]
  split_ifs at doubled with plain
  · split_ifs with broker short
    · simp only [Except.error.injEq, exists_eq', true_iff]
      omega
    · rw [bmod_small (by omega) (by omega)] at short
      simp only [Except.error.injEq, exists_eq', true_iff]
      omega
    · rw [bmod_small (by omega) (by omega)] at short
      simp only [exists_false, false_iff]
      omega
  · rw [Int.bmod_def]
    split_ifs <;> simp only [Except.error.injEq, exists_eq', true_iff, exists_false, false_iff] <;>
      omega

end Exact

/-- The budget is kept unless the doubled operation timeout wraps to a value that is accepted. -/
theorem batch_budget_kept_iff (batchMaxWait handlerTimeout finalizationTimeout
    operationTimeout : Int64)
    (wait : 0 ≤ batchMaxWait.toInt) (handler : 0 ≤ handlerTimeout.toInt)
    (finalization : 0 ≤ finalizationTimeout.toInt) (operation : 0 ≤ operationTimeout.toInt) :
    BudgetKept batchMaxWait handlerTimeout finalizationTimeout operationTimeout ↔
      ¬ (batchMaxWait.toInt + handlerTimeout.toInt + finalizationTimeout.toInt ≤
        maxKafkaRebalanceTimeout.toInt ∧
        maxKafkaRebalanceTimeout.toInt + 2 ^ 63 + defaultBatchRebalanceSafetyMargin.toInt <
          exactBudget batchMaxWait handlerTimeout finalizationTimeout operationTimeout ∧
        exactBudget batchMaxWait handlerTimeout finalizationTimeout operationTimeout ≤
          maxKafkaRebalanceTimeout.toInt + 2 ^ 64) := by
  have longest : maxKafkaRebalanceTimeout.toInt = 2147483647000000 := rfl
  have margin : defaultBatchRebalanceSafetyMargin.toInt = 5000000000 := rfl
  have least : defaultConsumerRebalanceTimeout.toInt = 60000000000 := rfl
  unfold BudgetKept exactBudget
  rcases rebalanceTimeout_eq wait handler finalization operation with
    ⟨⟨err, refused⟩, exceeds⟩ | ⟨handlerTx, remaining, transaction, split, left, within⟩
  · rw [refused]
    constructor
    · intro _
      omega
    · intro _
      exact ⟨fun timeout returned => (nomatch returned), fun _ => ⟨err, rfl⟩⟩
  · rw [within]
    constructor
    · rintro ⟨_, refuses⟩ ⟨_, wraps, small⟩
      have refused := (budgetWithin_refuses operation left (by omega)).mp (refuses (by omega))
      omega
    · intro wrapless
      constructor
      · intro timeout returned
        rcases budgetWithin_ok operation wait (by omega) split left returned
          with ⟨_, fits, value⟩ | wraps
        · omega
        · omega
      · intro exceeds
        exact (budgetWithin_refuses operation left (by omega)).mpr ⟨by omega, by omega⟩

theorem batch_budget_kept_sample : BudgetKept 5000000000 90000000000 20000000000 10000000000 :=
  (batch_budget_kept_iff 5000000000 90000000000 20000000000 10000000000
    (by decide) (by decide) (by decide)
    (by decide)).mpr (by decide)

/-- The longest operation timeout is taken for minus two nanoseconds. -/
theorem batch_budget_wraps :
    batchConsumerRebalanceTimeout 5000000000 90000000000 20000000000
      9223372036854775807 = .ok 119999999998 ∧
      maxKafkaRebalanceTimeout.toInt < exactBudget 5000000000 90000000000 20000000000
        9223372036854775807 := by
  decide

end Gomessenger.Kafka
