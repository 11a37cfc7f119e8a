import Mathlib.Data.List.Forall2
import Mathlib.Tactic.Common
import Mathlib.Tactic.Linarith

/-! Inversion of fallible computations: what is known once one has returned. -/

namespace Fallible

variable {E A B : Type}

theorem bind_ok {computation : Except E A} {next : A → Except E B} {result : B} :
    (computation >>= next) = .ok result ↔ ∃ value, computation = .ok value ∧
      next value = .ok result := by
  cases computation with
  | error err => simp [bind, Except.bind]
  | ok value => simp [bind, Except.bind]

theorem check_ok {condition : Prop} [Decidable condition] {err : E}
    {next : PUnit → Except E B} {result : B} :
    (if condition then throw err >>= next else next PUnit.unit) = .ok result ↔
      ¬ condition ∧ next PUnit.unit = .ok result := by
  by_cases holds : condition <;> simp [holds, bind, Except.bind, throw,
    throwThe, MonadExceptOf.throw]

theorem mapM_ok {each : A → Except E B} {items : List A} {results : List B}
    (returned : items.mapM each = .ok results) :
    List.Forall₂ (fun item result => each item = .ok result) items results := by
  induction items generalizing results with
  | nil =>
    rw [List.mapM_nil] at returned
    rw [← Except.ok.inj returned]
    exact .nil
  | cons item rest ih =>
    rw [List.mapM_cons] at returned
    obtain ⟨first, isFirst, returned⟩ := bind_ok.mp returned
    obtain ⟨others, areOthers, returned⟩ := bind_ok.mp returned
    rw [← Except.ok.inj returned]
    exact .cons isFirst (ih areOthers)

/-- A computation that hands over, with its value, that it returned it. -/
def known (computation : Except E A) : Except E { value : A // computation = .ok value } :=
  match computation with
  | .error err => .error err
  | .ok value => .ok ⟨value, rfl⟩

variable {result : Except E A}

theorem toOption_ok {value : A} : result.toOption = some value ↔ result = .ok value := by
  cases result <;> simp [Except.toOption]

theorem exists_ok (accepted : result.toOption.isSome = true) : ∃ value, result = .ok value := by
  cases result with
  | error err => exact absurd accepted (by simp [Except.toOption])
  | ok value => exact ⟨value, rfl⟩

end Fallible
