import Mathlib.Data.List.Basic
import Mathlib.Tactic.Common
import Mathlib.Tactic.Linarith

/-! The proleptic Gregorian calendar. Days are counted from 1 January of year 1. -/

namespace Calendar

def isLeap (year : Int) : Bool := year % 4 == 0 && (year % 100 != 0 || year % 400 == 0)

def yearStart (year : Int) : Int :=
  365 * (year - 1) + (year - 1) / 4 - (year - 1) / 100 + (year - 1) / 400

def yearLength (year : Int) : Nat := if isLeap year then 366 else 365

structure Cycles where
  fourCenturies : Int
  centuries : Int
  fours : Int
  ones : Int

def cyclesOf (day : Int) : Cycles :=
  let centuries := min (day % 146097 / 36524) 3
  let inCentury := day % 146097 - centuries * 36524
  ⟨day / 146097, centuries, inCentury / 1461, min (inCentury % 1461 / 365) 3⟩

def yearOf (day : Int) : Int :=
  let cycles := cyclesOf day
  400 * cycles.fourCenturies + 100 * cycles.centuries + 4 * cycles.fours + cycles.ones + 1

variable (day year : Int)

theorem cyclesOf_bounds : 0 ≤ (cyclesOf day).centuries ∧ (cyclesOf day).centuries ≤ 3 ∧
      0 ≤ (cyclesOf day).fours ∧ (cyclesOf day).fours ≤ 24 ∧
      0 ≤ (cyclesOf day).ones ∧ (cyclesOf day).ones ≤ 3 ∧
      ∃ left, day = 146097 * (cyclesOf day).fourCenturies + 36524 * (cyclesOf day).centuries +
          1461 * (cyclesOf day).fours + 365 * (cyclesOf day).ones + left ∧ 0 ≤ left ∧ left ≤ 365 ∧
        (left = 365 → (cyclesOf day).ones = 3 ∧
          ((cyclesOf day).fours = 24 → (cyclesOf day).centuries = 3)) := by
  simp only [cyclesOf]
  refine ⟨by omega, by omega, by omega, by omega, by omega, by omega,
    (day % 146097 - min (day % 146097 / 36524) 3 * 36524) % 1461 -
      min ((day % 146097 - min (day % 146097 / 36524) 3 * 36524) % 1461 / 365) 3 * 365,
    by omega, by omega, by omega, fun _ => ⟨by omega, by omega⟩⟩

theorem yearOf_start : yearStart (yearOf day) = 146097 * (cyclesOf day).fourCenturies +
      36524 * (cyclesOf day).centuries + 1461 * (cyclesOf day).fours + 365 *
        (cyclesOf day).ones := by
  obtain ⟨_, _, _, _, _, _, _⟩ := cyclesOf_bounds day
  simp only [yearStart, yearOf]
  omega

theorem yearOf_bounds : yearStart (yearOf day) ≤ day ∧ day < yearStart (yearOf day) +
    yearLength (yearOf day) := by
  obtain ⟨_, _, _, _, _, _, left, split, _, _, last⟩ := cyclesOf_bounds day
  rw [yearOf_start]
  refine ⟨by omega, ?_⟩
  by_cases longest : left = 365
  · obtain ⟨single, century⟩ := last longest
    have leap : isLeap (yearOf day) = true := by
      simp only [isLeap, yearOf, single, Bool.and_eq_true, Bool.or_eq_true, beq_iff_eq, bne_iff_ne]
      omega
    simp only [yearLength, leap, if_true]
    omega
  · have long : 365 ≤ yearLength (yearOf day) := by
      unfold yearLength
      split <;> omega
    omega

/-- The month a day of the year falls in, counted from zero, and the day of that
month, counted from zero. -/
def monthOf : List Nat → Nat → Nat × Nat
  | [], day => (0, day)
  | length :: rest, day =>
    if day < length then (0, day)
    else ((monthOf rest (day - length)).1 + 1, (monthOf rest (day - length)).2)

theorem monthOf_bounds (lengths : List Nat) (day : Nat) (inside : day < lengths.sum) :
    (lengths.take (monthOf lengths day).1).sum + (monthOf lengths day).2 = day ∧
      ∃ length, lengths[(monthOf lengths day).1]? = some length ∧
        (monthOf lengths day).2 < length := by
  induction lengths generalizing day with
  | nil => cases inside
  | cons length rest ih =>
    by_cases first : day < length
    · simp [monthOf, first]
    · rw [List.sum_cons] at inside
      obtain ⟨total, found⟩ := ih (day - length) (by omega)
      simp only [monthOf, first, if_false, List.take_succ_cons, List.sum_cons,
        List.getElem?_cons_succ]
      exact ⟨by omega, found⟩

def monthLengths (year : Int) : List Nat :=
  [31, if isLeap year then 29 else 28, 31, 30, 31, 30, 31, 31, 30, 31, 30, 31]

theorem monthLengths_sum : (monthLengths year).sum = yearLength year := by
  unfold monthLengths yearLength
  cases isLeap year <;> rfl

structure Date where
  year : Int
  month : Nat
  day : Nat
  deriving DecidableEq, Repr

def daysIn (year : Int) (month : Nat) : Nat := ((monthLengths year)[month - 1]?).getD 0

theorem daysIn_le (month : Nat) : daysIn year month ≤ 31 := by
  have every : ∀ length ∈ monthLengths year, length ≤ 31 := by
    unfold monthLengths
    cases isLeap year <;> decide
  unfold daysIn
  cases found : (monthLengths year)[month - 1]? with
  | none => exact Nat.zero_le 31
  | some length => exact every length (List.mem_of_getElem? found)

def Date.Valid (date : Date) : Prop :=
  1 ≤ date.month ∧ date.month ≤ 12 ∧ 1 ≤ date.day ∧ date.day ≤ daysIn date.year date.month

def dateOf (day : Int) : Date :=
  let year := yearOf day
  let found := monthOf (monthLengths year) (day - yearStart year).toNat
  ⟨year, found.1 + 1, found.2 + 1⟩

def dayOf (date : Date) : Int :=
  yearStart date.year + ((monthLengths date.year).take (date.month - 1)).sum + (date.day - 1 : Nat)

theorem dayInYear : (day - yearStart (yearOf day)).toNat < (monthLengths (yearOf day)).sum := by
  obtain ⟨after, before⟩ := yearOf_bounds day
  rw [monthLengths_sum]
  omega

theorem dayOf_dateOf : dayOf (dateOf day) = day := by
  obtain ⟨total, _⟩ := monthOf_bounds _ _ (dayInYear day)
  have after := (yearOf_bounds day).1
  simp only [dayOf, dateOf, Nat.add_sub_cancel]
  omega

theorem dateOf_valid : (dateOf day).Valid := by
  obtain ⟨_, length, found, inside⟩ := monthOf_bounds _ _ (dayInYear day)
  have month : (monthOf (monthLengths (yearOf day)) (day - yearStart (yearOf day)).toNat).1 < 12 :=
    (List.getElem?_eq_some_iff.mp found).1
  refine ⟨by simp [dateOf], month, by simp [dateOf], ?_⟩
  simp only [daysIn, dateOf, Nat.add_sub_cancel, found, Option.getD_some]
  omega

end Calendar
