import Gomessenger.Lib.Utf8

/-! Decimal digits: padded to a width, or without leading zeros. -/

namespace Decimal

def isDigit (byte : UInt8) : Bool := decide (0x30 ≤ byte) && decide (byte ≤ 0x39)

def digit (value : Nat) : UInt8 := UInt8.ofNat (0x30 + value % 10)

def valueFrom : Nat → Bytes → Option Nat
  | prior, [] => some prior
  | prior, byte :: rest =>
    if isDigit byte then valueFrom (prior * 10 + (byte.toNat - 0x30)) rest else none

def value? (text : Bytes) : Option Nat := if text = [] then none else valueFrom 0 text

def padded : Nat → Nat → Bytes
  | 0, _ => []
  | width + 1, value => padded width (value / 10) ++ [digit value]

def textFrom : Nat → Nat → Bytes
  | 0, _ => []
  | fuel + 1, value =>
    if value < 10 then [digit value] else textFrom fuel (value / 10) ++ [digit value]

def text (value : Nat) : Bytes := textFrom (value + 1) value

theorem digit_facts : ∀ value < 10, isDigit (UInt8.ofNat (0x30 + value)) = true ∧
    (UInt8.ofNat (0x30 + value)).toNat - 0x30 = value ∧
      (UInt8.ofNat (0x30 + value) = 0x30 → value = 0) := by
  decide

variable (value width prior : Nat)

theorem digit_spec : isDigit (digit value) = true ∧ (digit value).toNat - 0x30 = value % 10 ∧
      (digit value = 0x30 → value % 10 = 0) :=
  digit_facts (value % 10) (Nat.mod_lt _ (by decide))

theorem valueFrom_append (left right : Bytes) :
    valueFrom prior (left ++ right) = (valueFrom prior left).bind
      (fun value => valueFrom value right) := by
  induction left generalizing prior with
  | nil => rfl
  | cons byte left ih =>
    simp only [List.cons_append, valueFrom]
    split
    · exact ih _
    · rfl

theorem valueFrom_digit (value : Nat) : valueFrom prior [digit value] =
    some (prior * 10 + value % 10) := by
  obtain ⟨isDigit, spelt, _⟩ := digit_spec value
  simp [valueFrom, isDigit, spelt]

@[simp] theorem padded_length (value : Nat) : (padded width value).length = width := by
  induction width generalizing value with
  | zero => rfl
  | succ width ih => simp [padded, ih]

theorem padded_digits (value : Nat) : (padded width value).all isDigit = true := by
  induction width generalizing value with
  | zero => rfl
  | succ width ih => simp [padded, ih, (digit_spec value).1]

theorem valueFrom_padded (value : Nat) (fits : value < 10 ^ width) :
    valueFrom prior (padded width value) = some (prior * 10 ^ width + value) := by
  induction width generalizing prior value with
  | zero =>
    rw [Nat.pow_zero, Nat.lt_one_iff] at fits
    simp [padded, valueFrom, fits]
  | succ width ih =>
    have smaller : value / 10 < 10 ^ width := by
      rw [Nat.pow_succ] at fits
      omega
    rw [padded, valueFrom_append, ih prior (value / 10) smaller, Option.bind_some,
      valueFrom_digit, Nat.pow_succ]
    congr 1
    have split := Nat.div_add_mod value 10
    rw [← Nat.mul_assoc]
    omega

theorem value?_padded (value : Nat) (positive : 0 < width) (fits : value < 10 ^ width) :
    value? (padded width value) = some value := by
  have nonempty : padded width value ≠ [] := by
    intro empty
    have length := padded_length width value
    rw [empty] at length
    exact absurd length (Nat.ne_of_lt positive)
  rw [value?, if_neg nonempty, valueFrom_padded width 0 value fits, Nat.zero_mul, Nat.zero_add]

theorem textFrom_spec (fuel value : Nat) (enough : value < fuel) :
    valueFrom 0 (textFrom fuel value) = some value ∧ (textFrom fuel value).all isDigit = true ∧
      ∃ first rest, textFrom fuel value = first :: rest ∧
        (first = 0x30 → value = 0 ∧ rest = []) := by
  induction fuel generalizing value with
  | zero => exact absurd enough (Nat.not_lt_zero value)
  | succ fuel ih =>
    obtain ⟨isDigit, _, zero⟩ := digit_spec value
    unfold textFrom
    split
    next small =>
      have low : value % 10 = value := Nat.mod_eq_of_lt small
      refine ⟨?_, by simp [isDigit], digit value, [], rfl, fun leading => ⟨?_, rfl⟩⟩
      · rw [valueFrom_digit, low, Nat.zero_mul, Nat.zero_add]
      · rw [← low]
        exact zero leading
    next large =>
      obtain ⟨spelt, digits, first, rest, shape, leading⟩ := ih (value / 10) (by omega)
      refine ⟨?_, by simp [digits, isDigit], first, rest ++ [digit value], by rw [shape]; rfl, ?_⟩
      · rw [valueFrom_append, spelt, Option.bind_some, valueFrom_digit]
        congr 1
        omega
      · intro isZero
        have := (leading isZero).1
        omega

theorem value?_text : value? (text value) = some value := by
  obtain ⟨spelt, _, first, rest, shape, _⟩ :=
    textFrom_spec (value + 1) value (Nat.lt_succ_self value)
  have nonempty : text value ≠ [] := by
    rw [text, shape]
    exact List.cons_ne_nil first rest
  rw [value?, if_neg nonempty]
  exact spelt

end Decimal
