import Gomessenger.Lib.JsonText

/-! Searching byte strings, reading numbers in them, and their lower case. -/

namespace Strings

open Decimal Json Utf8

def index (text sought : Bytes) : Option Nat := text.tails.findIdx? sought.isPrefixOf

def lastIndex (text sought : Bytes) : Option Nat :=
  (text.tails.reverse.findIdx? sought.isPrefixOf).map (text.length - ·)

def integer? (text : Bytes) : Option Int :=
  if text.head? = some 0x2b then (value? text.tail).map (fun value : Nat => (value : Int))
  else intOf? text

def parseInt (bits : Nat) (text : Bytes) : Option Int := do
  let value ← integer? text
  if -2 ^ (bits - 1) ≤ value ∧ value < 2 ^ (bits - 1) then return value else none

def atoi (text : Bytes) : Option Int64 := (parseInt 64 text).map Int64.ofInt

def parseUint (bits : Nat) (text : Bytes) : Option Nat := do
  let value ← value? text
  if value < 2 ^ bits then return value else none

/-- `unicode.ToLower`, for the characters whose lower case is an ASCII letter. -/
def lowerChar (char : Char) : Char :=
  if 'A' ≤ char ∧ char ≤ 'Z' then Char.ofNat (char.toNat + 32)
  else if char = '\u0130' then 'i'
  else if char = '\u212a' then 'k'
  else char

def lowerRune : Rune → Bytes
  | .scalar char => encode (lowerChar char)
  | .stray _ => encode replacement

/-- `strings.ToLower`, as far as comparisons with ASCII texts can tell. -/
def toLower (text : Bytes) : Bytes := (runes text).flatMap lowerRune

theorem text_digits (value : Nat) : ∀ byte ∈ Decimal.text value, isDigit byte = true :=
  List.all_eq_true.mp (textFrom_spec (value + 1) value (Nat.lt_succ_self value)).2.1

variable {width value : Nat}

theorem textFrom_length (fuel : Nat) (positive : 0 < width) (fits : value < 10 ^ width) :
    (textFrom fuel value).length ≤ width := by
  induction fuel generalizing width value with
  | zero => exact Nat.zero_le width
  | succ fuel ih =>
    unfold textFrom
    split
    · exact positive
    next large =>
      obtain ⟨width, rfl⟩ : ∃ less, width = less + 1 := ⟨width - 1, by omega⟩
      have more : width ≠ 0 := by
        rintro rfl
        exact large fits
      have quotient : value / 10 < 10 ^ width := by
        rw [Nat.pow_succ] at fits
        omega
      rw [List.length_append, List.length_singleton]
      exact Nat.succ_le_succ (ih (Nat.pos_of_ne_zero more) quotient)

theorem text_length (positive : 0 < width) (fits : value < 10 ^ width) :
    (Decimal.text value).length ≤ width := textFrom_length _ positive fits

theorem intText_length {value : Int} (positive : 0 < width) (fits : value.natAbs < 10 ^ width) :
    (intText value).length ≤ width + 1 := by
  have digits := text_length positive fits
  unfold intText
  split
  · exact Nat.succ_le_succ digits
  · exact Nat.le_succ_of_le digits

theorem text_ne_nil (value : Nat) : Decimal.text value ≠ [] := by
  intro empty
  have spelt := value?_text value
  rw [empty] at spelt
  exact absurd spelt (by simp [value?])

theorem intText_unsigned (value : Int) : (intText value).head? ≠ some 0x2b := by
  intro plus
  unfold intText at plus
  split at plus
  · cases plus
  · exact absurd (text_digits _ 0x2b (List.mem_of_head? plus)) (by decide)

theorem intText_ne_nil (value : Int) : intText value ≠ [] := by
  intro empty
  have spelt := intOf?_intText value
  rw [empty] at spelt
  exact absurd spelt (by simp [intOf?])

theorem integer?_intText (value : Int) : integer? (intText value) = some value := by
  rw [integer?, if_neg (intText_unsigned value), intOf?_intText]

theorem parseInt_intText (bits : Nat) {value : Int} (low : -2 ^ (bits - 1) ≤ value)
    (high : value < 2 ^ (bits - 1)) : parseInt bits (intText value) = some value := by
  simp only [parseInt, integer?_intText, Option.bind_eq_bind, Option.bind_some,
    if_pos (And.intro low high)]
  rfl

theorem atoi_intText (value : Int64) : atoi (intText value.toInt) = some value := by
  rw [atoi, parseInt_intText 64 value.le_toInt value.toInt_lt, Option.map_some, Int64.ofInt_toInt]

theorem atoi_some {text : Bytes} {value : Int64} :
    atoi text = some value ↔ integer? text = some value.toInt := by
  constructor
  · intro read
    obtain ⟨found, parsed, rfl⟩ := Option.map_eq_some_iff.mp read
    obtain ⟨other, isInteger, inside⟩ := Option.bind_eq_some_iff.mp parsed
    obtain ⟨bounds, same⟩ := Option.ite_none_right_eq_some.mp inside
    obtain rfl := Option.some.inj same
    rw [isInteger, Int64.toInt_ofInt_of_le bounds.1 bounds.2]
  · intro isInteger
    simp only [atoi, parseInt, isInteger, Option.bind_eq_bind, Option.bind_some,
      if_pos (And.intro value.le_toInt value.toInt_lt)]
    exact congrArg some value.ofInt_toInt

theorem parseInt_bounds {bits : Nat} {text : Bytes} {value : Int}
    (parsed : parseInt bits text = some value) :
    -2 ^ (bits - 1) ≤ value ∧ value < 2 ^ (bits - 1) := by
  obtain ⟨found, _, inside⟩ := Option.bind_eq_some_iff.mp parsed
  obtain ⟨bounds, same⟩ := Option.ite_none_right_eq_some.mp inside
  rw [← Option.some.inj same]
  exact bounds

theorem parseUint_text (bits : Nat) (small : value < 2 ^ bits) :
    parseUint bits (Decimal.text value) = some value := by
  simp only [parseUint, value?_text, Option.bind_eq_bind, Option.bind_some, if_pos small]
  rfl

end Strings
