import Mathlib.Data.List.GetD
import Gomessenger.Lib.Utf8

/-! Trimming, repairing and cutting byte strings along their characters. -/

namespace Utf8

def Rune.bytes : Rune → Bytes
  | .scalar char => encode char
  | .stray byte => [byte]

def trimRunes (dropped : Rune → Bool) (text : Bytes) : Bytes :=
  (((runes text).dropWhile dropped).reverse.dropWhile dropped).reverse.flatMap Rune.bytes

/-- Every run of stray bytes as one U+FFFD; the flag tells that a run goes on. -/
def repairFrom : Bool → List Rune → Bytes
  | _, [] => []
  | _, .scalar char :: rest => encode char ++ repairFrom false rest
  | true, .stray _ :: rest => repairFrom true rest
  | false, .stray _ :: rest => encode replacement ++ repairFrom true rest

def toValidUTF8 (text : Bytes) : Bytes := repairFrom false (runes text)

theorem valid_repairFrom (within : Bool) (pieces : List Rune) :
    Valid (repairFrom within pieces) := by
  induction pieces generalizing within with
  | nil => exact valid_nil
  | cons piece rest ih =>
    cases piece with
    | scalar char =>
      rw [repairFrom]
      exact (valid_encode char _).mpr (ih false)
    | stray byte =>
      cases within with
      | true =>
        rw [repairFrom]
        exact ih true
      | false =>
        rw [repairFrom]
        exact (valid_encode replacement _).mpr (ih true)

variable (text : Bytes) (position limit : Nat)

theorem valid_toValidUTF8 : Valid (toValidUTF8 text) := valid_repairFrom false _

def runeStart (byte : UInt8) : Bool := byte &&& 0xc0 != 0x80

def startBefore (text : Bytes) : Nat → Nat
  | 0 => 0
  | position + 1 =>
    if runeStart (text.getD (position + 1) 0) then position + 1 else startBefore text position

/-- A text of more than `limit` bytes cut before the rune that goes past it. -/
def cutAt (limit : Nat) (text : Bytes) : Bytes :=
  if limit < text.length then text.take (startBefore text limit) else text

theorem encode_tail (char : Char) : ∀ byte ∈ (encode char).tail, runeStart byte = false := by
  have low : ∀ value < 64, runeStart (UInt8.ofNat (value + 128)) = false := by decide
  have continues : ∀ value, runeStart (UInt8.ofNat (value % 64 + 128)) = false :=
    fun value => low _ (Nat.mod_lt _ (by decide))
  have none : ∀ byte ∈ ([] : Bytes), runeStart byte = false := nofun
  simp only [encode, String.utf8EncodeChar]
  split
  · exact none
  · split
    · exact List.forall_mem_cons.mpr ⟨continues _, none⟩
    · split
      · exact List.forall_mem_cons.mpr ⟨continues _, List.forall_mem_cons.mpr ⟨continues _, none⟩⟩
      · exact List.forall_mem_cons.mpr ⟨continues _, List.forall_mem_cons.mpr ⟨continues _,
          List.forall_mem_cons.mpr ⟨continues _, none⟩⟩⟩

theorem startBefore_le : startBefore text position ≤ position := by
  induction position with
  | zero => exact Nat.le_refl 0
  | succ position ih =>
    unfold startBefore
    split
    · exact Nat.le_refl _
    · exact Nat.le_succ_of_le ih

theorem startBefore_starts :
    startBefore text position = 0 ∨ runeStart (text.getD (startBefore text position) 0) = true := by
  induction position with
  | zero => exact .inl rfl
  | succ position ih =>
    unfold startBefore
    split
    next starts => exact .inr starts
    · exact ih

theorem Valid.take {text : Bytes} (valid : Valid text) {position : Nat}
    (starts : position = 0 ∨ runeStart (text.getD position 0) = true) :
    Valid (text.take position) := by
  refine Valid.induction (motive := fun text => ∀ position,
    (position = 0 ∨ runeStart (text.getD position 0) = true) →
      Valid (text.take position)) ?_ ?_ valid position starts
  · intro position _
    rw [List.take_nil]
    exact valid_nil
  · intro char rest _ ih position starts
    by_cases inside : position < (encode char).length
    · rcases starts with rfl | starts
      · exact valid_nil
      by_cases first : position = 0
      · rw [first]
        exact valid_nil
      have continues : runeStart ((encode char).getD position 0) = false := by
        obtain ⟨head, tail, spelt⟩ := encode_cons char
        obtain ⟨before, rfl⟩ : ∃ before, position = before + 1 := ⟨position - 1, by omega⟩
        rw [spelt, List.length_cons, Nat.add_lt_add_iff_right] at inside
        rw [spelt, List.getD_cons_succ, List.getD_eq_getElem _ _ inside]
        apply encode_tail char
        rw [spelt]
        exact List.getElem_mem inside
      rw [List.getD_append _ _ _ _ inside, continues] at starts
      exact absurd starts (by decide)
    · have beyond := Nat.not_lt.mp inside
      rw [List.take_append, List.take_of_length_le beyond]
      apply (valid_encode char _).mpr
      apply ih
      rcases starts with rfl | starts
      · exact .inl (Nat.zero_sub _)
      · rw [List.getD_append_right _ _ _ _ beyond] at starts
        exact .inr starts

theorem valid_around {left right : Bytes} {byte : UInt8} (ascii : byte < 0x80) :
    Valid (left ++ byte :: right) ↔ Valid left ∧ Valid right := by
  have after : Valid left → (Valid (left ++ byte :: right) ↔ Valid right) := by
    intro valid
    refine Valid.induction (motive := fun left => Valid (left ++ byte :: right) ↔
      Valid right) ?_ ?_ valid
    · exact valid_cons ascii
    · intro char rest _ ih
      rw [List.append_assoc, valid_encode, ih]
  constructor
  · intro valid
    have starts : ∀ byte : UInt8, byte < 0x80 → runeStart byte = true := by
      apply forall_byte
      decide +kernel
    have before : Valid ((left ++ byte :: right).take left.length) := by
      apply valid.take
      rw [List.getD_append_right _ _ _ _ (Nat.le_refl _), Nat.sub_self]
      exact .inr (starts byte ascii)
    rw [List.take_left] at before
    exact ⟨before, (after before).mp valid⟩
  · rintro ⟨before, later⟩
    exact (after before).mpr later

theorem valid_cutAt {text : Bytes} (valid : Valid text) : Valid (cutAt limit text) := by
  unfold cutAt
  split
  · exact valid.take (startBefore_starts text limit)
  · exact valid

theorem cutAt_length (text : Bytes) : (cutAt limit text).length ≤ limit := by
  unfold cutAt
  split
  · rw [List.length_take]
    exact Nat.le_trans (Nat.min_le_left _ _) (startBefore_le text limit)
  next short => exact Nat.not_lt.mp short

end Utf8
