import Mathlib.Data.List.Flatten
import Gomessenger.Kafka.Wire.DeadLetter

/-! The bounded text of a failure: repaired, and cut along its characters. -/

namespace Gomessenger.Messenger.FailureText

open Utf8
open KafkaWire (trimSpace truncate spaceRune)

def operationFailed : Bytes := ofString "messenger: operation failed"

section Sanitize

variable {E : Type} (builtIn : E → Bytes)

/-- A sanitizer that panics has an empty text. -/
def callFailureSanitizer (sanitizer : E → Option Bytes) (err : E) : Bytes := (sanitizer err).getD []

def sanitizeFailure (sanitizer : Option (E → Option Bytes)) : Option E → Bytes
  | none => []
  | some err =>
    let text := trimSpace (callFailureSanitizer (sanitizer.getD fun err => some (builtIn err)) err)
    if text = [] then operationFailed else toValidUTF8 text

def boundedFailureText (sanitizer : Option (E → Option Bytes)) (err : Option E)
    (limit : Int) : Bytes :=
  if limit ≤ 0 then [] else cutAt limit.toNat (sanitizeFailure builtIn sanitizer err)

end Sanitize

def Whole (text kept : Bytes) : Prop :=
  kept <+: text ∧ ∀ before char after, text = before ++ (encode char ++ after) →
    kept.length ≤ before.length ∨ before.length + (encode char).length ≤ kept.length

theorem Whole.refl (text : Bytes) : Whole text text := by
  refine ⟨List.prefix_refl text, fun before char after spelt => .inr ?_⟩
  rw [spelt, List.length_append, List.length_append]
  omega

theorem Whole.nil (text : Bytes) : Whole text [] :=
    ⟨List.nil_prefix, fun _ _ _ _ => .inl (Nat.zero_le _)⟩

variable {text : Bytes}

theorem whole_take {position : Nat} (inside : position ≤ text.length)
    (starts : position = 0 ∨ runeStart (text.getD position 0) = true) :
    Whole text (text.take position) := by
  refine ⟨List.take_prefix position text, fun before char after spelt => ?_⟩
  rw [List.length_take, Nat.min_eq_left inside]
  by_contra across
  rw [not_or, Nat.not_le, Nat.not_le] at across
  obtain ⟨offset, rfl⟩ : ∃ offset, position = before.length + (offset + 1) :=
    ⟨position - before.length - 1, by omega⟩
  have short : offset + 1 < (encode char).length := by omega
  have continues : runeStart (text.getD (before.length + (offset + 1)) 0) = false := by
    obtain ⟨head, tail, isChar⟩ := encode_cons char
    rw [isChar, List.length_cons] at short
    rw [spelt, List.getD_append_right _ _ _ _ (Nat.le_add_right _ _), Nat.add_sub_cancel_left,
      List.getD_append _ _ _ _ (by rw [isChar, List.length_cons]; omega), isChar,
      List.getD_cons_succ, List.getD_eq_getElem _ _ (by omega)]
    apply encode_tail char
    rw [isChar]
    exact List.getElem_mem _
  rcases starts with zero | starts
  · omega
  · rw [continues] at starts
    cases starts

theorem whole_cutAt (limit : Nat) (text : Bytes) : Whole text (cutAt limit text) := by
  unfold cutAt
  split
  next long =>
    have bounded := startBefore_le text limit
    exact whole_take (by omega) (startBefore_starts text limit)
  · exact .refl text

theorem Valid.toValidUTF8_eq (valid : Valid text) : toValidUTF8 text = text := by
  refine Valid.induction (motive := fun text => toValidUTF8 text = text) rfl ?_ valid
  intro char rest _ ih
  rw [toValidUTF8, runes_encode, repairFrom]
  exact congrArg (encode char ++ ·) ih

theorem runes_bytes (text : Bytes) : (runes text).flatMap Rune.bytes = text := by
  induction text using pieces_induction with
  | nil => rfl
  | char letter rest ih => rw [runes_encode, List.flatMap_cons, ih, Rune.bytes]
  | stray byte rest stray ih =>
    rw [runes_stray stray, List.flatMap_cons, ih, Rune.bytes, List.singleton_append]

theorem valid_bytes {pieces : List Rune} (valid : ∀ piece ∈ pieces, piece.valid = true) :
    Valid (pieces.flatMap Rune.bytes) := by
  induction pieces with
  | nil => exact valid_nil
  | cons piece rest ih =>
    obtain ⟨first, others⟩ := List.forall_mem_cons.mp valid
    cases piece with
    | scalar char => exact (valid_encode char _).mpr (ih others)
    | stray byte => cases first

theorem trimSpace_sublist (text : Bytes) :
    ((((runes text).dropWhile spaceRune).reverse.dropWhile spaceRune).reverse).Sublist
      (runes text) := by
  have later := List.dropWhile_sublist (l := ((runes text).dropWhile spaceRune).reverse) spaceRune
  exact ((List.reverse_reverse _ ▸ later.reverse).trans (List.dropWhile_sublist spaceRune))

theorem trimSpace_valid (valid : Valid text) : Valid (trimSpace text) :=
  valid_bytes fun piece member => List.all_eq_true.mp valid piece
    ((trimSpace_sublist text).subset member)

theorem trimSpace_length (text : Bytes) : (trimSpace text).length ≤ text.length := by
  have inner := ((trimSpace_sublist text).flatMap Rune.bytes).length_le
  rw [runes_bytes] at inner
  exact inner

structure Bounds (limit : Int) (text result : Bytes) : Prop where
  valid : Valid result
  short : result.length ≤ limit.toNat
  whole : ∃ kept, Whole text kept ∧ Whole (toValidUTF8 kept) result
  unchanged : Valid text → text.length ≤ limit → result = text

theorem cutAt_short {limit : Nat} (short : text.length ≤ limit) : cutAt limit text = text :=
  if_neg (Nat.not_lt.mpr short)

theorem truncate_bounds (value : Bytes) (limit : Int) :
    Bounds limit (trimSpace value) (truncate value limit.toNat) := by
  unfold truncate
  split
  next zero =>
    refine ⟨valid_nil, Nat.zero_le _, ⟨[], .nil _, .nil _⟩, fun _ short => ?_⟩
    exact (List.length_eq_zero_iff.mp (by omega)).symm
  · refine ⟨valid_cutAt _ (valid_toValidUTF8 _), cutAt_length _ _,
      ⟨_, whole_cutAt _ _, whole_cutAt _ _⟩, ?_⟩
    intro valid short
    have fits : (trimSpace value).length ≤ limit.toNat := by omega
    rw [cutAt_short fits, Valid.toValidUTF8_eq valid, cutAt_short fits]

section Failure

variable {E : Type} (builtIn : E → Bytes) (sanitizer : Option (E → Option Bytes))

theorem sanitizeFailure_valid (err : Option E) : Valid (sanitizeFailure builtIn sanitizer err) := by
  cases err with
  | none => exact valid_nil
  | some err =>
    unfold sanitizeFailure
    simp only
    split
    · exact valid_ofString _
    · exact valid_toValidUTF8 _

theorem boundedFailureText_bounds (err : Option E) (limit : Int) :
    Bounds limit (sanitizeFailure builtIn sanitizer err)
    (boundedFailureText builtIn sanitizer err limit) := by
  have valid := sanitizeFailure_valid builtIn sanitizer err
  unfold boundedFailureText
  split
  next none =>
    refine ⟨valid_nil, Nat.zero_le _, ⟨[], .nil _, .nil _⟩, fun _ short => ?_⟩
    exact (List.length_eq_zero_iff.mp (by omega)).symm
  · refine ⟨valid_cutAt _ valid, cutAt_length _ _, ⟨_, .refl _, ?_⟩,
      fun _ short => cutAt_short (by omega)⟩
    rw [Valid.toValidUTF8_eq valid]
    exact whole_cutAt _ _

/-- Both bounded texts are valid, no longer than their limit and cut between
characters, and a valid text within the limit only loses the white space around it. -/
theorem failure_text_is_bounded (value : Bytes) (err : Option E) (limit : Int) :
    (Bounds limit (trimSpace value) (truncate value limit.toNat) ∧
      (Valid value → value.length ≤ limit → truncate value limit.toNat = trimSpace value)) ∧
    Bounds limit (sanitizeFailure builtIn sanitizer err)
    (boundedFailureText builtIn sanitizer err limit) ∧
      (∀ failure clean text, sanitizer = some clean → err = some failure →
        clean failure = some text →
        trimSpace text ≠ [] → Valid text → text.length ≤ limit →
          boundedFailureText builtIn sanitizer err limit = trimSpace text) := by
  refine ⟨⟨truncate_bounds value limit, fun valid short => ?_⟩,
    boundedFailureText_bounds builtIn sanitizer err limit, ?_⟩
  · have shorter := trimSpace_length value
    exact (truncate_bounds value limit).unchanged (trimSpace_valid valid) (by omega)
  · rintro failure clean text rfl rfl cleaned filled valid short
    have shorter := trimSpace_length text
    have sanitized : sanitizeFailure builtIn (some clean) (some failure) = trimSpace text := by
      simp only [sanitizeFailure, callFailureSanitizer, Option.getD_some, cleaned, if_neg filled]
      exact Valid.toValidUTF8_eq (trimSpace_valid valid)
    rw [← sanitized]
    apply (boundedFailureText_bounds builtIn (some clean) (some failure) limit).unchanged
    · exact sanitizeFailure_valid builtIn (some clean) (some failure)
    · rw [sanitized]
      omega

end Failure

end Gomessenger.Messenger.FailureText
