import Mathlib.Data.Char
import Mathlib.Data.List.Basic
import Mathlib.Data.List.Lex
import Mathlib.Tactic.Common
import Mathlib.Tactic.Linarith

/-! Byte strings read as UTF-8.

A byte string need not be valid: `runes` reads it left to right, one character
or one stray byte at a time, and `coerce` replaces every stray byte by U+FFFD.
The decoder of one character is the core library's. -/

abbrev Bytes := List UInt8

instance instLinearOrderByte : LinearOrder UInt8 :=
    LinearOrder.lift' UInt8.toNat (fun _ _ same => UInt8.toNat.inj same)

instance instLawfulBEqBytes : LawfulBEq (List UInt8) := inferInstance

theorem forall_byte {property : UInt8 → Prop}
    (checked : ∀ value : Fin 256, property (UInt8.ofNat value)) (byte : UInt8) : property byte := by
  have here := checked ⟨byte.toNat, byte.toNat_lt⟩
  simpa using here

namespace Scan

def NotAt (group : UInt8 → Bool) (rest : Bytes) : Prop := ∀ byte ∈ rest.head?, group byte = false

variable {group : UInt8 → Bool}

theorem notAt_cons {byte : UInt8} {rest : Bytes} (other : group byte = false) :
    NotAt group (byte :: rest) := by
  rintro first ⟨⟩
  exact other

theorem takeWhile_text {text rest : Bytes} (all : text.all group = true)
    (stops : NotAt group rest) :
    (text ++ rest).takeWhile group = text ∧ (text ++ rest).dropWhile group = rest := by
  have every : ∀ byte ∈ text, group byte = true := List.all_eq_true.mp all
  rw [List.takeWhile_append_of_pos every, List.dropWhile_append_of_pos every]
  cases rest with
  | nil => exact ⟨List.append_nil text, rfl⟩
  | cons byte rest =>
    have other : group byte = false := stops byte rfl
    simp [other]

end Scan

namespace Utf8

abbrev encode (char : Char) : Bytes := String.utf8EncodeChar char

/-- The first character and the bytes after it, unless the string is empty or
starts with a byte that begins no encoding. -/
def decodeRune (bytes : Bytes) : Option (Char × Bytes) :=
  match ByteArray.utf8DecodeChar? (bytes.take 4).toByteArray 0 with
  | some char => some (char, bytes.drop char.utf8Size)
  | none => none

variable (char : Char)

theorem encode_length : (encode char).length = char.utf8Size :=
  String.length_utf8EncodeChar char

@[simp] theorem decodeRune_encode (rest : Bytes) :
    decodeRune (encode char ++ rest) = some (char, rest) := by
  have window : (encode char ++ rest).take 4 = encode char ++ rest.take (4 - char.utf8Size) := by
    have small := char.utf8Size_le_four
    rw [List.take_append, List.take_of_length_le (by rw [encode_length]; omega), encode_length]
  simp only [decodeRune, window, List.toByteArray_append,
    ByteArray.utf8DecodeChar?_utf8EncodeChar_append]
  rw [← encode_length, List.drop_left]

variable {bytes rest : Bytes}

theorem decodeRune_eq_some {char : Char}
    (decoded : decodeRune bytes = some (char, rest)) : bytes = encode char ++ rest := by
  unfold decodeRune at decoded
  split at decoded
  next found decodes =>
    obtain ⟨rfl, rfl⟩ := Prod.mk.inj (Option.some.inj decoded)
    obtain ⟨after, window⟩ := ByteArray.exists_of_utf8DecodeChar?_eq_some decodes
    have opens : bytes.take 4 = encode found ++ after.data.toList := by
      have lists := congrArg (fun array => array.data.toList) window
      simpa using lists
    have whole : bytes = encode found ++ (after.data.toList ++ bytes.drop 4) := by
      rw [← List.append_assoc, ← opens, List.take_append_drop]
    conv_rhs => rw [whole, ← encode_length, List.drop_left]
    exact whole
  next => exact absurd decoded (by simp)

theorem encode_cons : ∃ first rest, encode char = first :: rest := by
  cases spelt : encode char with
  | nil =>
    have size := encode_length char
    rw [spelt] at size
    exact absurd size.symm (Nat.ne_of_gt char.utf8Size_pos)
  | cons first rest => exact ⟨first, rest, rfl⟩

/-- A piece of a byte string: a character, or a byte that begins none. -/
inductive Rune
  | scalar (char : Char)
  | stray (byte : UInt8)
  deriving DecidableEq

def runesFrom : Nat → Bytes → List Rune
  | _, [] => []
  | skip + 1, _ :: rest => runesFrom skip rest
  | 0, byte :: rest =>
    match decodeRune (byte :: rest) with
    | some (char, _) => .scalar char :: runesFrom (char.utf8Size - 1) rest
    | none => .stray byte :: runesFrom 0 rest

def runes (bytes : Bytes) : List Rune := runesFrom 0 bytes

theorem runesFrom_drop (skip : Nat) (bytes : Bytes) :
    runesFrom skip bytes = runes (bytes.drop skip) := by
  induction skip generalizing bytes with
  | zero => rfl
  | succ skip ih =>
    cases bytes with
    | nil => rfl
    | cons byte rest => exact ih rest

@[simp] theorem runes_nil : runes [] = [] := rfl

@[simp] theorem runes_encode (rest : Bytes) :
    runes (encode char ++ rest) = .scalar char :: runes rest := by
  obtain ⟨first, others, spelt⟩ := encode_cons char
  have decoded := decodeRune_encode char rest
  have size := encode_length char
  rw [spelt] at decoded size ⊢
  simp only [List.length_cons] at size
  simp only [List.cons_append] at decoded ⊢
  simp only [runes, runesFrom, decoded, List.cons.injEq, true_and]
  rw [runesFrom_drop, ← size, Nat.add_sub_cancel, List.drop_left]
  rfl

variable {byte : UInt8}

theorem runes_stray (stray : decodeRune (byte :: rest) = none) :
    runes (byte :: rest) = .stray byte :: runes rest := by
  simp only [runes, runesFrom, stray]

variable {motive : Bytes → Prop}

/-- Induction on a byte string along its pieces. -/
theorem pieces_induction (nil : motive []) (char : ∀ char rest,
    motive rest → motive (encode char ++ rest))
    (stray : ∀ byte rest, decodeRune (byte :: rest) = none → motive rest → motive (byte :: rest))
    (bytes : Bytes) : motive bytes := by
  induction length : bytes.length using Nat.strong_induction_on generalizing bytes with
  | _ size ih =>
    cases bytes with
    | nil => exact nil
    | cons byte rest =>
      cases decoded : decodeRune (byte :: rest) with
      | none =>
        exact stray byte rest decoded (ih rest.length (by rw [← length]; simp) rest rfl)
      | some found =>
        obtain ⟨letter, after⟩ := found
        have split := decodeRune_eq_some decoded
        have shorter : after.length < size := by
          have lengths := congrArg List.length split
          rw [List.length_append, encode_length, length] at lengths
          have positive := letter.utf8Size_pos
          omega
        rw [split]
        exact char letter after (ih after.length shorter after rfl)

def Rune.valid : Rune → Bool
  | .scalar _ => true
  | .stray _ => false

def Valid (bytes : Bytes) : Prop := (runes bytes).all Rune.valid = true

instance (bytes : Bytes) : Decidable (Valid bytes) := inferInstanceAs (Decidable (_ = _))

theorem valid_nil : Valid [] := rfl

@[simp] theorem valid_encode (rest : Bytes) : Valid (encode char ++ rest) ↔ Valid rest := by
  simp [Valid, Rune.valid]

theorem not_valid_stray (stray : decodeRune (byte :: rest) = none) : ¬ Valid (byte :: rest) := by
  simp [Valid, runes_stray stray, Rune.valid]

theorem Valid.induction (nil : motive [])
    (char : ∀ char rest, Valid rest → motive rest → motive (encode char ++ rest))
    (valid : Valid bytes) : motive bytes := by
  induction bytes using pieces_induction with
  | nil => exact nil
  | char letter rest ih =>
    have inner := (valid_encode letter rest).mp valid
    exact char letter rest inner (ih inner)
  | stray byte rest stray => exact absurd valid (not_valid_stray stray)

def replacement : Char := '�'

def Rune.coerced : Rune → Bytes
  | .scalar char => encode char
  | .stray _ => encode replacement

/-- Every stray byte replaced by U+FFFD. -/
def coerce (bytes : Bytes) : Bytes := (runes bytes).flatMap Rune.coerced

@[simp] theorem coerce_nil : coerce [] = [] := rfl

@[simp] theorem coerce_encode (rest : Bytes) :
    coerce (encode char ++ rest) = encode char ++ coerce rest := by
  simp [coerce, Rune.coerced]

theorem coerce_stray (stray : decodeRune (byte :: rest) = none) :
    coerce (byte :: rest) = encode replacement ++ coerce rest := by
  simp [coerce, runes_stray stray, Rune.coerced]

theorem decodeRune_invalid (invalid : ¬ byte.IsUTF8FirstByte) (rest : Bytes) :
    decodeRune (byte :: rest) = none := by
  rcases decoded : decodeRune (byte :: rest) with _ | ⟨char, after⟩
  · rfl
  · obtain ⟨first, others, starts⟩ := encode_cons char
    have leads := @UInt8.isUTF8FirstByte_getElem_zero_utf8EncodeChar char
    simp only [starts, List.getElem_cons_zero] at leads
    have spelt := decodeRune_eq_some decoded
    rw [starts] at spelt
    rw [(List.cons.inj spelt).1] at invalid
    exact absurd leads invalid

theorem coerce_invalid_length (invalid : ¬ byte.IsUTF8FirstByte) (count : Nat) :
    (coerce (List.replicate count byte)).length = 3 * count := by
  induction count with
  | zero => rfl
  | succ count ih =>
    have three : (encode replacement).length = 3 := by decide
    rw [List.replicate_succ, coerce_stray (decodeRune_invalid invalid _),
      List.length_append, ih, three]
    omega

theorem valid_coerce (bytes : Bytes) : Valid (coerce bytes) := by
  induction bytes using pieces_induction with
  | nil => exact valid_nil
  | char char rest ih => rw [coerce_encode]; exact (valid_encode char _).mpr ih
  | stray byte rest stray ih => rw [coerce_stray stray]; exact (valid_encode _ _).mpr ih

theorem Valid.coerce_eq (valid : Valid bytes) : coerce bytes = bytes := by
  refine Valid.induction (motive := fun bytes => coerce bytes = bytes) rfl ?_ valid
  intro char rest _ ih
  rw [coerce_encode, ih]

theorem coerce_eq_iff (bytes : Bytes) : coerce bytes = bytes ↔ Valid bytes :=
  ⟨fun same => same ▸ valid_coerce bytes, Valid.coerce_eq⟩

@[simp] theorem coerce_coerce (bytes : Bytes) : coerce (coerce bytes) = coerce bytes :=
  (valid_coerce bytes).coerce_eq

def ofString (text : String) : Bytes := text.toList.flatMap encode

theorem valid_ofString (text : String) : Valid (ofString text) := by
  unfold ofString
  induction text.toList with
  | nil => exact valid_nil
  | cons char chars ih =>
    rw [List.flatMap_cons]
    exact (valid_encode char _).mpr ih

theorem ascii_encode : ∀ byte : UInt8, byte < 0x80 → [byte] = encode (Char.ofNat byte.toNat) := by
  apply forall_byte
  decide +kernel

theorem valid_cons (ascii : byte < 0x80) : Valid (byte :: rest) ↔ Valid rest := by
  have spelt : byte :: rest = encode (Char.ofNat byte.toNat) ++ rest := by
    rw [← ascii_encode byte ascii]
    rfl
  rw [spelt, valid_encode]

theorem valid_ascii (ascii : ∀ byte ∈ bytes, byte < 0x80) : Valid bytes := by
  induction bytes with
  | nil => exact valid_nil
  | cons byte rest ih =>
    obtain ⟨here, later⟩ := List.forall_mem_cons.mp ascii
    exact (valid_cons here).mpr (ih later)

/-- Simple case folding, as far as ASCII texts can tell: the long s and the
Kelvin sign fold to ASCII letters. -/
def foldChar (char : Char) : Char :=
  if 'A' ≤ char ∧ char ≤ 'Z' then Char.ofNat (char.toNat + 32)
  else if char = '\u017f' then 's'
  else if char = '\u212a' then 'k'
  else char

def Rune.folded : Rune → Bytes
  | .scalar char => encode (foldChar char)
  | .stray byte => [byte]

def foldCase (bytes : Bytes) : Bytes := (runes bytes).flatMap Rune.folded

/-- `strings.EqualFold`, where one side is an ASCII text. -/
def equalFold (left right : Bytes) : Bool := foldCase left == foldCase right

end Utf8
