import Mathlib.Data.List.Nodup
import Gomessenger.Lib.Base64
import Gomessenger.Lib.JsonRecord
import Gomessenger.Lib.Strings

/-! Integer fields of JSON records, fields that must be there, and the size of a
written record. -/

namespace Json

open Utf8

def encodeUint (value : UInt64) : Option Value := some (.number (.ofInt value.toNat))

def decodeUint : Value → UInt64 → Option UInt64
  | .literal .null, current => some current
  | .number number, _ => do
      let value ← Decimal.value? number.text
      if value < 2 ^ 64 then return UInt64.ofNat value else none
  | _, _ => none

def encodeInt32 (value : Int32) : Option Value := some (.number (.ofInt value.toInt))

def decodeInt32 : Value → Int32 → Option Int32
  | .literal .null, current => some current
  | .number number, _ => do
      let value ← intOf? number.text
      if -2 ^ 31 ≤ value ∧ value < 2 ^ 31 then return Int32.ofInt value else none
  | _, _ => none

theorem intText_nat (value : Nat) : intText value = Decimal.text value := by
  rw [intText, if_neg (by omega)]
  rfl

theorem decodeUint_encode (value current : UInt64) :
    decodeUint (.number (.ofInt value.toNat)) current = some value := by
  have small : value.toNat < 2 ^ 64 := value.toNat_lt
  simp only [decodeUint, Number.ofInt, intText_nat, Decimal.value?_text, Option.bind_eq_bind,
    Option.bind_some, small, if_true, UInt64.ofNat_toNat, Option.pure_def]

theorem decodeInt32_encode (value current : Int32) :
    decodeInt32 (.number (.ofInt value.toInt)) current = some value := by
  have range : -2 ^ 31 ≤ value.toInt ∧ value.toInt < 2 ^ 31 := ⟨value.le_toInt, value.toInt_lt⟩
  simp only [decodeInt32, Number.ofInt, intOf?_intText, Option.bind_eq_bind, Option.bind_some,
    range, and_self, if_true, Int32.ofInt_toInt, Option.pure_def]

theorem encodeInt32_length {value : Int32} {spelt : Value}
    (encoded : encodeInt32 value = some spelt) :
    spelt.text.length ≤ 21 := by
  rw [← Option.some.inj encoded]
  exact Strings.intText_length (by decide)
    (by have := value.toInt_lt; have := value.le_toInt; omega)

theorem encodeUint_length {value : UInt64} {spelt : Value}
    (encoded : encodeUint value = some spelt) :
    spelt.text.length ≤ 21 := by
  have short : (intText (value.toNat : Int)).length ≤ 20 + 1 :=
    Strings.intText_length (by decide) (by have := value.toNat_lt; omega)
  rw [← Option.some.inj encoded]
  exact short

section Presence

/-- Whether `json.Unmarshal` leaves a pointer field of this name set: the last
member of the name decides, and null unsets it. -/
def holdsMember (value : Value) (name : Bytes) : Bool :=
  match (value.members.getD []).reverse.find? (fun member => equalFold name (unquote member.1)) with
  | some (_, .literal .null) => false
  | some _ => true
  | none => false

variable {S : Type}

theorem holdsMember_written {fields : List (RecordField S)} {record : S}
    {members : List (Bytes × Value)}
    (distinct : (fields.map (fun field => foldCase field.name)).Nodup)
    (valid : ∀ field ∈ fields, Valid field.name) (writes : writeFields record fields = some members)
    {field : RecordField S} (member : field ∈ fields) {value : Value}
    (written : field.write record = some (some value)) (present : value ≠ .literal .null) :
    holdsMember (object members) field.name = true := by
  have inside : (field.name, value) ∈ members :=
    (mem_writeFields record fields members writes _).mpr ⟨field, member, rfl, written⟩
  have only : ∀ found ∈ members.map (fun member => (quote member.1, member.2)),
      equalFold field.name (unquote found.1) = true → found.2 = value := by
    intro found isFound folds
    obtain ⟨entry, isEntry, rfl⟩ := List.mem_map.mp isFound
    obtain ⟨other, isOther, named, otherWritten⟩ :=
      (mem_writeFields record fields members writes _).mp isEntry
    rw [← named, unquote_quote, (valid other isOther).coerce_eq] at folds
    have same : field = other := List.inj_on_of_nodup_map distinct member isOther (eq_of_beq folds)
    rw [same, otherWritten] at written
    exact Option.some.inj (Option.some.inj written)
  unfold holdsMember
  rw [object_members, Option.getD_some]
  split
  next found isFound =>
    have folds := List.find?_some isFound
    have same := only _ (List.mem_reverse.mp (List.mem_of_find?_eq_some isFound)) folds
    exact absurd same.symm present
  · rfl
  next absent =>
    have folds := List.find?_eq_none.mp absent (quote field.name, value)
      (List.mem_reverse.mpr (List.mem_map.mpr ⟨_, inside, rfl⟩))
    rw [unquote_quote, (valid field member).coerce_eq] at folds
    exact absurd (beq_self_eq_true _) folds

end Presence

section Size

variable {S : Type}

variable {record : S} {fields : List (RecordField S)}

theorem writeFields_some (written : ∀ field ∈ fields, (field.write record).isSome = true) :
    ∃ members, writeFields record fields = some members := by
  induction fields with
  | nil => exact ⟨[], rfl⟩
  | cons field rest ih =>
    obtain ⟨value, isValue⟩ := Option.isSome_iff_exists.mp (written field (.head _))
    obtain ⟨members, areMembers⟩ := ih (fun other member => written other (.tail _ member))
    rw [writeFields, isValue, areMembers]
    exact ⟨_, rfl⟩

theorem RecordField.string_some (name : Bytes) (omitEmpty : Bool)
    (get : S → Bytes) (set : Bytes → S → S)
    (record : S) : ((RecordField.string name omitEmpty get set).write record).isSome = true := by
  simp only [RecordField.string]
  split <;> rfl

def RecordField.writtenLength (field : RecordField S) (record : S) : Nat :=
  match field.write record with
  | some (some value) => (bodyText (quote field.name)).length + value.text.length + 4
  | _ => 0

variable {members : List (Bytes × Value)}

theorem writeFields_length (writes : writeFields record fields = some members) :
    (object members).text.length ≤ (fields.map (RecordField.writtenLength · record)).sum + 2 := by
  refine Nat.le_trans (object_length members) (Nat.add_le_add_right (Nat.le_of_eq ?_) 2)
  induction fields generalizing members with
  | nil =>
    rw [← Option.some.inj writes]
    rfl
  | cons field rest ih =>
    simp only [writeFields, Option.bind_eq_bind, Option.bind_eq_some_iff, Option.pure_def,
      Option.some.injEq] at writes
    obtain ⟨value, isValue, others, isOthers, rfl⟩ := writes
    rw [List.map_cons, List.sum_cons, ← ih isOthers]
    cases value with
    | none => simp [RecordField.writtenLength, isValue, fieldsLength]
    | some value => simp [RecordField.writtenLength, isValue, fieldsLength]

theorem writeFields_bound (writes : writeFields record fields = some members) {bounds : List Nat}
    (bounded : List.Forall₂ (fun field bound =>
      field.writtenLength record ≤ (bodyText (quote field.name)).length + bound) fields bounds) :
    (object members).text.length ≤
      (fields.map (fun field => (bodyText (quote field.name)).length)).sum + bounds.sum + 2 := by
  have sums : (fields.map (RecordField.writtenLength · record)).sum ≤
      (fields.map (fun field => (bodyText (quote field.name)).length)).sum + bounds.sum := by
    clear writes
    induction bounded with
    | nil => exact Nat.le_refl 0
    | cons first rest ih =>
      simp only [List.map_cons, List.sum_cons]
      omega
  exact Nat.le_trans (writeFields_length writes) (Nat.add_le_add_right sums 2)

variable (name : Bytes) (omitEmpty : Bool) (get : S → Bytes) (set : Bytes → S → S)

theorem RecordField.string_bounded (record : S) {bound : Nat}
    (spelt : (bodyText (quote (get record))).length ≤ bound) :
    (RecordField.string name omitEmpty get set).writtenLength record ≤
      (bodyText (quote name)).length + (bound + 6) := by
  simp only [RecordField.writtenLength, RecordField.string]
  split
  next value written =>
    split at written
    · cases written
    · rw [← Option.some.inj (Option.some.inj written)]
      simp only [Value.text, List.length_cons, List.length_append, List.length_nil]
      omega
  · exact Nat.zero_le _

theorem RecordField.string_length (record : S) :
    (RecordField.string name omitEmpty get set).writtenLength record ≤
      (bodyText (quote name)).length + (6 * (get record).length + 6) :=
  RecordField.string_bounded name omitEmpty get set record (quote_length (get record))

theorem RecordField.string_simple_length (record : S)
    (simple : (get record).all simpleByte = true) :
    (RecordField.string name omitEmpty get set).writtenLength record ≤
      (bodyText (quote name)).length + ((get record).length + 6) :=
  RecordField.string_bounded name omitEmpty get set record
    (congrArg List.length (quote_simple simple).2).le

theorem RecordField.custom_length {A : Type} (omitted : A → Bool) (encode : A → Option Value)
    (decode : Value → A → Option A) (get : S → A) (set : A → S → S) (record : S) (bound : Nat)
    (short : ∀ value, encode (get record) = some value → value.text.length ≤ bound) :
    (RecordField.custom name omitted encode decode get set).writtenLength record ≤
      (bodyText (quote name)).length + (bound + 4) := by
  unfold RecordField.writtenLength
  split
  next value written =>
    have fits := short value (custom_written written).2
    have named : (RecordField.custom name omitted encode decode get set).name = name := rfl
    rw [named]
    omega
  · exact Nat.zero_le _

theorem base64_simple (bytes : Bytes) : (Base64.encode .std bytes).all simpleByte = true := by
  have simple : ∀ byte, Base64.digitByte byte = true → simpleByte byte = true := by
    apply forall_byte
    decide +kernel
  exact List.all_eq_true.mpr (fun byte member =>
    simple byte (List.all_eq_true.mp (Base64.encode_digitBytes bytes) byte member))

end Size

end Json
