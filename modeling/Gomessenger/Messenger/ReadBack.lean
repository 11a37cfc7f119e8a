import Gomessenger.Lib.Strings
import Gomessenger.Messenger.Envelope

/-! What an encoded envelope is read back as.

The encoder replaces invalid UTF-8 in every text by U+FFFD, so the record that is
read back is the written one with its texts coerced. -/

namespace Gomessenger.Messenger

open Utf8 Rfc3339 Json

section Values

theorem decodeMessageID_encode (id current : MessageID) :
    decodeMessageID (.string (quote (messageIDString id))) current = some id := by
  have simple := messageIDString_simple id
  have plain := (quote_simple simple).1
  have escapes : (quote (messageIDString id)).all goEscape = true :=
    List.all_eq_true.mpr (fun piece member => by
      have isPlain := List.all_eq_true.mp plain piece member
      cases piece with
      | plain byte valid => rfl
      | short escape => exact absurd isPlain (by simp [Piece.isPlain])
      | unicode first second third fourth => exact absurd isPlain (by simp [Piece.isPlain]))
  simp only [decodeMessageID, strconvUnquote, escapes, if_true, Option.bind_some, unquote_quote,
    (valid_simple simple).coerce_eq, parseMessageID_string]

theorem stampByte_simple (byte : UInt8) : stampByte byte = true → simpleByte byte = true := by
  revert byte
  apply forall_byte
  decide +kernel

variable {stamp : Stamp} {value : Value}

theorem decodeTime_zoned (whole : stamp.offset % 60 = 0)
    (encoded : encodeTime stamp = some value) (current : Stamp) :
    decodeTime value current = some stamp := by
  obtain ⟨text, formatted, rfl⟩ := Option.map_eq_some_iff.mp encoded
  have simple : text.all simpleByte = true :=
    List.all_eq_true.mpr (fun byte member =>
      stampByte_simple byte (List.all_eq_true.mp (format_stampBytes formatted) byte member))
  simp only [decodeTime, (quote_simple simple).2]
  exact parse_format_zoned false whole formatted

theorem decodeTime_encode {current : Stamp}
    (encoded : encodeTime stamp.utc = some value) : decodeTime value current = some stamp.utc :=
  decodeTime_zoned rfl encoded current

theorem decodeTime_whole {current : Stamp} (decoded : decodeTime value current = some stamp)
    (whole : current.offset % 60 = 0) : stamp.offset % 60 = 0 := by
  unfold decodeTime at decoded
  split at decoded
  · rw [← Option.some.inj decoded]
    exact whole
  · exact parse_whole decoded
  · cases decoded

theorem decodeInt_encode (value current : Int64) :
    decodeInt (.number (.ofInt value.toInt)) current = some value := by
  have low := value.le_toInt
  have high := value.toInt_lt
  have range : -2 ^ 63 ≤ value.toInt ∧ value.toInt < 2 ^ 63 := ⟨low, high⟩
  simp only [decodeInt, Number.ofInt, intOf?_intText, Option.bind_eq_bind, Option.bind_some, range,
    and_self, if_true, Int64.ofInt_toInt, Option.pure_def]

theorem encodeInt_length {value : Int64} {spelt : Value} (encoded : encodeInt value = some spelt) :
    spelt.text.length ≤ 21 := by
  rw [← Option.some.inj encoded]
  exact Strings.intText_length (by decide)
    (by have := value.toInt_lt; have := value.le_toInt; omega)

theorem encodeTime_length {spelt : Value} (encoded : encodeTime stamp.utc = some spelt) :
    spelt.text.length ≤ 32 := by
  obtain ⟨text, formatted, rfl⟩ := Option.map_eq_some_iff.mp encoded
  have simple : text.all simpleByte = true := List.all_eq_true.mpr (fun byte member =>
    stampByte_simple byte (List.all_eq_true.mp (format_stampBytes formatted) byte member))
  have short := display_length formatted
  rw [display_of_format formatted] at short
  simp only [Value.text, (quote_simple simple).2, List.length_cons,
    List.length_append, List.length_nil]
  omega

variable {encoding : DataEncoding}

theorem DataEncoding.ofName?_string (valid : encoding.valid = true) :
    DataEncoding.ofName? encoding.string = some encoding := by
  cases encoding with
  | unset => exact absurd valid (by decide)
  | json => decide
  | text => decide
  | binary => decide

theorem DataEncoding.valid_string (encoding : DataEncoding) : Valid encoding.string := by
  cases encoding <;> decide

theorem decodeDataEncoding_encode (current : DataEncoding)
    (encoded : encodeDataEncoding encoding = some value) :
    decodeDataEncoding value current = some encoding := by
  rw [encodeDataEncoding, Option.ite_none_right_eq_some] at encoded
  obtain ⟨valid, spelt⟩ := encoded
  rw [← Option.some.inj spelt, decodeDataEncoding, unquote_quote, encoding.valid_string.coerce_eq]
  exact DataEncoding.ofName?_string valid

def coerceHeaders (headers : Headers) : Headers :=
  .ofAssignments (headers.rows.map (fun row => (coerce row.1, coerce row.2)))

theorem foldlM_decodeHeader (rows : List (Bytes × Bytes)) (current : Headers) :
    (rows.map (fun row => (quote row.1, Value.string (quote row.2)))).foldlM decodeHeader current =
      some ((rows.map (fun row => (coerce row.1, coerce row.2))).foldl
        (fun table pair => table.set pair.1 pair.2) current) := by
  induction rows generalizing current with
  | nil => rfl
  | cons row rows ih =>
    simp only [List.map_cons, List.foldlM_cons, decodeHeader, unquote_quote, Option.bind_eq_bind,
      Option.bind_some, List.foldl_cons]
    exact ih _

theorem decodeHeaders_encode {headers : Headers} (encoded : encodeHeaders headers = some value) :
    decodeHeaders value .empty = some (coerceHeaders headers) := by
  rw [← Option.some.inj encoded]
  have notNull : ∀ members, decodeHeaders (object members) .empty =
      (object members).members.bind (fun found => found.foldlM decodeHeader .empty) := by
    intro members
    cases members <;> rfl
  rw [notNull, object_members, Option.bind_some, List.map_map]
  exact foldlM_decodeHeader headers.rows .empty

end Values

section Record

def dataValue (envelope : Envelope) : Option Value :=
  envelope.data.bind (fun data => parseDocument maxNestingDepth data)

/-- The record that an encoded envelope is read back as. -/
def readBack (envelope : Envelope) : Envelope where
  specVersion := coerce envelope.specVersion
  id := envelope.id
  kind := Kind.ofText (coerce envelope.kind.text)
  name := coerce envelope.name
  schemaVersion := envelope.schemaVersion
  source := coerce envelope.source
  subject := coerce envelope.subject
  time := envelope.time.utc
  correlationID := envelope.correlationID
  causationID := envelope.causationID
  key := coerce envelope.key
  contentType := coerce envelope.contentType
  dataEncoding := envelope.dataEncoding
  schema := coerce envelope.schema
  headers := coerceHeaders envelope.headers
  notBefore := envelope.notBefore.utc
  expiresAt := envelope.expiresAt.utc
  data := (dataValue envelope).map (fun value => value.compact.text)
  dataBase64 := envelope.dataBase64.map coerce

theorem envelopeFields_distinct :
    (envelopeFields.map (fun field => foldCase field.name)).Nodup := by
  decide +kernel

theorem envelopeFields_valid : ∀ field ∈ envelopeFields, Valid field.name := by
  have names : ∀ name ∈ envelopeFields.map RecordField.name, Valid name := by decide +kernel
  exact fun field member => names field.name (List.mem_map_of_mem member)

theorem coerceHeaders_empty {headers : Headers} (empty : headers.rows.isEmpty = true) :
    coerceHeaders headers = .empty := by
  rw [coerceHeaders, List.isEmpty_iff.mp empty]
  rfl

variable {stamp : Stamp}

theorem utc_of_isZero (zero : stamp.isZero = true) : stamp.utc = .zero := by
  have nanos : stamp.nanos = 0 := eq_of_beq zero
  simp [Stamp.utc, Stamp.zero, nanos]

variable {envelope : Envelope}

theorem readBack_data_omitted (omitted : (envelope.data == none ||
    envelope.data == some []) = true) :
    (readBack envelope).data = none := by
  simp only [Bool.or_eq_true, beq_iff_eq] at omitted
  rcases omitted with absent | blank
  · simp [readBack, dataValue, absent]
  · simp only [readBack, dataValue, blank]
    decide

variable {value : Value} {current : Option Bytes}

theorem decodeRaw_encode (present : (envelope.data == none || envelope.data == some []) = false)
    (encoded : encodeRaw envelope.data = some value) :
    decodeRaw value current = some (readBack envelope).data := by
  cases held : envelope.data with
  | none => exact absurd present (by simp [held])
  | some data =>
    rw [held] at encoded
    obtain ⟨found, accepted, rfl⟩ := Option.map_eq_some_iff.mp encoded
    have parsed := (Option.filter_eq_some_iff.mp accepted).1
    simp [decodeRaw, readBack, dataValue, held, parsed]

theorem decodeStringPointer_encode {text : Option Bytes}
    (present : text.isNone = false) (encoded : encodeStringPointer text = some value) :
    decodeStringPointer value current = some (text.map coerce) := by
  cases text with
  | none => cases present
  | some bytes =>
    rw [← Option.some.inj encoded]
    simp [decodeStringPointer, unquote_quote]

def readFirst (count : Nat) (envelope : Envelope) : Envelope :=
  let read := readBack envelope
  { specVersion := if 0 < count then read.specVersion else []
    id := if 1 < count then read.id else 0
    kind := if 2 < count then read.kind else .other []
    name := if 3 < count then read.name else []
    schemaVersion := if 4 < count then read.schemaVersion else 0
    source := if 5 < count then read.source else []
    subject := if 6 < count then read.subject else []
    time := if 7 < count then read.time else .zero
    correlationID := if 8 < count then read.correlationID else 0
    causationID := if 9 < count then read.causationID else 0
    key := if 10 < count then read.key else []
    contentType := if 11 < count then read.contentType else []
    dataEncoding := if 12 < count then read.dataEncoding else .unset
    schema := if 13 < count then read.schema else []
    headers := if 14 < count then read.headers else .empty
    notBefore := if 15 < count then read.notBefore else .zero
    expiresAt := if 16 < count then read.expiresAt else .zero
    data := if 17 < count then read.data else none
    dataBase64 := if 18 < count then read.dataBase64 else none }

/-- The fields carry every value, with the texts coerced. -/
theorem carries_readBack {members : List (Bytes × Value)}
    (writes : writeFields envelope envelopeFields = some members)
    (time : envelope.time.utc = envelope.time)
    (notBefore : envelope.notBefore.utc = envelope.notBefore)
    (expiresAt : envelope.expiresAt.utc = envelope.expiresAt) :
    Carries envelope envelopeFields .zero (readBack envelope) := by
  have written := writeFields_isSome envelope envelopeFields members writes
  simp only [envelopeFields, List.forall_mem_cons] at written
  obtain ⟨_, id, _, _, version, _, _, atTime, correlation, causation, _, _, encoding, _, headers,
    earliest, latest, data, base64, _⟩ := written
  refine .cons (readFirst 1 envelope) (RecordField.string_carry _ _ _ _ _ _ rfl) ?_
  refine .cons (readFirst 2 envelope)
    (RecordField.custom_carry _ _ _ _ _ _ _ _ envelope.id id (fun left => by cases left) ?_) ?_
  · rintro spelt _ encoded
    rw [← Option.some.inj encoded]
    exact decodeMessageID_encode _ _
  refine .cons (readFirst 3 envelope) (RecordField.string_carry _ _ _ _ _ _ rfl) ?_
  refine .cons (readFirst 4 envelope) (RecordField.string_carry _ _ _ _ _ _ rfl) ?_
  refine .cons (readFirst 5 envelope)
    (RecordField.custom_carry _ _ _ _ _ _ _ _ envelope.schemaVersion version
      (fun left => by cases left) ?_) ?_
  · rintro spelt _ encoded
    rw [← Option.some.inj encoded]
    exact decodeInt_encode _ _
  refine .cons (readFirst 6 envelope) (RecordField.string_carry _ _ _ _ _ _ rfl) ?_
  refine .cons (readFirst 7 envelope) (RecordField.string_carry _ _ _ _ _ _ rfl) ?_
  refine .cons (readFirst 8 envelope)
    (RecordField.custom_carry _ _ _ _ _ _ _ _ envelope.time.utc atTime
      (fun left => by cases left) ?_) ?_
  · rintro spelt _ encoded
    rw [← time] at encoded
    exact decodeTime_encode encoded
  refine .cons (readFirst 9 envelope)
    (RecordField.custom_carry _ _ _ _ _ _ _ _ envelope.correlationID correlation
      (fun left => by cases left) ?_) ?_
  · rintro spelt _ encoded
    rw [← Option.some.inj encoded]
    exact decodeMessageID_encode _ _
  refine .cons (readFirst 10 envelope) (RecordField.custom_carry _ _ _ _ _ _ _ _
    envelope.causationID causation
      (fun left => by rw [eq_of_beq left]; rfl) ?_) ?_
  · rintro spelt _ encoded
    rw [← Option.some.inj encoded]
    exact decodeMessageID_encode _ _
  refine .cons (readFirst 11 envelope) (RecordField.string_carry _ _ _ _ _ _ rfl) ?_
  refine .cons (readFirst 12 envelope) (RecordField.string_carry _ _ _ _ _ _ rfl) ?_
  refine .cons (readFirst 13 envelope)
    (RecordField.custom_carry _ _ _ _ _ _ _ _ envelope.dataEncoding encoding
      (fun left => by cases left) ?_) ?_
  · rintro spelt _ encoded
    exact decodeDataEncoding_encode _ encoded
  refine .cons (readFirst 14 envelope) (RecordField.string_carry _ _ _ _ _ _ rfl) ?_
  refine .cons (readFirst 15 envelope)
    (RecordField.custom_carry _ _ _ _ _ _ _ _ (coerceHeaders envelope.headers) headers
      (fun left => by rw [coerceHeaders_empty left]; rfl) ?_) ?_
  · rintro spelt _ encoded
    exact decodeHeaders_encode encoded
  refine .cons (readFirst 16 envelope) (RecordField.custom_carry _ _ _ _ _ _ _ _
    envelope.notBefore.utc earliest
      (fun left => by rw [utc_of_isZero left]; rfl) ?_) ?_
  · rintro spelt _ encoded
    rw [← notBefore] at encoded
    exact decodeTime_encode encoded
  refine .cons (readFirst 17 envelope) (RecordField.custom_carry _ _ _ _ _ _ _ _
    envelope.expiresAt.utc latest
      (fun left => by rw [utc_of_isZero left]; rfl) ?_) ?_
  · rintro spelt _ encoded
    rw [← expiresAt] at encoded
    exact decodeTime_encode encoded
  refine .cons (readFirst 18 envelope) (RecordField.custom_carry _ _ _ _ _ _ _ _
    (readBack envelope).data data
      (fun left => by rw [readBack_data_omitted left]; rfl) ?_) ?_
  · rintro spelt present encoded
    exact decodeRaw_encode present encoded
  refine .cons (readFirst 19 envelope) (RecordField.custom_carry _ _ _ _ _ _ _ _
    (envelope.dataBase64.map coerce) base64
      (fun left => by rw [Option.isNone_iff_eq_none.mp left]; rfl) ?_) ?_
  · rintro spelt present encoded
    exact decodeStringPointer_encode present encoded
  exact .nil _

theorem encodeTime_shown {name : Bytes} {set : Stamp → Envelope → Envelope}
    {get : Envelope → Stamp} (isStamp : get envelope = stamp)
    (written : ((RecordField.custom name Stamp.isZero encodeTime decodeTime get set).write
      envelope).isSome = true) : stamp.isZero = true ∨ (format stamp).isSome = true := by
  by_cases zero : stamp.isZero = true
  · exact .inl zero
  · simp only [RecordField.custom, isStamp, if_neg zero, Option.isSome_map, encodeTime] at written
    exact .inr written

theorem encodeEnvelope_times (encoded : encodeEnvelope envelope = some value) :
    (format envelope.time).isSome = true ∧
      (envelope.notBefore.isZero = true ∨ (format envelope.notBefore).isSome = true) ∧
      (envelope.expiresAt.isZero = true ∨ (format envelope.expiresAt).isSome = true) := by
  obtain ⟨members, writes, _⟩ := Option.map_eq_some_iff.mp encoded
  have written := writeFields_isSome envelope envelopeFields members writes
  simp only [envelopeFields, List.forall_mem_cons] at written
  obtain ⟨_, _, _, _, _, _, _, time, _, _, _, _, _, _, _, notBefore, expiresAt, _⟩ := written
  refine ⟨?_, encodeTime_shown rfl notBefore, encodeTime_shown rfl expiresAt⟩
  simpa [RecordField.custom, always, encodeTime] using time

theorem encodeHeaders_depth {headers : Headers} (encoded : encodeHeaders headers = some value) :
    value.depth ≤ 1 := by
  rw [← Option.some.inj encoded, object_depth 0]
  intro field member
  obtain ⟨row, _, rfl⟩ := List.mem_map.mp member
  exact Nat.le_refl 0

theorem encodeTime_depth (encoded : encodeTime stamp = some value) : value.depth = 0 := by
  obtain ⟨text, _, rfl⟩ := Option.map_eq_some_iff.mp encoded
  rfl

theorem encodeRaw_depth {data : Option Bytes} (encoded : encodeRaw data = some value) :
    value.depth < maxNestingDepth := by
  cases data with
  | none =>
    rw [← Option.some.inj encoded]
    decide
  | some data =>
    obtain ⟨found, accepted, rfl⟩ := Option.map_eq_some_iff.mp encoded
    rw [found.depth_compact]
    exact of_decide_eq_true (Option.filter_eq_some_iff.mp accepted).2

theorem fields_depth : ∀ field ∈ envelopeFields, ∀ value,
    field.write envelope = some (some value) → value.depth < maxNestingDepth := by
  have flat : ∀ {value : Value}, value.depth = 0 → value.depth < maxNestingDepth :=
    fun zero => zero ▸ by decide
  have string := fun name omitEmpty get set value written =>
    flat (RecordField.string_flat name omitEmpty get set envelope value written)
  have messageID : ∀ id value, encodeMessageID id = some value → value.depth < maxNestingDepth :=
    fun id value encoded => by rw [← Option.some.inj encoded]; exact flat rfl
  have time : ∀ stamp value, encodeTime stamp = some value → value.depth < maxNestingDepth :=
    fun stamp value encoded => flat (encodeTime_depth encoded)
  simp only [envelopeFields, List.forall_mem_cons]
  refine ⟨string _ _ _ _, ?_, string _ _ _ _, string _ _ _ _, ?_, string _ _ _ _, string _ _ _ _,
    ?_, ?_, ?_, string _ _ _ _, string _ _ _ _, ?_, string _ _ _ _, ?_, ?_, ?_, ?_, ?_, ?_⟩
  · exact fun value written => messageID _ value (RecordField.custom_written written).2
  · intro value written
    rw [← Option.some.inj (RecordField.custom_written written).2]
    exact flat rfl
  · exact fun value written => time _ value (RecordField.custom_written written).2
  · exact fun value written => messageID _ value (RecordField.custom_written written).2
  · exact fun value written => messageID _ value (RecordField.custom_written written).2
  · intro value written
    obtain ⟨_, encoded⟩ := RecordField.custom_written written
    rw [encodeDataEncoding, Option.ite_none_right_eq_some] at encoded
    rw [← Option.some.inj encoded.2]
    exact flat rfl
  · exact fun value written =>
      (encodeHeaders_depth (RecordField.custom_written written).2).trans_lt (by decide)
  · exact fun value written => time _ value (RecordField.custom_written written).2
  · exact fun value written => time _ value (RecordField.custom_written written).2
  · exact fun value written => encodeRaw_depth (RecordField.custom_written written).2
  · intro value written
    obtain ⟨present, encoded⟩ := RecordField.custom_written written
    cases held : envelope.dataBase64 with
    | none => exact absurd present (by simp [held])
    | some text =>
      rw [held] at encoded
      rw [← Option.some.inj encoded]
      exact flat rfl
  · intro field member
    cases member

theorem encodeEnvelope_depth (encoded : encodeEnvelope envelope = some value) :
    value.depth ≤ maxNestingDepth := by
  obtain ⟨members, writes, rfl⟩ := Option.map_eq_some_iff.mp encoded
  have written := mem_writeFields envelope envelopeFields members writes
  rw [show maxNestingDepth = 9999 + 1 from rfl, object_depth]
  intro member inside
  obtain ⟨field, isField, _, writes⟩ := (written member).mp inside
  exact Nat.le_of_lt_succ (fields_depth field isField member.2 writes)

theorem decodeEnvelope_encode
    (encoded : encodeEnvelope envelope = some value) (time : envelope.time.utc = envelope.time)
    (notBefore : envelope.notBefore.utc = envelope.notBefore)
    (expiresAt : envelope.expiresAt.utc = envelope.expiresAt) :
    decodeEnvelope value.text = some (readBack envelope) := by
  have shallow := encodeEnvelope_depth encoded
  obtain ⟨members, writes, rfl⟩ := Option.map_eq_some_iff.mp encoded
  rw [decodeEnvelope, parseDocument_text _ _ shallow, Option.bind_some,
    readRecord_writeFields envelopeFields_distinct envelopeFields_valid
      envelope .zero members writes]
  exact (carries_readBack writes time notBefore expiresAt).foldlM

end Record

end Gomessenger.Messenger
