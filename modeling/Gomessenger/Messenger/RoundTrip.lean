import Gomessenger.Lib.Fallible
import Gomessenger.Lib.JsonFields
import Gomessenger.Messenger.ReadBack

/-! Which envelopes survive encoding and decoding. -/

namespace Gomessenger.Messenger

open Utf8 Rfc3339 Json

section Sent

variable {urlParse : Bytes → Bool} {metadata : Metadata} {payload : Bytes} {encoding : DataEncoding}

theorem utcOrZero_eq (stamp : Stamp) : utcOrZero stamp = stamp.utc := by
  unfold utcOrZero
  split
  next zero => exact (utc_of_isZero zero).symm
  next => rfl

theorem validate_ok_iff (envelope : Envelope) : envelope.validate urlParse = .ok () ↔
      envelope.complete = true ∧ validateSource urlParse envelope.source = .ok () ∧
        (∃ payload, envelope.payload = .ok payload) ∧ envelope.timesOrdered = true ∧
        validateHeaders envelope.headers = .ok () := by
  cases complete : envelope.complete <;> cases source : validateSource urlParse envelope.source <;>
    cases payload : envelope.payload <;> cases times : envelope.timesOrdered <;>
    simp [Envelope.validate, complete, source, payload, times, bind, Except.bind, throw,
      throwThe, MonadExceptOf.throw]

variable {envelope : Envelope}

theorem placePayload_shape (placed : placePayload (bareEnvelope metadata encoding)
    payload = .ok envelope) :
    ∃ data dataBase64, envelope =
      { bareEnvelope metadata encoding with data := data, dataBase64 := dataBase64 } := by
  cases encoding with
  | unset => exact absurd placed (by simp [placePayload, bareEnvelope])
  | json =>
    simp only [placePayload, bareEnvelope] at placed
    split at placed
    · exact ⟨_, _, (Except.ok.inj placed).symm⟩
    · cases placed
  | text => exact ⟨_, _, (Except.ok.inj placed).symm⟩
  | binary => exact ⟨_, _, (Except.ok.inj placed).symm⟩

def received (encoding : DataEncoding) (payload : Bytes) : Option Bytes :=
  match encoding with
  | .unset => none
  | .json =>
    (parseDocument maxNestingDepth (jsonPayload payload)).map (fun value => value.compact.text)
  | .text => some (coerce payload)
  | .binary => some payload

theorem unmarshalString_text (body : List Piece) :
    unmarshalString (Value.string body).text = some (unquote body) := by
  rw [unmarshalString, parseDocument_text _ _ (Nat.zero_le _)]

theorem base64_valid (bytes : Bytes) : Valid (Base64.encode .std bytes) := by
  have ascii : ∀ byte, Base64.digitByte byte = true → byte < 0x80 := by
    apply forall_byte
    decide +kernel
  exact valid_ascii (fun byte member =>
    ascii byte (List.all_eq_true.mp (Base64.encode_digitBytes bytes) byte member))

theorem payload_readBack
    (placed : placePayload (bareEnvelope metadata encoding) payload = .ok envelope) :
    ∃ data, received encoding payload = some data ∧ (readBack envelope).payload = .ok data := by
  cases encoding with
  | unset => exact absurd placed (by simp [placePayload, bareEnvelope])
  | json =>
    cases parsed : parseDocument maxNestingDepth (jsonPayload payload) with
    | none => exact absurd placed (by simp [placePayload, bareEnvelope, parsed])
    | some value =>
      have shape : envelope =
          { bareEnvelope metadata .json with data := some (jsonPayload payload) } := by
        simpa [placePayload, bareEnvelope, parsed, eq_comm] using placed
      have again := parseDocument_text maxNestingDepth value.compact
        (value.depth_compact ▸ parseDocument_depth parsed)
      refine ⟨value.compact.text, by simp [received, parsed], ?_⟩
      simp [shape, readBack, dataValue, bareEnvelope, Envelope.payload, parsed, again]
  | text =>
    have shape := (Except.ok.inj placed).symm
    have parsed := parseDocument_text maxNestingDepth (.string (quote payload)) (Nat.zero_le _)
    refine ⟨coerce payload, rfl, ?_⟩
    have decoded := unmarshalString_text (escapeHTML (quote payload))
    rw [unquote_escapeHTML, unquote_quote] at decoded
    simp [shape, readBack, dataValue, bareEnvelope, Envelope.payload,
      parsed, Value.compact, decoded]
  | binary =>
    have shape := (Except.ok.inj placed).symm
    refine ⟨payload, rfl, ?_⟩
    simp [shape, readBack, dataValue, bareEnvelope, Envelope.payload,
      (base64_valid payload).coerce_eq, Base64.decode_encode]

theorem Kind.ofText_wire {kind : Kind} (wire : kind.validWire = true) :
    Kind.ofText (coerce kind.text) = kind := by
  cases kind with
  | command => decide
  | event => decide
  | query => exact absurd wire (by decide)
  | other text => exact absurd wire (by simp [Kind.validWire])

theorem complete_texts (complete : envelope.complete = true) :
    coerce envelope.specVersion = envelope.specVersion ∧
      Kind.ofText (coerce envelope.kind.text) = envelope.kind ∧
        coerce envelope.name = envelope.name := by
  simp only [Envelope.complete, Bool.and_eq_true, beq_iff_eq] at complete
  obtain ⟨⟨⟨⟨⟨⟨⟨⟨⟨⟨spec, _⟩, wire⟩, _⟩, _⟩, name⟩, _⟩, _⟩, _⟩, _⟩, _⟩ := complete
  refine ⟨?_, Kind.ofText_wire wire, (valid_of_matchesName name).coerce_eq⟩
  rw [spec]
  exact (valid_ofString "1.0").coerce_eq

theorem complete_readBack (complete : envelope.complete = true)
    (contentType : Valid envelope.contentType) : (readBack envelope).complete = true := by
  obtain ⟨spec, kind, name⟩ := complete_texts complete
  rw [← complete]
  simp only [Envelope.complete, readBack, spec, kind, name, contentType.coerce_eq, Stamp.isZero_utc]

theorem coerceHeaders_eq_iff (headers : Headers) :
    coerceHeaders headers = headers ↔ ∀ row ∈ headers.rows, Valid row.1 ∧ Valid row.2 := by
  constructor
  · intro same row member
    rw [← same] at member
    obtain ⟨source, _, rfl⟩ := List.mem_map.mp (KeyedTable.ofAssignments_subset _ row member)
    exact ⟨valid_coerce _, valid_coerce _⟩
  · intro valid
    have rows : headers.rows.map (fun row => (coerce row.1, coerce row.2)) = headers.rows := by
      refine (List.map_congr_left ?_).trans (List.map_id _)
      intro row member
      obtain ⟨key, value⟩ := valid row member
      rw [key.coerce_eq, value.coerce_eq]
      rfl
    rw [coerceHeaders, rows, KeyedTable.ofAssignments_rows]

theorem envelopeFrom_ok : envelopeFrom urlParse metadata payload encoding = .ok envelope ↔
      placePayload (bareEnvelope metadata encoding) payload = .ok envelope ∧
        envelope.validate urlParse = .ok () := by
  unfold envelopeFrom
  cases placed : placePayload (bareEnvelope metadata encoding) payload with
  | error err => simp [bind, Except.bind]
  | ok found =>
    cases validated : found.validate urlParse with
    | error err =>
      simp only [bind, Except.bind, validated, reduceCtorEq, Except.ok.injEq, false_iff, not_and]
      rintro rfl
      simp [validated]
    | ok _ =>
      simp only [bind, Except.bind, validated, pure, Except.pure, Except.ok.injEq]
      constructor
      · rintro rfl
        exact ⟨rfl, validated⟩
      · exact fun both => both.1

theorem marshalEnvelope_ok {bytes : Bytes} :
    marshalEnvelope urlParse metadata payload encoding = .ok bytes ↔
      ∃ envelope value, placePayload (bareEnvelope metadata encoding) payload = .ok envelope ∧
        envelope.validate urlParse = .ok () ∧ encodeEnvelope envelope = some value ∧
        bytes = value.text ∧ value.text.length ≤ defaultMaxEnvelopeBytes := by
  unfold marshalEnvelope
  cases made : envelopeFrom urlParse metadata payload encoding with
  | error err =>
    simp only [bind, Except.bind, reduceCtorEq, false_iff]
    rintro ⟨envelope, value, placed, validated, _⟩
    rw [envelopeFrom_ok.mpr ⟨placed, validated⟩] at made
    cases made
  | ok envelope =>
    obtain ⟨placed, validated⟩ := envelopeFrom_ok.mp made
    cases encoded : encodeEnvelope envelope with
    | none =>
      simp only [bind, Except.bind, encoded, throw, throwThe, MonadExceptOf.throw,
        reduceCtorEq, false_iff]
      rintro ⟨other, value, isOther, _, isValue, _⟩
      rw [placed] at isOther
      rw [← Except.ok.inj isOther, encoded] at isValue
      cases isValue
    | some value =>
      simp only [bind, Except.bind, encoded]
      constructor
      · intro sent
        split at sent
        · exact absurd sent (by simp [throw, throwThe, MonadExceptOf.throw])
        next fits =>
          exact ⟨envelope, value, placed, validated, encoded,
            (Except.ok.inj sent).symm, Nat.le_of_not_lt fits⟩
      · rintro ⟨other, found, isOther, _, isFound, rfl, fits⟩
        rw [placed] at isOther
        rw [← Except.ok.inj isOther, encoded] at isFound
        rw [← Option.some.inj isFound] at fits ⊢
        rw [if_neg (Nat.not_lt.mpr fits)]
        rfl

theorem placed_utc (placed : placePayload (bareEnvelope metadata encoding) payload = .ok envelope) :
    envelope.time.utc = envelope.time ∧ envelope.notBefore.utc = envelope.notBefore ∧
      envelope.expiresAt.utc = envelope.expiresAt := by
  obtain ⟨data, dataBase64, rfl⟩ := placePayload_shape placed
  simp [bareEnvelope, utcOrZero_eq]

/-- What `UnmarshalEnvelope` makes of an encoded envelope. -/
theorem unmarshalEnvelope_sent (urlParse : Bytes → Bool) {value : Value}
    (placed : placePayload (bareEnvelope metadata encoding) payload = .ok envelope)
    (encoded : encodeEnvelope envelope = some value)
    (fits : value.text.length ≤ defaultMaxEnvelopeBytes) (found : Envelope) :
    unmarshalEnvelope urlParse value.text = .ok found ↔
      (readBack envelope).validate urlParse = .ok () ∧ found = readBack envelope := by
  obtain ⟨time, notBefore, expiresAt⟩ := placed_utc placed
  rw [unmarshalEnvelope, if_neg (Nat.not_lt.mpr fits),
    decodeEnvelope_encode encoded time notBefore expiresAt]
  cases validated : (readBack envelope).validate urlParse with
  | error err => simp [bind, Except.bind, validated]
  | ok _ => simp [bind, Except.bind, validated, pure, Except.pure, eq_comm]

/-- The texts that JSON conversion leaves as they are, and a source that is accepted
once converted. -/
structure Legible (urlParse : Bytes → Bool) (metadata : Metadata) (payload : Bytes)
    (encoding : DataEncoding) : Prop where
  contentType : Valid metadata.contentType
  subject : Valid metadata.subject
  key : Valid metadata.key
  headers : ∀ row ∈ metadata.headers.rows, Valid row.1 ∧ Valid row.2
  text : encoding = .text → Valid payload
  source : validateSource urlParse (coerce metadata.source) = .ok ()

/-- Text and binary payloads byte for byte, JSON payloads token by token; an
empty JSON payload is null. -/
def SamePayload (encoding : DataEncoding) (sent got : Bytes) : Prop :=
  match encoding with
  | .json => ∃ before after, parseDocument maxNestingDepth (jsonPayload sent) = some before ∧
      parseDocument maxNestingDepth got = some after ∧ after.tokens = before.tokens
  | _ => got = sent

/-- The envelope read back is the one that was sent. -/
structure Returned (metadata : Metadata) (payload : Bytes) (encoding : DataEncoding)
    (envelope : Envelope) : Prop where
  id : envelope.id = metadata.id
  kind : envelope.kind = metadata.kind
  name : envelope.name = metadata.name
  schemaVersion : envelope.schemaVersion = metadata.schemaVersion
  contentType : envelope.contentType = metadata.contentType
  subject : envelope.subject = metadata.subject
  key : envelope.key = metadata.key
  correlationID : envelope.correlationID = metadata.correlationID
  causationID : envelope.causationID = metadata.causationID
  headers : envelope.headers = metadata.headers
  time : envelope.time = metadata.time.utc
  notBefore : envelope.notBefore = metadata.notBefore.utc
  expiresAt : envelope.expiresAt = metadata.expiresAt.utc
  dataEncoding : envelope.dataEncoding = encoding
  payload : ∃ got, envelope.payload = .ok got ∧ SamePayload encoding payload got

theorem validate_readBack (placed : placePayload (bareEnvelope metadata encoding) payload =
    .ok envelope)
    (validated : envelope.validate urlParse = .ok ())
    (legible : Legible urlParse metadata payload encoding) :
    (readBack envelope).validate urlParse = .ok () := by
  obtain ⟨complete, _, _, times, headers⟩ := (validate_ok_iff envelope).mp validated
  obtain ⟨got, _, payload⟩ := payload_readBack placed
  obtain ⟨data, dataBase64, rfl⟩ := placePayload_shape placed
  refine (validate_ok_iff _).mpr ⟨complete_readBack complete legible.contentType, legible.source,
    ⟨got, payload⟩, times, ?_⟩
  show validateHeaders (coerceHeaders metadata.headers) = .ok ()
  rw [(coerceHeaders_eq_iff metadata.headers).mpr legible.headers]
  exact headers

theorem samePayload_received {got : Bytes} (isGot : received encoding payload = some got) :
    SamePayload encoding payload got ↔ (encoding = .text → Valid payload) := by
  cases encoding with
  | unset => exact absurd isGot (by simp [received])
  | json =>
    obtain ⟨value, parsed, rfl⟩ := Option.map_eq_some_iff.mp isGot
    have again := parseDocument_text maxNestingDepth value.compact
      (value.depth_compact ▸ parseDocument_depth parsed)
    simp only [SamePayload, reduceCtorEq, false_implies, iff_true]
    exact ⟨value, value.compact, parsed, again, value.tokens_compact⟩
  | text =>
    rw [← Option.some.inj isGot]
    simp only [SamePayload, forall_const]
    exact coerce_eq_iff payload
  | binary =>
    rw [← Option.some.inj isGot]
    simp [SamePayload]

theorem returned_readBack (placed : placePayload (bareEnvelope metadata encoding) payload =
    .ok envelope)
    (validated : envelope.validate urlParse = .ok ()) :
    Returned metadata payload encoding (readBack envelope) ↔
      Valid metadata.contentType ∧ Valid metadata.subject ∧ Valid metadata.key ∧
        (∀ row ∈ metadata.headers.rows, Valid row.1 ∧ Valid row.2) ∧
        (encoding = .text → Valid payload) := by
  obtain ⟨complete, _⟩ := (validate_ok_iff envelope).mp validated
  obtain ⟨_, kind, name⟩ := complete_texts complete
  obtain ⟨got, isGot, payload⟩ := payload_readBack placed
  obtain ⟨data, dataBase64, rfl⟩ := placePayload_shape placed
  constructor
  · intro returned
    obtain ⟨found, isFound, same⟩ := returned.payload
    rw [payload] at isFound
    rw [← Except.ok.inj isFound, samePayload_received isGot] at same
    exact ⟨(coerce_eq_iff _).mp returned.contentType, (coerce_eq_iff _).mp returned.subject,
      (coerce_eq_iff _).mp returned.key, (coerceHeaders_eq_iff _).mp returned.headers, same⟩
  · rintro ⟨contentType, subject, key, headers, text⟩
    exact {
      id := rfl
      kind := kind
      name := name
      schemaVersion := rfl
      contentType := contentType.coerce_eq
      subject := subject.coerce_eq
      key := key.coerce_eq
      correlationID := rfl
      causationID := rfl
      headers := (coerceHeaders_eq_iff _).mpr headers
      time := rfl
      notBefore := by simp [readBack, bareEnvelope, utcOrZero_eq]
      expiresAt := by simp [readBack, bareEnvelope, utcOrZero_eq]
      dataEncoding := rfl
      payload := ⟨got, payload, (samePayload_received isGot).mpr text⟩ }

/-- An encoded envelope is read back as it was sent exactly if its texts are
valid UTF-8 and its source is still accepted. -/
theorem marshalled_envelope_returns_iff (urlParse : Bytes → Bool) (metadata : Metadata)
    (payload : Bytes) (encoding : DataEncoding) (bytes : Bytes)
    (sent : marshalEnvelope urlParse metadata payload encoding = .ok bytes) :
    (∃ envelope, unmarshalEnvelope urlParse bytes = .ok envelope ∧
      Returned metadata payload encoding envelope) ↔
      Legible urlParse metadata payload encoding := by
  obtain ⟨envelope, value, placed, validated, encoded, rfl, fits⟩ := marshalEnvelope_ok.mp sent
  have reads := unmarshalEnvelope_sent urlParse placed encoded fits
  have returns := returned_readBack placed validated
  constructor
  · rintro ⟨found, isFound, returned⟩
    obtain ⟨accepted, rfl⟩ := (reads found).mp isFound
    obtain ⟨contentType, subject, key, headers, text⟩ := returns.mp returned
    obtain ⟨_, source, _⟩ := (validate_ok_iff _).mp accepted
    obtain ⟨data, dataBase64, rfl⟩ := placePayload_shape placed
    exact ⟨contentType, subject, key, headers, text, source⟩
  · intro legible
    exact ⟨readBack envelope, (reads _).mpr ⟨validate_readBack placed validated legible, rfl⟩,
      returns.mpr ⟨legible.contentType, legible.subject, legible.key,
        legible.headers, legible.text⟩⟩

def sampleMetadata : Metadata where
  id := 10
  kind := .event
  name := ofString "order"
  schemaVersion := 1
  source := ofString "shop"
  subject := []
  time := ⟨63000000000000000000, 3600⟩
  correlationID := 10
  causationID := 0
  key := []
  contentType := ofString "a/b"
  schema := []
  headers := .empty
  notBefore := .zero
  expiresAt := .zero

def keyedMetadata : Metadata :=
  { sampleMetadata with
    subject := ofString "orders/7"
    key := ofString "7"
    causationID := 9
    headers := .ofAssignments [(ofString "tenant", ofString "north"),
      (ofString "lang", ofString "lv")]
    notBefore := ⟨63000000000000000000, 0⟩
    expiresAt := ⟨63000000001000000000, -7200⟩ }

def spacedPayload : Bytes := ofString "[1, [\"a&b\"] ]"

theorem keyedMetadata_accepted :
    (marshalEnvelope (fun _ => true) keyedMetadata spacedPayload .json).toOption.isSome = true := by
  decide +kernel

theorem keyedMetadata_legible : Legible (fun _ => true) keyedMetadata spacedPayload .json where
  contentType := by decide
  subject := by decide
  key := by decide
  headers := by decide
  text := by simp
  source := by decide

theorem marshalled_envelope_returns_iff_keyed :
    ∃ bytes envelope, marshalEnvelope (fun _ => true) keyedMetadata
      spacedPayload .json = .ok bytes ∧
      unmarshalEnvelope (fun _ => true) bytes = .ok envelope ∧
      Returned keyedMetadata spacedPayload .json envelope := by
  obtain ⟨bytes, sent⟩ := Fallible.exists_ok keyedMetadata_accepted
  obtain ⟨envelope, read, returned⟩ :=
    (marshalled_envelope_returns_iff (fun _ => true) keyedMetadata
    spacedPayload .json bytes sent).mpr keyedMetadata_legible
  exact ⟨bytes, envelope, sent, read, returned⟩

/-- One header of 6000 bytes that are no UTF-8. -/
def strayHeaders : Headers := .ofAssignments [(ofString "h", List.replicate 6000 0xff)]

def strayMetadata : Metadata := { sampleMetadata with headers := strayHeaders }

def strayEnvelope (headers : Headers) : Envelope :=
  { bareEnvelope sampleMetadata .binary with headers, dataBase64 := some [] }

def otherFields : List (RecordField Envelope) := envelopeFields.take 14 ++ envelopeFields.drop 15

theorem otherFields_write (headers : Headers) : ∀ field ∈ otherFields,
    field.write (strayEnvelope headers) = field.write (strayEnvelope .empty) := by
  simp only [otherFields, envelopeFields, List.take_succ_cons, List.take_zero, List.drop_succ_cons,
    List.drop_zero, List.cons_append, List.nil_append, List.forall_mem_cons]
  exact ⟨rfl, rfl, rfl, rfl, rfl, rfl, rfl, rfl, rfl, rfl, rfl, rfl, rfl, rfl, rfl, rfl, rfl, rfl,
    by simp⟩

theorem otherFields_written : (otherFields.all fun field =>
    (field.write (strayEnvelope .empty)).isSome) = true ∧
    (otherFields.map (RecordField.writtenLength · (strayEnvelope .empty))).sum ≤ 450 := by
  decide +kernel

theorem strayEnvelope_encoded (headers : Headers) {bound : Nat}
    (short : ∀ spelt, encodeHeaders headers = some spelt → spelt.text.length ≤ bound) :
    ∃ value, encodeEnvelope (strayEnvelope headers) = some value ∧
      value.text.length ≤ bound + 500 := by
  obtain ⟨written, rest⟩ := otherFields_written
  have own := RecordField.custom_length (ofString "headers") (fun headers => headers.rows.isEmpty)
    encodeHeaders decodeHeaders Envelope.headers (fun value envelope =>
      { envelope with headers := value })
    (strayEnvelope headers) bound short
  have name : (bodyText (quote (ofString "headers"))).length = 7 := by decide +kernel
  have split : envelopeFields = envelopeFields.take 14 ++ RecordField.custom (ofString "headers")
      (fun headers => headers.rows.isEmpty) encodeHeaders decodeHeaders Envelope.headers
      (fun value envelope => { envelope with headers := value }) :: envelopeFields.drop 15 := rfl
  obtain ⟨members, writes⟩ := @writeFields_some _ (strayEnvelope headers) envelopeFields (by
    intro field member
    rw [split, List.mem_append, List.mem_cons, or_left_comm] at member
    rcases member with rfl | other
    · simp only [RecordField.custom]
      split <;> rfl
    · have inside := List.mem_append.mpr other
      rw [otherFields_write headers field inside]
      exact List.all_eq_true.mp written field inside)
  have same : otherFields.map (RecordField.writtenLength · (strayEnvelope headers)) =
      otherFields.map (RecordField.writtenLength · (strayEnvelope .empty)) := by
    refine List.map_congr_left (fun field inside => ?_)
    rw [RecordField.writtenLength, RecordField.writtenLength,
      otherFields_write headers field inside]
  have total := writeFields_length writes
  rw [← same, otherFields, List.map_append, List.sum_append] at rest
  rw [split, List.map_append, List.sum_append, List.map_cons, List.sum_cons] at total
  exact ⟨object members, by rw [encodeEnvelope, writes]; rfl, by omega⟩

theorem singleHeader_text {headers : Headers} {name text : Bytes}
    (rows : headers.rows = [(name, text)])
    (spelt : Value) (encoded : encodeHeaders headers = some spelt) :
    spelt.text.length ≤ 6 * name.length + 6 * text.length + 8 := by
  have nameLength := quote_length name
  have textLength := quote_length text
  rw [encodeHeaders, rows] at encoded
  rw [← Option.some.inj encoded]
  refine (object_length _).trans ?_
  simp only [fieldsLength, List.map_cons, List.map_nil, List.sum_cons, List.sum_nil, Value.text,
    List.length_cons, List.length_append, List.length_nil]
  omega

theorem validateHeaders_single {headers : Headers} {text : Bytes}
    (rows : headers.rows = [(ofString "h", text)]) : validateHeaders headers = .ok () ↔
      hasLineBreak text = false ∧ text.length < defaultMaxHeaderBytes := by
  have named : ofString "h" ≠ [] ∧ trimmed (ofString "h") = true ∧
    hasLineBreak (ofString "h") = false ∧
      equalFold (ofString "h") (ofString "traceparent") = false ∧
      equalFold (ofString "h") (ofString "tracestate") = false ∧ (ofString "h").length = 1 := by
    decide +kernel
  obtain ⟨filled, whole, line, notParent, notState, size⟩ := named
  have few : ¬ defaultMaxHeaders < 1 := by decide
  cases broken : hasLineBreak text with
  | true => simp [validateHeaders, rows, scanHeaders, few, broken, bind, Except.bind]
  | false =>
    simp only [validateHeaders, rows, List.length_singleton, few, if_false, scanHeaders, filled,
      whole, line, broken, notParent, notState, size, bind, Except.bind, Bool.false_eq_true,
      or_self, Bool.true_eq_false, Nat.zero_add]
    split
    · simp only [reduceCtorEq, true_and, false_iff]
      omega
    · simp only [true_and, true_iff]
      omega

/-- The headers fit the byte limit, but not once each stray byte has become the
three bytes of U+FFFD: the envelope is sent, and no reader accepts it. -/
theorem stray_header_is_not_read_back : ∃ bytes,
    marshalEnvelope (fun _ => true) strayMetadata [] .binary = .ok bytes ∧
      ∀ envelope, unmarshalEnvelope (fun _ => true) bytes ≠ .ok envelope := by
  have rows : strayHeaders.rows = [(ofString "h", List.replicate 6000 0xff)] := rfl
  have placed : placePayload (bareEnvelope strayMetadata .binary) [] =
      .ok (strayEnvelope strayHeaders) :=
    rfl
  have complete : (strayEnvelope .empty).complete = true := by decide +kernel
  have quiet : hasLineBreak (List.replicate 6000 0xff) = false := by
    rw [hasLineBreak, List.any_replicate]
    decide
  have accepted : validateHeaders strayHeaders = .ok () :=
    (validateHeaders_single rows).mpr ⟨quiet, by rw [List.length_replicate]; decide⟩
  have validated : (strayEnvelope strayHeaders).validate (fun _ => true) = .ok () :=
    (validate_ok_iff _).mpr ⟨complete, rfl, ⟨[], rfl⟩, rfl, accepted⟩
  obtain ⟨value, encoded, size⟩ := strayEnvelope_encoded strayHeaders (singleHeader_text rows)
  have fits : value.text.length ≤ defaultMaxEnvelopeBytes := by
    refine size.trans ?_
    rw [List.length_replicate]
    decide +kernel
  refine ⟨value.text, marshalEnvelope_ok.mpr ⟨_, value, placed, validated, encoded, rfl, fits⟩, ?_⟩
  intro envelope read
  obtain ⟨accepted, _⟩ := (unmarshalEnvelope_sent _ placed encoded fits _).mp read
  obtain ⟨_, _, _, _, headers⟩ := (validate_ok_iff _).mp accepted
  have coerced : (coerceHeaders strayHeaders).rows =
      [(ofString "h", coerce (List.replicate 6000 0xff))] := by
    rw [coerceHeaders, rows, List.map_singleton, (valid_ofString "h").coerce_eq]
    rfl
  have small := ((validateHeaders_single coerced).mp headers).2
  rw [coerce_invalid_length (by decide)] at small
  exact absurd small (by decide)

end Sent

end Gomessenger.Messenger
