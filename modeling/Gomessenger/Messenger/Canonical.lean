import Gomessenger.Lib.JsonArray
import Gomessenger.Messenger.RoundTrip

/-! Canonical envelopes: decoding leaves only values that encoding keeps, so the
first pass reaches a fixed point. -/

namespace Gomessenger.Messenger

open Utf8 Rfc3339 Json

/-- What decoding leaves in an envelope: valid texts, and data shallow enough to
be enclosed again. -/
structure Decoded (envelope : Envelope) : Prop where
  source : Valid envelope.source
  subject : Valid envelope.subject
  key : Valid envelope.key
  contentType : Valid envelope.contentType
  schema : Valid envelope.schema
  headers : ∀ row ∈ envelope.headers.rows, Valid row.1 ∧ Valid row.2
  data : ∀ data, envelope.data = some data → ∃ value : Value,
    data = value.text ∧ value.depth < maxNestingDepth

theorem decoded_zero : Decoded .zero where
  source := valid_nil
  subject := valid_nil
  key := valid_nil
  contentType := valid_nil
  schema := valid_nil
  headers := by intro row member; exact absurd member (by simp [Envelope.zero, KeyedTable.empty])
  data := by intro data held; exact absurd held (by simp [Envelope.zero])

theorem set_valid {headers : Headers} {key value : Bytes}
    (valid : ∀ row ∈ headers.rows, Valid row.1 ∧ Valid row.2) (validKey : Valid key)
    (validValue : Valid value) : ∀ row ∈ (headers.set key value).rows,
      Valid row.1 ∧ Valid row.2 := by
  intro row member
  rcases KeyedTable.mem_place key value headers.rows row member with rfl | before
  · exact ⟨validKey, validValue⟩
  · exact valid row before

theorem decodeHeader_valid {headers result : Headers} {member : List Piece × Value}
    (valid : ∀ row ∈ headers.rows, Valid row.1 ∧ Valid row.2)
    (decoded : decodeHeader headers member = some result) :
    ∀ row ∈ result.rows, Valid row.1 ∧ Valid row.2 := by
  unfold decodeHeader at decoded
  split at decoded
  next key body =>
    rw [← Option.some.inj decoded]
    exact set_valid valid (valid_unquote key) (valid_unquote body)
  next key =>
    rw [← Option.some.inj decoded]
    exact set_valid valid (valid_unquote key) valid_nil
  next => cases decoded

theorem decodeHeaders_valid {value : Value} {current result : Headers}
    (valid : ∀ row ∈ current.rows, Valid row.1 ∧ Valid row.2)
    (decoded : decodeHeaders value current = some result) :
    ∀ row ∈ result.rows, Valid row.1 ∧ Valid row.2 := by
  unfold decodeHeaders at decoded
  split at decoded
  · rw [← Option.some.inj decoded]
    intro row member
    exact absurd member (by simp [KeyedTable.empty])
  · obtain ⟨members, isMembers, folds⟩ := Option.bind_eq_some_iff.mp decoded
    clear decoded isMembers
    induction members generalizing current with
    | nil =>
      rw [← Option.some.inj folds]
      exact valid
    | cons member members ih =>
      rw [List.foldlM_cons] at folds
      obtain ⟨next, first, later⟩ := Option.bind_eq_some_iff.mp folds
      exact ih (decodeHeader_valid valid first) later

def KeepsDecoded (field : RecordField Envelope) : Prop :=
  ∀ value record result, value.depth ≤ 9999 → Decoded record →
    field.read value record = some result → Decoded result

theorem string_keeps {name : Bytes} {omitEmpty : Bool} {get : Envelope → Bytes}
    {set : Bytes → Envelope → Envelope}
    (keeps : ∀ text record, Valid text → Decoded record → Decoded (set text record)) :
    KeepsDecoded (.string name omitEmpty get set) := by
  intro value record result _ holds reads
  rcases RecordField.string_read reads with rfl | ⟨text, valid, rfl⟩
  · exact holds
  · exact keeps text record valid holds

theorem custom_keeps {A : Type} {name : Bytes} {omitted : A → Bool} {encode : A → Option Value}
    {decode : Value → A → Option A} {get : Envelope → A} {set : A → Envelope → Envelope}
    (keeps : ∀ decoded record, Decoded record → Decoded (set decoded record)) :
    KeepsDecoded (.custom name omitted encode decode get set) := by
  intro value record result _ holds reads
  obtain ⟨decoded, _, rfl⟩ := RecordField.custom_read reads
  exact keeps decoded record holds

theorem fields_decoded : ∀ field ∈ envelopeFields, KeepsDecoded field := by
  simp only [envelopeFields, List.forall_mem_cons]
  refine ⟨string_keeps (fun _ _ _ holds => { holds with }),
    custom_keeps (fun _ _ holds => { holds with }),
    string_keeps (fun _ _ _ holds => { holds with }),
    string_keeps (fun _ _ _ holds => { holds with }),
    custom_keeps (fun _ _ holds => { holds with }),
    string_keeps (fun _ _ valid holds => { holds with source := valid }),
    string_keeps (fun _ _ valid holds => { holds with subject := valid }),
    custom_keeps (fun _ _ holds => { holds with }), custom_keeps (fun _ _ holds => { holds with }),
    custom_keeps (fun _ _ holds => { holds with }),
    string_keeps (fun _ _ valid holds => { holds with key := valid }),
    string_keeps (fun _ _ valid holds => { holds with contentType := valid }),
    custom_keeps (fun _ _ holds => { holds with }),
    string_keeps (fun _ _ valid holds => { holds with schema := valid }), ?_,
    custom_keeps (fun _ _ holds => { holds with }),
    custom_keeps (fun _ _ holds => { holds with }), ?_,
    custom_keeps (fun _ _ holds => { holds with }), ?_⟩
  · intro value record result _ holds reads
    obtain ⟨decoded, isDecoded, rfl⟩ := RecordField.custom_read reads
    exact { holds with headers := decodeHeaders_valid holds.headers isDecoded }
  · intro value record result shallow holds reads
    obtain ⟨decoded, isDecoded, rfl⟩ := RecordField.custom_read reads
    refine { holds with data := fun data held => ⟨value, ?_, Nat.lt_succ_of_le shallow⟩ }
    rw [decodeRaw, Option.some.injEq] at isDecoded
    rw [← isDecoded] at held
    exact (Option.some.inj held).symm
  · intro field member
    cases member

theorem decodeEnvelope_decoded {data : Bytes} {envelope : Envelope}
    (decoded : decodeEnvelope data = some envelope) : Decoded envelope := by
  obtain ⟨value, parsed, reads⟩ := Option.bind_eq_some_iff.mp decoded
  exact readRecord_invariant fields_decoded (parseDocument_depth parsed) decoded_zero reads

section Again

variable {urlParse : Bytes → Bool} {metadata : Metadata} {payload : Bytes} {encoding : DataEncoding}

variable {data : Bytes} {envelope : Envelope}

theorem unmarshalEnvelope_ok : unmarshalEnvelope urlParse data = .ok envelope ↔
      data.length ≤ defaultMaxEnvelopeBytes ∧ decodeEnvelope data = some envelope ∧
        envelope.validate urlParse = .ok () := by
  unfold unmarshalEnvelope
  split
  next large =>
    simp only [reduceCtorEq, false_iff, not_and]
    exact fun fits => absurd fits (Nat.not_le.mpr large)
  next fits =>
    cases decoded : decodeEnvelope data with
    | none => simp
    | some found =>
      cases validated : found.validate urlParse with
      | error err =>
        simp only [bind, Except.bind, validated, reduceCtorEq,
          Option.some.injEq, false_iff, not_and]
        rintro _ rfl
        simp [validated]
      | ok _ =>
        simp only [bind, Except.bind, validated, pure, Except.pure,
          Except.ok.injEq, Option.some.injEq]
        constructor
        · rintro rfl
          exact ⟨Nat.le_of_not_lt fits, rfl, validated⟩
        · exact fun facts => facts.2.1

theorem unmarshalString_valid {text : Bytes} (read : unmarshalString data = some text) :
    Valid text := by
  unfold unmarshalString at read
  split at read
  next body _ =>
    rw [← Option.some.inj read]
    exact valid_unquote body
  next =>
    rw [← Option.some.inj read]
    exact valid_nil
  next => cases read

theorem payload_text (isText : envelope.dataEncoding = .text)
    (isPayload : envelope.payload = .ok payload) :
    ∃ data, envelope.data = some data ∧ unmarshalString data = some payload := by
  simp only [Envelope.payload, isText] at isPayload
  split at isPayload
  next data held _ =>
    split at isPayload
    next text read => exact ⟨data, held, read.trans (congrArg some (Except.ok.inj isPayload))⟩
    next => cases isPayload
  next => cases isPayload

theorem jsonPayload_text (value : Value) : jsonPayload value.text = value.text := by
  rw [jsonPayload, if_neg value.text_ne_nil]

theorem legible_read
    (read : unmarshalEnvelope urlParse data = .ok envelope)
    (isPayload : envelope.payload = .ok payload) :
    Legible urlParse envelope.metadata payload envelope.dataEncoding := by
  obtain ⟨_, decoded, validated⟩ := unmarshalEnvelope_ok.mp read
  obtain ⟨_, source, _⟩ := (validate_ok_iff envelope).mp validated
  have facts := decodeEnvelope_decoded decoded
  refine ⟨facts.contentType, facts.subject, facts.key, facts.headers, ?_, ?_⟩
  · intro isText
    obtain ⟨data, _, unquoted⟩ := payload_text isText isPayload
    exact unmarshalString_valid unquoted
  · show validateSource urlParse (coerce envelope.source) = .ok ()
    rw [facts.source.coerce_eq]
    exact source

def Metadata.utc (metadata : Metadata) : Metadata :=
  { metadata with
    time := metadata.time.utc
    notBefore := metadata.notBefore.utc
    expiresAt := metadata.expiresAt.utc }

theorem bareEnvelope_utc (metadata : Metadata) (encoding : DataEncoding) :
    bareEnvelope metadata.utc encoding = bareEnvelope metadata encoding := by
  simp [bareEnvelope, Metadata.utc, utcOrZero_eq]

theorem marshalEnvelope_utc : marshalEnvelope urlParse metadata.utc payload encoding =
      marshalEnvelope urlParse metadata payload encoding := by
  unfold marshalEnvelope envelopeFrom
  rw [bareEnvelope_utc]

theorem metadata_readBack (placed : placePayload (bareEnvelope metadata encoding) payload =
    .ok envelope)
    (validated : envelope.validate urlParse = .ok ())
    (legible : Legible urlParse metadata payload encoding) (source : Valid metadata.source)
    (schema : Valid metadata.schema) : (readBack envelope).metadata = metadata.utc := by
  obtain ⟨complete, _⟩ := (validate_ok_iff envelope).mp validated
  obtain ⟨_, kind, name⟩ := complete_texts complete
  obtain ⟨data, dataBase64, rfl⟩ := placePayload_shape placed
  have headers := (coerceHeaders_eq_iff metadata.headers).mpr legible.headers
  simp only [bareEnvelope] at kind name
  simp [readBack, Envelope.metadata, Metadata.utc, bareEnvelope, utcOrZero_eq, kind, name,
    source.coerce_eq, schema.coerce_eq, legible.contentType.coerce_eq, legible.subject.coerce_eq,
    legible.key.coerce_eq, headers]

theorem encodeRaw_compact {value : Value}
    (parsed : parseDocument maxNestingDepth data = some value) :
    encodeRaw (some value.compact.text) = encodeRaw (some data) := by
  have again := parseDocument_text maxNestingDepth value.compact
    (value.depth_compact ▸ parseDocument_depth parsed)
  by_cases shallow : value.depth < maxNestingDepth
  · simp [encodeRaw, again, parsed, Option.filter_some, value.depth_compact, shallow,
      value.compact_compact]
  · simp [encodeRaw, again, parsed, Option.filter_some, value.depth_compact, shallow]

theorem encodeEnvelope_compact {value : Value}
    (parsed : parseDocument maxNestingDepth data = some value) :
    encodeEnvelope { envelope with data := some value.compact.text } =
      encodeEnvelope { envelope with data := some data } := by
  have nonempty : data ≠ [] := by
    rintro rfl
    have blank : parseDocument maxNestingDepth [] = none := rfl
    exact absurd parsed (by simp [blank])
  have held : ∀ bytes : Bytes, bytes ≠ [] →
      (some bytes == none || some bytes == some []) = false := by
    intro bytes some
    simp [some]
  rw [encodeEnvelope, encodeEnvelope]
  refine congrArg (Option.map object) (writeFields_congr ?_)
  simp only [envelopeFields, List.forall_mem_cons]
  refine ⟨rfl, rfl, rfl, rfl, rfl, rfl, rfl, rfl, rfl, rfl, rfl, rfl, rfl, rfl, rfl, rfl, rfl, ?_,
    rfl, fun field member => absurd member (by simp)⟩
  simp only [RecordField.custom, held _ value.compact.text_ne_nil, held _ nonempty,
    encodeRaw_compact parsed]

theorem placePayload_again (urlParse : Bytes → Bool) {got : Bytes}
    (placed : placePayload (bareEnvelope metadata encoding) payload = .ok envelope)
    (valid : encoding = .text → Valid payload) (isGot : received encoding payload = some got) :
    ∃ again, placePayload (bareEnvelope metadata encoding) got = .ok again ∧
      encodeEnvelope again = encodeEnvelope envelope ∧
      (envelope.validate urlParse = .ok () → again.validate urlParse = .ok ()) := by
  cases encoding with
  | unset => exact absurd isGot (by simp [received])
  | json =>
    obtain ⟨value, parsed, rfl⟩ := Option.map_eq_some_iff.mp isGot
    have again := parseDocument_text maxNestingDepth value.compact
      (value.depth_compact ▸ parseDocument_depth parsed)
    have shape : envelope =
        { bareEnvelope metadata .json with data := some (jsonPayload payload) } := by
      simpa [placePayload, bareEnvelope, parsed, eq_comm] using placed
    refine ⟨{ bareEnvelope metadata .json with data := some value.compact.text }, ?_, ?_, ?_⟩
    · simp [placePayload, bareEnvelope, jsonPayload_text, again]
    · rw [shape]
      exact encodeEnvelope_compact parsed
    · rw [shape, validate_ok_iff, validate_ok_iff]
      rintro ⟨complete, source, _, times, headers⟩
      refine ⟨complete, source, ⟨value.compact.text, ?_⟩, times, headers⟩
      simp [Envelope.payload, bareEnvelope, again]
  | text =>
    rw [← Option.some.inj isGot, (valid rfl).coerce_eq]
    exact ⟨envelope, placed, rfl, id⟩
  | binary =>
    rw [← Option.some.inj isGot]
    exact ⟨envelope, placed, rfl, id⟩

variable {bytes : Bytes}

theorem marshalEnvelope_received {got : Bytes}
    (sent : marshalEnvelope urlParse metadata payload encoding = .ok bytes)
    (valid : encoding = .text → Valid payload) (isGot : received encoding payload = some got) :
    marshalEnvelope urlParse metadata got encoding = .ok bytes := by
  obtain ⟨envelope, value, placed, validated, encoded, spelt, fits⟩ := marshalEnvelope_ok.mp sent
  obtain ⟨again, placedAgain, sameValue, validatedAgain⟩ :=
    placePayload_again urlParse placed valid isGot
  exact marshalEnvelope_ok.mpr ⟨again, value, placedAgain, validatedAgain validated,
    sameValue.trans encoded, spelt, fits⟩

theorem canonicalizeEnvelope_ok {canonical : Bytes} :
    canonicalizeEnvelope urlParse data = .ok canonical ↔
      ∃ envelope payload, unmarshalEnvelope urlParse data = .ok envelope ∧
        envelope.payload = .ok payload ∧
        marshalEnvelope urlParse envelope.metadata payload
          envelope.dataEncoding = .ok canonical := by
  unfold canonicalizeEnvelope
  cases read : unmarshalEnvelope urlParse data with
  | error err => simp [bind, Except.bind]
  | ok envelope =>
    cases isPayload : envelope.payload with
    | error err => simp [bind, Except.bind, isPayload]
    | ok payload => simp [bind, Except.bind, isPayload]

theorem unmarshalEnvelope_legible (sent : marshalEnvelope urlParse metadata
    payload encoding = .ok bytes)
    (legible : Legible urlParse metadata payload encoding) (source : Valid metadata.source)
    (schema : Valid metadata.schema) :
    ∃ found got, unmarshalEnvelope urlParse bytes = .ok found ∧ found.payload = .ok got ∧
      found.metadata = metadata.utc ∧ found.dataEncoding = encoding ∧
        received encoding payload = some got := by
  obtain ⟨envelope, value, placed, validated, encoded, rfl, fits⟩ := marshalEnvelope_ok.mp sent
  obtain ⟨got, isGot, isPayload⟩ := payload_readBack placed
  have read : unmarshalEnvelope urlParse value.text = .ok (readBack envelope) :=
    (unmarshalEnvelope_sent urlParse placed encoded fits _).mpr
      ⟨validate_readBack placed validated legible, rfl⟩
  have isEncoding : (readBack envelope).dataEncoding = encoding := by
    obtain ⟨data, dataBase64, rfl⟩ := placePayload_shape placed
    rfl
  exact ⟨readBack envelope, got, read, isPayload,
    metadata_readBack placed validated legible source schema, isEncoding, isGot⟩

theorem canonicalizeEnvelope_sent (sent : marshalEnvelope urlParse metadata
    payload encoding = .ok bytes)
    (legible : Legible urlParse metadata payload encoding) (source : Valid metadata.source)
    (schema : Valid metadata.schema) : canonicalizeEnvelope urlParse bytes = .ok bytes := by
  obtain ⟨found, got, isFound, isGot, isMetadata, isEncoding, isReceived⟩ :=
    unmarshalEnvelope_legible sent legible source schema
  refine canonicalizeEnvelope_ok.mpr ⟨found, got, isFound, isGot, ?_⟩
  rw [isEncoding, isMetadata, marshalEnvelope_utc]
  exact marshalEnvelope_received sent legible.text isReceived

/-- Canonical bytes are canonical themselves, and are read with the metadata and
the encoding of the bytes they were made from. -/
theorem canonicalizeEnvelope_again {canonical : Bytes}
    (read : unmarshalEnvelope urlParse data = .ok envelope)
    (first : canonicalizeEnvelope urlParse data = .ok canonical) :
    canonicalizeEnvelope urlParse canonical = .ok canonical ∧
      ∃ found, unmarshalEnvelope urlParse canonical = .ok found ∧
        found.metadata = envelope.metadata.utc ∧ found.dataEncoding = envelope.dataEncoding := by
  obtain ⟨held, payload, readHeld, isPayload, sent⟩ := canonicalizeEnvelope_ok.mp first
  obtain rfl : held = envelope := Except.ok.inj (readHeld.symm.trans read)
  obtain ⟨_, decoded, _⟩ := unmarshalEnvelope_ok.mp read
  have facts := decodeEnvelope_decoded decoded
  have legible := legible_read read isPayload
  obtain ⟨found, _, isFound, _, isMetadata, isEncoding, _⟩ :=
    unmarshalEnvelope_legible sent legible facts.source facts.schema
  exact ⟨canonicalizeEnvelope_sent sent legible facts.source facts.schema, found,
    isFound, isMetadata, isEncoding⟩

/-- The first canonical form is the last: it is canonical itself, and any number
of further passes returns the same bytes. -/
theorem canonicalized_envelope_is_stable (urlParse : Bytes → Bool) (data canonical : Bytes)
    (first : canonicalizeEnvelope urlParse data = .ok canonical) :
    canonicalizeEnvelope urlParse canonical = .ok canonical ∧
      ∀ hops : Nat, (fun bytes => bytes >>= canonicalizeEnvelope urlParse)^[hops]
    (.ok canonical) = .ok canonical := by
  obtain ⟨envelope, payload, read, _, _⟩ := canonicalizeEnvelope_ok.mp first
  have stable := (canonicalizeEnvelope_again read first).1
  refine ⟨stable, ?_⟩
  intro hops
  induction hops with
  | zero => rfl
  | succ hops ih =>
    rw [Function.iterate_succ_apply', ih]
    exact stable

/-- An envelope as a third party may spell it: blanks, another member order, a
name in capitals, escapes and a local time. -/
def respelt : Bytes :=
  ["\x7b \"ID\":\"00000000-", "0000-0000-0000-", "0000000000\\u0030a\", ", "\"kind\":\"event\",\n",
    "\"name\":\"order\", ", "\"time\":\"2024-02-29T", "02:00:00.50+02:00\", ",
    "\"specVersion\":\"1.0\", ", "\"schemaVersion\":1, ", "\"source\":\"shop\", ",
    "\"correlationId\":\"00000000-", "0000-0000-0000-", "00000000000a\", ",
    "\"contentType\":\"a\\/b\", ",
    "\"dataEncoding\":\"json\", ", "\"data\": [1, \"&\" ] \x7d\n"].flatMap ofString

theorem respelt_accepted :
    (canonicalizeEnvelope (fun _ => true) respelt).toOption.isSome = true := by
  decide +kernel

theorem canonicalized_envelope_is_stable_respelt : ∃ canonical,
    canonicalizeEnvelope (fun _ => true) respelt = .ok canonical ∧
      canonicalizeEnvelope (fun _ => true) canonical = .ok canonical := by
  obtain ⟨canonical, first⟩ := Fallible.exists_ok respelt_accepted
  exact ⟨canonical, first,
    (canonicalized_envelope_is_stable (fun _ => true) respelt canonical first).1⟩

end Again

end Gomessenger.Messenger
