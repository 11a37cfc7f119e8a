import Gomessenger.Nats.CloudEventsRoundTrip

/-! The identity of an event in the three wire modes. -/

namespace Gomessenger.Nats

open Utf8 Rfc3339 Json Fallible
open Messenger (Envelope Headers DataEncoding Event)

variable {T : Type}

/-- The codec writes a value it has read from one of its own encodings as it was. -/
def Stable (codec : Messenger.Codec T) : Prop :=
  ∀ value data, codec.encode value = .ok data → ∃ read,
    codec.decode data = .ok read ∧ codec.encode read = .ok data

/-- A canonical envelope of an event whose payload is an encoding of its codec. -/
structure Encodes (urlParse : Bytes → Bool) (event : Event T)
    (native : Bytes) (envelope : Envelope) :
    Prop where
  canonical : Messenger.canonicalizeEnvelope urlParse native = .ok native
  read : Messenger.unmarshalEnvelope urlParse native = .ok envelope
  describes : event.descriptor.describes envelope.metadata = true
  encoding : envelope.dataEncoding = event.descriptor.info.dataEncoding
  payload : ∃ value data, event.descriptor.codec.encode value = .ok data ∧
    envelope.payload = .ok data

section Modes

variable {urlParse : Bytes → Bool} {sdk : Sdk} {event : Event T}
    {native : Bytes} {envelope : Envelope}

variable {data : Bytes}

theorem encodes_marshal (encodes : Encodes urlParse event native envelope)
    (isPayload : envelope.payload = .ok data) :
    Messenger.marshalEnvelope urlParse envelope.metadata data
      event.descriptor.codec.encoding = .ok native := by
  obtain ⟨found, payload, read, isFound, written⟩ :=
    Messenger.canonicalizeEnvelope_ok.mp encodes.canonical
  rw [encodes.read] at read
  rw [← Except.ok.inj read] at isFound written
  rw [isPayload] at isFound
  rw [← Except.ok.inj isFound, encodes.encoding, event.descriptor.encoding] at written
  exact written

theorem decodeEvent_native (stable : Stable event.descriptor.codec)
    (encodes : Encodes urlParse event native envelope) (header : Header) :
    ∃ decoded, decodeEvent urlParse sdk .native event native header = .ok decoded ∧
      decoded.message.metadata = envelope.metadata ∧ decoded.canonical = native := by
  obtain ⟨value, data, encoded, isPayload⟩ := encodes.payload
  obtain ⟨read, isRead, _⟩ := stable value data encoded
  have encoding : envelope.dataEncoding = event.descriptor.codec.encoding :=
    encodes.encoding.trans event.descriptor.encoding
  have message : Messenger.decodeMessage urlParse event.descriptor native =
      .ok ⟨envelope.metadata, read⟩ := by
    simp [Messenger.decodeMessage, encodes.read, encodes.describes, encodes.encoding, isPayload,
      isRead, event.descriptor.encoding, bind, Except.bind, pure, Except.pure]
  refine ⟨⟨⟨envelope.metadata, read⟩, native⟩, ?_, rfl, rfl⟩
  simp [decodeEvent, encodes.canonical, message, bind, Except.bind, pure, Except.pure]

theorem decodeEvent_cloud {mode : WireMode} {wire : Bytes} {header : Header}
    (stable : Stable event.descriptor.codec) (encodes : Encodes urlParse event native envelope)
    (cloud : mode ≠ .native) (isPayload : envelope.payload = .ok data)
    (decodes : decodeCloudEvent sdk mode wire header = .ok ⟨cloudMetadata envelope,
      envelope.dataEncoding, data⟩) :
    ∃ read, decodeEvent urlParse sdk mode event wire header =
      (Messenger.marshalEnvelope urlParse (cloudMetadata envelope) data
        event.descriptor.codec.encoding).map (fun canonical =>
          ⟨⟨cloudMetadata envelope, read⟩, canonical⟩) := by
  obtain ⟨value, found, encoded, isFound⟩ := encodes.payload
  rw [isPayload] at isFound
  rw [← Except.ok.inj isFound] at encoded
  obtain ⟨read, isRead, again⟩ := stable value data encoded
  have describes : event.descriptor.describes (cloudMetadata envelope) = true := encodes.describes
  have typed : Messenger.encodeTypedEnvelope urlParse event.descriptor
    (cloudMetadata envelope) read =
      Messenger.marshalEnvelope urlParse (cloudMetadata envelope) data
          event.descriptor.codec.encoding := by
    simp [Messenger.encodeTypedEnvelope, describes, again, bind, Except.bind]
  refine ⟨read, ?_⟩
  rw [decodeEvent, if_neg cloud]
  simp only [decodes, describes, encodes.encoding, isRead, typed, beq_self_eq_true, Bool.and_self,
    bind, Except.bind, pure, Except.pure, Bool.true_eq_false, if_false]
  cases Messenger.marshalEnvelope urlParse (cloudMetadata envelope) data
    event.descriptor.codec.encoding <;> rfl

def DecodedEvent.identity (decoded : DecodedEvent T) : Bytes × MessageID × Bytes :=
  (decoded.message.metadata.source, decoded.message.metadata.id, decoded.canonical)

theorem cloud_identity_iff (readable : Readable envelope) (stable : Stable event.descriptor.codec)
    (encodes : Encodes urlParse event native envelope) {mode : WireMode} (cloud : mode ≠ .native)
    {wire : Bytes} {header : Header} (isPayload : envelope.payload = .ok data)
    (decodes : decodeCloudEvent sdk mode wire header = .ok ⟨cloudMetadata envelope,
      envelope.dataEncoding, data⟩) :
    (∃ decoded, decodeEvent urlParse sdk mode event wire header = .ok decoded ∧
        decoded.identity = (envelope.source, envelope.id, native)) ↔
      cloudHeaders envelope.headers = envelope.headers := by
  obtain ⟨read, decoding⟩ := decodeEvent_cloud stable encodes cloud isPayload decodes
  rw [decoding]
  constructor
  · rintro ⟨decoded, isDecoded, same⟩
    cases written : Messenger.marshalEnvelope urlParse (cloudMetadata envelope) data
        event.descriptor.codec.encoding with
    | error err =>
      rw [written] at isDecoded
      exact absurd isDecoded (by simp [Except.map])
    | ok canonical =>
      rw [written] at isDecoded
      rw [← Except.ok.inj isDecoded] at same
      have isNative : canonical = native := (Prod.mk.inj (Prod.mk.inj same).2).2
      rw [isNative] at written
      exact (headers_read written encodes.read (cloudHeaders_texts readable.texts)).symm
  · intro kept
    have metadata : cloudMetadata envelope = envelope.metadata := by
      rw [cloudMetadata, kept]
      rfl
    rw [metadata, encodes_marshal encodes isPayload]
    exact ⟨_, rfl, rfl⟩

/-- An event consumed in a mode has the identity of its native envelope exactly if
the mode is the native one, or every trace header is spelt in lower case and has a
value. -/
theorem wire_mode_identity_iff (urlParse : Bytes → Bool) (sdk : Sdk) (unchanged : sdk.Unchanged)
    (event : Event T) (stable : Stable event.descriptor.codec) (native : Bytes)
    (envelope : Envelope) (encodes : Encodes urlParse event native envelope) (route : Route)
    (message : Msg) (published : Published urlParse sdk route native message) :
    (∃ decoded, decodeEvent urlParse sdk route.mode event message.data
      message.header = .ok decoded ∧
        decoded.identity = (envelope.source, envelope.id, native)) ↔
      (route.mode = .native ∨ ∀ row ∈ envelope.headers.rows, (traceName? row.1).isSome = true →
        traceName? row.1 = some row.1 ∧ row.2 ≠ []) := by
  by_cases native : route.mode = .native
  · obtain ⟨now, metadata, prepared⟩ := published.prepared
    have isData := preparePublishMessage_ok prepared
    rw [native] at isData ⊢
    obtain ⟨decoded, decodes, same, isCanonical⟩ := decodeEvent_native stable encodes message.header
    rw [show message.data = _ from isData]
    simp only [true_or, iff_true]
    exact ⟨decoded, decodes, by rw [DecodedEvent.identity, same, isCanonical]; rfl⟩
  · obtain ⟨found, payload, read, isPayload, readable, decodes⟩ :=
      decodeCloudEvent_published unchanged published native
    rw [encodes.read] at read
    rw [← Except.ok.inj read] at isPayload readable decodes
    rw [cloud_identity_iff readable stable encodes native isPayload decodes,
      cloudHeaders_eq_iff readable.scanned]
    simp [native]

def sampleEvent : Event Bytes where
  descriptor :=
    ⟨⟨.event, ofString "order", 1, ofString "a/b", .binary, []⟩,
      ⟨fun value => .ok value, fun data => .ok data, ofString "a/b", .binary⟩, rfl, rfl⟩
  isEvent := rfl

theorem sampleEvent_stable : Stable sampleEvent.descriptor.codec :=
  fun _ data _ => ⟨data, rfl, rfl⟩

theorem tracedMetadata_legible {value : Bytes} (valid : Valid value) :
    Messenger.Legible (fun _ => true) (tracedMetadata value) [] .binary where
  contentType := (by decide : Valid Messenger.sampleMetadata.contentType)
  subject := valid_nil
  key := valid_nil
  headers := tracedMetadata_texts valid
  text := by simp
  source := rfl

theorem traced_encodes {value native : Bytes} {envelope : Envelope} (valid : Valid value)
    (marshalled : Messenger.marshalEnvelope (fun _ => true) (tracedMetadata value)
      [] .binary = .ok native)
    (read : Messenger.unmarshalEnvelope (fun _ => true) native = .ok envelope) :
    Encodes (fun _ => true) sampleEvent native envelope := by
  have legible := tracedMetadata_legible valid
  have source : Valid (tracedMetadata value).source :=
    (by decide : Valid Messenger.sampleMetadata.source)
  have canonical := Messenger.canonicalizeEnvelope_sent marshalled legible source valid_nil
  obtain ⟨first, encoded, placed, validated, isEncoded, rfl, fits⟩ :=
    Messenger.marshalEnvelope_ok.mp marshalled
  have metadata := Messenger.metadata_readBack placed validated legible source valid_nil
  obtain ⟨data, received, isPayload⟩ := Messenger.payload_readBack placed
  rw [← Option.some.inj received] at isPayload
  obtain ⟨_, rfl⟩ := (Messenger.unmarshalEnvelope_sent _ placed isEncoded fits _).mp read
  refine ⟨canonical, read, ?_, ?_, [], [], rfl, isPayload⟩
  · rw [metadata]
    rfl
  · obtain ⟨data, dataBase64, rfl⟩ := Messenger.placePayload_shape placed
    rfl

theorem wire_mode_identity_iff_traced : ∃ native message envelope decoded,
    Published (fun _ => true) binarySdk sampleRoute native message ∧
      Encodes (fun _ => true) sampleEvent native envelope ∧
      decodeEvent (fun _ => true) binarySdk sampleRoute.mode sampleEvent message.data
        message.header = .ok decoded ∧
      decoded.identity = (envelope.source, envelope.id, native) := by
  obtain ⟨native, message, marshalled, published⟩ := @exists_traced [0x61] (by simp)
  obtain ⟨envelope, _, read, _⟩ := decodeCloudEvent_published
    binarySdk_unchanged published (by decide)
  have encodes := traced_encodes (by decide) marshalled read
  have headers := headers_read marshalled read (tracedMetadata_texts (by decide))
  obtain ⟨decoded, decodes, same⟩ :=
    (wire_mode_identity_iff (fun _ => true) binarySdk binarySdk_unchanged
    sampleEvent sampleEvent_stable native envelope encodes sampleRoute message published).mpr
        (.inr (by
      rw [headers]
      decide))
  exact ⟨native, message, envelope, decoded, published, encodes, decodes, same⟩

/-- The canonical envelope of an event with an empty trace state is another one
once it has been published in the binary mode. -/
theorem empty_trace_header_changes_identity : ∃ native message envelope,
    Published (fun _ => true) binarySdk sampleRoute native message ∧
      Encodes (fun _ => true) sampleEvent native envelope ∧
      ∀ decoded, decodeEvent (fun _ => true) binarySdk sampleRoute.mode sampleEvent
        message.data message.header =
          .ok decoded → decoded.canonical ≠ native := by
  obtain ⟨native, message, marshalled, published⟩ := @exists_traced [] (by simp)
  obtain ⟨envelope, payload, read, isPayload, readable, decodes⟩ :=
    decodeCloudEvent_published binarySdk_unchanged published (by decide)
  have encodes := traced_encodes (by decide) marshalled read
  have headers := headers_read marshalled read (tracedMetadata_texts (by decide))
  refine ⟨native, message, envelope, published, encodes, ?_⟩
  intro decoded isDecoded same
  obtain ⟨found, decoding⟩ := decodeEvent_cloud sampleEvent_stable encodes
    (by decide) isPayload decodes
  have identity : decoded.identity = (envelope.source, envelope.id, native) := by
    have rebuilt := isDecoded
    rw [decoding] at rebuilt
    cases written : Messenger.marshalEnvelope (fun _ => true) (cloudMetadata envelope) payload
        sampleEvent.descriptor.codec.encoding with
    | error err => rw [written] at rebuilt; exact absurd rebuilt (by simp [Except.map])
    | ok canonical =>
      rw [written] at rebuilt
      rw [← Except.ok.inj rebuilt] at same ⊢
      rw [← show canonical = native from same]
      rfl
  have kept :=
    (cloud_identity_iff readable sampleEvent_stable encodes (by decide) isPayload decodes).mp
    ⟨decoded, isDecoded, identity⟩
  rw [headers] at kept
  have rows := congrArg KeyedTable.rows kept
  exact absurd rows (by decide)

end Modes

end Gomessenger.Nats
