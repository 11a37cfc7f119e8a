import Gomessenger.Nats.CloudHeaders
import Gomessenger.Nats.Route

/-! What is rebuilt from the CloudEvents message of an envelope. -/

namespace Gomessenger.Nats

open Utf8 Rfc3339 Json Fallible
open Messenger (Envelope Headers DataEncoding)

variable (id : MessageID) (text : Bytes)

theorem messageIDString_ne_nil : Messenger.messageIDString id ≠ [] := by
  intro empty
  have parsed := Messenger.parseMessageID_string id
  rw [empty, show Messenger.parseMessageID [] = none from rfl] at parsed
  cases parsed

theorem parseID_string : parseID (Messenger.messageIDString id) = .ok id := by
  rw [parseID, Messenger.parseMessageID_string]

@[simp] theorem extensionString_string : extensionString (some (.string text)) = text :=
  rfl

theorem correlationOf_string (own : MessageID) :
    correlationOf (some (.string (Messenger.messageIDString id))) own = .ok id := by
  rw [correlationOf, extensionString_string, if_neg (messageIDString_ne_nil id), parseID_string]

@[simp] theorem extensionString_present : extensionString (present text) = text := by
  unfold present
  split
  next empty => exact empty.symm
  next => rfl

theorem extensionTime_timeExtension {stamp : Stamp} (inUtc : stamp.utc = stamp)
    (shown : stamp.isZero = true ∨ (format stamp).isSome = true) :
    extensionTime (timeExtension stamp) = .ok stamp := by
  unfold timeExtension
  split
  next zero =>
    rw [← inUtc, Messenger.utc_of_isZero zero]
    rfl
  next nonzero =>
    obtain ⟨text, formatted⟩ := Option.isSome_iff_exists.mp (shown.resolve_left nonzero)
    rw [← inUtc] at formatted
    rw [extensionTime, extensionString_string, if_neg (display_ne_nil _), inUtc,
      display_of_format formatted, parse_format true formatted, inUtc]

theorem base64_ne_nil (value : Value) : Base64.encode .rawURL value.text ≠ [] := by
  intro empty
  have decoded := Base64.decode_encode .rawURL value.text
  rw [empty] at decoded
  exact value.text_ne_nil (Option.some.inj decoded).symm

theorem headersExtension_read {headers : Headers} {value : Option ExtensionValue}
    (texts : ∀ row ∈ headers.rows, Valid row.1 ∧ Valid row.2)
    (lines : ∀ row ∈ headers.rows, Messenger.hasLineBreak row.1 = false ∧
      Messenger.hasLineBreak row.2 = false)
    (encoded : headersExtension headers = .ok value) :
    decodeHeadersExtension value = .ok (some headers) := by
  unfold headersExtension at encoded
  split at encoded
  next empty =>
    rw [← Except.ok.inj encoded]
    have isEmpty : headers = .empty := KeyedTable.ext_find? _ _ (fun key => by
      simp [KeyedTable.find?, empty, KeyedTable.lookup, KeyedTable.empty])
    rw [isEmpty]
    rfl
  next filled =>
    obtain ⟨written, isWritten⟩ : ∃ written, Messenger.encodeHeaders headers = some written :=
      ⟨_, rfl⟩
    rw [isWritten] at encoded
    have depth : written.depth ≤ Messenger.maxNestingDepth :=
      (Messenger.encodeHeaders_depth isWritten).trans (by decide)
    have read : Messenger.decodeHeaders written .empty = some headers := by
      rw [Messenger.decodeHeaders_encode isWritten,
        (Messenger.coerceHeaders_eq_iff headers).mpr texts]
    have quiet : headers.rows.any
        (fun row => Messenger.hasLineBreak row.1 || Messenger.hasLineBreak row.2) = false := by
      rw [List.any_eq_false]
      intro row member
      simp [lines row member]
    rw [← Except.ok.inj encoded, decodeHeadersExtension, extensionString_string,
      if_neg (base64_ne_nil written), Base64.decode_encode]
    obtain ⟨entries, rfl⟩ : ∃ entries, written = .node .object entries := by
      obtain ⟨first, rest, rows⟩ := List.exists_cons_of_ne_nil filled
      rw [Messenger.encodeHeaders, rows] at isWritten
      exact ⟨_, (Option.some.inj isWritten).symm⟩
    simp [parseDocument_text _ _ depth, read, quiet]

theorem traceHeader_present (headers : Headers) (name value : Bytes) :
    traceHeader (some headers) name (present value) = .ok
      (some (withTrace headers name value)) := by
  rw [traceHeader, extensionString_present, withTrace]
  split <;> rfl

section Rebuilt

theorem CarriedValue.eq {sent got : Option ExtensionValue} (carried : CarriedValue sent got)
    (textual : ∀ value, sent ≠ some (.integer value)) : got = sent := by
  cases sent with
  | none => exact carried
  | some value =>
    cases value with
    | string text => exact carried
    | integer value => exact absurd rfl (textual value)
    | other text value => exact carried

theorem present_textual (text : Bytes) (value : Int64) : present text ≠ some (.integer value) := by
  unfold present
  split <;> simp

theorem timeExtension_textual (stamp : Stamp) (value : Int64) :
    timeExtension stamp ≠ some (.integer value) := by
  unfold timeExtension
  split <;> simp

theorem headersExtension_textual {headers : Headers} {encoded : Option ExtensionValue}
    (isEncoded : headersExtension headers = .ok encoded) (value : Int64) :
    encoded ≠ some (.integer value) := by
  unfold headersExtension at isEncoded
  split at isEncoded
  · rw [← Except.ok.inj isEncoded]
    simp
  · split at isEncoded
    · rw [← Except.ok.inj isEncoded]
      simp
    · cases isEncoded

variable {urlParse : Bytes → Bool} {sdk : Sdk} {envelope : Envelope} {payload : Bytes}

structure Readable (envelope : Envelope) : Prop where
  complete : envelope.complete = true
  isEvent : envelope.kind = .event
  scanned : Scanned envelope.headers.rows false false
  texts : ∀ row ∈ envelope.headers.rows, Valid row.1 ∧ Valid row.2
  timeUtc : envelope.time.utc = envelope.time
  timeShown : (format envelope.time).isSome = true
  notBeforeUtc : envelope.notBefore.utc = envelope.notBefore
  notBeforeShown : envelope.notBefore.isZero = true ∨ (format envelope.notBefore).isSome = true
  expiresAtUtc : envelope.expiresAt.utc = envelope.expiresAt
  expiresAtShown : envelope.expiresAt.isZero = true ∨ (format envelope.expiresAt).isSome = true

theorem Readable.positive (readable : Readable envelope) : 0 < envelope.schemaVersion.toInt := by
  have complete := readable.complete
  simp only [Envelope.complete, Bool.and_eq_true, decide_eq_true_eq] at complete
  exact complete.1.1.1.1.2

theorem Readable.timed (readable : Readable envelope) : envelope.time.isZero = false := by
  have complete := readable.complete
  simp only [Envelope.complete, Bool.and_eq_true, Bool.not_eq_true'] at complete
  exact complete.1.1.1.2

theorem Readable.encoding (readable : Readable envelope) : envelope.dataEncoding.valid = true := by
  have complete := readable.complete
  simp only [Envelope.complete, Bool.and_eq_true] at complete
  exact complete.2

structure EventOf (envelope : Envelope) (payload : Bytes) (event : CloudEvent) : Prop where
  built : ∃ value,
    headersExtension (takeHeader (takeHeader envelope.headers traceParentName).2 traceStateName).2 =
        .ok value ∧
      event = cloudEventOf envelope payload (traceValue envelope.headers traceParentName)
        (traceValue envelope.headers traceStateName) value

def cloudMetadata (envelope : Envelope) : Messenger.Metadata :=
  { envelope.metadata with headers := cloudHeaders envelope.headers }

theorem takeHeader_mem {headers : Headers} {name : Bytes} {row : Bytes × Bytes}
    (member : row ∈ (takeHeader headers name).2.rows) : row ∈ headers.rows :=
  List.mem_of_mem_filter member

theorem cloudEventEnvelopeFrom_carried {sent got : CloudEvent} (readable : Readable envelope)
    (eventOf : EventOf envelope payload sent) (carried : Carried sent got)
    (accepted : sdk.validate got = none) (data : Bytes) :
    cloudEventEnvelopeFrom sdk got data = .ok ⟨cloudMetadata envelope,
      envelope.dataEncoding, data⟩ := by
  obtain ⟨value, encoded, rfl⟩ := eventOf
  have version : extensionInt (got.extensions .schemaVersion) = some envelope.schemaVersion :=
    carried.extensions .schemaVersion
  have encoding : got.extensions .dataEncoding = some (.string envelope.dataEncoding.string) :=
    carried.extensions .dataEncoding
  have correlation : got.extensions .correlationID =
      some (.string (Messenger.messageIDString envelope.correlationID)) :=
    carried.extensions .correlationID
  have causation : correlationOf (got.extensions .causationID) 0 = .ok envelope.causationID := by
    have arrived := carried.extensions .causationID
    simp only [cloudEventOf] at arrived
    split at arrived
    next zero => rw [show got.extensions .causationID = none from arrived, zero]; rfl
    next =>
      rw [show got.extensions .causationID = _ from arrived]
      exact correlationOf_string envelope.causationID 0
  have key : got.extensions .key = present envelope.key :=
    (carried.extensions .key).eq (present_textual _)
  have headers : got.extensions .headers = value :=
    (carried.extensions .headers).eq (headersExtension_textual encoded)
  have notBefore : got.extensions .notBefore = timeExtension envelope.notBefore :=
    (carried.extensions .notBefore).eq (timeExtension_textual _)
  have expiresAt : got.extensions .expiresAt = timeExtension envelope.expiresAt :=
    (carried.extensions .expiresAt).eq (timeExtension_textual _)
  have traceParent : got.extensions .traceParent = present
      (traceValue envelope.headers traceParentName) :=
    (carried.extensions .traceParent).eq (present_textual _)
  have traceState : got.extensions .traceState = present
      (traceValue envelope.headers traceStateName) :=
    (carried.extensions .traceState).eq (present_textual _)
  have read := headersExtension_read (fun row member =>
    readable.texts row (takeHeader_mem (takeHeader_mem member)))
    (fun row member => readable.scanned.lines row (takeHeader_mem (takeHeader_mem member))) encoded
  have instant : got.time.isZero = false := by
    rw [← Stamp.isZero_utc, carried.time, Stamp.isZero_utc]
    exact readable.timed
  have time : canonicalCloudEventTime got.time envelope.id = .ok envelope.time := by
    rw [canonicalCloudEventTime, if_pos instant, carried.time]
    exact congrArg Except.ok readable.timeUtc
  have above : ¬ envelope.schemaVersion.toInt ≤ 0 := Int.not_le.mpr readable.positive
  simp only [cloudEventEnvelopeFrom, accepted, carried.id, cloudEventOf, parseID_string, bind,
    Except.bind, pure, Except.pure, version, schemaVersionOf, if_neg above, encoding,
    cloudEventDataEncoding, extensionString_string,
    Messenger.DataEncoding.ofName?_string readable.encoding, correlation, correlationOf_string,
    causation, time, headers, read, traceParent, traceState, traceHeader_present, notBefore,
    extensionTime_timeExtension readable.notBeforeUtc readable.notBeforeShown, expiresAt,
    extensionTime_timeExtension readable.expiresAtUtc readable.expiresAtShown, key,
    extensionString_present, carried.type, carried.source, carried.subject, carried.dataContentType,
    carried.dataSchema, readable.timeUtc, Option.getD_some]
  simp only [cloudMetadata, Envelope.metadata, cloudHeaders,
    readable.isEvent, takeHeader_takeHeader]
  rfl

theorem nativeToCloudEvent_ok {native : Bytes} {event : CloudEvent}
    (converted : nativeToCloudEvent urlParse sdk native = .ok (event, payload)) :
    ∃ envelope, Messenger.unmarshalEnvelope urlParse native = .ok envelope ∧
      envelope.kind = .event ∧
      envelope.payload = .ok payload ∧ EventOf envelope payload event ∧
        sdk.validate event = none := by
  obtain ⟨envelope, read, converted⟩ := bind_ok.mp converted
  obtain ⟨isEvent, converted⟩ := check_ok.mp converted
  obtain ⟨found, isPayload, converted⟩ := bind_ok.mp converted
  obtain ⟨value, encoded, converted⟩ := bind_ok.mp converted
  obtain ⟨_, converted⟩ := check_ok.mp converted
  dsimp only at converted
  split at converted
  · exact absurd converted (by simp [throw, throwThe, MonadExceptOf.throw])
  next accepted =>
    obtain ⟨rfl, rfl⟩ := Prod.mk.inj (Except.ok.inj converted)
    have rest : traceValue envelope.headers traceStateName =
        (takeHeader (takeHeader envelope.headers traceParentName).2 traceStateName).1 :=
      (takeHeader_takeHeader _).symm
    refine ⟨envelope, read, by simpa using isEvent, isPayload, ⟨value, encoded, ?_⟩, accepted⟩
    rw [rest]
    rfl

end Rebuilt

section Binary

variable (attributes : List (Bytes × Option Bytes)) (header : Header) (key : Bytes)

theorem get_set (value other : Bytes) : Header.get (Header.set header key value) other =
      if other = key then value else Header.get header other := by
  by_cases same : other = key
  · simp [Header.get, Header.set, same]
  · have kept : (header.filter (fun entry => decide (entry.1 ≠ key))).lookup other =
        header.lookup other := by
      induction header with
      | nil => rfl
      | cons entry rest ih =>
        by_cases isKey : entry.1 = key
        · have apart : other ≠ entry.1 := fun here => same (here.trans isKey)
          rw [List.filter_cons_of_neg (by simp [isKey]), ih,
            List.lookup_cons, beq_false_of_ne apart]
        · rw [List.filter_cons_of_pos (by simp [isKey]), List.lookup_cons, List.lookup_cons, ih]
    simp only [Header.get, Header.set, List.lookup_cons, beq_false_of_ne same, kept, if_neg same]

theorem get_setAttribute (entry : Bytes × Option Bytes) (other : Bytes) (apart : entry.1 ≠ other) :
    Header.get (setAttribute header entry) other = Header.get header other := by
  obtain ⟨key, value⟩ := entry
  cases value with
  | none => rfl
  | some text => rw [setAttribute, get_set, if_neg (Ne.symm apart)]

theorem get_setAttributes_other (apart : key ∉ attributes.map Prod.fst) :
    Header.get (attributes.foldl setAttribute header) key = Header.get header key := by
  induction attributes generalizing header with
  | nil => rfl
  | cons first rest ih =>
    rw [List.map_cons, List.mem_cons, not_or] at apart
    rw [List.foldl_cons, ih _ apart.2, get_setAttribute header first key (Ne.symm apart.1)]

theorem get_setAttributes (distinct : (attributes.map Prod.fst).Nodup)
    (key : Bytes) (value : Option Bytes)
    (member : (key, value) ∈ attributes) (fresh : Header.get header key = []) :
    Header.get (attributes.foldl setAttribute header) key = value.getD [] := by
  induction attributes generalizing header with
  | nil => cases member
  | cons first rest ih =>
    rw [List.map_cons, List.nodup_cons] at distinct
    rw [List.foldl_cons]
    rcases List.mem_cons.mp member with rfl | later
    · rw [get_setAttributes_other rest _ key distinct.1]
      cases value with
      | none => exact fresh
      | some text => simp [setAttribute, get_set]
    · have apart : first.1 ≠ key := by
        rintro rfl
        exact distinct.1 (List.mem_map.mpr ⟨_, later, rfl⟩)
      apply ih _ distinct.2 later
      rw [get_setAttribute header first key apart, fresh]

def attributeNames : List Bytes :=
  ["Content-Type", "Ce-Specversion", "Ce-Id", "Ce-Source", "Ce-Type", "Ce-Subject", "Ce-Time",
    "Ce-Dataschema"].map ofString ++ Extension.all.map extensionHeader

theorem attributeNames_nodup : attributeNames.Nodup := by decide +kernel

theorem binaryAttributes_names (event : CloudEvent) :
    (binaryAttributes event).map Prod.fst = attributeNames := by
  simp [binaryAttributes, attributeNames, Extension.all]

theorem get_binaryAttributes (event : CloudEvent) (key : Bytes) (value : Option Bytes)
    (member : (key, value) ∈ binaryAttributes event) :
    Header.get ((binaryAttributes event).foldl setAttribute []) key = value.getD [] := by
  apply get_setAttributes _ _ _ key value member rfl
  rw [binaryAttributes_names]
  exact attributeNames_nodup

theorem getD_optional (text : Bytes) : (optional text).getD [] = text := by
  unfold optional
  split
  next empty => exact empty.symm
  next => rfl

variable {envelope : Envelope} {payload : Bytes} {event : CloudEvent}

inductive Written : ExtensionValue → Prop
  | string {text : Bytes} (filled : text ≠ []) : Written (.string text)
  | integer {value : Int64} : Written (.integer value)

variable {value : ExtensionValue}

theorem present_written {text : Bytes} (isSet : present text = some value) : Written value := by
  unfold present at isSet
  split at isSet
  · cases isSet
  next filled =>
    rw [← Option.some.inj isSet]
    exact .string filled

theorem timeExtension_written {stamp : Stamp} (isSet : timeExtension stamp = some value) :
    Written value := by
  unfold timeExtension at isSet
  split at isSet
  · cases isSet
  · rw [← Option.some.inj isSet]
    exact .string (display_ne_nil _)

theorem headersExtension_written {headers : Headers}
    (encoded : headersExtension headers = .ok (some value)) : Written value := by
  unfold headersExtension at encoded
  split at encoded
  · cases encoded
  · split at encoded
    next written _ =>
      rw [← Option.some.inj (Except.ok.inj encoded)]
      exact .string (base64_ne_nil written)
    · cases encoded

theorem DataEncoding.string_ne_nil {encoding : DataEncoding} (valid : encoding.valid = true) :
    encoding.string ≠ [] := by
  cases encoding with
  | unset => exact absurd valid (by decide)
  | json => decide
  | text => decide
  | binary => decide

theorem EventOf.written (eventOf : EventOf envelope payload event) (readable : Readable envelope)
    (extension : Extension) (value : ExtensionValue)
    (isSet : event.extensions extension = some value) :
    Written value := by
  obtain ⟨headers, encoded, rfl⟩ := eventOf
  cases extension with
  | kind =>
    rw [← Option.some.inj isSet, readable.isEvent]
    exact .string (by decide)
  | schemaVersion =>
    rw [← Option.some.inj isSet]
    exact .integer
  | dataEncoding =>
    rw [← Option.some.inj isSet]
    exact .string (DataEncoding.string_ne_nil readable.encoding)
  | correlationID =>
    rw [← Option.some.inj isSet]
    exact .string (messageIDString_ne_nil _)
  | causationID =>
    simp only [cloudEventOf] at isSet
    split at isSet
    · cases isSet
    · rw [← Option.some.inj isSet]
      exact .string (messageIDString_ne_nil _)
  | key => exact present_written isSet
  | headers => exact headersExtension_written (encoded.trans (congrArg Except.ok isSet))
  | notBefore => exact timeExtension_written isSet
  | expiresAt => exact timeExtension_written isSet
  | traceParent => exact present_written isSet
  | traceState => exact present_written isSet

theorem carriedValue_header {sent : Option ExtensionValue}
    (written : ∀ value, sent = some value → Written value) :
    CarriedValue sent (present ((sent.map ExtensionValue.sprint).getD [])) := by
  cases sent with
  | none => rfl
  | some value =>
    cases written value rfl with
    | string filled => exact if_neg filled
    | integer =>
      rename_i number
      have text : present (intText number.toInt) = some (.string (intText number.toInt)) :=
        if_neg (Strings.intText_ne_nil _)
      show extensionInt (present (intText number.toInt)) = some number
      rw [text]
      exact Strings.atoi_intText number

theorem carried_binary (eventOf : EventOf envelope payload event) (readable : Readable envelope) :
    ∃ time, binaryTime (Header.get ((binaryAttributes event).foldl setAttribute [])
      (ofString "Ce-Time")) = .ok time ∧
      Carried event (binaryEvent ((binaryAttributes event).foldl setAttribute []) time) := by
  have found := get_binaryAttributes event
  have isTime : event.time = envelope.time := by
    obtain ⟨headers, _, rfl⟩ := eventOf
    rfl
  obtain ⟨text, formatted⟩ := Option.isSome_iff_exists.mp readable.timeShown
  rw [← readable.timeUtc] at formatted
  have shown : Header.get ((binaryAttributes event).foldl setAttribute [])
      (ofString "Ce-Time") = text := by
    rw [found _ (some (display event.time.utc)) (by simp [binaryAttributes, isTime,
      readable.timed]), isTime,
      readable.timeUtc, display_of_format formatted]
    rfl
  refine ⟨envelope.time, ?_, ?_⟩
  · have filled : text ≠ [] := display_of_format formatted ▸ display_ne_nil envelope.time
    rw [shown, binaryTime, if_neg filled, parse_format true formatted, readable.timeUtc]
  · exact {
      specVersion := found _ (some event.specVersion) (by simp [binaryAttributes])
      id := found _ (some event.id) (by simp [binaryAttributes])
      source := found _ (some event.source) (by simp [binaryAttributes])
      type := found _ (some event.type) (by simp [binaryAttributes])
      subject :=
        (found _ (optional event.subject) (by simp [binaryAttributes])).trans (getD_optional _)
      time := by rw [isTime]; rfl
      dataContentType := found _ (some event.dataContentType) (by simp [binaryAttributes])
      dataSchema :=
        (found _ (optional event.dataSchema) (by simp [binaryAttributes])).trans (getD_optional _)
      extensions := by
        intro extension
        have member : extension ∈ Extension.all := by cases extension <;> decide
        have inside : (extensionHeader extension,
          (event.extensions extension).map ExtensionValue.sprint) ∈
            binaryAttributes event :=
          List.mem_append_right _ (List.mem_map.mpr ⟨extension, member, rfl⟩)
        show CarriedValue _ (present (Header.get _ (extensionHeader extension)))
        rw [found _ _ inside]
        exact carriedValue_header (eventOf.written readable extension) }

end Binary

section Published

variable {urlParse : Bytes → Bool} {sdk : Sdk} {route : Route} {native : Bytes} {message : Msg}

variable {metadata : Messenger.Metadata} {encoding : DataEncoding} {envelope : Envelope}

theorem readable_native {payload : Bytes}
    (sent : Messenger.marshalEnvelope urlParse metadata payload encoding = .ok native)
    (read : Messenger.unmarshalEnvelope urlParse native = .ok envelope)
    (isEvent : envelope.kind = .event) :
    Readable envelope := by
  obtain ⟨_, decoded, validated⟩ := Messenger.unmarshalEnvelope_ok.mp read
  obtain ⟨complete, _, _, _, headers⟩ := (Messenger.validate_ok_iff envelope).mp validated
  have facts := Messenger.decodeEnvelope_decoded decoded
  obtain ⟨first, value, placed, _, encoded, rfl, fits⟩ := Messenger.marshalEnvelope_ok.mp sent
  obtain ⟨time, notBefore, expiresAt⟩ := Messenger.encodeEnvelope_times encoded
  obtain ⟨timeUtc, notBeforeUtc, expiresAtUtc⟩ := Messenger.placed_utc placed
  obtain ⟨_, rfl⟩ := (Messenger.unmarshalEnvelope_sent urlParse placed encoded fits _).mp read
  rw [← timeUtc] at time
  rw [← notBeforeUtc] at notBefore
  rw [← expiresAtUtc] at expiresAt
  exact {
    complete := complete
    isEvent := isEvent
    scanned := validateHeaders_ok headers
    texts := facts.headers
    timeUtc := rfl
    timeShown := time
    notBeforeUtc := rfl
    notBeforeShown := notBefore
    expiresAtUtc := rfl
    expiresAtShown := expiresAt }

theorem headers_read {payload : Bytes}
    (sent : Messenger.marshalEnvelope urlParse metadata payload encoding = .ok native)
    (read : Messenger.unmarshalEnvelope urlParse native = .ok envelope)
    (texts : ∀ row ∈ metadata.headers.rows, Valid row.1 ∧ Valid row.2) :
    envelope.headers = metadata.headers := by
  obtain ⟨first, value, placed, _, encoded, rfl, fits⟩ := Messenger.marshalEnvelope_ok.mp sent
  obtain ⟨_, rfl⟩ := (Messenger.unmarshalEnvelope_sent urlParse placed encoded fits _).mp read
  obtain ⟨data, dataBase64, rfl⟩ := Messenger.placePayload_shape placed
  exact (Messenger.coerceHeaders_eq_iff metadata.headers).mpr texts

theorem Published.marshalled (published : Published urlParse sdk route native message) :
    ∃ metadata payload encoding,
      Messenger.marshalEnvelope urlParse metadata payload encoding = .ok native := by
  cases published with
  | envelope isCanonical sent =>
    obtain ⟨envelope, payload, _, _, written⟩ := Messenger.canonicalizeEnvelope_ok.mp isCanonical
    exact ⟨_, _, _, written⟩
  | delivery isNative sent => exact ⟨_, _, _, isNative⟩

theorem Published.prepared (published : Published urlParse sdk route native message) :
    ∃ now metadata, preparePublishMessage urlParse sdk route now metadata native = .ok message := by
  cases published with
  | envelope isCanonical sent =>
    obtain ⟨canonical, canonicalized, sent⟩ := bind_ok.mp sent
    obtain ⟨envelope, _, sent⟩ := bind_ok.mp sent
    rw [isCanonical] at canonicalized
    rw [← Except.ok.inj canonicalized] at sent
    exact ⟨_, _, sent⟩
  | delivery isNative sent =>
    unfold deliver at sent
    obtain ⟨_, sent⟩ := check_ok.mp sent
    obtain ⟨bytes, marshalled, sent⟩ := bind_ok.mp sent
    rw [isNative] at marshalled
    rw [← Except.ok.inj marshalled] at sent
    exact ⟨_, _, sent⟩

theorem preparePublishMessage_ok {now : Stamp}
    (prepared : preparePublishMessage urlParse sdk route now metadata native = .ok message) :
    match route.mode with
    | .native => message.data = native
    | .cloudEventsStructured => encodeCloudEventStructured urlParse sdk native = .ok message.data
    | .cloudEventsBinary =>
      encodeCloudEventBinary urlParse sdk native [] = .ok (message.data, message.header) := by
  unfold preparePublishMessage at prepared
  obtain ⟨_, prepared⟩ := check_ok.mp prepared
  obtain ⟨_, prepared⟩ := check_ok.mp prepared
  obtain ⟨_, prepared⟩ := check_ok.mp prepared
  obtain ⟨subject, _, prepared⟩ := bind_ok.mp prepared
  cases mode : route.mode with
  | native =>
    rw [mode] at prepared
    rw [← Except.ok.inj prepared]
  | cloudEventsStructured =>
    rw [mode] at prepared
    obtain ⟨data, encoded, prepared⟩ := bind_ok.mp prepared
    rw [← Except.ok.inj prepared]
    exact encoded
  | cloudEventsBinary =>
    rw [mode] at prepared
    obtain ⟨⟨data, header⟩, encoded, prepared⟩ := bind_ok.mp prepared
    rw [← Except.ok.inj prepared]
    exact encoded

theorem validateStructuredSchemaVersion_ok {wire : Bytes} {version : Int64} {number : Number}
    {attributes : KeyedTable Bytes Value} (read : unmarshalAttributes wire = some attributes)
    (found : attributes.find? Extension.schemaVersion.name = some (.number number))
    (spelt : number.text = intText version.toInt) (positive : 0 < version.toInt) :
    validateStructuredSchemaVersion wire = .ok () := by
  have isInt : attributeInt (.number number) = some version := by
    rw [attributeInt, spelt, Strings.atoi_intText]
  have above : ¬ version.toInt ≤ 0 := Int.not_le.mpr positive
  simp only [validateStructuredSchemaVersion, read, found, Option.bind_some, isInt,
    schemaVersionOf, if_neg above]
  rfl

/-- What a consumer rebuilds from a message that a route published. -/
theorem decodeCloudEvent_published (unchanged : sdk.Unchanged)
    (published : Published urlParse sdk route native message) (cloud : route.mode ≠ .native) :
    ∃ envelope payload, Messenger.unmarshalEnvelope urlParse native = .ok envelope ∧
      envelope.payload = .ok payload ∧ Readable envelope ∧
      decodeCloudEvent sdk route.mode message.data message.header =
        .ok ⟨cloudMetadata envelope, envelope.dataEncoding, payload⟩ := by
  obtain ⟨_, _, _, marshalled⟩ := published.marshalled
  obtain ⟨now, metadata, prepared⟩ := published.prepared
  have encoded := preparePublishMessage_ok prepared
  cases mode : route.mode with
  | native => exact absurd mode cloud
  | cloudEventsStructured =>
    rw [mode] at encoded
    obtain ⟨⟨event, payload⟩, converted, encoded⟩ := bind_ok.mp encoded
    obtain ⟨envelope, read, isEvent, isPayload, eventOf, accepted⟩ :=
      nativeToCloudEvent_ok converted
    have readable := readable_native marshalled read isEvent
    cases marshal : sdk.marshal event with
    | error err =>
      exact absurd encoded (by simp [marshal, throw, throwThe, MonadExceptOf.throw])
    | ok wire =>
      have isWire : wire = message.data := by simpa [marshal, pure, Except.pure] using encoded
      subst isWire
      have isVersion : event.extensions .schemaVersion =
          some (.integer envelope.schemaVersion) := by
        obtain ⟨headers, _, rfl⟩ := eventOf
        rfl
      have isData : event.dataEncoded = payload := by
        obtain ⟨headers, _, rfl⟩ := eventOf
        rfl
      obtain ⟨attributes, number, parsed, found, spelt⟩ :=
        unchanged.numbers event _ _ _ accepted marshal isVersion
      obtain ⟨got, isGot, carried, data⟩ := unchanged.reads event _ accepted marshal
      have versioned := validateStructuredSchemaVersion_ok parsed found spelt readable.positive
      have rebuilt := cloudEventEnvelopeFrom_carried readable eventOf carried
        (unchanged.validates event got carried accepted) payload
      refine ⟨envelope, payload, read, isPayload, readable, ?_⟩
      simp only [decodeCloudEvent, decodeCloudEventStructured, versioned, isGot, bind, Except.bind,
        data, isData, rebuilt]
  | cloudEventsBinary =>
    rw [mode] at encoded
    obtain ⟨⟨event, payload⟩, converted, encoded⟩ := bind_ok.mp encoded
    obtain ⟨envelope, read, isEvent, isPayload, eventOf, accepted⟩ :=
      nativeToCloudEvent_ok converted
    have readable := readable_native marshalled read isEvent
    obtain ⟨isData, isHeader⟩ := Prod.mk.inj (Except.ok.inj encoded)
    obtain ⟨time, isTime, carried⟩ := carried_binary eventOf readable
    have rebuilt := cloudEventEnvelopeFrom_carried readable eventOf carried
      (unchanged.validates event _ carried accepted) payload
    refine ⟨envelope, payload, read, isPayload, readable, ?_⟩
    rw [← isData, ← isHeader]
    simp only [decodeCloudEvent, decodeCloudEventBinary, isTime, bind, Except.bind, rebuilt]

/-- The envelope that is rebuilt holds the metadata, the headers up to the letter
case of the trace headers' names, the encoding and the payload of the one sent. -/
structure RoundTripped (envelope : Envelope) (payload : Bytes)
    (decoded : CloudEventEnvelope) : Prop where
  id : decoded.metadata.id = envelope.id
  kind : decoded.metadata.kind = envelope.kind
  name : decoded.metadata.name = envelope.name
  schemaVersion : decoded.metadata.schemaVersion = envelope.schemaVersion
  source : decoded.metadata.source = envelope.source
  subject : decoded.metadata.subject = envelope.subject
  key : decoded.metadata.key = envelope.key
  correlationID : decoded.metadata.correlationID = envelope.correlationID
  causationID : decoded.metadata.causationID = envelope.causationID
  time : decoded.metadata.time = envelope.time
  notBefore : decoded.metadata.notBefore = envelope.notBefore
  expiresAt : decoded.metadata.expiresAt = envelope.expiresAt
  contentType : decoded.metadata.contentType = envelope.contentType
  schema : decoded.metadata.schema = envelope.schema
  headers : SentHeaders envelope.headers decoded.metadata.headers
  encoding : decoded.encoding = envelope.dataEncoding
  payload : decoded.data = payload

/-- A message of either CloudEvents mode gives back its envelope exactly if no
trace header is empty. -/
theorem cloud_event_returns_iff (urlParse : Bytes → Bool) (sdk : Sdk) (unchanged : sdk.Unchanged)
    (route : Route) (native : Bytes) (message : Msg)
    (published : Published urlParse sdk route native message) (cloud : route.mode ≠ .native) :
    ∃ envelope payload, Messenger.unmarshalEnvelope urlParse native = .ok envelope ∧
      envelope.payload = .ok payload ∧
      ((∃ decoded, decodeCloudEvent sdk route.mode message.data message.header = .ok decoded ∧
          RoundTripped envelope payload decoded) ↔
        ∀ row ∈ envelope.headers.rows, (traceName? row.1).isSome = true → row.2 ≠ []) := by
  obtain ⟨envelope, payload, read, isPayload, readable, decodes⟩ :=
    decodeCloudEvent_published unchanged published cloud
  refine ⟨envelope, payload, read, isPayload, ?_⟩
  rw [← sameHeaders_cloudHeaders readable.scanned]
  constructor
  · rintro ⟨decoded, isDecoded, returned⟩
    rw [decodes] at isDecoded
    rw [← Except.ok.inj isDecoded] at returned
    exact returned.headers
  · intro same
    exact ⟨_, decodes, ⟨rfl, rfl, rfl, rfl, rfl, rfl, rfl, rfl, rfl, rfl, rfl, rfl,
      rfl, rfl, same, rfl, rfl⟩⟩

def sampleRoute : Route := ⟨ofString "shop", .cloudEventsBinary⟩

def binarySdk : Sdk := ⟨fun _ => none, fun _ => .error (.text "cloudevents"),
  fun _ => .error (.text "cloudevents")⟩

theorem binarySdk_unchanged : binarySdk.Unchanged where
  validates _ _ _ _ := rfl
  reads _ _ _ marshalled := absurd marshalled (by simp [binarySdk])
  numbers _ _ _ _ _ marshalled := absurd marshalled (by simp [binarySdk])

def tracedMetadata (value : Bytes) : Messenger.Metadata :=
  { Messenger.sampleMetadata with headers := ⟨[(traceStateName, value)],
    List.pairwise_singleton _ _⟩ }

def tracedMessage (value : Bytes) : Except GoError Msg :=
  deliver (fun _ => true) binarySdk sampleRoute .zero (tracedMetadata value) [] .binary

theorem tracedMessage_accepted :
    ([[], [0x61]].all (fun value => (tracedMessage value).toOption.isSome)) = true := by
  decide +kernel

theorem tracedMetadata_texts {value : Bytes} (valid : Valid value) :
    ∀ row ∈ (tracedMetadata value).headers.rows, Valid row.1 ∧ Valid row.2 := by
  intro row member
  rw [List.mem_singleton.mp member]
  exact ⟨(by decide : Valid traceStateName), valid⟩

theorem exists_traced {value : Bytes} (member : value ∈ [[], [0x61]]) : ∃ native message,
      Messenger.marshalEnvelope (fun _ => true) (tracedMetadata value) [] .binary = .ok native ∧
        Published (fun _ => true) binarySdk sampleRoute native message := by
  obtain ⟨message, sent⟩ := exists_ok (List.all_eq_true.mp tracedMessage_accepted value member)
  have delivered := sent
  unfold tracedMessage deliver at sent
  obtain ⟨_, sent⟩ := check_ok.mp sent
  obtain ⟨native, marshalled, _⟩ := bind_ok.mp sent
  exact ⟨native, message, marshalled, .delivery marshalled delivered⟩

theorem cloud_event_returns_iff_traced : ∃ native message envelope payload decoded,
    Published (fun _ => true) binarySdk sampleRoute native message ∧
      (traceStateName, [0x61]) ∈ envelope.headers.rows ∧
      decodeCloudEvent binarySdk sampleRoute.mode message.data message.header = .ok decoded ∧
      RoundTripped envelope payload decoded := by
  obtain ⟨native, message, marshalled, published⟩ := @exists_traced [0x61] (by simp)
  obtain ⟨envelope, payload, read, _, returns⟩ := cloud_event_returns_iff (fun _ => true) binarySdk
    binarySdk_unchanged sampleRoute native message published (by decide)
  have headers := headers_read marshalled read (tracedMetadata_texts (by decide))
  have single : envelope.headers.rows = [(traceStateName, [0x61])] := by rw [headers]; rfl
  obtain ⟨decoded, decodes, returned⟩ := returns.mpr (by
    intro row member _
    rw [single] at member
    rw [List.mem_singleton.mp member]
    simp)
  exact ⟨native, message, envelope, payload, decoded,
    published, by simp [single], decodes, returned⟩

/-- An empty trace state is published and does not arrive. -/
theorem empty_trace_header_is_dropped : ∃ native message envelope payload,
    Published (fun _ => true) binarySdk sampleRoute native message ∧
      Messenger.unmarshalEnvelope (fun _ => true) native = .ok envelope ∧
      envelope.payload = .ok payload ∧
      (traceStateName, []) ∈ envelope.headers.rows ∧
      ∀ decoded, decodeCloudEvent binarySdk sampleRoute.mode message.data
        message.header = .ok decoded →
        ¬ RoundTripped envelope payload decoded ∧ decoded.metadata.headers.rows = [] := by
  obtain ⟨native, message, marshalled, published⟩ := @exists_traced [] (by simp)
  obtain ⟨envelope, payload, read, isPayload, readable, decodes⟩ :=
    decodeCloudEvent_published binarySdk_unchanged published (by decide)
  have headers := headers_read marshalled read (tracedMetadata_texts (by decide))
  have member : (traceStateName, []) ∈ envelope.headers.rows := by
    rw [headers]; exact List.mem_singleton_self _
  refine ⟨native, message, envelope, payload, published, read, isPayload, member, ?_⟩
  intro decoded isDecoded
  rw [decodes] at isDecoded
  rw [← Except.ok.inj isDecoded]
  constructor
  · intro returned
    exact (sameHeaders_cloudHeaders readable.scanned).mp returned.headers _ member (by decide) rfl
  · show (cloudHeaders envelope.headers).rows = []
    rw [headers]
    decide

end Published

end Gomessenger.Nats
