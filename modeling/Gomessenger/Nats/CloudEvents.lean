import Gomessenger.Messenger.Descriptor
import Gomessenger.Nats.Consumer

/-! CloudEvents bindings of events: the attributes and extensions of an event, the
structured and the binary mode, and the envelope that is rebuilt from either.

The SDK's own functions are inputs; `Sdk.Unchanged` says that they carry what they
are given. -/

namespace Gomessenger.Nats

open Utf8 Rfc3339 Json
open Messenger (Envelope Headers DataEncoding)

def errInvalidConfig : GoError := .text "messenger/nats: invalid configuration"

def invalidConfig (message : String) : GoError := .wrap message errInvalidConfig

inductive Extension
  | kind
  | schemaVersion
  | dataEncoding
  | correlationID
  | causationID
  | key
  | headers
  | notBefore
  | expiresAt
  | traceParent
  | traceState
  deriving DecidableEq

def Extension.name : Extension → Bytes
  | .kind => ofString "kind"
  | .schemaVersion => ofString "schemaversion"
  | .dataEncoding => ofString "dataencoding"
  | .correlationID => ofString "correlationid"
  | .causationID => ofString "causationid"
  | .key => ofString "key"
  | .headers => ofString "gmheaders"
  | .notBefore => ofString "notbefore"
  | .expiresAt => ofString "expiresat"
  | .traceParent => ofString "traceparent"
  | .traceState => ofString "tracestate"

def Extension.all : List Extension :=
  [.kind, .schemaVersion, .dataEncoding, .correlationID, .causationID, .key, .headers, .notBefore,
    .expiresAt, .traceParent, .traceState]

/-- The value of an extension. One of another Go type is known by the text
`fmt.Sprint` gives it and by the integer `extensionInt` takes it for. -/
inductive ExtensionValue
  | string (text : Bytes)
  | integer (value : Int64)
  | other (text : Bytes) (value : Option Int64)
  deriving DecidableEq

def ExtensionValue.sprint : ExtensionValue → Bytes
  | .string text => text
  | .integer value => intText value.toInt
  | .other text _ => text

structure CloudEvent where
  specVersion : Bytes
  id : Bytes
  source : Bytes
  type : Bytes
  subject : Bytes
  time : Stamp
  dataContentType : Bytes
  dataSchema : Bytes
  extensions : Extension → Option ExtensionValue
  dataEncoded : Bytes
  dataBase64 : Bool

/-- The functions of the CloudEvents SDK: `event.Validate`, `json.Marshal` of an
event and `json.Unmarshal` into one. -/
structure Sdk where
  validate : CloudEvent → Option GoError
  marshal : CloudEvent → Except GoError Bytes
  unmarshal : Bytes → Except GoError CloudEvent

def extensionString : Option ExtensionValue → Bytes
  | none => []
  | some value => value.sprint

def extensionInt : Option ExtensionValue → Option Int64
  | none => none
  | some (.string text) => Strings.atoi text
  | some (.integer value) => some value
  | some (.other _ value) => value

def present (text : Bytes) : Option ExtensionValue := if text = [] then none
    else some (.string text)

def extensionTime (value : Option ExtensionValue) : Except GoError Stamp :=
  if extensionString value = [] then .ok .zero
  else match parse true (extensionString value) with
    | some stamp => .ok stamp
    | none => .error (.wrap "messenger/nats: parse extension time" (.text "time"))

/-- The first value that is not empty, and the headers that are left. -/
def takeHeader (headers : Headers) (name : Bytes) : Bytes × Headers :=
  (((headers.rows.filter (fun row => equalFold row.1 name)).map Prod.snd).find? (· != []) |>.getD
    [],
    headers.deleteWhere (fun key _ => equalFold key name))

/-- Writing to a nil map panics. -/
def setCanonicalHeader (headers : Option Headers) (name value : Bytes) :
    Except GoError (Option Headers) :=
  match headers with
  | none => .error (.text "panic: assignment to entry in nil map")
  | some headers =>
    .ok (some ((headers.deleteWhere (fun key _ => equalFold key name)).set name value))

/-- The map is nil where the extension holds JSON's null. -/
def decodeHeadersExtension (value : Option ExtensionValue) : Except GoError (Option Headers) :=
  if extensionString value = [] then .ok (some .empty)
  else match Base64.decode .rawURL (extensionString value) with
    | none => .error (.wrap "messenger/nats: decode header extension" (.text "encoding/base64"))
    | some data =>
      match parseDocument Messenger.maxNestingDepth data with
      | some (.literal .null) => .ok none
      | some value =>
        match Messenger.decodeHeaders value .empty with
        | none => .error (.wrap "messenger/nats: decode header map" (.text "encoding/json"))
        | some headers =>
          if headers.rows.any (fun row => Messenger.hasLineBreak row.1 ||
            Messenger.hasLineBreak row.2)
          then .error (invalidConfig "invalid CloudEvents header map")
          else .ok (some headers)
      | none => .error (.wrap "messenger/nats: decode header map" (.text "encoding/json"))

def cloudEventDataEncoding (value : Option ExtensionValue) : Except GoError DataEncoding :=
  match DataEncoding.ofName? (extensionString value) with
  | some encoding => .ok encoding
  | none => .error (invalidConfig "CloudEvent data encoding")

def unixMilli (milliseconds : Nat) : Stamp := ⟨(62135596800000 + milliseconds) * 1000000, 0⟩

/-- Without a time an event takes the one its UUIDv7 holds. -/
def canonicalCloudEventTime (time : Stamp) (id : MessageID) : Except GoError Stamp :=
  if time.isZero = false then .ok time.utc
  else if id.val / 2 ^ 76 % 16 ≠ 7 then
    .error (Messenger.invalidMessage "CloudEvent time is required when id is not UUIDv7")
  else .ok (unixMilli (id.val / 2 ^ 80))

def parseID (value : Bytes) : Except GoError MessageID :=
  match Messenger.parseMessageID value with
  | some id => .ok id
  | none => .error (Messenger.invalidMessage "malformed message id")

def schemaVersionOf (value : Option Int64) : Except GoError Int64 :=
  match value with
  | some version =>
    if version.toInt ≤ 0 then .error (invalidConfig "CloudEvent schema version") else .ok version
  | none => .error (invalidConfig "CloudEvent schema version")

section Encode

variable (urlParse : Bytes → Bool) (sdk : Sdk)

def headersExtension (headers : Headers) : Except GoError (Option ExtensionValue) :=
  if headers.rows = [] then .ok none
  else match Messenger.encodeHeaders headers with
    | some value => .ok (some (.string (Base64.encode .rawURL value.text)))
    | none => .error (.wrap "messenger/nats: encode CloudEvents headers" (.text "encoding/json"))

def timeExtension (stamp : Stamp) : Option ExtensionValue :=
  if stamp.isZero then none else some (.string (display stamp.utc))

/-- The event of an envelope whose trace headers have been taken out. -/
def cloudEventOf (envelope : Envelope) (payload traceParent traceState : Bytes)
    (headers : Option ExtensionValue) : CloudEvent where
  specVersion := ofString "1.0"
  id := Messenger.messageIDString envelope.id
  source := envelope.source
  type := envelope.name
  subject := envelope.subject
  time := envelope.time
  dataContentType := envelope.contentType
  dataSchema := envelope.schema
  extensions
    | .kind => some (.string envelope.kind.text)
    | .schemaVersion => some (.integer envelope.schemaVersion)
    | .dataEncoding => some (.string envelope.dataEncoding.string)
    | .correlationID => some (.string (Messenger.messageIDString envelope.correlationID))
    | .causationID =>
      if envelope.causationID = 0 then none
      else some (.string (Messenger.messageIDString envelope.causationID))
    | .key => present envelope.key
    | .headers => headers
    | .notBefore => timeExtension envelope.notBefore
    | .expiresAt => timeExtension envelope.expiresAt
    | .traceParent => present traceParent
    | .traceState => present traceState
  dataEncoded := payload
  dataBase64 := envelope.dataEncoding == .binary

def nativeToCloudEvent (native : Bytes) : Except GoError (CloudEvent × Bytes) := do
  let envelope ← Messenger.unmarshalEnvelope urlParse native
  if envelope.kind ≠ .event then throw (invalidConfig "CloudEvents only supports events")
  let payload ← envelope.payload
  let (traceParent, headers) := takeHeader envelope.headers Extension.traceParent.name
  let (traceState, headers) := takeHeader headers Extension.traceState.name
  let encodedHeaders ← headersExtension headers
  if envelope.dataEncoding = .unset then throw (invalidConfig "unsupported data encoding")
  let event := cloudEventOf envelope payload traceParent traceState encodedHeaders
  match sdk.validate event with
  | some err => throw (.wrap "messenger/nats: validate CloudEvent" err)
  | none => return (event, payload)

def encodeCloudEventStructured (native : Bytes) : Except GoError Bytes := do
  let (event, _) ← nativeToCloudEvent urlParse sdk native
  match sdk.marshal event with
  | .ok data => return data
  | .error err => throw (.wrap "messenger/nats: marshal structured CloudEvent" err)

def Header.set (header : Header) (key value : Bytes) : Header :=
  (key, [value]) :: header.filter (fun entry => decide (entry.1 ≠ key))

def Header.get (header : Header) (key : Bytes) : Bytes :=
    ((header.lookup key).bind List.head?).getD []

def setAttribute (header : Header) : Bytes × Option Bytes → Header
  | (key, some value) => Header.set header key value
  | (_, none) => header

def optional (text : Bytes) : Option Bytes := if text = [] then none else some text

def extensionHeader (extension : Extension) : Bytes := ofString "Ce-" ++ extension.name

def binaryAttributes (event : CloudEvent) : List (Bytes × Option Bytes) :=
  [(ofString "Content-Type", some event.dataContentType),
    (ofString "Ce-Specversion", some event.specVersion),
    (ofString "Ce-Id", some event.id),
    (ofString "Ce-Source", some event.source),
    (ofString "Ce-Type", some event.type),
    (ofString "Ce-Subject", optional event.subject),
    (ofString "Ce-Time", if event.time.isZero then none else some (display event.time.utc)),
    (ofString "Ce-Dataschema", optional event.dataSchema)] ++
    Extension.all.map (fun extension =>
      (extensionHeader extension, (event.extensions extension).map ExtensionValue.sprint))

def encodeCloudEventBinary (native : Bytes) (header : Header) :
    Except GoError (Bytes × Header) := do
  let (event, payload) ← nativeToCloudEvent urlParse sdk native
  return (payload, (binaryAttributes event).foldl setAttribute header)

end Encode

section Decode

variable (sdk : Sdk)

structure CloudEventEnvelope where
  metadata : Messenger.Metadata
  encoding : DataEncoding
  data : Bytes

def correlationOf (value : Option ExtensionValue) (id : MessageID) : Except GoError MessageID :=
  if extensionString value = [] then .ok id else parseID (extensionString value)

def traceHeader (headers : Option Headers) (name : Bytes) (value : Option ExtensionValue) :
    Except GoError (Option Headers) :=
  if extensionString value = [] then .ok headers
  else setCanonicalHeader headers name (extensionString value)

def cloudEventEnvelopeFrom (event : CloudEvent) (data : Bytes) :
    Except GoError CloudEventEnvelope := do
  if let some err := sdk.validate event then throw (.wrap "messenger/nats: invalid CloudEvent" err)
  let id ← parseID event.id
  let version ← schemaVersionOf (extensionInt (event.extensions .schemaVersion))
  let encoding ← cloudEventDataEncoding (event.extensions .dataEncoding)
  let correlationID ← correlationOf (event.extensions .correlationID) id
  let causationID ← correlationOf (event.extensions .causationID) 0
  let time ← canonicalCloudEventTime event.time id
  let headers ← decodeHeadersExtension (event.extensions .headers)
  -- A trace extension replaces the header of its name.
  let headers ← traceHeader headers Extension.traceParent.name (event.extensions .traceParent)
  let headers ← traceHeader headers Extension.traceState.name (event.extensions .traceState)
  let notBefore ← extensionTime (event.extensions .notBefore)
  let expiresAt ← extensionTime (event.extensions .expiresAt)
  return {
    metadata := {
      id := id
      kind := .event
      name := event.type
      schemaVersion := version
      source := event.source
      subject := event.subject
      time := time.utc
      correlationID := correlationID
      causationID := causationID
      key := extensionString (event.extensions .key)
      contentType := event.dataContentType
      schema := event.dataSchema
      headers := headers.getD .empty
      notBefore := notBefore
      expiresAt := expiresAt }
    encoding := encoding
    data := data }

def unmarshalAttributes (data : Bytes) : Option (KeyedTable Bytes Value) := do
  match ← parseDocument Messenger.maxNestingDepth data with
  | .literal .null => return .empty
  | value =>
    return (← value.members).foldl (fun attributes member =>
      attributes.set (unquote member.1) member.2)
      .empty

/-- `extensionInt` of a value decoded with `UseNumber`. -/
def attributeInt : Value → Option Int64
  | .number number => Strings.atoi number.text
  | .string body => Strings.atoi (unquote body)
  | _ => none

def validateStructuredSchemaVersion (data : Bytes) : Except GoError Unit :=
  match unmarshalAttributes data with
  | none => .error (.wrap "messenger/nats: decode structured CloudEvent" (.text "encoding/json"))
  | some attributes => do
      let _ ← schemaVersionOf ((attributes.find? Extension.schemaVersion.name).bind attributeInt)

def decodeCloudEventStructured (data : Bytes) : Except GoError CloudEventEnvelope := do
  validateStructuredSchemaVersion data
  match sdk.unmarshal data with
  | .error err => throw (.wrap "messenger/nats: decode structured CloudEvent" err)
  | .ok event => cloudEventEnvelopeFrom sdk event event.dataEncoded

def binaryEvent (header : Header) (time : Stamp) : CloudEvent where
  specVersion := Header.get header (ofString "Ce-Specversion")
  id := Header.get header (ofString "Ce-Id")
  source := Header.get header (ofString "Ce-Source")
  type := Header.get header (ofString "Ce-Type")
  subject := Header.get header (ofString "Ce-Subject")
  time := time
  dataContentType := Header.get header (ofString "Content-Type")
  dataSchema := Header.get header (ofString "Ce-Dataschema")
  extensions extension := present (Header.get header (extensionHeader extension))
  dataEncoded := []
  dataBase64 := false

def binaryTime (value : Bytes) : Except GoError Stamp :=
  if value = [] then .ok .zero
  else match parse true value with
    | some stamp => .ok stamp
    | none => .error (.wrap "messenger/nats: parse CloudEvent time" (.text "time"))

def decodeCloudEventBinary (data : Bytes) (header : Header) :
    Except GoError CloudEventEnvelope := do
  let time ← binaryTime (Header.get header (ofString "Ce-Time"))
  cloudEventEnvelopeFrom sdk (binaryEvent header time) data

end Decode

/-- An extension that arrives: a text as it was sent, an integer in any spelling. -/
def CarriedValue : Option ExtensionValue → Option ExtensionValue → Prop
  | some (.integer value), got => extensionInt got = some value
  | sent, got => got = sent

structure Carried (sent got : CloudEvent) : Prop where
  specVersion : got.specVersion = sent.specVersion
  id : got.id = sent.id
  source : got.source = sent.source
  type : got.type = sent.type
  subject : got.subject = sent.subject
  time : got.time.utc = sent.time.utc
  dataContentType : got.dataContentType = sent.dataContentType
  dataSchema : got.dataSchema = sent.dataSchema
  extensions : ∀ extension, CarriedValue (sent.extensions extension) (got.extensions extension)

/-- The SDK carries attributes and data unchanged: it accepts an event again that
arrives with the attributes of an accepted one, its JSON text is read back as the
event that was written, and an integer extension is a number of that text. -/
structure Sdk.Unchanged (sdk : Sdk) : Prop where
  validates : ∀ sent got, Carried sent got → sdk.validate sent = none → sdk.validate got = none
  reads : ∀ event wire, sdk.validate event = none → sdk.marshal event = .ok wire →
    ∃ got, sdk.unmarshal wire = .ok got ∧ Carried event got ∧ got.dataEncoded = event.dataEncoded
  numbers : ∀ event wire extension value, sdk.validate event = none → sdk.marshal event = .ok wire →
    event.extensions extension = some (.integer value) → ∃ attributes number,
      unmarshalAttributes wire = some attributes ∧
        attributes.find? extension.name = some (.number number) ∧ number.text = intText value.toInt

end Gomessenger.Nats
