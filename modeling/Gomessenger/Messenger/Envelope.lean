import Gomessenger.Messenger.Types

/-! The native envelope: validation, payloads, encoding, decoding and
canonicalisation. -/

namespace Gomessenger.Messenger

open Utf8 Rfc3339 Json

def envelopeSpecVersion : Bytes := ofString "1.0"

def defaultMaxEnvelopeBytes : Nat := 1048576

def defaultMaxHeaders : Nat := 64

def defaultMaxHeaderBytes : Nat := 16384

def maxDescriptorNameLength : Nat := 200

def maxNestingDepth : Nat := 10000

def invalidMessage (message : String) : GoError := .wrap message (.sentinel .invalidMessage)

def invalidMessageBy (message cause : String) : GoError :=
  .join message (.sentinel .invalidMessage) (.text cause)

def errEnvelopeTooLarge : GoError := .text "messenger: envelope too large"

def tooLarge (size : Nat) : GoError := .wrap ("got " ++ toString size ++
    " bytes") errEnvelopeTooLarge

section Validation

variable (urlParse : Bytes → Bool)

def validateSource (source : Bytes) : Except GoError Unit :=
  if source = [] ∨ trimmed source = false then .error (invalidMessage "source is required")
  else if urlParse source = false then .error (invalidMessageBy "invalid source" "net/url")
  else .ok ()

/-- The loop of `validateHeaders`: the bytes seen so far and the trace headers
among them. -/
def scanHeaders : List (Bytes × Bytes) → Bool → Bool → Nat → Except GoError Nat
  | [], _, _, total => .ok total
  | (key, value) :: rest, traceParentSeen, traceStateSeen, total =>
    if key = [] ∨ trimmed key = false ∨ hasLineBreak key = true ∨ hasLineBreak value = true then
      .error (invalidMessage "invalid header")
    else if equalFold key (ofString "traceparent") then
      if traceParentSeen then .error (invalidMessage "duplicate trace header")
      else scanHeaders rest true traceStateSeen (total + (key.length + value.length))
    else if equalFold key (ofString "tracestate") then
      if traceStateSeen then .error (invalidMessage "duplicate trace header")
      else scanHeaders rest traceParentSeen true (total + (key.length + value.length))
    else scanHeaders rest traceParentSeen traceStateSeen (total + (key.length + value.length))

def validateHeaders (headers : Headers) : Except GoError Unit :=
  if defaultMaxHeaders < headers.rows.length then .error (invalidMessage "too many headers")
  else do
    let total ← scanHeaders headers.rows false false 0
    if defaultMaxHeaderBytes < total then .error (invalidMessage "headers exceed byte limit")
    else .ok ()

def unmarshalString (data : Bytes) : Option Bytes :=
  match parseDocument maxNestingDepth data with
  | some (.string body) => some (unquote body)
  | some (.literal .null) => some []
  | _ => none

namespace Envelope

def payload (envelope : Envelope) : Except GoError Bytes :=
  match envelope.dataEncoding with
  | .binary =>
    match envelope.data, envelope.dataBase64 with
    | none, some text =>
      match Base64.decode .std text with
      | some data => .ok data
      | none => .error (invalidMessageBy "decode dataBase64" "encoding/base64")
    | _, _ => .error (invalidMessage "binary data requires dataBase64")
  | .text =>
    match envelope.data, envelope.dataBase64 with
    | some data, none =>
      match unmarshalString data with
      | some text => .ok text
      | none => .error (invalidMessageBy "decode text data" "encoding/json")
    | _, _ => .error (invalidMessage "text data requires data")
  | .json =>
    match envelope.data, envelope.dataBase64 with
    | some data, none =>
      if (parseDocument maxNestingDepth data).isSome then .ok data
      else .error (invalidMessage "invalid JSON data")
    | _, _ => .error (invalidMessage "JSON data requires data")
  | .unset => .error (invalidMessage "unknown data encoding")

def complete (envelope : Envelope) : Bool :=
  envelope.specVersion == envelopeSpecVersion && envelope.id != 0 && envelope.kind.validWire &&
    envelope.name != [] && decide (envelope.name.length ≤ maxDescriptorNameLength) &&
    matchesName envelope.name && decide (0 < envelope.schemaVersion.toInt) &&
      !envelope.time.isZero &&
    envelope.correlationID != 0 && envelope.contentType != [] && envelope.dataEncoding.valid

def timesOrdered (envelope : Envelope) : Bool :=
  envelope.notBefore.isZero || envelope.expiresAt.isZero ||
    decide (envelope.notBefore.nanos < envelope.expiresAt.nanos)

def validate (envelope : Envelope) : Except GoError Unit := do
  if envelope.complete = false then throw (invalidMessage "incomplete envelope")
  validateSource urlParse envelope.source
  let _ ← envelope.payload
  if envelope.timesOrdered = false then throw (invalidMessage "expiresAt must follow notBefore")
  validateHeaders envelope.headers

end Envelope

end Validation

/-- `strconv.Unquote` of a JSON literal: an escaped slash and an escaped
surrogate are no Go escapes. -/
def goEscape : Piece → Bool
  | .short .slash => false
  | .unicode first second third fourth =>
    let code := ((first.value * 16 + second.value) * 16 + third.value) * 16 + fourth.value
    !(decide (0xd800 ≤ code) && decide (code < 0xe000))
  | _ => true

def strconvUnquote (body : List Piece) : Option Bytes :=
  if body.all goEscape then some (unquote body) else none

def encodeMessageID (id : MessageID) : Option Value := some (.string (quote (messageIDString id)))

def decodeMessageID : Value → MessageID → Option MessageID
  | .string body, _ => (strconvUnquote body).bind parseMessageID
  | _, _ => none

def encodeTime (stamp : Stamp) : Option Value :=
    (format stamp).map (fun text => .string (quote text))

/-- `Time.UnmarshalJSON`: the literal is read as it is spelt. -/
def decodeTime : Value → Stamp → Option Stamp
  | .literal .null, current => some current
  | .string body, _ => parse false (bodyText body)
  | _, _ => none

def encodeInt (value : Int64) : Option Value := some (.number (.ofInt value.toInt))

def decodeInt : Value → Int64 → Option Int64
  | .literal .null, current => some current
  | .number number, _ => do
      let value ← intOf? number.text
      if -2 ^ 63 ≤ value ∧ value < 2 ^ 63 then return Int64.ofInt value else none
  | _, _ => none

def encodeDataEncoding (encoding : DataEncoding) : Option Value :=
  if encoding.valid then some (.string (quote encoding.string)) else none

def decodeDataEncoding : Value → DataEncoding → Option DataEncoding
  | .string body, _ => DataEncoding.ofName? (unquote body)
  | _, _ => none

def encodeHeaders (headers : Headers) : Option Value :=
  some (object (headers.rows.map (fun row => (row.1, .string (quote row.2)))))

def decodeHeader (headers : Headers) : List Piece × Value → Option Headers
  | (key, .string body) => some (headers.set (unquote key) (unquote body))
  | (key, .literal .null) => some (headers.set (unquote key) [])
  | _ => none

/-- An object is added to the map that is there; null drops the map. -/
def decodeHeaders : Value → Headers → Option Headers
  | .literal .null, _ => some .empty
  | value, current => do (← value.members).foldlM decodeHeader current

/-- `RawMessage.MarshalJSON`, compacted by the encoder, which counts the depth from
the object around it. -/
def encodeRaw : Option Bytes → Option Value
  | some data => ((parseDocument maxNestingDepth data).filter (fun value =>
      value.depth < maxNestingDepth)).map Value.compact
  | none => some (.literal .null)

def decodeRaw (value : Value) (_ : Option Bytes) : Option (Option Bytes) := some (some value.text)

def encodeStringPointer : Option Bytes → Option Value
  | some text => some (.string (quote text))
  | none => some (.literal .null)

def decodeStringPointer : Value → Option Bytes → Option (Option Bytes)
  | .literal .null, _ => some none
  | .string body, _ => some (some (unquote body))
  | _, _ => none

def always {A : Type} (_ : A) : Bool := false

def envelopeFields : List (RecordField Envelope) :=
  [.string (ofString "specVersion") false (·.specVersion)
      (fun value envelope => { envelope with specVersion := value }),
    .custom (ofString "id") always encodeMessageID decodeMessageID (·.id)
      (fun value envelope => { envelope with id := value }),
    .string (ofString "kind") false (·.kind.text) (fun value envelope =>
      { envelope with kind := Kind.ofText value }),
    .string (ofString "name") false (·.name) (fun value envelope =>
      { envelope with name := value }),
    .custom (ofString "schemaVersion") always encodeInt decodeInt (·.schemaVersion)
      (fun value envelope => { envelope with schemaVersion := value }),
    .string (ofString "source") false (·.source) (fun value envelope =>
      { envelope with source := value }),
    .string (ofString "subject") true (·.subject) (fun value envelope =>
      { envelope with subject := value }),
    .custom (ofString "time") always encodeTime decodeTime (·.time)
      (fun value envelope => { envelope with time := value }),
    .custom (ofString "correlationId") always encodeMessageID decodeMessageID (·.correlationID)
      (fun value envelope => { envelope with correlationID := value }),
    .custom (ofString "causationId") (· == 0) encodeMessageID decodeMessageID (·.causationID)
      (fun value envelope => { envelope with causationID := value }),
    .string (ofString "key") true (·.key) (fun value envelope => { envelope with key := value }),
    .string (ofString "contentType") false (·.contentType)
      (fun value envelope => { envelope with contentType := value }),
    .custom (ofString "dataEncoding") always encodeDataEncoding decodeDataEncoding (·.dataEncoding)
      (fun value envelope => { envelope with dataEncoding := value }),
    .string (ofString "schema") true (·.schema) (fun value envelope =>
      { envelope with schema := value }),
    .custom (ofString "headers") (fun headers => headers.rows.isEmpty) encodeHeaders decodeHeaders
      (·.headers) (fun value envelope => { envelope with headers := value }),
    .custom (ofString "notBefore") Stamp.isZero encodeTime decodeTime (·.notBefore)
      (fun value envelope => { envelope with notBefore := value }),
    .custom (ofString "expiresAt") Stamp.isZero encodeTime decodeTime (·.expiresAt)
      (fun value envelope => { envelope with expiresAt := value }),
    .custom (ofString "data") (fun data => data == none ||
      data == some []) encodeRaw decodeRaw (·.data)
      (fun value envelope => { envelope with data := value }),
    .custom (ofString "dataBase64") Option.isNone encodeStringPointer
      decodeStringPointer (·.dataBase64)
      (fun value envelope => { envelope with dataBase64 := value })]

def Envelope.zero : Envelope where
  specVersion := []
  id := 0
  kind := .other []
  name := []
  schemaVersion := 0
  source := []
  subject := []
  time := .zero
  correlationID := 0
  causationID := 0
  key := []
  contentType := []
  dataEncoding := .unset
  schema := []
  headers := .empty
  notBefore := .zero
  expiresAt := .zero
  data := none
  dataBase64 := none

def encodeEnvelope (envelope : Envelope) : Option Value :=
  (writeFields envelope envelopeFields).map object

/-- `decoder.Decode(&envelope)` with unknown fields refused, and nothing but
blanks after it. -/
def decodeEnvelope (data : Bytes) : Option Envelope :=
  (parseDocument maxNestingDepth data).bind (readRecord envelopeFields .zero)

section Entry

variable (urlParse : Bytes → Bool)

def utcOrZero (stamp : Stamp) : Stamp := if stamp.isZero then .zero else stamp.utc

def jsonPayload (payload : Bytes) : Bytes := if payload = [] then ofString "null" else payload

def placePayload (envelope : Envelope) (payload : Bytes) : Except GoError Envelope :=
  match envelope.dataEncoding with
  | .json =>
    if (parseDocument maxNestingDepth (jsonPayload payload)).isSome then
      .ok { envelope with data := some (jsonPayload payload) }
    else .error (invalidMessage "codec returned invalid JSON")
  | .text => .ok { envelope with data := some (Value.string (quote payload)).text }
  | .binary => .ok { envelope with dataBase64 := some (Base64.encode .std payload) }
  | .unset => .error (invalidMessage "unknown data encoding")

/-- The envelope of `envelopeFrom` before its payload is placed. -/
def bareEnvelope (metadata : Metadata) (encoding : DataEncoding) : Envelope where
  specVersion := envelopeSpecVersion
  id := metadata.id
  kind := metadata.kind
  name := metadata.name
  schemaVersion := metadata.schemaVersion
  source := metadata.source
  subject := metadata.subject
  time := metadata.time.utc
  correlationID := metadata.correlationID
  causationID := metadata.causationID
  key := metadata.key
  contentType := metadata.contentType
  dataEncoding := encoding
  schema := metadata.schema
  headers := metadata.headers
  notBefore := utcOrZero metadata.notBefore
  expiresAt := utcOrZero metadata.expiresAt
  data := none
  dataBase64 := none

def envelopeFrom (metadata : Metadata) (payload : Bytes) (encoding : DataEncoding) :
    Except GoError Envelope := do
  let envelope ← placePayload (bareEnvelope metadata encoding) payload
  envelope.validate urlParse
  return envelope

def marshalEnvelope (metadata : Metadata) (payload : Bytes) (encoding : DataEncoding) :
    Except GoError Bytes := do
  let envelope ← envelopeFrom urlParse metadata payload encoding
  match encodeEnvelope envelope with
  | none => throw (.wrap "messenger: marshal envelope" (.text "encoding/json"))
  | some value =>
    if defaultMaxEnvelopeBytes < value.text.length then throw (tooLarge value.text.length)
    else return value.text

def unmarshalEnvelope (data : Bytes) : Except GoError Envelope :=
  if defaultMaxEnvelopeBytes < data.length then .error (tooLarge data.length)
  else match decodeEnvelope data with
    | none => .error (invalidMessageBy "decode envelope" "encoding/json")
    | some envelope => do
        envelope.validate urlParse
        return envelope

def canonicalizeEnvelope (data : Bytes) : Except GoError Bytes := do
  let envelope ← unmarshalEnvelope urlParse data
  let payload ← envelope.payload
  marshalEnvelope urlParse envelope.metadata payload envelope.dataEncoding

end Entry

end Gomessenger.Messenger
