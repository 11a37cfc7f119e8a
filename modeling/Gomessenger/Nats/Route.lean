import Gomessenger.Nats.CloudEvents

/-! The messages a route publishes and what an event consumer makes of them, in
each wire mode. -/

namespace Gomessenger.Nats

open Utf8 Rfc3339 Json

def isControl (char : Char) : Bool :=
  decide (char.toNat < 0x20) || (decide (0x7f ≤ char.toNat) && decide (char.toNat < 0xa0))

def subjectRune : Rune → Bool
  | .scalar char => !Messenger.unicodeSpaces.contains char && !isControl char
  | .stray _ => true

def validToken (value : Bytes) : Bool :=
  value != [] && Messenger.trimmed value && !value.any (fun byte => byte == 0x2a || byte == 0x3e) &&
    !value.contains 0x2e && (runes value).all subjectRune

def validateSubjectToken (value : Bytes) (allowDots : Bool) : Bool :=
  if allowDots then
    value != [] && Messenger.trimmed value &&
      !value.any (fun byte => byte == 0x2a || byte == 0x3e) &&
      (value.splitOn 0x2e).all validToken
  else validToken value

def subjectOf (namespaceName : Bytes) (kind : Messenger.Kind) (name : Bytes)
    (schemaVersion : Int64) :
    Except GoError Bytes :=
  if validateSubjectToken namespaceName true = false then .error (invalidConfig "namespace")
  else if kind.validWire = false ∨ name = [] ∨ schemaVersion.toInt ≤ 0 then
    .error (invalidConfig "invalid descriptor")
  else if (name.splitOn 0x2e).all (fun token => validateSubjectToken token false) = false then
    .error (invalidConfig "descriptor name")
  else
    .ok (namespaceName ++ 0x2e :: (kind.text ++
      0x2e :: (name ++ ofString ".v" ++ intText schemaVersion.toInt)))

section Publish

variable (urlParse : Bytes → Bool) (sdk : Sdk)

structure Route where
  namespaceName : Bytes
  mode : WireMode

def contentType : Bytes := ofString "Content-Type"

def preparePublishMessage (route : Route) (now : Stamp) (metadata : Messenger.Metadata)
    (native : Bytes) : Except GoError Msg := do
  if metadata.expiresAt.isZero = false ∧ metadata.expiresAt.nanos ≤ now.nanos then
    throw (.permanent errMessageExpired)
  if metadata.notBefore.isZero = false ∧ now.nanos < metadata.notBefore.nanos then
    throw (.retryAfter errMessageNotReady (timeSub metadata.notBefore now))
  if route.mode ≠ .native ∧ metadata.kind ≠ .event then
    throw (invalidConfig "CloudEvents mode only supports events")
  let subject ← subjectOf route.namespaceName metadata.kind metadata.name metadata.schemaVersion
  match route.mode with
  | .native =>
    return ⟨subject,
      Header.set [] contentType (ofString "application/vnd.gomessenger+json; version=1.0"),
      native⟩
  | .cloudEventsStructured => do
      let data ← encodeCloudEventStructured urlParse sdk native
      return ⟨subject,
        Header.set [] contentType (ofString "application/cloudevents+json; charset=utf-8"),
        data⟩
  | .cloudEventsBinary => do
      let (data, header) ← encodeCloudEventBinary urlParse sdk native []
      return ⟨subject, header, data⟩

def publishEnvelope (route : Route) (now : Stamp) (data : Bytes) : Except GoError Msg := do
  let canonical ← Messenger.canonicalizeEnvelope urlParse data
  let envelope ← Messenger.unmarshalEnvelope urlParse canonical
  preparePublishMessage urlParse sdk route now envelope.metadata canonical

def deliver (route : Route) (now : Stamp) (metadata : Messenger.Metadata) (payload : Bytes)
    (encoding : Messenger.DataEncoding) : Except GoError Msg := do
  if metadata.kind ≠ .command ∧ metadata.kind ≠ .event then
    throw (Messenger.invalidMessage "NATS route only supports command/event delivery")
  let native ← Messenger.marshalEnvelope urlParse metadata payload encoding
  preparePublishMessage urlParse sdk route now metadata native

/-- The native envelope a route published and the message it made of it. -/
inductive Published (route : Route) : Bytes → Msg → Prop
  | envelope {now : Stamp} {data canonical : Bytes} {message : Msg}
      (isCanonical : Messenger.canonicalizeEnvelope urlParse data = .ok canonical)
      (sent : publishEnvelope urlParse sdk route now data = .ok message) :
      Published route canonical message
  | delivery {now : Stamp} {metadata : Messenger.Metadata} {payload native : Bytes}
      {encoding : Messenger.DataEncoding} {message : Msg}
      (isNative : Messenger.marshalEnvelope urlParse metadata payload encoding = .ok native)
      (sent : deliver urlParse sdk route now metadata payload encoding = .ok message) :
      Published route native message

end Publish

section Consume

variable (urlParse : Bytes → Bool) (sdk : Sdk) {T : Type}

structure DecodedEvent (T : Type) where
  message : Messenger.Message T
  canonical : Bytes

def decodeCloudEvent (mode : WireMode) (data : Bytes) (header : Header) :
    Except GoError CloudEventEnvelope :=
  match mode with
  | .cloudEventsStructured => decodeCloudEventStructured sdk data
  | .cloudEventsBinary => decodeCloudEventBinary sdk data header
  | .native => .error (invalidConfig "wire mode")

def decodeEvent (mode : WireMode) (event : Messenger.Event T) (data : Bytes) (header : Header) :
    Except GoError (DecodedEvent T) :=
  if mode = .native then do
    let canonical ← Messenger.canonicalizeEnvelope urlParse data
    let message ← Messenger.decodeMessage urlParse event.descriptor canonical
    return ⟨message, canonical⟩
  else do
    let cloud ← decodeCloudEvent sdk mode data header
    if (event.descriptor.describes cloud.metadata &&
      cloud.encoding == event.descriptor.info.dataEncoding) =
        false then
      throw (.wrap "CloudEvent does not match" Messenger.errDescriptorConflict)
    let payload ← event.descriptor.codec.decode cloud.data
    let canonical ← Messenger.encodeTypedEnvelope urlParse event.descriptor cloud.metadata payload
    return ⟨⟨cloud.metadata, payload⟩, canonical⟩

end Consume

end Gomessenger.Nats
