import Gomessenger.Messenger.Canonical

/-! Codecs, typed descriptors, and typed envelopes. -/

namespace Gomessenger.Messenger

open Utf8 Rfc3339

structure Codec (T : Type) where
  encode : T → Except GoError Bytes
  decode : Bytes → Except GoError T
  contentType : Bytes
  encoding : DataEncoding

structure DescriptorInfo where
  kind : Kind
  name : Bytes
  schemaVersion : Int64
  contentType : Bytes
  dataEncoding : DataEncoding
  schema : Bytes
  deriving DecidableEq

structure Descriptor (T : Type) where
  info : DescriptorInfo
  codec : Codec T
  contentType : info.contentType = codec.contentType
  encoding : info.dataEncoding = codec.encoding

structure Event (T : Type) where
  descriptor : Descriptor T
  isEvent : descriptor.info.kind = .event

structure Message (T : Type) where
  metadata : Metadata
  payload : T

def errInvalidDescriptor : GoError := .text "messenger: invalid descriptor"

def errDescriptorConflict : GoError := .text "messenger: descriptor conflict"

def Kind.valid : Kind → Bool
  | .other _ => false
  | _ => true

variable {T : Type}

def newDescriptor (kind : Kind) (name : Bytes) (schemaVersion : Int64) (schema : Bytes)
    (codec : Codec T) : Except GoError (Descriptor T) :=
  if kind.valid = false ∨ name = [] ∨ maxDescriptorNameLength < name.length ∨
    matchesName name = false ∨
      schemaVersion.toInt ≤ 0 then
    .error (.wrap "name and version" errInvalidDescriptor)
  else if codec.contentType = [] ∨ codec.encoding.valid = false then
    .error (.wrap "codec" errInvalidDescriptor)
  else
    .ok ⟨⟨kind, name, schemaVersion, codec.contentType, codec.encoding, schema⟩, codec, rfl, rfl⟩

def Descriptor.describes (descriptor : Descriptor T) (metadata : Metadata) : Bool :=
  metadata.kind == descriptor.info.kind && metadata.name == descriptor.info.name &&
    metadata.schemaVersion == descriptor.info.schemaVersion &&
    metadata.contentType == descriptor.info.contentType && metadata.schema == descriptor.info.schema

section Entry

variable (urlParse : Bytes → Bool)

def encodeTypedEnvelope (descriptor : Descriptor T) (metadata : Metadata) (payload : T) :
    Except GoError Bytes := do
  if descriptor.describes metadata = false then
    throw (.wrap "metadata does not match" errDescriptorConflict)
  let data ← descriptor.codec.encode payload
  marshalEnvelope urlParse metadata data descriptor.codec.encoding

def decodeMessage (descriptor : Descriptor T) (data : Bytes) : Except GoError (Message T) := do
  let envelope ← unmarshalEnvelope urlParse data
  if (descriptor.describes envelope.metadata &&
    envelope.dataEncoding == descriptor.info.dataEncoding) =
      false then
    throw (.wrap "envelope does not match" errDescriptorConflict)
  let payload ← envelope.payload
  if envelope.dataEncoding ≠ descriptor.codec.encoding then
    throw (.wrap "payload encoding" errDescriptorConflict)
  let value ← descriptor.codec.decode payload
  return ⟨envelope.metadata, value⟩

end Entry

end Gomessenger.Messenger
