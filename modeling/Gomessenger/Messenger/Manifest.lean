import Gomessenger.Messenger.Descriptor

/-! Topology manifests: how they are decoded and what they must fulfil. -/

namespace Gomessenger.Messenger

open Utf8 Json

def manifestSpecVersion : Bytes := ofString "1.0"

def errHandlerConflict : GoError := .text "messenger: handler conflict"

def errHandlerNotFound : GoError := .text "messenger: handler not found"

def errRouteConflict : GoError := .text "messenger: route conflict"

def errRouteNotFound : GoError := .text "messenger: route not found"

def errServiceConflict : GoError := .text "messenger: service conflict"

structure ManifestDescriptor where
  info : DescriptorInfo
  route : Bytes
  handlerIDs : Slice Bytes

structure Manifest where
  specVersion : Bytes
  source : Bytes
  descriptors : Slice ManifestDescriptor
  services : Slice Bytes

def DescriptorInfo.zero : DescriptorInfo where
  kind := .other []
  name := []
  schemaVersion := 0
  contentType := []
  dataEncoding := .unset
  schema := []

def descriptorInfoFields {S : Type} (get : S → DescriptorInfo)
    (set : DescriptorInfo → S → S) : List (RecordField S) :=
  [.string (ofString "kind") false (fun record => (get record).kind.text)
      (fun value record => set { get record with kind := Kind.ofText value } record),
    .string (ofString "name") false (fun record => (get record).name)
      (fun value record => set { get record with name := value } record),
    .reader (ofString "schemaVersion") decodeInt (fun record => (get record).schemaVersion)
      (fun value record => set { get record with schemaVersion := value } record),
    .string (ofString "contentType") false (fun record => (get record).contentType)
      (fun value record => set { get record with contentType := value } record),
    .reader (ofString "dataEncoding") decodeDataEncoding (fun record => (get record).dataEncoding)
      (fun value record => set { get record with dataEncoding := value } record),
    .string (ofString "schema") true (fun record => (get record).schema)
      (fun value record => set { get record with schema := value } record)]

def decodeString : Value → Bytes → Option Bytes
  | .literal .null, current => some current
  | .string body, _ => some (unquote body)
  | _, _ => none

def ManifestDescriptor.zero : ManifestDescriptor := ⟨.zero, [], .none⟩

def manifestDescriptorFields : List (RecordField ManifestDescriptor) :=
  descriptorInfoFields (·.info) (fun info descriptor => { descriptor with info := info }) ++
    [.string (ofString "route") true (·.route) (fun value descriptor =>
      { descriptor with route := value }),
      .reader (ofString "handlerIds") (decodeSlice decodeString []) (·.handlerIDs)
        (fun value descriptor => { descriptor with handlerIDs := value })]

def Manifest.zero : Manifest := ⟨[], [], .none, .none⟩

def manifestFields : List (RecordField Manifest) :=
  [.string (ofString "specVersion") false (·.specVersion)
      (fun value manifest => { manifest with specVersion := value }),
    .string (ofString "source") false (·.source) (fun value manifest =>
      { manifest with source := value }),
    .reader (ofString "descriptors")
      (decodeSlice (fun value current => readRecord manifestDescriptorFields current value) .zero)
        (·.descriptors)
      (fun value manifest => { manifest with descriptors := value }),
    .reader (ofString "services") (decodeSlice decodeString []) (·.services)
      (fun value manifest => { manifest with services := value })]

def stableRune : Rune → Bool
  | .stray _ => false
  | .scalar char =>
    decide ('a' ≤ char ∧ char ≤ 'z') || decide ('A' ≤ char ∧ char ≤ 'Z') ||
      decide ('0' ≤ char ∧ char ≤ '9') ||
      ['.', '_', ':', '-', '/'].contains char

def validStableID (value : Bytes) : Bool :=
  value != [] && decide (value.length ≤ maxDescriptorNameLength) && trimmed value &&
    (runes value).all stableRune

/-- The loop over a list of identifiers; `seen` are those before. -/
def checkIDs (invalid duplicate : GoError) : List Bytes → List Bytes → Except GoError Unit
  | _, [] => .ok ()
  | seen, id :: rest =>
    if validStableID id = false then .error invalid
    else if id ∈ seen then .error duplicate
    else checkIDs invalid duplicate (id :: seen) rest

def validateManifestDescriptor (descriptor : ManifestDescriptor) : Except GoError Unit :=
  let info := descriptor.info
  let handlers := descriptor.handlerIDs.elements
  if info.kind.valid = false ∨ maxDescriptorNameLength < info.name.length ∨
    matchesName info.name = false ∨
      info.schemaVersion.toInt ≤ 0 ∨ info.contentType = [] ∨ info.dataEncoding.valid = false then
    .error (.wrap "manifest descriptor" errInvalidDescriptor)
  else if descriptor.route ≠ [] ∧ validStableID descriptor.route = false then
    .error (.wrap "invalid manifest route" errRouteConflict)
  else if (info.kind = .command ∨ info.kind = .query) ∧ 1 < handlers.length then
    .error (.wrap "multiple handlers" errHandlerConflict)
  else if info.kind = .query ∧ descriptor.route = [] then .error (.wrap "query" errRouteNotFound)
  else if info.kind = .query ∧ handlers = [] then .error (.wrap "query" errHandlerNotFound)
  else checkIDs (.wrap "invalid manifest handler" errHandlerConflict)
    (.wrap "duplicate manifest handler" errHandlerConflict) [] handlers

def validateManifestServices (serviceIDs : List Bytes) : Except GoError Unit :=
  checkIDs (.wrap "invalid manifest service" errServiceConflict)
    (.wrap "duplicate manifest service" errServiceConflict) [] serviceIDs

structure DescriptorKey where
  kind : Kind
  name : Bytes
  schemaVersion : Int64
  deriving DecidableEq

def keyFor (info : DescriptorInfo) : DescriptorKey := ⟨info.kind, info.name, info.schemaVersion⟩

def validateManifestDescriptors : List DescriptorKey → List ManifestDescriptor → Except GoError Unit
  | _, [] => .ok ()
  | seen, descriptor :: rest => do
      validateManifestDescriptor descriptor
      if keyFor descriptor.info ∈ seen then
        throw (.wrap "duplicate manifest descriptor" errDescriptorConflict)
      validateManifestDescriptors (keyFor descriptor.info :: seen) rest

def Manifest.validate (urlParse : Bytes → Bool) (manifest : Manifest) : Except GoError Unit := do
  if manifest.specVersion ≠ manifestSpecVersion
    then throw (invalidMessage "manifest specVersion must be 1.0")
  validateSource urlParse manifest.source
  validateManifestDescriptors [] manifest.descriptors.elements
  validateManifestServices manifest.services.elements

end Gomessenger.Messenger
