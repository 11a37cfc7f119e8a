import Gomessenger.Lib.JsonAny
import Gomessenger.Lib.JsonLeaves
import Gomessenger.Messenger.Manifest
import Gomessenger.Messenger.ReplayID

/-! `gomessengerctl schema check`: schema catalogs and their immutable baselines.

What `json.Decoder` reads is parsed first and scanned as a value. The schema
compiler and `url.Parse` are inputs, and so is what the files hold. -/

namespace Gomessenger.SchemaCheck

open Utf8 Json
open Inbox (Sha256)
open Messenger (DescriptorInfo Manifest ManifestDescriptor Codec
  maxNestingDepth descriptorInfoFields)

def schemaPolicy : Bytes := ofString "immutable-version-v1"

def schemaDraft : Bytes := ofString "https://json-schema.org/draft/2020-12/schema"

def schemaMaxBytes : Nat := 2 ^ 20

def schemaMaxDepth : Nat := 64

def parseHex (text : Bytes) : Option Nat :=
  text.foldlM (fun value byte => (hexValue? byte).map (fun digit => value * 16 + digit)) 0

/-- How many of the bytes after a backslash belong to its escape, unless it is an
unpaired surrogate. -/
def escapeLength : Bytes → Option Nat
  | [] => some 0
  | letter :: rest =>
    if letter ≠ 0x75 ∨ rest.length < 4 then some 1
    else match parseHex (rest.take 4) with
      | none => none
      | some value =>
        if value < 0xd800 ∨ 0xdfff < value then some 5
        else if 0xdbff < value ∨ rest.length < 10 ∨ (rest.drop 4).take 2 ≠ [0x5c, 0x75] then none
        else match parseHex ((rest.drop 6).take 4) with
          | none => none
          | some low => if low < 0xdc00 ∨ 0xdfff < low then none else some 11

/-- The loop of `validSchemaSurrogates`; the next `skip` bytes belong to an escape
already read. -/
def surrogatesFrom : Nat → Bytes → Bool
  | _, [] => true
  | skip + 1, _ :: rest => surrogatesFrom skip rest
  | 0, byte :: rest =>
    if byte ≠ 0x5c then surrogatesFrom 0 rest
    else match escapeLength rest with
      | none => false
      | some skip => surrogatesFrom skip rest

def validSchemaSurrogates (data : Bytes) : Bool := surrogatesFrom 0 data

def exponentOf (text : Bytes) : Option Bytes :=
  match text.dropWhile (fun byte => byte != 0x65 && byte != 0x45) with
  | [] => none
  | _ :: rest => some rest

def errExponent : GoError := .text "JSON number exponent must be between -1000 and 1000"

def scanNumber (number : Number) : Except GoError Unit :=
  if 128 < number.text.length then .error (.text "JSON number exceeds 128 bytes")
  else match exponentOf number.text with
    | none => .ok ()
    | some exponent =>
      match Strings.atoi exponent with
      | none => .error errExponent
      | some power =>
        if power.toInt < -1000 ∨ 1000 < power.toInt then .error errExponent else .ok ()

def errNesting : GoError := .text "JSON nesting exceeds 64 levels"

def scanLead {kind : Kind} (keys : List Bytes) : Lead kind → Except GoError (List Bytes)
  | .member _ key _ _ =>
    if unquote key ∈ keys then .error (.text "duplicate JSON object key")
      else .ok (unquote key :: keys)
  | .item _ => .ok keys

mutual

def scanSchemaJSON : Nat → Value → Except GoError Unit
  | depth, .number number => if schemaMaxDepth < depth then .error errNesting else scanNumber number
  | depth, .literal _ => if schemaMaxDepth < depth then .error errNesting else .ok ()
  | depth, .string _ => if schemaMaxDepth < depth then .error errNesting else .ok ()
  | depth, .empty _ _ => if schemaMaxDepth ≤ depth then .error errNesting else .ok ()
  | depth, .node _ entries =>
    if schemaMaxDepth ≤ depth then .error errNesting else scanEntries depth [] entries

def scanEntries {kind : Kind} : Nat → List Bytes → Entries kind → Except GoError Unit
  | depth, keys, .last lead value _ => do
      let _ ← scanLead keys lead
      scanSchemaJSON (depth + 1) value
  | depth, keys, .more lead value _ rest => do
      let keys ← scanLead keys lead
      scanSchemaJSON (depth + 1) value
      scanEntries depth keys rest

end

def decodeTarget {A : Type} (target : Value → Option A) (value : Value) : Except GoError A :=
  match target value with
  | none => .error (.wrap "decode schema input" (.text "encoding/json"))
  | some decoded => .ok decoded

def decodeSchemaJSON {A : Type} (target : Value → Option A) (data : Bytes) : Except GoError A := do
  if schemaMaxBytes < data.length ∨ ¬ Valid data ∨ validSchemaSurrogates data = false then
    throw (.text "schema input exceeds size limit or is not UTF-8")
  match parseDocument maxNestingDepth data with
  | none => throw (.wrap "read JSON token" (.text "encoding/json"))
  | some value => do
      scanSchemaJSON 0 value
      decodeTarget target value

theorem decodeTarget_ok {A : Type} {target : Value → Option A} {value : Value} {decoded : A} :
    decodeTarget target value = .ok decoded ↔ target value = some decoded := by
  unfold decodeTarget
  cases target value <;> simp

section Catalog

structure SchemaBinding where
  info : DescriptorInfo
  document : Bytes
  samples : Slice Bytes

structure SchemaCatalog where
  specVersion : Bytes
  policy : Bytes
  descriptors : Slice SchemaBinding

structure CheckedSchema where
  info : DescriptorInfo
  fingerprint : Bytes
  samples : Nat
  deriving DecidableEq

def decodeRawMessage (value : Value) (_ : Bytes) : Option Bytes := some value.text

def SchemaBinding.zero : SchemaBinding := ⟨.zero, [], .none⟩

def schemaBindingFields : List (RecordField SchemaBinding) :=
  descriptorInfoFields (·.info) (fun info binding => { binding with info := info }) ++
    [.reader (ofString "document") decodeRawMessage (·.document)
        (fun value binding => { binding with document := value }),
      .reader (ofString "samples") (decodeSlice decodeRawMessage []) (·.samples)
        (fun value binding => { binding with samples := value })]

def decodeBinding (value : Value) (current : SchemaBinding) : Option SchemaBinding :=
  readRecord schemaBindingFields current value

def SchemaCatalog.zero : SchemaCatalog := ⟨[], [], .none⟩

def schemaCatalogFields : List (RecordField SchemaCatalog) :=
  [.string (ofString "specVersion") false (·.specVersion)
    (fun value catalog => { catalog with specVersion := value }),
    .string (ofString "policy") false (·.policy) (fun value catalog =>
      { catalog with policy := value }),
    .reader (ofString "descriptors") (decodeSlice decodeBinding .zero) (·.descriptors)
      (fun value catalog => { catalog with descriptors := value })]

def decodeCatalog (value : Value) : Option SchemaCatalog :=
    readRecord schemaCatalogFields .zero value

def decodeDocument (value : Value) : Option (List (Bytes × Any)) :=
  match value.decode with
  | .object members => some members
  | .null => some []
  | _ => none

def decodeSample (value : Value) : Option Any := some value.decode

def schemaKey (info : DescriptorInfo) : Bytes :=
  info.kind.text ++ ofString "/" ++ info.name ++ ofString "/v" ++ intText info.schemaVersion.toInt

/-- `messenger.JSON[any]()`, with the text of a number for its value. -/
def jsonCodec : Codec Any where
  encode value := .ok value.spell.text
  decode data := ((parseDocument maxNestingDepth data).map Value.decode).elim
    (.error (.text "messenger: decode JSON")) .ok
  contentType := ofString "application/json"
  encoding := .json

def validateSchemaIdentity (info : DescriptorInfo) : Except GoError Unit :=
  if info.contentType ≠ ofString "application/json" ∨ info.dataEncoding ≠ .json then
    .error (.text "schema bindings require application/json and json dataEncoding")
  else match info.kind with
    | .other _ => .error (.text "schema binding kind must be command, event, or query")
    | kind =>
      (Messenger.newDescriptor kind info.name info.schemaVersion [] jsonCodec).map (fun _ => ())

/-- The value of a number as `big.Rat` reads it. -/
def rationalOf (number : Number) : Rat :=
  let mantissa := (dropSign false number.text).takeWhile (fun byte => byte != 0x65 && byte != 0x45)
  let whole := mantissa.takeWhile Decimal.isDigit
  let fraction := (mantissa.dropWhile Decimal.isDigit).drop 1
  let digits : Int := (Decimal.value? (whole ++ fraction)).getD 0
  let power : Int := ((exponentOf number.text).bind Strings.atoi).elim 0 Int64.toInt
  let sign : Int := if number.text.head? = some 0x2d then -1 else 1
  mkRat (sign * digits * 10 ^ (power - fraction.length).toNat)
    (10 ^ (fraction.length - power).toNat)

def sizeKeys : List Bytes :=
  [ofString "minLength", ofString "maxLength", ofString "minItems",
    ofString "maxItems", ofString "minContains",
    ofString "maxContains", ofString "minProperties", ofString "maxProperties"]

def outOfRange : Any → Bool
  | .number number =>
    let rational := rationalOf number
    rational.den != 1 || decide (rational.num < 0) || decide (2 ^ 31 ≤ rational.num.natAbs)
  | _ => false

mutual

def boundSchemaCardinalities : Any → Except GoError Unit
  | .object members => boundMembers members
  | .array items => boundItems items
  | _ => .ok ()

def boundMembers : List (Bytes × Any) → Except GoError Unit
  | [] => .ok ()
  | (key, value) :: rest =>
    if (sizeKeys.contains key && outOfRange value) = true then
      .error (.text "must be an integer between 0 and 2147483647")
    else do
      boundSchemaCardinalities value
      boundMembers rest

def boundItems : List Any → Except GoError Unit
  | [] => .ok ()
  | item :: rest => do
      boundSchemaCardinalities item
      boundItems rest

end

def declaresDraft (document : List (Bytes × Any)) : Bool :=
  match KeyedTable.lookup (ofString "$schema") document with
  | some (.string text) => text == schemaDraft
  | _ => false

def canonical (document : List (Bytes × Any)) : Bytes := (Any.object document).spell.text

def checkSamples (validate : Any → Bool) : List Bytes → Except GoError Unit
  | [] => .ok ()
  | sample :: rest => do
      let value ← decodeSchemaJSON decodeSample sample
      if validate value = false then throw (.text "validation failed")
      checkSamples validate rest

abbrev Catalog := KeyedTable Bytes CheckedSchema

variable (F : Type) [Sha256 F]

def sha256Hex (data : Bytes) : Bytes := Hex.encode (Sha256.bytes (Sha256.sum data : F))

variable (compile : List (Bytes × Any) → Option (Any → Bool))

def checkSchemaDocument (binding : SchemaBinding) : Except GoError Bytes := do
  let document ← decodeSchemaJSON decodeDocument binding.document
  if declaresDraft document = false then
    throw (.text "document requires explicit JSON Schema draft 2020-12 $schema")
  boundSchemaCardinalities (.object document)
  match compile document with
  | none => throw (.text "compile local schema")
  | some validate => do
      checkSamples validate binding.samples.elements
      return sha256Hex F (canonical document)

def bindSchema (catalog : Catalog) (binding : SchemaBinding) : Except GoError Catalog := do
  if (catalog.find? (schemaKey binding.info)).isSome then throw (.text "duplicate schema binding")
  validateSchemaIdentity binding.info
  let fingerprint ← checkSchemaDocument F compile binding
  return catalog.set (schemaKey binding.info) ⟨binding.info, fingerprint,
    binding.samples.elements.length⟩

def decodeSchemaCatalog (data : Bytes) : Except GoError Catalog := do
  let catalog ← decodeSchemaJSON decodeCatalog data
  if catalog.specVersion ≠ ofString "1.0" ∨ catalog.policy ≠ schemaPolicy ∨
      catalog.descriptors.elements = [] then
    throw (.text "catalog requires specVersion 1.0, immutable-version-v1 policy, and descriptors")
  catalog.descriptors.elements.foldlM (bindSchema F compile) .empty

end Catalog

section Check

structure SchemaFingerprint where
  descriptor : Bytes
  sha256 : Bytes
  deriving DecidableEq

structure SchemaCheckReport where
  policy : Bytes
  baselineSHA256 : Bytes
  preserved : Nat
  added : Nat
  samplesValidated : Nat
  skippedNonJSON : Nat
  fingerprints : List SchemaFingerprint

inductive Exit
  | usage
  | failure (err : GoError)

def readSchemaFile (contents : Except GoError Bytes) : Except GoError Bytes := do
  let data ← contents
  if schemaMaxBytes < data.length then throw (.text "exceeds 1048576 bytes")
  return data

def matchDescriptors (candidate : Catalog) :
    List ManifestDescriptor → List Bytes → Nat → Except GoError (List Bytes × Nat)
  | [], keys, skipped => .ok (keys, skipped)
  | descriptor :: rest, keys, skipped =>
    if descriptor.info.dataEncoding ≠ .json then matchDescriptors candidate rest keys (skipped + 1)
    else match candidate.find? (schemaKey descriptor.info) with
      | none => .error (.text "missing JSON schema binding")
      | some binding =>
        if binding.info ≠ descriptor.info then
          .error (.text "schema binding metadata does not match manifest")
        else matchDescriptors candidate rest (schemaKey descriptor.info :: keys) skipped

def bindSchemaManifest (candidate : Catalog) (manifest : Manifest) : Except GoError Nat := do
  let (keys, skipped) ← matchDescriptors candidate manifest.descriptors.elements [] 0
  if candidate.rows.any (fun row => !keys.contains row.1) then
    throw (.text "schema binding has no matching JSON manifest descriptor")
  return skipped

def comparePreserved (candidate : Catalog) : List (Bytes × CheckedSchema) → Nat → Except GoError Nat
  | [], preserved => .ok preserved
  | (key, old) :: rest, preserved =>
    match candidate.find? key with
    | none => .error (.text "baseline version removed; retain it alongside new versions")
    | some current =>
      if current.info ≠ old.info then .error (.text "published descriptor metadata changed")
      else if current.fingerprint ≠ old.fingerprint then
        .error (.text "immutable schema document changed; add a new schemaVersion")
      else comparePreserved candidate rest (preserved + 1)

def compareSchemaCatalogs (candidate baseline : Catalog) : Except GoError SchemaCheckReport := do
  let preserved ← comparePreserved candidate baseline.rows 0
  return {
    policy := schemaPolicy
    baselineSHA256 := []
    preserved := preserved
    added := candidate.rows.countP (fun row => (baseline.find? row.1).isNone)
    samplesValidated := (candidate.rows.map (fun row => row.2.samples)).sum
    skippedNonJSON := 0
    fingerprints := candidate.rows.map (fun row => ⟨row.1, row.2.fingerprint⟩) }

variable (F : Type) [Sha256 F] (compile : List (Bytes × Any) → Option (Any → Bool))
    (urlParse : Bytes → Bool)

def checkFiles (pin : Bytes) (manifestFile file baselineFile : Except GoError Bytes) :
    Except GoError SchemaCheckReport := do
  let baselineBytes ← readSchemaFile baselineFile
  if sha256Hex F baselineBytes ≠ pin then
    throw (.text "baseline SHA-256 does not match trusted pin")
  let baseline ← decodeSchemaCatalog F compile baselineBytes
  let candidateBytes ← readSchemaFile file
  let candidate ← decodeSchemaCatalog F compile candidateBytes
  let manifestBytes ← readSchemaFile manifestFile
  let manifest ← decodeSchemaJSON (readRecord Messenger.manifestFields .zero) manifestBytes
  manifest.validate urlParse
  let skipped ← bindSchemaManifest candidate manifest
  let result ← compareSchemaCatalogs candidate baseline
  return { result with baselineSHA256 := pin, skippedNonJSON := skipped }

def checkSchemas (pin : Bytes) (manifestFile file baselineFile : Except GoError Bytes) :
    Except Exit SchemaCheckReport :=
  match Hex.decode pin with
  | none => .error .usage
  | some decoded =>
    if decoded.length ≠ 32 ∨ Hex.encode decoded ≠ pin then .error .usage
    else match checkFiles F compile urlParse pin manifestFile file baselineFile with
      | .error err => .error (.failure err)
      | .ok report => .ok report

end Check

end Gomessenger.SchemaCheck
