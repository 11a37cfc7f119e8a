import Gomessenger.Kafka.Wire.Consumer

/-! Kafka dead letters: making, encoding and decoding the record. -/

namespace Gomessenger.KafkaWire

open Utf8 Rfc3339 Fallible
open Json (RecordField Value writeFields readRecord object parseDocument
  encodeUint decodeUint encodeInt32
  decodeInt32 holdsMember Carries encodeInt32_length encodeUint_length base64_simple)
open Kafka (Reason)
open Messenger (trimmed invalidMessage invalidMessageBy
  defaultMaxEnvelopeBytes defaultMaxHeaderBytes
  maxNestingDepth messageIDString encodeInt decodeInt encodeTime decodeTime always unicodeSpaces
  encodeInt_length encodeTime_length)

def dlqSpecVersion : Bytes := ofString "1.0"

def defaultMaxDLQRecordBytes : Nat := 3 * defaultMaxEnvelopeBytes

def defaultMaxSourceMessageBytes : Nat := 2 * defaultMaxEnvelopeBytes + defaultMaxHeaderBytes

structure DLQRecord where
  specVersion : Bytes
  consumerID : Bytes
  sourceTopic : Bytes
  sourcePartition : Int32
  sourceOffset : Int64
  recordKeyBase64 : Bytes
  originalBase64 : Bytes
  messageID : Bytes
  attempt : UInt64
  attemptGeneration : Bytes
  failureKind : Bytes
  error : Bytes
  failedAt : Stamp
  deriving DecidableEq

def dlqFields : List (RecordField DLQRecord) :=
  [.string (ofString "specVersion") false (·.specVersion)
    (fun value record => { record with specVersion := value }),
    .string (ofString "consumerId") false (·.consumerID)
      (fun value record => { record with consumerID := value }),
    .string (ofString "sourceTopic") false (·.sourceTopic)
      (fun value record => { record with sourceTopic := value }),
    .custom (ofString "sourcePartition") always encodeInt32 decodeInt32 (·.sourcePartition)
      (fun value record => { record with sourcePartition := value }),
    .custom (ofString "sourceOffset") always encodeInt decodeInt (·.sourceOffset)
      (fun value record => { record with sourceOffset := value }),
    .string (ofString "recordKeyBase64") false (·.recordKeyBase64)
      (fun value record => { record with recordKeyBase64 := value }),
    .string (ofString "originalBase64") false (·.originalBase64)
      (fun value record => { record with originalBase64 := value }),
    .string (ofString "messageId") true (·.messageID) (fun value record =>
      { record with messageID := value }),
    .custom (ofString "attempt") always encodeUint decodeUint (·.attempt)
      (fun value record => { record with attempt := value }),
    .string (ofString "attemptGeneration") true (·.attemptGeneration)
      (fun value record => { record with attemptGeneration := value }),
    .string (ofString "failureKind") false (·.failureKind)
      (fun value record => { record with failureKind := value }),
    .string (ofString "error") false (·.error) (fun value record => { record with error := value }),
    .custom (ofString "failedAt") always encodeTime decodeTime (·.failedAt)
      (fun value record => { record with failedAt := value })]

def DLQRecord.zero : DLQRecord := ⟨[], [], [], 0, 0, [], [], [], 0, [], [], [], .zero⟩

def spaceRune : Rune → Bool
  | .scalar char => unicodeSpaces.contains char
  | .stray _ => false

def trimSpace (text : Bytes) : Bytes := trimRunes spaceRune text

def truncate (value : Bytes) (limit : Nat) : Bytes :=
  if limit = 0 then [] else cutAt limit (toValidUTF8 (cutAt limit (trimSpace value)))

def unspecifiedFailure : Bytes := ofString "unspecified failure"

/-- The text of an error, if there is one, as a dead letter holds it. -/
def failureText : Option Bytes → Bytes
  | none => unspecifiedFailure
  | some text => if truncate text 1024 = [] then unspecifiedFailure else truncate text 1024

def makeDLQRecord (consumerID : Bytes) (record : Record) (control : ControlMetadata)
    (messageID : Bytes) (attempt : UInt64) (failureKind : Bytes) (failure : Option Bytes)
    (failedAt : Stamp) : DLQRecord where
  specVersion := dlqSpecVersion
  consumerID := consumerID
  sourceTopic := control.source.topic
  sourcePartition := control.source.partition
  sourceOffset := control.source.offset
  recordKeyBase64 := Base64.encode .std record.key
  originalBase64 := Base64.encode .std record.value
  messageID := messageID
  attempt := attempt
  attemptGeneration := control.attemptGeneration
  failureKind := failureKind
  error := failureText failure
  failedAt := failedAt.utc

def DLQRecord.complete (record : DLQRecord) : Bool :=
  record.specVersion == dlqSpecVersion && record.consumerID != [] && record.sourceTopic != [] &&
    decide (0 ≤ record.sourcePartition.toInt) &&
      decide (0 ≤ record.sourceOffset.toInt) && record.attempt != 0 &&
    record.failureKind != [] && record.error != [] && !record.failedAt.isZero &&
    decide (record.error.length ≤ 1024) && trimmed record.attemptGeneration &&
    decide (record.attemptGeneration.length ≤ 128)

def validateDLQRecord (record : DLQRecord) : Except GoError Unit := do
  if record.complete = false then throw (invalidMessage "incomplete Kafka DLQ record")
  validateConsumerID record.consumerID
  validateTopicName record.sourceTopic
  if Base64.decode .std record.recordKeyBase64 = none
    then throw (invalidMessage "invalid recordKeyBase64")
  if Base64.decode .std record.originalBase64 = none
    then throw (invalidMessage "invalid originalBase64")

def marshalDLQRecord (record : DLQRecord) : Option Value :=
    (writeFields record dlqFields).map object

def boundDLQRecord (value : Option Value) : Except GoError Bytes :=
  match value with
  | none => .error (.wrap "messenger/kafka: encode DLQ record" (.text "encoding/json"))
  | some value =>
    if defaultMaxDLQRecordBytes < value.text.length then
      .error (invalidMessage "Kafka DLQ record exceeds its limit")
    else .ok value.text

def encodeDLQRecord (record : DLQRecord) : Except GoError Bytes := do
  validateDLQRecord record
  boundDLQRecord (marshalDLQRecord record)

/-- The checks after the record is read; the second reading finds the types that
the first one has accepted. -/
def checkDLQRecord (value : Value) (record : DLQRecord) : Except GoError DLQRecord := do
  if holdsMember value (ofString "sourcePartition") = false ∨
      holdsMember value (ofString "sourceOffset") = false then
    throw (invalidMessage "missing Kafka DLQ source position")
  if holdsMember value (ofString "recordKeyBase64") = false ∨
      holdsMember value (ofString "originalBase64") = false then
    throw (invalidMessage "missing Kafka DLQ original data")
  validateDLQRecord record
  return record

def decodeDLQRecord (data : Bytes) : Except GoError DLQRecord :=
  if data = [] ∨ defaultMaxDLQRecordBytes < data.length then
    .error (invalidMessage "invalid Kafka DLQ record size")
  else match parseDocument maxNestingDepth data with
    | none => .error (invalidMessageBy "decode Kafka DLQ record" "encoding/json")
    | some value =>
      match readRecord dlqFields .zero value with
      | none => .error (invalidMessageBy "decode Kafka DLQ record" "encoding/json")
      | some record => checkDLQRecord value record

section ReadBack

/-- The record that an encoded dead letter is read back as. -/
def DLQRecord.readBack (record : DLQRecord) : DLQRecord where
  specVersion := coerce record.specVersion
  consumerID := coerce record.consumerID
  sourceTopic := coerce record.sourceTopic
  sourcePartition := record.sourcePartition
  sourceOffset := record.sourceOffset
  recordKeyBase64 := coerce record.recordKeyBase64
  originalBase64 := coerce record.originalBase64
  messageID := coerce record.messageID
  attempt := record.attempt
  attemptGeneration := coerce record.attemptGeneration
  failureKind := coerce record.failureKind
  error := coerce record.error
  failedAt := record.failedAt

def DLQRecord.readFirst (count : Nat) (record : DLQRecord) : DLQRecord :=
  let read := record.readBack
  { specVersion := if 0 < count then read.specVersion else []
    consumerID := if 1 < count then read.consumerID else []
    sourceTopic := if 2 < count then read.sourceTopic else []
    sourcePartition := if 3 < count then read.sourcePartition else 0
    sourceOffset := if 4 < count then read.sourceOffset else 0
    recordKeyBase64 := if 5 < count then read.recordKeyBase64 else []
    originalBase64 := if 6 < count then read.originalBase64 else []
    messageID := if 7 < count then read.messageID else []
    attempt := if 8 < count then read.attempt else 0
    attemptGeneration := if 9 < count then read.attemptGeneration else []
    failureKind := if 10 < count then read.failureKind else []
    error := if 11 < count then read.error else []
    failedAt := if 12 < count then read.failedAt else .zero }

variable {record : DLQRecord} {members : List (Bytes × Value)}

theorem carries_dlqReadBack
    (writes : writeFields record dlqFields = some members)
    (whole : record.failedAt.offset % 60 = 0) :
    Carries record dlqFields .zero record.readBack := by
  have written := Json.writeFields_isSome record dlqFields members writes
  simp only [dlqFields, List.forall_mem_cons] at written
  obtain ⟨_, _, _, partition, offset, _, _, _, attempt, _, _, _, failedAt, _⟩ := written
  refine .cons (record.readFirst 1) (RecordField.string_carry _ _ _ _ _ _ rfl) ?_
  refine .cons (record.readFirst 2) (RecordField.string_carry _ _ _ _ _ _ rfl) ?_
  refine .cons (record.readFirst 3) (RecordField.string_carry _ _ _ _ _ _ rfl) ?_
  refine .cons (record.readFirst 4)
    (RecordField.custom_carry _ _ _ _ _ _ _ _ record.sourcePartition partition
      (fun left => by cases left) ?_) ?_
  · rintro spelt _ encoded
    rw [← Option.some.inj encoded]
    exact Json.decodeInt32_encode _ _
  refine .cons (record.readFirst 5)
    (RecordField.custom_carry _ _ _ _ _ _ _ _ record.sourceOffset offset
      (fun left => by cases left) ?_) ?_
  · rintro spelt _ encoded
    rw [← Option.some.inj encoded]
    exact Messenger.decodeInt_encode _ _
  refine .cons (record.readFirst 6) (RecordField.string_carry _ _ _ _ _ _ rfl) ?_
  refine .cons (record.readFirst 7) (RecordField.string_carry _ _ _ _ _ _ rfl) ?_
  refine .cons (record.readFirst 8) (RecordField.string_carry _ _ _ _ _ _ rfl) ?_
  refine .cons (record.readFirst 9)
    (RecordField.custom_carry _ _ _ _ _ _ _ _ record.attempt attempt (fun left => by cases left) ?_)
      ?_
  · rintro spelt _ encoded
    rw [← Option.some.inj encoded]
    exact Json.decodeUint_encode _ _
  refine .cons (record.readFirst 10) (RecordField.string_carry _ _ _ _ _ _ rfl) ?_
  refine .cons (record.readFirst 11) (RecordField.string_carry _ _ _ _ _ _ rfl) ?_
  refine .cons (record.readFirst 12) (RecordField.string_carry _ _ _ _ _ _ rfl) ?_
  refine .cons (record.readFirst 13)
    (RecordField.custom_carry _ _ _ _ _ _ _ _ record.failedAt failedAt
      (fun left => by cases left) ?_) ?_
  · rintro spelt _ encoded
    exact Messenger.decodeTime_zoned whole encoded _
  exact .nil _

theorem dlqFields_distinct : (dlqFields.map (fun field => Utf8.foldCase field.name)).Nodup := by
  decide +kernel

theorem dlqFields_valid : ∀ field ∈ dlqFields, Valid field.name := by
  have names : ∀ name ∈ dlqFields.map RecordField.name, Valid name := by decide +kernel
  exact fun field member => names field.name (List.mem_map_of_mem member)

theorem dlqFields_flat (record : DLQRecord) : ∀ field ∈ dlqFields, ∀ value,
    field.write record = some (some value) → value.depth = 0 := by
  simp only [dlqFields, List.forall_mem_cons]
  refine ⟨RecordField.string_flat _ _ _ _ _, RecordField.string_flat _ _ _ _ _,
    RecordField.string_flat _ _ _ _ _, ?_, ?_, RecordField.string_flat _ _ _ _ _,
    RecordField.string_flat _ _ _ _ _, RecordField.string_flat _ _ _ _ _, ?_,
    RecordField.string_flat _ _ _ _ _, RecordField.string_flat _ _ _ _ _,
    RecordField.string_flat _ _ _ _ _, ?_, nofun⟩
  · intro value written
    rw [← Option.some.inj (RecordField.custom_written written).2]
    rfl
  · intro value written
    rw [← Option.some.inj (RecordField.custom_written written).2]
    rfl
  · intro value written
    rw [← Option.some.inj (RecordField.custom_written written).2]
    rfl
  · intro value written
    obtain ⟨text, _, rfl⟩ := Option.map_eq_some_iff.mp (RecordField.custom_written written).2
    rfl

theorem dlqRequired_written (writes : writeFields record dlqFields = some members) :
    holdsMember (object members) (ofString "sourcePartition") = true ∧
      holdsMember (object members) (ofString "sourceOffset") = true ∧
      holdsMember (object members) (ofString "recordKeyBase64") = true ∧
      holdsMember (object members) (ofString "originalBase64") = true := by
  have held := @Json.holdsMember_written _ dlqFields record members
    dlqFields_distinct dlqFields_valid writes
  refine ⟨held (List.getElem_mem (n := 3) (by decide)) rfl (by simp),
    held (List.getElem_mem (n := 4) (by decide))
    rfl (by simp), held (List.getElem_mem (n := 5) (by decide)) rfl (by simp),
    held (List.getElem_mem (n := 6) (by decide)) rfl (by simp)⟩

theorem boundDLQRecord_ok {data : Bytes} : boundDLQRecord (marshalDLQRecord record) = .ok data ↔
      ∃ members, writeFields record dlqFields = some members ∧ (object members).text = data ∧
        data.length ≤ defaultMaxDLQRecordBytes := by
  unfold boundDLQRecord marshalDLQRecord
  cases writeFields record dlqFields with
  | none => simp
  | some members =>
    simp only [Option.map_some, Option.some.injEq, exists_eq_left']
    split
    next large =>
      simp only [reduceCtorEq, false_iff, not_and, Nat.not_le]
      rintro rfl
      exact large
    next fits =>
      simp only [Except.ok.injEq]
      exact ⟨fun same => ⟨same, same ▸ Nat.not_lt.mp fits⟩, And.left⟩

theorem marshalDLQRecord_read
    (writes : writeFields record dlqFields = some members)
    (whole : record.failedAt.offset % 60 = 0) :
    parseDocument maxNestingDepth (object members).text = some (object members) ∧
      readRecord dlqFields .zero (object members) = some record.readBack := by
  have flat : (object members).depth ≤ 0 + 1 := by
    apply (Json.object_depth 0 members).mpr
    intro member inside
    obtain ⟨field, isField, _, written⟩ :=
      (Json.mem_writeFields record dlqFields members writes member).mp inside
    exact Nat.le_of_eq (dlqFields_flat record field isField member.2 written)
  constructor
  · exact Json.parseDocument_text _ _ (Nat.le_trans flat (by decide))
  · rw [Json.readRecord_writeFields dlqFields_distinct dlqFields_valid record .zero members writes]
    exact (carries_dlqReadBack writes whole).foldlM

theorem decodeDLQRecord_encode {data : Bytes} (encoded : encodeDLQRecord record = .ok data)
    (whole : record.failedAt.offset % 60 = 0) (found : DLQRecord) :
    decodeDLQRecord data = .ok found ↔ validateDLQRecord record.readBack = .ok () ∧
      found = record.readBack := by
  obtain ⟨_, _, bounded⟩ := bind_ok.mp encoded
  obtain ⟨members, writes, rfl, fits⟩ := boundDLQRecord_ok.mp bounded
  obtain ⟨parsed, read⟩ := marshalDLQRecord_read writes whole
  obtain ⟨partition, offset, key, original⟩ := dlqRequired_written writes
  have sized : ¬ ((object members).text = [] ∨ defaultMaxDLQRecordBytes <
      (object members).text.length) :=
    fun outside => outside.elim (Json.Value.text_ne_nil _) (Nat.not_lt.mpr fits)
  rw [decodeDLQRecord, if_neg sized, parsed]
  simp only [read, checkDLQRecord, partition, offset, key, original,
    Bool.true_eq_false, or_self, if_false]
  rw [bind_ok]
  constructor
  · rintro ⟨_, validated, same⟩
    exact ⟨validated, (Except.ok.inj same).symm⟩
  · rintro ⟨validated, rfl⟩
    exact ⟨(), validated, rfl⟩

end ReadBack

theorem dlqRecord_length {record : DLQRecord} {members : List (Bytes × Value)}
    (writes : writeFields record dlqFields = some members)
    (utc : record.failedAt.utc = record.failedAt)
    (key : record.recordKeyBase64.all Json.simpleByte = true)
    (original : record.originalBase64.all Json.simpleByte = true) :
    (object members).text.length ≤ 500 + 6 * (record.specVersion.length + record.consumerID.length +
      record.sourceTopic.length + record.messageID.length + record.attemptGeneration.length +
      record.failureKind.length + record.error.length) + record.recordKeyBase64.length +
      record.originalBase64.length := by
  have names : dlqFields.map (fun field => (Json.bodyText (Json.quote field.name)).length) =
      [11, 10, 11, 15, 12, 15, 14, 9, 7, 17, 11, 5, 8] := by decide +kernel
  have fields : List.Forall₂ (fun field bound =>
      field.writtenLength record ≤ (Json.bodyText (Json.quote field.name)).length + bound) dlqFields
      [6 * record.specVersion.length + 6, 6 * record.consumerID.length + 6,
        6 * record.sourceTopic.length + 6,
        21 + 4, 21 + 4, record.recordKeyBase64.length + 6, record.originalBase64.length + 6,
        6 * record.messageID.length + 6, 21 + 4, 6 * record.attemptGeneration.length + 6,
        6 * record.failureKind.length + 6, 6 * record.error.length + 6, 32 + 4] := by
    refine .cons (RecordField.string_length _ _ _ _ _) (.cons (RecordField.string_length _ _ _ _ _)
      (.cons (RecordField.string_length _ _ _ _ _)
        (.cons (RecordField.custom_length _ _ _ _ _ _ _ _ ?_)
      (.cons (RecordField.custom_length _ _ _ _ _ _ _ _ ?_)
        (.cons (RecordField.string_simple_length _ _ _ _ _ key)
      (.cons (RecordField.string_simple_length _ _ _ _ _ original)
        (.cons (RecordField.string_length _ _ _ _ _)
      (.cons (RecordField.custom_length _ _ _ _ _ _ _ _ ?_)
        (.cons (RecordField.string_length _ _ _ _ _)
      (.cons (RecordField.string_length _ _ _ _ _) (.cons (RecordField.string_length _ _ _ _ _)
      (.cons (RecordField.custom_length _ _ _ _ _ _ _ _ ?_) .nil))))))))))))
    · exact fun _ encoded => encodeInt32_length encoded
    · exact fun _ encoded => encodeInt_length encoded
    · exact fun _ encoded => encodeUint_length encoded
    · intro _ encoded
      rw [← utc] at encoded
      exact encodeTime_length encoded
  have total := Json.writeFields_bound writes fields
  rw [names] at total
  simp only [List.sum_cons, List.sum_nil] at total
  omega

section Made

theorem identifier_simple {text : Bytes} (identifier : text.all kafkaIdentifierByte = true) :
    text.all Json.simpleByte = true := by
  have simple : ∀ byte, kafkaIdentifierByte byte = true → Json.simpleByte byte = true := by
    apply forall_byte
    decide +kernel
  exact List.all_eq_true.mpr (fun byte member => simple byte
    (List.all_eq_true.mp identifier byte member))

theorem reasonText_facts (reason : Reason) :
    (reasonText reason).all Json.simpleByte = true ∧ reasonText reason ≠ [] ∧
      (reasonText reason).length ≤ 18 := by
  cases reason <;> decide

theorem failureText_facts (failure : Option Bytes) :
    Valid (failureText failure) ∧ failureText failure ≠ [] ∧
      (failureText failure).length ≤ 1024 := by
  have unspecified : Valid unspecifiedFailure ∧ unspecifiedFailure ≠ [] ∧
      unspecifiedFailure.length ≤ 1024 := by
    decide +kernel
  unfold failureText
  split
  · exact unspecified
  · split
    · exact unspecified
    next text filled =>
      have cut : truncate text 1024 = cutAt 1024 (toValidUTF8 (cutAt 1024 (trimSpace text))) :=
        if_neg (by decide)
      refine ⟨?_, filled, ?_⟩
      · rw [cut]
        exact valid_cutAt 1024 (valid_toValidUTF8 _)
      · rw [cut]
        exact cutAt_length 1024 _

variable {T : Type}

/-- What a consumer has no further use for: a record of one of its topics, with the
control metadata it was accepted with, or its own position where they were refused. -/
structure Rejected (consumer : Consumer T) where
  record : Record
  control : ControlMetadata
  messageID : Bytes
  attempt : UInt64
  reason : Reason
  failure : Option Bytes
  clock : Stamp
  onTopic : record.topic ∈ consumer.topics
  delivered : 0 ≤ record.partition.toInt ∧ 0 ≤ record.offset.toInt
  held : consumer.parseControl record = .ok control ∨ control = sourceControl record
  identified : messageID = [] ∨ ∃ id, messageID = messageIDString id
  attempted : attempt ≠ 0

/-- What it dead-letters, on a broker with the default limit and an ordinary clock. -/
structure Condemned (consumer : Consumer T) extends Rejected consumer where
  small : record.key.length + record.value.length ≤ defaultMaxSourceMessageBytes
  ordinary : clock.Ordinary

variable {consumer : Consumer T} (rejected : Rejected consumer) (condemned : Condemned consumer)

def Rejected.letter : DLQRecord :=
  makeDLQRecord consumer.config.consumerID rejected.record rejected.control
    rejected.messageID rejected.attempt
    (reasonText rejected.reason) rejected.failure rejected.clock

theorem Rejected.legal : rejected.control.Legal := by
  rcases rejected.held with accepted | own
  · exact parseControl_ok accepted (topicOf_named consumer.isSource) (fun _ => rejected.delivered)
  · have bare : trimmed [] = true := by decide
    rw [own]
    exact ⟨consumer.topics_named rejected.onTopic, rejected.delivered.1,
      rejected.delivered.2, bare, Nat.zero_le 128⟩

theorem Consumer.consumerID_facts (consumer : Consumer T) :
    validateConsumerID consumer.config.consumerID = .ok () ∧
      consumer.config.consumerID.all kafkaIdentifierByte = true ∧ consumer.config.consumerID ≠ [] ∧
      consumer.config.consumerID.length ≤ 249 := by
  have accepted := consumerTopic_consumer consumer.isDlq
  have short := (validateTopicName_ok (consumerTopic_named consumer.isDlq)).2
  rw [(consumerTopic_ok consumer.isDlq).2, List.length_append, List.length_append,
    List.length_append] at short
  refine ⟨accepted, ?_⟩
  unfold validateConsumerID validateKafkaToken at accepted
  split at accepted
  · cases accepted
  next filled =>
    split at accepted
    next identifier =>
      refine ⟨identifier, fun empty => filled (.inl empty), ?_⟩
      omega
    · cases accepted

theorem validateTopicName_bytes {topic : Bytes} (accepted : validateTopicName topic = .ok ()) :
    topic.all kafkaIdentifierByte = true := by
  unfold validateTopicName at accepted
  obtain ⟨_, identifier, _⟩ := bind_ok.mp accepted
  unfold validateKafkaIdentifier at identifier
  split at identifier
  · cases identifier
  · split at identifier
    next bytes => exact bytes
    · cases identifier

theorem Rejected.messageID_facts : rejected.messageID.all Json.simpleByte = true ∧
    rejected.messageID.length ≤ 36 := by
  rcases rejected.identified with empty | ⟨id, isID⟩
  · rw [empty]
    decide
  · rw [isID]
    refine ⟨Messenger.messageIDString_simple id, ?_⟩
    simp only [messageIDString, Messenger.Groups.text, List.length_append, List.length_cons,
      Messenger.hexPadded_length]
    omega

theorem validateDLQRecord_ok (record : DLQRecord) :
    validateDLQRecord record = .ok () ↔ record.complete = true ∧
      validateConsumerID record.consumerID = .ok () ∧
      validateTopicName record.sourceTopic = .ok () ∧
        Base64.decode .std record.recordKeyBase64 ≠ none ∧
      Base64.decode .std record.originalBase64 ≠ none := by
  unfold validateDLQRecord
  constructor
  · intro accepted
    obtain ⟨complete, accepted⟩ := check_ok.mp accepted
    obtain ⟨_, isConsumer, accepted⟩ := bind_ok.mp accepted
    obtain ⟨_, isTopic, accepted⟩ := bind_ok.mp accepted
    obtain ⟨key, accepted⟩ := check_ok.mp accepted
    refine ⟨Bool.not_eq_false _ ▸ complete, isConsumer, isTopic, key, ?_⟩
    intro missing
    rw [if_pos missing] at accepted
    exact absurd accepted (by simp [throw, throwThe, MonadExceptOf.throw])
  · rintro ⟨complete, isConsumer, isTopic, key, original⟩
    refine check_ok.mpr ⟨Bool.not_eq_false _ ▸ complete, bind_ok.mpr ⟨(), isConsumer, ?_⟩⟩
    refine bind_ok.mpr ⟨(), isTopic, check_ok.mpr ⟨key, ?_⟩⟩
    rw [if_neg original]
    rfl

theorem Condemned.validated (generation : Bytes) :
    validateDLQRecord { condemned.letter with attemptGeneration := generation } = .ok () ↔
      trimmed generation = true ∧ generation.length ≤ 128 := by
  have legal := condemned.legal
  obtain ⟨isConsumer, _, consumerFilled, _⟩ := consumer.consumerID_facts
  obtain ⟨_, failureFilled, failureShort⟩ := failureText_facts condemned.failure
  obtain ⟨_, reasonFilled, _⟩ := reasonText_facts condemned.reason
  have topicFilled := (validateTopicName_ok legal.topic).1
  have decodes : ∀ bytes, Base64.decode .std (Base64.encode .std bytes) ≠ none := by
    intro bytes
    rw [Base64.decode_encode]
    exact Option.some_ne_none bytes
  have complete : ({ condemned.letter with attemptGeneration := generation } : DLQRecord).complete =
      (trimmed generation && decide (generation.length ≤ 128)) := by
    simp [DLQRecord.complete, Rejected.letter, makeDLQRecord, legal.partition, legal.offset,
      condemned.ordinary.dated.2, failureShort, bne_iff_ne.mpr condemned.attempted,
      bne_iff_ne.mpr consumerFilled, bne_iff_ne.mpr topicFilled, bne_iff_ne.mpr failureFilled,
      bne_iff_ne.mpr reasonFilled]
  rw [validateDLQRecord_ok, complete, Bool.and_eq_true, decide_eq_true_eq]
  exact ⟨And.left, fun fits => ⟨fits, isConsumer, legal.topic, decodes _, decodes _⟩⟩

theorem Rejected.readBack : rejected.letter.readBack =
      { rejected.letter with attemptGeneration := coerce rejected.control.attemptGeneration } := by
  have legal := rejected.legal
  have consumerID := (Json.valid_simple (identifier_simple consumer.consumerID_facts.2.1)).coerce_eq
  have topic :=
    (Json.valid_simple (identifier_simple (validateTopicName_bytes legal.topic))).coerce_eq
  have key := (Json.valid_simple (base64_simple rejected.record.key)).coerce_eq
  have original := (Json.valid_simple (base64_simple rejected.record.value)).coerce_eq
  have messageID := (Json.valid_simple rejected.messageID_facts.1).coerce_eq
  have reason := (Json.valid_simple (reasonText_facts rejected.reason).1).coerce_eq
  have failure := (failureText_facts rejected.failure).1.coerce_eq
  have spec := (valid_ofString "1.0").coerce_eq
  simp only [DLQRecord.readBack, Rejected.letter, makeDLQRecord, dlqSpecVersion, consumerID, topic,
    key, original, messageID, reason, failure, spec]

/-- Every dead letter is encoded, within the limit. -/
theorem Condemned.encodes : ∃ data, encodeDLQRecord condemned.letter = .ok data := by
  have legal := condemned.legal
  obtain ⟨text, formatted⟩ := Option.isSome_iff_exists.mp condemned.ordinary.dated.1
  obtain ⟨members, writes⟩ : ∃ members, writeFields condemned.letter dlqFields = some members := by
    apply Json.writeFields_some
    simp only [dlqFields, List.forall_mem_cons]
    refine ⟨RecordField.string_some _ _ _ _ _, RecordField.string_some _ _ _ _ _,
      RecordField.string_some _ _ _ _ _, rfl, rfl, RecordField.string_some _ _ _ _ _,
      RecordField.string_some _ _ _ _ _, RecordField.string_some _ _ _ _ _, rfl,
      RecordField.string_some _ _ _ _ _, RecordField.string_some _ _ _ _ _,
      RecordField.string_some _ _ _ _ _, ?_, nofun⟩
    simp only [RecordField.custom, always, encodeTime, Rejected.letter, makeDLQRecord,
      formatted, Option.map_some]
    rfl
  have size := dlqRecord_length writes rfl (base64_simple _) (base64_simple _)
  have consumerShort := consumer.consumerID_facts.2.2.2
  have topicShort := (validateTopicName_ok legal.topic).2
  have idShort := condemned.messageID_facts.2
  have generationShort := legal.short
  have reasonShort := (reasonText_facts condemned.reason).2.2
  have failureShort := (failureText_facts condemned.failure).2.2
  have small := condemned.small
  have specShort : dlqSpecVersion.length = 3 := by decide
  simp only [Rejected.letter, makeDLQRecord, Base64.encode_length, specShort] at size
  have fits : (object members).text.length ≤ defaultMaxDLQRecordBytes := by
    simp only [defaultMaxDLQRecordBytes, defaultMaxSourceMessageBytes, defaultMaxEnvelopeBytes,
      defaultMaxHeaderBytes] at small ⊢
    omega
  refine ⟨_, bind_ok.mpr ⟨(), ?_, boundDLQRecord_ok.mpr ⟨members, writes, rfl, fits⟩⟩⟩
  exact (condemned.validated _).mpr ⟨legal.trimmed, legal.short⟩

/-- A dead letter whose generation is valid UTF-8 is read back as it was made. -/
theorem Rejected.reads_back {data : Bytes} (encoded : encodeDLQRecord rejected.letter = .ok data)
    (valid : Valid rejected.control.attemptGeneration) :
    data.length ≤ defaultMaxDLQRecordBytes ∧ decodeDLQRecord data = .ok rejected.letter := by
  obtain ⟨_, validated, bounded⟩ := bind_ok.mp encoded
  obtain ⟨_, _, _, fits⟩ := boundDLQRecord_ok.mp bounded
  refine ⟨fits, (decodeDLQRecord_encode encoded rfl _).mpr ?_⟩
  rw [rejected.readBack, valid.coerce_eq]
  exact ⟨validated, rfl⟩

/-- A dead letter is encoded within the limit and read back as it was made
exactly where its attempt generation is valid UTF-8. -/
theorem dead_letter_reads_back_iff (consumer : Consumer T) (condemned : Condemned consumer) :
    (∃ data, encodeDLQRecord condemned.letter = .ok data ∧ data.length ≤ defaultMaxDLQRecordBytes ∧
      decodeDLQRecord data = .ok condemned.letter) ↔ Valid condemned.control.attemptGeneration := by
  constructor
  · rintro ⟨data, encoded, _, decoded⟩
    have read := (decodeDLQRecord_encode encoded rfl _).mp decoded
    rw [condemned.readBack] at read
    have same := congrArg DLQRecord.attemptGeneration read.2
    exact (coerce_eq_iff _).mp same.symm
  · intro valid
    obtain ⟨data, encoded⟩ := condemned.encodes
    exact ⟨data, encoded, condemned.reads_back encoded valid⟩

def retriedRecord (generation : Bytes) : Record where
  topic := ofString "shop.event.order.v1.gm.mail.retry.t0"
  partition := 0
  offset := 9
  key := []
  value := []
  headers := [⟨headerSourceTopic, ofString "shop.event.order.v1"⟩,
    ⟨headerSourcePartition, ofString "3"⟩, ⟨headerSourceOffset, ofString "41"⟩,
    ⟨headerAttempt, ofString "1"⟩, ⟨headerAttemptGeneration, generation⟩]
  timestamp := .zero

def retriedControl (generation : Bytes) : ControlMetadata :=
  ⟨⟨ofString "shop.event.order.v1", 3, 41⟩, 1, .zero, generation⟩

def retriedCondemned (generation : Bytes)
    (accepted : sampleConsumer.parseControl (retriedRecord generation) =
      .ok (retriedControl generation)) : Condemned sampleConsumer where
  record := retriedRecord generation
  control := retriedControl generation
  messageID := []
  attempt := 1
  reason := .decode
  failure := none
  clock := ⟨63840000000000000000, 0⟩
  onTopic := by
    change ofString "shop.event.order.v1.gm.mail.retry.t0" ∈ sampleConsumer.topics
    decide +kernel
  delivered := by
    change 0 ≤ (0 : Int32).toInt ∧ 0 ≤ (9 : Int64).toInt
    decide
  small := by
    change ([] : Bytes).length + ([] : Bytes).length ≤ defaultMaxSourceMessageBytes
    decide
  held := .inl accepted
  identified := .inl rfl
  attempted := by decide
  ordinary := sampleClock_ordinary

def replayGeneration : Bytes := ofString "replay:7f3a"

theorem replayGeneration_accepted :
    sampleConsumer.parseControl (retriedRecord replayGeneration) =
      .ok (retriedControl replayGeneration) := by
  decide +kernel

theorem dead_letter_reads_back_iff_replayed :
    let condemned := retriedCondemned replayGeneration replayGeneration_accepted
    condemned.letter.attemptGeneration ≠ [] ∧
      ∃ data, encodeDLQRecord condemned.letter = .ok data ∧
        data.length ≤ defaultMaxDLQRecordBytes ∧ decodeDLQRecord data = .ok condemned.letter := by
  intro condemned
  refine ⟨by decide +kernel, (dead_letter_reads_back_iff sampleConsumer condemned).mpr ?_⟩
  change Valid replayGeneration
  decide +kernel

/-- Bytes that stand in no UTF-8 text, as many as a legal generation that is
too long with each of them replaced. -/
def strayGeneration : Bytes := List.replicate 43 0xff

theorem strayGeneration_accepted :
    sampleConsumer.parseControl (retriedRecord strayGeneration) =
      .ok (retriedControl strayGeneration) := by
  decide +kernel

/-- The consumer accepts the generation and writes a dead letter that nobody can
read. -/
theorem stray_generation_is_unreadable :
    ∃ accepted : sampleConsumer.parseControl (retriedRecord strayGeneration) =
        .ok (retriedControl strayGeneration),
      ∃ data, encodeDLQRecord (retriedCondemned strayGeneration accepted).letter = .ok data ∧
        ∀ found, decodeDLQRecord data ≠ .ok found := by
  let condemned := retriedCondemned strayGeneration strayGeneration_accepted
  obtain ⟨data, encoded⟩ := condemned.encodes
  refine ⟨strayGeneration_accepted, data, encoded, ?_⟩
  intro found decoded
  have read := (decodeDLQRecord_encode encoded rfl found).mp decoded
  rw [condemned.readBack] at read
  have short := ((condemned.validated _).mp read.1).2
  have long : (coerce strayGeneration).length = 129 := by decide +kernel
  have same : condemned.control.attemptGeneration = strayGeneration := rfl
  rw [same, long] at short
  exact absurd short (by decide)

end Made

end Gomessenger.KafkaWire
