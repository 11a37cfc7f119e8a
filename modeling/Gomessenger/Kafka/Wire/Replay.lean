import Gomessenger.Kafka.Wire.DeadLetter
import Gomessenger.Kafka.Wire.Hops

/-! Replaying Kafka dead letters: the plan, the protected record, and what the
consumer makes of it. -/

namespace Gomessenger.KafkaWire

open Utf8 Rfc3339 Fallible
open Inbox (Sha256)
open Json (RecordField Value writeFields readRecord object parseDocument)
open Messenger (Envelope Metadata invalidMessage canonicalizeEnvelope
  unmarshalEnvelope messageIDString
  replayIDPrefix LegalGeneration CollisionFree TailDigest maxNestingDepth)

structure ReplayPlan where
  topic : Bytes
  messageID : Bytes
  inputSHA256 : Bytes
  replayID : Bytes

def decodeBase64 (message : String) (text : Bytes) : Except GoError Bytes :=
  match Base64.decode .std text with
  | none => .error (invalidMessage message)
  | some bytes => .ok bytes

section Plan

variable (F : Type) [Sha256 F] (urlParse : Bytes → Bool)

def sha256Hex (data : Bytes) : Bytes := Hex.encode (Sha256.bytes (Sha256.sum data : F))

def newReplayID (record : DLQRecord) : Except GoError Bytes := do
  validateDLQRecord record
  match marshalDLQRecord record with
  | none => throw (.text "encoding/json")
  | some value => return replayIDPrefix ++ sha256Hex F value.text

def planDLQReplay (record : DLQRecord) : Except GoError ReplayPlan := do
  validateDLQRecord record
  let original ← decodeBase64 "invalid originalBase64" record.originalBase64
  let canonical ← canonicalizeEnvelope urlParse original
  let envelope ← unmarshalEnvelope urlParse canonical
  if record.messageID ≠ [] ∧ record.messageID ≠ messageIDString envelope.id then
    throw (invalidMessage "Kafka DLQ message identity conflict")
  let key ← decodeBase64 "invalid recordKeyBase64" record.recordKeyBase64
  validateRecordKey key envelope.metadata
  sourceTopicMatchesMetadata record.sourceTopic envelope.metadata
  let topic ← replayTopic record.sourceTopic record.consumerID
  let replayID ← newReplayID F record
  return ⟨topic, messageIDString envelope.id, sha256Hex F original, replayID⟩

/-- The record that `ReplayDLQ` hands to the publisher. -/
def replayRecord (record : DLQRecord) (plan : ReplayPlan) : Record where
  topic := plan.topic
  partition := 0
  offset := 0
  key := (Base64.decode .std record.recordKeyBase64).getD []
  value := (Base64.decode .std record.originalBase64).getD []
  headers := controlHeaders ⟨⟨record.sourceTopic, record.sourcePartition, record.sourceOffset⟩,
    0, .zero, plan.replayID⟩
  timestamp := .zero

def protectedTopic : GoError := invalidMessage "protected Kafka replay topic"

def replayConsumer (topic sourceTopic : Bytes) : Except GoError Bytes :=
  if (sourceTopic ++ serviceMarker).isPrefixOf topic = false ∨
      (ofString ".replay").isSuffixOf topic = false then
    .error protectedTopic
  else
    let rest := topic.drop (sourceTopic ++ serviceMarker).length
    .ok (if (ofString ".replay").isSuffixOf rest
      then rest.take (rest.length - (ofString ".replay").length) else rest)

def validateProtectedReplayRecord (record : Record) : Except GoError Bytes := do
  let control ← (decodeControlHeaders record.headers).mapError
    (fun _ => invalidMessage "protected Kafka replay headers")
  if replayIDPrefix.isPrefixOf control.attemptGeneration = false then
    throw (invalidMessage "protected Kafka replay headers")
  let consumerID ← replayConsumer record.topic control.source.topic
  if replayTopic control.source.topic consumerID ≠ .ok record.topic then throw protectedTopic
  let canonical ← canonicalizeEnvelope urlParse record.value
  let envelope ← unmarshalEnvelope urlParse canonical
  sourceTopicMatchesMetadata control.source.topic envelope.metadata
  validateRecordKey record.key envelope.metadata
  return canonical

def newReplayRecord (record : Record) (canonical : Bytes) (partition : Int32)
    (offset : Int64) (timestamp : Stamp) :
    Record where
  topic := record.topic
  partition := partition
  offset := offset
  key := record.key
  value := canonical
  headers := record.headers
  timestamp := timestamp

end Plan

/-- What `DecodeDLQRecord` hands out: valid texts, and a time whose zone is in
whole minutes. -/
structure DLQRecord.Clean (record : DLQRecord) : Prop where
  specVersion : Valid record.specVersion
  consumerID : Valid record.consumerID
  sourceTopic : Valid record.sourceTopic
  recordKeyBase64 : Valid record.recordKeyBase64
  originalBase64 : Valid record.originalBase64
  messageID : Valid record.messageID
  attemptGeneration : Valid record.attemptGeneration
  failureKind : Valid record.failureKind
  error : Valid record.error
  whole : record.failedAt.offset % 60 = 0

theorem DLQRecord.Clean.readBack {record : DLQRecord} (clean : record.Clean) :
    record.readBack = record := by
  simp only [DLQRecord.readBack, clean.specVersion.coerce_eq, clean.consumerID.coerce_eq,
    clean.sourceTopic.coerce_eq,
    clean.recordKeyBase64.coerce_eq, clean.originalBase64.coerce_eq, clean.messageID.coerce_eq,
    clean.attemptGeneration.coerce_eq, clean.failureKind.coerce_eq, clean.error.coerce_eq]

def KeepsClean (field : RecordField DLQRecord) : Prop :=
  ∀ value record result, record.Clean → field.read value record = some result → result.Clean

theorem keepsClean_string (name : Bytes) (omitEmpty : Bool) (get : DLQRecord → Bytes)
    (set : Bytes → DLQRecord → DLQRecord) (keeps : ∀ text record,
      Valid text → record.Clean → (set text record).Clean) :
    KeepsClean (.string name omitEmpty get set) := by
  intro value record result clean reads
  rcases RecordField.string_read reads with rfl | ⟨text, valid, rfl⟩
  · exact clean
  · exact keeps text record valid clean

theorem dlqFields_clean : ∀ field ∈ dlqFields, KeepsClean field := by
  simp only [dlqFields, List.forall_mem_cons]
  refine ⟨keepsClean_string _ _ _ _ (fun _ _ valid clean => { clean with specVersion := valid }),
    keepsClean_string _ _ _ _ (fun _ _ valid clean => { clean with consumerID := valid }),
    keepsClean_string _ _ _ _ (fun _ _ valid clean => { clean with sourceTopic := valid }), ?_, ?_,
    keepsClean_string _ _ _ _ (fun _ _ valid clean => { clean with recordKeyBase64 := valid }),
    keepsClean_string _ _ _ _ (fun _ _ valid clean => { clean with originalBase64 := valid }),
    keepsClean_string _ _ _ _ (fun _ _ valid clean => { clean with messageID := valid }), ?_,
    keepsClean_string _ _ _ _ (fun _ _ valid clean => { clean with attemptGeneration := valid }),
    keepsClean_string _ _ _ _ (fun _ _ valid clean => { clean with failureKind := valid }),
    keepsClean_string _ _ _ _ (fun _ _ valid clean => { clean with error := valid }), ?_,
    fun _ member => absurd member List.not_mem_nil⟩
  · intro value record result clean reads
    obtain ⟨_, _, rfl⟩ := RecordField.custom_read reads
    exact { clean with }
  · intro value record result clean reads
    obtain ⟨_, _, rfl⟩ := RecordField.custom_read reads
    exact { clean with }
  · intro value record result clean reads
    obtain ⟨_, _, rfl⟩ := RecordField.custom_read reads
    exact { clean with }
  · intro value record result clean reads
    obtain ⟨_, decoded, rfl⟩ := RecordField.custom_read reads
    exact { clean with whole := Messenger.decodeTime_whole decoded clean.whole }

theorem decodeDLQRecord_clean {data : Bytes} {record : DLQRecord}
    (decoded : decodeDLQRecord data = .ok record) :
    record.Clean := by
  unfold decodeDLQRecord at decoded
  split at decoded
  · cases decoded
  · split at decoded
    · cases decoded
    next value parsed =>
      split at decoded
      · cases decoded
      next found reads =>
        have same : found = record := by
          unfold checkDLQRecord at decoded
          obtain ⟨_, decoded⟩ := check_ok.mp decoded
          obtain ⟨_, decoded⟩ := check_ok.mp decoded
          obtain ⟨_, _, decoded⟩ := bind_ok.mp decoded
          exact Except.ok.inj decoded
        have blank : DLQRecord.zero.Clean :=
          ⟨valid_nil, valid_nil, valid_nil, valid_nil, valid_nil, valid_nil, valid_nil,
            valid_nil, valid_nil, rfl⟩
        rw [← same]
        exact Json.readRecord_invariant (fun field member value record result _ clean reads =>
          dlqFields_clean field member value record result clean reads)
          (Nat.le_trans (Json.parseDocument_depth parsed) (Nat.le_succ _)) blank reads

theorem marshalDLQRecord_injective {left right : DLQRecord} {leftValue rightValue : Value}
    (leftClean : left.Clean)
    (rightClean : right.Clean) (isLeft : marshalDLQRecord left = some leftValue)
    (isRight : marshalDLQRecord right = some rightValue)
    (same : leftValue.text = rightValue.text) : left = right := by
  obtain ⟨leftMembers, leftWrites, rfl⟩ := Option.map_eq_some_iff.mp isLeft
  obtain ⟨rightMembers, rightWrites, rfl⟩ := Option.map_eq_some_iff.mp isRight
  obtain ⟨leftParsed, leftRead⟩ := marshalDLQRecord_read leftWrites leftClean.whole
  obtain ⟨rightParsed, rightRead⟩ := marshalDLQRecord_read rightWrites rightClean.whole
  rw [same, rightParsed] at leftParsed
  rw [← Option.some.inj leftParsed, rightRead] at leftRead
  rw [← leftClean.readBack, ← rightClean.readBack]
  exact (Option.some.inj leftRead).symm

section Compose

variable {F : Type} [Sha256 F] {urlParse : Bytes → Bool} {T : Type} {consumer : Consumer T}
  {rejected : Rejected consumer} {envelope : Envelope} {decoded : DecodedMessage T}

theorem decodeBase64_encode (message : String) (bytes : Bytes) :
    decodeBase64 message (Base64.encode .std bytes) = .ok bytes := by
  rw [decodeBase64, Base64.decode_encode]

variable {record : DLQRecord} {replayID : Bytes}

theorem newReplayID_ok : newReplayID F record = .ok replayID ↔ validateDLQRecord record = .ok () ∧
      ∃ value, marshalDLQRecord record = some value ∧ replayID = replayIDPrefix ++
        sha256Hex F value.text := by
  unfold newReplayID
  rw [bind_ok]
  constructor
  · rintro ⟨_, checked, written⟩
    split at written
    · exact absurd written (by simp [throw, throwThe, MonadExceptOf.throw])
    next value marshalled => exact ⟨checked, value, marshalled, (Except.ok.inj written).symm⟩
  · rintro ⟨checked, value, marshalled, rfl⟩
    refine ⟨(), checked, ?_⟩
    rw [marshalled]
    rfl

theorem newReplayID_encoded {data : Bytes} (encoded : encodeDLQRecord record = .ok data) :
    ∃ replayID, newReplayID F record = .ok replayID := by
  obtain ⟨_, checked, bounded⟩ := bind_ok.mp encoded
  obtain ⟨members, writes, _, _⟩ := boundDLQRecord_ok.mp bounded
  have marshalled : marshalDLQRecord record = some (object members) := by
    rw [marshalDLQRecord, writes]
    rfl
  exact ⟨_, newReplayID_ok.mpr ⟨checked, _, marshalled, rfl⟩⟩

variable {control : ControlMetadata}

theorem Readable.matches {record : Record} {found : Envelope}
    (readable : Readable urlParse consumer record control envelope)
    (metadata : found.metadata = envelope.metadata.utc) :
    sourceTopicMatchesMetadata control.source.topic found.metadata = .ok () := by
  have described := readable.described
  unfold validateEnvelopeDescriptor at described
  split at described
  · cases described
  next same =>
    simp only [not_or, ne_eq, not_not] at same
    rw [readable.source, metadata]
    have kind : envelope.metadata.utc.kind = consumer.descriptor.info.kind := same.1
    have name : envelope.metadata.utc.name = consumer.descriptor.info.name := same.2.1
    have version : envelope.metadata.utc.schemaVersion = consumer.descriptor.info.schemaVersion :=
      same.2.2.1
    apply @sourceTopicMatchesMetadata_ok consumer.config.namespaceName
    rw [kind, name, version]
    exact consumer.isSource

theorem Rejected.planned {data : Bytes} (encoded : encodeDLQRecord rejected.letter = .ok data)
    (readable : Readable urlParse consumer rejected.record rejected.control envelope)
    (isDecoded : decode urlParse consumer envelope = .ok decoded)
    (identified : rejected.messageID = messageIDString envelope.id)
    (isReplayID : newReplayID F rejected.letter = .ok replayID) :
    ∃ plan, planDLQReplay F urlParse rejected.letter = .ok plan ∧
      plan.topic = consumer.replayTopic ∧
      plan.replayID = replayID := by
  obtain ⟨_, checked, _⟩ := bind_ok.mp encoded
  have canonical := readable.canonical isDecoded
  obtain ⟨_, found, isFound, metadata, _⟩ :=
    Messenger.canonicalizeEnvelope_again readable.isEnvelope canonical
  have sameID : found.id = envelope.id := by
    have same := congrArg Metadata.id metadata
    exact same
  have keyed : validateRecordKey rejected.record.key found.metadata = .ok () := by
    rw [metadata]
    exact readable.keyed
  have isTopic : replayTopic rejected.control.source.topic consumer.config.consumerID =
      .ok consumer.replayTopic := by
    rw [readable.source]
    exact consumer.isReplay
  refine ⟨⟨consumer.replayTopic, messageIDString found.id, sha256Hex F rejected.record.value,
    replayID⟩, ?_, rfl, rfl⟩
  refine bind_ok.mpr ⟨(), checked, bind_ok.mpr ⟨_, decodeBase64_encode _ _, ?_⟩⟩
  refine bind_ok.mpr ⟨_, canonical, bind_ok.mpr ⟨found, isFound, check_ok.mpr ⟨?_, ?_⟩⟩⟩
  · rintro ⟨_, other⟩
    rw [sameID] at other
    exact other identified
  refine bind_ok.mpr ⟨_, decodeBase64_encode _ _, bind_ok.mpr ⟨(), keyed, ?_⟩⟩
  refine bind_ok.mpr ⟨(), readable.matches metadata,
    bind_ok.mpr ⟨_, isTopic, bind_ok.mpr ⟨_, isReplayID, rfl⟩⟩⟩

def Rejected.replayControl (rejected : Rejected consumer) (replayID : Bytes) : ControlMetadata :=
  ⟨rejected.control.source, 0, .zero, replayID⟩

theorem Rejected.replayControl_read (legal : LegalGeneration replayID) :
    decodeControlHeaders (controlHeaders (rejected.replayControl replayID)) =
      .ok (rejected.replayControl replayID) := by
  have held := rejected.legal
  have writable : (rejected.replayControl replayID).Writable :=
    ⟨⟨held.topic, held.partition, held.offset, legal.1, legal.2⟩, .inl rfl⟩
  exact decodeControlHeaders_written writable

theorem replayConsumer_ok (consumer : Consumer T) :
    replayConsumer consumer.replayTopic consumer.sourceTopic = .ok consumer.config.consumerID := by
  obtain ⟨_, spelt⟩ := consumerTopic_ok consumer.isReplay
  have ending : Dotted.dot :: ofString "replay" = ofString ".replay" := by decide
  rw [ending] at spelt
  have starts : (consumer.sourceTopic ++ serviceMarker).isPrefixOf consumer.replayTopic = true := by
    rw [spelt]
    exact List.isPrefixOf_iff_prefix.mpr (List.prefix_append _ _)
  have rest : consumer.replayTopic.drop (consumer.sourceTopic ++ serviceMarker).length =
      consumer.config.consumerID ++ ofString ".replay" := by
    rw [spelt, List.drop_left]
  have endsRest : (ofString ".replay").isSuffixOf (consumer.config.consumerID ++
      ofString ".replay") = true :=
    List.isSuffixOf_iff_suffix.mpr (List.suffix_append _ _)
  have ends : (ofString ".replay").isSuffixOf consumer.replayTopic = true := by
    rw [spelt]
    exact List.isSuffixOf_iff_suffix.mpr ((List.suffix_append _ _).trans (List.suffix_append _ _))
  simp only [replayConsumer, starts, ends, Bool.true_eq_false, or_self, if_false]
  rw [rest, if_pos endsRest, List.length_append, Nat.add_sub_cancel, List.take_left]

variable (plan : ReplayPlan)

theorem Rejected.replayRecord_eq (topic : plan.topic = consumer.replayTopic) :
    replayRecord rejected.letter plan = ⟨consumer.replayTopic, 0, 0,
      rejected.record.key, rejected.record.value,
        controlHeaders (rejected.replayControl plan.replayID), .zero⟩ := by
  simp only [replayRecord, Rejected.letter, makeDLQRecord, Base64.decode_encode,
    Option.getD_some, topic]
  rfl

theorem Rejected.protected_ok (topic : plan.topic = consumer.replayTopic)
    (legal : LegalGeneration plan.replayID)
    (marked : replayIDPrefix.isPrefixOf plan.replayID = true)
    (readable : Readable urlParse consumer rejected.record rejected.control envelope)
    (isDecoded : decode urlParse consumer envelope = .ok decoded) :
    validateProtectedReplayRecord urlParse (replayRecord rejected.letter plan) =
      .ok decoded.canonical := by
  have canonical := readable.canonical isDecoded
  obtain ⟨_, found, isFound, metadata, _⟩ :=
    Messenger.canonicalizeEnvelope_again readable.isEnvelope canonical
  have keyed : validateRecordKey rejected.record.key found.metadata = .ok () := by
    rw [metadata]
    exact readable.keyed
  have named : replayConsumer consumer.replayTopic rejected.control.source.topic =
      .ok consumer.config.consumerID := by
    rw [readable.source]
    exact replayConsumer_ok consumer
  have isTopic : replayTopic rejected.control.source.topic consumer.config.consumerID =
      .ok consumer.replayTopic := by
    rw [readable.source]
    exact consumer.isReplay
  have unmarked : ¬ replayIDPrefix.isPrefixOf plan.replayID = false := by
    rw [marked]
    decide
  have isControl :=
    congrArg (Except.mapError fun _ => invalidMessage "protected Kafka replay headers")
    (rejected.replayControl_read legal)
  rw [rejected.replayRecord_eq plan topic, validateProtectedReplayRecord]
  refine bind_ok.mpr ⟨_, isControl, check_ok.mpr ⟨unmarked,
    bind_ok.mpr ⟨_, named, check_ok.mpr ⟨?_, ?_⟩⟩⟩⟩
  · exact fun other => other isTopic
  refine bind_ok.mpr ⟨_, canonical, bind_ok.mpr ⟨found, isFound, ?_⟩⟩
  exact bind_ok.mpr ⟨(), readable.matches metadata, bind_ok.mpr ⟨(), keyed, rfl⟩⟩

/-- The consumer reads a replay as the message it replays, in a generation of its own. -/
theorem Rejected.replay_readable (topic : plan.topic = consumer.replayTopic)
    (legal : LegalGeneration plan.replayID)
    (marked : replayIDPrefix.isPrefixOf plan.replayID = true)
    (readable : Readable urlParse consumer rejected.record rejected.control envelope)
    (isDecoded : decode urlParse consumer envelope = .ok decoded) (partition : Int32)
    (offset : Int64) (timestamp : Stamp) :
    ∃ found, found.metadata = envelope.metadata.utc ∧ Readable urlParse consumer
        (newReplayRecord (replayRecord rejected.letter plan) decoded.canonical
          partition offset timestamp)
        (rejected.replayControl plan.replayID) found := by
  have canonical := readable.canonical isDecoded
  obtain ⟨_, found, isFound, metadata, encoding⟩ :=
    Messenger.canonicalizeEnvelope_again readable.isEnvelope canonical
  have offSource : consumer.replayTopic ≠ consumer.sourceTopic := by
    intro same
    have isSource := consumer.isSource
    have isService : serviceTopic consumer.sourceTopic consumer.config.consumerID .replay =
        .ok consumer.replayTopic :=
      consumer.isReplay
    rw [← same] at isSource
    exact serviceTopic_not_source isService isSource
  refine ⟨found, metadata, ?_, readable.source, isFound,
    validateEnvelopeDescriptor_again metadata encoding readable.described, ?_⟩
  · rw [rejected.replayRecord_eq plan topic]
    simp only [Consumer.parseControl, parseControl, newReplayRecord, offSource, if_false, if_true]
    refine bind_ok.mpr ⟨_, rejected.replayControl_read legal, check_ok.mpr ⟨?_, rfl⟩⟩
    rw [show (rejected.replayControl plan.replayID).attemptGeneration = plan.replayID from rfl,
      marked]
    decide
  · rw [rejected.replayRecord_eq plan topic, metadata]
    exact readable.keyed

theorem newReplayID_legal
    (digests : ∀ digest : F, (Sha256.bytes digest).length = 32)
    (isReplayID : newReplayID F record = .ok replayID) :
    LegalGeneration replayID ∧ replayIDPrefix.isPrefixOf replayID = true := by
  obtain ⟨_, value, _, rfl⟩ := newReplayID_ok.mp isReplayID
  exact ⟨Messenger.replayID_legal (digests _),
    List.isPrefixOf_iff_prefix.mpr (List.prefix_append _ _)⟩

theorem planDLQReplay_replayID {plan : ReplayPlan}
    (planned : planDLQReplay F urlParse record = .ok plan) :
    newReplayID F record = .ok plan.replayID := by
  unfold planDLQReplay at planned
  obtain ⟨_, _, planned⟩ := bind_ok.mp planned
  obtain ⟨_, _, planned⟩ := bind_ok.mp planned
  obtain ⟨_, _, planned⟩ := bind_ok.mp planned
  obtain ⟨_, _, planned⟩ := bind_ok.mp planned
  obtain ⟨_, planned⟩ := check_ok.mp planned
  obtain ⟨_, _, planned⟩ := bind_ok.mp planned
  obtain ⟨_, _, planned⟩ := bind_ok.mp planned
  obtain ⟨_, _, planned⟩ := bind_ok.mp planned
  obtain ⟨_, _, planned⟩ := bind_ok.mp planned
  obtain ⟨_, isReplayID, planned⟩ := bind_ok.mp planned
  rw [isReplayID, ← Except.ok.inj planned]

theorem prepareTimed_fresh {metadata : Metadata} {found : Envelope} {now : Stamp}
    (same : found.metadata = metadata.utc) (bare : control.notBefore = .zero)
    (fresh : expired metadata now = false) :
    prepareTimed now control found = .ready control found := by
  have expiresAt : found.expiresAt = metadata.expiresAt.utc := congrArg Metadata.expiresAt same
  have late : ¬ (metadata.expiresAt.utc.isZero = false ∧
      metadata.expiresAt.utc.nanos ≤ now.nanos) := by
    rintro ⟨set, reached⟩
    have gone : expired metadata now = true :=
      Bool.and_eq_true_iff.mpr ⟨(Bool.not_eq_true_eq_eq_false _).mpr set, decide_eq_true reached⟩
    exact absurd (gone.symm.trans fresh) (by decide)
  have due : retryDue control.notBefore found.expiresAt now = .ok .zero := by
    rw [bare, expiresAt, retryDue, if_neg late]
    rfl
  rw [prepareTimed, due]
  rfl

/-- Decoded records with one replay ID are one record. -/
theorem newReplayID_injective {hashed : Set Bytes} (collisionFree : CollisionFree F hashed)
    {left right : DLQRecord} (leftClean : left.Clean) (rightClean : right.Clean)
    (texts : ∀ record value, record = left ∨ record = right → marshalDLQRecord record = some value →
      value.text ∈ hashed)
    (isLeft : newReplayID F left = .ok replayID) (isRight : newReplayID F right = .ok replayID) :
    left = right := by
  obtain ⟨_, leftValue, leftMarshalled, isID⟩ := newReplayID_ok.mp isLeft
  obtain ⟨_, rightValue, rightMarshalled, rfl⟩ := newReplayID_ok.mp isRight
  have digest := Messenger.replayID_injective isID
  have text := collisionFree (texts right rightValue (.inr rfl) rightMarshalled)
    (texts left leftValue (.inl rfl) leftMarshalled) digest
  exact marshalDLQRecord_injective leftClean rightClean leftMarshalled rightMarshalled text.symm

/-- A message that was decoded and dead-lettered is planned, passes the check of the
protected topic and, unless it has expired, is made ready by its consumer at the
position, with the identity and with the canonical bytes it had, in the generation
of the plan; and no other dead letter starts that generation. -/
theorem replayed_letters_reach_their_consumer {F : Type} [Sha256 F] (urlParse : Bytes → Bool)
    {T : Type} (consumer : Consumer T) (rejected : Rejected consumer) (envelope : Envelope)
    (decoded : DecodedMessage T) (data : Bytes) (hashed : Set Bytes)
    (digests : ∀ digest : F, (Sha256.bytes digest).length = 32)
    (collisionFree : CollisionFree F hashed)
    (readable : Readable urlParse consumer rejected.record rejected.control envelope)
    (isDecoded : decode urlParse consumer envelope = .ok decoded)
    (identified : rejected.messageID = messageIDString envelope.id)
    (valid : Valid rejected.control.attemptGeneration)
    (encoded : encodeDLQRecord rejected.letter = .ok data) :
    (∃ letter plan, decodeDLQRecord data = .ok letter ∧ planDLQReplay F urlParse letter = .ok plan ∧
      LegalGeneration plan.replayID ∧
      validateProtectedReplayRecord urlParse (replayRecord letter plan) = .ok decoded.canonical ∧
      ∀ partition offset timestamp now, expired envelope.metadata now = false →
        ∃ found, prepareRecord urlParse consumer now
            (newReplayRecord (replayRecord letter plan) decoded.canonical
              partition offset timestamp) =
              .ready ⟨rejected.control.source, 0, .zero, plan.replayID⟩ found ∧
          found.metadata = envelope.metadata.utc ∧
          canonicalizeEnvelope urlParse decoded.canonical = .ok decoded.canonical ∧
          ∀ again, decode urlParse consumer found = .ok again →
            again.canonical = decoded.canonical) ∧
    (∀ record plan, planDLQReplay F urlParse record = .ok plan →
      newReplayID F record = .ok plan.replayID) ∧
    ∀ (left right : DLQRecord) (leftData rightData replayID : Bytes),
      decodeDLQRecord leftData = .ok left → decodeDLQRecord rightData = .ok right →
      (∀ record value, record = left ∨ record = right →
        marshalDLQRecord record = some value → value.text ∈ hashed) →
      newReplayID F left = .ok replayID → newReplayID F right = .ok replayID → left = right := by
  refine ⟨?_, fun _ _ planned => planDLQReplay_replayID planned, ?_⟩
  · obtain ⟨replayID, isReplayID⟩ := @newReplayID_encoded F _ _ _ encoded
    obtain ⟨legal, marked⟩ := newReplayID_legal digests isReplayID
    obtain ⟨plan, planned, topic, rfl⟩ :=
      rejected.planned encoded readable isDecoded identified isReplayID
    refine ⟨rejected.letter, plan, (rejected.reads_back encoded valid).2, planned, legal,
      rejected.protected_ok plan topic legal marked readable isDecoded, ?_⟩
    intro partition offset timestamp now fresh
    obtain ⟨found, metadata, readableAgain⟩ :=
      rejected.replay_readable plan topic legal marked readable isDecoded partition offset timestamp
    have stable :=
      (Messenger.canonicalizeEnvelope_again readable.isEnvelope (readable.canonical isDecoded)).1
    refine ⟨found, ?_, metadata, stable, ?_⟩
    · rw [readableAgain.prepared]
      exact prepareTimed_fresh metadata rfl fresh
    · intro again isAgain
      exact Except.ok.inj ((readableAgain.canonical isAgain).symm.trans stable)
  · intro left right leftData rightData replayID isLeft isRight texts leftID rightID
    exact newReplayID_injective collisionFree (decodeDLQRecord_clean isLeft)
      (decodeDLQRecord_clean isRight) texts
      leftID rightID

def sampleCondemned (id : MessageID) : Condemned sampleConsumer where
  record := sampleRecord
  control := sourceControl sampleRecord
  messageID := messageIDString id
  attempt := 3
  reason := .permanent
  failure := some (ofString "mailbox full")
  clock := ⟨63840000000000000000, 0⟩
  onTopic := by decide +kernel
  delivered := by decide
  held := .inr rfl
  identified := .inr ⟨id, rfl⟩
  attempted := by decide
  small := by decide +kernel
  ordinary := sampleClock_ordinary

def laterCondemned (id : MessageID) : Condemned sampleConsumer :=
  { sampleCondemned id with
    clock := ⟨63840000001000000000, 0⟩
    ordinary := by
      unfold Stamp.Ordinary
      decide +kernel }

def letterText (record : DLQRecord) : Option Bytes := (marshalDLQRecord record).map Value.text

/-- The texts of two dead letters of one message, a second apart. -/
def sampleTexts : Set Bytes :=
  {text | letterText (sampleCondemned 10).letter = some text ∨
    letterText (laterCondemned 10).letter = some text}

theorem sampleTexts_collisionFree : CollisionFree TailDigest sampleTexts := by
  have apart :
      (letterText (sampleCondemned 10).letter).map
          (fun text => Sha256.bytes (Sha256.sum text : TailDigest)) ≠
        (letterText (laterCondemned 10).letter).map
          (fun text => Sha256.bytes (Sha256.sum text : TailDigest)) := by
    decide +kernel
  intro left isLeft right isRight same
  rcases isLeft with isLeft | isLeft <;> rcases isRight with isRight | isRight
  · exact Option.some.inj (isLeft.symm.trans isRight)
  · rw [isLeft, isRight] at apart
    exact absurd (congrArg some same) apart
  · rw [isLeft, isRight] at apart
    exact absurd (congrArg some same.symm) apart
  · exact Option.some.inj (isLeft.symm.trans isRight)

theorem sampleRecord_id :
    (unmarshalEnvelope (fun _ => true) sampleRecord.value).toOption.map Envelope.id = some 10 := by
  decide +kernel

-- the later letter of the same message starts a generation of its own
theorem replayed_letters_reach_their_consumer_sample :
    ∃ (decoded : DecodedMessage Unit) (data otherData otherID : Bytes) (plan : ReplayPlan),
      encodeDLQRecord (sampleCondemned 10).letter = .ok data ∧
      decodeDLQRecord data = .ok (sampleCondemned 10).letter ∧
      planDLQReplay TailDigest (fun _ => true) (sampleCondemned 10).letter = .ok plan ∧
      validateProtectedReplayRecord (fun _ => true)
        (replayRecord (sampleCondemned 10).letter plan) = .ok decoded.canonical ∧
      decodeDLQRecord otherData = .ok (laterCondemned 10).letter ∧
      newReplayID TailDigest (laterCondemned 10).letter = .ok otherID ∧
      plan.replayID ≠ otherID := by
  obtain ⟨retry, hopped⟩ := exists_ok sampleTurn_hops
  obtain ⟨control, envelope, decoded, _, readable, isDecoded, _⟩ := hop_ok hopped
  have isID := sampleRecord_id
  rw [readable.isEnvelope] at isID
  obtain isID : envelope.id = 10 := Option.some.inj isID
  obtain ⟨data, encoded⟩ := (sampleCondemned 10).encodes
  obtain ⟨otherData, otherEncoded⟩ := (laterCondemned 10).encodes
  have isControl : sampleConsumer.parseControl sampleRecord = .ok (sourceControl sampleRecord) := by
    decide +kernel
  obtain rfl : sourceControl sampleRecord = control :=
    Except.ok.inj (isControl.symm.trans readable.isControl)
  obtain ⟨⟨letter, plan, isLetter, planned, _, isProtected, _⟩, planID, injective⟩ :=
    @replayed_letters_reach_their_consumer TailDigest _ (fun _ => true) Unit sampleConsumer
      (sampleCondemned 10).toRejected envelope decoded data sampleTexts
      (fun digest => digest.property) sampleTexts_collisionFree readable isDecoded
      (congrArg messageIDString isID.symm) valid_nil encoded
  have reads := ((sampleCondemned 10).toRejected.reads_back encoded valid_nil).2
  have otherReads := ((laterCondemned 10).toRejected.reads_back otherEncoded valid_nil).2
  obtain rfl : (sampleCondemned 10).letter = letter := Except.ok.inj (reads.symm.trans isLetter)
  obtain ⟨otherID, isOther⟩ := @newReplayID_encoded TailDigest _ _ _ otherEncoded
  refine ⟨decoded, data, otherData, otherID, plan, encoded, reads, planned, isProtected,
    otherReads, isOther, fun same => ?_⟩
  have letters : (sampleCondemned 10).letter = (laterCondemned 10).letter := by
    refine injective _ _ data otherData otherID reads otherReads ?_ (same ▸ planID _ _ planned)
      isOther
    rintro record value (rfl | rfl) marshalled
    · exact .inl (by rw [letterText, marshalled]; rfl)
    · exact .inr (by rw [letterText, marshalled]; rfl)
  exact absurd (congrArg DLQRecord.failedAt letters) (by decide +kernel)

end Compose

end Gomessenger.KafkaWire
