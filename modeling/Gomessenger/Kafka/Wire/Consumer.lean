import Gomessenger.Kafka.Consumer
import Gomessenger.Kafka.Wire.Control
import Gomessenger.Messenger.Descriptor

/-! The topics of a Kafka consumer, and what it makes of the bytes of a record
before its handler runs. -/

namespace Gomessenger.KafkaWire

open Utf8 Rfc3339 Fallible
open Kafka (Reason)
open Messenger (Descriptor DescriptorInfo Envelope Metadata invalidMessage errDescriptorConflict
  unmarshalEnvelope marshalEnvelope canonicalizeEnvelope messageIDString)

structure HandlerConfig where
  namespaceName : Bytes
  consumerID : Bytes
  retryTiers : List Duration

def defaultRetryTiers : List Duration := [1000000000, 10000000000, 60000000000, 300000000000]

def applyConsumerDefaults (config : HandlerConfig) : HandlerConfig :=
  if config.retryTiers = [] then { config with retryTiers := defaultRetryTiers } else config

def validateRetryTiersAfter : Duration → List Duration → Except GoError Unit
  | _, [] => .ok ()
  | previous, tier :: rest =>
    if tier ≤ previous then
      .error (invalidConfig "retry tiers must be positive and strictly increasing")
    else validateRetryTiersAfter tier rest

def validateRetryTiers (tiers : List Duration) : Except GoError Unit :=
    validateRetryTiersAfter 0 tiers

def retryTopicsOf (sourceTopic consumerID : Bytes) (tiers : List Duration) :
    Except GoError (List Bytes) :=
  (List.range tiers.length).mapM (fun index => retryTopic sourceTopic consumerID (.ofNat index))

structure Consumer (T : Type) where
  config : HandlerConfig
  descriptor : Descriptor T
  sourceTopic : Bytes
  retryTopics : List Bytes
  replayTopic : Bytes
  dlqTopic : Bytes
  tiered : config.retryTiers ≠ []
  isSource : topicOf config.namespaceName descriptor.info.kind descriptor.info.name
    descriptor.info.schemaVersion = .ok sourceTopic
  areRetries : retryTopicsOf sourceTopic config.consumerID config.retryTiers = .ok retryTopics
  isReplay : KafkaWire.replayTopic sourceTopic config.consumerID = .ok replayTopic
  isDlq : KafkaWire.dlqTopic sourceTopic config.consumerID = .ok dlqTopic

variable {T : Type}

def newConsumer (descriptor : Descriptor T) (given : HandlerConfig) : Except GoError (Consumer T) :=
  let config := applyConsumerDefaults given
  if outside : config.retryTiers = [] ∨ 16 < config.retryTiers.length then
    .error (invalidConfig "durable consumer")
  else do
    validateRetryTiers config.retryTiers
    let source ← known (topicOf config.namespaceName descriptor.info.kind descriptor.info.name
      descriptor.info.schemaVersion)
    let _ ← consumerGroup source.val config.consumerID
    let retries ← known (retryTopicsOf source.val config.consumerID config.retryTiers)
    let replay ← known (replayTopic source.val config.consumerID)
    let dlq ← known (dlqTopic source.val config.consumerID)
    return ⟨config, descriptor, source.val, retries.val, replay.val, dlq.val,
      fun empty => outside (.inl empty),
      source.property, retries.property, replay.property, dlq.property⟩

theorem Consumer.retryTopics_length (consumer : Consumer T) :
    consumer.retryTopics.length = consumer.config.retryTiers.length := by
  rw [← (mapM_ok consumer.areRetries).length_eq, List.length_range]

variable {topic : Bytes}

theorem Consumer.retry_service (consumer : Consumer T) (member : topic ∈ consumer.retryTopics) :
    ∃ tier : Nat, serviceTopic consumer.sourceTopic consumer.config.consumerID
      (.retry (.ofNat tier)) = .ok topic := by
  obtain ⟨index, found⟩ := List.mem_iff_getElem?.mp member
  have related := mapM_ok consumer.areRetries
  have same := related.length_eq
  obtain ⟨inside, isTopic⟩ := List.getElem?_eq_some_iff.mp found
  rw [List.forall₂_iff_get] at related
  have returned := related.2 index (same ▸ inside) inside
  rw [List.get_eq_getElem, List.get_eq_getElem, isTopic] at returned
  exact ⟨_, returned⟩

theorem Consumer.retry_apart (consumer : Consumer T) (member : topic ∈ consumer.retryTopics) :
    topic ≠ consumer.sourceTopic ∧ topic ≠ consumer.replayTopic := by
  obtain ⟨tier, isRetry⟩ := consumer.retry_service member
  have isReplay : serviceTopic consumer.sourceTopic consumer.config.consumerID .replay =
      .ok consumer.replayTopic := consumer.isReplay
  constructor
  · rintro rfl
    exact serviceTopic_not_source isRetry consumer.isSource
  · rintro rfl
    exact absurd (serviceTopic_parts isRetry isReplay).2.2 (by simp)

def Consumer.topics (consumer : Consumer T) : List Bytes :=
  consumer.sourceTopic :: (consumer.retryTopics ++ [consumer.replayTopic])

theorem Consumer.topics_named (consumer : Consumer T) (member : topic ∈ consumer.topics) :
    validateTopicName topic = .ok () := by
  rcases List.mem_cons.mp member with rfl | member
  · exact topicOf_named consumer.isSource
  rcases List.mem_append.mp member with retry | replay
  · obtain ⟨tier, isRetry⟩ := consumer.retry_service retry
    exact consumerTopic_named (serviceTopic_ok isRetry)
  · rw [List.mem_singleton.mp replay]
    exact consumerTopic_named consumer.isReplay

def Consumer.serviceTopics (consumer : Consumer T) : List Bytes :=
  consumer.dlqTopic :: consumer.replayTopic :: consumer.retryTopics

theorem Consumer.service_role (consumer : Consumer T) (member : topic ∈ consumer.serviceTopics) :
    ∃ role, serviceTopic consumer.sourceTopic consumer.config.consumerID role = .ok topic := by
  rcases List.mem_cons.mp member with rfl | member
  · exact ⟨.dlq, consumer.isDlq⟩
  rcases List.mem_cons.mp member with rfl | retry
  · exact ⟨.replay, consumer.isReplay⟩
  · obtain ⟨_, isRetry⟩ := consumer.retry_service retry
    exact ⟨_, isRetry⟩

/-- No consumer reads or dead-letters to a topic that is another's own. -/
theorem consumers_are_isolated {U : Type} (consumer : Consumer T) (other : Consumer U) :
    consumer.sourceTopic = other.sourceTopic ∧ consumer.config.consumerID =
      other.config.consumerID ∨
      consumer.serviceTopics.Disjoint (other.sourceTopic :: other.serviceTopics) := by
  refine or_iff_not_imp_left.mpr fun apart topic own others => ?_
  obtain ⟨_, isService⟩ := consumer.service_role own
  rcases List.mem_cons.mp others with rfl | service
  · exact serviceTopic_not_source isService other.isSource
  · obtain ⟨_, isOther⟩ := other.service_role service
    obtain ⟨sources, consumers, _⟩ := serviceTopic_parts isService isOther
    exact apart ⟨sources, consumers⟩

def reasonText : Reason → Bytes
  | .control => ofString "control"
  | .decode => ofString "decode"
  | .expired => ofString "expired"
  | .identityConflict => ofString "identity_conflict"
  | .attemptsExhausted => ofString "attempts_exhausted"
  | .permanent => ofString "permanent"
  | .unknown => ofString "unknown"

inductive PreparedRecord
  | failed (control : ControlMetadata) (failureKind : Reason) (failure : GoError)
    (attempt : UInt64) (messageID : Bytes)
  | deferred (control : ControlMetadata) (retryAt : Stamp)
  | ready (control : ControlMetadata) (envelope : Envelope)

def validateEnvelopeDescriptor (envelope : Envelope) (descriptor : DescriptorInfo) :
    Except GoError Unit :=
  if envelope.kind ≠ descriptor.kind ∨ envelope.name ≠ descriptor.name ∨
      envelope.schemaVersion ≠ descriptor.schemaVersion ∨
        envelope.contentType ≠ descriptor.contentType ∨
      envelope.dataEncoding ≠ descriptor.dataEncoding ∨ envelope.schema ≠ descriptor.schema then
    .error (.wrap "envelope does not match" errDescriptorConflict)
  else .ok ()

def retryDue (notBefore expiresAt now : Stamp) : Except GoError Stamp :=
  if expiresAt.isZero = false ∧ expiresAt.nanos ≤ now.nanos then .error Kafka.errMessageExpired
  else if notBefore.isZero = true ∨ notBefore.nanos ≤ now.nanos then .ok .zero
  else if expiresAt.isZero = false ∧ expiresAt.nanos ≤ notBefore.nanos
    then .error Kafka.errMessageExpired
  else .ok notBefore

def prepareTimed (now : Stamp) (control : ControlMetadata) (envelope : Envelope) : PreparedRecord :=
  match retryDue control.notBefore envelope.expiresAt now with
  | .error err => .failed control .expired err (max 1 control.attempt) (messageIDString envelope.id)
  | .ok retryAt => if retryAt.isZero then .ready control envelope else .deferred control retryAt

def prepareEnvelope (consumer : Consumer T) (now : Stamp) (record : Record)
    (control : ControlMetadata) (envelope : Envelope) : PreparedRecord :=
  match validateEnvelopeDescriptor envelope consumer.descriptor.info with
  | .error err => .failed control .decode err (max 1 control.attempt) (messageIDString envelope.id)
  | .ok _ =>
    match validateRecordKey record.key envelope.metadata with
    | .error err =>
      .failed control .identityConflict err (max 1 control.attempt) (messageIDString envelope.id)
    | .ok _ => prepareTimed now control envelope

def Consumer.parseControl (consumer : Consumer T) (record : Record) :
    Except GoError ControlMetadata :=
  KafkaWire.parseControl record consumer.sourceTopic consumer.replayTopic consumer.retryTopics

structure DecodedMessage (T : Type) where
  metadata : Metadata
  canonical : Bytes
  value : T

section Read

variable (urlParse : Bytes → Bool) (consumer : Consumer T)

def prepareRecord (now : Stamp) (record : Record) : PreparedRecord :=
  match consumer.parseControl record with
  | .error err => .failed (sourceControl record) .control err 1 []
  | .ok control =>
    if control.source.topic ≠ consumer.sourceTopic then
      .failed control .control (invalidMessage "source topic mismatch") (max 1 control.attempt) []
    else match unmarshalEnvelope urlParse record.value with
      | .error err => .failed control .decode err (max 1 control.attempt) []
      | .ok envelope => prepareEnvelope consumer now record control envelope

def decode (envelope : Envelope) : Except GoError (DecodedMessage T) := do
  let payload ← envelope.payload
  let canonical ← marshalEnvelope urlParse envelope.metadata payload envelope.dataEncoding
  let value ← consumer.descriptor.codec.decode payload
  return ⟨envelope.metadata, canonical, value⟩

structure Readable (record : Record) (control : ControlMetadata) (envelope : Envelope) : Prop where
  isControl : consumer.parseControl record = .ok control
  source : control.source.topic = consumer.sourceTopic
  isEnvelope : unmarshalEnvelope urlParse record.value = .ok envelope
  described : validateEnvelopeDescriptor envelope consumer.descriptor.info = .ok ()
  keyed : validateRecordKey record.key envelope.metadata = .ok ()

variable {urlParse} {consumer} {record : Record} {control : ControlMetadata} {envelope : Envelope}

theorem Readable.prepared (readable : Readable urlParse consumer record control envelope)
    (now : Stamp) :
    prepareRecord urlParse consumer now record = prepareTimed now control envelope := by
  simp only [prepareRecord, prepareEnvelope, readable.isControl, readable.source,
    readable.isEnvelope, readable.described, readable.keyed, ne_eq, not_true_eq_false, if_false]

theorem prepareRecord_ready {now : Stamp}
    (prepared : prepareRecord urlParse consumer now record = .ready control envelope) :
    Readable urlParse consumer record control envelope := by
  unfold prepareRecord at prepared
  split at prepared
  · cases prepared
  next held isControl =>
    split at prepared
    · cases prepared
    next source =>
      split at prepared
      · cases prepared
      next found isEnvelope =>
        unfold prepareEnvelope at prepared
        split at prepared
        · cases prepared
        next described =>
          split at prepared
          · cases prepared
          next keyed =>
            have same : held = control ∧ found = envelope := by
              unfold prepareTimed at prepared
              split at prepared
              · cases prepared
              · split at prepared
                · exact PreparedRecord.ready.inj prepared
                · cases prepared
            rw [← same.1, ← same.2]
            exact ⟨isControl, not_not.mp source, isEnvelope, described, keyed⟩

variable {decoded : DecodedMessage T}

theorem decode_ok (isDecoded : decode urlParse consumer envelope = .ok decoded) :
    decoded.metadata = envelope.metadata ∧ ∃ payload, envelope.payload = .ok payload ∧
      marshalEnvelope urlParse envelope.metadata payload envelope.dataEncoding =
        .ok decoded.canonical := by
  unfold decode at isDecoded
  obtain ⟨payload, isPayload, isDecoded⟩ := bind_ok.mp isDecoded
  obtain ⟨canonical, marshalled, isDecoded⟩ := bind_ok.mp isDecoded
  obtain ⟨_, _, isDecoded⟩ := bind_ok.mp isDecoded
  rw [← Except.ok.inj isDecoded]
  exact ⟨rfl, payload, isPayload, marshalled⟩

theorem Readable.canonical (readable : Readable urlParse consumer record control envelope)
    (isDecoded : decode urlParse consumer envelope = .ok decoded) :
    canonicalizeEnvelope urlParse record.value = .ok decoded.canonical := by
  obtain ⟨_, payload, isPayload, marshalled⟩ := decode_ok isDecoded
  exact Messenger.canonicalizeEnvelope_ok.mpr ⟨envelope, payload,
    readable.isEnvelope, isPayload, marshalled⟩

end Read

def sampleConsumer : Consumer Unit where
  config := ⟨ofString "shop", ofString "mail", [1000000000]⟩
  descriptor := ⟨⟨.event, ofString "order", 1, ofString "a/b", .json, []⟩,
    ⟨fun _ => .ok [], fun _ => .ok (), ofString "a/b", .json⟩, rfl, rfl⟩
  sourceTopic := ofString "shop.event.order.v1"
  retryTopics := [ofString "shop.event.order.v1.gm.mail.retry.t0"]
  replayTopic := ofString "shop.event.order.v1.gm.mail.replay"
  dlqTopic := ofString "shop.event.order.v1.gm.mail.dlq"
  tiered := by decide
  isSource := by decide +kernel
  areRetries := by decide +kernel
  isReplay := by decide +kernel
  isDlq := by decide +kernel

theorem sampleClock_ordinary : Stamp.Ordinary ⟨63840000000000000000, 0⟩ := by
  unfold Stamp.Ordinary
  decide +kernel

end Gomessenger.KafkaWire
