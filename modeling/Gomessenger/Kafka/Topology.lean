import Gomessenger.Kafka.Wire.DeadLetter

/-! The declared Kafka topics and their validation.

Topic names are byte strings. The quoted values are left out of the error texts,
and the families of a topology are checked in the order of their first topics. -/

namespace Gomessenger.KafkaTopology

open Utf8 Fallible
open Json (intText)
open Messenger (defaultMaxHeaderBytes)
open KafkaWire (invalidConfig validateTopicName validateSourceTopicName validateConsumerID
  consumerTopic retryTopic
  replayTopic dlqTopic defaultMaxSourceMessageBytes defaultMaxDLQRecordBytes)

def topologySpecVersion : String := "1.0"

def defaultMaxDLQMessageBytes : Nat := defaultMaxDLQRecordBytes + defaultMaxHeaderBytes

inductive TopicRole
  | source
  | retry
  | replay
  | dlq
  | other (text : Bytes)
  deriving DecidableEq, Inhabited

structure TopicSpec where
  name : Bytes
  role : TopicRole
  sourceTopic : Bytes
  consumerID : Bytes
  partitions : Int64
  replicationFactor : Int64
  minInSyncReplicas : Int64
  retentionMillis : Int64
  retentionBytes : Int64
  maxMessageBytes : Int64
  deriving DecidableEq, Inhabited

structure Topology where
  specVersion : String
  topics : List TopicSpec

structure TopologyFamilyKey where
  source : Bytes
  consumerID : Bytes
  deriving DecidableEq

structure TopologyFamilyState where
  retryTiers : List Int64
  replay : Bool
  dlq : Bool

abbrev Families := List (TopologyFamilyKey × TopologyFamilyState)

def Families.put (families : Families) (key : TopologyFamilyKey)
    (family : TopologyFamilyState) : Families :=
  match families with
  | [] => [(key, family)]
  | (other, state) :: rest =>
    if other = key then (key, family) :: rest else (other, state) :: Families.put rest key family

def retryTierFromTopic (name source consumerID : Bytes) : Except GoError Int64 := do
  let stem ← consumerTopic source consumerID (ofString "retry.t")
  if stem.isPrefixOf name = false then throw (invalidConfig "non-deterministic retry topic")
  match Strings.parseInt 64 (name.drop stem.length) with
  | none => throw (invalidConfig "retry topic tier")
  | some tier =>
    if tier < 0 then throw (invalidConfig "retry topic tier")
    if retryTopic source consumerID (.ofInt tier) ≠ .ok name then
      throw (invalidConfig "non-deterministic retry topic")
    return .ofInt tier

def validateTopicBounds (topic : TopicSpec) : Except GoError Unit :=
  if topic.partitions.toInt ≤ 0 ∨ 2 ^ 31 - 1 < topic.partitions.toInt ∨
      topic.replicationFactor.toInt ≤ 0 ∨ 2 ^ 15 - 1 < topic.replicationFactor.toInt ∨
      topic.minInSyncReplicas.toInt ≤ 0 ∨ topic.replicationFactor.toInt <
        topic.minInSyncReplicas.toInt ∨
      topic.maxMessageBytes.toInt ≤ 0 ∨
      topic.retentionMillis.toInt ≠ -1 ∧ topic.retentionMillis.toInt ≤ 0 ∨
      topic.retentionBytes.toInt ≠ -1 ∧ topic.retentionBytes.toInt ≤ 0 then
    .error (invalidConfig "managed topic")
  else .ok ()

def validateSourceTopicSpec (topic : TopicSpec) : Except GoError Unit := do
  if topic.sourceTopic ≠ [] ∨ topic.consumerID ≠ [] ∨
      topic.maxMessageBytes.toInt < defaultMaxSourceMessageBytes then
    throw (invalidConfig "source topic")
  validateSourceTopicName topic.name

def validateServiceMessageSize (topic : TopicSpec) : Except GoError Unit :=
  if topic.role = .dlq then
    if topic.maxMessageBytes.toInt < defaultMaxDLQMessageBytes then
      .error (invalidConfig "DLQ max message bytes")
    else .ok ()
  else if topic.maxMessageBytes.toInt < defaultMaxSourceMessageBytes then
    .error (invalidConfig "service max message bytes")
  else .ok ()

def validateExpectedName (topic : TopicSpec) (expected : Bytes) : Except GoError Unit :=
  if expected ≠ [] ∧ topic.name ≠ expected
    then .error (invalidConfig "non-deterministic service topic")
  else .ok ()

def validateServiceTopicName (topic : TopicSpec) : Except GoError Unit :=
  match topic.role with
  | .source => .error (invalidConfig "source topic is not a service topic")
  | .retry => do
      let _ ← retryTierFromTopic topic.name topic.sourceTopic topic.consumerID
      validateExpectedName topic []
  | .replay => do validateExpectedName topic (← replayTopic topic.sourceTopic topic.consumerID)
  | .dlq => do validateExpectedName topic (← dlqTopic topic.sourceTopic topic.consumerID)
  | .other _ => .error (invalidConfig "topic role")

def validateServiceTopicSpec (topic : TopicSpec) : Except GoError Unit := do
  validateTopicName topic.sourceTopic
  validateConsumerID topic.consumerID
  validateServiceMessageSize topic
  validateServiceTopicName topic
  if topic.role = .retry ∧ (topic.retentionMillis.toInt ≠ -1 ∨ topic.retentionBytes.toInt ≠ -1) then
    throw (invalidConfig "retry topic must have unlimited retention")

def validateTopicSpec (topic : TopicSpec) : Except GoError Unit := do
  validateTopicName topic.name
  validateTopicBounds topic
  match topic.role with
  | .source => validateSourceTopicSpec topic
  | .retry | .replay | .dlq => validateServiceTopicSpec topic
  | .other _ => throw (invalidConfig "topic role")

def recordFamilyTopic (families : Families) (topic : TopicSpec) : Except GoError Families :=
  let key : TopologyFamilyKey := ⟨topic.sourceTopic, topic.consumerID⟩
  let family := (families.lookup key).getD ⟨[], false, false⟩
  match topic.role with
  | .source => .ok families
  | .retry => do
      let tier ← retryTierFromTopic topic.name topic.sourceTopic topic.consumerID
      if tier ∈ family.retryTiers then throw (invalidConfig "duplicate retry tier")
      return families.put key { family with retryTiers := tier :: family.retryTiers }
  | .replay =>
    if family.replay then .error (invalidConfig "duplicate replay topic")
    else .ok (families.put key { family with replay := true })
  | .dlq =>
    if family.dlq then .error (invalidConfig "duplicate DLQ topic")
    else .ok (families.put key { family with dlq := true })
  | .other _ => .error (invalidConfig "topic role")

def indexFrom (before : List TopicSpec) (families : Families) :
    List TopicSpec → Except GoError Families
  | [] => .ok families
  | topic :: rest => do
      if topic.name ∈ before.map TopicSpec.name then throw (invalidConfig "duplicate Kafka topic")
      validateTopicSpec topic
      let families ← recordFamilyTopic families topic
      indexFrom (before ++ [topic]) families rest

def indexTopology (topics : List TopicSpec) : Except GoError Families := indexFrom [] [] topics

def validateCompleteFamily (family : TopologyFamilyState) : Except GoError Unit := do
  if family.retryTiers.length = 0 ∨ family.replay = false ∨ family.dlq = false then
    throw (invalidConfig "incomplete service topics")
  if (List.range family.retryTiers.length).any (fun tier =>
    decide (Int64.ofNat tier ∉ family.retryTiers)) then
    throw (invalidConfig "non-contiguous retry tiers")

def validateFamilyPartitions (topics : List TopicSpec) (key : TopologyFamilyKey)
    (sourcePartitions : Int64) :
    Except GoError Unit :=
  if topics.any (fun topic => decide (topic.sourceTopic = key.source ∧
    topic.consumerID = key.consumerID ∧
      topic.partitions ≠ sourcePartitions)) then
    .error (invalidConfig "service topic partition count differs from source")
  else .ok ()

def validateFamily (topics : List TopicSpec) (key : TopologyFamilyKey)
    (family : TopologyFamilyState) :
    Except GoError Unit :=
  match topics.find? (fun topic => decide (topic.name = key.source)) with
  | none => .error (invalidConfig "undeclared source topic")
  | some source => do
      if source.role ≠ .source then throw (invalidConfig "undeclared source topic")
      validateCompleteFamily family
      validateFamilyPartitions topics key source.partitions

def validateTopologyFamilies (topics : List TopicSpec) (families : Families) :
    Except GoError Unit :=
  families.forM fun (key, family) => validateFamily topics key family

def validateTopology (topology : Topology) : Except GoError Unit := do
  if topology.specVersion ≠ topologySpecVersion ∨ topology.topics.length = 0 ∨
      4096 < topology.topics.length then
    throw (invalidConfig "Kafka topology spec")
  let families ← indexTopology topology.topics
  validateTopologyFamilies topology.topics families

end Gomessenger.KafkaTopology
