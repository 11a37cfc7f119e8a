import Gomessenger.Kafka.Wire.Topics

/-! Kafka records, their keys and the topics they belong on. -/

namespace Gomessenger.KafkaWire

open Utf8 Rfc3339
open Json (intText)
open Messenger (Metadata invalidMessage)

structure RecordHeader where
  key : Bytes
  value : Bytes
  deriving DecidableEq

structure Record where
  topic : Bytes
  partition : Int32
  offset : Int64
  key : Bytes
  value : Bytes
  headers : List RecordHeader
  timestamp : Stamp
  deriving DecidableEq

def expectedRecordKey (metadata : Metadata) : Bytes :=
  if metadata.key ≠ [] then metadata.key else Messenger.messageIDString metadata.id

def validateRecordKey (key : Bytes) (metadata : Metadata) : Except GoError Unit :=
  if key ≠ expectedRecordKey metadata then
    .error (invalidMessage "Kafka record key does not match envelope key")
  else .ok ()

def sourceTopicMatchesMetadata (sourceTopic : Bytes) (metadata : Metadata) : Except GoError Unit :=
  let expectedSuffix := 0x2e :: (metadata.kind.text ++ 0x2e :: (metadata.name ++ ofString ".v" ++
    intText metadata.schemaVersion.toInt))
  let failure := invalidMessage "Kafka source topic does not match envelope descriptor"
  if expectedSuffix.isSuffixOf sourceTopic = false then .error failure
  else
    let namespaceName := sourceTopic.take (sourceTopic.length - expectedSuffix.length)
    if topicOf namespaceName metadata.kind metadata.name metadata.schemaVersion = .ok sourceTopic
      then .ok ()
    else .error failure

theorem sourceTopicMatchesMetadata_ok {namespaceName topic : Bytes} {metadata : Metadata}
    (isTopic : topicOf namespaceName metadata.kind metadata.name
      metadata.schemaVersion = .ok topic) :
    sourceTopicMatchesMetadata topic metadata = .ok () := by
  have spelt := topicOf_spelt isTopic
  have suffixed : (0x2e :: (metadata.kind.text ++ 0x2e :: (metadata.name ++ ofString ".v" ++
      intText metadata.schemaVersion.toInt))).isSuffixOf topic = true := by
    rw [spelt]
    exact List.isSuffixOf_iff_suffix.mpr (List.suffix_append _ _)
  have namespaced : topic.take (topic.length -
    (0x2e :: (metadata.kind.text ++ 0x2e :: (metadata.name ++
      ofString ".v" ++ intText metadata.schemaVersion.toInt))).length) = namespaceName := by
    rw [spelt, List.length_append, Nat.add_sub_cancel, List.take_left]
  unfold sourceTopicMatchesMetadata
  simp only [suffixed, Bool.true_eq_false, if_false, namespaced, isTopic, if_true]

def expired (metadata : Metadata) (now : Stamp) : Bool :=
  !metadata.expiresAt.isZero && decide (metadata.expiresAt.nanos ≤ now.nanos)

def newRouteRecord (topic : Bytes) (metadata : Metadata) (native : Bytes) : Record where
  topic := topic
  partition := 0
  offset := 0
  key := expectedRecordKey metadata
  value := native
  headers := []
  timestamp := .zero

end Gomessenger.KafkaWire
