import Gomessenger.Messenger.Address

/-! The names of Kafka topics and groups.

The quoted values are left out of the error texts. -/

namespace Gomessenger.KafkaWire

open Utf8 Dotted Fallible
open Json (intText)
open Messenger (Kind trimmed)

def errInvalidConfig : GoError := .text "messenger/kafka: invalid configuration"

def invalidConfig (message : String) : GoError := .wrap message errInvalidConfig

def maxKafkaNameBytes : Nat := 249

def serviceSegment : Bytes := ofString "gm"

def serviceMarker : Bytes := ofString ".gm."

def kafkaIdentifierByte (character : UInt8) : Bool :=
  decide (0x61 ≤ character) && decide (character ≤ 0x7a) ||
    decide (0x41 ≤ character) && decide (character ≤ 0x5a) ||
    decide (0x30 ≤ character) && decide (character ≤ 0x39) || character == 0x2e || character == 0x2d

def validateKafkaToken (role : String) (value : Bytes) : Except GoError Unit :=
  if value = [] ∨ trimmed value = false then .error (invalidConfig role)
  else if value.all kafkaIdentifierByte then .ok ()
  else .error (invalidConfig role)

def validateKafkaIdentifier (role : String) (value : Bytes) : Except GoError Unit :=
  if value.length = 0 ∨ maxKafkaNameBytes < value.length ∨ trimmed value = false then
    .error (invalidConfig role)
  else if value.all kafkaIdentifierByte then .ok ()
  else .error (invalidConfig role)

def validateConsumerID (value : Bytes) : Except GoError Unit :=
    validateKafkaToken "consumer ID" value

def reservedSegment (segment : Bytes) : Bool :=
  segment == Kind.command.text || segment == Kind.event.text || segment == serviceSegment

def validateNamespace (value : Bytes) : Except GoError Unit := do
  validateKafkaToken "namespace" value
  if (segments value).any reservedSegment then throw (invalidConfig "reserved namespace segment")

def validateDescriptorName (value : Bytes) : Except GoError Unit :=
  if (segments value).any (· == serviceSegment) then
    .error (invalidConfig "reserved descriptor segment")
  else .ok ()

def validateTopicName (value : Bytes) : Except GoError Unit := do
  validateKafkaIdentifier "topic" value
  if value = ofString "." ∨ value = ofString ".." then throw (invalidConfig "reserved topic")

def topicOf (namespaceName : Bytes) (kind : Kind) (name : Bytes) (schemaVersion : Int64) :
    Except GoError Bytes := do
  validateNamespace namespaceName
  if kind.validWire = false ∨ name = [] ∨ schemaVersion.toInt ≤ 0 then
    throw (invalidConfig "descriptor topic")
  validateDescriptorName name
  let topic := namespaceName ++ 0x2e :: (kind.text ++ 0x2e :: (name ++ ofString ".v" ++
    intText schemaVersion.toInt))
  validateTopicName topic
  return topic

theorem topicOf_spelt {namespaceName name topic : Bytes} {kind : Kind} {schemaVersion : Int64}
    (accepted : topicOf namespaceName kind name schemaVersion = .ok topic) :
    topic = namespaceName ++ 0x2e :: (kind.text ++ 0x2e :: (name ++ ofString ".v" ++
      intText schemaVersion.toInt)) := by
  unfold topicOf at accepted
  obtain ⟨_, _, accepted⟩ := bind_ok.mp accepted
  obtain ⟨_, accepted⟩ := check_ok.mp accepted
  obtain ⟨_, _, accepted⟩ := bind_ok.mp accepted
  obtain ⟨_, _, accepted⟩ := bind_ok.mp accepted
  exact (Except.ok.inj accepted).symm

def topicAround (value : Bytes) (kind : Kind) (namespaceName tail : Bytes) : Bool :=
  match Strings.lastIndex tail (ofString ".v") with
  | none => false
  | some versionIndex =>
    match Strings.parseInt 64 (tail.drop (versionIndex + 2)) with
    | none => false
    | some version =>
      decide (0 < versionIndex) && decide (0 < version) &&
        decide (topicOf namespaceName kind (tail.take versionIndex) (.ofInt version) = .ok value)

def kindMarker (kind : Kind) : Bytes := 0x2e :: (kind.text ++ [0x2e])

/-- The search for a kind's marker from an offset on. -/
def topicFrom (value : Bytes) (kind : Kind) (offset : Nat) : Bool :=
  if _inside : offset < value.length then
    match Strings.index (value.drop offset) (kindMarker kind) with
    | none => false
    | some relative =>
      let next := offset + relative + (kindMarker kind).length
      topicAround value kind (value.take (offset + relative)) (value.drop next) ||
        topicFrom value kind next
  else false
termination_by value.length - offset
decreasing_by
  simp only [kindMarker, List.length_cons]
  omega

def validateSourceTopicName (value : Bytes) : Except GoError Unit :=
  if topicFrom value .command 0 || topicFrom value .event 0 then .ok ()
  else .error (invalidConfig "source topic does not match namespace.kind.descriptor.vN")

def consumerTopic (sourceTopic consumerID suffix : Bytes) : Except GoError Bytes := do
  validateSourceTopicName sourceTopic
  validateConsumerID consumerID
  let topic := sourceTopic ++ serviceMarker ++ consumerID ++ 0x2e :: suffix
  validateTopicName topic
  return topic

def retryTopic (sourceTopic consumerID : Bytes) (tier : Int64) : Except GoError Bytes :=
  if tier.toInt < 0 then .error (invalidConfig "negative retry tier")
  else consumerTopic sourceTopic consumerID (ofString "retry.t" ++ intText tier.toInt)

def replayTopic (sourceTopic consumerID : Bytes) : Except GoError Bytes :=
  consumerTopic sourceTopic consumerID (ofString "replay")

def dlqTopic (sourceTopic consumerID : Bytes) : Except GoError Bytes :=
  consumerTopic sourceTopic consumerID (ofString "dlq")

def consumerGroup (sourceTopic consumerID : Bytes) : Except GoError Bytes := do
  validateSourceTopicName sourceTopic
  validateConsumerID consumerID
  let group := sourceTopic ++ serviceMarker ++ consumerID
  validateKafkaIdentifier "consumer group" group
  return group

example : topicOf (ofString "media.prod") .event (ofString "photo.added") 2 =
    .ok (ofString "media.prod.event.photo.added.v2") := by decide +kernel

example : replayTopic (ofString "media.prod.event.photo.added.v2") (ofString "thumbs") =
    .ok (ofString "media.prod.event.photo.added.v2.gm.thumbs.replay") := by decide +kernel

end Gomessenger.KafkaWire
