import Gomessenger.Consumer.Decision

/-! The messages a NATS consumer is delivered, and the consumer itself.

The wire formats (the decoders, the replay headers) and the clock are inputs of
the functions; Go strings that need not be valid UTF-8 are byte lists. -/

namespace Gomessenger.Nats

open Inbox
open Gomessenger.Consumer (DecodedMessage reached)

/-- `map[string][]string`: the entries of the map, in some order. -/
abbrev Header := List (Bytes × List Bytes)

structure Msg where
  subject : Bytes
  header : Header
  data : Bytes
  deriving DecidableEq, Repr

structure MsgMetadata where
  numDelivered : Nat
  timestamp : Time
  deriving DecidableEq, Repr

/-- One delivery of a message; `metadata` is what its `Metadata` method returns. -/
structure Delivery where
  msg : Msg
  metadata : Except GoError MsgMetadata

inductive WireMode
  | native
  | cloudEventsStructured
  | cloudEventsBinary
  deriving DecidableEq, Repr

structure Consumer where
  settings : Consumer.Settings
  consumerID : String
  wireMode : WireMode
  decode : Bytes → Header → Time → Except GoError DecodedMessage
  replayAttemptGeneration : Header → String
  maxMessages : Nat
  maxBytes : Nat
  maxWait : Nat

def errMessageExpired : GoError := .text "messenger/nats: message expired"

def errMessageNotReady : GoError := .text "messenger/nats: message is not ready"

def upcoming (time : Option Time) (now : Time) : Bool := time.any (fun time => decide (now < time))

section Item

variable {F : Type} [Sha256 F] (consumer : Consumer)

def batchItem (generation : String) (decoded : DecodedMessage) : BatchItem F :=
  ⟨⟨consumer.consumerID, decoded.metadata.source, decoded.metadata.id, generation⟩,
    Sha256.sum decoded.canonical⟩

end Item

def sampleConsumer : Consumer where
  settings := Consumer.sampleSettings
  consumerID := "orders"
  wireMode := .native
  decode data _ _ := .ok ⟨⟨1, "shop", none, none⟩, data⟩
  replayAttemptGeneration header := if header = [] then "" else "gm-replay"
  maxMessages := 10
  maxBytes := 100
  maxWait := 5

def sampleDelivery (header : Header) : Delivery := ⟨⟨[], header, [1]⟩, .ok ⟨1, 0⟩⟩

end Gomessenger.Nats
