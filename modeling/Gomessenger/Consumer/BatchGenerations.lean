import Gomessenger.Kafka.BatchSelection
import Gomessenger.Nats.Batch

/-! The batches the NATS and the Kafka consumer collect, as the Inbox sees them. -/

namespace Gomessenger.Kafka

open Inbox
open Gomessenger.Consumer (DecodedMessage)

section Items

variable {E F : Type} [Sha256 F] (consumer : Consumer E)

def kafkaBatchItems (now : Time) (records : List BatchRecord) :
    List (BatchItem F × DecodedMessage) :=
  records.filterMap fun record =>
    match record.content with
    | .failed .. => none
    | .decoded message =>
      match triageKafkaBatchRecord (F := F) consumer now record with
      | .inl _ => none
      | .inr item => some (item, message)

def kafkaBatchDecodedMessages [LinearOrder F] (active : List (BatchItem F))
    (byItem : List (BatchItem F × DecodedMessage)) : Except GoError (List DecodedMessage) :=
  Consumer.batchDecodedMessages byItem active

variable (now : Time) (records : List BatchRecord) (record : BatchRecord) (item : BatchItem F)

theorem triageKafkaBatchRecord_valid (valid : triageKafkaBatchRecord consumer
    now record = .inr item) :
    ∃ message, record.content = .decoded message ∧ item =
      batchItemOf consumer record.control message := by
  unfold triageKafkaBatchRecord at valid
  split at valid
  · cases valid
  next message found =>
    split at valid
    · cases valid
    · simp only at valid
      split at valid
      · cases valid
        exact ⟨message, found, rfl⟩
      · split at valid
        · cases valid
        · cases valid
          exact ⟨message, found, rfl⟩

theorem kafkaBatchItems_chosen (entry : BatchItem F × DecodedMessage)
    (chosen : (match record.content with
      | .failed .. => none
      | .decoded message =>
        match triageKafkaBatchRecord (F := F) consumer now record with
        | .inl _ => none
        | .inr item => some (item, message)) = some entry) :
    record.content = .decoded entry.2 ∧ entry.1 = batchItemOf consumer record.control entry.2 := by
  split at chosen
  · cases chosen
  next message content =>
    split at chosen
    · cases chosen
    next item triaged =>
      cases chosen
      obtain ⟨found, same, built⟩ := triageKafkaBatchRecord_valid consumer now record item triaged
      rw [content] at same
      cases same
      exact ⟨content, built⟩

theorem mem_kafkaBatchItems
    (message : DecodedMessage) (member : (item, message) ∈ kafkaBatchItems consumer now records) :
    ∃ record ∈ records, record.content = .decoded message ∧
      item = batchItemOf consumer record.control message := by
  obtain ⟨record, inside, chosen⟩ := List.mem_filterMap.mp member
  exact ⟨record, inside, kafkaBatchItems_chosen consumer now record (item, message) chosen⟩

theorem kafkaBatchItems_uniform
    (uniform : records.Pairwise (Consumer.Compatible BatchRecord.identity BatchRecord.generation)) :
    Consumer.OneGeneration ((kafkaBatchItems (F := F) consumer now records).map Prod.fst) := by
  refine Consumer.oneGeneration_of_compatible _ uniform ?_
  intro record entry chosen
  obtain ⟨content, built⟩ := kafkaBatchItems_chosen consumer now record entry chosen
  rw [built]
  simp only [BatchRecord.identity, content]
  exact ⟨rfl, rfl⟩

end Items

end Gomessenger.Kafka

namespace Gomessenger.Consumer

open Inbox

section Collected

variable {E F : Type} [LinearOrder F] [Sha256 F]

/-- Whatever is delivered, the batches both consumers collect pass the Inbox's
generation checks, and each item it activates is found among the collected messages. -/
theorem collected_batches_are_admitted :
    (∀ (consumer : Kafka.Consumer E) (log : Kafka.Log) (answers : Kafka.CollectAnswers)
        (session : Kafka.Session) (batch : Kafka.PolledBatch) (now : Time),
      (Kafka.collectKafkaBatch consumer log answers session).1 = .ok (some batch) →
      Admitted consumer.consumerID (Kafka.kafkaBatchItems (F := F) consumer now batch.records) ∧
      ∀ item message, (item, message) ∈ Kafka.kafkaBatchItems (F := F) consumer now batch.records →
        ∃ record ∈ batch.records, record.content = .decoded message ∧
          item = Kafka.batchItemOf consumer record.control message) ∧
    (∀ (consumer : Nats.Consumer) (answers : Nats.CollectAnswers) (batch : Nats.Batch) (now : Time),
      (Nats.collectNATSBatch consumer answers).1 = .ok (some batch) →
      Admitted consumer.consumerID (Nats.validNATSBatchItems (F := F)
        consumer now batch.deliveries) ∧
      ∀ item decoded, (item, decoded) ∈ Nats.validNATSBatchItems (F := F)
        consumer now batch.deliveries →
        ∃ delivery ∈ batch.deliveries, delivery.content = .ok decoded ∧
          item = Nats.batchItem consumer delivery.attemptGeneration decoded) := by
  constructor
  · intro consumer log answers session batch now collected
    have collecting := Kafka.collectKafkaBatch_collecting consumer log
      answers session batch collected
    exact ⟨admitted_of_uniform _ _ (Kafka.kafkaBatchItems_uniform consumer now batch.records
        collecting.selected.uniform),
      Kafka.mem_kafkaBatchItems consumer now batch.records⟩
  · intro consumer answers batch now collected
    have uniform := Nats.collectNATSBatch_uniform consumer answers batch collected
    exact ⟨admitted_of_uniform _ _ (Nats.validNATSBatchItems_uniform consumer now batch uniform),
      Nats.mem_validNATSBatchItems consumer now batch.deliveries⟩

end Collected

def replayedHeader : Nats.Header := [([82], [[49]])]

def replayedPull : Nats.CollectAnswers where
  first := .ok ⟨[Nats.sampleDelivery []], none⟩
  startedAt := 0
  checkedAt := 0
  elapsedAt := 0
  fill := .ok ⟨[Nats.sampleDelivery replayedHeader, Nats.sampleDelivery []], none⟩
  boundary _ := true

/-- The replay is sent back, and the others are one batch. -/
theorem collected_batches_are_admitted_replay :
    ∃ batch, (Nats.collectNATSBatch Nats.sampleConsumer replayedPull).1 = .ok (some batch) ∧
      batch.deliveries.length = 2 ∧
      Admitted "orders" (Nats.validNATSBatchItems (F := Preimage)
        Nats.sampleConsumer 0 batch.deliveries) :=
  ⟨_, rfl, rfl, ((collected_batches_are_admitted (E := Unit) (F := Preimage)).2 Nats.sampleConsumer
    replayedPull _ 0 rfl).1⟩

end Gomessenger.Consumer
