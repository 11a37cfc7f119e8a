import Gomessenger.Nats.Consumer
import Gomessenger.Consumer.Batch

/-! The NATS batch consumer: collecting a batch and deciding its deliveries. -/

namespace Gomessenger.Nats

open Inbox
open Gomessenger.Consumer (Metadata DecodedMessage reached)

/-- `natsBatchDelivery`; `content` is `decoded`, or `decodeErr` where that is set. -/
structure BatchDelivery where
  broker : Delivery
  content : Except GoError DecodedMessage
  canonicalBytes : Nat
  attemptGeneration : String

structure Batch where
  deliveries : List BatchDelivery
  bytes : Nat
  startedAt : Time

section Collect

variable (consumer : Consumer)

def decodeNATSBatchDelivery (message : Delivery) : BatchDelivery :=
  let generation := consumer.replayAttemptGeneration message.msg.header
  match message.metadata with
  | .error err =>
    ⟨message, .error (.wrap "read JetStream metadata" err), message.msg.data.length, generation⟩
  | .ok metadata =>
    match consumer.decode message.msg.data message.msg.header metadata.timestamp with
    | .error err => ⟨message, .error err, message.msg.data.length, generation⟩
    | .ok decoded => ⟨message, .ok decoded, decoded.canonical.length, generation⟩

def BatchDelivery.identity (delivery : BatchDelivery) : Option (MessageID × String) :=
  match delivery.content with
  | .error _ => none
  | .ok decoded => some (decoded.metadata.id, decoded.metadata.source)

def hasNATSBatchConflictingGeneration (deliveries : List BatchDelivery)
    (candidate : BatchDelivery) :
    Bool :=
  Consumer.conflictingGeneration BatchDelivery.identity
    BatchDelivery.attemptGeneration deliveries candidate

def natsBatchEligible (metadata : Metadata) (now : Time) : Bool :=
  !reached metadata.expiresAt now && !upcoming metadata.notBefore now

structure Fetched where
  messages : List Delivery
  err : Option GoError

/-- The pulls and clock readings of one collected batch; `boundary` is
`normalNATSBatchBoundary` in the fill's context. -/
structure CollectAnswers where
  first : Except GoError Fetched
  startedAt : Time
  checkedAt : Time
  elapsedAt : Time
  fill : Except GoError Fetched
  boundary : GoError → Bool

/-- One message of the fill: the delivery is appended, or sent back with a delay. -/
def fillNATSBatch (state : Batch × List Delivery) (message : Delivery) : Batch × List Delivery :=
  let delivery := decodeNATSBatchDelivery consumer message
  if hasNATSBatchConflictingGeneration state.1.deliveries delivery then
    (state.1, state.2 ++ [message])
  else if state.1.bytes + delivery.canonicalBytes > consumer.maxBytes then
    (state.1, state.2 ++ [message])
  else
    ({ state.1 with
        deliveries := state.1.deliveries ++ [delivery]
        bytes := state.1.bytes + delivery.canonicalBytes }, state.2)

def startNATSBatch (startedAt : Time) (first : Delivery) : Batch :=
  let delivery := decodeNATSBatchDelivery consumer first
  ⟨[delivery], delivery.canonicalBytes, startedAt⟩

def alone (answers : CollectAnswers) (first : Delivery) : Bool :=
  let delivery := decodeNATSBatchDelivery consumer first
  (match delivery.content with
    | .error _ => true
    | .ok decoded => !natsBatchEligible decoded.metadata answers.checkedAt) ||
    decide (consumer.maxMessages = 1) || decide (consumer.maxBytes ≤ delivery.canonicalBytes)

/-- `collectNATSBatch`, with the messages it sends back. -/
def collectNATSBatch (answers : CollectAnswers) : Except GoError (Option Batch) × List Delivery :=
  match answers.first with
  | .error err => (.error (.wrap "messenger/nats: fetch first batch delivery" err), [])
  | .ok fetched =>
    match fetched.messages.head?, fetched.err with
    | none, some err => (.error err, [])
    | none, none => (.ok none, [])
    | some first, _ =>
      let batch := startNATSBatch consumer answers.startedAt first
      if alone consumer answers first then (.ok (some batch), [])
      else if consumer.maxWait + answers.startedAt ≤ answers.elapsedAt then (.ok (some batch), [])
      else match answers.fill with
        | .error err =>
          if answers.boundary err then (.ok (some batch), [])
          else (.error (.wrap "messenger/nats: fill batch" err), [])
        | .ok fill =>
          let filled := fill.messages.foldl (fillNATSBatch consumer) (batch, [])
          match fill.err with
          | none => (.ok (some filled.1), filled.2)
          | some err =>
            if answers.boundary err then (.ok (some filled.1), filled.2)
            else (.error (.wrap "messenger/nats: fill batch deliveries" err), filled.2)

def Batch.Uniform (batch : Batch) : Prop :=
  batch.deliveries.Pairwise (Consumer.Compatible BatchDelivery.identity
    BatchDelivery.attemptGeneration)

theorem fillNATSBatch_uniform (state : Batch × List Delivery) (message : Delivery)
    (uniform : state.1.Uniform) : (fillNATSBatch consumer state message).1.Uniform := by
  unfold fillNATSBatch
  simp only
  split
  · exact uniform
  next clear =>
    split
    · exact uniform
    · refine List.pairwise_append.mpr ⟨uniform, List.pairwise_singleton _ _, ?_⟩
      intro earlier early later last
      rw [List.mem_singleton.mp last]
      exact Consumer.compatible_of_clear _ _ (Bool.eq_false_iff.mpr clear) earlier early

theorem fillNATSBatches_uniform (messages : List Delivery) (state : Batch × List Delivery)
    (uniform : state.1.Uniform) : (messages.foldl (fillNATSBatch consumer) state).1.Uniform := by
  induction messages generalizing state with
  | nil => exact uniform
  | cons head tail ih => exact ih _ (fillNATSBatch_uniform consumer state head uniform)

theorem collectNATSBatch_uniform (answers : CollectAnswers) (batch : Batch)
    (collected : (collectNATSBatch consumer answers).1 = .ok (some batch)) : batch.Uniform := by
  have single : ∀ first, (startNATSBatch consumer answers.startedAt first).Uniform :=
    fun _ => List.pairwise_singleton _ _
  unfold collectNATSBatch at collected
  split at collected
  · cases collected
  · split at collected
    · cases collected
    · cases collected
    · simp only at collected
      split at collected
      · cases collected
        exact single _
      · split at collected
        · cases collected
          exact single _
        · split at collected
          · split at collected
            · cases collected
              exact single _
            · cases collected
          · split at collected
            · cases collected
              exact fillNATSBatches_uniform consumer _ _ (single _)
            · split at collected
              · cases collected
                exact fillNATSBatches_uniform consumer _ _ (single _)
              · cases collected

end Collect

inductive Reason
  | decode
  | expired
  | identityConflict
  | attemptsExhausted
  | permanent
  | unknown
  deriving DecidableEq, Repr

/-- `natsBatchFinalOutcome`; `item` is absent where the source leaves its key zero. -/
structure FinalOutcome (F : Type) where
  outcome : BatchOutcome
  attempt : Nat
  delay : Duration
  failureKind : Option Reason
  err : Option GoError
  item : Option (BatchItem F)
  deriving DecidableEq, Repr

def natsBatchBrokerAttempt (delivery : BatchDelivery) : Nat :=
  match delivery.broker.metadata with
  | .error _ => 1
  | .ok metadata => max 1 metadata.numDelivered

section Process

variable {F : Type} [Sha256 F] (consumer : Consumer)

/-- The outcome of a delivery that the Inbox does not see, or its Inbox item. -/
def triageNATSBatchDelivery (now : Time) (delivery : BatchDelivery) :
    FinalOutcome F ⊕ BatchItem F × DecodedMessage :=
  match delivery.content with
  | .error err => .inl ⟨.dlq, natsBatchBrokerAttempt delivery, 0, some .decode, some err, none⟩
  | .ok decoded =>
    let item := batchItem consumer delivery.attemptGeneration decoded
    if reached decoded.metadata.expiresAt now then
      .inl ⟨.dlq, natsBatchBrokerAttempt delivery, 0, some .expired,
        some errMessageExpired, some item⟩
    else
      match decoded.metadata.notBefore with
      | none => .inr (item, decoded)
      | some due =>
        if now < due then
          .inl ⟨.defer, 0, (due : Int) - now, none, some errMessageNotReady, some item⟩
        else .inr (item, decoded)

def validNATSBatchItems (now : Time) (deliveries : List BatchDelivery) :
    List (BatchItem F × DecodedMessage) :=
  deliveries.filterMap fun delivery =>
    match triageNATSBatchDelivery (F := F) consumer now delivery with
    | .inl _ => none
    | .inr valid => some valid

def natsBatchDecodedMessages [LinearOrder F] (active : List (BatchItem F))
    (byItem : List (BatchItem F × DecodedMessage)) : Except GoError (List DecodedMessage) :=
  Consumer.batchDecodedMessages byItem active

variable (now : Time)

theorem triageNATSBatchDelivery_valid (delivery : BatchDelivery) (item : BatchItem F)
    (decoded : DecodedMessage)
    (valid : triageNATSBatchDelivery consumer now delivery = .inr (item, decoded)) :
    delivery.content = .ok decoded ∧ item = batchItem consumer
      delivery.attemptGeneration decoded := by
  unfold triageNATSBatchDelivery at valid
  split at valid
  · cases valid
  next found =>
    simp only at valid
    split at valid
    · cases valid
    · split at valid
      · cases valid
        exact ⟨found, rfl⟩
      · split at valid
        · cases valid
        · cases valid
          exact ⟨found, rfl⟩

theorem mem_validNATSBatchItems (deliveries : List BatchDelivery) (item : BatchItem F)
    (decoded : DecodedMessage) (member : (item, decoded) ∈
      validNATSBatchItems consumer now deliveries) :
    ∃ delivery ∈ deliveries, delivery.content = .ok decoded ∧
      item = batchItem consumer delivery.attemptGeneration decoded := by
  obtain ⟨delivery, inside, chosen⟩ := List.mem_filterMap.mp member
  cases triaged : triageNATSBatchDelivery (F := F) consumer now delivery with
  | inl outcome =>
    rw [triaged] at chosen
    cases chosen
  | inr valid =>
    rw [triaged] at chosen
    cases chosen
    exact ⟨delivery, inside, triageNATSBatchDelivery_valid consumer now
      delivery item decoded triaged⟩

theorem validNATSBatchItems_uniform (batch : Batch) (uniform : batch.Uniform) :
    Consumer.OneGeneration ((validNATSBatchItems (F := F) consumer now batch.deliveries).map
      Prod.fst) := by
  refine Consumer.oneGeneration_of_compatible _ uniform ?_
  rintro delivery ⟨item, decoded⟩ chosen
  cases triaged : triageNATSBatchDelivery (F := F) consumer now delivery with
  | inl outcome =>
    rw [triaged] at chosen
    cases chosen
  | inr valid =>
    rw [triaged] at chosen
    cases chosen
    obtain ⟨content, rfl⟩ := triageNATSBatchDelivery_valid consumer now
      delivery item decoded triaged
    simp only [BatchDelivery.identity, content]
    exact ⟨rfl, rfl⟩

end Process

end Gomessenger.Nats
