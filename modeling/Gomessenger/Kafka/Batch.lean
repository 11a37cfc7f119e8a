import Gomessenger.Kafka.Consumer
import Gomessenger.Kafka.RetryScheduler

/-! The Kafka batch consumer: collecting a batch of one partition, deciding its
records, and the session loop around them. -/

namespace Gomessenger.Kafka

open Inbox
open Gomessenger.Consumer (DecodedMessage reached)

/-- The decoded half of a `kafkaBatchRecord`, or the failure that dead-letters it. -/
inductive BatchContent
  | failed (reason : Reason) (failure : GoError) (attempt : Nat) (messageID : String)
  | decoded (message : DecodedMessage)
  deriving DecidableEq, Repr

structure BatchRecord where
  record : Record
  control : ControlMetadata
  content : BatchContent
  bytes : Nat
  deriving DecidableEq, Repr

structure PolledBatch where
  records : List BatchRecord
  earliestOffsets : Offsets
  partition : TopicPartition
  first : Record
  firstDeferred : Option Record
  deferUntil : Time
  firstUnprocessed : Option Record
  selectionStopped : Bool
  bytes : Nat
  fillStarted : Time

def recordEarliestKafkaOffset (offsets : Offsets) (record : Record) : Offsets :=
  match offsets record.topicPartition with
  | none => Function.update offsets record.topicPartition (some record.epochOffset)
  | some current =>
    if record.offset < current.offset then
      Function.update offsets record.topicPartition (some record.epochOffset)
    else offsets

def recordEarliestKafkaOffsets (offsets : Offsets) (records : List Record) : Offsets :=
  records.foldl recordEarliestKafkaOffset offsets

def earliestKafkaOffsets (records : List Record) : Offsets :=
  recordEarliestKafkaOffsets (fun _ => none) records

/-- An earlier record of the batch has the candidate's identity under another generation. -/
def hasKafkaBatchConflictingGeneration (records : List BatchRecord)
    (candidate : BatchRecord) : Bool :=
  match candidate.content with
  | .failed .. => false
  | .decoded message =>
    message.metadata.id ≠ 0 && records.any fun previous =>
      match previous.content with
      | .failed .. => false
      | .decoded earlier =>
        decide (earlier.metadata.id = message.metadata.id) &&
          decide (earlier.metadata.source = message.metadata.source) &&
          decide (previous.control.attemptGeneration ≠ candidate.control.attemptGeneration)

section Collect

variable {E : Type} (consumer : Consumer E)

def PolledBatch.stopAt (batch : PolledBatch) (record : Record) : PolledBatch :=
  { batch with firstUnprocessed := some record, selectionStopped := true }

/-- The end of the selection loop's body, for a record that is not deferred. -/
def admitKafkaBatchRecord (batch : PolledBatch) (item : BatchRecord) : PolledBatch :=
  if hasKafkaBatchConflictingGeneration batch.records item then batch.stopAt item.record
  else if batch.records ≠ [] ∧ item.bytes + batch.bytes > consumer.maxBytes
    then batch.stopAt item.record
  else
    { batch with
      records := batch.records ++ [item]
      bytes := batch.bytes + item.bytes
      selectionStopped := decide (consumer.maxBytes ≤ batch.bytes + item.bytes) }

def selectKafkaBatchRecord (preparedAt : Record → Time) (batch : PolledBatch) (record : Record) :
    PolledBatch :=
  if record.topicPartition ≠ batch.partition then batch
  else if batch.selectionStopped || decide (consumer.maxMessages ≤ batch.records.length) then
    { batch with
      firstUnprocessed := batch.firstUnprocessed <|> some record
      selectionStopped := true }
  else match consumer.prepareRecord (preparedAt record) record with
    | .deferred _ retryAt =>
      { batch.stopAt record with firstDeferred := some record, deferUntil := retryAt }
    | .failed control reason failure attempt messageID =>
      admitKafkaBatchRecord consumer batch
        ⟨record, control, .failed reason failure attempt messageID, record.value.length⟩
    | .ready control envelope =>
      match consumer.decode envelope with
      | .error err =>
        admitKafkaBatchRecord consumer batch ⟨record, control,
          .failed .decode err (max 1 control.attempt)
            (messageText (consumer.metadata envelope).id), record.value.length⟩
      | .ok message =>
        admitKafkaBatchRecord consumer batch ⟨record, control, .decoded message,
          message.canonical.length⟩

def selectKafkaBatchRecords (preparedAt : Record → Time) (batch : PolledBatch)
    (records : List Record) :
    PolledBatch :=
  records.foldl (selectKafkaBatchRecord consumer preparedAt) batch

structure Fill where
  checkedAt : Time
  begunAt : Time
  poll : Except GoError Request

inductive FillTurn
  | leave (result : Except GoError PolledBatch) (session : Session)
  | again (batch : PolledBatch) (session : Session)

def fillKafkaBatchTurn (log : Log) (preparedAt : Record → Time) (deadline : Time) (fill : Fill)
    (batch : PolledBatch) (session : Session) : FillTurn :=
  if batch.selectionStopped = false ∧ batch.records.length < consumer.maxMessages ∧
      batch.firstDeferred = none ∧ fill.checkedAt < deadline ∧ batch.bytes < consumer.maxBytes then
    if deadline ≤ fill.begunAt then .leave (.ok batch) session
    else match fill.poll with
      | .error err =>
        .leave (.error (.wrap ("messenger/kafka: fill batch " ++ consumer.consumerID) err)) session
      | .ok request =>
        let polled := session.pollRecords log (consumer.maxMessages - batch.records.length) request
        if polled.1 = [] then .leave (.ok batch) polled.2
        else
          let grown := selectKafkaBatchRecords consumer preparedAt
            { batch with
              earliestOffsets := recordEarliestKafkaOffsets batch.earliestOffsets polled.1 }
            polled.1
          if grown.selectionStopped || decide (consumer.maxBytes ≤ grown.bytes) ||
              decide (grown.records.length = batch.records.length) then
            .leave (.ok grown) polled.2
          else .again grown polled.2
  else .leave (.ok batch) session

/-- The fill loop, from its `step`-th turn on. A turn that goes on has appended a
record, so `maxMessages` turns are enough. -/
def fillKafkaBatch (log : Log) (preparedAt : Record → Time) (fills : Nat → Fill) (deadline : Time) :
    Nat → Nat → PolledBatch → Session → Except GoError PolledBatch × Session
  | 0, _, batch, session => (.ok batch, session)
  | fuel + 1, step, batch, session =>
    match fillKafkaBatchTurn consumer log preparedAt deadline (fills step) batch session with
    | .leave result session => (result, session)
    | .again grown session =>
      fillKafkaBatch log preparedAt fills deadline fuel (step + 1) grown session

def PolledBatch.sorted (batch : PolledBatch) : PolledBatch :=
  { batch with records :=
      batch.records.insertionSort (fun left right => left.record.offset ≤ right.record.offset) }

/-- The polls and clock readings of one collected batch. -/
structure CollectAnswers where
  poll : Except GoError Request
  fillStarted : Time
  fills : Nat → Fill
  preparedAt : Record → Time

def newPolledBatch (answers : CollectAnswers) (first : Record)
    (records : List Record) : PolledBatch where
  records := []
  earliestOffsets := earliestKafkaOffsets records
  partition := first.topicPartition
  first := first
  firstDeferred := none
  deferUntil := 0
  firstUnprocessed := none
  selectionStopped := false
  bytes := 0
  fillStarted := answers.fillStarted

def collectKafkaBatch (log : Log) (answers : CollectAnswers) (session : Session) :
    Except GoError (Option PolledBatch) × Session :=
  match answers.poll with
  | .error err =>
    (.error (.wrap ("messenger/kafka: consume batch " ++ consumer.consumerID) err), session)
  | .ok request =>
    let polled := session.pollRecords log consumer.maxMessages request
    match polled.1 with
    | [] => (.ok none, polled.2)
    | first :: rest =>
      let batch := selectKafkaBatchRecords consumer answers.preparedAt
        (newPolledBatch answers first (first :: rest)) (first :: rest)
      let filled := fillKafkaBatch consumer log answers.preparedAt answers.fills
        (answers.fillStarted + consumer.maxWait) consumer.maxMessages 0 batch polled.2
      (filled.1.map (fun batch => some batch.sorted), filled.2)

end Collect

/-- `kafkaBatchFinalOutcome`; `item` is absent where the source leaves its key zero. -/
structure FinalOutcome (F : Type) where
  outcome : BatchOutcome
  attempt : Nat
  delay : Duration
  failureKind : Option Reason
  err : Option GoError
  item : Option (BatchItem F)
  deriving DecidableEq, Repr

/-- What the clock, the Inbox and the broker answer while one batch is processed. -/
structure BatchAnswers (F : Type) where
  now : Time
  inbox : List (BatchItem F) → Except GoError (List (BatchItemOutcome F))
  producedAt : Time
  transaction : TransactionAnswers

def PolledBatch.offsetsWith (batch : PolledBatch) (partition : TopicPartition)
    (offset : EpochOffset) :
    Offsets :=
  Function.update batch.earliestOffsets partition (some offset)

def rewindKafkaBatch (session : Session) (batch : PolledBatch) (selected : Record) : Session :=
  session.setOffsets (batch.offsetsWith selected.topicPartition selected.epochOffset)

def setKafkaBatchProcessedOffsets (session : Session) (batch : PolledBatch) : Session :=
  match batch.records.getLast? with
  | none => session
  | some last =>
    session.setOffsets (batch.offsetsWith last.record.topicPartition last.record.nextOffset)

def pauseKafkaBatchPartition (session : Session) (scheduler : RetryPartitionScheduler)
    (record : Record) (deadline : Time) : Session × Except GoError RetryPartitionScheduler :=
  match pauseAndRewindRetryPartition session record with
  | (.error err, rewound) => (rewound, .error err)
  | (.ok (partition, ownedPause), rewound) =>
    (rewound, .ok (scheduler.schedule partition deadline ownedPause))

section Process

variable {E : Type} (consumer : Consumer E) {F : Type} [Sha256 F]

def batchItemOf (control : ControlMetadata) (message : DecodedMessage) : BatchItem F :=
  ⟨⟨consumer.consumerID, message.metadata.source, message.metadata.id, control.attemptGeneration⟩,
    Sha256.sum message.canonical⟩

/-- The outcome of a record that the Inbox does not see, or its Inbox item. -/
def triageKafkaBatchRecord (now : Time) (record : BatchRecord) : FinalOutcome F ⊕ BatchItem F :=
  match record.content with
  | .failed reason failure attempt _ =>
    .inl ⟨.dlq, max 1 attempt, 0, some reason, some failure, none⟩
  | .decoded message =>
    if reached message.metadata.expiresAt now then
      .inl ⟨.dlq, max 1 record.control.attempt, 0, some .expired, some errMessageExpired, none⟩
    else
      let item := batchItemOf consumer record.control message
      match message.metadata.notBefore with
      | none => .inr item
      | some due =>
        if now < due then
          .inl ⟨.defer, record.control.attempt, (due : Int) - now, none,
            some errMessageNotReady, some item⟩
        else .inr item

def validKafkaBatchItems (now : Time) (records : List BatchRecord) :
    List (BatchRecord × BatchItem F) :=
  records.filterMap fun record =>
    match triageKafkaBatchRecord (F := F) consumer now record with
    | .inl _ => none
    | .inr item => some (record, item)

def reportedOutcome (outcome : BatchItemOutcome F) : FinalOutcome F :=
  ⟨outcome.outcome, outcome.attempt, outcome.delay, outcome.failureKind.map reasonOf, outcome.err,
    some ⟨outcome.key, outcome.fingerprint⟩⟩

/-- The outcome a top-level handler error gives to every item of the invocation. -/
def topLevelOutcome (streak : Nat) (handlerErr : GoError)
    (record : BatchRecord) (item : BatchItem F) :
    FinalOutcome F where
  outcome := if handlerErr.deferDelay.isSome then .defer else .retry
  attempt := record.control.attempt
  delay := (handlerErr.deferDelay <|> handlerErr.retryDelay).getD
    (Consumer.Kafka.retryDelay consumer.settings streak)
  failureKind := none
  err := some handlerErr
  item := some item

/-- The outcomes in batch order: the Inbox's reports fill the places of the valid items. -/
def assignKafkaBatchOutcomes (now : Time) :
    List BatchRecord → List (FinalOutcome F) → List (BatchRecord × Option (FinalOutcome F))
  | [], _ => []
  | record :: rest, reports =>
    match triageKafkaBatchRecord (F := F) consumer now record with
    | .inl outcome => (record, some outcome) :: assignKafkaBatchOutcomes now rest reports
    | .inr _ => (record, reports.head?) :: assignKafkaBatchOutcomes now rest reports.tail

def makeKafkaBatchRetry (now : Time) (record : BatchRecord) (outcome : FinalOutcome F) :
    Except GoError Record :=
  let delay := if outcome.delay ≤ 0 then
      Consumer.Kafka.retryDelay consumer.settings (max 1 outcome.attempt)
    else outcome.delay
  match record.content with
  | .failed .. => .error (.text "messenger/kafka: retry outcome has no canonical envelope")
  | .decoded message =>
    if message.canonical = [] then
      .error (.text "messenger/kafka: retry outcome has no canonical envelope")
    else .ok (consumer.retryOf record.record message.canonical record.control
      outcome.attempt delay now)

def BatchContent.messageID : BatchContent → String
  | .failed _ _ _ messageID => if messageID = "" then messageText 0 else messageID
  | .decoded message => messageText message.metadata.id

def makeKafkaBatchDLQ (now : Time) (record : BatchRecord) (outcome : FinalOutcome F) :
    Except GoError Record :=
  let dlq := consumer.makeDLQRecord record.record record.control record.content.messageID
    (max 1 outcome.attempt) (outcome.failureKind.getD .unknown)
    (consumer.defaultFailureText outcome.err) now
  (consumer.encodeDLQRecord dlq).map (consumer.dlqOf F dlq)

/-- The records that the outcomes hand on, or how their construction ends the batch. -/
def produceKafkaBatch (now : Time) : List (BatchRecord × Option (FinalOutcome F)) →
    Except Ending (List Record)
  | [] => .ok []
  | (_, none) :: _ =>
    .error (.failClosed (.wrap "missing Kafka outcome" (.sentinel .invalidBatchResult)))
  | (record, some outcome) :: rest =>
    match outcome.outcome with
    | .ack => produceKafkaBatch now rest
    | .retry | .defer =>
      match makeKafkaBatchRetry consumer now record outcome with
      | .error err => .error (.failed err)
      | .ok retry => (produceKafkaBatch now rest).map (retry :: ·)
    | .dlq =>
      match makeKafkaBatchDLQ consumer now record outcome with
      | .error err => .error (.failed err)
      | .ok dlq => (produceKafkaBatch now rest).map (dlq :: ·)

def terminalConfirmations (outcomes : List (BatchRecord × Option (FinalOutcome F))) :
    List (BatchItem F) :=
  outcomes.filterMap fun entry => entry.2.bind fun outcome =>
    if outcome.outcome = .dlq ∧
        (outcome.failureKind = some .permanent ∨ outcome.failureKind = some .attemptsExhausted) then
      outcome.item
    else none

structure ProcessedBatch (F : Type) where
  session : Session
  scheduler : RetryPartitionScheduler
  streak : Nat
  published : Option (List Record)
  confirmed : List (BatchItem F)
  ending : Ending

/-- `processKafkaBatch` from the point where every record has its outcome. -/
def finishKafkaBatch (answers : BatchAnswers F) (session : Session)
    (scheduler : RetryPartitionScheduler)
    (streak : Nat) (batch : PolledBatch) (outcomes : List (BatchRecord × Option (FinalOutcome F))) :
    ProcessedBatch F :=
  match produceKafkaBatch consumer answers.producedAt outcomes with
  | .error ending => ⟨session, scheduler, streak, none, [], ending⟩
  | .ok produced =>
    let transaction := commitTransactionalRecords answers.transaction produced
      (setKafkaBatchProcessedOffsets session batch)
    match transaction.ending, batch.firstDeferred with
    | .committed, some deferred =>
      let paused := pauseKafkaBatchPartition transaction.session scheduler deferred batch.deferUntil
      match paused.2 with
      | .error err => ⟨paused.1, scheduler, streak, transaction.published, [], .failed err⟩
      | .ok scheduled =>
        ⟨paused.1, scheduled, streak, transaction.published,
          terminalConfirmations outcomes, .committed⟩
    | .committed, none =>
      ⟨transaction.session, scheduler, streak, transaction.published,
        terminalConfirmations outcomes, .committed⟩
    | ending, _ => ⟨transaction.session, scheduler, streak, transaction.published, [], ending⟩

def processKafkaBatch (answers : BatchAnswers F) (session : Session)
    (scheduler : RetryPartitionScheduler) (streak : Nat) (batch : PolledBatch) : ProcessedBatch F :=
  let valid := validKafkaBatchItems (F := F) consumer answers.now batch.records
  let assign := assignKafkaBatchOutcomes consumer answers.now batch.records
  if valid = [] then finishKafkaBatch consumer answers session scheduler streak batch (assign [])
  else match answers.inbox (valid.map Prod.snd) with
    | .ok report =>
      finishKafkaBatch consumer answers session scheduler 0 batch
        (assign (report.map reportedOutcome))
    | .error handlerErr =>
      if isFailClosed handlerErr then
        ⟨rewindKafkaBatch session batch batch.first, scheduler, streak, none,
          [], .failClosed handlerErr⟩
      else
        finishKafkaBatch consumer answers session scheduler (streak + 1) batch
          (assign (valid.map fun entry => topLevelOutcome consumer (streak + 1)
            handlerErr entry.1 entry.2))

end Process

structure BatchWorker where
  session : Session
  scheduler : RetryPartitionScheduler
  topLevelStreak : Nat
  returned : Option (Option GoError)

structure BatchTurn (F : Type) where
  stopped : Option (Option GoError)
  now : Time
  collect : CollectAnswers
  drained : Bool
  answers : BatchAnswers F

section Loop

variable {E : Type} (consumer : Consumer E) {F : Type} [Sha256 F] (log : Log)

/-- The turn's batch, once it is collected; with the batch that was processed, if
any, and how that ended. -/
def handleKafkaBatch (worker : BatchWorker) (turn : BatchTurn F) (batch : PolledBatch) :
    BatchWorker × Option (PolledBatch × Ending) :=
  if turn.drained then
    ({ worker with
        session := rewindKafkaBatch worker.session batch batch.first
        returned := some none }, none)
  else match batch.records, batch.firstDeferred with
    | [], some deferred =>
      let paused := pauseKafkaBatchPartition (rewindKafkaBatch worker.session batch deferred)
        worker.scheduler deferred batch.deferUntil
      match paused.2 with
      | .error err => ({ worker with session := paused.1, returned := some (some err) }, none)
      | .ok scheduler => ({ worker with session := paused.1, scheduler }, none)
    | _, _ =>
      let processed := processKafkaBatch consumer turn.answers worker.session worker.scheduler
        worker.topLevelStreak batch
      (⟨processed.session, processed.scheduler, processed.streak, processed.ending.result⟩,
        some (batch, processed.ending))

/-- One turn of the loop of `runKafkaBatchSession`. -/
def BatchWorker.turn (worker : BatchWorker) (turn : BatchTurn F) :
    BatchWorker × Option (PolledBatch × Ending) :=
  if worker.returned.isSome then (worker, none)
  else match turn.stopped with
    | some result => ({ worker with returned := some result }, none)
    | none =>
      let released := worker.scheduler.releaseDue turn.now
      let resumed := { worker with
        session := worker.session.resumeFetchPartitions released.1
        scheduler := released.2 }
      if released.2.pollTimeout turn.now second = 0 then (resumed, none)
      else match collectKafkaBatch consumer log turn.collect resumed.session with
        | (.error err, session) => ({ resumed with session, returned := some (some err) }, none)
        | (.ok none, session) => ({ resumed with session }, none)
        | (.ok (some batch), session) =>
          handleKafkaBatch consumer { resumed with session } turn batch

inductive BatchStep (F : Type)
  | turn (answers : BatchTurn F)
  | restart

def BatchWorker.step (worker : BatchWorker) : BatchStep F → BatchWorker
  | .turn answers => (worker.turn consumer log answers).1
  | .restart => ⟨worker.session.restart log, .empty, 0, none⟩

def BatchWorker.initial (committed : Offsets) : BatchWorker :=
    ⟨.initial log committed, .empty, 0, none⟩

def BatchWorker.run (worker : BatchWorker) (steps : List (BatchStep F)) : BatchWorker :=
  steps.foldl (BatchWorker.step consumer log) worker

end Loop

end Gomessenger.Kafka
