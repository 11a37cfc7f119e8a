import Gomessenger.Kafka.BatchOffsets

/-! The batch session never advances the group's offsets.

Along every run the broker's committed offsets stay what they were, so a committed
batch is not recorded as consumed, and after an aborted transaction the session
goes on behind the batch that was aborted. -/

namespace Gomessenger.Kafka

open Inbox CursorLog

section Process

variable {E : Type} {consumer : Consumer E} {F : Type} [Sha256 F] {log : Log}
  {before session : Session} {batch : PolledBatch} {seen : List Record}

theorem produceKafkaBatch_error (now : Time)
    (outcomes : List (BatchRecord × Option (FinalOutcome F)))
    (ending : Ending) (failed : produceKafkaBatch consumer now outcomes = .error ending) :
    ending.result ≠ none := by
  induction outcomes with
  | nil => cases failed
  | cons head rest ih =>
    obtain ⟨record, outcome⟩ := head
    have later : ∀ produced : Record, (produceKafkaBatch consumer now rest).map
      (produced :: ·) = .error ending →
          ending.result ≠ none := by
      intro produced stopped
      cases tail : produceKafkaBatch consumer now rest with
      | error err =>
        rw [tail] at stopped
        cases stopped
        exact ih tail
      | ok records =>
        rw [tail] at stopped
        cases stopped
    cases outcome with
    | none =>
      cases failed
      exact Option.some_ne_none _
    | some outcome =>
      cases kind : outcome.outcome <;> simp only [produceKafkaBatch, kind] at failed
      · exact ih failed
      -- the other outcomes make a record, or stop with its error
      all_goals
        split at failed
        next =>
          cases failed
          exact Option.some_ne_none _
        next produced _ => exact later produced failed

/-- What a processed batch leaves: the broker's offsets, a session that can go on
when the loop does, and after an abort the position behind the batch. -/
structure ProcessedBatch.Kept (before : Session) (batch : PolledBatch)
    (processed : ProcessedBatch F) :
    Prop where
  brokers : ∀ partition, (processed.session.cursors partition).broker =
    (before.cursors partition).broker
  forward : processed.ending.result = none → Forward before processed.session
  aborted : processed.ending = .notCommitted → ∀ last, batch.records.getLast? = some last →
    (processed.session.cursors batch.partition).position = last.record.nextOffset

theorem finishKafkaBatch_kept (collected : batch.From log before session seen)
    (clean : before.Clean)
    (nonempty : batch.records ≠ []) (answers : BatchAnswers F) (scheduler : RetryPartitionScheduler)
    (streak : Nat) (outcomes : List (BatchRecord × Option (FinalOutcome F))) :
    (finishKafkaBatch consumer answers session scheduler streak batch outcomes).Kept before
      batch := by
  obtain ⟨set, behind⟩ := collected.processed clean _ (List.getLast?_eq_some_getLast nonempty)
  unfold finishKafkaBatch
  cases produced : produceKafkaBatch consumer answers.producedAt outcomes with
  | error ending =>
    have stops := produceKafkaBatch_error answers.producedAt outcomes ending produced
    refine ⟨collected.polled.broker_eq, fun goesOn => absurd goesOn stops, ?_⟩
    rintro rfl
    exact absurd rfl stops
  | ok records =>
    have ended := commitTransactionalRecords_ended answers.transaction records
      (setKafkaBatchProcessedOffsets session batch)
    have same := ended_cursors ended set.clean
    have forward := set.of_cursors same
    simp only
    split
    next deferred _ waiting =>
      have paused := pauseKafkaBatchPartition_forward forward scheduler deferred batch.deferUntil
        (collected.polled.ahead deferred (collected.deferred deferred waiting))
      obtain ⟨⟨scheduled, confirmed⟩, rewound⟩ := paused
      simp only [confirmed]
      exact ⟨rewound.brokers, fun _ => rewound, nofun⟩
    next => exact ⟨forward.brokers, fun _ => forward, nofun⟩
    next =>
      refine ⟨forward.brokers, fun _ => forward, ?_⟩
      intro _ last ends
      rw [List.getLast?_eq_some_getLast nonempty] at ends
      rw [same, behind, Option.some.inj ends]

theorem processKafkaBatch_kept (collected : batch.From log before session seen)
    (clean : before.Clean) (nonempty : batch.records ≠ []) (answers : BatchAnswers F)
    (scheduler : RetryPartitionScheduler) (streak : Nat) :
    (processKafkaBatch consumer answers session scheduler streak batch).Kept before batch := by
  have finished := fun streak outcomes =>
    @finishKafkaBatch_kept E consumer F _ log before session batch
    seen collected clean nonempty answers scheduler streak outcomes
  simp only [processKafkaBatch]
  split
  · exact finished _ _
  · split
    · exact finished _ _
    · split
      · have rewound := collected.rewind clean batch.first collected.first
        exact ⟨rewound.brokers, nofun, nofun⟩
      · exact finished _ _

/-- What a turn leaves of the session it began with; and of the batch it processed,
if any, where that batch came from and where an abort left the session. -/
structure TurnKept (log : Log) (before : Session) (after : BatchWorker)
    (processed : Option (PolledBatch × Ending)) : Prop where
  brokers : ∀ partition, (after.session.cursors partition).broker =
    (before.cursors partition).broker
  forward : after.returned = none → Forward before after.session
  read : ∀ batch ending, processed = some (batch, ending) →
    (∀ item ∈ batch.records, item.record.topicPartition = batch.partition ∧
      before.position batch.partition ≤ item.record.offset) ∧
    batch.records.Pairwise (fun left right => left.record.offset ≤ right.record.offset)
  aborted : ∀ batch, processed = some (batch, .notCommitted) → ∀ last,
    batch.records.getLast? = some last →
      (after.session.cursors batch.partition).position = last.record.nextOffset

theorem TurnKept.unprocessed {before : Session} {after : BatchWorker} (brokers : ∀ partition,
      (after.session.cursors partition).broker = (before.cursors partition).broker)
    (forward : after.returned = none → Forward before after.session) :
    TurnKept log before after none :=
  ⟨brokers, forward, fun _ _ absent => absurd absent.symm (nofun),
    fun _ absent => absurd absent.symm (nofun)⟩

theorem handleKafkaBatch_kept {before : Session} (worker : BatchWorker) (turn : BatchTurn F)
    (batch : PolledBatch) (clean : before.Clean)
    (collected : batch.Collected log before worker.session)
    (ordered : batch.records.Pairwise (fun left right =>
      left.record.offset ≤ right.record.offset)) :
    TurnKept log before (handleKafkaBatch consumer worker turn batch).1
      (handleKafkaBatch consumer worker turn batch).2 := by
  obtain ⟨⟨seen, collected⟩, started⟩ := collected
  unfold handleKafkaBatch
  split
  · have rewound := collected.rewind clean batch.first collected.first
    exact .unprocessed rewound.brokers (fun live => absurd live (nofun))
  · split
    next deferred _ waiting =>
      have member := collected.deferred deferred waiting
      have rewound := collected.rewind clean deferred member
      obtain ⟨⟨scheduled, confirmed⟩, paused⟩ := pauseKafkaBatchPartition_forward rewound
        worker.scheduler deferred batch.deferUntil (collected.polled.ahead deferred member)
      simp only [confirmed]
      exact .unprocessed paused.brokers (fun _ => paused)
    next other =>
      have nonempty : batch.records ≠ [] := by
        rcases started with some | waiting
        · exact some
        · intro empty
          obtain ⟨deferred, found⟩ := Option.ne_none_iff_exists'.mp waiting
          exact other deferred empty found
      have kept := @processKafkaBatch_kept E consumer F _ log before
        worker.session batch seen collected
        clean nonempty turn.answers worker.scheduler worker.topLevelStreak
      refine ⟨kept.brokers, kept.forward, ?_, ?_⟩
      · intro processed ending same
        cases same
        refine ⟨?_, ordered⟩
        intro item member
        obtain ⟨read, placed⟩ := collected.records item member
        exact ⟨placed, placed ▸ collected.polled.ahead item.record read⟩
      · intro processed same
        simp only [Option.some.injEq, Prod.mk.injEq] at same
        obtain ⟨rfl, ending⟩ := same
        exact kept.aborted ending

theorem turn_kept (worker : BatchWorker) (turn : BatchTurn F) (running : worker.returned = none)
    (clean : worker.session.Clean) :
    TurnKept log worker.session (worker.turn consumer log turn).1
      (worker.turn consumer log turn).2 := by
  have still : Forward worker.session worker.session :=
    ⟨clean, fun _ => Int.le_refl _, fun _ => rfl⟩
  simp only [BatchWorker.turn, running, Option.isSome_none, Bool.false_eq_true, if_false]
  cases turn.stopped with
  | some result => exact .unprocessed (fun _ => rfl) (fun _ => still)
  | none =>
    -- Resuming partitions leaves the cursors, and so the offsets, alone.
    have resumed : Forward worker.session
        (worker.session.resumeFetchPartitions (worker.scheduler.releaseDue turn.now).1) :=
      still.of_cursors rfl
    have brokers := @collectKafkaBatch_brokers E consumer log turn.collect
      (worker.session.resumeFetchPartitions (worker.scheduler.releaseDue turn.now).1)
    have collected := @collectKafkaBatch_collected E consumer log turn.collect
      (worker.session.resumeFetchPartitions (worker.scheduler.releaseDue turn.now).1)
    have nothing := @collectKafkaBatch_none E consumer log turn.collect
      (worker.session.resumeFetchPartitions (worker.scheduler.releaseDue turn.now).1)
    simp only
    split
    · exact .unprocessed (fun _ => rfl) (fun _ => resumed)
    · rcases result : collectKafkaBatch consumer log turn.collect
        (worker.session.resumeFetchPartitions (worker.scheduler.releaseDue turn.now).1)
          with ⟨answer, after⟩
      rw [result] at brokers collected nothing
      cases answer with
      | error err => exact .unprocessed brokers (fun live => absurd live (nofun))
      | ok found =>
        cases found with
        | none => exact .unprocessed brokers (fun _ => resumed.of_cursors (nothing rfl))
        | some batch =>
          obtain ⟨ready, ordered⟩ := collected batch rfl
          have kept := @handleKafkaBatch_kept E consumer F _ log _
            ⟨after, (worker.scheduler.releaseDue turn.now).2,
              worker.topLevelStreak, none⟩ turn batch
            resumed.clean ready ordered
          exact ⟨kept.brokers,
            fun live => ⟨(kept.forward live).clean, (kept.forward live).ahead,
              (kept.forward live).brokers⟩, kept.read, kept.aborted⟩

end Process

section Runs

variable {E : Type} (consumer : Consumer E) {F : Type} [Sha256 F] (log : Log) (committed : Offsets)

/-- The broker still holds the offsets it began with, and a running session has
read nothing past its local committed offsets, which are not behind the broker's. -/
structure BatchWorker.Unsent (worker : BatchWorker) : Prop where
  brokers : ∀ partition, (worker.session.cursors partition).broker = committed partition
  current : worker.returned = none → worker.session.Clean ∧ ∀ partition offset,
    committed partition = some offset →
      offset.offset ≤ worker.session.position partition

variable {consumer log committed}

variable (worker : BatchWorker)

theorem restart_unsent (streak : Nat) (scheduler : RetryPartitionScheduler)
    (brokers : ∀ partition, (worker.session.cursors partition).broker = committed partition) :
    BatchWorker.Unsent committed ⟨worker.session.restart log, scheduler, streak, none⟩ where
  brokers := brokers
  current _ := by
    refine ⟨worker.session.clean_restart log, ?_⟩
    intro partition offset sent
    simp only [Session.position, Session.restart, Cursor.restart, brokers, sent]
    exact Int.le_refl _

theorem initial_unsent : (BatchWorker.initial log committed).Unsent committed :=
  restart_unsent ⟨⟨fun partition => ⟨log.start partition, log.start partition, committed partition⟩,
    fun _ => false⟩, .empty, 0, none⟩ 0 .empty (fun _ => rfl)

theorem step_unsent (unsent : worker.Unsent committed) (step : BatchStep F) :
    (worker.step consumer log step).Unsent committed := by
  cases step with
  | restart => exact restart_unsent worker 0 .empty unsent.brokers
  | turn answers =>
    cases returned : worker.returned with
    | some result =>
      have unchanged : (worker.turn consumer log answers).1 = worker := by
        simp [BatchWorker.turn, returned]
      simp only [BatchWorker.step, unchanged]
      exact unsent
    | none =>
      obtain ⟨clean, behind⟩ := unsent.current returned
      have kept := @turn_kept E consumer F _ log worker answers returned clean
      refine ⟨fun partition => (kept.brokers partition).trans (unsent.brokers partition), ?_⟩
      intro running
      have forward := kept.forward running
      refine ⟨forward.clean, ?_⟩
      intro partition offset sent
      exact Int.le_trans (behind partition offset sent) (forward.ahead partition)

theorem run_unsent (steps : List (BatchStep F)) (worker : BatchWorker)
    (unsent : worker.Unsent committed) :
    (worker.run consumer log steps).Unsent committed := by
  induction steps generalizing worker with
  | nil => exact unsent
  | cons step rest ih => exact ih _ (step_unsent worker unsent step)

theorem turn_running (turn : BatchTurn F) (processed : PolledBatch × Ending)
    (found : (worker.turn consumer log turn).2 = some processed) : worker.returned = none := by
  cases returned : worker.returned with
  | none => rfl
  | some result =>
    simp only [BatchWorker.turn, returned, Option.isSome_some, if_true] at found
    exact absurd found.symm (nofun)

/-- The broker's offset of the batch's partition is right behind its last record,
and no other partition's offset passes a record that was polled with the batch. -/
def CommitProgress (session : Session) (batch : PolledBatch) : Prop :=
  (∃ last offset, batch.records.getLast? = some last ∧
    (session.cursors batch.partition).broker = some offset ∧
      offset.offset = last.record.offset + 1) ∧
  ∀ partition, partition ≠ batch.partition → ∀ earliest,
    batch.earliestOffsets partition = some earliest →
    ∀ offset, (session.cursors partition).broker = some offset → offset.offset ≤ earliest.offset

/-- The next record of the batch's partition is the batch's first record. -/
def ReplaysBatch (log : Log) (session : Session) (batch : PolledBatch) : Prop :=
  ∃ first, batch.records.head? = some first ∧
    (session.unread log batch.partition).head? = some first.record

/-- No committed batch advances the broker's offset of its partition: the
transaction finds nothing to send. -/
theorem committed_batch_makes_no_progress (consumer : Consumer E) (log : Log) (committed : Offsets)
    (steps : List (BatchStep F)) (turn : BatchTurn F) (batch : PolledBatch)
    (processed : (((BatchWorker.initial log committed).run consumer log steps).turn consumer log
      turn).2 =
      some (batch, .committed)) :
    ¬CommitProgress (((BatchWorker.initial log committed).run consumer log steps).turn
      consumer log turn).1.session
      batch := by
  have unsent : ((BatchWorker.initial log committed).run consumer log steps).Unsent committed :=
    run_unsent steps _ initial_unsent
  have running := turn_running _ turn _ processed
  obtain ⟨clean, behind⟩ := unsent.current running
  have kept := @turn_kept E consumer F _ log _ turn running clean
  rintro ⟨⟨last, offset, ends, sent, reached⟩, _⟩
  have read := ((kept.read batch _ processed).1 last (List.mem_of_getLast? ends)).2
  rw [kept.brokers, unsent.brokers] at sent
  have start := behind batch.partition offset sent
  omega

def sampleBatchTurn (outcome : BatchOutcome) (ended : EndAnswer) : BatchTurn Preimage where
  stopped := none
  now := 10
  collect := ⟨.ok [(sampleRecord.topicPartition, 1)], 10, fun _ => ⟨20, 20, .ok []⟩, fun _ => 10⟩
  drained := false
  answers := ⟨10, fun items => .ok (items.map fun item =>
    ⟨item.key, item.fingerprint, outcome, 1, false, 0, none, none⟩), 10, ⟨none, none, none, ended⟩⟩

def sampleBatchRun (outcome : BatchOutcome) (ended : EndAnswer) :
    BatchWorker × Option (PolledBatch × Ending) :=
  (BatchWorker.initial (Log.single sampleRecord) (fun _ => none)).turn sampleConsumer
    (Log.single sampleRecord) (sampleBatchTurn outcome ended)

theorem committed_batch_makes_no_progress_single :
    ∃ batch, (sampleBatchRun .ack .committed).2 = some (batch, .committed) ∧
      ¬CommitProgress (sampleBatchRun .ack .committed).1.session batch :=
  ⟨_, rfl, committed_batch_makes_no_progress sampleConsumer
    (Log.single sampleRecord) (fun _ => none) []
    (sampleBatchTurn .ack .committed) _ rfl⟩

/-- The batch of one acknowledged record commits, and the group has no offset still. -/
theorem committed_batch_left_uncommitted : (sampleBatchRun .ack .committed).2.map (fun processed =>
        (processed.1.records.map BatchRecord.record, processed.2)) =
      some ([sampleRecord], .committed) ∧
    ((sampleBatchRun .ack .committed).1.session.cursors sampleRecord.topicPartition).position =
      ⟨1, 5⟩ ∧
    ((sampleBatchRun .ack .committed).1.session.cursors sampleRecord.topicPartition).broker =
      none := by
  decide

/-- After an aborted transaction the session goes on behind the batch's last
record, so the batch is never read again. -/
theorem aborted_batch_is_passed_over (consumer : Consumer E) (log : Log) (committed : Offsets)
    (steps : List (BatchStep F)) (turn : BatchTurn F) (batch : PolledBatch)
    (processed : (((BatchWorker.initial log committed).run consumer log steps).turn consumer log
      turn).2 =
      some (batch, .notCommitted)) :
    ¬ReplaysBatch log (((BatchWorker.initial log committed).run consumer log steps).turn
      consumer log turn).1.session
      batch := by
  have unsent : ((BatchWorker.initial log committed).run consumer log steps).Unsent committed :=
    run_unsent steps _ initial_unsent
  have running := turn_running _ turn _ processed
  have kept := @turn_kept E consumer F _ log _ turn running (unsent.current running).1
  rintro ⟨first, starts, next⟩
  obtain ⟨rest, split⟩ := List.head?_eq_some_iff.mp starts
  have nonempty : batch.records ≠ [] := by simp [split]
  have ends := List.getLast?_eq_some_getLast nonempty
  have position := kept.aborted batch processed _ ends
  have ahead := (next_mem next).2
  have ordered := (kept.read batch _ processed).2
  have bounded : first.record.offset ≤ (batch.records.getLast nonempty).record.offset := by
    have member := List.getLast_mem nonempty
    revert member
    generalize batch.records.getLast nonempty = last
    intro member
    rw [split] at member ordered
    rcases List.mem_cons.mp member with rfl | later
    · exact Int.le_refl _
    · exact List.rel_of_pairwise_cons ordered later
  simp only [Session.position, position, Record.nextOffset] at ahead
  omega

theorem aborted_batch_is_passed_over_single :
    ∃ batch, (sampleBatchRun .retry .aborted).2 = some (batch, .notCommitted) ∧
      ¬ReplaysBatch (Log.single sampleRecord) (sampleBatchRun .retry .aborted).1.session batch :=
  ⟨_, rfl, aborted_batch_is_passed_over sampleConsumer (Log.single sampleRecord) (fun _ => none) []
    (sampleBatchTurn .retry .aborted) _ rfl⟩

/-- The record's retry is aborted, the session runs on, and nothing is left to read. -/
theorem aborted_retry_dropped : (sampleBatchRun .retry .aborted).2.map (fun processed =>
        (processed.1.records.map BatchRecord.record, processed.2)) =
      some ([sampleRecord], .notCommitted) ∧
    (sampleBatchRun .retry .aborted).1.returned = none ∧
    (sampleBatchRun .retry .aborted).1.session.unread (Log.single sampleRecord)
      sampleRecord.topicPartition = [] := by
  decide

end Runs

end Gomessenger.Kafka
