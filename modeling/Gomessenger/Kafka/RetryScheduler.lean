import Gomessenger.Kafka.Session

/-! Deferred retry partitions: the deadlines a worker waits for, and the pause
and rewind that leaves an early record unread. -/

namespace Gomessenger.Kafka

open CursorLog

structure DeferredPartition where
  partition : TopicPartition
  deadline : Time
  deriving DecidableEq, Repr

/-- The scheduler's heap as the list of its items, one for each partition. -/
structure RetryPartitionScheduler where
  deadlines : List DeferredPartition
  ownedPause : List TopicPartition
  deriving DecidableEq, Repr

namespace RetryPartitionScheduler

def empty : RetryPartitionScheduler := ⟨[], []⟩

def schedule (scheduler : RetryPartitionScheduler) (partition : TopicPartition) (deadline : Time)
    (ownsPause : Bool) : RetryPartitionScheduler where
  deadlines :=
    if scheduler.deadlines.any (fun item => decide (item.partition = partition)) then
      scheduler.deadlines.map (fun item =>
        if item.partition = partition then { item with deadline } else item)
    else scheduler.deadlines ++ [⟨partition, deadline⟩]
  ownedPause := if ownsPause then scheduler.ownedPause.insert partition else scheduler.ownedPause

def pollTimeout (scheduler : RetryPartitionScheduler) (now : Time) (maximum : Nat) : Nat :=
  match (scheduler.deadlines.map DeferredPartition.deadline).min? with
  | none => maximum
  | some deadline => min maximum (deadline - now)

/-- The due items leave the heap; the partitions whose pause is owned are resumed. -/
def releaseDue (scheduler : RetryPartitionScheduler) (now : Time) :
    List TopicPartition × RetryPartitionScheduler :=
  let due := (scheduler.deadlines.filter (fun item => decide (item.deadline ≤ now))).map
    DeferredPartition.partition
  (due.filter (fun partition => decide (partition ∈ scheduler.ownedPause)),
    ⟨scheduler.deadlines.filter (fun item => !decide (item.deadline ≤ now)),
      scheduler.ownedPause.filter (fun partition => !decide (partition ∈ due))⟩)

end RetryPartitionScheduler

def second : Nat := 1000000000

def offsetAt (partition : TopicPartition) (offset : EpochOffset) : Offsets :=
  Function.update (fun _ => none) partition (some offset)

def errRetryOffsetRewindNotConfirmed : GoError :=
  .text "messenger/kafka: retry offset rewind was not confirmed"

def pauseAndRewindRetryPartition (session : Session) (record : Record) :
    Except GoError (TopicPartition × Bool) × Session :=
  let partition := record.topicPartition
  let ownedPause := !session.paused partition
  let want := record.epochOffset
  let rewound := (session.pauseFetchPartitions [partition]).setOffsets (offsetAt partition want)
  if rewound.committedOffsets partition ≠ want ∨
      (rewound.uncommittedOffsets partition).any (fun offset => decide (offset ≠ want)) then
    (.error errRetryOffsetRewindNotConfirmed, rewound)
  else (.ok (partition, ownedPause), rewound)

theorem setOffsets_offsetAt (session : Session) (partition : TopicPartition)
    (offset : EpochOffset) :
    (session.setOffsets (offsetAt partition offset)).cursors =
      Function.update session.cursors partition ((session.cursors partition).seek offset) := by
  funext other
  by_cases same : other = partition
  · subst same
    simp [Session.setOffsets, offsetAt]
  · simp [Session.setOffsets, offsetAt, Function.update_of_ne same]

theorem pauseAndRewind_confirmed (session : Session) (record : Record) :
    (pauseAndRewindRetryPartition session record).1 =
        .ok (record.topicPartition, !session.paused record.topicPartition) ∧
      (pauseAndRewindRetryPartition session record).2.cursors =
        Function.update session.cursors record.topicPartition
          ((session.cursors record.topicPartition).seek record.epochOffset) := by
  have cursors := setOffsets_offsetAt (session.pauseFetchPartitions [record.topicPartition])
    record.topicPartition record.epochOffset
  rw [Session.pauseFetchPartitions_cursors] at cursors
  have confirmed : ¬(((session.pauseFetchPartitions [record.topicPartition]).setOffsets
        (offsetAt record.topicPartition record.epochOffset)).committedOffsets
          record.topicPartition ≠
          record.epochOffset ∨
      (((session.pauseFetchPartitions [record.topicPartition]).setOffsets
        (offsetAt record.topicPartition record.epochOffset)).uncommittedOffsets
          record.topicPartition).any (fun offset => decide (offset ≠ record.epochOffset)) =
              true) := by
    simp only [Session.committedOffsets, Session.uncommittedOffsets, cursors, Function.update_self]
    simp [Cursor.seek, Cursor.uncommitted]
  simp only [pauseAndRewindRetryPartition, if_neg confirmed, true_and]
  exact cursors

end Gomessenger.Kafka
