import Gomessenger.Lib.CursorLog
import Gomessenger.Lib.Utf8
import Gomessenger.Inbox.Types

/-! A transactional consumer session and the broker it reads from.

The session keeps a position and a local committed offset for each partition;
the broker keeps the group's committed offsets and the records that committed
transactions produced. -/

namespace Gomessenger.Kafka

open CursorLog

structure TopicPartition where
  topic : String
  partition : Int
  deriving DecidableEq, Repr

structure EpochOffset where
  epoch : Int
  offset : Int
  deriving DecidableEq, Repr

structure RecordHeader where
  key : String
  value : Bytes
  deriving DecidableEq, Repr

structure Record where
  topic : String
  partition : Int
  offset : Int
  leaderEpoch : Int
  key : Bytes
  value : Bytes
  headers : List RecordHeader
  timestamp : Time
  deriving DecidableEq, Repr

namespace Record

def topicPartition (record : Record) : TopicPartition := ⟨record.topic, record.partition⟩

def epochOffset (record : Record) : EpochOffset := ⟨record.leaderEpoch, record.offset⟩

def nextOffset (record : Record) : EpochOffset := ⟨record.leaderEpoch, record.offset + 1⟩

end Record

/-- The records of the consumed topics, by partition. Compaction and transaction
markers leave gaps between offsets; `start` is where a group without a committed
offset begins. -/
structure Log where
  records : TopicPartition → List Record
  start : TopicPartition → EpochOffset
  placed : ∀ partition, ∀ record ∈ records partition, record.topicPartition = partition
  ascending : ∀ partition, Ascending Record.offset (records partition)
  bounded : ∀ partition, ∀ record ∈ records partition, (start partition).offset ≤ record.offset

def Log.single (record : Record) : Log where
  records partition := if record.topicPartition = partition then [record] else []
  start _ := record.epochOffset
  placed partition found member := by
    split at member
    next same =>
      rw [List.mem_singleton.mp member]
      exact same
    next => cases member
  ascending partition := by
    split
    · exact List.pairwise_singleton _ _
    · exact List.Pairwise.nil
  bounded partition found member := by
    split at member
    next =>
      rw [List.mem_singleton.mp member]
      exact Int.le_refl _
    next => cases member

abbrev Offsets := TopicPartition → Option EpochOffset

structure Session where
  cursors : TopicPartition → Cursor EpochOffset
  paused : TopicPartition → Bool

abbrev Request := List (TopicPartition × Nat)

namespace Session

def position (session : Session) (partition : TopicPartition) : Int :=
  (session.cursors partition).position.offset

def unread (log : Log) (session : Session) (partition : TopicPartition) : List Record :=
  remaining Record.offset (session.position partition) (log.records partition)

def advance (records : List Record) (session : Session) (partition : TopicPartition) : Session :=
  match records.getLast? with
  | none => session
  | some last =>
    { session with
      cursors := Function.update session.cursors partition
        ((session.cursors partition).move last.nextOffset) }

def fetched (log : Log) (session : Session) (partition : TopicPartition)
    (count : Nat) : List Record :=
  if session.paused partition then [] else (session.unread log partition).take count

/-- `PollRecords`, for the records that are buffered. -/
def pollRecords (log : Log) (session : Session) : Nat → Request → List Record × Session
  | _, [] => ([], session)
  | maxRecords, (partition, count) :: rest =>
    let records := session.fetched log partition (min count maxRecords)
    let polled := (session.advance records partition).pollRecords log
      (maxRecords - records.length) rest
    (records ++ polled.1, polled.2)

def setOffsets (offsets : Offsets) (session : Session) : Session :=
  { session with cursors := fun partition =>
      match offsets partition with
      | none => session.cursors partition
      | some offset => (session.cursors partition).seek offset }

def pauseFetchPartitions (partitions : List TopicPartition) (session : Session) : Session :=
  { session with
    paused := fun partition => session.paused partition || decide (partition ∈ partitions) }

def resumeFetchPartitions (partitions : List TopicPartition) (session : Session) : Session :=
  { session with
    paused := fun partition => session.paused partition && decide (partition ∉ partitions) }

def committedOffsets (session : Session) (partition : TopicPartition) : EpochOffset :=
  (session.cursors partition).committed

def uncommittedOffsets (session : Session) : Offsets :=
  fun partition => (session.cursors partition).uncommitted

def commit (session : Session) : Session :=
  { session with cursors := fun partition => (session.cursors partition).commit }

def abort (session : Session) : Session :=
  { session with cursors := fun partition => (session.cursors partition).abort }

/-- A new member of the group, with every partition assigned to it. -/
def restart (log : Log) (session : Session) : Session where
  cursors partition := (session.cursors partition).restart (log.start partition)
  paused _ := false

def initial (log : Log) (committed : Offsets) : Session where
  cursors partition := Cursor.restart (log.start partition)
    ⟨log.start partition, log.start partition, committed partition⟩
  paused _ := false

def Clean (session : Session) : Prop := ∀ partition, (session.cursors partition).Clean

variable (session : Session) (partitions : List TopicPartition)

@[simp] theorem pauseFetchPartitions_cursors (session : Session) :
    (session.pauseFetchPartitions partitions).cursors = session.cursors := rfl

@[simp] theorem resumeFetchPartitions_cursors (session : Session) :
    (session.resumeFetchPartitions partitions).cursors = session.cursors := rfl

theorem commit_of_clean (clean : session.Clean) : session.commit = session := by
  have same : session.commit.cursors = session.cursors :=
    funext fun partition => Cursor.commit_of_clean _ (clean partition)
  obtain ⟨cursors, paused⟩ := session
  exact congrArg (fun cursors => Session.mk cursors paused) same

theorem clean_restart (log : Log) (session : Session) : (session.restart log).Clean :=
  fun partition => Cursor.clean_restart _ (session.cursors partition)

theorem advance_nil (partition : TopicPartition) : session.advance [] partition = session := rfl

variable {partition : TopicPartition}

theorem advance_other (records : List Record) (session : Session) {other : TopicPartition}
    (distinct : other ≠ partition) :
    (session.advance records partition).cursors other = session.cursors other := by
  unfold advance
  cases records.getLast? with
  | none => rfl
  | some last => exact Function.update_of_ne distinct _ _

theorem advance_self (records : List Record) (session : Session) (partition : TopicPartition)
    (last : Record) (ends : records.getLast? = some last) :
    (session.advance records partition).cursors partition =
      (session.cursors partition).move last.nextOffset := by
  simp [advance, ends]

theorem mem_fetched {log : Log} {session : Session} {count : Nat}
    {record : Record} (member : record ∈ session.fetched log partition count) :
    record ∈ log.records partition ∧ session.position partition ≤ record.offset := by
  unfold fetched at member
  split at member
  · cases member
  · exact mem_remaining.mp (List.mem_of_mem_take member)

end Session

structure Polled (log : Log) (before : Session) (records : List Record)
    (after : Session) : Prop where
  member : ∀ record ∈ records, record ∈ log.records record.topicPartition
  ahead : ∀ record ∈ records, before.position record.topicPartition ≤ record.offset
  untouched : ∀ partition, (∀ record ∈ records, record.topicPartition ≠ partition) →
    after.cursors partition = before.cursors partition
  moved : ∀ partition, ∃ target : EpochOffset, before.position partition ≤ target.offset ∧
      after.cursors partition = (before.cursors partition).move target

namespace Polled

variable {log : Log} {before middle after : Session} {records more : List Record}

theorem refl (log : Log) (session : Session) : Polled log session [] session where
  member _ absent := by cases absent
  ahead _ absent := by cases absent
  untouched _ _ := rfl
  moved partition := ⟨(session.cursors partition).position, Int.le_refl _, rfl⟩

theorem position_le (polled : Polled log before records after) (partition : TopicPartition) :
    before.position partition ≤ after.position partition := by
  obtain ⟨target, above, same⟩ := polled.moved partition
  unfold Session.position
  rw [same]
  exact above

theorem trans (first : Polled log before records middle) (second : Polled log middle more after) :
    Polled log before (records ++ more) after where
  member record present := by
    rcases List.mem_append.mp present with early | late
    · exact first.member record early
    · exact second.member record late
  ahead record present := by
    rcases List.mem_append.mp present with early | late
    · exact first.ahead record early
    · exact Int.le_trans (first.position_le _) (second.ahead record late)
  untouched partition absent := by
    rw [second.untouched partition (fun record late => absent record
      (List.mem_append_right _ late)),
      first.untouched partition (fun record early => absent record (List.mem_append_left _ early))]
  moved partition := by
    obtain ⟨target, above, same⟩ := second.moved partition
    obtain ⟨passed, _, start⟩ := first.moved partition
    refine ⟨target, Int.le_trans (first.position_le partition) above, ?_⟩
    rw [same, start]
    rfl

theorem broker_eq (polled : Polled log before records after) (partition : TopicPartition) :
    (after.cursors partition).broker = (before.cursors partition).broker := by
  obtain ⟨target, _, same⟩ := polled.moved partition
  rw [same]
  rfl

end Polled

theorem Session.advance_polled (log : Log) (session : Session)
    (partition : TopicPartition) (count : Nat) :
    Polled log session (session.fetched log partition count)
      (session.advance (session.fetched log partition count) partition) where
  member record present := by
    have found := (Session.mem_fetched present).1
    rw [log.placed partition record found]
    exact found
  ahead record present := by
    have found := Session.mem_fetched present
    rw [log.placed partition record found.1]
    exact found.2
  untouched other absent := by
    by_cases same : other = partition
    · have empty : session.fetched log partition count = [] := by
        apply List.eq_nil_iff_forall_not_mem.mpr
        intro record present
        exact absent record present ((log.placed partition record
          (Session.mem_fetched present).1).trans same.symm)
      rw [empty, Session.advance_nil]
    · exact Session.advance_other _ _ same
  moved other := by
    by_cases same : other = partition
    · subst same
      cases ends : (session.fetched log other count).getLast? with
      | none =>
        rw [List.getLast?_eq_none_iff.mp ends, Session.advance_nil]
        exact ⟨(session.cursors other).position, Int.le_refl _, rfl⟩
      | some last =>
        have found := (Session.mem_fetched (List.mem_of_getLast? ends)).2
        refine ⟨last.nextOffset, ?_, Session.advance_self _ session other last ends⟩
        exact Int.le_trans found (Int.le_of_lt (Int.lt_succ _))
    · exact ⟨(session.cursors other).position, Int.le_refl _, Session.advance_other _ _ same⟩

theorem Session.pollRecords_polled (log : Log) (session : Session)
    (maxRecords : Nat) (request : Request) :
    Polled log session (session.pollRecords log maxRecords request).1
      (session.pollRecords log maxRecords request).2 := by
  induction request generalizing session maxRecords with
  | nil => exact Polled.refl log session
  | cons head rest ih =>
    obtain ⟨partition, count⟩ := head
    exact (session.advance_polled log partition _).trans (ih _ _)

end Gomessenger.Kafka
