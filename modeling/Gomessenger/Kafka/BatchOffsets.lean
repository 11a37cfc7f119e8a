import Gomessenger.Kafka.Batch

/-! What the batch session does to the offsets.

Before its transaction ends, a batch sets the offsets of everything it polled, and
setting an offset also replaces the local committed offset. So no partition is
ever ahead of its local committed offset when a transaction ends: a commit sends
nothing to the broker, and an abort moves no position back. -/

namespace Gomessenger.Kafka

open Inbox CursorLog

theorem recordEarliest_other (offsets : Offsets) (record : Record) {partition : TopicPartition}
    (distinct : partition ≠ record.topicPartition) :
    recordEarliestKafkaOffset offsets record partition = offsets partition := by
  cases found : offsets record.topicPartition with
  | none => simp only [recordEarliestKafkaOffset, found, Function.update_of_ne distinct]
  | some current =>
    simp only [recordEarliestKafkaOffset, found]
    split
    · exact Function.update_of_ne distinct _ _
    · rfl

theorem recordEarliest_self (offsets : Offsets) (record : Record) :
    recordEarliestKafkaOffset offsets record record.topicPartition = some record.epochOffset ∨
      ∃ offset, offsets record.topicPartition = some offset ∧
        recordEarliestKafkaOffset offsets record record.topicPartition = some offset := by
  cases found : offsets record.topicPartition with
  | none => simp [recordEarliestKafkaOffset, found]
  | some current =>
    simp only [recordEarliestKafkaOffset, found]
    split
    · exact .inl (Function.update_self ..)
    · exact .inr ⟨current, rfl, found⟩

/-- The offsets hold one entry for each partition that was polled, and it is the
offset of one of its records. -/
structure Earliest (records : List Record) (offsets : Offsets) : Prop where
  polled : ∀ record ∈ records, offsets record.topicPartition ≠ none
  taken : ∀ partition offset, offsets partition = some offset →
    ∃ record ∈ records, record.topicPartition = partition ∧ record.epochOffset = offset

theorem Earliest.append {records : List Record} {offsets : Offsets}
    (earliest : Earliest records offsets) (more : List Record) : Earliest (records ++ more)
    (recordEarliestKafkaOffsets offsets more) := by
  induction more generalizing records offsets with
  | nil =>
    rw [List.append_nil]
    exact earliest
  | cons head tail ih =>
    have step : Earliest (records ++ [head]) (recordEarliestKafkaOffset offsets head) := by
      constructor
      · intro record member
        by_cases same : record.topicPartition = head.topicPartition
        · rw [same]
          rcases recordEarliest_self offsets head with found | ⟨offset, _, found⟩ <;> simp [found]
        · rw [recordEarliest_other offsets head same]
          rcases List.mem_append.mp member with early | last
          · exact earliest.polled record early
          · exact absurd (congrArg Record.topicPartition (List.mem_singleton.mp last)) same
      · intro partition offset found
        by_cases same : partition = head.topicPartition
        · subst same
          rcases recordEarliest_self offsets head with own | ⟨earlier, kept, held⟩
          · rw [own] at found
            exact ⟨head, by simp, rfl, Option.some.inj found⟩
          · rw [held] at found
            obtain ⟨record, member, placed⟩ := earliest.taken _ offset (kept.trans found)
            exact ⟨record, List.mem_append_left _ member, placed⟩
        · rw [recordEarliest_other offsets head same] at found
          obtain ⟨record, member, placed⟩ := earliest.taken partition offset found
          exact ⟨record, List.mem_append_left _ member, placed⟩
    have rest := ih step
    rw [List.append_assoc] at rest
    exact rest

theorem earliest_of_polled (records : List Record) :
    Earliest records (earliestKafkaOffsets records) := by
  have none : Earliest [] (fun _ => none) := ⟨nofun, nofun⟩
  exact none.append records

/-- A batch under collection: what was polled since the session stood at
`before`, and that everything in the batch is one of those records. -/
structure PolledBatch.From (log : Log) (before session : Session) (batch : PolledBatch)
    (seen : List Record) : Prop where
  polled : Polled log before seen session
  earliest : Earliest seen batch.earliestOffsets
  first : batch.first ∈ seen
  records : ∀ item ∈ batch.records, item.record ∈ seen ∧
    item.record.topicPartition = batch.partition
  deferred : ∀ record, batch.firstDeferred = some record → record ∈ seen

section Collect

variable {E : Type} {consumer : Consumer E} {log : Log}

structure Selects (record : Record) (batch after : PolledBatch) : Prop where
  offsets : after.earliestOffsets = batch.earliestOffsets
  partition : after.partition = batch.partition
  first : after.first = batch.first
  records : after.records = batch.records ∨ ∃ item, item.record = record ∧
    record.topicPartition = batch.partition ∧
      after.records = batch.records ++ [item]
  deferred : after.firstDeferred = batch.firstDeferred ∨ after.firstDeferred = some record

theorem admit_selects (batch : PolledBatch) (item : BatchRecord)
    (placed : item.record.topicPartition = batch.partition) :
    Selects item.record batch (admitKafkaBatchRecord consumer batch item) := by
  unfold admitKafkaBatchRecord
  split
  · exact ⟨rfl, rfl, rfl, .inl rfl, .inl rfl⟩
  · split
    · exact ⟨rfl, rfl, rfl, .inl rfl, .inl rfl⟩
    · exact ⟨rfl, rfl, rfl, .inr ⟨item, rfl, placed, rfl⟩, .inl rfl⟩

variable (preparedAt : Record → Time) (answers : CollectAnswers)
    (fills : Nat → Fill) (deadline : Time)
  (first : Record) (rest : List Record)

theorem select_selects (batch : PolledBatch) (record : Record) :
    Selects record batch (selectKafkaBatchRecord consumer preparedAt batch record) := by
  unfold selectKafkaBatchRecord
  split
  · exact ⟨rfl, rfl, rfl, .inl rfl, .inl rfl⟩
  next placed =>
    have same : record.topicPartition = batch.partition := not_not.mp placed
    split
    · exact ⟨rfl, rfl, rfl, .inl rfl, .inl rfl⟩
    · split
      · exact ⟨rfl, rfl, rfl, .inl rfl, .inr rfl⟩
      · exact admit_selects batch ⟨record, _, _, _⟩ same
      · split
        · exact admit_selects batch ⟨record, _, _, _⟩ same
        · exact admit_selects batch ⟨record, _, _, _⟩ same

def PolledBatch.Started (batch : PolledBatch) : Prop :=
    batch.records ≠ [] ∨ batch.firstDeferred ≠ none

variable {batch after : PolledBatch}

theorem Selects.started {record : Record} (selects : Selects record batch after)
    (started : batch.Started) : after.Started := by
  rcases started with some | waiting
  · left
    rcases selects.records with same | ⟨item, _, _, grown⟩
    · rwa [same]
    · simp [grown]
  · right
    rcases selects.deferred with same | own
    · rwa [same]
    · simp [own]

theorem selectAll_started (batch : PolledBatch) (records : List Record) (started : batch.Started) :
    (selectKafkaBatchRecords consumer preparedAt batch records).Started := by
  induction records generalizing batch with
  | nil => exact started
  | cons head tail ih => exact ih _ ((select_selects preparedAt batch head).started started)

theorem select_first : (selectKafkaBatchRecord consumer answers.preparedAt
      (newPolledBatch answers first (first :: rest)) first).Started := by
  have admitted : ∀ item, (admitKafkaBatchRecord consumer
      (newPolledBatch answers first (first :: rest)) item).Started := by
    intro item
    have fresh : hasKafkaBatchConflictingGeneration [] item = false := by
      unfold hasKafkaBatchConflictingGeneration
      split <;> simp
    left
    simp [admitKafkaBatchRecord, newPolledBatch, fresh]
  have room : ¬consumer.maxMessages ≤ 0 := Nat.not_le.mpr consumer.roomy
  unfold selectKafkaBatchRecord
  split
  next other => exact absurd rfl other
  next =>
    split
    next full => simp [newPolledBatch, room] at full
    next =>
      split
      · exact .inr (nofun)
      · exact admitted _
      · split <;> exact admitted _

variable {before session : Session} {seen : List Record}

theorem PolledBatch.From.select {record : Record} (collected : batch.From log before session seen)
    (member : record ∈ seen) (selects : Selects record batch after) :
    after.From log before session seen where
  polled := collected.polled
  earliest := selects.offsets ▸ collected.earliest
  first := selects.first ▸ collected.first
  records item present := by
    rw [selects.partition]
    rcases selects.records with same | ⟨added, own, placed, grown⟩
    · rw [same] at present
      exact collected.records item present
    · rw [grown] at present
      rcases List.mem_append.mp present with early | last
      · exact collected.records item early
      · rw [List.mem_singleton.mp last, own]
        exact ⟨member, placed⟩
  deferred later found := by
    rcases selects.deferred with same | own
    · exact collected.deferred later (same ▸ found)
    · rw [own] at found
      exact Option.some.inj found ▸ member

theorem PolledBatch.From.selectAll {records : List Record}
    (collected : batch.From log before session seen) (members : ∀ record ∈ records, record ∈ seen) :
    (selectKafkaBatchRecords consumer preparedAt batch records).From log before session seen := by
  induction records generalizing batch with
  | nil => exact collected
  | cons head tail ih =>
    apply ih
    · exact collected.select (members head (.head _)) (select_selects preparedAt batch head)
    · exact fun record later => members record (.tail _ later)

theorem PolledBatch.From.poll {after : Session} {more : List Record}
    (collected : batch.From log before session seen) (polled : Polled log session more after) :
    (selectKafkaBatchRecords consumer preparedAt
      { batch with earliestOffsets := recordEarliestKafkaOffsets batch.earliestOffsets more }
        more).From
        log before after (seen ++ more) := by
  apply PolledBatch.From.selectAll
  · exact ⟨collected.polled.trans polled, collected.earliest.append more,
      List.mem_append_left _ collected.first,
      fun item present => (collected.records item present).imp_left (List.mem_append_left _),
      fun record found => List.mem_append_left _ (collected.deferred record found)⟩
  · exact fun record member => List.mem_append_right _ member

/-- Everything a turn of the fill loop can do to a batch. -/
inductive FillTurn.Effect (consumer : Consumer E) (log : Log) (preparedAt : Record → Time)
    (batch : PolledBatch) (session : Session) : FillTurn → Prop
  | failed (err : GoError) : Effect consumer log preparedAt batch session
    (.leave (.error err) session)
  | full : Effect consumer log preparedAt batch session (.leave (.ok batch) session)
  | idle (after : Session) (polled : Polled log session [] after) :
      Effect consumer log preparedAt batch session (.leave (.ok batch) after)
  | last (records : List Record) (after : Session) (polled : Polled log session records after) :
      Effect consumer log preparedAt batch session
        (.leave (.ok (selectKafkaBatchRecords consumer preparedAt
          { batch with earliestOffsets := recordEarliestKafkaOffsets batch.earliestOffsets records }
          records)) after)
  | again (records : List Record) (after : Session) (polled : Polled log session records after)
      (room : batch.records.length < consumer.maxMessages)
      (grown : (selectKafkaBatchRecords consumer preparedAt
          { batch with earliestOffsets := recordEarliestKafkaOffsets batch.earliestOffsets records }
          records).records.length ≠ batch.records.length) :
      Effect consumer log preparedAt batch session
        (.again (selectKafkaBatchRecords consumer preparedAt
          { batch with earliestOffsets := recordEarliestKafkaOffsets batch.earliestOffsets records }
          records) after)

theorem fillTurn_effect (fill : Fill) (batch : PolledBatch) (session : Session) :
    FillTurn.Effect consumer log preparedAt batch session
      (fillKafkaBatchTurn consumer log preparedAt deadline fill batch session) := by
  unfold fillKafkaBatchTurn
  split
  next continues =>
    split
    · exact .full
    · cases fill.poll with
      | error err => exact .failed _
      | ok request =>
        have polled :=
          session.pollRecords_polled log (consumer.maxMessages - batch.records.length) request
        simp only
        split
        next empty => exact .idle _ (empty ▸ polled)
        next =>
          split
          · exact .last _ _ polled
          next more =>
            simp only [Bool.or_eq_true, decide_eq_true_eq, not_or] at more
            exact .again _ _ polled continues.2.1 more.2
  next => exact .full

/-- What a poll and the selection from it preserve holds after the fill loop. -/
theorem fillKafkaBatch_keeps (holds : PolledBatch → Session → Prop) (preparedAt : Record → Time)
    (fills : Nat → Fill) (deadline : Time)
    (idle : ∀ batch session after, holds batch session →
      Polled log session [] after → holds batch after)
    (grows : ∀ batch session records after, holds batch session → Polled log session records after →
      holds (selectKafkaBatchRecords consumer preparedAt
        { batch with earliestOffsets := recordEarliestKafkaOffsets batch.earliestOffsets records }
        records) after)
    (fuel step : Nat) (batch : PolledBatch) (session : Session) (start : holds batch session)
    (filled : PolledBatch)
    (done : (fillKafkaBatch consumer log preparedAt fills deadline fuel step batch session).1 =
      .ok filled) :
    holds filled (fillKafkaBatch consumer log preparedAt fills deadline fuel
        step batch session).2 := by
  induction fuel generalizing step batch session with
  | zero =>
    cases done
    exact start
  | succ fuel ih =>
    have effect := @fillTurn_effect E consumer log preparedAt deadline (fills step) batch session
    rw [fillKafkaBatch] at done ⊢
    cases turned : fillKafkaBatchTurn consumer log preparedAt deadline (fills step) batch session
        with
    | leave result after =>
      rw [turned] at effect
      simp only [turned] at done ⊢
      cases effect with
      | failed err => cases done
      | full =>
        cases done
        exact start
      | idle _ polled =>
        cases done
        exact idle _ _ _ start polled
      | last records _ polled =>
        cases done
        exact grows _ _ records _ start polled
    | again grown after =>
      rw [turned] at effect
      simp only [turned] at done ⊢
      cases effect with
      | again records _ polled =>
        exact ih _ _ _ (grows batch session records after start polled) done

theorem fillKafkaBatch_brokers
    (fuel step : Nat) (batch : PolledBatch) (session : Session) (partition : TopicPartition) :
    ((fillKafkaBatch consumer log preparedAt fills deadline fuel step batch session).2.cursors
      partition).broker = (session.cursors partition).broker := by
  induction fuel generalizing step batch session with
  | zero => rfl
  | succ fuel ih =>
    have effect := @fillTurn_effect E consumer log preparedAt deadline (fills step) batch session
    rw [fillKafkaBatch]
    cases turned : fillKafkaBatchTurn consumer log preparedAt deadline (fills step) batch session
        with
    | leave result after =>
      rw [turned] at effect
      cases effect with
      | failed err => rfl
      | full => rfl
      | idle _ polled => exact polled.broker_eq partition
      | last records _ polled => exact polled.broker_eq partition
    | again grown after =>
      rw [turned] at effect
      cases effect with
      | again records _ polled => exact (ih _ _ _).trans (polled.broker_eq partition)

/-- A batch that was polled since the session stood at `before` and has started. -/
def PolledBatch.Collected (log : Log) (before : Session) (batch : PolledBatch)
    (session : Session) : Prop :=
  (∃ seen, batch.From log before session seen) ∧ batch.Started

theorem fillKafkaBatch_collected (fuel step : Nat) (batch : PolledBatch) (session : Session)
    (collected : batch.Collected log before session) (filled : PolledBatch)
    (done : (fillKafkaBatch consumer log preparedAt fills deadline fuel step batch session).1 =
      .ok filled) :
    filled.Collected log before (fillKafkaBatch consumer log preparedAt fills deadline fuel
      step batch session).2 := by
  apply fillKafkaBatch_keeps _ preparedAt fills deadline _ _ fuel step batch
    session collected filled done
  · rintro batch session after ⟨⟨seen, polled⟩, started⟩ more
    refine ⟨⟨seen, ?_⟩, started⟩
    have extended := polled.polled.trans more
    rw [List.append_nil] at extended
    exact ⟨extended, polled.earliest, polled.first, polled.records, polled.deferred⟩
  · rintro batch session records after ⟨⟨seen, polled⟩, started⟩ more
    exact ⟨⟨_, polled.poll preparedAt more⟩, selectAll_started preparedAt _ records started⟩

theorem PolledBatch.From.sorted (collected : batch.From log before session seen) :
    batch.sorted.From log before session seen where
  polled := collected.polled
  earliest := collected.earliest
  first := collected.first
  records item present := collected.records item ((List.mem_insertionSort _).mp present)
  deferred := collected.deferred

theorem PolledBatch.Started.sorted (started : batch.Started) : batch.sorted.Started := by
  rcases started with some | waiting
  · left
    intro empty
    apply some
    have permuted := List.perm_insertionSort
      (fun left right : BatchRecord => left.record.offset ≤ right.record.offset) batch.records
    exact List.Perm.nil_eq (empty ▸ permuted) |>.symm
  · exact .inr waiting

theorem newPolledBatch_from (polled : Polled log before (first :: rest) session) :
    (newPolledBatch answers first (first :: rest)).From log before session (first :: rest) where
  polled := polled
  earliest := earliest_of_polled _
  first := List.mem_cons_self ..
  records _ absent := absurd absent List.not_mem_nil
  deferred _ absent := by cases absent

theorem PolledBatch.sorted_ascending (batch : PolledBatch) :
    batch.sorted.records.Pairwise (fun left right => left.record.offset ≤ right.record.offset) := by
  have total : Std.Total (fun left right : BatchRecord =>
    left.record.offset ≤ right.record.offset) :=
    ⟨fun left right => Int.le_total _ _⟩
  have transitive : IsTrans BatchRecord (fun left right =>
    left.record.offset ≤ right.record.offset) :=
    ⟨fun _ _ _ => Int.le_trans⟩
  exact List.pairwise_insertionSort _ _

theorem collectKafkaBatch_brokers (session : Session) (partition : TopicPartition) :
    ((collectKafkaBatch consumer log answers session).2.cursors partition).broker =
      (session.cursors partition).broker := by
  unfold collectKafkaBatch
  cases answers.poll with
  | error err => rfl
  | ok request =>
    have polled := session.pollRecords_polled log consumer.maxMessages request
    simp only
    split
    · exact polled.broker_eq partition
    · exact (fillKafkaBatch_brokers _ _ _ _ _ _ _ partition).trans (polled.broker_eq partition)

theorem collectKafkaBatch_none (session : Session)
    (empty : (collectKafkaBatch consumer log answers session).1 = .ok none) :
    (collectKafkaBatch consumer log answers session).2.cursors = session.cursors := by
  unfold collectKafkaBatch at empty ⊢
  cases poll : answers.poll with
  | error err => simp [poll] at empty
  | ok request =>
    have polled := session.pollRecords_polled log consumer.maxMessages request
    rcases fetched : session.pollRecords log consumer.maxMessages request with ⟨records, after⟩
    rw [fetched] at polled
    simp only [poll, fetched] at empty ⊢
    cases records with
    | nil =>
      exact funext fun partition => polled.untouched partition (fun _ absent => by cases absent)
    | cons first rest =>
      simp only [Except.map] at empty
      split at empty <;> simp at empty

theorem collectKafkaBatch_some {session : Session} {batch : PolledBatch}
    (collected : (collectKafkaBatch consumer log answers session).1 = .ok (some batch)) :
    ∃ request first rest after filled, answers.poll = .ok request ∧
      session.pollRecords log consumer.maxMessages request = (first :: rest, after) ∧
      fillKafkaBatch consumer log answers.preparedAt answers.fills
          (answers.fillStarted + consumer.maxWait) consumer.maxMessages 0
          (selectKafkaBatchRecords consumer answers.preparedAt
            (newPolledBatch answers first (first :: rest)) (first :: rest)) after =
        (.ok filled, (collectKafkaBatch consumer log answers session).2) ∧
      batch = filled.sorted := by
  unfold collectKafkaBatch at collected ⊢
  cases poll : answers.poll with
  | error err => simp [poll] at collected
  | ok request =>
    rcases fetched : session.pollRecords log consumer.maxMessages request with ⟨records, after⟩
    simp only [poll, fetched] at collected ⊢
    cases records with
    | nil => cases collected
    | cons first rest =>
      simp only at collected ⊢
      cases filled : (fillKafkaBatch consumer log answers.preparedAt answers.fills
          (answers.fillStarted + consumer.maxWait) consumer.maxMessages 0
          (selectKafkaBatchRecords consumer answers.preparedAt
            (newPolledBatch answers first (first :: rest)) (first :: rest)) after).1 with
      | error err => simp [filled, Except.map] at collected
      | ok result =>
        simp only [filled, Except.map, Except.ok.injEq, Option.some.injEq] at collected
        exact ⟨request, first, rest, after, result, rfl, fetched, Prod.ext filled rfl,
          collected.symm⟩

/-- A collected batch holds records polled by this collection, in offset order. -/
theorem collectKafkaBatch_collected (session : Session) (batch : PolledBatch)
    (collected : (collectKafkaBatch consumer log answers session).1 = .ok (some batch)) :
    batch.Collected log session (collectKafkaBatch consumer log answers session).2 ∧
      batch.records.Pairwise (fun left right => left.record.offset ≤ right.record.offset) := by
  obtain ⟨request, first, rest, after, filled, _, fetched, fills, rfl⟩ :=
    collectKafkaBatch_some answers collected
  have polled := session.pollRecords_polled log consumer.maxMessages request
  rw [fetched] at polled
  have selected := @PolledBatch.From.selectAll E consumer log answers.preparedAt _
    session after _ (first :: rest)
    (newPolledBatch_from answers first rest polled) (fun _ member => member)
  have started := @selectAll_started E consumer answers.preparedAt _ rest
    (@select_first E consumer answers first rest)
  obtain ⟨⟨all, complete⟩, ready⟩ := fillKafkaBatch_collected _ _ _ _ _ _ _
    ⟨⟨_, selected⟩, started⟩ filled (congrArg Prod.fst fills)
  rw [fills] at complete
  exact ⟨⟨⟨all, complete.sorted⟩, ready.sorted⟩, filled.sorted_ascending⟩

end Collect

/-- A session that stands at or after an earlier one, has read nothing past its
local committed offsets, and has sent nothing to the broker since. -/
structure Forward (before after : Session) : Prop where
  clean : after.Clean
  ahead : ∀ partition, before.position partition ≤ after.position partition
  brokers : ∀ partition, (after.cursors partition).broker = (before.cursors partition).broker

namespace Forward

variable {before after later : Session}

theorem of_cursors (forward : Forward before after) (same : later.cursors = after.cursors) :
    Forward before later := by
  refine ⟨?_, ?_, ?_⟩
  · intro partition
    rw [same]
    exact forward.clean partition
  · intro partition
    simp only [Session.position, same]
    exact forward.ahead partition
  · intro partition
    rw [same]
    exact forward.brokers partition

theorem seek (forward : Forward before after) (partition : TopicPartition) (target : EpochOffset)
    (above : before.position partition ≤ target.offset)
    (cursors : later.cursors = Function.update after.cursors partition
      ((after.cursors partition).seek target)) :
    Forward before later := by
  refine ⟨?_, ?_, ?_⟩ <;> intro other <;> by_cases same : other = partition
  · subst same
    rw [cursors, Function.update_self]
    exact Cursor.clean_seek _ _
  · rw [cursors, Function.update_of_ne same]
    exact forward.clean other
  · subst same
    simp only [Session.position, cursors, Function.update_self]
    exact above
  · simp only [Session.position, cursors, Function.update_of_ne same]
    exact forward.ahead other
  · subst same
    rw [cursors, Function.update_self]
    exact forward.brokers other
  · rw [cursors, Function.update_of_ne same]
    exact forward.brokers other

end Forward

theorem ended_cursors {session : Session} {produced : List Record} {transaction : Transaction}
    (ended : transaction.Ended session produced) (clean : session.Clean) :
    transaction.session.cursors = session.cursors := by
  have aborted : session.abort.cursors = session.cursors :=
    funext fun partition => Cursor.abort_of_clean _ (clean partition)
  have committed := congrArg Session.cursors (session.commit_of_clean clean)
  cases ended with
  | committed => exact committed
  | notCommitted => exact aborted
  | applied err => exact committed
  | failed after err kept =>
    rcases kept with rfl | rfl
    · rfl
    · exact aborted

section Offsets

variable {log : Log} {before session : Session} {batch : PolledBatch} {seen : List Record}

theorem PolledBatch.From.setOffsets (collected : batch.From log before session seen)
    (clean : before.Clean) (partition : TopicPartition) (target : EpochOffset)
    (above : before.position partition ≤ target.offset) :
    Forward before (session.setOffsets (batch.offsetsWith partition target)) := by
  have entries : ∀ other, (∃ offset, batch.offsetsWith partition target other = some offset ∧
        before.position other ≤ offset.offset) ∨
      batch.offsetsWith partition target other = none ∧
          session.cursors other = before.cursors other := by
    intro other
    unfold PolledBatch.offsetsWith
    by_cases same : other = partition
    · subst same
      exact .inl ⟨target, Function.update_self .., above⟩
    · rw [Function.update_of_ne same]
      cases found : batch.earliestOffsets other with
      | none =>
        refine .inr ⟨rfl, collected.polled.untouched other ?_⟩
        intro record member placed
        exact collected.earliest.polled record member (placed ▸ found)
      | some offset =>
        obtain ⟨record, member, placed, taken⟩ := collected.earliest.taken other offset found
        refine .inl ⟨offset, rfl, ?_⟩
        have ahead := collected.polled.ahead record member
        rw [placed] at ahead
        rw [← taken]
        exact ahead
  refine ⟨?_, ?_, ?_⟩ <;> intro other <;> rcases entries other
    with ⟨offset, entry, ahead⟩ | ⟨absent, untouched⟩
  · simp only [Session.setOffsets, entry]
    exact Cursor.clean_seek _ _
  · simp only [Session.setOffsets, absent, untouched]
    exact clean other
  · simp only [Session.position, Session.setOffsets, entry]
    exact ahead
  · simp only [Session.position, Session.setOffsets, absent, untouched]
    exact Int.le_refl _
  · simp only [Session.setOffsets, entry]
    exact collected.polled.broker_eq other
  · simp only [Session.setOffsets, absent, untouched]

theorem PolledBatch.From.rewind (collected : batch.From log before session seen)
    (clean : before.Clean) (record : Record) (member : record ∈ seen) :
    Forward before (rewindKafkaBatch session batch record) :=
  collected.setOffsets clean record.topicPartition record.epochOffset
    (collected.polled.ahead record member)

theorem PolledBatch.From.processed (collected : batch.From log before session seen)
    (clean : before.Clean) (last : BatchRecord) (ends : batch.records.getLast? = some last) :
    Forward before (setKafkaBatchProcessedOffsets session batch) ∧
      ((setKafkaBatchProcessedOffsets session batch).cursors batch.partition).position =
        last.record.nextOffset := by
  obtain ⟨member, placed⟩ := collected.records last (List.mem_of_getLast? ends)
  have above : before.position last.record.topicPartition ≤ last.record.nextOffset.offset := by
    have ahead := collected.polled.ahead last.record member
    simp only [Record.nextOffset]
    omega
  simp only [setKafkaBatchProcessedOffsets, ends]
  refine ⟨collected.setOffsets clean _ _ above, ?_⟩
  simp only [Session.setOffsets, PolledBatch.offsetsWith, placed, Function.update_self]
  rfl

theorem pauseKafkaBatchPartition_forward {after : Session} (forward : Forward before after)
    (scheduler : RetryPartitionScheduler) (record : Record) (deadline : Time)
    (above : before.position record.topicPartition ≤ record.offset) :
    (∃ scheduled, (pauseKafkaBatchPartition after scheduler record deadline).2 = .ok scheduled) ∧
      Forward before (pauseKafkaBatchPartition after scheduler record deadline).1 := by
  obtain ⟨confirmed, cursors⟩ := pauseAndRewind_confirmed after record
  unfold pauseKafkaBatchPartition
  rcases paused : pauseAndRewindRetryPartition after record with ⟨answer, rewound⟩
  rw [paused] at confirmed cursors
  simp only at confirmed cursors
  subst confirmed
  exact ⟨⟨_, rfl⟩, forward.seek _ _ above cursors⟩

end Offsets

end Gomessenger.Kafka
