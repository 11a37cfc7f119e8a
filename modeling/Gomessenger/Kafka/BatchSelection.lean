import Gomessenger.Consumer.Batch
import Gomessenger.Kafka.BatchOffsets

/-! Which of the polled records a batch takes, and where its partitions stand
when its transaction ends. -/

namespace Gomessenger.Kafka

open Inbox CursorLog

structure Reads (log : Log) (before : Session) (records : List Record)
    (after : Session) : Prop where
  polled : Polled log before records after
  ascending : records.Pairwise (fun left right =>
    left.topicPartition = right.topicPartition → left.offset < right.offset)
  passed : ∀ record ∈ records, record.offset < after.position record.topicPartition

namespace Reads

variable {log : Log} {before middle after : Session} {records more : List Record}

theorem refl (log : Log) (session : Session) : Reads log session [] session where
  polled := Polled.refl log session
  ascending := List.Pairwise.nil
  passed _ absent := absurd absent List.not_mem_nil

theorem trans (first : Reads log before records middle) (second : Reads log middle more after) :
    Reads log before (records ++ more) after where
  polled := first.polled.trans second.polled
  ascending := by
    refine List.pairwise_append.mpr ⟨first.ascending, second.ascending, ?_⟩
    intro left early right late same
    have passed := first.passed left early
    rw [same] at passed
    exact Int.lt_of_lt_of_le passed (second.polled.ahead right late)
  passed record member := by
    rcases List.mem_append.mp member with early | late
    · exact Int.lt_of_lt_of_le (first.passed record early) (second.polled.position_le _)
    · exact second.passed record late

end Reads

theorem Session.fetched_ascending (log : Log) (session : Session) (partition : TopicPartition)
    (count : Nat) : Ascending Record.offset (session.fetched log partition count) := by
  unfold Session.fetched
  split
  · exact List.Pairwise.nil
  · exact (remaining_ascending (log.ascending partition)).sublist (List.take_sublist count _)

theorem Session.advance_reads (log : Log) (session : Session)
    (partition : TopicPartition) (count : Nat) :
    Reads log session (session.fetched log partition count)
      (session.advance (session.fetched log partition count) partition) where
  polled := session.advance_polled log partition count
  ascending := by
    refine (session.fetched_ascending log partition count).imp ?_
    intro left right less _
    exact less
  passed record member := by
    have placed := log.placed partition record (Session.mem_fetched member).1
    obtain ⟨last, ends⟩ : ∃ last, (session.fetched log partition count).getLast? = some last :=
      Option.ne_none_iff_exists'.mp fun empty => by
        rw [List.getLast?_eq_none_iff.mp empty] at member
        cases member
    rw [placed, Session.position, Session.advance_self _ session partition last ends]
    have sorted := session.fetched_ascending log partition count
    obtain ⟨initial, split⟩ := List.getLast?_eq_some_iff.mp ends
    rw [split] at sorted member
    change record.offset < last.offset + 1
    rcases List.mem_append.mp member with early | final
    · have less := (List.pairwise_append.mp sorted).2.2 record early last
        (List.mem_singleton_self last)
      omega
    · rw [List.mem_singleton.mp final]
      omega

theorem Session.pollRecords_reads (log : Log) (session : Session)
    (maxRecords : Nat) (request : Request) :
    Reads log session (session.pollRecords log maxRecords request).1
      (session.pollRecords log maxRecords request).2 := by
  induction request generalizing session maxRecords with
  | nil => exact Reads.refl log session
  | cons head rest ih =>
    obtain ⟨partition, count⟩ := head
    exact (session.advance_reads log partition _).trans (ih _ _)

theorem recordEarliest_le (offsets : Offsets) (record : Record) :
    ∃ offset, recordEarliestKafkaOffset offsets record record.topicPartition = some offset ∧
      offset.offset ≤ record.offset ∧
      ∀ current, offsets record.topicPartition = some current → offset.offset ≤ current.offset := by
  cases found : offsets record.topicPartition with
  | none =>
    refine ⟨record.epochOffset, ?_, Int.le_refl _, nofun⟩
    simp [recordEarliestKafkaOffset, found]
  | some current =>
    by_cases less : record.offset < current.offset
    · refine ⟨record.epochOffset, ?_, Int.le_refl _, ?_⟩
      · simp [recordEarliestKafkaOffset, found, if_pos less]
      · rintro _ ⟨⟩
        exact Int.le_of_lt less
    · refine ⟨current, ?_, Int.not_lt.mp less, ?_⟩
      · simp only [recordEarliestKafkaOffset, found, if_neg less]
      · rintro _ ⟨⟩
        exact Int.le_refl _

def Lowest (records : List Record) (offsets : Offsets) : Prop :=
  ∀ record ∈ records, ∃ offset, offsets record.topicPartition = some offset ∧
    offset.offset ≤ record.offset

theorem Lowest.append {records : List Record} {offsets : Offsets} (lowest : Lowest records offsets)
    (more : List Record) : Lowest (records ++ more) (recordEarliestKafkaOffsets offsets more) := by
  induction more generalizing records offsets with
  | nil =>
    rw [List.append_nil]
    exact lowest
  | cons head tail ih =>
    have step : Lowest (records ++ [head]) (recordEarliestKafkaOffset offsets head) := by
      intro record member
      obtain ⟨offset, found, below, least⟩ := recordEarliest_le offsets head
      rcases List.mem_append.mp member with early | last
      · obtain ⟨current, stored, bound⟩ := lowest record early
        by_cases same : record.topicPartition = head.topicPartition
        · rw [same] at stored ⊢
          exact ⟨offset, found, Int.le_trans (least current stored) bound⟩
        · exact ⟨current, (recordEarliest_other offsets head same).trans stored, bound⟩
      · rw [List.mem_singleton.mp last]
        exact ⟨offset, found, below⟩
    have rest := ih step
    rw [List.append_assoc] at rest
    exact rest

theorem lowest_of_polled (records : List Record) :
    Lowest records (earliestKafkaOffsets records) := by
  have none : Lowest [] (fun _ => none) := nofun
  exact none.append records

section Select

variable {E : Type} (consumer : Consumer E) (preparedAt : Record → Time)

inductive Takes (batch : PolledBatch) (record : Record) : PolledBatch → Prop
  | passed (after : PolledBatch) (kept : after.records = batch.records)
    (same : after.bytes = batch.bytes)
      (stopped : after.selectionStopped = true) (blocked : batch.selectionStopped =
        true ∨ batch.records ≠ [] ∨
          ∃ control retryAt, consumer.prepareRecord (preparedAt record) record =
            .deferred control retryAt) :
      Takes batch record after
  | taken (after : PolledBatch) (item : BatchRecord) (source : item.record = record)
      (grown : after.records = batch.records ++ [item])
        (added : after.bytes = batch.bytes + item.bytes)
      (running : batch.selectionStopped = false)
        (room : batch.records.length < consumer.maxMessages)
      (small : batch.records = [] ∨ batch.bytes + item.bytes ≤ consumer.maxBytes)
      (uniform : hasKafkaBatchConflictingGeneration batch.records item = false) :
      Takes batch record after

def BatchRecord.identity (record : BatchRecord) : Option (MessageID × String) :=
  match record.content with
  | .failed .. => none
  | .decoded message => some (message.metadata.id, message.metadata.source)

def BatchRecord.generation (record : BatchRecord) : String := record.control.attemptGeneration

theorem hasKafkaBatchConflictingGeneration_eq (records : List BatchRecord)
    (candidate : BatchRecord) :
    hasKafkaBatchConflictingGeneration records candidate =
      Consumer.conflictingGeneration BatchRecord.identity
        BatchRecord.generation records candidate := by
  unfold hasKafkaBatchConflictingGeneration Consumer.conflictingGeneration
  cases own : candidate.content with
  | failed reason failure attempt messageID => simp only [BatchRecord.identity, own]
  | decoded message =>
    have identity : candidate.identity = some (message.metadata.id, message.metadata.source) := by
      simp only [BatchRecord.identity, own]
    rw [identity]
    refine congrArg (decide (message.metadata.id ≠ 0) && ·) (congrArg records.any ?_)
    funext previous
    obtain ⟨record, control, content, bytes⟩ := previous
    cases content with
    | failed reason failure attempt messageID => simp [BatchRecord.identity]
    | decoded earlier =>
      by_cases same : control.attemptGeneration = candidate.control.attemptGeneration
      · simp [BatchRecord.generation, same]
      · simp [BatchRecord.identity, BatchRecord.generation, Prod.mk.injEq, same]

theorem fresh_uniform (item : BatchRecord) :
    hasKafkaBatchConflictingGeneration [] item = false := by
  unfold hasKafkaBatchConflictingGeneration
  split <;> simp

theorem admit_takes (batch : PolledBatch) (item : BatchRecord)
    (running : batch.selectionStopped = false)
    (room : batch.records.length < consumer.maxMessages) :
    Takes consumer preparedAt batch item.record (admitKafkaBatchRecord consumer batch item) := by
  unfold admitKafkaBatchRecord
  split
  next conflict =>
    refine .passed _ rfl rfl rfl (.inr (.inl ?_))
    intro empty
    rw [empty, fresh_uniform] at conflict
    cases conflict
  next uniform =>
    split
    next large => exact .passed _ rfl rfl rfl (.inr (.inl large.1))
    next small =>
      refine .taken _ item rfl rfl rfl running room ?_ (Bool.eq_false_iff.mpr uniform)
      by_cases empty : batch.records = []
      · exact .inl empty
      · refine .inr (Nat.not_lt.mp (fun large => small ⟨empty, ?_⟩))
        omega

theorem select_takes (batch : PolledBatch) (record : Record)
    (placed : record.topicPartition = batch.partition) :
    Takes consumer preparedAt batch record
      (selectKafkaBatchRecord consumer preparedAt batch record) := by
  unfold selectKafkaBatchRecord
  rw [if_neg (not_not.mpr placed)]
  split
  next blocked =>
    refine .passed _ rfl rfl rfl ?_
    rcases Bool.or_eq_true _ _ ▸ blocked with stopped | full
    · exact .inl stopped
    · refine .inr (.inl (fun empty => ?_))
      rw [empty] at full
      exact absurd (of_decide_eq_true full) (Nat.not_le.mpr consumer.roomy)
  next running =>
    simp only [Bool.or_eq_true, decide_eq_true_eq, not_or, Nat.not_le, Bool.not_eq_true] at running
    obtain ⟨going, room⟩ := running
    split
    next control retryAt deferred =>
      exact .passed _ rfl rfl rfl (.inr (.inr ⟨control, retryAt, deferred⟩))
    next control reason failure attempt messageID _ =>
      exact admit_takes consumer preparedAt batch ⟨record, _, _, _⟩ going room
    next control envelope _ =>
      split
      · exact admit_takes consumer preparedAt batch ⟨record, _, _, _⟩ going room
      · exact admit_takes consumer preparedAt batch ⟨record, _, _, _⟩ going room

def PolledBatch.own (batch : PolledBatch) (records : List Record) : List Record :=
  records.filter (fun record => decide (record.topicPartition = batch.partition))

/-- The batch selected from everything that was polled. -/
structure Selected (seen : List Record) (batch : PolledBatch) : Prop where
  taken : batch.records.map BatchRecord.record <+: batch.own seen
  running : batch.selectionStopped = false → batch.records.map BatchRecord.record = batch.own seen
  stopped : batch.selectionStopped = true → batch.own seen ≠ []
  count : batch.records.length ≤ consumer.maxMessages
  size : batch.bytes = (batch.records.map BatchRecord.bytes).sum
  fits : batch.bytes ≤ consumer.maxBytes ∨ batch.records.length ≤ 1
  empty : batch.records = [] → ∀ first, (batch.own seen).head? = some first →
    ∃ control retryAt, consumer.prepareRecord (preparedAt first) first = .deferred control retryAt
  uniform : batch.records.Pairwise (Consumer.Compatible BatchRecord.identity BatchRecord.generation)

variable {batch : PolledBatch}

theorem Selected.grow {seen : List Record}
    (selected : Selected consumer preparedAt seen batch) (record : Record) :
    Selected consumer preparedAt (seen ++ [record])
    (selectKafkaBatchRecord consumer preparedAt batch record) := by
  have selects := @select_selects E consumer preparedAt batch record
  by_cases placed : record.topicPartition = batch.partition
  · have takes := select_takes consumer preparedAt batch record placed
    generalize selectKafkaBatchRecord consumer preparedAt batch record = after at selects takes
    have own : after.own (seen ++ [record]) = batch.own seen ++ [record] := by
      rw [PolledBatch.own, PolledBatch.own, selects.partition, List.filter_append]
      simp [placed]
    cases takes with
    -- The batch stops here, so what it holds is a prefix of the partition from now on.
    | passed kept same stopped blocked =>
      constructor
      · rw [own, kept]
        exact selected.taken.trans (List.prefix_append _ _)
      · rw [stopped]
        exact nofun
      · rw [own]
        exact fun _ => List.append_ne_nil_of_right_ne_nil _ (List.cons_ne_nil _ _)
      · rw [kept]
        exact selected.count
      · rw [kept, same]
        exact selected.size
      · rw [kept, same]
        exact selected.fits
      · rw [kept, own]
        intro empty first head
        -- A batch that is still empty stopped at its first record, now or earlier.
        cases halted : batch.selectionStopped with
        | true =>
          have some := selected.stopped halted
          rw [List.head?_append_of_ne_nil _ some] at head
          exact selected.empty empty first head
        | false =>
          have none := selected.running halted
          rw [empty, List.map_nil] at none
          rw [← none, List.nil_append, List.head?_cons, Option.some.injEq] at head
          rcases blocked with stopped | nonempty | deferred
          · rw [halted] at stopped
            cases stopped
          · exact absurd empty nonempty
          · exact head ▸ deferred
      · rw [kept]
        exact selected.uniform
    -- Nothing was passed over before, so the batch holds all polled of its partition.
    | taken item source grown added running room small uniform =>
      have all := selected.running running
      have records : after.records.map BatchRecord.record = batch.own seen ++ [record] := by
        rw [grown, List.map_append, all, List.map_singleton, source]
      constructor
      · rw [own, records]
      · rw [own, records]
        exact fun _ => rfl
      · rw [own]
        exact fun _ => List.append_ne_nil_of_right_ne_nil _ (List.cons_ne_nil _ _)
      · rw [grown, List.length_append, List.length_singleton]
        exact room
      · rw [grown, added, List.map_append, List.sum_append, selected.size,
          List.map_singleton, List.sum_singleton]
      · rcases small with first | below
        · right
          rw [grown, first, List.nil_append, List.length_singleton]
        · left
          rw [added]
          exact below
      · rw [grown]
        exact fun empty => absurd empty (List.append_ne_nil_of_right_ne_nil
          _ (List.cons_ne_nil _ _))
      · rw [grown]
        refine List.pairwise_append.mpr ⟨selected.uniform, List.pairwise_singleton _ _, ?_⟩
        intro earlier early later last
        rw [List.mem_singleton.mp last]
        rw [hasKafkaBatchConflictingGeneration_eq] at uniform
        exact Consumer.compatible_of_clear _ _ uniform earlier early
  -- A record of another partition is left to its own batch.
  · have same : selectKafkaBatchRecord consumer preparedAt batch record = batch := by
      rw [selectKafkaBatchRecord, if_pos placed]
    have own : batch.own (seen ++ [record]) = batch.own seen := by
      rw [PolledBatch.own, List.filter_append]
      simp [placed, PolledBatch.own]
    rw [same]
    constructor
    · rw [own]
      exact selected.taken
    · rw [own]
      exact selected.running
    · rw [own]
      exact selected.stopped
    · exact selected.count
    · exact selected.size
    · exact selected.fits
    · rw [own]
      exact selected.empty
    · exact selected.uniform

theorem Selected.growAll {seen : List Record}
    (selected : Selected consumer preparedAt seen batch) (records : List Record) :
    Selected consumer preparedAt (seen ++ records)
    (selectKafkaBatchRecords consumer preparedAt batch records) := by
  induction records generalizing seen batch with
  | nil =>
    rw [List.append_nil]
    exact selected
  | cons head tail ih =>
    have grown := ih (selected.grow consumer preparedAt head)
    rw [List.append_assoc] at grown
    exact grown

theorem selectAll_keeps (batch : PolledBatch) (records : List Record) :
    (selectKafkaBatchRecords consumer preparedAt batch records).earliestOffsets =
      batch.earliestOffsets ∧
      (selectKafkaBatchRecords consumer preparedAt batch records).partition = batch.partition := by
  induction records generalizing batch with
  | nil => exact ⟨rfl, rfl⟩
  | cons head tail ih =>
    obtain ⟨offsets, partition⟩ := ih (selectKafkaBatchRecord consumer preparedAt batch head)
    have selects := @select_selects E consumer preparedAt batch head
    exact ⟨offsets.trans selects.offsets, partition.trans selects.partition⟩

end Select

section Polls

variable {E : Type} (consumer : Consumer E) (log : Log) (preparedAt : Record → Time)

def fillKafkaBatchPoll (deadline : Time) (fill : Fill) (batch : PolledBatch)
    (session : Session) : List Record :=
  if batch.selectionStopped = false ∧ batch.records.length < consumer.maxMessages ∧
      batch.firstDeferred = none ∧ fill.checkedAt < deadline ∧ batch.bytes < consumer.maxBytes then
    if deadline ≤ fill.begunAt then []
    else match fill.poll with
      | .error _ => []
      | .ok request =>
        (session.pollRecords log (consumer.maxMessages - batch.records.length) request).1
  else []

def fillKafkaBatchPolls (fills : Nat → Fill) (deadline : Time) :
    Nat → Nat → PolledBatch → Session → List Record
  | 0, _, _, _ => []
  | fuel + 1, step, batch, session =>
    fillKafkaBatchPoll consumer log deadline (fills step) batch session ++
      match fillKafkaBatchTurn consumer log preparedAt deadline (fills step) batch session with
      | .leave _ _ => []
      | .again grown session => fillKafkaBatchPolls fills deadline fuel (step + 1) grown session

def collectKafkaBatchPolls (answers : CollectAnswers) (session : Session) : List Record :=
  match answers.poll with
  | .error _ => []
  | .ok request =>
    let polled := session.pollRecords log consumer.maxMessages request
    match polled.1 with
    | [] => []
    | first :: rest =>
      (first :: rest) ++ fillKafkaBatchPolls consumer log answers.preparedAt answers.fills
        (answers.fillStarted + consumer.maxWait) consumer.maxMessages 0
        (selectKafkaBatchRecords consumer answers.preparedAt
          (newPolledBatch answers first (first :: rest)) (first :: rest)) polled.2

def FillTurn.left : FillTurn → Option (PolledBatch × Session)
  | .leave (.error _) _ => none
  | .leave (.ok batch) session => some (batch, session)
  | .again batch session => some (batch, session)

def PolledBatch.grow (batch : PolledBatch) (records : List Record) : PolledBatch :=
  selectKafkaBatchRecords consumer preparedAt
    { batch with earliestOffsets := recordEarliestKafkaOffsets batch.earliestOffsets records }
      records

theorem fillTurn_grows (deadline : Time) (fill : Fill) (batch after : PolledBatch)
    (session later : Session)
    (left : (fillKafkaBatchTurn consumer log preparedAt deadline fill batch session).left =
      some (after, later)) :
    after = batch.grow consumer preparedAt
      (fillKafkaBatchPoll consumer log deadline fill batch session) ∧
      Reads log session (fillKafkaBatchPoll consumer log deadline fill batch session) later := by
  have stays : ∀ result : PolledBatch × Session, some (batch, session) = some result →
      result.1 = batch.grow consumer preparedAt [] ∧ Reads log session [] result.2 := by
    rintro _ ⟨⟩
    exact ⟨rfl, Reads.refl log session⟩
  unfold fillKafkaBatchTurn at left
  unfold fillKafkaBatchPoll
  split at left
  next continues =>
    rw [if_pos continues]
    split at left
    next late =>
      rw [if_pos late]
      exact stays _ left
    next early =>
      rw [if_neg early]
      cases poll : fill.poll with
      | error err =>
        rw [poll] at left
        cases left
      | ok request =>
        have reads :=
          session.pollRecords_reads log (consumer.maxMessages - batch.records.length) request
        simp only [poll] at left ⊢
        split at left
        next none =>
          cases left
          rw [none] at reads ⊢
          exact ⟨rfl, reads⟩
        next some =>
          split at left
          · cases left
            exact ⟨rfl, reads⟩
          · cases left
            exact ⟨rfl, reads⟩
  next ends =>
    rw [if_neg ends]
    exact stays _ left

structure Collecting (before session : Session) (seen : List Record)
    (batch : PolledBatch) : Prop where
  reads : Reads log before seen session
  selected : Selected consumer preparedAt seen batch
  lowest : Lowest seen batch.earliestOffsets
  first : ∃ first, seen.head? = some first ∧ batch.partition = first.topicPartition

variable {batch : PolledBatch}

theorem Collecting.grow {before session later : Session} {seen records : List Record}
    (collecting : Collecting consumer log preparedAt before session seen batch)
    (reads : Reads log session records later) :
    Collecting consumer log preparedAt before later (seen ++ records)
      (batch.grow consumer preparedAt records) where
  reads := collecting.reads.trans reads
  selected := by
    have selected := collecting.selected
    have moved : Selected consumer preparedAt seen
        { batch with
          earliestOffsets := recordEarliestKafkaOffsets batch.earliestOffsets records } :=
      ⟨selected.taken, selected.running, selected.stopped, selected.count,
        selected.size, selected.fits,
        selected.empty, selected.uniform⟩
    exact moved.growAll consumer preparedAt records
  lowest := by
    rw [PolledBatch.grow, (selectAll_keeps consumer preparedAt _ records).1]
    exact collecting.lowest.append records
  first := by
    rw [PolledBatch.grow, (selectAll_keeps consumer preparedAt _ records).2]
    obtain ⟨first, head, placed⟩ := collecting.first
    refine ⟨first, ?_, placed⟩
    rw [List.head?_append, head]
    rfl

theorem fillKafkaBatch_collecting (fills : Nat → Fill) (deadline : Time) (fuel step : Nat)
    (before session : Session) (seen : List Record) (batch filled : PolledBatch)
    (collecting : Collecting consumer log preparedAt before session seen batch)
    (done : (fillKafkaBatch consumer log preparedAt fills deadline fuel step batch session).1 =
      .ok filled) :
    Collecting consumer log preparedAt before
      (fillKafkaBatch consumer log preparedAt fills deadline fuel step batch session).2
      (seen ++ fillKafkaBatchPolls consumer log preparedAt fills deadline fuel step batch session)
      filled := by
  induction fuel generalizing step batch session seen with
  | zero =>
    cases done
    rw [fillKafkaBatchPolls, List.append_nil]
    exact collecting
  | succ fuel ih =>
    have grows := fillTurn_grows consumer log preparedAt deadline (fills step) batch
    rw [fillKafkaBatch] at done ⊢
    rw [fillKafkaBatchPolls]
    cases turned : fillKafkaBatchTurn consumer log preparedAt deadline (fills step) batch session
        with
    | leave result later =>
      simp only [turned] at done ⊢
      subst done
      obtain ⟨rfl, reads⟩ := grows filled session later (by rw [turned]; rfl)
      rw [List.append_nil]
      exact collecting.grow consumer log preparedAt reads
    | again grown later =>
      simp only [turned] at done ⊢
      obtain ⟨rfl, reads⟩ := grows grown session later (by rw [turned]; rfl)
      rw [← List.append_assoc]
      exact ih _ _ _ _ (collecting.grow consumer log preparedAt reads) done

variable (answers : CollectAnswers)

theorem newPolledBatch_collecting (before session : Session) (first : Record)
    (rest : List Record) (reads : Reads log before (first :: rest) session) :
    Collecting consumer log answers.preparedAt before session (first :: rest)
      (selectKafkaBatchRecords consumer answers.preparedAt
        (newPolledBatch answers first (first :: rest)) (first :: rest)) := by
  have fresh : Selected consumer answers.preparedAt []
      (newPolledBatch answers first (first :: rest)) :=
    ⟨List.prefix_rfl, fun _ => rfl, nofun, Nat.zero_le _, rfl, .inl (Nat.zero_le _),
      nofun, List.Pairwise.nil⟩
  obtain ⟨offsets, partition⟩ := selectAll_keeps consumer answers.preparedAt
    (newPolledBatch answers first (first :: rest)) (first :: rest)
  refine ⟨reads, fresh.growAll consumer answers.preparedAt (first :: rest),
    ?_, first, rfl, partition⟩
  rw [offsets]
  exact lowest_of_polled (first :: rest)

theorem Collecting.sorted {before session : Session} {seen : List Record}
    (collecting : Collecting consumer log preparedAt before session seen batch) :
    batch.sorted = batch := by
  have own : (batch.own seen).Pairwise (fun left right => left.offset ≤ right.offset) := by
    refine (collecting.reads.ascending.filter _).imp_of_mem ?_
    intro left right leftOwn rightOwn ascending
    have leftPlaced := of_decide_eq_true (List.mem_filter.mp leftOwn).2
    have rightPlaced := of_decide_eq_true (List.mem_filter.mp rightOwn).2
    exact Int.le_of_lt (ascending (leftPlaced.trans rightPlaced.symm))
  have records := List.pairwise_map.mp (own.sublist collecting.selected.taken.sublist)
  rw [PolledBatch.sorted, List.Pairwise.insertionSort_eq records]

theorem collectKafkaBatch_collecting (session : Session) (batch : PolledBatch)
    (collected : (collectKafkaBatch consumer log answers session).1 = .ok (some batch)) :
    Collecting consumer log answers.preparedAt session
      (collectKafkaBatch consumer log answers session).2
      (collectKafkaBatchPolls consumer log answers session) batch := by
  obtain ⟨request, first, rest, after, filled, poll, fetched, fills, rfl⟩ :=
    collectKafkaBatch_some answers collected
  have reads := session.pollRecords_reads log consumer.maxMessages request
  rw [fetched] at reads
  have complete := fillKafkaBatch_collecting consumer log answers.preparedAt answers.fills
    _ _ _ session after (first :: rest) _ filled
    (newPolledBatch_collecting consumer log answers session after first rest reads)
    (congrArg Prod.fst fills)
  rw [fills] at complete
  rw [complete.sorted]
  simp only [collectKafkaBatchPolls, poll, fetched]
  exact complete

end Polls

section Positions

theorem Session.setOffsets_position {offsets : Offsets} {partition : TopicPartition}
    {offset : EpochOffset} (session : Session) (set : offsets partition = some offset) :
    (session.setOffsets offsets).position partition = offset.offset := by
  simp only [Session.position, Session.setOffsets, set]
  rfl

variable {E : Type} {consumer : Consumer E} {log : Log} {preparedAt : Record → Time}
variable {before session : Session} {seen : List Record} {batch : PolledBatch}
variable (collecting : Collecting consumer log preparedAt before session seen batch)

include collecting in
theorem Collecting.follows (last : BatchRecord) (ends : batch.records.getLast? = some last)
    (record : Record) (member : record ∈ seen) (placed : record.topicPartition = batch.partition)
    (outside : record ∉ batch.records.map BatchRecord.record) :
    last.record.offset < record.offset := by
  obtain ⟨later, split⟩ := collecting.selected.taken
  have own : record ∈ batch.own seen := List.mem_filter.mpr ⟨member, decide_eq_true placed⟩
  rw [← split] at own
  have after := (List.mem_append.mp own).resolve_left outside
  have inside : last.record ∈ batch.records.map BatchRecord.record :=
    List.mem_map_of_mem (List.mem_of_getLast? ends)
  have ascending := collecting.reads.ascending.filter (fun record =>
    decide (record.topicPartition = batch.partition))
  change (batch.own seen).Pairwise _ at ascending
  rw [← split] at ascending
  refine (List.pairwise_append.mp ascending).2.2 last.record inside record after ?_
  have lastOwn : last.record ∈ batch.own seen := by
    rw [← split]
    exact List.mem_append_left _ inside
  exact (of_decide_eq_true (List.mem_filter.mp lastOwn).2).trans placed.symm

include collecting in
theorem Collecting.processed_position (record : Record) (member : record ∈ seen)
    (outside : record ∉ batch.records.map BatchRecord.record) (some : batch.records ≠ []) :
    (setKafkaBatchProcessedOffsets session batch).position
      record.topicPartition ≤ record.offset := by
  obtain ⟨last, ends⟩ : ∃ last, batch.records.getLast? = Option.some last :=
    ⟨_, List.getLast?_eq_some_getLast some⟩
  have lastOwn : last.record.topicPartition = batch.partition := by
    have own := collecting.selected.taken.subset (List.mem_map_of_mem (List.mem_of_getLast? ends))
    exact of_decide_eq_true (List.mem_filter.mp own).2
  simp only [setKafkaBatchProcessedOffsets, ends]
  by_cases placed : record.topicPartition = batch.partition
  · have entry : batch.offsetsWith last.record.topicPartition last.record.nextOffset
        record.topicPartition = Option.some last.record.nextOffset := by
      rw [PolledBatch.offsetsWith, placed, lastOwn, Function.update_self]
    rw [session.setOffsets_position entry]
    have less := collecting.follows last ends record member placed outside
    exact less
  · obtain ⟨offset, found, below⟩ := collecting.lowest record member
    have entry : batch.offsetsWith last.record.topicPartition last.record.nextOffset
        record.topicPartition = Option.some offset := by
      rw [PolledBatch.offsetsWith, lastOwn, Function.update_of_ne placed]
      exact found
    rw [session.setOffsets_position entry]
    exact below

end Positions

section Selection

variable {E : Type} (consumer : Consumer E) (log : Log)

/-- What a collected batch takes from everything that was polled, and where the
partitions stand when its transaction ends. -/
structure TakesPrefix (answers : CollectAnswers) (session : Session) (batch : PolledBatch)
    (first : Record) (rest : List Record) : Prop where
  gapless : batch.records.map BatchRecord.record <+:
    (first :: rest).filter (fun record => decide (record.topicPartition = first.topicPartition))
  count : batch.records.length ≤ consumer.maxMessages
  size : (batch.records.map BatchRecord.bytes).sum ≤ consumer.maxBytes ∨ batch.records.length = 1
  deferred : batch.records = [] → ∃ control retryAt,
    consumer.prepareRecord (answers.preparedAt first) first = .deferred control retryAt
  positions : batch.records ≠ [] → ∀ record ∈ first :: rest,
    record ∉ batch.records.map BatchRecord.record →
    (setKafkaBatchProcessedOffsets session batch).position record.topicPartition ≤ record.offset

theorem collected_batch_is_prefix (answers : CollectAnswers)
    (session : Session) (batch : PolledBatch)
    (collected : (collectKafkaBatch consumer log answers session).1 = .ok (some batch)) :
    ∃ first rest, collectKafkaBatchPolls consumer log answers session = first :: rest ∧
      TakesPrefix consumer answers (collectKafkaBatch consumer log answers session).2 batch first
        rest := by
  have collecting := collectKafkaBatch_collecting consumer log answers session batch collected
  obtain ⟨first, head, partition⟩ := collecting.first
  obtain ⟨rest, polls⟩ := List.head?_eq_some_iff.mp head
  have selected := collecting.selected
  rw [polls] at selected
  have own : batch.own (first :: rest) =
      (first :: rest).filter (fun record => decide (record.topicPartition =
          first.topicPartition)) := by
    rw [PolledBatch.own, partition]
  refine ⟨first, rest, polls, ?_, selected.count, ?_, ?_, ?_⟩
  · rw [← own]
    exact selected.taken
  · rw [← selected.size]
    rcases selected.fits with small | single
    · exact .inl small
    · rcases Nat.le_one_iff_eq_zero_or_eq_one.mp single with none | one
      · left
        rw [selected.size, List.length_eq_zero_iff.mp none]
        exact Nat.zero_le _
      · exact .inr one
  · intro empty
    refine selected.empty empty first ?_
    simp [own]
  · intro some record member outside
    refine collecting.processed_position record ?_ outside some
    rw [polls]
    exact member

/-- A log of records that stand in the order of their offsets within each partition. -/
def Log.ofRecords (records : List Record)
    (ordered : records.Pairwise (fun earlier later =>
      earlier.topicPartition = later.topicPartition → earlier.offset < later.offset))
    (started : ∀ record ∈ records, 0 ≤ record.offset) : Log where
  records partition := records.filter (fun record => record.topicPartition = partition)
  start _ := ⟨1, 0⟩
  placed partition record member := of_decide_eq_true (List.mem_filter.mp member).2
  ascending partition := by
    refine List.Pairwise.imp_of_mem ?_ (ordered.filter _)
    intro earlier later before after less
    exact less ((of_decide_eq_true (List.mem_filter.mp before).2).trans
      (of_decide_eq_true (List.mem_filter.mp after).2).symm)
  bounded partition record member := started record (List.mem_of_mem_filter member)

def twoPartitionLog : Log :=
  .ofRecords [sampleRecord, { sampleRecord with offset := 5 }, { sampleRecord with offset := 7 },
    { sampleRecord with offset := 9 }, { sampleRecord with partition := 1, offset := 2 }]
    (by decide) (by decide)

/-- The first poll reads two records of the first partition and the one of the
second, the next poll the other two, of which the last is not due yet. -/
def twoPolls : CollectAnswers :=
  ⟨.ok [(⟨"orders.retry", 0⟩, 2), (⟨"orders.retry", 1⟩, 1)], 10,
    fun _ => ⟨11, 11, .ok [(⟨"orders.retry", 0⟩, 2)]⟩,
    fun record => if record.offset = 9 then 9 else 10⟩

theorem collected_batch_is_prefix_two_polls :
    let session := Session.initial twoPartitionLog (fun _ => none)
    let collected := collectKafkaBatch sampleConsumer twoPartitionLog twoPolls session
    ∃ batch, collected.1 = .ok (some batch) ∧
      batch.records.map (fun selected => selected.record.offset) = [4, 5, 7] ∧
      (∃ first rest, collectKafkaBatchPolls sampleConsumer twoPartitionLog twoPolls session =
          first :: rest ∧ rest.map Record.offset = [5, 2, 7, 9] ∧
        TakesPrefix sampleConsumer twoPolls collected.2 batch first rest) ∧
      (setKafkaBatchProcessedOffsets collected.2 batch).position ⟨"orders.retry", 0⟩ = 8 ∧
      (setKafkaBatchProcessedOffsets collected.2 batch).position ⟨"orders.retry", 1⟩ = 2 := by
  intro session collected
  have summary : collected.1.toOption.join.map (fun batch =>
      (batch.records.map (fun selected => selected.record.offset),
        (setKafkaBatchProcessedOffsets collected.2 batch).position ⟨"orders.retry", 0⟩,
        (setKafkaBatchProcessedOffsets collected.2 batch).position ⟨"orders.retry", 1⟩)) =
      some ([4, 5, 7], 8, 2) := by decide +kernel
  have offsets : (collectKafkaBatchPolls sampleConsumer twoPartitionLog twoPolls session).map
      Record.offset = 4 :: [5, 2, 7, 9] := by decide +kernel
  rcases result : collected.1 with err | _ | batch
  · rw [result] at summary
    cases summary
  · rw [result] at summary
    cases summary
  · rw [result] at summary
    simp only [Except.toOption, Option.join_some, Option.map_some, Option.some.injEq,
      Prod.mk.injEq] at summary
    obtain ⟨first, rest, polls, takes⟩ := collected_batch_is_prefix sampleConsumer twoPartitionLog
      twoPolls session batch result
    rw [polls] at offsets
    exact ⟨batch, rfl, summary.1, ⟨first, rest, polls, (List.cons.inj offsets).2, takes⟩, summary.2⟩

end Selection

end Gomessenger.Kafka
