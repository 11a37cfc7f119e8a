import Gomessenger.Lib.IndexedHeap
import Gomessenger.Kafka.Session

/-! The scheduler of deferred partitions.

Deadlines stand in a binary heap whose entries know their index, beside the map of
scheduled partitions and the set of pauses the worker owns. An abstract scheduler
keeps only the pending deadline of each partition and whether its pause is owned;
every run of the scheduler keeps the three structures in step with it. -/

namespace Gomessenger.Kafka.Retry

open IndexedHeap

abbrev maxDuration : Int := 9223372036854775807

/-- The difference of two times saturates. -/
def sub (left right : Int) : Duration := max (-maxDuration - 1) (min maxDuration (left - right))

theorem sub_saturates (maximum difference : Int) (bounded : maximum ≤ maxDuration) :
    min maximum (max 0 (max (-maxDuration - 1) (min maxDuration difference))) =
      min maximum (max 0 difference) := by
  simp only [maxDuration] at *
  omega

/-- `retryPartitionScheduler` with its heap; `deadline` is the deadline field of each
partition's item. -/
structure HeapScheduler where
  deadlines : Heap TopicPartition
  deadline : TopicPartition → Int
  partitions : TopicPartition → Bool
  ownedPause : TopicPartition → Bool

namespace HeapScheduler

def newHeapScheduler : HeapScheduler where
  deadlines := ⟨0, fun _ => ⟨"", 0⟩, fun _ => 0⟩
  deadline _ := 0
  partitions _ := false
  ownedPause _ := false

def withDeadline (scheduler : HeapScheduler) (partition : TopicPartition) (deadline : Int) :
    TopicPartition → Int :=
  fun other => if other = partition then deadline else scheduler.deadline other

def schedule (scheduler : HeapScheduler) (partition : TopicPartition)
    (deadline : Int) (ownsPause : Bool) :
    HeapScheduler where
  deadlines :=
    if scheduler.partitions partition then
      scheduler.deadlines.fix (scheduler.withDeadline partition deadline)
        (scheduler.deadlines.place partition).toNat
    else scheduler.deadlines.push (scheduler.withDeadline partition deadline) partition
  deadline := scheduler.withDeadline partition deadline
  partitions other := other == partition || scheduler.partitions other
  ownedPause other := ownsPause && other == partition || scheduler.ownedPause other

def pollTimeout (scheduler : HeapScheduler) (now : Int) (maximum : Duration) : Duration :=
  if scheduler.deadlines.size = 0 then maximum
  else min maximum (max 0 (sub (scheduler.deadline (scheduler.deadlines.slot 0)) now))

def popped (scheduler : HeapScheduler) : HeapScheduler :=
  { scheduler with
    deadlines := (scheduler.deadlines.pop scheduler.deadline).1
    partitions := fun other => other != (scheduler.deadlines.pop scheduler.deadline).2 &&
      scheduler.partitions other }

def resumeItem (resume : String → List Int) (item : TopicPartition) : String → List Int :=
  fun topic => if topic = item.topic then resume topic ++ [item.partition] else resume topic

def releaseItems (now : Int) (scheduler : HeapScheduler) (resume : String → List Int) :
    HeapScheduler × (String → List Int) :=
  if _due : 0 < scheduler.deadlines.size ∧ scheduler.deadline (scheduler.deadlines.slot 0) ≤ now
      then
    let item := (scheduler.deadlines.pop scheduler.deadline).2
    if scheduler.ownedPause item = false then releaseItems now scheduler.popped resume
    else
      releaseItems now
        { scheduler.popped with
          ownedPause := fun other => other != item && scheduler.ownedPause other }
        (resumeItem resume item)
  else (scheduler, resume)
termination_by scheduler.deadlines.size
decreasing_by all_goals
  simp only [popped, Heap.pop]
  omega

/-- A topic without resumed partitions has no entry in the returned map. -/
def releaseDue (scheduler : HeapScheduler) (now : Int) : HeapScheduler × (String → List Int) :=
  let released := scheduler.releaseItems now (fun _ => [])
  (released.1, fun topic => (released.2 topic).mergeSort)

/-- Heap order, stored indexes and the two maps agree. -/
structure Consistent (scheduler : HeapScheduler) : Prop where
  placed : scheduler.deadlines.Placed
  ordered : scheduler.deadlines.Ordered scheduler.deadline
  mapped : ∀ partition, scheduler.partitions partition = true ↔ scheduler.deadlines.Holds partition
  owned : ∀ partition, scheduler.ownedPause partition = true → scheduler.partitions partition = true

theorem newHeapScheduler_consistent : newHeapScheduler.Consistent where
  placed _ inside := absurd inside (Nat.not_lt_zero _)
  ordered _ inside := absurd inside (Nat.not_lt_zero _)
  mapped _ := ⟨fun mapped => (nomatch mapped),
    fun ⟨_, inside, _⟩ => absurd inside (Nat.not_lt_zero _)⟩
  owned _ owned := nomatch owned

variable {scheduler : HeapScheduler}

theorem schedule_consistent (consistent : scheduler.Consistent)
    (partition : TopicPartition) (deadline : Int) (ownsPause : Bool) :
    (scheduler.schedule partition deadline ownsPause).Consistent := by
  have elsewhere : ∀ other, other ≠ partition → scheduler.withDeadline partition deadline other =
      scheduler.deadline other :=
    fun other apart => if_neg apart
  have owned : ∀ other, (ownsPause && other == partition || scheduler.ownedPause other) = true →
      (other == partition || scheduler.partitions other) = true := by
    intro other isOwned
    rw [Bool.or_eq_true, Bool.and_eq_true] at isOwned
    rw [Bool.or_eq_true]
    exact isOwned.imp And.right (consistent.owned other)
  by_cases known : scheduler.partitions partition = true
  · obtain ⟨index, inside, isPartition⟩ := (consistent.mapped partition).mp known
    have place : (scheduler.deadlines.place partition).toNat = index := by
      rw [← isPartition, consistent.placed index inside, Int.toNat_natCast]
    have sinking := consistent.ordered.sinking inside fun other isOther notIndex =>
      elsewhere (scheduler.deadlines.slot other) fun same =>
        notIndex (consistent.placed.injective isOther inside (same.trans isPartition.symm))
    have moved := fix_rearranged (scheduler.withDeadline partition deadline)
      scheduler.deadlines inside
    have deadlines : (scheduler.schedule partition deadline ownsPause).deadlines =
        scheduler.deadlines.fix (scheduler.withDeadline partition deadline) index := by
      simp only [schedule, if_pos known, place]
    refine ⟨deadlines ▸ moved.placed consistent.placed, ?_, ?_, owned⟩
    · rw [deadlines]
      exact fix_ordered _ inside sinking
    · intro other
      rw [deadlines, moved.holds, ← consistent.mapped]
      simp only [schedule, Bool.or_eq_true, beq_iff_eq, or_iff_right_iff_imp]
      exact fun same => same ▸ known
  · have fresh := mt (consistent.mapped partition).mpr known
    have ordered : scheduler.deadlines.Ordered (scheduler.withDeadline partition deadline) := by
      intro index inside positive
      rw [Heap.Above, elsewhere _ fun same => fresh ⟨_, by omega, same⟩,
        elsewhere _ fun same => fresh ⟨_, inside, same⟩]
      exact consistent.ordered index inside positive
    have joined := push_entries (scheduler.withDeadline partition deadline)
      scheduler.deadlines partition
      consistent.placed fresh
    have deadlines : (scheduler.schedule partition deadline ownsPause).deadlines =
        scheduler.deadlines.push (scheduler.withDeadline partition deadline) partition := by
      simp only [schedule, if_neg known]
    refine ⟨deadlines ▸ joined.1, ?_, ?_, owned⟩
    · rw [deadlines]
      exact push_ordered _ _ ordered
    · intro other
      rw [deadlines, joined.2, ← consistent.mapped]
      simp only [schedule, Bool.or_eq_true, beq_iff_eq]
      exact or_comm

theorem Consistent.popped (consistent : scheduler.Consistent)
    (some : 0 < scheduler.deadlines.size) (ownedPause : TopicPartition → Bool)
    (owned : ∀ partition, ownedPause partition = true →
      scheduler.ownedPause partition = true ∧ partition ≠ scheduler.deadlines.slot 0) :
    Consistent { scheduler.popped with ownedPause := ownedPause } := by
  obtain ⟨item, placed, ordered, holds⟩ :=
    pop_entries scheduler.deadlines some consistent.placed consistent.ordered
  refine ⟨placed, ordered, ?_, ?_⟩
  · intro partition
    simp only [HeapScheduler.popped]
    rw [holds, item, ← consistent.mapped, Bool.and_eq_true, bne_iff_ne]
    exact and_comm
  · intro partition isOwned
    obtain ⟨before, notItem⟩ := owned partition isOwned
    simp only [HeapScheduler.popped]
    rw [item, Bool.and_eq_true, bne_iff_ne]
    exact ⟨notItem, consistent.owned partition before⟩

def later (scheduler : HeapScheduler) (now : Int) (partitions : TopicPartition → Bool) :
    TopicPartition → Bool :=
  fun partition => partitions partition && decide (now < scheduler.deadline partition)

structure Released (now : Int) (scheduler : HeapScheduler) (resume : String → List Int)
    (released : HeapScheduler × (String → List Int)) : Prop where
  consistent : released.1.Consistent
  deadline : released.1.deadline = scheduler.deadline
  partitions : released.1.partitions = scheduler.later now scheduler.partitions
  ownedPause : released.1.ownedPause = scheduler.later now scheduler.ownedPause
  once : ∀ topic, (released.2 topic).Nodup
  exact : ∀ topic partition, partition ∈ released.2 topic ↔
    partition ∈ resume topic ∨ scheduler.ownedPause ⟨topic, partition⟩ = true ∧
      scheduler.deadline ⟨topic, partition⟩ ≤ now

variable {item : TopicPartition}

theorem later_without (scheduler : HeapScheduler) {now : Int}
    (due : scheduler.deadline item ≤ now) (partitions : TopicPartition → Bool) :
    scheduler.later now (fun other => other != item && partitions other) =
      scheduler.later now partitions := by
  funext other
  by_cases isItem : other = item
  · simp only [later, isItem, decide_eq_false (not_lt.mpr due), Bool.and_false]
  · simp only [later, bne_iff_ne.mpr isItem, Bool.true_and]

theorem later_all (scheduler : HeapScheduler) {now : Int} {partitions : TopicPartition → Bool}
    (pending : ∀ partition, partitions partition = true → now < scheduler.deadline partition) :
    partitions = scheduler.later now partitions := by
  funext partition
  rw [later]
  cases present : partitions partition with
  | false => rfl
  | true => rw [decide_eq_true (pending partition present)]; rfl

theorem mem_resumeItem (resume : String → List Int) (item : TopicPartition)
    (topic : String) (partition : Int) :
    partition ∈ resumeItem resume item topic ↔ partition ∈ resume topic ∨
      (⟨topic, partition⟩ : TopicPartition) = item := by
  obtain ⟨itemTopic, itemPartition⟩ := item
  unfold resumeItem
  rw [TopicPartition.mk.injEq]
  split_ifs with sameTopic
  · rw [List.mem_append, List.mem_singleton, and_iff_right sameTopic]
  · simp only [sameTopic, false_and, or_false]

theorem resumeItem_nodup {resume : String → List Int} {topic : String} (once : (resume topic).Nodup)
    (fresh : ∀ partition ∈ resume topic, (⟨topic, partition⟩ : TopicPartition) ≠ item) :
    (resumeItem resume item topic).Nodup := by
  unfold resumeItem
  split_ifs with sameTopic
  · refine List.nodup_append.mpr ⟨once, List.nodup_singleton _, ?_⟩
    rintro partition member other isOther rfl
    rw [List.mem_singleton] at isOther
    exact fresh partition member (by rw [sameTopic, isOther])
  · exact once

theorem releaseItems_released (now : Int) (scheduler : HeapScheduler) (resume : String → List Int)
    (consistent : scheduler.Consistent) (once : ∀ topic, (resume topic).Nodup)
    (gone : ∀ topic, ∀ partition ∈ resume topic, scheduler.ownedPause ⟨topic, partition⟩ = false) :
    Released now scheduler resume (releaseItems now scheduler resume) := by
  fun_induction releaseItems now scheduler resume with
  -- The earliest deadline is due, but the pause of its partition is not the scheduler's own.
  | case1 scheduler resume due item unowned ih =>
    have isItem : item = scheduler.deadlines.slot 0 :=
      (pop_entries scheduler.deadlines due.1 consistent.placed consistent.ordered).1
    have dueItem : scheduler.deadline item ≤ now := isItem ▸ due.2
    have kept := ih (consistent.popped due.1 scheduler.ownedPause fun partition isOwned =>
      ⟨isOwned, ?_⟩) once gone
    · exact ⟨kept.consistent, kept.deadline,
        kept.partitions.trans (scheduler.later_without dueItem _),
        kept.ownedPause, kept.once, kept.exact⟩
    · rintro rfl
      rw [isItem, isOwned] at unowned
      cases unowned
  | case2 scheduler resume due item owned ih =>
    have isItem : item = scheduler.deadlines.slot 0 :=
      (pop_entries scheduler.deadlines due.1 consistent.placed consistent.ordered).1
    have dueItem : scheduler.deadline item ≤ now := isItem ▸ due.2
    rw [Bool.not_eq_false] at owned
    have kept := ih (consistent.popped due.1 _ fun partition isOwned => ?_) ?_ ?_
    · refine ⟨kept.consistent, kept.deadline,
        kept.partitions.trans (scheduler.later_without dueItem _),
        kept.ownedPause.trans (scheduler.later_without dueItem _), kept.once, ?_⟩
      intro topic partition
      rw [kept.exact]
      rw [mem_resumeItem, or_assoc]
      refine or_congr_right ?_
      by_cases same : (⟨topic, partition⟩ : TopicPartition) = item
      · rw [same]
        exact iff_of_true (.inl rfl) ⟨owned, dueItem⟩
      · simp only [popped, bne_iff_ne.mpr same, Bool.true_and, same, false_or]
    · rw [Bool.and_eq_true, bne_iff_ne] at isOwned
      exact ⟨isOwned.2, isItem ▸ isOwned.1⟩
    · refine fun topic => resumeItem_nodup (once topic) fun partition member same => ?_
      have unowned := gone topic partition member
      rw [same, owned] at unowned
      cases unowned
    · intro topic partition member
      rw [Bool.and_eq_false_iff, bne_eq_false_iff_eq]
      exact ((mem_resumeItem ..).mp member).symm.imp_right (gone topic partition)
  -- The heap's first deadline bounds all of them, so nothing due is left behind.
  | case3 scheduler resume stays =>
    have pending : ∀ partition, scheduler.partitions partition = true →
        now < scheduler.deadline partition := by
      intro partition mapped
      obtain ⟨index, inside, isPartition⟩ := (consistent.mapped partition).mp mapped
      have first := consistent.ordered.first inside
      rw [isPartition] at first
      rw [not_and, not_le] at stays
      exact (stays (by omega)).trans_le first
    refine ⟨consistent, rfl, scheduler.later_all pending,
      scheduler.later_all fun partition isOwned =>
        pending partition (consistent.owned partition isOwned), once, ?_⟩
    intro topic partition
    rw [iff_self_or]
    rintro ⟨isOwned, due⟩
    exact absurd due (not_le.mpr (pending _ (consistent.owned _ isOwned)))

theorem releaseDue_released (consistent : scheduler.Consistent) (now : Int) :
    Released now scheduler (fun _ => []) (scheduler.releaseDue now) := by
  have released := releaseItems_released now scheduler (fun _ => []) consistent
    (fun _ => List.nodup_nil)
    (fun _ _ none => nomatch none)
  refine ⟨released.consistent, released.deadline, released.partitions, released.ownedPause, ?_, ?_⟩
  · exact fun topic => (List.mergeSort_perm _ _).nodup_iff.mpr (released.once topic)
  · exact fun topic partition => (List.mergeSort_perm _ _).mem_iff.trans
      (released.exact topic partition)

end HeapScheduler

open HeapScheduler

inductive Call where
  | schedule (partition : TopicPartition) (deadline : Int) (ownsPause : Bool)
  | releaseDue (now : Int)

def Call.run (scheduler : HeapScheduler) : Call → HeapScheduler
  | .schedule partition deadline ownsPause => scheduler.schedule partition deadline ownsPause
  | .releaseDue now => (scheduler.releaseDue now).1

/-- The latest deadline of each partition that was not released since, and the pauses to resume. -/
structure Pending where
  deadline : TopicPartition → Option Int
  owned : TopicPartition → Bool

def Pending.due (pending : Pending) (now : Int) (partition : TopicPartition) : Prop :=
  ∃ deadline, pending.deadline partition = some deadline ∧ deadline ≤ now

def Call.apply (pending : Pending) : Call → Pending
  | .schedule partition deadline ownsPause =>
    ⟨fun other => if other = partition then some deadline else pending.deadline other,
      fun other => ownsPause && other == partition || pending.owned other⟩
  | .releaseDue now =>
    ⟨fun other => (pending.deadline other).filter fun deadline => now < deadline,
      fun other => pending.owned other &&
        ((pending.deadline other).all fun deadline => now < deadline)⟩

def HeapScheduler.pending (scheduler : HeapScheduler) : Pending where
  deadline partition := if scheduler.partitions partition
    then some (scheduler.deadline partition) else none
  owned := scheduler.ownedPause

variable {scheduler : HeapScheduler}

theorem run_refines (consistent : scheduler.Consistent) (call : Call) :
    (call.run scheduler).Consistent ∧ (call.run scheduler).pending =
      call.apply scheduler.pending := by
  cases call with
  | schedule partition deadline ownsPause =>
    refine ⟨schedule_consistent consistent partition deadline ownsPause, ?_⟩
    simp only [Call.run, Call.apply, HeapScheduler.pending, Pending.mk.injEq]
    refine ⟨?_, rfl⟩
    funext other
    by_cases same : other = partition
    · simp only [schedule, withDeadline, same, if_true, beq_self_eq_true, Bool.true_or]
    · simp only [schedule, withDeadline, if_neg same, beq_false_of_ne same, Bool.false_or]
  | releaseDue now =>
    have released := releaseDue_released consistent now
    refine ⟨released.consistent, ?_⟩
    simp only [Call.run, Call.apply, HeapScheduler.pending, Pending.mk.injEq]
    simp only [released.deadline, released.partitions, released.ownedPause]
    constructor
    · funext other
      cases present : scheduler.partitions other with
      | false => simp [later, present]
      | true => simp [later, present, Option.filter]
    · funext other
      cases isOwned : scheduler.ownedPause other with
      | false => simp [later, isOwned]
      | true => simp [later, isOwned, consistent.owned other isOwned]

theorem runs_refine (calls : List Call) (consistent : scheduler.Consistent) :
    (calls.foldl Call.run scheduler).Consistent ∧
      (calls.foldl Call.run scheduler).pending = calls.foldl Call.apply scheduler.pending := by
  induction calls generalizing scheduler with
  | nil => exact ⟨consistent, rfl⟩
  | cons call calls ih =>
    obtain ⟨kept, same⟩ := run_refines consistent call
    rw [List.foldl_cons, List.foldl_cons, ← same]
    exact ih kept

theorem pending_some {partition : TopicPartition} {deadline : Int} :
    scheduler.pending.deadline partition = some deadline ↔
      scheduler.partitions partition = true ∧ scheduler.deadline partition = deadline := by
  simp only [HeapScheduler.pending, Option.ite_none_right_eq_some, Option.some.injEq]

/-- The poll waits for the earliest deadline, and not longer than allowed. -/
def Waits (pending : Pending) (now maximum timeout : Int) : Prop :=
  (∀ partition, pending.deadline partition = none) ∧ timeout = maximum ∨
    ∃ partition earliest, pending.deadline partition = some earliest ∧
      (∀ other deadline, pending.deadline other = some deadline → earliest ≤ deadline) ∧
      timeout = min maximum (max 0 (earliest - now))

theorem pollTimeout_waits (consistent : scheduler.Consistent) (now : Int)
    {maximum : Duration} (bounded : maximum ≤ maxDuration) :
    Waits scheduler.pending now maximum (scheduler.pollTimeout now maximum) := by
  unfold pollTimeout
  split_ifs with empty
  · refine .inl ⟨fun partition => ?_, rfl⟩
    refine if_neg fun mapped => ?_
    obtain ⟨index, inside, _⟩ := (consistent.mapped partition).mp mapped
    omega
  · refine .inr ⟨scheduler.deadlines.slot 0, _, pending_some.mpr ⟨?_, rfl⟩, ?_, ?_⟩
    · exact (consistent.mapped _).mpr ⟨0, by omega, rfl⟩
    · intro other deadline isPending
      obtain ⟨mapped, isDeadline⟩ := pending_some.mp isPending
      obtain ⟨index, inside, isOther⟩ := (consistent.mapped other).mp mapped
      have first := consistent.ordered.first inside
      rw [isOther, isDeadline] at first
      exact first
    · exact sub_saturates maximum _ bounded

/-- Over every finite run of calls the scheduler's structures are in step, and it
releases and waits as the latest deadlines and the owned pauses say. -/
theorem retry_scheduler_is_correct (calls : List Call) (now : Int) (maximum : Duration)
    (bounded : maximum ≤ maxDuration) :
    let scheduler := calls.foldl Call.run newHeapScheduler
    let pending := calls.foldl Call.apply ⟨fun _ => none, fun _ => false⟩
    scheduler.Consistent ∧
      (∀ partition, scheduler.ownedPause partition = pending.owned partition ∧
        (scheduler.ownedPause partition = true →
          ∃! index, index < scheduler.deadlines.size ∧
            scheduler.deadlines.slot index = partition)) ∧
      (∀ topic, ((scheduler.releaseDue now).2 topic).Pairwise (· < ·) ∧
        ∀ partition, partition ∈ (scheduler.releaseDue now).2 topic ↔
          pending.owned ⟨topic, partition⟩ = true ∧ pending.due now ⟨topic, partition⟩) ∧
      Waits pending now maximum (scheduler.pollTimeout now maximum) := by
  intro scheduler pending
  obtain ⟨consistent, same⟩ := runs_refine calls newHeapScheduler_consistent
  have isPending : scheduler.pending = pending := same
  refine ⟨consistent, fun partition => ⟨isPending ▸ rfl, fun isOwned => ?_⟩,
    fun topic => ⟨?_, fun partition => ?_⟩, isPending ▸ pollTimeout_waits consistent now bounded⟩
  · obtain ⟨index, inside, isPartition⟩ :=
      (consistent.mapped partition).mp (consistent.owned partition isOwned)
    refine ⟨index, ⟨inside, isPartition⟩, fun other isOther => ?_⟩
    exact consistent.placed.injective isOther.1 inside (isOther.2.trans isPartition.symm)
  · have once := (releaseDue_released consistent now).once topic
    have sorted := @List.pairwise_mergeSort Int (fun left right => decide (left ≤ right))
      (by simp only [decide_eq_true_eq]; exact fun _ _ _ => le_trans)
      (by simp only [Bool.or_eq_true,
        decide_eq_true_eq]; exact fun left right => le_total left right)
      ((releaseItems now scheduler (fun _ => [])).2 topic)
    exact (sorted.and once).imp fun both => lt_of_le_of_ne (of_decide_eq_true both.1) both.2
  · rw [(releaseDue_released consistent now).exact, ← isPending]
    simp only [List.not_mem_nil, false_or]
    refine and_congr_right fun isOwned => ⟨fun due => ?_, ?_⟩
    · exact ⟨_, pending_some.mpr ⟨consistent.owned _ isOwned, rfl⟩, due⟩
    · rintro ⟨deadline, isDeadline, due⟩
      exact (pending_some.mp isDeadline).2 ▸ due

theorem retry_scheduler_is_correct_sample :
    let calls : List Call := [.schedule ⟨"orders", 1⟩ 20 true, .schedule ⟨"orders", 0⟩ 30 true,
      .schedule ⟨"orders", 1⟩ 10 false]
    (1000 : Int) ≤ maxDuration ∧
      Waits (calls.foldl Call.apply ⟨fun _ => none, fun _ => false⟩) 4 1000
        ((calls.foldl Call.run newHeapScheduler).pollTimeout 4 1000) :=
  ⟨by decide, (retry_scheduler_is_correct _ 4 1000 (by decide)).2.2.2⟩

end Gomessenger.Kafka.Retry
