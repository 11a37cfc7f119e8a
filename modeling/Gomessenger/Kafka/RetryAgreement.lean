import Gomessenger.Kafka.RetryHeap
import Gomessenger.Kafka.RetryScheduler

/-! The workers' list of deferred partitions against the indexed heap of the source:
both answer every run of requests alike. -/

namespace Gomessenger.Kafka.Retry

open HeapScheduler

/-- What a worker asks of its scheduler. -/
inductive Request where
  | schedule (partition : TopicPartition) (deadline : Time) (ownsPause : Bool)
  | releaseDue (now : Time)

def Request.call : Request → Call
  | .schedule partition deadline ownsPause => .schedule partition deadline ownsPause
  | .releaseDue now => .releaseDue now

def Request.run (listed : RetryPartitionScheduler) : Request → RetryPartitionScheduler
  | .schedule partition deadline ownsPause => listed.schedule partition deadline ownsPause
  | .releaseDue now => (listed.releaseDue now).2

/-- The list holds the pending deadlines and the owned pauses. -/
structure Lists (listed : RetryPartitionScheduler) (pending : Pending) : Prop where
  deadline : ∀ partition deadline, pending.deadline partition = some deadline ↔
    ∃ time : Time, ⟨partition, time⟩ ∈ listed.deadlines ∧ deadline = time
  owned : ∀ partition, partition ∈ listed.ownedPause ↔ pending.owned partition = true

variable {listed : RetryPartitionScheduler} {pending : Pending} {heap : HeapScheduler}

theorem mem_schedule {partition other : TopicPartition} {deadline time : Time} {ownsPause : Bool} :
    ⟨other, time⟩ ∈ (listed.schedule partition deadline ownsPause).deadlines ↔
      if other = partition then time = deadline else ⟨other, time⟩ ∈ listed.deadlines := by
  simp only [RetryPartitionScheduler.schedule]
  split_ifs with known same same
  -- a listed partition keeps its place and takes the new deadline
  · obtain ⟨item, inside, here⟩ := List.any_eq_true.mp known
    grind
  · grind
  -- an unlisted one is appended
  · grind
  · grind

theorem Lists.due (lists : Lists listed pending) (now : Time) (partition : TopicPartition) :
    partition ∈ (listed.deadlines.filter (fun item => decide (item.deadline ≤ now))).map
        DeferredPartition.partition ↔
      pending.due now partition := by
  simp only [Pending.due, lists.deadline, List.mem_map, List.mem_filter, decide_eq_true_eq]
  constructor
  · rintro ⟨⟨_, time⟩, ⟨inside, isDue⟩, rfl⟩
    exact ⟨time, ⟨time, inside, rfl⟩, Int.ofNat_le.mpr isDue⟩
  · rintro ⟨_, ⟨time, inside, rfl⟩, isDue⟩
    exact ⟨⟨partition, time⟩, ⟨inside, Int.ofNat_le.mp isDue⟩, rfl⟩

theorem Lists.run (lists : Lists listed pending) (request : Request) :
    Lists (request.run listed) (request.call.apply pending) := by
  cases request with
  | schedule partition deadline ownsPause =>
    refine ⟨fun other pendingTime => ?_, fun other => ?_⟩
    · simp only [Request.run, Request.call, Call.apply, mem_schedule]
      split_ifs with same
      · simp [eq_comm]
      · exact lists.deadline other pendingTime
    · simp only [Request.run, Request.call, Call.apply, RetryPartitionScheduler.schedule,
        Bool.or_eq_true, Bool.and_eq_true, beq_iff_eq, ← lists.owned]
      cases ownsPause <;> simp
  | releaseDue now =>
    refine ⟨fun other pendingTime => ?_, fun other => ?_⟩
    · simp only [Request.run, Request.call, Call.apply, RetryPartitionScheduler.releaseDue,
        List.mem_filter, Option.filter_eq_some_iff, lists.deadline]
      grind
    · simp only [Request.run, Request.call, Call.apply, RetryPartitionScheduler.releaseDue,
        List.mem_filter, Bool.not_eq_true', decide_eq_false_iff_not, lists.due, lists.owned,
        Bool.and_eq_true]
      cases isPending : pending.deadline other <;> simp [Pending.due, isPending]

theorem lists_run (requests : List Request) (lists : Lists listed pending) :
    Lists (requests.foldl Request.run listed)
      ((requests.map Request.call).foldl Call.apply pending) := by
  induction requests generalizing listed pending with
  | nil => exact lists
  | cons request requests ih => exact ih (lists.run request)

theorem Lists.released (lists : Lists listed heap.pending) (consistent : heap.Consistent)
    (now : Time) (topic : String) (partition : Int) :
    partition ∈ (heap.releaseDue now).2 topic ↔
      ⟨topic, partition⟩ ∈ (listed.releaseDue now).1 := by
  rw [(releaseDue_released consistent now).exact, RetryPartitionScheduler.releaseDue,
    List.mem_filter, lists.due, decide_eq_true_eq, lists.owned, and_comm]
  simp only [List.not_mem_nil, false_or]
  refine and_congr_left fun isOwned => ?_
  -- an owned pause is always of a mapped partition
  have isDeadline := pending_some.mpr ⟨consistent.owned _ isOwned, rfl⟩
  simp [Pending.due, isDeadline]

theorem Lists.pollTimeout (lists : Lists listed heap.pending) (consistent : heap.Consistent)
    (now : Time) :
    heap.pollTimeout now second = listed.pollTimeout now second := by
  unfold RetryPartitionScheduler.pollTimeout
  obtain ⟨none, waits⟩ | ⟨partition, earliest, isPending, first, waits⟩ :=
    @pollTimeout_waits _ consistent now second (by decide)
  · have empty : listed.deadlines = [] :=
      List.eq_nil_iff_forall_not_mem.mpr fun item member => by
        cases (none item.partition).symm.trans ((lists.deadline ..).mpr ⟨_, member, rfl⟩)
    rw [waits, empty]
    rfl
  · obtain ⟨time, member, rfl⟩ := (lists.deadline ..).mp isPending
    have least : (listed.deadlines.map DeferredPartition.deadline).min? = some time := by
      refine List.min?_eq_some_iff.mpr ⟨List.mem_map.mpr ⟨_, member, rfl⟩, ?_⟩
      intro later inside
      obtain ⟨item, isItem, rfl⟩ := List.mem_map.mp inside
      exact Int.ofNat_le.mp (first item.partition _ ((lists.deadline ..).mpr ⟨_, isItem, rfl⟩))
    have elapsed : max 0 ((time : Int) - now) = (time - now : Nat) := by omega
    simp only [waits, least, elapsed, Nat.cast_min]

/-- After every run of requests the heap and the list resume the same partitions
and wait the same time. -/
theorem heap_follows_list (requests : List Request) (now : Time) :
    let heap := (requests.map Request.call).foldl Call.run newHeapScheduler
    let listed := requests.foldl Request.run .empty
    (∀ topic partition, partition ∈ (heap.releaseDue now).2 topic ↔
        ⟨topic, partition⟩ ∈ (listed.releaseDue now).1) ∧
      heap.pollTimeout now second = listed.pollTimeout now second := by
  obtain ⟨consistent, isPending⟩ :=
    runs_refine (requests.map Request.call) newHeapScheduler_consistent
  have initial : Lists .empty newHeapScheduler.pending := by
    constructor <;>
      simp [HeapScheduler.pending, newHeapScheduler, RetryPartitionScheduler.empty]
  have lists := isPending ▸ lists_run requests initial
  exact ⟨lists.released consistent now, lists.pollTimeout consistent now⟩

end Gomessenger.Kafka.Retry
