import Gomessenger.Failure
import Mathlib.Data.Fintype.Card
import Mathlib.Data.Finset.Card

/-! The readiness of a consumer under the events of its workers.

A step is one critical section of the consumer's mutex. The broker's ping is left
out of `Readiness`. -/

namespace Gomessenger.Kafka.Ready

inductive ConsumerState
  | new
  | running
  | draining
  | closed
  deriving DecidableEq, Repr

structure Shared where
  state : ConsumerState
  workersReady : Bool
  workerErr : Option GoError
  batchBackoffWorkers : Nat
  batchLastError : Option GoError
  workerReady : Finset Nat

def setWorkerReady (concurrency index : Nat) (ready : Bool) (shared : Shared) : Shared :=
  let workerReady := if ready then insert index shared.workerReady
    else shared.workerReady.erase index
  if shared.state ≠ .running ∨ shared.batchBackoffWorkers ≠ 0 then
    { shared with workerReady := workerReady, workersReady := false }
  else
    { shared with
      workerReady := workerReady
      workersReady := decide (workerReady.card = concurrency) }

def startBackoff (index : Nat) (err : GoError) (shared : Shared) : Shared :=
  { shared with
    batchBackoffWorkers := shared.batchBackoffWorkers + 1
    batchLastError := some err
    workerReady := shared.workerReady.erase index
    workersReady := false }

def endBackoff (concurrency : Nat) (shared : Shared) : Shared :=
  if shared.batchBackoffWorkers = 0 then shared
  else if shared.batchBackoffWorkers - 1 ≠ 0 then
    { shared with batchBackoffWorkers := shared.batchBackoffWorkers - 1 }
  else if shared.workerReady.card = concurrency ∧ shared.state = .running then
    { shared with batchBackoffWorkers := 0, batchLastError := none, workersReady := true }
  else { shared with batchBackoffWorkers := 0, batchLastError := none }

def setKafkaBatchBackoff (concurrency index : Nat) (active : Option GoError)
    (shared : Shared) : Shared :=
  match active with
  | some err => startBackoff index err shared
  | none => endBackoff concurrency shared

def recordWorkerError (err : GoError) (shared : Shared) : Shared :=
  if shared.workerErr.isSome then shared else { shared with workerErr := some err }

def beginDrain (shared : Shared) : Shared :=
  if shared.state = .new ∨ shared.state = .running
    then { shared with state := .draining } else shared

def markClosed (shared : Shared) : Shared := { shared with state := .closed }

def readiness (shared : Shared) : Except GoError Unit :=
  if shared.state ≠ .running then .error (.sentinel .runtimeNotRunning)
  else match shared.workerErr with
    | some err => .error (.wrap "messenger/kafka: consumer worker failed" err)
    | none =>
      if shared.workersReady = false ∨ shared.batchBackoffWorkers ≠ 0 then
        match shared.batchLastError with
        | some err =>
          .error (.join "Kafka consumer workers are backing off" (.sentinel .runtimeNotRunning) err)
        | none =>
          .error (.wrap "Kafka consumer workers are not ready" (.sentinel .runtimeNotRunning))
      else .ok ()

inductive WorkerPhase
  | idle
  | session
  | ready
  | backingOff
  | exited
  deriving DecidableEq, Repr

/-- The events of `Run` with its workers, of `BeginDrain` and of the close at the
end of `Run`. -/
inductive Event (workers : Nat)
  | run
  | launch (worker : Fin workers)
  | ready (worker : Fin workers)
  | backoffStart (worker : Fin workers) (err : GoError)
  | backoffEnd (worker : Fin workers)
  | exit (worker : Fin workers)
  | failed (worker : Fin workers) (err : GoError)
  | beginDrain
  | close
  deriving DecidableEq

structure System (workers : Nat) where
  shared : Shared
  phase : Fin workers → WorkerPhase

variable {workers : Nat}

def System.initial (workers : Nat) : System workers :=
  ⟨⟨.new, false, none, 0, none, ∅⟩, fun _ => .idle⟩

def System.move (system : System workers) (worker : Fin workers)
    (phase : WorkerPhase) (shared : Shared) :
    System workers :=
  ⟨shared, fun other => if other = worker then phase else system.phase other⟩

def inSession (phase : WorkerPhase) : Bool := phase = .session || phase = .ready

def System.step (system : System workers) : Event workers → Option (System workers)
  | .run =>
    if system.shared.state = .new then some { system with shared.state := .running } else none
  | .launch worker =>
    if system.shared.state ≠ .new ∧ system.phase worker = .idle
      then some (system.move worker .session system.shared)
    else none
  | .ready worker =>
    if inSession (system.phase worker) then
      some (system.move worker .ready (setWorkerReady workers worker true system.shared))
    else none
  | .backoffStart worker err =>
    if inSession (system.phase worker) then
      some (system.move worker .backingOff
        (setKafkaBatchBackoff workers worker (some err) system.shared))
    else none
  | .backoffEnd worker =>
    if system.phase worker = .backingOff then
      some (system.move worker .session (setKafkaBatchBackoff workers worker none system.shared))
    else none
  | .exit worker =>
    if inSession (system.phase worker) then
      some (system.move worker .exited (setWorkerReady workers worker false system.shared))
    else none
  -- Only the first error of a worker that left is kept.
  | .failed worker err =>
    if system.phase worker = .exited then
      some { system with shared := recordWorkerError err system.shared } else none
  | .beginDrain => some { system with shared := beginDrain system.shared }
  | .close => some { system with shared := markClosed system.shared }

def runEvents (workers : Nat) (events : List (Event workers)) : Option (System workers) :=
  events.foldlM System.step (.initial workers)

def Event.concerns (worker : Fin workers) : Event workers → Bool
  | .ready other => other = worker
  | .backoffStart other _ => other = worker
  | .exit other => other = worker
  | _ => false

def ReadySince (events : List (Event workers)) (worker : Fin workers) : Prop :=
  events.reverse.find? (Event.concerns worker) = some (.ready worker)

section Counting

variable {worker : Fin workers} {system : System workers}

def System.inPhase (system : System workers) (phase : WorkerPhase) : Finset (Fin workers) :=
  Finset.univ.filter (fun worker => system.phase worker = phase)

variable {phase : WorkerPhase}

theorem mem_inPhase : worker ∈ system.inPhase phase ↔ system.phase worker = phase := by
  simp [System.inPhase]

theorem inPhase_move (system : System workers) (worker : Fin workers)
    (phase wanted : WorkerPhase) (shared : Shared) :
    (system.move worker phase shared).inPhase wanted =
      if phase = wanted then insert worker (system.inPhase wanted)
        else (system.inPhase wanted).erase worker := by
  ext other
  by_cases same : other = worker
  · split_ifs with there
    · simp [mem_inPhase, System.move, same, there]
    · simp [mem_inPhase, System.move, same, there]
  · split_ifs
    · simp [mem_inPhase, System.move, same]
    · simp [mem_inPhase, System.move, same]

/-- What the cached fields say of the workers. -/
structure Consistent (system : System workers) : Prop where
  ready : system.shared.workerReady = (system.inPhase .ready).map Fin.valEmbedding
  backoff : system.shared.batchBackoffWorkers = (system.inPhase .backingOff).card
  cached : system.shared.state = .running → (system.shared.workersReady = true ↔
      system.shared.workerReady.card = workers ∧ system.shared.batchBackoffWorkers = 0)
  fresh : system.shared.state = .new → system.shared.workersReady = false ∧ ∀ worker,
    system.phase worker = .idle
  failed : system.shared.workerErr ≠ none → ∃ worker, system.phase worker = .exited

theorem Consistent.all_ready (consistent : Consistent system) :
    system.shared.workerReady.card = workers ↔ ∀ worker, system.phase worker = .ready := by
  rw [consistent.ready, Finset.card_map]
  constructor
  · intro full worker
    have whole := (Finset.card_eq_iff_eq_univ _).mp (full.trans (Fintype.card_fin workers).symm)
    exact mem_inPhase.mp (whole ▸ Finset.mem_univ worker)
  · intro every
    rw [System.inPhase, Finset.filter_true_of_mem (fun worker _ => every worker),
      Finset.card_univ, Fintype.card_fin]

theorem Consistent.move (consistent : Consistent system) {shared : Shared}
    (begun : system.phase worker ≠ .exited) (started : system.shared.state ≠ .new)
    (state : shared.state = system.shared.state)
    (workerErr : shared.workerErr = system.shared.workerErr)
    (ready : shared.workerReady = if phase = .ready then insert worker.val system.shared.workerReady
      else system.shared.workerReady.erase worker.val)
    (backoff : shared.batchBackoffWorkers =
      ((system.move worker phase shared).inPhase .backingOff).card)
    (cached : shared.state = .running →
      (shared.workersReady = true ↔ shared.workerReady.card = workers ∧
        shared.batchBackoffWorkers = 0)) :
    Consistent (system.move worker phase shared) where
  ready := by
    change shared.workerReady = _
    rw [ready, consistent.ready, inPhase_move]
    split_ifs
    · rw [Finset.map_insert]
      rfl
    · rw [Finset.map_erase]
      rfl
  backoff := backoff
  cached := cached
  fresh isNew := absurd (state.symm.trans isNew) started
  failed reported := by
    obtain ⟨other, exited⟩ := consistent.failed (workerErr ▸ reported)
    have apart : other ≠ worker := fun same => begun (same ▸ exited)
    exact ⟨other, by simp [System.move, apart, exited]⟩

theorem inSession_ne (inside : inSession phase = true) :
    phase ≠ .backingOff ∧ phase ≠ .exited ∧ phase ≠ .idle := by
  cases phase <;> simp_all [inSession]

theorem Consistent.started (consistent : Consistent system) (moved : system.phase worker ≠ .idle) :
    system.shared.state ≠ .new := fun isNew => moved ((consistent.fresh isNew).2 worker)

theorem setWorkerReady_fields (workers index : Nat) (ready : Bool) (shared : Shared) :
    let next := setWorkerReady workers index ready shared
    next.state = shared.state ∧ next.workerErr = shared.workerErr ∧
      next.batchBackoffWorkers = shared.batchBackoffWorkers ∧
      next.workerReady = (if ready then insert index shared.workerReady
        else shared.workerReady.erase index) ∧
      (next.state = .running →
        (next.workersReady = true ↔
          next.workerReady.card = workers ∧ next.batchBackoffWorkers = 0)) := by
  by_cases stopped : shared.state ≠ .running ∨ shared.batchBackoffWorkers ≠ 0
  · simp only [setWorkerReady, if_pos stopped, true_and]
    intro running
    simp only [Bool.false_eq_true, false_iff, not_and]
    exact fun _ => stopped.resolve_left (not_not.mpr running)
  · simp only [setWorkerReady, if_neg stopped, true_and]
    simp only [not_or, not_not] at stopped
    intro _
    simp [stopped.2]

theorem not_mem_backing (elsewhere : system.phase worker ≠ .backingOff) :
    worker ∉ system.inPhase .backingOff :=
  fun member => elsewhere (mem_inPhase.mp member)

theorem Consistent.setWorkerReady (consistent : Consistent system)
    (inside : inSession (system.phase worker) = true)
    (ready : Bool) (isPhase : phase = if ready then .ready else .exited) :
    Consistent (system.move worker phase (setWorkerReady workers worker ready system.shared)) := by
  obtain ⟨notBacking, notExited, notIdle⟩ := inSession_ne inside
  obtain ⟨state, workerErr, backoff, readies, cached⟩ :=
    setWorkerReady_fields workers worker ready system.shared
  refine consistent.move notExited (consistent.started notIdle) state workerErr ?_ ?_ cached
  · rw [readies, isPhase]
    cases ready <;> rfl
  · have other : phase ≠ .backingOff := by
      rw [isPhase]
      cases ready <;> decide
    rw [backoff, consistent.backoff, inPhase_move, if_neg other,
      Finset.erase_eq_of_notMem (not_mem_backing notBacking)]

theorem Consistent.startBackoff (consistent : Consistent system)
    (inside : inSession (system.phase worker) = true) (err : GoError) :
    Consistent (system.move worker .backingOff (startBackoff worker err system.shared)) := by
  obtain ⟨notBacking, notExited, notIdle⟩ := inSession_ne inside
  refine consistent.move notExited (consistent.started notIdle) rfl rfl rfl ?_ ?_
  · rw [inPhase_move, if_pos rfl, Finset.card_insert_of_notMem (not_mem_backing notBacking),
      ← consistent.backoff]
    rfl
  · intro _
    simp [Ready.startBackoff]

theorem Consistent.endBackoff (consistent : Consistent system)
    (backing : system.phase worker = .backingOff) :
    Consistent (system.move worker .session (endBackoff workers system.shared)) := by
  have member : worker ∈ system.inPhase .backingOff := mem_inPhase.mpr backing
  have counted := Finset.card_pos.mpr ⟨worker, member⟩
  have started := consistent.started (by rw [backing]; decide : system.phase worker ≠ .idle)
  have absent : worker.val ∉ system.shared.workerReady := by
    rw [consistent.ready]
    intro found
    obtain ⟨other, isOther, same⟩ := Finset.mem_map.mp found
    rw [Fin.val_injective same, mem_inPhase, backing] at isOther
    cases isOther
  have waiting : system.shared.workerReady.card ≠ workers := by
    intro full
    have ready := consistent.all_ready.mp full worker
    rw [backing] at ready
    cases ready
  have fewer : ∀ shared, ((system.move worker .session shared).inPhase .backingOff).card =
      system.shared.batchBackoffWorkers - 1 := by
    intro shared
    rw [inPhase_move, if_neg (by decide), Finset.card_erase_of_mem member, consistent.backoff]
  have some : system.shared.batchBackoffWorkers ≠ 0 := by
    rw [consistent.backoff]
    omega
  have same : system.shared.workerReady = system.shared.workerReady.erase worker.val :=
    (Finset.erase_eq_of_notMem absent).symm
  unfold Ready.endBackoff
  rw [if_neg some]
  split_ifs with more last
  · refine consistent.move (by rw [backing]; decide) started rfl rfl same (fewer _).symm ?_
    intro running
    have cached := consistent.cached running
    simp only [waiting, false_and, iff_false] at cached ⊢
    exact cached
  · exact absurd last.1 waiting
  · refine consistent.move (by rw [backing]; decide) started rfl rfl same ?_ ?_
    · change 0 = _
      rw [fewer]
      omega
    · intro running
      have cached := consistent.cached running
      simp only [waiting, false_and, iff_false] at cached ⊢
      exact cached

theorem Consistent.initial (workers : Nat) : Consistent (System.initial workers) where
  ready := by simp [System.initial, System.inPhase]
  backoff := by simp [System.initial, System.inPhase]
  cached running := nomatch running
  fresh _ := ⟨rfl, fun _ => rfl⟩
  failed reported := absurd rfl reported

theorem Consistent.step (positive : 0 < workers)
    (consistent : Consistent system) {event : Event workers}
    {next : System workers} (stepped : system.step event = some next) : Consistent next := by
  cases event with
  | run =>
    rw [System.step, Option.ite_none_right_eq_some] at stepped
    obtain ⟨isNew, same⟩ := stepped
    rw [← Option.some.inj same]
    refine ⟨consistent.ready, consistent.backoff, ?_, (nomatch ·), consistent.failed⟩
    intro _
    obtain ⟨unready, idle⟩ := consistent.fresh isNew
    -- Some worker exists and none has started: the cached flag and the count are both down.
    have waiting : system.shared.workerReady.card ≠ workers := by
      intro full
      have ready := consistent.all_ready.mp full ⟨0, positive⟩
      rw [idle] at ready
      cases ready
    simp [unready, waiting]
  | launch worker =>
    rw [System.step, Option.ite_none_right_eq_some] at stepped
    obtain ⟨⟨started, idle⟩, same⟩ := stepped
    rw [← Option.some.inj same]
    refine consistent.move (by rw [idle]; decide) started rfl rfl ?_ ?_ consistent.cached
    · rw [if_neg (by decide), Finset.erase_eq_of_notMem]
      rw [consistent.ready]
      intro found
      obtain ⟨other, isOther, isWorker⟩ := Finset.mem_map.mp found
      rw [Fin.val_injective isWorker, mem_inPhase, idle] at isOther
      cases isOther
    · rw [inPhase_move, if_neg (by decide),
        Finset.erase_eq_of_notMem (not_mem_backing (by rw [idle]; decide))]
      exact consistent.backoff
  | ready worker =>
    rw [System.step, Option.ite_none_right_eq_some] at stepped
    rw [← Option.some.inj stepped.2]
    exact consistent.setWorkerReady stepped.1 true rfl
  | backoffStart worker err =>
    rw [System.step, Option.ite_none_right_eq_some] at stepped
    rw [← Option.some.inj stepped.2]
    exact consistent.startBackoff stepped.1 err
  | backoffEnd worker =>
    rw [System.step, Option.ite_none_right_eq_some] at stepped
    rw [← Option.some.inj stepped.2]
    exact consistent.endBackoff stepped.1
  | exit worker =>
    rw [System.step, Option.ite_none_right_eq_some] at stepped
    rw [← Option.some.inj stepped.2]
    exact consistent.setWorkerReady stepped.1 false rfl
  | failed worker err =>
    rw [System.step, Option.ite_none_right_eq_some] at stepped
    rw [← Option.some.inj stepped.2]
    unfold recordWorkerError
    split_ifs
    · exact consistent
    · exact ⟨consistent.ready, consistent.backoff, consistent.cached, consistent.fresh,
        fun _ => ⟨worker, stepped.1⟩⟩
  | beginDrain =>
    rw [← Option.some.inj stepped]
    unfold Ready.beginDrain
    split_ifs
    · exact ⟨consistent.ready, consistent.backoff, (nomatch ·), (nomatch ·), consistent.failed⟩
    · exact consistent
  | close =>
    rw [← Option.some.inj stepped]
    exact ⟨consistent.ready, consistent.backoff, (nomatch ·), (nomatch ·), consistent.failed⟩

end Counting

section Honest

variable {system : System workers}

theorem readiness_ok (shared : Shared) :
    readiness shared = .ok () ↔ shared.state = .running ∧ shared.workerErr = none ∧
      shared.workersReady = true ∧
      shared.batchBackoffWorkers = 0 := by
  unfold readiness
  by_cases running : shared.state = .running
  · rw [if_neg (not_not.mpr running)]
    cases shared.workerErr with
    | some err => simp
    | none =>
      by_cases waiting : shared.workersReady = false ∨ shared.batchBackoffWorkers ≠ 0
      · simp only [if_pos waiting]
        constructor
        · intro allowed
          cases failed : shared.batchLastError <;> simp [failed] at allowed
        · rintro ⟨_, _, ready, none⟩
          rcases waiting with unready | some
          · rw [ready] at unready
            cases unready
          · exact absurd none some
      · simp only [if_neg waiting, true_iff]
        simp only [not_or, not_not, Bool.not_eq_false] at waiting
        exact ⟨running, trivial, waiting⟩
  · simp [running]

theorem Consistent.honest (consistent : Consistent system) :
    readiness system.shared = .ok () ↔ system.shared.state = .running ∧ ∀ worker,
      system.phase worker = .ready := by
  rw [readiness_ok, ← consistent.all_ready]
  constructor
  · rintro ⟨running, _, ready, _⟩
    exact ⟨running, ((consistent.cached running).mp ready).1⟩
  · rintro ⟨running, full⟩
    have every := consistent.all_ready.mp full
    have none : system.shared.batchBackoffWorkers = 0 := by
      rw [consistent.backoff, Finset.card_eq_zero]
      refine Finset.eq_empty_of_forall_notMem ?_
      exact fun worker => not_mem_backing (by rw [every]; decide)
    refine ⟨running, ?_, (consistent.cached running).mpr ⟨full, none⟩, none⟩
    by_contra failed
    obtain ⟨worker, exited⟩ := consistent.failed failed
    rw [every] at exited
    cases exited

theorem step_reported {event : Event workers} {next : System workers}
    (stepped : system.step event = some next) (worker : Fin workers) :
    next.phase worker = .ready ↔
      if event.concerns worker then event = .ready worker else system.phase worker = .ready := by
  cases event with
  | run =>
    rw [System.step, Option.ite_none_right_eq_some] at stepped
    rw [← Option.some.inj stepped.2]
    rfl
  | launch other =>
    rw [System.step, Option.ite_none_right_eq_some] at stepped
    rw [← Option.some.inj stepped.2]
    by_cases same : worker = other
    · simp [System.move, Event.concerns, same, stepped.1.2]
    · simp [System.move, Event.concerns, same]
  | backoffEnd other =>
    rw [System.step, Option.ite_none_right_eq_some] at stepped
    rw [← Option.some.inj stepped.2]
    by_cases same : worker = other
    · simp [System.move, Event.concerns, same, stepped.1]
    · simp [System.move, Event.concerns, same]
  | ready other | backoffStart other _ | exit other =>
    rw [System.step, Option.ite_none_right_eq_some] at stepped
    rw [← Option.some.inj stepped.2]
    by_cases same : worker = other
    · simp [System.move, Event.concerns, same]
    · have apart : other ≠ worker := fun found => same found.symm
      simp [System.move, Event.concerns, same, apart]
  | failed other err =>
    rw [System.step, Option.ite_none_right_eq_some] at stepped
    rw [← Option.some.inj stepped.2]
    rfl
  | beginDrain | close =>
    rw [← Option.some.inj stepped]
    rfl

/-- What holds along every run. -/
theorem runEvents_consistent (positive : 0 < workers) (events : List (Event workers))
    (ran : runEvents workers events = some system) :
    Consistent system ∧ ∀ worker, system.phase worker = .ready ↔ ReadySince events worker := by
  induction events using List.reverseRecOn generalizing system with
  | nil =>
    rw [← Option.some.inj ran]
    exact ⟨.initial workers, fun worker => by simp [System.initial, ReadySince]⟩
  | append_singleton events event ih =>
    rw [runEvents, List.foldlM_append] at ran
    obtain ⟨before, isBefore, last⟩ := Option.bind_eq_some_iff.mp ran
    rw [List.foldlM_cons] at last
    obtain ⟨after, stepped, same⟩ := Option.bind_eq_some_iff.mp last
    rw [← Option.some.inj same]
    obtain ⟨consistent, reported⟩ := ih isBefore
    refine ⟨consistent.step positive stepped, ?_⟩
    intro worker
    rw [step_reported stepped worker, reported worker, ReadySince, ReadySince, List.reverse_append,
      List.reverse_singleton, List.singleton_append, List.find?_cons]
    cases event.concerns worker <;> simp

end Honest

theorem readiness_is_honest (workers : Nat) (positive : 0 < workers) (events : List (Event workers))
    (system : System workers) (ran : runEvents workers events = some system) :
    (readiness system.shared = .ok () → system.shared.state = .running ∧
      ∀ worker, ReadySince events worker ∧ system.phase worker ≠ .backingOff) ∧
    (system.shared.state = .running →
      (∀ worker, ReadySince events worker ∧ system.phase worker ≠ .backingOff ∧
        system.phase worker ≠ .exited) →
      readiness system.shared = .ok ()) := by
  obtain ⟨consistent, reported⟩ := runEvents_consistent positive events ran
  constructor
  · intro allowed
    obtain ⟨running, every⟩ := consistent.honest.mp allowed
    refine ⟨running, fun worker => ⟨(reported worker).mp (every worker), ?_⟩⟩
    rw [every worker]
    decide
  · intro running every
    exact consistent.honest.mpr ⟨running, fun worker => (reported worker).mpr (every worker).1⟩

def sampleEvents : List (Event 2) :=
  [.run, .launch 0, .launch 1, .ready 1, .backoffStart 1 (.text "lost"), .ready 0,
    .backoffEnd 1, .ready 1]

theorem sampleEvents_run : (runEvents 2 sampleEvents).isSome = true := by decide

theorem readiness_is_honest_sample :
    ∃ system, runEvents 2 sampleEvents = some system ∧ readiness system.shared = .ok () := by
  refine ⟨(runEvents 2 sampleEvents).get sampleEvents_run, (Option.some_get sampleEvents_run).symm,
    (readiness_is_honest 2 (by decide) sampleEvents _ (Option.some_get sampleEvents_run).symm).2
      (by decide) ?_⟩
  unfold ReadySince
  decide

end Gomessenger.Kafka.Ready
