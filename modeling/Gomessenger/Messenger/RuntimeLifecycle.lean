import Gomessenger.Messenger.Runtime

/-! The lifecycle of a runtime under any interleaving of its calls.

One call owns a lifecycle: the Run that found the runtime new, or the Shutdown
that claimed one no Run had started. Everything that happens once happens by the
owner or under a `sync.Once`. -/

namespace Gomessenger.Runtime

inductive Stage
  | outside
  | owning
  | spent
  | stored (err : Option GoError)
  | marked (err : Option GoError)
  | finished (err : Option GoError)

def Finish.stage : Finish → Stage
  | .fanOut _ => .owning
  | .fannedOut _ => .spent
  | .storing _ => .spent
  | .closing err => .stored err
  | .closingDone err => .marked err
  | .finished err => .finished err

def RunPc.stage : RunPc → Stage
  | .entering _ => .outside
  | .refused _ => .outside
  | .finishing finish => finish.stage
  | _ => .owning

def ShutdownPc.stage : ShutdownPc → Stage
  | .draining true => .owning
  | .drainRead true => .owning
  | .finishing finish => finish.stage
  | _ => .outside

def Thread.stage : Thread → Stage
  | .run pc _ => pc.stage
  | .beginDrain _ => .outside
  | .shutdown pc => pc.stage
  | .health _ _ => .outside

/-- What a step does to the runtime's fields and to the stage of its thread. -/
inductive Effect (services : List String) (shared : Shared) : Stage → Shared → Stage → Prop
  | quiet (stage : Stage) : Effect services shared stage shared stage
  | cancel (stage : Stage) : Effect services shared stage shared.cancel stage
  | admitRun (new : shared.state = .new) : Effect services shared .outside shared.admitRun .owning
  | claim (opened : shared.state ≠ .closed) (unrun : shared.runCancel = false)
      (unclaimed : shared.shutdownStarted = false) : Effect services shared
        .outside shared.claim .owning
  | drain (stage : Stage) (panics : List Bool) (fresh : shared.drain = false) :
      Effect services shared stage (shared.drainBody services panics) stage
  | fanOut : Effect services shared .owning shared.fanOut .spent
  | store (err : Option GoError) : Effect services shared .spent (shared.store err) (.stored err)
  | close (err : Option GoError) : Effect services shared (.stored err) shared.close (.marked err)
  | closeDone (err : Option GoError) : Effect services shared (.marked err)
    shared.closeDone (.finished err)
  | leave (err : Option GoError) : Effect services shared (.finished err) shared .outside

section Effects

variable {services : List String} {shared : Shared}

theorem cancel_effect (stage : Stage) (needed : Bool) :
    Effect services shared stage (if needed = true then shared.cancel else shared) stage := by
  cases needed with
  | true => exact .cancel stage
  | false => exact .quiet stage

theorem drain_effect (stage : Stage) (panics : List Bool) : Effect services shared stage
      (if shared.drain = true then shared else shared.drainBody services panics) stage := by
  split_ifs with drained
  · exact .quiet stage
  · exact .drain stage panics (Bool.eq_false_of_not_eq_true drained)

variable {answer : Answer} {next : Shared}

theorem finish_effect {ofRun : Bool} {finish moved : Finish}
    (advanced : finish.advance services ofRun shared answer = some (next, moved)) :
    Effect services shared finish.stage next moved.stage := by
  unfold Finish.advance at advanced
  split at advanced
  · cases advanced
    exact .fanOut
  · obtain ⟨err, _, same⟩ := Option.map_eq_some_iff.mp advanced
    obtain ⟨rfl, rfl⟩ := Prod.mk.inj same
    exact cancel_effect _ ofRun
  · cases advanced
    exact .store _
  · cases advanced
    exact .close _
  · cases advanced
    exact .closeDone _
  · cases advanced

theorem service_effect {data : RunData} {pc moved : RunPc} {after : RunData}
    (advanced : (data.service answer).map (fun data => (shared, pc, data)) =
      some (next, moved, after)) :
    Effect services shared pc.stage next moved.stage := by
  obtain ⟨_, _, same⟩ := Option.map_eq_some_iff.mp advanced
  simp only [Prod.mk.injEq] at same
  obtain ⟨rfl, rfl, rfl⟩ := same
  exact .quiet _

theorem branch_effect {T : Type} {stage : T → Stage} {before : Stage} {taken : Shared}
    {pc moved : T} (same : some (taken, pc) = some (next, moved))
    (effect : Effect services shared before taken (stage pc)) :
    Effect services shared before next (stage moved) := by
  cases same
  exact effect

theorem run_effect {data after : RunData} {pc moved : RunPc}
    (advanced : runAdvance services shared data pc answer = some (next, moved, after)) :
    Effect services shared pc.stage next moved.stage := by
  have branch {taken : Shared} {target : RunPc} {left : RunData}
      (same : some (taken, target, left) = some (next, moved, after))
      (effect : Effect services shared pc.stage taken target.stage) :
      Effect services shared pc.stage next moved.stage := by
    simp only [Option.some.injEq, Prod.mk.injEq] at same
    obtain ⟨rfl, rfl, rfl⟩ := same
    exact effect
  unfold runAdvance at advanced
  split at advanced
  · exact branch advanced (.quiet _)
  · split at advanced
    · exact branch advanced (.quiet _)
    · exact branch advanced (.quiet _)
    · exact branch advanced (.quiet _)
    next new => exact branch advanced (.admitRun new)
  · split_ifs at advanced
    exact branch advanced (.quiet _)
  · split_ifs at advanced
    exact branch advanced (.quiet _)
  · split at advanced
    · cases advanced
    · exact branch advanced (.quiet _)
  · exact branch advanced (.quiet _)
  · exact branch advanced (.quiet _)
  · split at advanced
    · exact branch advanced (.quiet _)
    · exact branch advanced (.quiet _)
  · split_ifs at advanced
    · exact branch advanced (.quiet _)
    · exact branch advanced (.quiet _)
  · exact branch advanced (drain_effect _ _)
  · split_ifs at advanced
    · exact branch advanced (.quiet _)
    · exact branch advanced (.quiet _)
  next needed => exact branch advanced (cancel_effect _ needed)
  · split_ifs at advanced
    exact branch advanced (.quiet _)
  · exact branch advanced (.cancel _)
  · split at advanced
    · exact branch advanced (.quiet _)
    · split at advanced
      · exact branch advanced (.quiet _)
      · exact branch advanced (.quiet _)
  next finish _ =>
    split at advanced
    next finished => exact branch advanced (finish_effect finished)
    · exact service_effect advanced
  · exact service_effect advanced

theorem shutdown_effect {pc moved : ShutdownPc}
    (advanced : shutdownAdvance services shared pc answer = some (next, moved)) :
    Effect services shared pc.stage next moved.stage := by
  unfold shutdownAdvance at advanced
  split at advanced
  · exact branch_effect advanced (.quiet _)
  · split_ifs at advanced with closed started claimed
    · exact branch_effect advanced (.quiet _)
    · exact branch_effect advanced (.quiet _)
    · exact branch_effect advanced (.quiet _)
    · exact branch_effect advanced
        (.claim closed (Bool.eq_false_of_not_eq_true started)
          (Bool.eq_false_of_not_eq_true claimed))
  · split_ifs at advanced
    exact branch_effect advanced (.quiet _)
  · exact branch_effect advanced (.quiet _)
  next owner panics => 
    cases owner with
    | true => exact branch_effect advanced (drain_effect _ panics)
    | false => exact branch_effect advanced (drain_effect _ panics)
  · exact branch_effect advanced (.quiet _)
  · exact branch_effect advanced (.quiet _)
  · split_ifs at advanced
    exact branch_effect advanced (.quiet _)
  · exact branch_effect advanced (.cancel _)
  · exact branch_effect advanced (.quiet _)
  · exact branch_effect advanced (.leave _)
  · obtain ⟨finished, isFinished, same⟩ := Option.map_eq_some_iff.mp advanced
    exact branch_effect (congrArg some same) (finish_effect isFinished)
  · cases advanced

/-- Every step of every call has one of these effects. -/
theorem advance_effect {thread moved : Thread}
    (advanced : advance services shared thread answer = some (next, moved)) :
    Effect services shared thread.stage next moved.stage := by
  unfold advance at advanced
  split at advanced
  · obtain ⟨⟨taken, pc, data⟩, ran, same⟩ := Option.map_eq_some_iff.mp advanced
    exact branch_effect (congrArg some same) (run_effect ran)
  · exact branch_effect advanced (drain_effect _ _)
  · cases advanced
  · obtain ⟨⟨taken, pc⟩, ran, same⟩ := Option.map_eq_some_iff.mp advanced
    exact branch_effect (congrArg some same) (shutdown_effect ran)
  · obtain ⟨pc, _, same⟩ := Option.map_eq_some_iff.mp advanced
    exact branch_effect (congrArg some same) (.quiet _)

end Effects

def Shared.Stored (shared : Shared) : Prop := .stored shared.shutdownErr ∈ shared.log

structure Sound (shared : Shared) : Prop where
  started : shared.runCancel = true → shared.state ≠ .new
  claimed : shared.shutdownStarted = true → shared.state ≠ .new
  running : shared.state = .running → shared.runCancel = true
  drained : .drainBegan ∈ shared.log → 2 ≤ shared.state.rank
  done : shared.done = true → shared.Stored
  closed : shared.state = .closed → shared.Stored

structure Extends (shared next : Shared) : Prop where
  log : ∀ event ∈ shared.log, event ∈ next.log
  stored : shared.Stored → next.Stored
  state : shared.state.rank ≤ next.state.rank

def Stage.Asserts (shared : Shared) : Stage → Prop
  | .stored err => .stored err ∈ shared.log ∧ shared.Stored
  | .marked err => .stored err ∈ shared.log ∧ shared.Stored
  | .finished err => .stored err ∈ shared.log
  | _ => True

theorem Stage.Asserts.extend {shared next : Shared} (more : Extends shared next) {stage : Stage}
    (asserts : stage.Asserts shared) : stage.Asserts next := by
  cases stage with
  | outside => trivial
  | owning => trivial
  | spent => trivial
  | stored err => exact ⟨more.log _ asserts.1, more.stored asserts.2⟩
  | marked err => exact ⟨more.log _ asserts.1, more.stored asserts.2⟩
  | finished err => exact more.log _ asserts

section Sections

variable {services : List String} {shared : Shared}

theorem Extends.refl (shared : Shared) : Extends shared shared :=
  ⟨fun _ member => member, id, Nat.le_refl _⟩

theorem Extends.trans {first second third : Shared} (before : Extends first second)
    (later : Extends second third) : Extends first third :=
  ⟨fun event member => later.log event (before.log event member),
    fun stored => later.stored (before.stored stored),
    Nat.le_trans before.state later.state⟩

theorem Extends.of_append (shared next : Shared) {events : List Event}
    (log : next.log = shared.log ++ events)
    (err : next.shutdownErr = shared.shutdownErr) (state : shared.state.rank ≤ next.state.rank) :
    Extends shared next := by
  have kept : ∀ event ∈ shared.log, event ∈ next.log := by
    intro event member
    rw [log]
    exact List.mem_append_left _ member
  refine ⟨kept, ?_, state⟩
  intro stored
  rw [Shared.Stored, err]
  exact kept _ stored

theorem drainBody_fields (services : List String) (shared : Shared) (panics : List Bool) :
    let drained := shared.drainBody services panics
    drained.state = (if shared.state = .closed then .closed else .draining) ∧
      drained.runCancel = shared.runCancel ∧ drained.shutdownStarted = shared.shutdownStarted ∧
      drained.shutdownErr = shared.shutdownErr ∧ drained.drain = true ∧ drained.done = shared.done ∧
      drained.log = shared.log ++ .drainBegan :: (List.range services.length).map .beginDrain := by
  simp only [Shared.drainBody]
  split_ifs <;> exact ⟨rfl, rfl, rfl, rfl, rfl, rfl, rfl⟩

theorem rank_le_three (state : RuntimeState) : state.rank ≤ 3 := by
  cases state <;> decide

variable {next : Shared}

theorem effect_extends (sound : Sound shared) {before after : Stage}
    (effect : Effect services shared before next after) : Extends shared next := by
  cases effect with
  | quiet => exact .refl _
  | leave => exact .refl _
  | cancel => exact .of_append _ shared.cancel (List.append_nil _).symm rfl (Nat.le_refl _)
  | admitRun new =>
    refine .of_append _ shared.admitRun rfl rfl ?_
    rw [new]
    exact Nat.zero_le _
  | claim opened unrun _ =>
    refine .of_append _ shared.claim rfl rfl ?_
    show shared.state.rank ≤ 2
    cases isState : shared.state with
    | new => decide
    | running => exact absurd (sound.running isState) (by rw [unrun]; decide)
    | draining => decide
    | closed => exact absurd isState opened
  | drain _ panics _ =>
    obtain ⟨isState, _, _, err, _, _, log⟩ := drainBody_fields services shared panics
    refine .of_append _ _ log err ?_
    rw [isState]
    cases shared.state <;> decide
  | fanOut => exact .of_append _ shared.fanOut rfl rfl (Nat.le_refl _)
  | store err =>
    refine ⟨fun event member => List.mem_append_left _ member, fun _ => ?_, Nat.le_refl _⟩
    exact List.mem_append_right _ (List.mem_singleton_self _)
  | close => exact .of_append _ shared.close (List.append_nil _).symm rfl (rank_le_three _)
  | closeDone =>
    rw [Shared.closeDone]
    split_ifs
    · exact .refl _
    · exact .of_append _ _ rfl rfl (Nat.le_refl _)

theorem began_of_append {log : List Event} {event : Event} (other : event ≠ .drainBegan)
    (began : .drainBegan ∈ log ++ [event]) : .drainBegan ∈ log := by
  rcases List.mem_append.mp began with old | now
  · exact old
  · exact absurd (List.mem_singleton.mp now).symm other

theorem effect_sound (sound : Sound shared) {before after : Stage}
    (asserts : before.Asserts shared) (effect : Effect services shared before next after) :
    Sound next ∧ after.Asserts next := by
  have more := effect_extends sound effect
  cases effect with
  | quiet => exact ⟨sound, asserts⟩
  | leave => exact ⟨sound, trivial⟩
  | cancel =>
    exact ⟨⟨sound.started, sound.claimed, sound.running, sound.drained, sound.done, sound.closed⟩,
      asserts.extend more⟩
  | admitRun new =>
    refine ⟨⟨fun _ => by simp [Shared.admitRun], fun _ => by simp [Shared.admitRun],
      fun _ => rfl, ?_, ?_, ?_⟩, trivial⟩
    · intro began
      have late := sound.drained (began_of_append (by simp) began)
      rw [new] at late
      exact absurd late (by decide)
    · exact fun done => more.stored (sound.done done)
    · exact fun closed => absurd closed (by simp [Shared.admitRun])
  | claim opened unrun unclaimed =>
    refine ⟨⟨fun _ => by simp [Shared.claim], fun _ => by simp [Shared.claim],
      fun running => absurd running (by simp [Shared.claim]), fun _ => Nat.le_refl 2, ?_, ?_⟩,
      trivial⟩
    · exact fun done => more.stored (sound.done done)
    · exact fun closed => absurd closed (by simp [Shared.claim])
  | drain _ panics _ =>
    refine ⟨?_, asserts.extend more⟩
    obtain ⟨isState, started, claimed, _, _, done, _⟩ := drainBody_fields services shared panics
    have late : 2 ≤ (shared.drainBody services panics).state.rank := by
      rw [isState]
      split_ifs <;> decide
    refine ⟨?_, ?_, ?_, fun _ => late, ?_, ?_⟩
    · intro _ new
      rw [new] at late
      exact absurd late (by decide)
    · intro _ new
      rw [new] at late
      exact absurd late (by decide)
    · intro running
      rw [running] at late
      exact absurd late (by decide)
    · intro isDone
      exact more.stored (sound.done (done ▸ isDone))
    · intro closed
      rw [isState] at closed
      split_ifs at closed with was
      exact more.stored (sound.closed was)
  | fanOut =>
    exact ⟨⟨sound.started, sound.claimed, sound.running,
      fun began => sound.drained (began_of_append (by simp) began),
      fun done => more.stored (sound.done done), fun closed => more.stored (sound.closed closed)⟩,
      trivial⟩
  | store err =>
    have stored : (shared.store err).Stored := List.mem_append_right _ (List.mem_singleton_self _)
    exact ⟨⟨sound.started, sound.claimed, sound.running,
      fun began => sound.drained (began_of_append (by simp) began),
      fun _ => stored, fun _ => stored⟩,
      stored, stored⟩
  | close err =>
    refine ⟨⟨fun _ => by simp [Shared.close], fun _ => by simp [Shared.close],
      fun running => absurd running (by simp [Shared.close]),
      fun _ => Nat.le_succ 2, fun _ => asserts.2,
      fun _ => asserts.2⟩, asserts⟩
  | closeDone err =>
    refine ⟨?_, more.log _ asserts.1⟩
    have stored := more.stored asserts.2
    revert stored
    rw [Shared.closeDone]
    split_ifs
    · exact fun _ => sound
    · intro stored
      exact ⟨sound.started, sound.claimed, sound.running,
        fun began => sound.drained (began_of_append (by simp) began),
        fun _ => stored, fun _ => stored⟩

def Thread.Claims (shared : Shared) : Thread → Prop
  | .shutdown .reading => shared.Stored
  | .shutdown (.returned (.final err)) => .stored err ∈ shared.log
  | .health liveness (.returned err drainBegan) =>
    liveness = false → err = none → drainBegan = false
  | _ => True

theorem Thread.Claims.extend (more : Extends shared next) {thread : Thread}
    (claims : thread.Claims shared) : thread.Claims next := by
  unfold Claims at claims ⊢
  split
  · exact more.stored claims
  · exact more.log _ claims
  · exact claims
  · trivial

variable {answer : Answer}

theorem shutdown_claims (sound : Sound shared) {pc moved : ShutdownPc}
    (asserts : pc.stage.Asserts shared) (claims : (Thread.shutdown pc).Claims shared)
    (advanced : shutdownAdvance services shared pc answer = some (next, moved)) :
    (Thread.shutdown moved).Claims next := by
  unfold shutdownAdvance at advanced
  split at advanced
  · cases advanced
    trivial
  · split_ifs at advanced with closed
    · cases advanced
      exact sound.closed closed
    · cases advanced
      trivial
    · cases advanced
      trivial
    · cases advanced
      trivial
  · split_ifs at advanced with done
    cases advanced
    exact sound.done done
  · cases advanced
    trivial
  · cases advanced
    trivial
  · cases advanced
    trivial
  · cases advanced
    trivial
  · split_ifs at advanced with done
    cases advanced
    exact sound.done done
  · cases advanced
    trivial
  · cases advanced
    exact claims
  · cases advanced
    exact asserts
  · obtain ⟨finished, _, same⟩ := Option.map_eq_some_iff.mp advanced
    obtain ⟨rfl, rfl⟩ := Prod.mk.inj same
    trivial
  · cases advanced

theorem unready (err : Option GoError) {state : RuntimeState} (late : 2 ≤ state.rank) :
    joinErrors [err, healthStateError false state] ≠ none := by
  have notRunning : healthStateError false state = some (.sentinel .runtimeNotRunning) := by
    cases state with
    | new => exact absurd late (by decide)
    | running => exact absurd late (by decide)
    | draining => rfl
    | closed => rfl
  have member : some (.sentinel .runtimeNotRunning) ∈ [err, healthStateError false state] := by
    rw [notRunning]
    exact List.mem_cons_of_mem _ (List.mem_singleton_self _)
  exact Option.isSome_iff_ne_none.mp (joinErrors_isSome member)

theorem health_claims (sound : Sound shared) {liveness : Bool} {pc moved : HealthPc}
    (advanced : healthAdvance liveness shared pc answer = some moved) :
    (Thread.health liveness moved).Claims shared := by
  unfold healthAdvance at advanced
  split at advanced
  · obtain rfl := Option.some.inj advanced
    exact fun _ silent => absurd silent (by simp)
  · split at advanced
    · obtain rfl := Option.some.inj advanced
      exact fun _ silent => absurd silent (by simp)
    · obtain rfl := Option.some.inj advanced
      trivial
  · obtain rfl := Option.some.inj advanced
    trivial
  next err =>
    obtain rfl := Option.some.inj advanced
    rintro rfl silent
    rw [decide_eq_false_iff_not]
    intro drained
    exact unready err (sound.drained drained) silent
  · cases advanced

def Thread.Asserts (shared : Shared) (thread : Thread) : Prop :=
  thread.stage.Asserts shared ∧ thread.Claims shared

theorem advance_claims (sound : Sound shared) {thread moved : Thread}
    (asserts : thread.Asserts shared)
    (advanced : advance services shared thread answer = some (next, moved)) :
    moved.Claims next := by
  unfold advance at advanced
  split at advanced
  · obtain ⟨_, _, same⟩ := Option.map_eq_some_iff.mp advanced
    obtain ⟨_, rfl⟩ := Prod.mk.inj same
    trivial
  · obtain ⟨_, rfl⟩ := Prod.mk.inj (Option.some.inj advanced)
    trivial
  · cases advanced
  · obtain ⟨_, ran, same⟩ := Option.map_eq_some_iff.mp advanced
    obtain ⟨rfl, rfl⟩ := Prod.mk.inj same
    exact shutdown_claims sound asserts.1 asserts.2 ran
  · obtain ⟨_, ran, same⟩ := Option.map_eq_some_iff.mp advanced
    obtain ⟨rfl, rfl⟩ := Prod.mk.inj same
    exact health_claims sound ran

theorem contextEnds_fields (shared : Shared) (err : GoError) :
    let ended := contextEnds shared err
    ended.state = shared.state ∧ ended.runCancel = shared.runCancel ∧
      ended.shutdownStarted = shared.shutdownStarted ∧ ended.shutdownErr = shared.shutdownErr ∧
      ended.drain = shared.drain ∧ ended.done = shared.done ∧ ended.log = shared.log := by
  simp only [contextEnds]
  split_ifs <;> exact ⟨rfl, rfl, rfl, rfl, rfl, rfl, rfl⟩

theorem contextEnds_extends (err : GoError) : Extends shared (contextEnds shared err) := by
  obtain ⟨state, _, _, stored, _, _, log⟩ := contextEnds_fields shared err
  exact .of_append _ _ (log.trans (List.append_nil _).symm) stored
    (Nat.le_of_eq (congrArg _ state.symm))

theorem contextEnds_sound (err : GoError) (sound : Sound shared) :
    Sound (contextEnds shared err) := by
  rw [contextEnds]
  split_ifs
  · exact ⟨sound.started, sound.claimed, sound.running, sound.drained, sound.done, sound.closed⟩
  · exact sound

end Sections

theorem outline (services : List String) :
    (machine services).Outline Sound (fun shared => Thread.Asserts shared) where
  call kind _ := by
    cases kind <;> exact ⟨trivial, trivial⟩
  advance sound asserts advanced := by
    have effect := advance_effect advanced
    have more := effect_extends sound effect
    obtain ⟨kept, own⟩ := effect_sound sound asserts.1 effect
    exact ⟨kept, ⟨own, advance_claims sound asserts advanced⟩,
      fun other held => ⟨held.1.extend more, held.2.extend more⟩⟩
  happen err sound :=
    ⟨contextEnds_sound err sound,
      fun other held => ⟨held.1.extend (contextEnds_extends err),
        held.2.extend (contextEnds_extends err)⟩⟩

theorem fresh_holds :
    ThreadPool.Machine.Holds Sound (fun shared => Thread.Asserts shared) ⟨.fresh, []⟩ where
  shared := ⟨by decide, by decide, by decide, fun began => absurd began List.not_mem_nil,
    fun done => absurd done (by decide), fun closed => absurd closed (by decide)⟩
  threads := nofun

theorem after_holds (services : List String) (moves : List (ThreadPool.Move Call Answer GoError)) :
    ThreadPool.Machine.Holds Sound (fun shared => Thread.Asserts shared) (after services moves) :=
  (outline services).run fresh_holds moves

section Once

variable {services : List String}

/-- What each step pays for with a credit that the runtime or the owner holds
happens once. -/
theorem happens_once (counted : Event → Bool) (credit : Shared → Nat) (held : Stage → Nat)
    (outside : held .outside = 0)
    (pays : ∀ {shared next : Shared} {before after : Stage},
      Sound shared → Effect services shared before next after →
      next.log.countP counted + credit next + held after ≤ shared.log.countP counted +
        credit shared + held before)
    (waits : ∀ shared err, credit (contextEnds shared err) = credit shared)
    (one : credit .fresh = 1)
    (moves : List (ThreadPool.Move Call Answer GoError)) :
    (after services moves).shared.log.countP counted ≤ 1 := by
  have bounded :=
    ThreadPool.Machine.total_le (fun shared => shared.log.countP counted + credit shared)
    (fun thread => held thread.stage) ?_ ?_ ?_
    (after_holds services) moves
  · have spent : (after services moves).shared.log.countP counted ≤
        ThreadPool.total (fun shared => shared.log.countP counted + credit shared)
          (fun thread : Thread => held thread.stage) (after services moves) := by
      simp only [ThreadPool.total]
      omega
    refine Nat.le_trans (Nat.le_trans spent bounded) ?_
    simp only [ThreadPool.total, one, List.map_nil, List.sum_nil]
    exact Nat.le_refl 1
  · intro kind
    cases kind <;> exact outside
  · intro shared thread answer next moved sound _ advanced
    exact pays sound (advance_effect advanced)
  · intro shared err
    have kept := (contextEnds_fields shared err).2.2.2.2.2.2
    show (contextEnds shared err).log.countP counted + credit (contextEnds shared err) ≤ _
    rw [kept, waits]

theorem drainBody_count (services : List String) (shared : Shared) (panics : List Bool)
    (counted : Event → Bool) :
    (shared.drainBody services panics).log.countP counted =
      shared.log.countP counted + ([Event.drainBegan].countP counted +
        ((List.range services.length).map Event.beginDrain).countP counted) := by
  obtain ⟨_, _, _, _, _, _, log⟩ := drainBody_fields services shared panics
  rw [log, List.countP_append, ← List.singleton_append, List.countP_append]

variable {counted : Event → Bool}

theorem beginDrain_uncounted (count : Nat) (never : ∀ service,
    counted (.beginDrain service) = false) :
    ((List.range count).map Event.beginDrain).countP counted = 0 := by
  rw [List.countP_eq_zero]
  intro event member
  obtain ⟨service, _, rfl⟩ := List.mem_map.mp member
  rw [never]
  decide

theorem closeDone_count (shared : Shared) (never : counted .doneClosed = false) :
    shared.closeDone.log.countP counted = shared.log.countP counted := by
  rw [Shared.closeDone]
  split_ifs
  · rfl
  · simp only [List.countP_append, List.countP_cons, never, List.countP_nil,
      Bool.false_eq_true, if_false]
    rfl

theorem closeDone_fields (shared : Shared) :
    shared.closeDone.state = shared.state ∧ shared.closeDone.runCancel = shared.runCancel ∧
      shared.closeDone.shutdownStarted = shared.shutdownStarted ∧
        shared.closeDone.drain = shared.drain := by
  rw [Shared.closeDone]
  split_ifs <;> exact ⟨rfl, rfl, rfl, rfl⟩

variable (moves : List (ThreadPool.Move Call Answer GoError))

theorem runBody_once : (after services moves).shared.log.countP
    (fun event => decide (event = .runBody)) ≤ 1 := by
  refine happens_once _ (fun shared => 1 - shared.state.rank) (fun _ => 0) rfl ?_ ?_ rfl moves
  · intro shared next before later sound effect
    have later := (effect_extends sound effect).state
    cases effect with
    | quiet => exact Nat.le_refl _
    | leave => exact Nat.le_refl _
    | admitRun new => simp [Shared.admitRun, new, RuntimeState.rank]
    | drain _ panics _ =>
      rw [drainBody_count, beginDrain_uncounted _ (fun _ => rfl)]
      simp only [List.countP_singleton, decide_eq_true_eq, reduceCtorEq, if_false]
      omega
    | closeDone =>
      rw [closeDone_count _ rfl]
      omega
    | _ =>
      simp only [Shared.cancel, Shared.claim, Shared.fanOut, Shared.store,
        Shared.close, List.countP_append,
        List.countP_singleton, decide_eq_true_eq, reduceCtorEq, if_false] at later ⊢
      omega
  · intro shared err
    simp only [(contextEnds_fields shared err).1]

theorem beginDrain_counted (service count : Nat) :
    ((List.range count).map Event.beginDrain).countP (fun event =>
      decide (event = .beginDrain service)) ≤ 1 := by
  have distinct : ((List.range count).map Event.beginDrain).Nodup :=
    List.nodup_range.map (fun _ _ same => Event.beginDrain.inj same)
  exact List.nodup_iff_count_le_one.mp distinct (.beginDrain service)

theorem beginDrain_once (service : Nat) (moves : List (ThreadPool.Move Call Answer GoError)) :
    (after services moves).shared.log.countP (fun event => decide (event = .beginDrain service)) ≤
      1 := by
  refine happens_once _ (fun shared => (!shared.drain).toNat) (fun _ => 0) rfl ?_ ?_ rfl moves
  · intro shared next before later sound effect
    cases effect with
    | drain _ panics fresh =>
      have own := beginDrain_counted service services.length
      rw [drainBody_count, (drainBody_fields services shared panics).2.2.2.2.1, fresh]
      simpa using own
    | closeDone => rw [closeDone_count _ rfl, (closeDone_fields shared).2.2.2]
    | _ =>
      simp [Shared.cancel, Shared.admitRun, Shared.claim, Shared.fanOut, Shared.store, Shared.close]
  · intro shared err
    simp only [(contextEnds_fields shared err).2.2.2.2.1]

def Shared.unowned (shared : Shared) : Bool := !shared.runCancel && !shared.shutdownStarted

theorem unowned_of_new {shared : Shared} (sound : Sound shared) (new : shared.state = .new) :
    shared.unowned = true := by
  have unrun : shared.runCancel = false := by
    by_contra started
    exact sound.started (Bool.eq_true_of_not_eq_false started) new
  have unclaimed : shared.shutdownStarted = false := by
    by_contra claimed
    exact sound.claimed (Bool.eq_true_of_not_eq_false claimed) new
  simp [Shared.unowned, unrun, unclaimed]

theorem unowned_eq {shared next : Shared} (started : next.runCancel = shared.runCancel)
    (claimed : next.shutdownStarted = shared.shutdownStarted) : next.unowned = shared.unowned := by
  rw [Shared.unowned, started, claimed, Shared.unowned]

theorem owner_once (counted : Event → Bool) (held : Stage → Nat) (outside : held .outside = 0)
    (owning : held .owning = 1) (finished : ∀ err, held (.finished err) = 0)
    (others : counted .runBody = false ∧ counted .drainBegan = false ∧ counted .doneClosed = false ∧
      ∀ service, counted (.beginDrain service) = false)
    (fanOut : [Event.shutdownServices].countP counted + held .spent ≤ 1)
    (store : ∀ err, [Event.stored err].countP counted + held (.stored err) ≤ held .spent)
    (close : ∀ err, held (.marked err) ≤ held (.stored err))
    (moves : List (ThreadPool.Move Call Answer GoError)) :
    (after services moves).shared.log.countP counted ≤ 1 := by
  obtain ⟨neverRun, neverBegan, neverDone, neverDrain⟩ := others
  refine happens_once counted (fun shared => shared.unowned.toNat) held outside ?_ ?_ rfl moves
  · intro shared next before later sound effect
    cases effect with
    | quiet => exact Nat.le_refl _
    | cancel => exact Nat.le_refl _
    | leave err => rw [finished, outside]
    | admitRun new =>
      rw [unowned_of_new sound new, outside, owning]
      simp [Shared.admitRun, Shared.unowned, neverRun]
    | claim _ unrun unclaimed =>
      rw [outside, owning]
      simp [Shared.claim, Shared.unowned, unrun, unclaimed, neverBegan]
    | drain _ panics _ =>
      obtain ⟨_, started, claimed, _⟩ := drainBody_fields services shared panics
      rw [drainBody_count, beginDrain_uncounted _ neverDrain, unowned_eq started claimed]
      simp [neverBegan]
    | fanOut =>
      have same : shared.fanOut.unowned = shared.unowned := rfl
      rw [same, owning, Shared.fanOut, List.countP_append]
      omega
    | store err =>
      have same : (shared.store err).unowned = shared.unowned := rfl
      have paid := store err
      rw [same, Shared.store, List.countP_append]
      omega
    | close err =>
      have paid := close err
      show shared.log.countP counted + shared.unowned.toNat + _ ≤ _
      omega
    | closeDone err =>
      obtain ⟨_, started, claimed, _⟩ := closeDone_fields shared
      rw [closeDone_count _ neverDone, unowned_eq started claimed, finished]
      omega
  · intro shared err
    obtain ⟨_, started, claimed, _⟩ := contextEnds_fields shared err
    exact congrArg Bool.toNat (unowned_eq started claimed)

def Stage.beforeFanOut : Stage → Nat
  | .owning => 1
  | _ => 0

theorem shutdownServices_once :
    (after services moves).shared.log.countP (fun event => decide (event = .shutdownServices)) ≤
      1 :=
  owner_once (fun event => decide (event = .shutdownServices)) Stage.beforeFanOut rfl rfl
    (fun _ => rfl) ⟨rfl, rfl, rfl, fun _ => rfl⟩ (Nat.le_refl 1)
    (fun _ => Nat.le_refl 0) (fun _ => Nat.le_refl 0) moves

def Stage.beforeStore : Stage → Nat
  | .owning => 1
  | .spent => 1
  | _ => 0

def Event.isStored : Event → Bool
  | .stored _ => true
  | _ => false

theorem stored_once : (after services moves).shared.log.countP Event.isStored ≤ 1 :=
  owner_once Event.isStored Stage.beforeStore rfl rfl (fun _ => rfl)
    ⟨rfl, rfl, rfl, fun _ => rfl⟩ (Nat.le_refl 1) (fun _ => Nat.le_refl 1)
    (fun _ => Nat.le_refl 0) moves

theorem doneClosed_once : (after services moves).shared.log.countP
    (fun event => decide (event = .doneClosed)) ≤ 1 := by
  refine happens_once _ (fun shared => (!shared.done).toNat) (fun _ => 0) rfl ?_ ?_ rfl moves
  · intro shared next before later sound effect
    cases effect with
    | drain _ panics _ =>
      rw [drainBody_count, beginDrain_uncounted _ (fun _ => rfl),
        (drainBody_fields services shared panics).2.2.2.2.2.1]
      simp
    | closeDone =>
      rw [Shared.closeDone]
      split_ifs with done
      · exact Nat.le_refl _
      · simp [done]
    | _ =>
      simp [Shared.cancel, Shared.admitRun, Shared.claim, Shared.fanOut, Shared.store, Shared.close]
  · intro shared err
    simp only [(contextEnds_fields shared err).2.2.2.2.2.1]

end Once

theorem stored_unique {log : List Event} (once : log.countP Event.isStored ≤ 1)
    {first second : Option GoError}
    (isFirst : .stored first ∈ log) (isSecond : .stored second ∈ log) : first = second := by
  rw [List.countP_eq_length_filter] at once
  have left := List.mem_filter.mpr ⟨isFirst, (rfl : Event.isStored (.stored first) = true)⟩
  have right := List.mem_filter.mpr ⟨isSecond, (rfl : Event.isStored (.stored second) = true)⟩
  match kept : log.filter Event.isStored with
  | [] =>
    rw [kept] at left
    exact absurd left List.not_mem_nil
  | [only] =>
    rw [kept, List.mem_singleton] at left right
    exact Event.stored.inj (left.trans right.symm)
  | _ :: _ :: _ =>
    rw [kept] at once
    exact absurd once (by simp)

/-- Whatever calls there are and however they interleave, the runtime only moves
forward, what must happen once happens once, a Shutdown that does not give up
returns the stored result, and a check that succeeds saw no drain. -/
theorem lifecycle (services : List String) (moves : List (ThreadPool.Move Call Answer GoError)) :
    let pool := after services moves
    (∀ more, pool.shared.state.rank ≤ (after services (moves ++ more)).shared.state.rank) ∧
    pool.shared.log.count .runBody ≤ 1 ∧
    (∀ service, pool.shared.log.count (.beginDrain service) ≤ 1) ∧
    pool.shared.log.count .shutdownServices ≤ 1 ∧
    pool.shared.log.count .doneClosed ≤ 1 ∧
    (∀ err, .shutdown (.returned (.final err)) ∈ pool.threads →
      .stored err ∈ pool.shared.log ∧ ∀ other, .stored other ∈ pool.shared.log → other = err) ∧
    (∀ drainBegan, .health false (.returned none drainBegan) ∈ pool.threads →
        drainBegan = false) := by
  intro pool
  have holds := after_holds services moves
  refine ⟨?_, runBody_once moves, fun service => beginDrain_once service moves,
    shutdownServices_once moves, doneClosed_once moves, ?_, ?_⟩
  · intro more
    have forward := ThreadPool.Machine.related Extends.refl Extends.trans
      (fun sound _ advanced => effect_extends sound (advance_effect advanced))
      (fun _ err _ => contextEnds_extends err) ((outline services).run holds) more
    rw [after, ThreadPool.Machine.run_append]
    exact forward.state
  · intro err returned
    have isStored := (holds.threads _ returned).2
    exact ⟨isStored, fun other isOther => stored_unique (stored_once moves) isOther isStored⟩
  · intro drainBegan returned
    exact (holds.threads _ returned).2 rfl rfl

def sampleMoves : List (ThreadPool.Move Call Answer GoError) :=
  [.call (.health false true), .call (.run true), .call .beginDrain, .call (.shutdown true),
    .act 1 .go, .act 0 .go, .act 0 (.checked none), .act 0 .go, .act 2 (.panics []),
    .act 3 .go, .act 3 (.panics []), .act 3 .go, .act 1 .drained,
    .act 1 (.panics []), .act 1 .go, .act 1 .go,
    .act 1 (.serviceReturns 0 none), .act 1 (.serviceFinishes 0),
    .act 1 .workersDone, .act 1 .go, .act 1 .go,
    .act 1 .go, .act 1 (.shutdowns [.returned none] none), .act 1 .go, .act 1 .go, .act 1 .go,
    .act 3 .doneClosed, .act 3 .go]

theorem lifecycle_sample :
    let pool := after ["mail"] sampleMoves
    pool.threads[3]? = some (.shutdown (.returned (.final none))) ∧
    pool.threads[0]? = some (.health false (.returned none false)) ∧
    .stored none ∈ pool.shared.log ∧ pool.shared.log.count .shutdownServices ≤ 1 := by
  intro pool
  have returned : pool.threads[3]? = some (.shutdown (.returned (.final none))) := rfl
  obtain ⟨_, _, _, once, _, final, _⟩ := lifecycle ["mail"] sampleMoves
  exact ⟨returned, rfl, (final none (List.mem_of_getElem? returned)).1, once⟩

end Gomessenger.Runtime
