import Gomessenger.Failure
import Gomessenger.Lib.ThreadPool

/-! The Kafka transport's lifecycle and the gate in front of its producer.

Transactions, Run, BeginDrain and Shutdown are threads over the transport's
fields. The gate is a channel that holds one token. Wait channels are numbered
in the order they are made. -/

namespace Gomessenger.Kafka.Transport

inductive TransportState
  | new
  | starting
  | running
  | draining
  | closed
  deriving DecidableEq, Repr

structure Admission where
  state : TransportState
  drainBegan : Bool

structure Closing where
  active : Bool
  expired : Bool

structure Shared where
  state : TransportState
  runStarted : Bool
  gate : Bool
  txActive : Bool
  txDone : Option Nat
  channels : Nat
  closedChannels : List Nat
  drain : Bool
  done : Bool
  clientClosed : Bool
  drainBegan : Bool
  admissions : List Admission
  closings : List Closing

def Shared.fresh : Shared := ⟨.new, false, false, false, none, 0, [], false,
    false, false, false, [], []⟩

inductive Answer
  | go
  | contextDone (err : GoError)
  | gateFree
  | drained
  | doneClosed
  | released
  | checked (err : Option GoError)

namespace Shared

def admitted (shared : Shared) : Shared :=
  { shared with
    txActive := true
    txDone := some shared.channels
    channels := shared.channels + 1
    admissions := shared.admissions ++ [⟨shared.state, shared.drainBegan⟩] }

def release (shared : Shared) : Shared :=
  { shared with
    txActive := false
    closedChannels := shared.txDone.toList ++ shared.closedChannels
    txDone := none }

def beginDrain (shared : Shared) : Shared :=
  match shared.state with
  | .new => { shared with state := .draining, drainBegan := true }
  | .starting => { shared with state := .draining, drainBegan := true }
  | .running => { shared with state := .draining, drainBegan := true }
  | .draining => { shared with drainBegan := true }
  | .closed => { shared with drainBegan := true }

def closeClient (expired : Bool) (shared : Shared) : Shared :=
  if shared.clientClosed then shared
  else { shared with clientClosed := true, closings := shared.closings ++
    [⟨shared.txActive, expired⟩] }

end Shared

/-! ### Transactions -/

/-- A caller of `acquireTransaction` that calls `releaseTransaction` when it was
let in. -/
inductive TxPc
  | entering (hasCtx : Bool)
  | waiting
  | gated
  | admitting
  | ungating (err : GoError)
  | refused (err : GoError)
  | active
  | releasing
  | released

def txAdvance (shared : Shared) : TxPc → Answer → Option (Shared × TxPc)
  | .entering false, .go =>
    some (shared, .refused (.wrap "nil transaction admission context" (.sentinel .invalidConfig)))
  | .entering true, .go => some (shared, .waiting)
  | .waiting, .gateFree => if shared.gate then none else some ({ shared with gate := true }, .gated)
  | .waiting, .contextDone err => some (shared, .refused err)
  | .gated, .contextDone err => some (shared, .ungating err)
  | .gated, .go => some (shared, .admitting)
  | .admitting, .go =>
    match shared.state with
    | .running => some (shared.admitted, .active)
    | .closed => some (shared, .ungating (.sentinel .transportClosed))
    | .new => some (shared, .ungating (.sentinel .runtimeNotRunning))
    | .starting => some (shared, .ungating (.sentinel .runtimeNotRunning))
    | .draining => some (shared, .ungating (.sentinel .runtimeNotRunning))
  | .ungating err, .go => some ({ shared with gate := false }, .refused err)
  | .active, .go => some (shared.release, .releasing)
  | .releasing, .go => some ({ shared with gate := false }, .released)
  | _, _ => none

/-! ### Run -/

inductive RunPc
  | entering (hasCtx : Bool)
  | starting
  | started
  | selecting
  | marking (err : Option GoError)
  | closingDone (err : Option GoError)
  | returned (err : Option GoError)

def runAdvance (shared : Shared) : RunPc → Answer → Option (Shared × RunPc)
  | .entering false, .go =>
    some (shared, .returned (some (.wrap "nil transport context" (.sentinel .invalidConfig))))
  | .entering true, .go =>
    match shared.state with
    | .starting => some (shared, .returned (some (.sentinel .runtimeRunning)))
    | .running => some (shared, .returned (some (.sentinel .runtimeRunning)))
    | .draining =>
      if shared.runStarted then some (shared, .returned (some (.sentinel .runtimeRunning)))
      else some ({ shared with runStarted := true, state := .closed }, .closingDone none)
    | .closed => some (shared, .returned (some (.sentinel .transportClosed)))
    | .new => some ({ shared with runStarted := true, state := .starting }, .starting)
  | .starting, .checked (some err) =>
    some (shared, .marking (some (.wrap "messenger/kafka: transport startup" err)))
  | .starting, .checked none => some (shared, .started)
  | .started, .go =>
    if shared.state = .starting then some ({ shared with state := .running }, .selecting)
    else some (shared, .selecting)
  | .selecting, .contextDone err => some (shared, .marking (some err))
  | .selecting, .drained => if shared.drain then some (shared, .marking none) else none
  | .marking err, .go => some ({ shared with state := .closed }, .closingDone err)
  | .closingDone err, .go => some ({ shared with done := true }, .returned err)
  | _, _ => none

/-! ### BeginDrain and Shutdown -/

inductive DrainPc
  | entering
  | closing
  | returned

def drainAdvance (shared : Shared) : DrainPc → Answer → Option (Shared × DrainPc)
  | .entering, .go => some (shared.beginDrain, .closing)
  | .closing, .go => some ({ shared with drain := true }, .returned)
  | _, _ => none

inductive ShutdownPc
  | entering
  | draining (started : Bool)
  | closingDrain (started : Bool)
  | waitingDone
  | closingDone
  | checking
  | waitingTx (channel : Nat)
  | expired (err : GoError)
  | closing
  | returned (err : Option GoError)

def shutdownAdvance (shared : Shared) : ShutdownPc → Answer → Option (Shared × ShutdownPc)
  | .entering, .go =>
    if shared.runStarted then some (shared, .draining true)
    else some ({ shared with state := .closed }, .draining false)
  | .draining started, .go => some (shared.beginDrain, .closingDrain started)
  | .closingDrain true, .go => some ({ shared with drain := true }, .waitingDone)
  | .closingDrain false, .go => some ({ shared with drain := true }, .closingDone)
  | .waitingDone, .doneClosed => if shared.done then some (shared, .checking) else none
  | .waitingDone, .contextDone err => some (shared, .expired err)
  | .closingDone, .go => some ({ shared with done := true }, .checking)
  | .checking, .go =>
    if shared.txActive then shared.txDone.map (fun channel => (shared, .waitingTx channel))
    else some (shared, .closing)
  | .waitingTx channel, .released =>
    if channel ∈ shared.closedChannels then some (shared, .closing) else none
  | .waitingTx _, .contextDone err => some (shared, .expired err)
  | .expired err, .go => some (shared.closeClient true, .returned (some err))
  | .closing, .go => some (shared.closeClient false, .returned none)
  | _, _ => none

/-! ### The calls together -/

inductive Call
  | transaction (hasCtx : Bool)
  | run (hasCtx : Bool)
  | beginDrain
  | shutdown

inductive Thread
  | transaction (pc : TxPc)
  | run (pc : RunPc)
  | beginDrain (pc : DrainPc)
  | shutdown (pc : ShutdownPc)

def startCall : Call → Thread
  | .transaction hasCtx => .transaction (.entering hasCtx)
  | .run hasCtx => .run (.entering hasCtx)
  | .beginDrain => .beginDrain .entering
  | .shutdown => .shutdown .entering

def advance (shared : Shared) : Thread → Answer → Option (Shared × Thread)
  | .transaction pc, answer =>
    (txAdvance shared pc answer).map (fun next => (next.1, .transaction next.2))
  | .run pc, answer => (runAdvance shared pc answer).map (fun next => (next.1, .run next.2))
  | .beginDrain pc, answer =>
    (drainAdvance shared pc answer).map (fun next => (next.1, .beginDrain next.2))
  | .shutdown pc, answer =>
    (shutdownAdvance shared pc answer).map (fun next => (next.1, .shutdown next.2))

def machine : ThreadPool.Machine Shared Thread Call Answer Empty :=
    ⟨startCall, advance, fun shared _ => shared⟩

def after (moves : List (ThreadPool.Move Call Answer Empty)) : ThreadPool.Pool Shared Thread :=
  machine.run ⟨.fresh, []⟩ moves

/-! ### What every interleaving keeps -/

/-- Nothing is let in any more. -/
def Shared.Past (shared : Shared) : Prop := shared.state = .draining ∨ shared.state = .closed

structure Sound (shared : Shared) : Prop where
  wait : shared.txActive = shared.txDone.isSome
  gated : shared.txActive = true → shared.gate = true
  current : ∀ channel, shared.txDone = some channel → channel < shared.channels ∧
    channel ∉ shared.closedChannels
  spent : ∀ channel ∈ shared.closedChannels, channel < shared.channels
  began : shared.drainBegan = true → shared.Past
  admissions : ∀ admission ∈ shared.admissions, admission.state = .running ∧
    admission.drainBegan = false
  closings : ∀ closing ∈ shared.closings, closing.active = true → closing.expired = true

def Thread.holds : Thread → Nat
  | .transaction .gated => 1
  | .transaction .admitting => 1
  | .transaction (.ungating _) => 1
  | .transaction .active => 1
  | .transaction .releasing => 1
  | _ => 0

def TxPc.Asserts (shared : Shared) : TxPc → Prop
  | .gated => shared.gate = true ∧ shared.txActive = false
  | .admitting => shared.gate = true ∧ shared.txActive = false
  | .ungating _ => shared.gate = true ∧ shared.txActive = false
  | .releasing => shared.gate = true ∧ shared.txActive = false
  | .active => shared.gate = true ∧ shared.txActive = true
  | _ => True

def ShutdownPc.Asserts (shared : Shared) : ShutdownPc → Prop
  | .closingDrain _ => shared.Past
  | .waitingDone => shared.Past
  | .closingDone => shared.Past
  | .checking => shared.Past
  | .waitingTx channel => shared.Past ∧ (shared.txActive = true → shared.txDone = some channel)
  | .closing => shared.Past ∧ shared.txActive = false
  | _ => True

def Thread.Asserts (shared : Shared) : Thread → Prop
  | .transaction pc => pc.Asserts shared
  | .shutdown pc => pc.Asserts shared
  | _ => True

structure Outer (shared next : Shared) : Prop where
  gate : next.gate = shared.gate
  txActive : next.txActive = shared.txActive
  txDone : next.txDone = shared.txDone
  channels : next.channels = shared.channels
  closedChannels : next.closedChannels = shared.closedChannels
  admissions : next.admissions = shared.admissions
  past : shared.Past → next.Past
  began : next.drainBegan = true → next.Past

/-- What a step of one thread leaves to a Shutdown in another. -/
structure Settles (shared next : Shared) : Prop where
  past : shared.Past → next.Past
  active : shared.Past → next.txActive = true → shared.txActive = true ∧ next.txDone = shared.txDone

section Steps

variable {shared next : Shared}

theorem Outer.settles (outer : Outer shared next) : Settles shared next :=
  ⟨outer.past, fun _ active => ⟨outer.txActive ▸ active, outer.txDone⟩⟩

theorem Outer.sound (outer : Outer shared next) (sound : Sound shared)
    (closings : ∀ closing ∈ next.closings, closing.active = true → closing.expired = true) :
    Sound next := by
  obtain ⟨gate, txActive, txDone, channels, closedChannels, admissions, _, began⟩ := outer
  refine ⟨?_, ?_, ?_, ?_, began, ?_, closings⟩
  · rw [txActive, txDone]
    exact sound.wait
  · rw [txActive, gate]
    exact sound.gated
  · rw [txDone, channels, closedChannels]
    exact sound.current
  · rw [closedChannels, channels]
    exact sound.spent
  · rw [admissions]
    exact sound.admissions

variable {pc : TxPc}

theorem Outer.transaction (outer : Outer shared next) (asserts : pc.Asserts shared) :
    pc.Asserts next := by
  unfold TxPc.Asserts at asserts ⊢
  rw [outer.gate, outer.txActive]
  exact asserts

theorem Settles.shutdown (settles : Settles shared next) {pc : ShutdownPc}
    (asserts : pc.Asserts shared) :
    pc.Asserts next := by
  cases pc with
  | closingDrain => exact settles.past asserts
  | waitingDone => exact settles.past asserts
  | closingDone => exact settles.past asserts
  | checking => exact settles.past asserts
  | waitingTx channel =>
    refine ⟨settles.past asserts.1, ?_⟩
    intro active
    obtain ⟨was, same⟩ := settles.active asserts.1 active
    rw [same]
    exact asserts.2 was
  | closing =>
    refine ⟨settles.past asserts.1, ?_⟩
    by_contra active
    have was := (settles.active asserts.1 (Bool.eq_true_of_not_eq_false active)).1
    rw [asserts.2] at was
    exact absurd was Bool.false_ne_true
  | _ => trivial

theorem Outer.others (outer : Outer shared next) {thread : Thread}
    (asserts : thread.Asserts shared) :
    thread.Asserts next := by
  cases thread with
  | transaction pc => exact outer.transaction asserts
  | shutdown pc => exact outer.settles.shutdown asserts
  | _ => trivial

theorem Outer.refl (sound : Sound shared) : Outer shared shared :=
  ⟨rfl, rfl, rfl, rfl, rfl, rfl, id, sound.began⟩

theorem beginDrain_outer : Outer shared shared.beginDrain ∧ shared.beginDrain.Past := by
  have late : shared.beginDrain.Past := by
    unfold Shared.beginDrain
    cases shared.state with
    | closed => exact .inr rfl
    | _ => exact .inl rfl
  refine ⟨?_, late⟩
  have kept : shared.beginDrain.gate = shared.gate ∧ shared.beginDrain.txActive = shared.txActive ∧
      shared.beginDrain.txDone = shared.txDone ∧ shared.beginDrain.channels = shared.channels ∧
      shared.beginDrain.closedChannels = shared.closedChannels ∧
      shared.beginDrain.admissions = shared.admissions := by
    unfold Shared.beginDrain
    split <;> exact ⟨rfl, rfl, rfl, rfl, rfl, rfl⟩
  obtain ⟨gate, txActive, txDone, channels, closedChannels, admissions⟩ := kept
  exact ⟨gate, txActive, txDone, channels, closedChannels, admissions, fun _ => late, fun _ => late⟩

theorem beginDrain_closings : shared.beginDrain.closings = shared.closings := by
  unfold Shared.beginDrain
  split <;> rfl

theorem closeClient_outer (sound : Sound shared) (expired : Bool) :
    Outer shared (shared.closeClient expired) := by
  rw [Shared.closeClient]
  split_ifs
  · exact .refl sound
  · exact ⟨rfl, rfl, rfl, rfl, rfl, rfl, id, sound.began⟩

theorem closeClient_closings (sound : Sound shared) {expired : Bool}
    (due : shared.txActive = true → expired = true) :
    ∀ closing ∈ (shared.closeClient expired).closings, closing.active = true →
      closing.expired = true := by
  rw [Shared.closeClient]
  split_ifs
  · exact sound.closings
  · intro closing member active
    rcases List.mem_append.mp member with old | new
    · exact sound.closings closing old active
    · rw [List.mem_singleton] at new
      subst new
      exact due active

variable {state : TransportState}

theorem Outer.of_state (sound : Sound shared) {runStarted : Bool}
    (onward : shared.Past → state = .draining ∨ state = .closed) :
    Outer shared { shared with state, runStarted } :=
  ⟨rfl, rfl, rfl, rfl, rfl, rfl, onward, fun began => onward (sound.began began)⟩

theorem not_past (isState : shared.state = state) (notDraining : state ≠ .draining)
    (notClosed : state ≠ .closed) : ¬ shared.Past := by
  rintro (draining | closed)
  · exact notDraining (isState.symm.trans draining)
  · exact notClosed (isState.symm.trans closed)

variable {answer : Answer}

theorem run_outer (sound : Sound shared) {pc moved : RunPc}
    (advanced : runAdvance shared pc answer = some (next, moved)) :
    Outer shared next ∧ next.closings = shared.closings := by
  have branch {taken : Shared} {target : RunPc} (same : some (taken, target) = some (next, moved))
      (ok : Outer shared taken ∧ taken.closings = shared.closings) :
      Outer shared next ∧ next.closings = shared.closings := by
    cases same
    exact ok
  unfold runAdvance at advanced
  split at advanced
  · exact branch advanced ⟨.refl sound, rfl⟩
  · split at advanced
    · exact branch advanced ⟨.refl sound, rfl⟩
    · exact branch advanced ⟨.refl sound, rfl⟩
    · split_ifs at advanced
      · exact branch advanced ⟨.refl sound, rfl⟩
      · exact branch advanced ⟨.of_state sound (fun _ => .inr rfl), rfl⟩
    · exact branch advanced ⟨.refl sound, rfl⟩
    next new =>
      exact branch advanced ⟨.of_state sound (fun past =>
        absurd past (not_past new (by decide) (by decide))), rfl⟩
  · exact branch advanced ⟨.refl sound, rfl⟩
  · exact branch advanced ⟨.refl sound, rfl⟩
  · split_ifs at advanced with starting
    · exact branch advanced ⟨.of_state sound (fun past =>
        absurd past (not_past starting (by decide) (by decide))), rfl⟩
    · exact branch advanced ⟨.refl sound, rfl⟩
  · exact branch advanced ⟨.refl sound, rfl⟩
  · split_ifs at advanced
    exact branch advanced ⟨.refl sound, rfl⟩
  · exact branch advanced ⟨.of_state sound (fun _ => .inr rfl), rfl⟩
  · exact branch advanced ⟨⟨rfl, rfl, rfl, rfl, rfl, rfl, id, sound.began⟩, rfl⟩
  · cases advanced

theorem drain_outer (sound : Sound shared) {pc moved : DrainPc}
    (advanced : drainAdvance shared pc answer = some (next, moved)) :
    Outer shared next ∧ next.closings = shared.closings := by
  unfold drainAdvance at advanced
  split at advanced
  · cases advanced
    exact ⟨beginDrain_outer.1, beginDrain_closings⟩
  · cases advanced
    exact ⟨⟨rfl, rfl, rfl, rfl, rfl, rfl, id, sound.began⟩, rfl⟩
  · cases advanced

/-- The steps of Shutdown leave the transactions alone, and close the client
under one only where the context has expired. -/
theorem shutdown_outer (sound : Sound shared) {pc moved : ShutdownPc} (asserts : pc.Asserts shared)
    (advanced : shutdownAdvance shared pc answer = some (next, moved)) :
    Outer shared next ∧ moved.Asserts next ∧
      ∀ closing ∈ next.closings, closing.active = true → closing.expired = true := by
  have branch {taken : Shared} {target : ShutdownPc}
      (same : some (taken, target) = some (next, moved)) (outer : Outer shared taken)
      (own : target.Asserts taken) (closings : taken.closings = shared.closings) :
      Outer shared next ∧ moved.Asserts next ∧
        ∀ closing ∈ next.closings, closing.active = true → closing.expired = true := by
    cases same
    refine ⟨outer, own, ?_⟩
    rw [closings]
    exact sound.closings
  unfold shutdownAdvance at advanced
  split at advanced
  · split_ifs at advanced
    · exact branch advanced (.refl sound) trivial rfl
    · exact branch advanced (.of_state sound (fun _ => .inr rfl)) trivial rfl
  · exact branch advanced beginDrain_outer.1 beginDrain_outer.2 beginDrain_closings
  · exact branch advanced ⟨rfl, rfl, rfl, rfl, rfl, rfl, id, sound.began⟩ asserts rfl
  · exact branch advanced ⟨rfl, rfl, rfl, rfl, rfl, rfl, id, sound.began⟩ asserts rfl
  · split_ifs at advanced
    exact branch advanced (.refl sound) asserts rfl
  · exact branch advanced (.refl sound) trivial rfl
  · exact branch advanced ⟨rfl, rfl, rfl, rfl, rfl, rfl, id, sound.began⟩ asserts rfl
  · split_ifs at advanced with active
    · obtain ⟨channel, isChannel, same⟩ := Option.map_eq_some_iff.mp advanced
      exact branch (congrArg some same) (.refl sound) ⟨asserts, fun _ => isChannel⟩ rfl
    · exact branch advanced (.refl sound) ⟨asserts, Bool.eq_false_of_not_eq_true active⟩ rfl
  next channel =>
    split_ifs at advanced with released
    refine branch advanced (.refl sound) ⟨asserts.1, ?_⟩ rfl
    by_contra active
    have isChannel := asserts.2 (Bool.eq_true_of_not_eq_false active)
    exact (sound.current channel isChannel).2 released
  · exact branch advanced (.refl sound) trivial rfl
  · cases advanced
    exact ⟨closeClient_outer sound true, trivial, closeClient_closings sound (fun _ => rfl)⟩
  · cases advanced
    refine ⟨closeClient_outer sound false, trivial, closeClient_closings sound ?_⟩
    intro active
    rw [asserts.2] at active
    exact active
  · cases advanced

structure Kept (shared next : Shared) (pc moved : TxPc) : Prop where
  sound : Sound next
  own : moved.Asserts next
  settles : Settles shared next
  others : ∀ other : TxPc, (Thread.transaction pc).holds + (Thread.transaction other).holds ≤ 1 →
    other.Asserts shared → other.Asserts next

theorem Settles.refl (shared : Shared) : Settles shared shared :=
    ⟨id, fun _ active => ⟨active, rfl⟩⟩

theorem asserts_of_tokenless (tokenless : (Thread.transaction pc).holds = 0)
    (shared : Shared) : pc.Asserts shared := by
  cases pc with
  | gated => exact absurd tokenless Nat.one_ne_zero
  | admitting => exact absurd tokenless Nat.one_ne_zero
  | ungating => exact absurd tokenless Nat.one_ne_zero
  | active => exact absurd tokenless Nat.one_ne_zero
  | releasing => exact absurd tokenless Nat.one_ne_zero
  | _ => trivial

theorem others_of_token (token : (Thread.transaction pc).holds = 1) (other : TxPc)
    (bounded : (Thread.transaction pc).holds + (Thread.transaction other).holds ≤ 1) :
    other.Asserts next :=
  asserts_of_tokenless (by omega) next

theorem gate_of_token (asserts : pc.Asserts shared)
    (token : (Thread.transaction pc).holds ≠ 0) : shared.gate = true := by
  cases pc with
  | gated => exact asserts.1
  | admitting => exact asserts.1
  | ungating => exact asserts.1
  | active => exact asserts.1
  | releasing => exact asserts.1
  | _ => exact absurd rfl token

theorem inactive_of_free (sound : Sound shared) (free : shared.gate = false) :
    shared.txActive = false := by
  by_contra active
  have gated := sound.gated (Bool.eq_true_of_not_eq_false active)
  rw [free] at gated
  exact absurd gated Bool.false_ne_true

theorem take_kept (sound : Sound shared) (free : shared.gate = false) :
    Kept shared { shared with gate := true } .waiting .gated where
  sound := ⟨sound.wait, fun _ => rfl, sound.current, sound.spent, sound.began,
    sound.admissions, sound.closings⟩
  own := ⟨rfl, show shared.txActive = false from inactive_of_free sound free⟩
  settles := ⟨id, fun _ active => ⟨active, rfl⟩⟩
  others := by
    intro other _ asserts
    by_cases tokenless : (Thread.transaction other).holds = 0
    · exact asserts_of_tokenless tokenless _
    · have gated := gate_of_token asserts tokenless
      rw [free] at gated
      exact absurd gated Bool.false_ne_true

variable {moved : TxPc}

theorem ungate_kept (sound : Sound shared) (inactive : shared.txActive = false)
    (token : (Thread.transaction pc).holds = 1)
    (own : moved.Asserts { shared with gate := false }) :
    Kept shared { shared with gate := false } pc moved where
  sound := by
    refine ⟨sound.wait, ?_, sound.current, sound.spent, sound.began,
      sound.admissions, sound.closings⟩
    intro active
    exact absurd (inactive.symm.trans active) Bool.false_ne_true
  own := own
  settles := ⟨id, fun _ active => ⟨active, rfl⟩⟩
  others := fun other bounded _ => others_of_token token other bounded

theorem admit_kept (sound : Sound shared) (running : shared.state = .running)
    (gated : shared.gate = true) :
    Kept shared shared.admitted .admitting .active where
  sound := by
    have undrained : shared.drainBegan = false := by
      by_contra began
      exact not_past running (by decide) (by decide)
        (sound.began (Bool.eq_true_of_not_eq_false began))
    refine ⟨rfl, fun _ => gated, ?_, ?_, sound.began, ?_, sound.closings⟩
    · intro channel isChannel
      rw [← Option.some.inj isChannel]
      exact ⟨Nat.lt_succ_self _, fun closed => absurd (sound.spent _ closed) (Nat.lt_irrefl _)⟩
    · intro channel closed
      exact Nat.lt_succ_of_lt (sound.spent channel closed)
    · intro admission member
      rcases List.mem_append.mp member with old | new
      · exact sound.admissions admission old
      · rw [List.mem_singleton] at new
        subst new
        exact ⟨running, undrained⟩
  own := ⟨gated, rfl⟩
  settles := ⟨id, fun past _ => absurd past (not_past running (by decide) (by decide))⟩
  others := fun other bounded _ => others_of_token rfl other bounded

theorem release_kept (sound : Sound shared) (gated : shared.gate = true) :
    Kept shared shared.release .active .releasing where
  sound := by
    refine ⟨rfl, fun active => absurd active Bool.false_ne_true,
      fun channel isChannel => absurd isChannel (by simp [Shared.release]),
      ?_, sound.began, sound.admissions, sound.closings⟩
    intro channel closed
    rcases List.mem_append.mp closed with now | before
    · exact (sound.current channel (Option.mem_toList.mp now)).1
    · exact sound.spent channel before
  own := ⟨gated, rfl⟩
  settles := ⟨id, fun _ active => absurd active Bool.false_ne_true⟩
  others := fun other bounded _ => others_of_token rfl other bounded

theorem tx_kept (sound : Sound shared) (asserts : pc.Asserts shared)
    (advanced : txAdvance shared pc answer = some (next, moved)) : Kept shared next pc moved := by
  have branch {taken : Shared} {target : TxPc} (same : some (taken, target) = some (next, moved))
      (kept : Kept shared taken pc target) : Kept shared next pc moved := by
    cases same
    exact kept
  have quiet {target : TxPc} (own : target.Asserts shared) : Kept shared shared pc target :=
    ⟨sound, own, .refl shared, fun _ _ held => held⟩
  unfold txAdvance at advanced
  split at advanced
  · exact branch advanced (quiet trivial)
  · exact branch advanced (quiet trivial)
  · split_ifs at advanced with taken
    exact branch advanced (take_kept sound (Bool.eq_false_of_not_eq_true taken))
  · exact branch advanced (quiet trivial)
  · exact branch advanced (quiet asserts)
  · exact branch advanced (quiet asserts)
  · split at advanced
    next running => exact branch advanced (admit_kept sound running asserts.1)
    · exact branch advanced (quiet asserts)
    · exact branch advanced (quiet asserts)
    · exact branch advanced (quiet asserts)
    · exact branch advanced (quiet asserts)
  · exact branch advanced (ungate_kept sound asserts.2 rfl trivial)
  · exact branch advanced (release_kept sound asserts.1)
  · exact branch advanced (ungate_kept sound asserts.2 rfl trivial)
  · cases advanced

def Thread.active : Thread → Nat
  | .transaction .active => 1
  | _ => 0

theorem tx_active (asserts : pc.Asserts shared)
    (advanced : txAdvance shared pc answer = some (next, moved)) :
    (!next.txActive).toNat + (Thread.transaction moved).active =
      (!shared.txActive).toNat + (Thread.transaction pc).active := by
  have branch {taken : Shared} {target : TxPc} (same : some (taken, target) = some (next, moved))
      (paid : (!taken.txActive).toNat + (Thread.transaction target).active =
        (!shared.txActive).toNat + (Thread.transaction pc).active) :
      (!next.txActive).toNat + (Thread.transaction moved).active =
        (!shared.txActive).toNat + (Thread.transaction pc).active := by
    cases same
    exact paid
  unfold txAdvance at advanced
  split at advanced
  · exact branch advanced rfl
  · exact branch advanced rfl
  · split_ifs at advanced
    exact branch advanced rfl
  · exact branch advanced rfl
  · exact branch advanced rfl
  · exact branch advanced rfl
  · split at advanced
    · refine branch advanced ?_
      rw [asserts.2]
      rfl
    · exact branch advanced rfl
    · exact branch advanced rfl
    · exact branch advanced rfl
    · exact branch advanced rfl
  · exact branch advanced rfl
  · refine branch advanced ?_
    rw [asserts.2]
    rfl
  · exact branch advanced rfl
  · cases advanced

theorem tx_token (advanced : txAdvance shared pc answer = some (next, moved)) :
    (!next.gate).toNat + (Thread.transaction moved).holds ≤ (!shared.gate).toNat +
      (Thread.transaction pc).holds := by
  have branch {taken : Shared} {target : TxPc} (same : some (taken, target) = some (next, moved))
      (paid : (!taken.gate).toNat + (Thread.transaction target).holds ≤
        (!shared.gate).toNat + (Thread.transaction pc).holds) :
      (!next.gate).toNat + (Thread.transaction moved).holds ≤ (!shared.gate).toNat +
          (Thread.transaction pc).holds := by
    cases same
    exact paid
  unfold txAdvance at advanced
  split at advanced
  · exact branch advanced (Nat.le_refl _)
  · exact branch advanced (Nat.le_refl _)
  · split_ifs at advanced with taken
    exact branch advanced (by simp [Thread.holds, taken])
  · exact branch advanced (Nat.le_refl _)
  · exact branch advanced (Nat.le_refl _)
  · exact branch advanced (Nat.le_refl _)
  · split at advanced
    · exact branch advanced (Nat.le_refl _)
    · exact branch advanced (Nat.le_refl _)
    · exact branch advanced (Nat.le_refl _)
    · exact branch advanced (Nat.le_refl _)
    · exact branch advanced (Nat.le_refl _)
  · exact branch advanced (Nat.le_add_left _ _)
  · exact branch advanced (Nat.le_refl _)
  · exact branch advanced (Nat.le_add_left _ _)
  · cases advanced

end Steps

theorem exclusive : machine.Exclusive Thread.holds Sound (fun shared => Thread.Asserts shared) where
  call kind _ := by
    cases kind <;> trivial
  advance {shared thread answer next moved} sound asserts advanced := by
    replace advanced : advance shared thread answer = some (next, moved) := advanced
    unfold advance at advanced
    split at advanced
    · obtain ⟨_, ran, same⟩ := Option.map_eq_some_iff.mp advanced
      obtain ⟨rfl, rfl⟩ := Prod.mk.inj same
      have kept := tx_kept sound asserts ran
      refine ⟨kept.sound, kept.own, ?_⟩
      intro other bounded held
      cases other with
      | transaction pc => exact kept.others pc bounded held
      | shutdown pc => exact kept.settles.shutdown held
      | _ => trivial
    · obtain ⟨_, ran, same⟩ := Option.map_eq_some_iff.mp advanced
      obtain ⟨rfl, rfl⟩ := Prod.mk.inj same
      obtain ⟨outer, closings⟩ := run_outer sound ran
      exact ⟨outer.sound sound (by rw [closings]; exact sound.closings), trivial,
        fun _ _ held => outer.others held⟩
    · obtain ⟨_, ran, same⟩ := Option.map_eq_some_iff.mp advanced
      obtain ⟨rfl, rfl⟩ := Prod.mk.inj same
      obtain ⟨outer, closings⟩ := drain_outer sound ran
      exact ⟨outer.sound sound (by rw [closings]; exact sound.closings), trivial,
        fun _ _ held => outer.others held⟩
    · obtain ⟨_, ran, same⟩ := Option.map_eq_some_iff.mp advanced
      obtain ⟨rfl, rfl⟩ := Prod.mk.inj same
      obtain ⟨outer, own, closings⟩ := shutdown_outer sound asserts ran
      exact ⟨outer.sound sound closings, own, fun _ _ held => outer.others held⟩
  happen event := event.elim

section Run

variable {shared next : Shared} {thread moved : Thread} {answer : Answer}

theorem advance_measure {measure : Shared → Nat} {held : Thread → Nat} {relation : Nat → Nat → Prop}
    (refl : ∀ value, relation value value)
    (untouched : ∀ {shared next}, Outer shared next → measure next = measure shared)
    (idle : ∀ thread : Thread, (∀ pc, thread ≠ .transaction pc) → held thread = 0)
    (transaction : ∀ {shared next pc moved answer}, TxPc.Asserts shared pc →
      txAdvance shared pc answer = some (next, moved) →
      relation (measure next + held (.transaction moved)) (measure shared + held (.transaction pc)))
    (sound : Sound shared) (asserts : thread.Asserts shared)
    (advanced : advance shared thread answer = some (next, moved)) :
    relation (measure next + held moved) (measure shared + held thread) := by
  unfold advance at advanced
  split at advanced
  · obtain ⟨_, ran, same⟩ := Option.map_eq_some_iff.mp advanced
    obtain ⟨rfl, rfl⟩ := Prod.mk.inj same
    exact transaction asserts ran
  · obtain ⟨_, ran, same⟩ := Option.map_eq_some_iff.mp advanced
    obtain ⟨rfl, rfl⟩ := Prod.mk.inj same
    rw [untouched (run_outer sound ran).1, idle _ (by simp), idle _ (by simp)]
    exact refl _
  · obtain ⟨_, ran, same⟩ := Option.map_eq_some_iff.mp advanced
    obtain ⟨rfl, rfl⟩ := Prod.mk.inj same
    rw [untouched (drain_outer sound ran).1, idle _ (by simp), idle _ (by simp)]
    exact refl _
  · obtain ⟨_, ran, same⟩ := Option.map_eq_some_iff.mp advanced
    obtain ⟨rfl, rfl⟩ := Prod.mk.inj same
    rw [untouched (shutdown_outer sound asserts ran).1, idle _ (by simp), idle _ (by simp)]
    exact refl _

theorem fresh_holds :
    ThreadPool.Machine.Holds Sound (fun shared => Thread.Asserts shared) ⟨.fresh, []⟩ where
  shared := ⟨rfl, fun active => absurd active Bool.false_ne_true,
    fun _ isChannel => absurd isChannel (by simp [Shared.fresh]),
    nofun, fun began => absurd began Bool.false_ne_true,
    nofun, nofun⟩
  threads := nofun

variable (moves : List (ThreadPool.Move Call Answer Empty))

/-- Every run keeps the assertions, and the token in the gate or with one thread. -/
theorem after_holds : ThreadPool.Machine.Holds Sound (fun shared => Thread.Asserts shared)
    (after moves) ∧
      ThreadPool.total (fun shared : Shared => (!shared.gate).toNat)
        Thread.holds (after moves) ≤ 1 := by
  refine exclusive.run _ (fun kind => by cases kind <;>
    rfl) ?_ (fun _ event => event.elim) fresh_holds (by decide) moves
  intro shared thread answer next moved sound asserts advanced
  refine advance_measure Nat.le_refl (fun outer => ?_) ?_
    (fun _ ran => tx_token ran) sound asserts advanced
  · rw [outer.gate]
  · intro thread other
    cases thread with
    | transaction pc => exact absurd rfl (other pc)
    | _ => rfl

theorem active_counted :
    ThreadPool.total (fun shared : Shared => (!shared.txActive).toNat)
      Thread.active (after moves) = 1 := by
  refine (ThreadPool.Machine.total_eq _ _ (fun kind => by cases kind <;>
    rfl) ?_ (fun _ event => event.elim)
    (fun more => (after_holds more).1) moves).trans rfl
  intro shared thread answer next moved sound asserts advanced
  refine advance_measure (fun _ => rfl) (fun outer => ?_) ?_
    (fun held ran => tx_active held ran) sound asserts advanced
  · rw [outer.txActive]
  · intro thread other
    cases thread with
    | transaction pc => exact absurd rfl (other pc)
    | _ => rfl

end Run

/-- Whatever calls there are and however they interleave: one transaction at a
time, none let in but by a running transport that no drain has begun, a wait
channel exactly while one is active, and no client closed under one but by a
Shutdown whose context had expired. -/
theorem gate_holds (moves : List (ThreadPool.Move Call Answer Empty)) :
    let pool := after moves
    (∀ first second : Nat, pool.threads[first]? = some (.transaction .active) →
      pool.threads[second]? = some (.transaction .active) → first = second) ∧
    (∀ admission ∈ pool.shared.admissions, admission.state = .running ∧
      admission.drainBegan = false) ∧
    (pool.shared.txDone.isSome = true ↔ Thread.transaction .active ∈ pool.threads) ∧
    (∀ closing ∈ pool.shared.closings, closing.active = true → closing.expired = true) := by
  intro pool
  have sound := (after_holds moves).1.shared
  have counted := active_counted moves
  rw [ThreadPool.total] at counted
  refine ⟨?_, sound.admissions, ?_, sound.closings⟩
  · intro first second isFirst isSecond
    by_contra apart
    have two : 1 + 1 ≤ ((after moves).threads.map Thread.active).sum :=
      ThreadPool.sum_two Thread.active isFirst isSecond apart
    omega
  · rw [← sound.wait]
    constructor
    · intro active
      rw [active] at counted
      by_contra absent
      have none : (pool.threads.map Thread.active).sum = 0 := by
        rw [List.sum_eq_zero_iff]
        intro count member
        obtain ⟨thread, isThread, rfl⟩ := List.mem_map.mp member
        unfold Thread.active
        split
        · exact absurd isThread absent
        · rfl
      exact absurd (none.symm.trans (by simpa using counted)) (by decide)
    · intro present
      exact ((after_holds moves).1.threads _ present).2

def sampleMoves : List (ThreadPool.Move Call Answer Empty) :=
  [.call (.run true), .call (.transaction true), .call (.transaction true), .call .shutdown,
    .act 0 .go, .act 0 (.checked none), .act 0 .go, .act 1 .go,
    .act 1 .gateFree, .act 1 .go, .act 1 .go,
    .act 2 .go, .act 2 .gateFree, .act 3 .go, .act 3 .go, .act 3 .go,
    .act 3 (.contextDone (.text "deadline exceeded")), .act 3 .go]

theorem gate_holds_sample :
    let pool := after sampleMoves
    pool.threads[1]? = some (.transaction .active) ∧ pool.threads[2]? =
      some (.transaction .waiting) ∧
      pool.shared.txDone.isSome = true ∧ pool.shared.closings = [⟨true, true⟩] := by
  intro pool
  have active : pool.threads[1]? = some (.transaction .active) := rfl
  obtain ⟨_, _, waits, _⟩ := gate_holds sampleMoves
  exact ⟨active, rfl, waits.mpr (List.mem_of_getElem? active), rfl⟩

end Gomessenger.Kafka.Transport
