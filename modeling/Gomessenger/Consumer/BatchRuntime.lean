import Gomessenger.Inbox.Batch
import Gomessenger.Messenger.Descriptor

/-! The invocation of a batch handler through its middlewares.

A middleware is any code that may call next, look at what comes back and call it
again. The world is whatever that code can read and change; a context's `Err` is
a function of it. -/

namespace Gomessenger.BatchRuntime

open Inbox (BatchItemResult invalidResult)
open Messenger (Metadata Message sampleMetadata)

abbrev BatchResult := List BatchItemResult

inductive Outcome (P : Type)
  | returned (result : BatchResult) (err : Option GoError)
  | panicked (value : P)

def Outcome.fail {P : Type} (err : GoError) : Outcome P := .returned [] (some err)

inductive Body (W C P : Type)
  | done (world : W) (outcome : Outcome P)
  | call (world : W) (ctx : Option C) (resume : W → Outcome P → Body W C P)

abbrev BatchMiddleware (W C P : Type) := W → Option C → List Metadata → String → Body W C P

abbrev BatchHandler (W C P T : Type) := W → C → List (Message T) → W × Outcome P

structure Run (C P : Type) where
  ctx : C
  outcome : Outcome P

structure Captured (W C P : Type) where
  world : W
  terminalCtx : Option C
  terminalCompletionErr : Option GoError
  runs : List (Run C P)

structure Invocation (W C P : Type) where
  result : BatchResult
  err : Option GoError
  world : W
  runs : List (Run C P)

section Invoke

variable {W C P T : Type} (ctxErr : W → C → Option GoError)

def handlerCompletionError (world : W) (ctx : C) (handlerErr : Option GoError) : Option GoError :=
  match handlerErr with
  | some err => some err
  | none => ctxErr world ctx

def terminal (handler : BatchHandler W C P T) (messages : List (Message T)) (ctx : Option C)
    (state : Captured W C P) : Captured W C P × Outcome P :=
  match ctx with
  | none => (state, .fail (invalidResult "middleware supplied a nil context"))
  | some ctx =>
    match handler state.world ctx messages with
    | (world, .panicked value) =>
      (⟨world, some ctx, state.terminalCompletionErr, state.runs ++ [⟨ctx, .panicked value⟩]⟩,
        .panicked value)
    | (world, .returned result handlerErr) =>
      let completionErr := handlerCompletionError ctxErr world ctx handlerErr
      (⟨world, some ctx, completionErr, state.runs ++ [⟨ctx, .returned result handlerErr⟩]⟩,
        .returned (if completionErr.isSome ∧ handlerErr.isNone then [] else result) completionErr)

/-- A middleware's body, whose next lets one call through to `wrapped`. -/
def runBody (wrapped : Option C → Captured W C P → Captured W C P × Outcome P) :
    Body W C P → Bool → Captured W C P → Captured W C P × Outcome P
  | .done world outcome, _, state => ({ state with world }, outcome)
  | .call world ctx resume, called, state =>
    if called then
      runBody wrapped (resume world (.fail (invalidResult "middleware called next more than once")))
        true
        { state with world }
    else
      let answered := wrapped ctx { state with world }
      runBody wrapped (resume answered.1.world answered.2) true answered.1

def chain (handler : BatchHandler W C P T) (messages : List (Message T)) (handlerID : String) :
    List (BatchMiddleware W C P) → Option C → Captured W C P → Captured W C P × Outcome P
  | [], ctx, state => terminal ctxErr handler messages ctx state
  | middleware :: rest, ctx, state =>
    runBody (chain handler messages handlerID rest)
      (middleware state.world ctx (messages.map Message.metadata) handlerID) false state

/-- The middlewares, or the last index at which there is none. -/
def presentMiddlewares : List (Option (BatchMiddleware W C P)) →
    Except Nat (List (BatchMiddleware W C P))
  | [] => .ok []
  | middleware :: rest =>
    match presentMiddlewares rest with
    | .error index => .error (index + 1)
    | .ok rest =>
      match middleware with
      | none => .error 0
      | some middleware => .ok (middleware :: rest)

def handlerPanicText (component handlerID : String) : String :=
  if handlerID = "" then component ++ ": handler panicked"
  else component ++ ": handler " ++ handlerID ++ " panicked"

def handlerPanicError (handlerID : String) : GoError :=
  .text (handlerPanicText "messenger" handlerID)

def finish (handlerID : String) (state : Captured W C P) : Outcome P → BatchResult × Option GoError
  | .panicked _ => ([], some (handlerPanicError handlerID))
  | .returned result err =>
    let late := state.terminalCtx.bind (ctxErr state.world)
    let (result, err) := if late.isSome then ([], err <|> late) else (result, err)
    let (result, err) :=
      if state.terminalCompletionErr.isSome then ([], err <|> state.terminalCompletionErr)
      else (result, err)
    match err with
    | none => (result, none)
    | some err =>
      if result = [] then ([], some err)
      else ([], some (.join "non-empty result with top-level error"
        (.sentinel .invalidBatchResult) err))

def invokeChain (world : W) (ctx : C) (messages : List (Message T)) (handlerID : String)
    (handler : BatchHandler W C P T) (middlewares : List (BatchMiddleware W C P)) :
    Invocation W C P :=
  let chained := chain ctxErr handler messages handlerID middlewares
    (some ctx) ⟨world, none, none, []⟩
  let returned := finish ctxErr handlerID chained.1 chained.2
  ⟨returned.1, returned.2, chained.1.world, chained.1.runs⟩

/-- `Invoke`; a panic reporter only sees the panic. -/
def invoke (world : W) (ctx : Option C) (messages : List (Message T)) (handlerID : String)
    (handler : Option (BatchHandler W C P T))
    (middlewares : List (Option (BatchMiddleware W C P))) :
    Invocation W C P :=
  match ctx, handler with
  | some ctx, some handler =>
    if handlerID = "" then ⟨[], some (invalidResult "incomplete batch invocation"), world, []⟩
    else match presentMiddlewares middlewares with
      | .error index =>
        ⟨[], some (invalidResult ("nil batch middleware at index " ++ toString index)), world, []⟩
      | .ok middlewares => invokeChain ctxErr world ctx messages handlerID handler middlewares
  | _, _ => ⟨[], some (invalidResult "incomplete batch invocation"), world, []⟩

end Invoke

section Captures

variable {W C P T : Type} {ctxErr : W → C → Option GoError}

structure Captured.Unrun (state : Captured W C P) : Prop where
  runs : state.runs = []
  ctx : state.terminalCtx = none
  err : state.terminalCompletionErr = none

structure Captured.Ran (state : Captured W C P) (run : Run C P) : Prop where
  runs : state.runs = [run]
  ctx : state.terminalCtx = some run.ctx
  err : ∀ result failure, run.outcome = .returned result (some failure) →
    state.terminalCompletionErr = some failure

def Captured.Settled (state : Captured W C P) : Prop := state.Unrun ∨ ∃ run, state.Ran run

variable {state : Captured W C P}

theorem Captured.Unrun.withWorld (unrun : state.Unrun) (world : W) :
    Captured.Unrun { state with world } := ⟨unrun.runs, unrun.ctx, unrun.err⟩

theorem Captured.Settled.withWorld (settled : state.Settled) (world : W) :
    Captured.Settled { state with world } := by
  rcases settled with unrun | ⟨run, ran⟩
  · exact .inl (unrun.withWorld world)
  · exact .inr ⟨run, ran.runs, ran.ctx, ran.err⟩

theorem terminal_settled (handler : BatchHandler W C P T) (messages : List (Message T))
    (ctx : Option C) (unrun : state.Unrun) :
    (terminal ctxErr handler messages ctx state).1.Settled := by
  unfold terminal
  split
  · exact .inl unrun
  next ctx =>
    split
    next world value _ =>
      refine .inr ⟨⟨ctx, .panicked value⟩, ?_, rfl, ?_⟩
      · simp [unrun.runs]
      · intro _ _ returned
        cases returned
    next world result handlerErr _ =>
      refine .inr ⟨⟨ctx, .returned result handlerErr⟩, ?_, rfl, ?_⟩
      · simp [unrun.runs]
      · intro _ failure returned
        obtain ⟨_, rfl⟩ := Outcome.returned.inj returned
        rfl

theorem runBody_called (wrapped : Option C → Captured W C P → Captured W C P × Outcome P)
    (body : Body W C P) (state : Captured W C P) :
    ∃ world, (runBody wrapped body true state).1 = { state with world } := by
  induction body generalizing state with
  | done world outcome => exact ⟨world, rfl⟩
  | call world ctx resume ih =>
    obtain ⟨last, same⟩ := ih world (.fail (invalidResult "middleware called next more than once"))
      { state with world }
    refine ⟨last, ?_⟩
    rw [runBody, if_pos rfl, same]

theorem runBody_settled {wrapped : Option C → Captured W C P → Captured W C P × Outcome P}
    (settles : ∀ ctx state, state.Unrun → (wrapped ctx state).1.Settled) (body : Body W C P)
    (unrun : state.Unrun) : (runBody wrapped body false state).1.Settled := by
  cases body with
  | done world outcome => exact .inl (unrun.withWorld world)
  | call world ctx resume =>
    rw [runBody, if_neg Bool.false_ne_true]
    have answered := settles ctx _ (unrun.withWorld world)
    obtain ⟨last, same⟩ := runBody_called wrapped
      (resume (wrapped ctx { state with world }).1.world (wrapped ctx { state with world }).2)
      (wrapped ctx { state with world }).1
    rw [same]
    exact answered.withWorld last

/-- However the middlewares behave, the chain runs the handler once at most. -/
theorem chain_settled (ctxErr : W → C → Option GoError) (handler : BatchHandler W C P T)
    (messages : List (Message T)) (handlerID : String) (middlewares : List (BatchMiddleware W C P))
    (ctx : Option C) (unrun : state.Unrun) :
    (chain ctxErr handler messages handlerID middlewares ctx state).1.Settled := by
  induction middlewares generalizing ctx state with
  | nil => exact terminal_settled handler messages ctx unrun
  | cons middleware rest ih => exact runBody_settled (fun ctx _ unrun => ih ctx unrun) _ unrun

def Run.Failed (ctxErr : W → C → Option GoError) (world : W) (run : Run C P) : Prop :=
  (∃ result failure, run.outcome = .returned result (some failure)) ∨
    (ctxErr world run.ctx).isSome = true

theorem finish_failed (handlerID : String) (outcome : Outcome P)
    (failed : (state.terminalCtx.bind (ctxErr state.world)).isSome = true ∨
      state.terminalCompletionErr.isSome = true) :
    (finish ctxErr handlerID state outcome).2.isSome = true ∧
      (finish ctxErr handlerID state outcome).1 = [] := by
  cases outcome with
  | panicked value => exact ⟨rfl, rfl⟩
  | returned result err =>
    generalize isLate : state.terminalCtx.bind (ctxErr state.world) = late at failed
    generalize isCompletion : state.terminalCompletionErr = completion at failed
    simp only [finish, isLate, isCompletion]
    cases late with
    | some lateErr => cases completion <;> cases err <;> exact ⟨rfl, rfl⟩
    | none =>
      cases completion with
      | some completionErr => cases err <;> exact ⟨rfl, rfl⟩
      | none => exact absurd failed (by decide)

theorem Captured.Ran.failed {run : Run C P} (ran : state.Ran run)
    (failed : run.Failed ctxErr state.world) :
    (state.terminalCtx.bind (ctxErr state.world)).isSome = true ∨
      state.terminalCompletionErr.isSome = true := by
  rcases failed with ⟨result, failure, returned⟩ | done
  · right
    rw [ran.err result failure returned]
    rfl
  · left
    rw [ran.ctx]
    exact done

/-- The handler ran once at most, and where its run failed there is an error and
no result. -/
def Invocation.Honest (ctxErr : W → C → Option GoError) (invoked : Invocation W C P) : Prop :=
  invoked.runs.length ≤ 1 ∧ ∀ run ∈ invoked.runs, run.Failed ctxErr invoked.world →
    invoked.err.isSome = true ∧ invoked.result = []

theorem Invocation.honest_unrun (result : BatchResult) (err : Option GoError) (world : W) :
    Invocation.Honest ctxErr (⟨result, err, world, []⟩ : Invocation W C P) :=
  ⟨Nat.zero_le 1, nofun⟩

theorem invokeChain_honest (world : W) (ctx : C) (messages : List (Message T)) (handlerID : String)
    (handler : BatchHandler W C P T) (middlewares : List (BatchMiddleware W C P)) :
    (invokeChain ctxErr world ctx messages handlerID handler middlewares).Honest ctxErr := by
  have fresh : (⟨world, none, none, []⟩ : Captured W C P).Unrun := ⟨rfl, rfl, rfl⟩
  rcases chain_settled ctxErr handler messages handlerID middlewares (some ctx) fresh
    with unrun | ⟨run, ran⟩
  · rw [invokeChain, unrun.runs]
    exact Invocation.honest_unrun ..
  · rw [Invocation.Honest, invokeChain, ran.runs]
    refine ⟨Nat.le_refl 1, ?_⟩
    intro one member failed
    rw [List.mem_singleton.mp member] at failed
    exact finish_failed handlerID _ (ran.failed failed)

/-- Middleware cannot turn a failure into success. -/
theorem invoke_keeps_failure (ctxErr : W → C → Option GoError) (world : W) (ctx : Option C)
    (messages : List (Message T)) (handlerID : String) (handler : Option (BatchHandler W C P T))
    (middlewares : List (Option (BatchMiddleware W C P))) :
    let invoked := invoke ctxErr world ctx messages handlerID handler middlewares
    invoked.runs.length ≤ 1 ∧ ∀ run ∈ invoked.runs, run.Failed ctxErr invoked.world →
      invoked.err.isSome = true ∧ invoked.result = [] := by
  show (invoke ctxErr world ctx messages handlerID handler middlewares).Honest ctxErr
  unfold invoke
  split
  · split
    · exact Invocation.honest_unrun ..
    · split
      · exact Invocation.honest_unrun ..
      · exact invokeChain_honest ..
  · exact Invocation.honest_unrun ..

/-- A middleware that calls next twice and reports success whatever comes back. -/
def swallowing : BatchMiddleware Unit Unit Unit := fun world ctx _ _ =>
  .call world ctx (fun world _ => .call world ctx (fun world _ => .done world (.returned [] none)))

def failing : BatchHandler Unit Unit Unit Unit := fun world _ _ =>
  (world, .returned [] (some (.text "disk full")))

theorem invoke_keeps_failure_swallowed :
    let invoked := invoke (fun _ _ => none) () (some ()) [] "billing" (some failing)
      [some swallowing]
    invoked.runs = [⟨(), .returned [] (some (.text "disk full"))⟩] ∧ invoked.err.isSome = true := by
  intro invoked
  have ran : invoked.runs = [⟨(), .returned [] (some (.text "disk full"))⟩] := rfl
  refine ⟨ran, ?_⟩
  have kept := (invoke_keeps_failure (fun _ _ => none) () (some ()) [] "billing" (some failing)
    [some swallowing]).2 _ (ran ▸ List.mem_singleton.mpr rfl)
  exact (kept (.inl ⟨[], .text "disk full", rfl⟩)).1

end Captures

section Unwinding

variable {W C P T : Type} (ctxErr : W → C → Option GoError)

def Body.settle : Body W C P → W × Outcome P
  | .done world outcome => (world, outcome)
  | .call world _ resume =>
    (resume world (.fail (invalidResult "middleware called next more than once"))).settle

abbrev Suspended (W C P : Type) := W → Outcome P → Body W C P

structure Reached (W C P : Type) where
  world : W
  ctx : C
  suspended : List (Suspended W C P)

def reach (metadata : List Metadata) (handlerID : String) :
    List (BatchMiddleware W C P) → W → Option C → Option (Reached W C P)
  | [], world, ctx => ctx.map (fun ctx => ⟨world, ctx, []⟩)
  | middleware :: rest, world, ctx =>
    match middleware world ctx metadata handlerID with
    | .done _ _ => none
    | .call world ctx resume =>
      (reach metadata handlerID rest world ctx).map
        (fun reached => { reached with suspended := reached.suspended ++ [resume] })

def unwind : List (Suspended W C P) → W → Outcome P → W × Outcome P
  | [], world, outcome => (world, outcome)
  | resume :: outer, world, outcome =>
    let settled := (resume world outcome).settle
    unwind outer settled.1 settled.2

theorem unwind_append (inner : List (Suspended W C P)) (resume : Suspended W C P)
    (world : W) (outcome : Outcome P) :
    unwind (inner ++ [resume]) world outcome =
      (resume (unwind inner world outcome).1 (unwind inner world outcome).2).settle := by
  induction inner generalizing world outcome with
  | nil => rfl
  | cons first inner ih => exact ih _ _

theorem runBody_settle (wrapped : Option C → Captured W C P → Captured W C P × Outcome P)
    (body : Body W C P) (state : Captured W C P) :
    runBody wrapped body true state = ({ state with world := body.settle.1 }, body.settle.2) := by
  induction body generalizing state with
  | done world outcome => rfl
  | call world ctx resume ih =>
    rw [runBody, if_pos rfl, ih]
    rfl

theorem chain_unreached (handler : BatchHandler W C P T)
    (messages : List (Message T)) (handlerID : String)
    (middlewares : List (BatchMiddleware W C P)) (ctx : Option C) (state : Captured W C P)
    (astray : reach (messages.map Message.metadata) handlerID middlewares state.world ctx = none) :
    (chain ctxErr handler messages handlerID middlewares ctx state).1.runs = state.runs := by
  induction middlewares generalizing ctx state with
  | nil =>
    rw [reach, Option.map_eq_none_iff] at astray
    rw [astray]
    rfl
  | cons middleware rest ih =>
    rw [reach] at astray
    rw [chain]
    cases entered : middleware state.world ctx (messages.map Message.metadata) handlerID with
    | done world outcome => rfl
    | call world ctx resume =>
      simp only [entered, Option.map_eq_none_iff] at astray
      rw [runBody, if_neg Bool.false_ne_true, runBody_settle]
      exact ih ctx { state with world } astray

variable {reached : Reached W C P}

theorem chain_reached (handler : BatchHandler W C P T)
    (messages : List (Message T)) (handlerID : String)
    (middlewares : List (BatchMiddleware W C P)) (ctx : Option C) (state : Captured W C P)
    (taken : reach (messages.map Message.metadata) handlerID middlewares
      state.world ctx = some reached) :
    let ended := terminal ctxErr handler messages (some reached.ctx)
      { state with world := reached.world }
    let unwound := unwind reached.suspended ended.1.world ended.2
    chain ctxErr handler messages handlerID middlewares ctx state =
      ({ ended.1 with world := unwound.1 }, unwound.2) := by
  induction middlewares generalizing ctx state reached with
  | nil =>
    obtain ⟨ctx, rfl, rfl⟩ := Option.map_eq_some_iff.mp taken
    rfl
  | cons middleware rest ih =>
    rw [reach] at taken
    rw [chain]
    cases entered : middleware state.world ctx (messages.map Message.metadata) handlerID with
    | done world outcome => simp [entered] at taken
    | call world ctx resume =>
      simp only [entered] at taken
      obtain ⟨inner, takenInner, rfl⟩ := Option.map_eq_some_iff.mp taken
      rw [runBody, if_neg Bool.false_ne_true, runBody_settle,
        ih ctx { state with world } takenInner]
      simp only [unwind_append]

variable {middlewares : List (Option (BatchMiddleware W C P))}

theorem presentMiddlewares_ok
    {present : List (BatchMiddleware W C P)} (all : presentMiddlewares middlewares = .ok present) :
    middlewares = present.map some := by
  induction middlewares generalizing present with
  | nil =>
    rw [← Except.ok.inj all]
    rfl
  | cons middleware rest ih =>
    rw [presentMiddlewares] at all
    cases inner : presentMiddlewares rest with
    | error index => simp [inner] at all
    | ok others =>
      cases middleware with
      | none => simp [inner] at all
      | some middleware =>
        simp only [inner, Except.ok.injEq] at all
        rw [← all, ih inner, List.map_cons]

theorem invoke_ran {world : W} {ctx : Option C} {messages : List (Message T)} {handlerID : String}
    {handler : Option (BatchHandler W C P T)} {run : Run C P}
    (ran : run ∈ (invoke ctxErr world ctx messages handlerID handler middlewares).runs) :
    ∃ given code present, ctx = some given ∧ handler = some code ∧ middlewares = present.map some ∧
      run ∈ (invokeChain ctxErr world given messages handlerID code present).runs ∧
      invoke ctxErr world ctx messages handlerID handler middlewares =
        invokeChain ctxErr world given messages handlerID code present := by
  unfold invoke at ran ⊢
  split at ran
  next given code =>
    split_ifs at ran ⊢ with unnamed
    · exact absurd ran List.not_mem_nil
    · split at ran
      · exact absurd ran List.not_mem_nil
      next present all =>
        exact ⟨given, code, present, rfl, rfl, presentMiddlewares_ok all, ran, rfl⟩
  · exact absurd ran List.not_mem_nil

/-- The middlewares turn a panic of the handler into a success while its context
is live. -/
def PanicRecovered (world : W) (ctx : C) (messages : List (Message T)) (handlerID : String)
    (handler : BatchHandler W C P T) (middlewares : List (BatchMiddleware W C P)) : Prop :=
  ∃ reached panicking value,
    reach (messages.map Message.metadata) handlerID middlewares world (some ctx) = some reached ∧
    handler reached.world reached.ctx messages = (panicking, .panicked value) ∧
    (∃ result, (unwind reached.suspended panicking (.panicked value)).2 = .returned result none) ∧
    ctxErr (unwind reached.suspended panicking (.panicked value)).1 reached.ctx = none

theorem finish_fails_iff (handlerID : String) {state : Captured W C P}
    {ctx : C} (outcome : Outcome P)
    (called : state.terminalCtx = some ctx) (open_ : state.terminalCompletionErr = none) :
    ((finish ctxErr handlerID state outcome).2.isSome = true ∧
        (finish ctxErr handlerID state outcome).1 = []) ↔
      ¬ ((∃ result, outcome = .returned result none) ∧ ctxErr state.world ctx = none) := by
  cases outcome with
  | panicked value => simp [finish]
  | returned result err =>
    simp only [finish, called, open_, Option.bind_some]
    cases late : ctxErr state.world ctx with
    | some lateErr => cases err <;> simp
    | none =>
      cases err with
      | none => simp
      | some err => by_cases empty : result = [] <;> simp [empty]

/-- A panic of the handler fails the invocation exactly where no middleware
recovers it into a success. -/
theorem panic_fails_invocation_iff (world : W) (ctx : Option C) (messages : List (Message T))
    (handlerID : String) (handler : Option (BatchHandler W C P T))
    (middlewares : List (Option (BatchMiddleware W C P))) :
    let invoked := invoke ctxErr world ctx messages handlerID handler middlewares
    ∀ run ∈ invoked.runs, ∀ value, run.outcome = .panicked value →
      ∃ given code present, ctx = some given ∧ handler = some code ∧
        middlewares = present.map some ∧
        ((invoked.err.isSome = true ∧ invoked.result = []) ↔
          ¬ PanicRecovered ctxErr world given messages handlerID code present) := by
  intro invoked run ran value panicked
  obtain ⟨given, code, present, isCtx, isHandler, isList, ranChain, same⟩ := invoke_ran ctxErr ran
  refine ⟨given, code, present, isCtx, isHandler, isList, ?_⟩
  show (Option.isSome (invoke ..).err = true ∧ (invoke ..).result = []) ↔ _
  rw [same]
  unfold invokeChain at ranChain ⊢
  cases taken : reach (messages.map Message.metadata) handlerID present world (some given) with
  | none =>
    have unrun := chain_unreached ctxErr code messages handlerID present (some given)
      ⟨world, none, none, []⟩ taken
    simp only [unrun] at ranChain
    exact absurd ranChain List.not_mem_nil
  | some reached =>
    have chained := chain_reached ctxErr code messages handlerID present (some given)
      ⟨world, none, none, []⟩ taken
    cases ended : code reached.world reached.ctx messages with
    | mk last outcome =>
      cases outcome with
      | returned result err =>
        simp only [chained, terminal, ended, List.nil_append, List.mem_singleton] at ranChain
        rw [ranChain] at panicked
        cases panicked
      | panicked thrown =>
        simp only [chained, terminal, ended]
        rw [finish_fails_iff ctxErr handlerID _ rfl rfl]
        apply not_congr
        constructor
        · intro recovered
          exact ⟨reached, last, thrown, taken, ended, recovered⟩
        · rintro ⟨other, _, _, takenToo, endedToo, recovered⟩
          obtain rfl := Option.some.inj (taken.symm.trans takenToo)
          obtain ⟨rfl, same⟩ := Prod.mk.inj (ended.symm.trans endedToo)
          obtain rfl := Outcome.panicked.inj same
          exact recovered

/-- What the middleware does with a panic of its next ends with a panic. -/
def LetsPanicsPass (middleware : BatchMiddleware W C P) : Prop :=
  ∀ world ctx metadata handlerID entered derived resume,
    middleware world ctx metadata handlerID = .call entered derived resume →
    ∀ panicking value, ∃ thrown, (resume panicking (.panicked value)).settle.2 = .panicked thrown

variable {middlewares : List (BatchMiddleware W C P)}

theorem reach_lets_pass (metadata : List Metadata) (handlerID : String)
    (pass : ∀ middleware ∈ middlewares, LetsPanicsPass middleware) {world : W} {ctx : Option C}
    (taken : reach metadata handlerID middlewares world ctx = some reached) :
    ∀ resume ∈ reached.suspended, ∀ panicking value,
      ∃ thrown, (resume panicking (.panicked value)).settle.2 = .panicked thrown := by
  induction middlewares generalizing world ctx reached with
  | nil =>
    obtain ⟨_, _, rfl⟩ := Option.map_eq_some_iff.mp taken
    exact nofun
  | cons middleware rest ih =>
    rw [reach] at taken
    cases entered : middleware world ctx metadata handlerID with
    | done _ _ => simp [entered] at taken
    | call _ _ resume =>
      simp only [entered] at taken
      obtain ⟨inner, takenInner, rfl⟩ := Option.map_eq_some_iff.mp taken
      intro waiting member
      rcases List.mem_append.mp member with inside | last
      · exact ih (fun one isRest => pass one (.tail _ isRest)) takenInner waiting inside
      · rw [List.mem_singleton.mp last]
        exact pass middleware List.mem_cons_self _ _ _ _ _ _ _ entered

theorem unwind_panicked {suspended : List (Suspended W C P)}
    (pass : ∀ resume ∈ suspended, ∀ panicking value,
      ∃ thrown, (resume panicking (.panicked value)).settle.2 = .panicked thrown)
    (world : W) (value : P) :
    ∃ thrown, (unwind suspended world (.panicked value)).2 = .panicked thrown := by
  induction suspended generalizing world value with
  | nil => exact ⟨value, rfl⟩
  | cons resume outer ih =>
    obtain ⟨thrown, settled⟩ := pass resume List.mem_cons_self world value
    rw [unwind, settled]
    exact ih (fun one member => pass one (.tail _ member)) _ thrown

theorem passing_never_recovers (world : W) (ctx : C) (messages : List (Message T))
    (handlerID : String) (handler : BatchHandler W C P T)
    (pass : ∀ middleware ∈ middlewares, LetsPanicsPass middleware) :
    ¬ PanicRecovered ctxErr world ctx messages handlerID handler middlewares := by
  rintro ⟨reached, panicking, value, taken, _, ⟨result, returned⟩, _⟩
  obtain ⟨thrown, same⟩ := unwind_panicked (reach_lets_pass _ handlerID pass taken) panicking value
  rw [same] at returned
  cases returned

def panicking : BatchHandler Unit Unit Unit Unit := fun world _ _ => (world, .panicked ())

def recovering : BatchMiddleware Unit Unit Unit := fun world ctx _ _ =>
  .call world ctx (fun world outcome =>
    match outcome with
    | .panicked _ => .done world (.returned [] none)
    | .returned result err => .done world (.returned result err))

def passing : BatchMiddleware Unit Unit Unit := fun world ctx _ _ => .call world ctx .done

theorem passing_lets_pass : LetsPanicsPass passing := by
  intro world ctx metadata handlerID entered derived resume entering panicked value
  obtain ⟨_, _, rfl⟩ := Body.call.inj entering
  exact ⟨value, rfl⟩

theorem panic_fails_invocation_iff_passing :
    let invoked := invoke (fun _ _ => none) () (some ()) [⟨sampleMetadata, ()⟩] "billing"
      (some panicking) [some passing, some passing]
    invoked.runs = [⟨(), .panicked ()⟩] ∧ invoked.err.isSome = true ∧ invoked.result = [] := by
  intro invoked
  have ran : invoked.runs = [⟨(), .panicked ()⟩] := rfl
  obtain ⟨given, code, present, _, isHandler, isList, decided⟩ :=
    panic_fails_invocation_iff (fun _ _ => none) () (some ()) [⟨sampleMetadata, ()⟩] "billing"
      (some panicking) [some passing, some passing] ⟨(), .panicked ()⟩
      (by rw [show (invoke ..).runs = _ from ran]; exact List.mem_singleton_self _) () rfl
  refine ⟨ran, decided.mpr (passing_never_recovers _ _ _ _ _ _ fun middleware member => ?_)⟩
  have among : some middleware ∈ [some passing, some passing] :=
    isList ▸ List.mem_map_of_mem member
  obtain rfl : middleware = passing := by simpa using among
  exact passing_lets_pass

theorem recovered_panic_succeeds :
    let invoked := invoke (fun _ _ => none) () (some ()) [⟨sampleMetadata, ()⟩] "billing"
      (some panicking) [some recovering]
    (∃ run ∈ invoked.runs, run.outcome = .panicked ()) ∧ invoked.err = none :=
  ⟨⟨⟨(), .panicked ()⟩, List.mem_singleton_self _, rfl⟩, rfl⟩

end Unwinding

end Gomessenger.BatchRuntime
