import Gomessenger.Consumer.BatchRuntime

/-! The invocation of a single message's handler through its middlewares, and the
middlewares that hand a context of their own on and return what next returned. -/

namespace Gomessenger.Middleware

open Messenger (Metadata Message invalidMessage sampleMetadata)
open BatchRuntime (BatchMiddleware BatchHandler BatchResult Outcome handlerCompletionError
  handlerPanicText)

inductive Adapter
  | kafka
  | nats
  deriving DecidableEq, Repr

def Adapter.component : Adapter → String
  | .kafka => "messenger/kafka"
  | .nats => "messenger/nats"

inductive Ending (P : Type)
  | returned (err : Option GoError)
  | panicked (value : P)

inductive Code (W C P : Type)
  | done (world : W) (ending : Ending P)
  | call (world : W) (ctx : Option C) (resume : W → Ending P → Code W C P)

abbrev MiddlewareFunc (W C P : Type) := W → C → Metadata → String → Code W C P

abbrev HandlerFunc (W C P : Type) := W → C → W × Ending P

structure Captured (W C : Type) where
  world : W
  handlerCtx : Option C

section Invoke

variable {W C P : Type} (ctxErr : W → C → Option GoError)

def runCode (wrapped : Option C → Captured W C → Captured W C × Ending P) :
    Code W C P → Bool → Captured W C → Captured W C × Ending P
  | .done world ending, _, state => ({ state with world }, ending)
  | .call world ctx resume, called, state =>
    if called then
      runCode wrapped (resume world (.returned
        (some (invalidMessage "middleware called next more than once")))) true
        { state with world }
    else
      let answered := wrapped ctx { state with world }
      runCode wrapped (resume answered.1.world answered.2) true answered.1

def invokeFrom (metadata : Metadata) (handlerID : String) (handler : HandlerFunc W C P) :
    List (MiddlewareFunc W C P) → Option C → Captured W C → Captured W C × Ending P
  | _, none, state => (state, .returned (some (invalidMessage "middleware supplied a nil context")))
  | [], some current, state =>
    match handler state.world current with
    | (world, .panicked value) => (⟨world, some current⟩, .panicked value)
    | (world, .returned err) =>
      (⟨world, some current⟩, .returned (handlerCompletionError ctxErr world current err))
  | middleware :: rest, some current, state =>
    runCode (invokeFrom metadata handlerID handler rest)
      (middleware state.world current metadata handlerID) false state

/-- `invokeMiddlewares` of the two adapters; a panic reporter only sees the panic. -/
def invokeMiddlewares (adapter : Adapter) (world : W) (ctx : Option C) (metadata : Metadata)
    (handlerID : String) (handler : HandlerFunc W C P) (middlewares : List (MiddlewareFunc W C P)) :
    Option GoError :=
  match invokeFrom ctxErr metadata handlerID handler middlewares ctx ⟨world, none⟩ with
  | (_, .panicked _) => some (.text (handlerPanicText adapter.component handlerID))
  | (_, .returned (some err)) => some err
  | (state, .returned none) => state.handlerCtx.bind (ctxErr state.world)

end Invoke

/-- What a middleware does around its one call of next: the context it hands on,
and what it releases once next has returned. -/
structure Transparent (W C I O : Type) where
  enter : W → C → I → String → W × C
  leave : W → C → I → String → W → O → W

namespace Transparent

variable {W C I O P T : Type}

def batch (around : Transparent W C (List Metadata) (Outcome P)) : BatchMiddleware W C P :=
  fun world ctx metadata handlerID =>
    match ctx with
    | none => .call world none .done
    | some ctx =>
      let entered := around.enter world ctx metadata handlerID
      .call entered.1 (some entered.2)
        (fun answered outcome => .done (around.leave world ctx metadata handlerID answered outcome)
          outcome)

def single (around : Transparent W C Metadata (Ending P)) : MiddlewareFunc W C P :=
  fun world ctx metadata handlerID =>
    let entered := around.enter world ctx metadata handlerID
    .call entered.1 (some entered.2)
      (fun answered ending => .done (around.leave world ctx metadata handlerID answered ending)
        ending)

def inward (info : I) (handlerID : String) : List (Transparent W C I O) → W → C → W × C
  | [], world, ctx => (world, ctx)
  | around :: rest, world, ctx =>
    let entered := around.enter world ctx info handlerID
    inward info handlerID rest entered.1 entered.2

def outward (info : I) (handlerID : String) (handled : W) (outcome : O) :
    List (Transparent W C I O) → W → C → W
  | [], _, _ => handled
  | around :: rest, world, ctx =>
    let entered := around.enter world ctx info handlerID
    around.leave world ctx info handlerID
      (outward info handlerID handled outcome rest entered.1 entered.2) outcome

variable (ctxErr : W → C → Option GoError)

theorem chain_batch (handler : BatchHandler W C P T) (messages : List (Message T))
    (handlerID : String) (arounds : List (Transparent W C (List Metadata) (Outcome P))) (ctx : C)
    (state : BatchRuntime.Captured W C P) :
    let arrival := inward (messages.map Message.metadata) handlerID arounds state.world ctx
    let ended := BatchRuntime.terminal ctxErr handler messages (some arrival.2)
      { state with world := arrival.1 }
    let left := outward (messages.map Message.metadata) handlerID ended.1.world
      ended.2 arounds state.world ctx
    BatchRuntime.chain ctxErr handler messages handlerID (arounds.map batch) (some ctx) state =
      ({ ended.1 with world := left }, ended.2) := by
  induction arounds generalizing ctx state with
  | nil => rfl
  | cons around rest ih =>
    simp only [List.map_cons, BatchRuntime.chain, batch, BatchRuntime.runBody,
      if_neg Bool.false_ne_true]
    rw [ih]
    rfl

theorem invokeFrom_single (metadata : Metadata) (handlerID : String) (handler : HandlerFunc W C P)
    (arounds : List (Transparent W C Metadata (Ending P))) (ctx : C) (state : Captured W C) :
    let arrival := inward metadata handlerID arounds state.world ctx
    let ended := invokeFrom ctxErr metadata handlerID handler [] (some arrival.2)
      { state with world := arrival.1 }
    let left := outward metadata handlerID ended.1.world ended.2 arounds state.world ctx
    invokeFrom ctxErr metadata handlerID handler (arounds.map single) (some ctx) state =
      ({ ended.1 with world := left }, ended.2) := by
  induction arounds generalizing ctx state with
  | nil => rfl
  | cons around rest ih =>
    simp only [List.map_cons, invokeFrom, single, runCode, if_neg Bool.false_ne_true]
    rw [ih]
    rfl

theorem presentMiddlewares_some (middlewares : List (BatchMiddleware W C P)) :
    BatchRuntime.presentMiddlewares (middlewares.map some) = .ok middlewares := by
  induction middlewares with
  | nil => rfl
  | cons middleware rest ih => simp [BatchRuntime.presentMiddlewares, ih]

theorem finish_succeeded (handlerID : String) (world : W) (ctx : C)
    (runs : List (BatchRuntime.Run C P)) (result : BatchResult) :
    BatchRuntime.finish ctxErr handlerID ⟨world, some ctx, none, runs⟩ (.returned result none) =
      if (ctxErr world ctx).isSome then ([], ctxErr world ctx) else (result, none) := by
  simp only [BatchRuntime.finish, Option.bind_some]
  cases ctxErr world ctx <;> rfl

theorem invoke_batch (world : W) (ctx : C) (messages : List (Message T)) (handlerID : String)
    (named : handlerID ≠ "") (handler : BatchHandler W C P T)
    (arounds : List (Transparent W C (List Metadata) (Outcome P)))
    {handled : W} {result : BatchResult}
    (succeeded : let arrival := inward (messages.map Message.metadata) handlerID arounds world ctx
      handler arrival.1 arrival.2 messages = (handled, .returned result none) ∧
        ctxErr handled arrival.2 = none) :
    let invoked := BatchRuntime.invoke ctxErr world (some ctx) messages handlerID (some handler)
      (arounds.map (some ∘ batch))
    let late := ctxErr
      (outward (messages.map Message.metadata) handlerID handled
        (.returned result none) arounds world ctx)
      (inward (messages.map Message.metadata) handlerID arounds world ctx).2
    (invoked.result, invoked.err) = if late.isSome then ([], late) else (result, none) := by
  intro invoked late
  have present := presentMiddlewares_some (arounds.map batch)
  rw [List.map_map] at present
  have isInvoked : invoked = BatchRuntime.invokeChain ctxErr world ctx messages handlerID handler
      (arounds.map batch) := by
    simp only [invoked, BatchRuntime.invoke, if_neg named, present]
  rw [isInvoked]
  simp only [BatchRuntime.invokeChain, chain_batch, BatchRuntime.terminal, succeeded.1,
    handlerCompletionError, succeeded.2, Option.isSome_none,
    Bool.false_eq_true, false_and, if_false]
  exact finish_succeeded ctxErr handlerID _ _ _ result

theorem invokeMiddlewares_single (adapter : Adapter) (world : W) (ctx : C) (metadata : Metadata)
    (handlerID : String) (handler : HandlerFunc W C P)
    (arounds : List (Transparent W C Metadata (Ending P))) {handled : W}
    (succeeded : let arrival := inward metadata handlerID arounds world ctx
      handler arrival.1 arrival.2 = (handled, .returned none) ∧ ctxErr handled arrival.2 = none) :
    invokeMiddlewares ctxErr adapter world (some ctx) metadata handlerID handler
        (arounds.map single) =
      ctxErr (outward metadata handlerID handled (.returned none) arounds world ctx)
        (inward metadata handlerID arounds world ctx).2 := by
  simp [invokeMiddlewares, invokeFrom_single, invokeFrom, succeeded.1,
    handlerCompletionError, succeeded.2]

/-- Where a handler succeeds with a live context behind such middlewares, its
success comes through exactly if its context is live once they have returned. -/
theorem transparent_invocations_iff (world : W) (ctx : C) (handlerID : String)
    (named : handlerID ≠ "") :
    (∀ (messages : List (Message T)) (handler : BatchHandler W C P T)
      (arounds : List (Transparent W C (List Metadata) (Outcome P)))
      (handled : W) (result : BatchResult),
      let arrival := inward (messages.map Message.metadata) handlerID arounds world ctx
      handler arrival.1 arrival.2 messages = (handled, .returned result none) →
      ctxErr handled arrival.2 = none →
      let invoked := BatchRuntime.invoke ctxErr world (some ctx) messages handlerID (some handler)
        (arounds.map (some ∘ batch))
      (invoked.result = result ∧ invoked.err = none) ↔
        ctxErr (outward (messages.map Message.metadata) handlerID handled (.returned result none)
          arounds world ctx) arrival.2 = none) ∧
    (∀ (adapter : Adapter) (metadata : Metadata) (handler : HandlerFunc W C P)
      (arounds : List (Transparent W C Metadata (Ending P))) (handled : W),
      let arrival := inward metadata handlerID arounds world ctx
      handler arrival.1 arrival.2 = (handled, .returned none) →
      ctxErr handled arrival.2 = none →
      (invokeMiddlewares ctxErr adapter world (some ctx) metadata handlerID handler
          (arounds.map single) = none ↔
        ctxErr (outward metadata handlerID handled (.returned none) arounds world ctx)
          arrival.2 = none)) := by
  constructor
  · intro messages handler arounds handled result arrival succeeded live invoked
    have returned := invoke_batch ctxErr world ctx messages handlerID named handler
      arounds ⟨succeeded, live⟩
    rw [← Prod.mk.injEq, returned]
    split_ifs with released
    · obtain ⟨err, isErr⟩ := Option.isSome_iff_exists.mp released
      simp [arrival, isErr]
    · simpa only [true_iff, Option.isSome_iff_ne_none, not_not] using released
  · intro adapter metadata handler arounds handled arrival succeeded live
    rw [invokeMiddlewares_single ctxErr adapter world ctx metadata handlerID handler
      arounds ⟨succeeded, live⟩]

/-- Two contexts: the delivery's own, and one that a middleware derives from it.
The world says which of them are cancelled. -/
inductive TestCtx
  | delivery
  | derived
  deriving DecidableEq

abbrev Cancelled := List TestCtx

def canceled (cancelled : Cancelled) (ctx : TestCtx) : Option GoError :=
  if ctx ∈ cancelled then some (.text "context canceled") else none

/-- `ctx, cancel := context.WithTimeout(ctx, limit); defer cancel(); return next(ctx)`. -/
def timeout {I O : Type} : Transparent Cancelled TestCtx I O :=
  ⟨fun cancelled _ _ _ => (cancelled, .derived), fun _ _ _ _ cancelled _ => .derived :: cancelled⟩

def unreleased {I O : Type} : Transparent Cancelled TestCtx I O :=
  ⟨fun cancelled _ _ _ => (cancelled, .derived), fun _ _ _ _ cancelled _ => cancelled⟩

def succeeding : BatchHandler Cancelled TestCtx Unit Unit :=
    fun cancelled _ _ => (cancelled, .returned [] none)

def succeedingSingle : HandlerFunc Cancelled TestCtx Unit :=
    fun cancelled _ => (cancelled, .returned none)

theorem transparent_invocations_iff_unreleased :
    (let invoked := BatchRuntime.invoke canceled [] (some .delivery) [] "billing" (some succeeding)
      [some unreleased.batch, some unreleased.batch]
    invoked.result = [] ∧ invoked.err = none) ∧
    invokeMiddlewares canceled .kafka [] (some .delivery) sampleMetadata "billing" succeedingSingle
      [unreleased.single, unreleased.single] = none := by
  have decided := @transparent_invocations_iff Cancelled TestCtx Unit Unit canceled []
    .delivery "billing" (by decide)
  constructor
  · exact (decided.1 [] succeeding [unreleased, unreleased] [] [] rfl rfl).mpr rfl
  · exact (decided.2 .kafka sampleMetadata succeedingSingle [unreleased, unreleased] [] rfl
      rfl).mpr rfl

theorem released_timeout_fails_delivery :
    (let invoked := BatchRuntime.invoke canceled [] (some .delivery) [] "billing"
      (some succeeding) [some timeout.batch]
    invoked.runs = [⟨.derived, .returned [] none⟩] ∧ canceled invoked.world .delivery = none ∧
      invoked.err = some (.text "context canceled")) ∧
    ∀ adapter, invokeMiddlewares canceled adapter [] (some .delivery) sampleMetadata "billing"
      succeedingSingle [timeout.single] = some (.text "context canceled") :=
  ⟨⟨rfl, rfl, rfl⟩, fun _ => rfl⟩

end Transparent

end Gomessenger.Middleware
