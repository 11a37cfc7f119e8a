import Mathlib.Logic.Relation
import Gomessenger.Consumer.Middleware
import Gomessenger.Messenger.Manifest

/-! The lineage of messages on local routes.

A context carries the metadata of the message being handled beside its other values.
A handler sends with the context it received, so that a message and the messages its
handlers send form a causal tree; `Causes` is an edge of it. -/

namespace Gomessenger.Messenger.Lineage

open Utf8 Rfc3339
open Middleware (Code Ending MiddlewareFunc HandlerFunc)
open BatchRuntime (handlerPanicError)

structure Context (V : Type) where
  metadata : Option Metadata
  values : V

def metadataFromContext {V : Type} (ctx : Context V) : Option Metadata := ctx.metadata

def contextWithMetadata {V : Type} (ctx : Context V) (metadata : Metadata) : Context V :=
  { ctx with metadata := some metadata }

structure OutgoingMetadata where
  id : MessageID
  subject : Bytes
  time : Stamp
  correlationID : MessageID
  causationID : MessageID
  key : Bytes
  headers : Headers
  notBefore : Stamp
  expiresAt : Stamp

section Send

variable {V : Type}

structure Sender (V : Type) where
  source : Bytes
  propagator : Option (Context V → Headers → Headers)

def completeMetadata (metadata : Metadata) : Bool :=
  metadata.id != 0 && metadata.correlationID != 0 && !metadata.time.isZero && metadata.kind.valid &&
    metadata.name != [] && decide (0 < metadata.schemaVersion.toInt) && metadata.source != [] &&
    metadata.contentType != []

def validateMetadata (metadata : Metadata) : Except GoError Unit :=
  if completeMetadata metadata = false then .error (invalidMessage "incomplete metadata")
  else if metadata.notBefore.isZero = false ∧ metadata.expiresAt.isZero = false ∧
      ¬metadata.notBefore.nanos < metadata.expiresAt.nanos then
    .error (invalidMessage "expiresAt must follow notBefore")
  else validateHeaders metadata.headers

def correlationOf (parent : Option Metadata) (outgoing : OutgoingMetadata)
    (id : MessageID) : MessageID :=
  let inherited :=
    match parent with
    | some parent =>
      if outgoing.correlationID = 0 then if parent.correlationID = 0 then parent.id
        else parent.correlationID
      else outgoing.correlationID
    | none => outgoing.correlationID
  if inherited = 0 then id else inherited

def causationOf (parent : Option Metadata) (outgoing : OutgoingMetadata) : MessageID :=
  match parent with
  | some parent => if outgoing.causationID = 0 then parent.id else outgoing.causationID
  | none => outgoing.causationID

/-- `now` is the clock's reading and `generated` the identity generator's answer. -/
def newMetadata (sender : Sender V) (now : Stamp)
    (generated : Except GoError MessageID) (ctx : Context V)
    (info : DescriptorInfo) (outgoing : OutgoingMetadata) : Except GoError Metadata :=
  match if outgoing.id = 0 then generated else .ok outgoing.id with
  | .error err => .error err
  | .ok id =>
    let metadata : Metadata :=
      { id
        kind := info.kind
        name := info.name
        schemaVersion := info.schemaVersion
        source := sender.source
        subject := outgoing.subject
        time := (if outgoing.time.isZero then now else outgoing.time).utc
        correlationID := correlationOf (metadataFromContext ctx) outgoing id
        causationID := causationOf (metadataFromContext ctx) outgoing
        key := outgoing.key
        contentType := info.contentType
        schema := info.schema
        headers :=
          match sender.propagator with
          | none => outgoing.headers
          | some inject => inject ctx outgoing.headers
        notBefore := utcOrZero outgoing.notBefore
        expiresAt := utcOrZero outgoing.expiresAt }
    match validateMetadata metadata with
    | .error err => .error err
    | .ok () => .ok metadata

variable {metadata : Metadata}

theorem validateMetadata_ids (valid : validateMetadata metadata = .ok ()) :
    metadata.id ≠ 0 ∧ metadata.correlationID ≠ 0 := by
  unfold validateMetadata at valid
  split_ifs at valid with incomplete
  rw [Bool.not_eq_false] at incomplete
  simp only [completeMetadata, Bool.and_eq_true, bne_iff_ne] at incomplete
  tauto

theorem newMetadata_ids {sender : Sender V} {now : Stamp} {generated : Except GoError MessageID}
    {ctx : Context V} {info : DescriptorInfo} {outgoing : OutgoingMetadata}
    (made : newMetadata sender now generated ctx info outgoing = .ok metadata) :
    (metadata.id ≠ 0 ∧ metadata.correlationID ≠ 0) ∧
      metadata.correlationID = correlationOf (metadataFromContext ctx) outgoing metadata.id ∧
      metadata.causationID = causationOf (metadataFromContext ctx) outgoing := by
  unfold newMetadata at made
  split at made
  · cases made
  · simp only at made
    split at made
    · cases made
    next valid =>
      cases made
      exact ⟨validateMetadata_ids valid, rfl, rfl⟩

end Send

section Invoke

variable {W V P : Type}

structure Trace (W V : Type) where
  world : W
  calls : List (Context V)

def runCode (next : Option (Context V) → Trace W V → Trace W V × Ending P) :
    Code W (Context V) P → Bool → Trace W V → Trace W V × Ending P
  | .done world ending, _, trace => ({ trace with world }, ending)
  | .call world ctx resume, called, trace =>
    if called then
      runCode next (resume world (.returned
        (some (invalidMessage "middleware called next more than once")))) true
        { trace with world }
    else
      let answered := next ctx { trace with world }
      runCode next (resume answered.1.world answered.2) true answered.1

def callHandler (handler : HandlerFunc W (Context V) P) (ctx : Context V)
    (trace : Trace W V) : Trace W V × Ending P :=
  (⟨(handler trace.world ctx).1, trace.calls ++ [ctx]⟩, (handler trace.world ctx).2)

def invoke (metadata : Metadata) (handlerID : String) (handler : HandlerFunc W (Context V) P) :
    List (MiddlewareFunc W (Context V) P) → Option (Context V) → Trace W V → Trace W V × Ending P
  | _, none, trace => (trace, .returned (some (invalidMessage "middleware supplied a nil context")))
  | [], some current, trace => callHandler handler (contextWithMetadata current metadata) trace
  | middleware :: rest, some current, trace =>
    runCode (invoke metadata handlerID handler rest)
      (middleware trace.world current metadata handlerID) false trace

def invokeMiddleware (ctx : Context V) (metadata : Metadata) (handlerID : String)
    (handler : HandlerFunc W (Context V) P)
    (middlewares : List (MiddlewareFunc W (Context V) P)) (world : W) :
    Trace W V × Option GoError :=
  let ended :=
    if middlewares.isEmpty then callHandler handler ctx ⟨world, []⟩
    else invoke metadata handlerID handler middlewares (some ctx) ⟨world, []⟩
  (ended.1,
    match ended.2 with
    | .panicked _ => some (handlerPanicError handlerID)
    | .returned err => err)

def Own (metadata : Metadata) (calls : List (Context V)) : Prop :=
  calls.length ≤ 1 ∧ ∀ ctx ∈ calls, metadataFromContext ctx = some metadata

def Adds (metadata : Metadata) (before after : Trace W V) : Prop :=
  ∃ calls, after.calls = before.calls ++ calls ∧ Own metadata calls

theorem Own.nil (metadata : Metadata) : Own (V := V) metadata [] :=
    ⟨Nat.zero_le _, fun _ none => nomatch none⟩

theorem Adds.of_eq (metadata : Metadata) {before after : Trace W V}
    (same : after.calls = before.calls) :
    Adds metadata before after :=
  ⟨[], by rw [same, List.append_nil], .nil metadata⟩

variable {metadata : Metadata}

variable {ctx : Context V}

theorem callHandler_adds (handler : HandlerFunc W (Context V) P)
    (own : metadataFromContext ctx = some metadata) (trace : Trace W V) :
    Adds metadata trace (callHandler handler ctx trace).1 := by
  refine ⟨[ctx], rfl, Nat.le_refl _, fun received member => ?_⟩
  rw [List.mem_singleton.mp member, own]

theorem runCode_called (next : Option (Context V) → Trace W V → Trace W V × Ending P)
    (code : Code W (Context V) P)
    (trace : Trace W V) : (runCode next code true trace).1.calls = trace.calls := by
  induction code generalizing trace with
  | done world ending => rfl
  | call world ctx resume ih => exact ih _ _ { trace with world }

theorem runCode_adds {next : Option (Context V) → Trace W V → Trace W V × Ending P}
    (adds : ∀ ctx trace, Adds metadata trace (next ctx trace).1)
    (code : Code W (Context V) P) (trace : Trace W V) :
    Adds metadata trace (runCode next code false trace).1 := by
  cases code with
  | done world ending => exact .of_eq metadata rfl
  | call world ctx resume =>
    obtain ⟨calls, added, own⟩ := adds ctx { trace with world }
    refine ⟨calls, ?_, own⟩
    rw [← added]
    exact runCode_called next _ _

theorem invoke_adds (metadata : Metadata) (handlerID : String)
    (handler : HandlerFunc W (Context V) P) (middlewares : List (MiddlewareFunc W (Context V) P))
    (ctx : Option (Context V)) (trace : Trace W V) :
    Adds metadata trace (invoke metadata handlerID handler middlewares ctx trace).1 := by
  induction middlewares generalizing ctx trace with
  | nil =>
    cases ctx with
    | none => exact .of_eq metadata rfl
    | some current => exact callHandler_adds handler rfl trace
  | cons middleware rest ih =>
    cases ctx with
    | none => exact .of_eq metadata rfl
    | some current => exact runCode_adds ih _ trace

theorem invokeMiddleware_own (own : metadataFromContext ctx = some metadata) (handlerID : String)
    (handler : HandlerFunc W (Context V) P) (middlewares : List (MiddlewareFunc W (Context V) P))
    (world : W) :
    Own metadata (invokeMiddleware ctx metadata handlerID handler middlewares world).1.calls := by
  have adds : Adds metadata ⟨world, []⟩ (invokeMiddleware ctx metadata handlerID handler
      middlewares world).1 := by
    unfold invokeMiddleware
    simp only
    split_ifs
    · exact callHandler_adds handler own _
    · exact invoke_adds metadata handlerID handler middlewares (some ctx) _
  obtain ⟨calls, added, ownCalls⟩ := adds
  rw [added]
  exact ownCalls

structure Subscriber (W V P : Type) where
  id : String
  handler : Except GoError (HandlerFunc W (Context V) P)

inductive Binding (W V P : Type)
  | command (handler : Option (Subscriber W V P))
  | event (subscribers : List (Subscriber W V P))
  | query (handler : Subscriber W V P)

structure Invoked (W V : Type) where
  world : W
  calls : List (List (Context V))
  errs : List GoError

variable (middlewares : List (MiddlewareFunc W (Context V) P)) (metadata : Metadata)

def invokeSubscribers (ctx : Context V) : List (Subscriber W V P) → W → Invoked W V
  | [], world => ⟨world, [], []⟩
  | subscriber :: rest, world =>
    match subscriber.handler with
    | .error err =>
      let later := invokeSubscribers ctx rest world
      ⟨later.world, [] :: later.calls, err :: later.errs⟩
    | .ok handler =>
      let invoked := invokeMiddleware ctx metadata subscriber.id handler middlewares world
      let later := invokeSubscribers ctx rest invoked.1.world
      ⟨later.world, invoked.1.calls :: later.calls, invoked.2.toList ++ later.errs⟩

/-- `delivery.Invoke`, and `localQueryCallExecutor.Execute` for a query. -/
def Binding.invoke (binding : Binding W V P) (ctx : Context V) (world : W) : Invoked W V :=
  match binding with
  | .command none => ⟨world, [], [.wrap "command" errHandlerNotFound]⟩
  | .command (some handler) | .query handler =>
    invokeSubscribers middlewares metadata (contextWithMetadata ctx metadata) [handler] world
  | .event subscribers =>
    invokeSubscribers middlewares metadata (contextWithMetadata ctx metadata) subscribers world

def errMessageExpired : GoError := .text "messenger: message expired"

def errUnsupportedCapability : GoError := .text "messenger: unsupported route capability"

def errMessageNotReady : GoError := .text "messenger: message not ready"

def expired (now : Stamp) : Prop := metadata.expiresAt.isZero = false ∧
    ¬now.nanos < metadata.expiresAt.nanos

instance (now : Stamp) : Decidable (expired metadata now) := inferInstanceAs (Decidable (_ ∧ _))

def validateImmediateTiming (now : Stamp) : Except GoError Unit :=
  if expired metadata now then .error (.permanent errMessageExpired)
  else if metadata.notBefore.isZero = false ∧ now.nanos < metadata.notBefore.nanos then
    .error (.join "local routes cannot schedule delivery"
      errUnsupportedCapability errMessageNotReady)
  else .ok ()

/-- `localCallExecutor.Execute`; a query has no expiry check. -/
def Binding.execute (binding : Binding W V P) (now : Stamp) (ctx : Context V)
    (world : W) : Invoked W V :=
  match binding with
  | .query _ => binding.invoke middlewares metadata ctx world
  | _ =>
    if expired metadata now then ⟨world, [], [.permanent errMessageExpired]⟩
    else binding.invoke middlewares metadata ctx world

/-- The asynchronous route may not run, or its queue may not admit the call. -/
inductive LocalRoute
  | sync
  | async (notRunning admission : Option GoError)

/-- The bus runs an admitted call once with the caller's context values, which
`context.WithoutCancel` keeps; what it does not run leaves the world alone. -/
def LocalRoute.deliver (route : LocalRoute) (binding : Binding W V P) (now executedAt : Stamp)
    (ctx : Context V) (world : W) : Except GoError (Invoked W V) :=
  let run : Except GoError (Invoked W V) :=
    .ok (binding.execute middlewares metadata executedAt ctx world)
  match route, binding with
  | .sync, .query _ => run
  | .sync, .event [] => (validateImmediateTiming metadata now).map fun _ => ⟨world, [], []⟩
  | .sync, _ => (validateImmediateTiming metadata now).bind fun _ => run
  | .async (some err) _, _ => .error err
  | .async none admission, .query _ => admission.elim run .error
  | .async none admission, _ =>
    (validateImmediateTiming metadata now).bind fun _ => admission.elim run .error

theorem invokeSubscribers_own (own : metadataFromContext ctx = some metadata)
    (subscribers : List (Subscriber W V P)) (world : W) :
    ∀ calls ∈ (invokeSubscribers middlewares metadata ctx subscribers world).calls,
      Own metadata calls := by
  induction subscribers generalizing world with
  | nil => exact fun _ none => nomatch none
  | cons subscriber rest ih =>
    intro calls member
    unfold invokeSubscribers at member
    split at member
    · rcases List.mem_cons.mp member with rfl | later
      · exact .nil metadata
      · exact ih _ calls later
    · rcases List.mem_cons.mp member with rfl | later
      · exact invokeMiddleware_own own _ _ middlewares _
      · exact ih _ calls later

theorem Binding.invoke_own (binding : Binding W V P) (ctx : Context V) (world : W) :
    ∀ calls ∈ (binding.invoke middlewares metadata ctx world).calls, Own metadata calls := by
  unfold Binding.invoke
  split
  · exact fun _ none => nomatch none
  all_goals exact invokeSubscribers_own middlewares metadata rfl _ world

theorem Binding.execute_own (binding : Binding W V P) (now : Stamp) (ctx : Context V) (world : W) :
    ∀ calls ∈ (binding.execute middlewares metadata now ctx world).calls, Own metadata calls := by
  have invoked := binding.invoke_own middlewares metadata ctx world
  unfold Binding.execute
  split
  · exact invoked
  · split_ifs
    · exact fun _ none => nomatch none
    · exact invoked

theorem LocalRoute.deliver_own {route : LocalRoute} {binding : Binding W V P}
    {now executedAt : Stamp}
    {world : W} {invoked : Invoked W V}
    (delivered : route.deliver middlewares metadata binding now executedAt
      ctx world = .ok invoked) :
    ∀ calls ∈ invoked.calls, Own metadata calls := by
  have executed := binding.execute_own middlewares metadata executedAt ctx world
  have admitted : ∀ admission : Option GoError,
      admission.elim (.ok (binding.execute middlewares metadata executedAt ctx world))
        Except.error = .ok invoked →
        ∀ calls ∈ invoked.calls, Own metadata calls := by
    intro admission run
    cases admission with
    | none => cases run; exact executed
    | some err => cases run
  unfold LocalRoute.deliver at delivered
  simp only at delivered
  split at delivered
  · exact admitted none delivered
  · cases timing : validateImmediateTiming metadata now with
    | error err => rw [timing] at delivered; cases delivered
    | ok _ => rw [timing] at delivered; cases delivered; exact fun _ none => nomatch none
  · obtain ⟨_, _, run⟩ := Fallible.bind_ok.mp delivered
    exact admitted none run
  · cases delivered
  · exact admitted _ delivered
  · obtain ⟨_, _, run⟩ := Fallible.bind_ok.mp delivered
    exact admitted _ run

end Invoke

/-- A message is sent, without a correlation or causation of its own, inside a handler
of a local delivery of the parent and with the context that the handler received. -/
def Causes (W V P : Type) (parent child : Metadata) : Prop :=
  ∃ (route : LocalRoute) (binding : Binding W V P)
    (middlewares : List (MiddlewareFunc W (Context V) P))
    (submittedAt executedAt : Stamp) (ctx : Context V) (world : W) (invoked : Invoked W V),
    route.deliver middlewares parent binding submittedAt executedAt ctx world = .ok invoked ∧
      ∃ calls ∈ invoked.calls, ∃ received ∈ calls,
        ∃ (sender : Sender V) (now : Stamp)
          (generated : Except GoError MessageID) (info : DescriptorInfo)
          (outgoing : OutgoingMetadata),
          outgoing.correlationID = 0 ∧ outgoing.causationID = 0 ∧
            newMetadata sender now generated received info outgoing = .ok child

section Tree

variable {W V P : Type}

theorem Causes.ids {parent child : Metadata} (causes : Causes W V P parent child)
    (ids : parent.id ≠ 0 ∧ parent.correlationID ≠ 0) :
    (child.id ≠ 0 ∧ child.correlationID ≠ 0) ∧ child.correlationID = parent.correlationID ∧
      child.causationID = parent.id := by
  obtain ⟨route, binding, middlewares, _, _, _, _, invoked, delivered, calls, isCalls, received,
    isReceived, sender, now, generated, info, outgoing, noCorrelation, noCausation, made⟩ := causes
  have own :=
    (LocalRoute.deliver_own middlewares parent delivered calls isCalls).2 received isReceived
  obtain ⟨childIds, correlation, causation⟩ := newMetadata_ids made
  rw [own] at correlation causation
  simp only [correlationOf, noCorrelation, if_true, if_neg ids.2] at correlation
  simp only [causationOf, noCausation, if_true] at causation
  exact ⟨childIds, correlation, causation⟩

theorem descends_ids {root message : Metadata}
    (descends : Relation.ReflTransGen (Causes W V P) root message)
    (ids : root.id ≠ 0 ∧ root.correlationID ≠ 0) :
    (message.id ≠ 0 ∧ message.correlationID ≠ 0) ∧ message.correlationID = root.correlationID := by
  induction descends with
  | refl => exact ⟨ids, rfl⟩
  | tail _ causes ih =>
    obtain ⟨childIds, correlation, _⟩ := causes.ids ih.1
    exact ⟨childIds, correlation.trans ih.2⟩

/-- Below a message that the messenger has sent, every message carries the root's
correlation and its parent's identity, and every handler sees its own message. -/
theorem local_lineage_is_preserved (sender : Sender V) (now : Stamp)
    (generated : Except GoError MessageID) (ctx : Context V)
    (info : DescriptorInfo) (outgoing : OutgoingMetadata) (root message : Metadata)
    (sent : newMetadata sender now generated ctx info outgoing = .ok root)
    (descends : Relation.ReflTransGen (Causes W V P) root message) :
    message.correlationID = root.correlationID ∧
      (∀ child, Causes W V P message child → child.causationID = message.id) ∧
      ∀ (route : LocalRoute) (binding : Binding W V P)
    (middlewares : List (MiddlewareFunc W (Context V) P))
        (submittedAt executedAt : Stamp) (ctx : Context V) (world : W) (invoked : Invoked W V),
        route.deliver middlewares message binding submittedAt executedAt ctx world = .ok invoked →
          ∀ calls ∈ invoked.calls,
            calls.length ≤ 1 ∧ ∀ received ∈ calls, metadataFromContext received = some message := by
  obtain ⟨ids, correlation⟩ := descends_ids descends (newMetadata_ids sent).1
  refine ⟨correlation, fun child causes => (causes.ids ids).2.2, ?_⟩
  intro route binding middlewares _ _ _ _ invoked delivered
  exact route.deliver_own middlewares message delivered

def sampleMessage (id : MessageID) (parent : Option Metadata) : Metadata where
  id := id
  kind := .command
  name := [111]
  schemaVersion := 1
  source := [115]
  subject := []
  time := ⟨1, 0⟩
  correlationID := (parent.map Metadata.correlationID).getD id
  causationID := (parent.map Metadata.id).getD 0
  key := []
  contentType := [99]
  schema := []
  headers := .empty
  notBefore := .zero
  expiresAt := .zero

def sampleInfo : DescriptorInfo := ⟨.command, [111], 1, [99], .binary, []⟩

def sampleOutgoing : OutgoingMetadata := ⟨0, [], .zero, 0, 0, [], .empty, .zero, .zero⟩

/-- A middleware hands on a context with forged metadata and calls next a second time. -/
def forging : MiddlewareFunc Unit (Context Unit) Unit := fun _ _ _ _ =>
  .call () (some ⟨some (sampleMessage 99 none), ()⟩) fun _ _ =>
    .call () (some ⟨none, ()⟩) fun _ ending => .done () ending

theorem sampleMessage_causes : Causes Unit Unit Unit (sampleMessage 1 none)
    (sampleMessage 2 (some (sampleMessage 1 none))) :=
  ⟨.sync, .command (some ⟨"handler", .ok fun _ _ => ((), .returned none)⟩), [forging], ⟨1, 0⟩,
    ⟨1, 0⟩, ⟨none, ()⟩, (), _, rfl,
    _, .head _, ⟨some (sampleMessage 1 none), ()⟩, .head _, ⟨[115], none⟩, ⟨1, 0⟩, .ok 2,
    sampleInfo, sampleOutgoing,
    rfl, rfl, rfl⟩

theorem local_lineage_is_preserved_sample :
    newMetadata (V := Unit) ⟨[115], none⟩ ⟨1, 0⟩ (.ok 1) ⟨none, ()⟩ sampleInfo sampleOutgoing =
      .ok (sampleMessage 1 none) ∧
      (sampleMessage 2 (some (sampleMessage 1 none))).correlationID =
          (sampleMessage 1 none).correlationID :=
  ⟨rfl, (local_lineage_is_preserved (W := Unit) (P := Unit) ⟨[115], none⟩ ⟨1, 0⟩ (.ok 1)
    ⟨none, ()⟩ sampleInfo sampleOutgoing _ _ rfl (.single sampleMessage_causes)).1⟩

end Tree

end Gomessenger.Messenger.Lineage
