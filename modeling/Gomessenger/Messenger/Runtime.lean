import Gomessenger.Consumer.BatchRuntime
import Gomessenger.Lib.ThreadPool

/-! The runtime that supervises a set of services.

Calls of Run, BeginDrain, Shutdown and the health checks are threads over the
fields of the runtime. A section under the mutex and the body of a `sync.Once`
are one step each. The log keeps what was called and closed, in order. -/

namespace Gomessenger.Runtime

open BatchRuntime (handlerPanicError)
open Messenger (invalidMessage)

inductive RuntimeState
  | new
  | running
  | draining
  | closed
  deriving DecidableEq, Repr

def RuntimeState.rank : RuntimeState → Nat
  | .new => 0
  | .running => 1
  | .draining => 2
  | .closed => 3

inductive Event
  | runBody
  | drainBegan
  | beginDrain (service : Nat)
  | shutdownServices
  | stored (err : Option GoError)
  | doneClosed
  deriving DecidableEq

/-- The runtime's fields. The flags for the channels say that they are closed. -/
structure Shared where
  state : RuntimeState
  runCancel : Bool
  runContextErr : Option GoError
  shutdownStarted : Bool
  shutdownErr : Option GoError
  drainErr : Option GoError
  drain : Bool
  done : Bool
  log : List Event

def Shared.fresh : Shared := ⟨.new, false, none, false, none, none, false, false, []⟩

namespace Shared

def cancel (shared : Shared) : Shared :=
  { shared with runContextErr := shared.runContextErr <|> some (.sentinel .contextCanceled) }

def admitRun (shared : Shared) : Shared :=
  { shared with state := .running, runCancel := true, log := shared.log ++ [.runBody] }

def claim (shared : Shared) : Shared :=
  { shared with state := .draining, shutdownStarted := true, log := shared.log ++ [.drainBegan] }

def drainErrors (services : List String) (panics : List Bool) : Option GoError :=
  joinErrors (services.mapIdx (fun index id =>
    if panics.getD index false then some (handlerPanicError ("service." ++ id ++ ".begin_drain"))
      else none))

/-- The body of `drainOnce`. -/
def drainBody (services : List String) (panics : List Bool) (shared : Shared) : Shared :=
  let drainErr := drainErrors services panics
  let drained : Shared := { shared with
    state := if shared.state = .closed then .closed else .draining
    drainErr := drainErr
    drain := true
    log := shared.log ++ .drainBegan :: (List.range services.length).map .beginDrain }
  if drainErr.isSome && shared.runCancel then drained.cancel else drained

def fanOut (shared : Shared) : Shared := { shared with log := shared.log ++ [.shutdownServices] }

def store (err : Option GoError) (shared : Shared) : Shared :=
  { shared with shutdownErr := err, log := shared.log ++ [.stored err] }

def close (shared : Shared) : Shared := { shared with state := .closed }

def closeDone (shared : Shared) : Shared :=
  if shared.done then shared else { shared with done := true, log := shared.log ++ [.doneClosed] }

end Shared

inductive Ended
  | pending
  | returned (err : Option GoError)
  | panicked

inductive Answer
  | go
  | contextDone (err : GoError)
  | drained
  | received
  | workersDone
  | doneClosed
  | panics (services : List Bool)
  | serviceReturns (service : Nat) (err : Option GoError)
  | serviceFinishes (service : Nat)
  | shutdowns (ended : List Ended) (expired : Option GoError)
  | checked (err : Option GoError)

/-! ### The end of a lifecycle -/

def shutdownErrors (services : List String) (ended : List Ended) : Option GoError :=
  joinErrors (services.mapIdx (fun index id =>
    match ended.getD index .pending with
    | .pending => none
    | .returned err => err.map (.wrap ("messenger: shutdown service " ++ id))
    | .panicked => some (handlerPanicError ("service." ++ id ++ ".shutdown"))))

def Ended.isPending : Ended → Bool
  | .pending => true
  | .returned _ => false
  | .panicked => false

def shutdownServices (services : List String) (ended : List Ended) :
    Option GoError → Option (Option GoError)
  | some ctxErr =>
    some (joinErrors [shutdownErrors services ended,
      some (.wrap "messenger: service shutdown exceeded deadline" ctxErr)])
  | none =>
    if (List.range services.length).all (fun index => !(ended.getD index .pending).isPending) then
      some (shutdownErrors services ended)
    else none

inductive Finish
  | fanOut (before : Option GoError)
  | fannedOut (before : Option GoError)
  | storing (err : Option GoError)
  | closing (err : Option GoError)
  | closingDone (err : Option GoError)
  | finished (err : Option GoError)

def Finish.advance (services : List String) (ofRun : Bool) (shared : Shared) :
    Finish → Answer → Option (Shared × Finish)
  | .fanOut before, .go => some (shared.fanOut, .fannedOut before)
  | .fannedOut before, .shutdowns ended expired =>
    (shutdownServices services ended expired).map (fun err =>
      (if ofRun then shared.cancel else shared, .storing (joinErrors [before, err])))
  | .storing err, .go => some (shared.store err, .closing err)
  | .closing err, .go => some (shared.close, .closingDone err)
  | .closingDone err, .go => some (shared.closeDone, .finished err)
  | _, _ => none

/-! ### Run -/

inductive ServiceRun
  | working
  | sent (err : Option GoError)
  | finished (err : Option GoError)

def ServiceRun.returned : ServiceRun → Bool
  | .working => false
  | .sent _ => true
  | .finished _ => true

def ServiceRun.isFinished : ServiceRun → Bool
  | .working => false
  | .sent _ => false
  | .finished _ => true

structure ServiceResult where
  service : Nat
  err : Option GoError

structure Examined where
  result : ServiceResult
  draining : Bool
  contextErr : Option GoError

/-- Run's variables, with what it has examined and whether every service had
returned when it stopped waiting for them. -/
structure RunData where
  services : List ServiceRun
  results : List ServiceResult
  runErr : Option GoError
  gracefulDrain : Bool
  examined : List Examined
  inTime : Bool

def RunData.start (services : List String) : RunData :=
  ⟨List.replicate services.length .working, [], none, false, [], false⟩

inductive RunPc
  | entering (hasCtx : Bool)
  | refused (err : GoError)
  | selecting
  | received (result : ServiceResult)
  | judging (result : ServiceResult) (draining : Bool)
  | suspecting (result : ServiceResult)
  | draining
  | drainRead
  | cancelling (needed : Bool)
  | waiting
  | collecting
  | finishing (finish : Finish)

def isExpectedContextDone (contextErr : Option GoError) (err : GoError) : Bool :=
  err.is .contextCanceled ||
    match contextErr with
    | none => false
    | some ctxErr => err.contains ctxErr

def unexpected (contextErr : Option GoError) : Option GoError → Option GoError
  | none => none
  | some err => if isExpectedContextDone contextErr err then none else some err

def serviceError (services : List String) (service : Nat) (gracefulDrain : Bool)
    (err : GoError) : GoError :=
  .wrap ("messenger: service " ++ services.getD service "" ++
    (if gracefulDrain then " during drain" else "")) err

def stoppedUnexpectedly (services : List String) (service : Nat) : GoError :=
  .text ("messenger: service " ++ services.getD service "" ++ " stopped unexpectedly")

def RunData.examine (data : RunData) (result : ServiceResult) (draining : Bool)
    (contextErr : Option GoError) :
    RunData :=
  { data with examined := data.examined ++ [⟨result, draining, contextErr⟩] }

def RunData.service (data : RunData) : Answer → Option RunData
  | .serviceReturns service err =>
    match data.services[service]? with
    | some .working =>
      some { data with
        services := data.services.set service (.sent err)
        results := data.results ++ [⟨service, err⟩] }
    | _ => none
  | .serviceFinishes service =>
    match data.services[service]? with
    | some (.sent err) => some { data with services := data.services.set service (.finished err) }
    | _ => none
  | _ => none

def runAdvance (services : List String) (shared : Shared) (data : RunData) :
    RunPc → Answer → Option (Shared × RunPc × RunData)
  | .entering false, .go => some (shared, .refused (invalidMessage "nil context"), data)
  | .entering true, .go =>
    match shared.state with
    | .running => some (shared, .refused (.sentinel .runtimeRunning), data)
    | .draining => some (shared, .refused (.sentinel .runtimeRunning), data)
    | .closed => some (shared, .refused (.sentinel .runtimeClosed), data)
    | .new => some (shared.admitRun, .selecting, .start services)
  | .selecting, .contextDone _ =>
    if shared.runContextErr.isSome then some (shared, .draining, data) else none
  | .selecting, .drained =>
    if shared.drain then some (shared, .draining, { data with gracefulDrain := true }) else none
  | .selecting, .received =>
    match data.results with
    | [] => none
    | result :: rest => some (shared, .received result, { data with results := rest })
  | .received result, .go =>
    some (shared, .judging result (decide (shared.state = .draining)), data)
  | .judging result true, .go =>
    let examined := data.examine result true shared.runContextErr
    some (shared, .draining, { examined with
      gracefulDrain := true
      runErr := (unexpected shared.runContextErr result.err).map
        (serviceError services result.service true) })
  | .judging result false, .go =>
    match unexpected shared.runContextErr result.err with
    | none => some (shared, .suspecting result, data)
    | some err =>
      some (shared, .draining, { data.examine result false shared.runContextErr with
        runErr := some (serviceError services result.service false err) })
  -- A service that returns while nothing has told it to stop has stopped unexpectedly.
  | .suspecting result, .go =>
    let examined := data.examine result false shared.runContextErr
    if shared.runContextErr.isNone then
      some (shared, .draining,
        { examined with runErr := some (stoppedUnexpectedly services result.service) })
    else some (shared, .draining, examined)
  | .draining, .panics panics =>
    some (if shared.drain then shared else shared.drainBody services panics, .drainRead, data)
  | .drainRead, .go =>
    if shared.drainErr.isSome then
      some (shared, .cancelling true,
        { data with runErr := joinErrors [data.runErr, shared.drainErr] })
    else some (shared, .cancelling (!data.gracefulDrain), data)
  | .cancelling needed, .go => some (if needed then shared.cancel else shared, .waiting, data)
  | .waiting, .workersDone =>
    if data.services.all ServiceRun.isFinished then
      some (shared, .collecting, { data with inTime := true })
    else none
  -- The timeout has passed: the services are cancelled, and what has arrived is collected.
  | .waiting, .contextDone ctxErr =>
    some (shared.cancel, .collecting, { data with
      inTime := data.services.all ServiceRun.returned
      runErr := joinErrors [data.runErr,
        some (.wrap "messenger: services did not stop within shutdown timeout" ctxErr)] })
  | .collecting, .go =>
    match data.results with
    | [] => some (shared, .finishing (.fanOut data.runErr), data)
    | result :: rest =>
      let examined := data.examine result shared.drain shared.runContextErr
      match unexpected shared.runContextErr result.err with
      | none => some (shared, .collecting, { examined with results := rest })
      | some err =>
        some (shared, .collecting, { examined with
          results := rest
          runErr := joinErrors [data.runErr,
            some (serviceError services result.service data.gracefulDrain err)] })
  | .finishing finish, answer =>
    match finish.advance services true shared answer with
    | some (next, moved) => some (next, .finishing moved, data)
    | none => (data.service answer).map (fun data => (shared, .finishing finish, data))
  -- The goroutines of the services run beside the owner at every place.
  | pc, answer => (data.service answer).map (fun data => (shared, pc, data))

/-! ### Shutdown -/

/-- What a Shutdown call returns: the error of its own context, or what the
owner of the lifecycle stored. -/
inductive ShutdownAnswer
  | nilContext
  | context (err : GoError)
  | final (err : Option GoError)

inductive ShutdownPc
  | entering (hasCtx : Bool)
  | waitingOwned
  | draining (owner : Bool)
  | drainRead (owner : Bool)
  | waitingRun
  | reading
  | finishing (finish : Finish)
  | returned (answer : ShutdownAnswer)

def shutdownAdvance (services : List String) (shared : Shared) :
    ShutdownPc → Answer → Option (Shared × ShutdownPc)
  | .entering false, .go => some (shared, .returned .nilContext)
  | .entering true, .go =>
    if shared.state = .closed then some (shared, .returned (.final shared.shutdownErr))
    else if shared.runCancel then some (shared, .draining false)
    else if shared.shutdownStarted then some (shared, .waitingOwned)
    else some (shared.claim, .draining true)
  | .waitingOwned, .doneClosed => if shared.done then some (shared, .reading) else none
  | .waitingOwned, .contextDone err => some (shared, .returned (.context err))
  | .draining owner, .panics panics =>
    some (if shared.drain then shared else shared.drainBody services panics, .drainRead owner)
  | .drainRead true, .go => some (shared, .finishing (.fanOut shared.drainErr))
  | .drainRead false, .go => some (shared, .waitingRun)
  | .waitingRun, .doneClosed => if shared.done then some (shared, .reading) else none
  | .waitingRun, .contextDone err => some (shared.cancel, .returned (.context err))
  | .reading, .go => some (shared, .returned (.final shared.shutdownErr))
  | .finishing (.finished err), .go => some (shared, .returned (.final err))
  | .finishing finish, answer =>
    (finish.advance services false shared answer).map (fun next => (next.1, .finishing next.2))
  | _, _ => none

/-! ### Health checks and BeginDrain -/

def healthStateError (liveness : Bool) : RuntimeState → Option GoError
  | .running => none
  | .draining => if liveness then none else some (.sentinel .runtimeNotRunning)
  | .closed => some (.sentinel (if liveness then .runtimeClosed else .runtimeNotRunning))
  | .new => some (.sentinel .runtimeNotRunning)

inductive HealthPc
  | entering (hasCtx : Bool)
  | checking
  | rechecking (err : Option GoError)
  | returned (err : Option GoError) (drainBegan : Bool)

def healthAdvance (liveness : Bool) (shared : Shared) : HealthPc → Answer → Option HealthPc
  | .entering false, .go => some (.returned (some (invalidMessage "nil context")) false)
  | .entering true, .go =>
    match healthStateError liveness shared.state with
    | some err => some (.returned (some err) (decide (.drainBegan ∈ shared.log)))
    | none => some .checking
  | .checking, .checked err => some (.rechecking err)
  | .rechecking err, .go =>
    some (.returned (joinErrors [err, healthStateError liveness shared.state])
      (decide (.drainBegan ∈ shared.log)))
  | _, _ => none

/-! ### The calls together -/

/-- Readiness and DeepHealth are checks that are not about liveness. -/
inductive Call
  | run (hasCtx : Bool)
  | beginDrain
  | shutdown (hasCtx : Bool)
  | health (liveness : Bool) (hasCtx : Bool)

inductive Thread
  | run (pc : RunPc) (data : RunData)
  | beginDrain (returned : Bool)
  | shutdown (pc : ShutdownPc)
  | health (liveness : Bool) (pc : HealthPc)

def startCall : Call → Thread
  | .run hasCtx => .run (.entering hasCtx) ⟨[], [], none, false, [], false⟩
  | .beginDrain => .beginDrain false
  | .shutdown hasCtx => .shutdown (.entering hasCtx)
  | .health liveness hasCtx => .health liveness (.entering hasCtx)

def advance (services : List String) (shared : Shared) : Thread → Answer → Option (Shared × Thread)
  | .run pc data, answer =>
    (runAdvance services shared data pc answer).map (fun next => (next.1, .run next.2.1 next.2.2))
  | .beginDrain false, .panics panics =>
    some (if shared.drain then shared else shared.drainBody services panics, .beginDrain true)
  | .beginDrain _, _ => none
  | .shutdown pc, answer =>
    (shutdownAdvance services shared pc answer).map (fun next => (next.1, .shutdown next.2))
  | .health liveness pc, answer =>
    (healthAdvance liveness shared pc answer).map (fun pc => (shared, .health liveness pc))

def contextEnds (shared : Shared) (err : GoError) : Shared :=
  if shared.runCancel then { shared with runContextErr := shared.runContextErr <|> some err }
    else shared

def machine (services : List String) : ThreadPool.Machine Shared Thread Call Answer GoError :=
  ⟨startCall, advance services, contextEnds⟩

/-- The runtime after some moves of any number of calls. -/
def after (services : List String) (moves : List (ThreadPool.Move Call Answer GoError)) :
    ThreadPool.Pool Shared Thread :=
  (machine services).run ⟨.fresh, []⟩ moves

end Gomessenger.Runtime
