import Gomessenger.Inbox.BatchRun
import Gomessenger.Inbox.Retention

/-! The store: validation of the inputs, the choice of the backend, and runs of
calls, each one transaction that ends in one of the ways of `TxEnd`. -/

namespace Gomessenger.Inbox

open LocalAction

/-- The SQL backends; a PostgreSQL database brings its own text collation. -/
inductive Backend
  | pgsql (collation : Collation)
  | sqlite

section Store

variable {F : Type} [LinearOrder F] [Sha256 F]

namespace Backend

def collation : Backend → Collation
  | .pgsql collation => collation
  | .sqlite => .binary

def processAttempt (backend : Backend) (now : Readings) (tables : Tables F) (key : Key)
    (fingerprint : F) (maxAttempts : Nat) (outcome : Option GoError) : Call F Result :=
  match backend with
  | .pgsql _ => Pgsql.processAttempt now tables key fingerprint maxAttempts outcome
  | .sqlite => Sqlite.processAttempt now tables key fingerprint maxAttempts outcome

def processBatchAttempt (backend : Backend) (now : Readings) (tables : Tables F)
    (items : List (BatchItem F)) (maxAttempts : Nat) (handler : BatchHandler F) :
    Call F (BatchProcessResult F) :=
  match backend with
  | .pgsql _ => Pgsql.processBatchAttempt now tables items maxAttempts handler
  | .sqlite => Sqlite.processBatchAttempt now tables items maxAttempts handler

end Backend

def Key.plain (key : Key) : Key := { key with attemptGeneration := "" }

def validateItems (consumerID : String) (index : Nat) (generations : List (BatchItemKey × String)) :
    List (BatchItem F) → Option GoError
  | [] => none
  | item :: rest =>
    match validateKey item.key with
    | some err => some (.wrap ("inbox: batch item " ++ toString index) err)
    | none =>
      if item.key.consumerID ≠ consumerID then
        some (.wrap "mixed consumer IDs" (.sentinel .invalidKey))
      else match generations.lookup (batchKey item.key) with
        | some generation =>
          if generation ≠ item.key.attemptGeneration then
            some (mixedGenerations (batchKey item.key))
          else validateItems consumerID (index + 1) generations rest
        | none =>
          validateItems consumerID (index + 1) ((batchKey item.key,
            item.key.attemptGeneration) :: generations) rest

def pruneBounds (before : Time) (limit : Int) : Bool := before ≠ 0 && 0 < limit && limit ≤ 10000

namespace Store

def process (now : Readings) (tables : Tables F) (key : Key) (fingerprint : F)
    (outcome : Option GoError) : Call F Result :=
  match validateKey key with
  | some err => .rollback tables [] ⟨false, 0⟩ err
  | none => Inbox.process now tables key.plain fingerprint outcome

def processAttempt (backend : Backend) (now : Readings) (tables : Tables F) (key : Key)
    (fingerprint : F) (maxAttempts : Nat) (outcome : Option GoError) : Call F Result :=
  match validateKey key with
  | some err => .rollback tables [] ⟨false, 0⟩ err
  | none =>
    if maxAttempts = 0 then
      .rollback tables [] ⟨false, 0⟩ (.text "inbox: invalid handler attempt limit")
    else backend.processAttempt now tables key fingerprint maxAttempts outcome

def processBatchAttempt (backend : Backend) (now : Readings) (tables : Tables F)
    (items : List (BatchItem F)) (maxAttempts : Nat) (handler : BatchHandler F) :
    Call F (BatchProcessResult F) :=
  match items with
  | [] => .rollback tables [] noReport (.text "inbox: empty batch")
  | first :: _ =>
    if maxAttempts = 0 then
      .rollback tables [] noReport (.text "inbox: invalid batch handler attempt limit")
    else match validateItems first.key.consumerID 0 [] items with
      | some err => .rollback tables [] noReport err
      | none => backend.processBatchAttempt now tables items maxAttempts handler

def forgetAttempt (tables : Tables F) (key : Key) (fingerprint : F) : Call F Unit :=
  match validateKey key with
  | some err => .rollback tables [] () err
  | none => Inbox.forgetAttempt tables key fingerprint

def confirmTerminalHandoff (now : Readings) (tables : Tables F) (key : Key)
    (fingerprint : F) : Call F Unit :=
  match validateKey key with
  | some err => .rollback tables [] () err
  | none => Inbox.confirmTerminalHandoff now tables key fingerprint

def prune (backend : Backend) (tables : Tables F) (before : Time) (limit : Int) : Call F Nat :=
  if pruneBounds before limit then Inbox.prune backend.collation tables before limit.toNat
  else .rollback tables [] 0 (.text "inbox: invalid prune bounds")

def pruneTerminalAttempts (backend : Backend) (tables : Tables F) (before : Time)
    (limit : Int) : Call F Nat :=
  if pruneBounds before limit then
    Inbox.pruneTerminalAttempts backend.collation tables before limit.toNat
  else .rollback tables [] 0 (.text "inbox: invalid terminal prune bounds")

end Store

/-- One call of the store; `outcome` and `handler` are what the host's handler
does if it is invoked. -/
inductive Op (F : Type)
  | process (key : Key) (fingerprint : F) (outcome : Option GoError)
  | processAttempt (key : Key) (fingerprint : F) (maxAttempts : Nat) (outcome : Option GoError)
  | processBatchAttempt (items : List (BatchItem F)) (maxAttempts : Nat) (handler : BatchHandler F)
  | forgetAttempt (key : Key) (fingerprint : F)
  | confirmTerminalHandoff (key : Key) (fingerprint : F)
  | prune (before : Time) (limit : Int)
  | pruneTerminalAttempts (before : Time) (limit : Int)

inductive Reply (F : Type)
  | result (value : Result)
  | batch (value : BatchProcessResult F)
  | done
  | pruned (count : Nat)
  deriving DecidableEq

namespace Op

def items : Op F → List (BatchItem F)
  | .process key fingerprint _ => [⟨key.plain, fingerprint⟩]
  | .processAttempt key fingerprint _ _ => [⟨key, fingerprint⟩]
  | .processBatchAttempt items _ _ => items
  | .forgetAttempt key fingerprint => [⟨key, fingerprint⟩]
  | .confirmTerminalHandoff key fingerprint => [⟨key, fingerprint⟩]
  | .prune _ _ => []
  | .pruneTerminalAttempts _ _ => []

def limit : Op F → Option Nat
  | .processAttempt _ _ maxAttempts _ => some maxAttempts
  | .processBatchAttempt _ maxAttempts _ => some maxAttempts
  | _ => none

def noReply : Op F → Reply F
  | .process _ _ _ => .result ⟨false, 0⟩
  | .processAttempt _ _ _ _ => .result ⟨false, 0⟩
  | .processBatchAttempt _ _ _ => .batch noReport
  | .forgetAttempt _ _ => .done
  | .confirmTerminalHandoff _ _ => .done
  | .prune _ _ => .pruned 0
  | .pruneTerminalAttempts _ _ => .pruned 0

/-- The call when every statement and the commit succeed. -/
def perform (backend : Backend) (now : Readings) (tables : Tables F) : Op F → Call F (Reply F)
  | .process key fingerprint outcome =>
    (Store.process now tables key fingerprint outcome).map .result
  | .processAttempt key fingerprint maxAttempts outcome =>
    (Store.processAttempt backend now tables key fingerprint maxAttempts outcome).map .result
  | .processBatchAttempt items maxAttempts handler =>
    (Store.processBatchAttempt backend now tables items maxAttempts handler).map .batch
  | .forgetAttempt key fingerprint =>
    (Store.forgetAttempt tables key fingerprint).map (fun _ => .done)
  | .confirmTerminalHandoff key fingerprint =>
    (Store.confirmTerminalHandoff now tables key fingerprint).map (fun _ => .done)
  | .prune before limit => (Store.prune backend tables before limit).map .pruned
  | .pruneTerminalAttempts before limit =>
    (Store.pruneTerminalAttempts backend tables before limit).map .pruned

end Op

/-- How the database ends a transaction: as the call decides, or with an error
of the database that rolls it back, before or after the handler ran. -/
inductive TxEnd
  | asDecided
  | fails (ran : Bool) (err : GoError)

structure Step (F : Type) where
  op : Op F
  now : Readings
  ends : TxEnd

def step (backend : Backend) (tables : Tables F) (taken : Step F) : Call F (Reply F) :=
  let call := taken.op.perform backend taken.now tables
  match taken.ends with
  | .asDecided => call
  | .fails ran err => .rollback tables (if ran then call.invoked else []) taken.op.noReply err

def run (backend : Backend) (tables : Tables F) (steps : List (Step F)) : Tables F :=
  steps.foldl (fun current taken => (step backend current taken).tables) tables

variable (backend : Backend) (tables : Tables F)

@[simp] theorem run_nil : run backend tables [] = tables := rfl

theorem run_cons (taken : Step F) (rest : List (Step F)) :
    run backend tables (taken :: rest) = run backend (step backend tables taken).tables rest := rfl

def calls (backend : Backend) (tables : Tables F) : List (Step F) → List (Call F (Reply F))
  | [] => []
  | taken :: rest =>
    step backend tables taken :: calls backend (step backend tables taken).tables rest

def Reachable (backend : Backend) (tables : Tables F) : Prop :=
  ∃ steps, tables = run backend (Tables.empty F) steps

def Op.Separates (op : Op F) (generation : String) : Prop :=
  ∀ item ∈ op.items, Inbox.Separates item.fingerprint item.key.attemptGeneration generation

/-- The digest maps the generation of an item of the calls, and the empty generation
or the one asked about, to one attempt fingerprint. -/
def Collision (generation : String) (steps : List (Step F)) : Prop :=
  ∃ taken ∈ steps, ∃ item ∈ taken.op.items, ∃ other ∈ ["", generation],
    item.key.attemptGeneration ≠ other ∧
      attemptFingerprint item.key.attemptGeneration item.fingerprint =
        attemptFingerprint other item.fingerprint

omit [LinearOrder F] in
theorem separates_of_no_collision {generation : String} {steps : List (Step F)}
    (clear : ¬ Collision generation steps) (taken : Step F) (member : taken ∈ steps) :
    taken.op.Separates "" ∧ taken.op.Separates generation := by
  have apart : ∀ other ∈ ["", generation], taken.op.Separates other := by
    intro other listed item carried same
    by_contra differs
    exact clear ⟨taken, member, item, carried, other, listed, differs, same⟩
  exact ⟨apart "" (.head _), apart generation (.tail _ (.head _))⟩

end Store

def sampleKey : Key := ⟨"orders", "shop", 1, ""⟩

def sampleReadings : Readings := ⟨1, 2, 3, 4, 5, 6, 7⟩

def sampleStep (op : Op Preimage) : Step Preimage := ⟨op, sampleReadings, .asDecided⟩

end Gomessenger.Inbox
