import Gomessenger.Inbox.TerminalState

/-! The single-message transactions of the two SQL backends.

The backends run the same statements except where `Pgsql` and `Sqlite` differ:
PostgreSQL takes the first attempt of a freshly inserted identity without
reading its counter. A call that returns before `Commit` leaves the tables it
began with. -/

namespace Gomessenger.Inbox

section Single

variable {F : Type} [LinearOrder F] [Sha256 F]

structure AttemptDecision where
  attempt : Nat
  terminal : Bool
  exhausted : Bool
  present : Bool
  deriving DecidableEq, Repr

def keySlot (key : Key) (fingerprint : F) : Identity ×ₗ F :=
  slot key.identity (attemptFingerprint key.attemptGeneration fingerprint)

def readAttempt (tables : Tables F) (key : Key) (fingerprint : F) : Option AttemptState :=
  tables.readAttempt key.identity key.attemptGeneration
    (attemptFingerprint key.attemptGeneration fingerprint)

def nextAttempt (tables : Tables F) (key : Key) (fingerprint : F) (maxAttempts : Nat) :
    AttemptDecision :=
  match readAttempt tables key fingerprint with
  | none => ⟨1, false, false, false⟩
  | some state =>
    if state.terminal ∨ state.kind = some .permanent then ⟨state.attempt, true, false, true⟩
    else if maxAttempts ≤ state.attempt ∨ state.kind = some .attemptsExhausted then
      ⟨state.attempt, false, true, true⟩
    else ⟨state.attempt + 1, false, false, true⟩

def consumeAttempt (backend : String) (tables : Tables F) (key : Key) (fingerprint : F)
    (decision : AttemptDecision) (now : Time) : Except GoError (Tables F) :=
  let attempt := attemptFingerprint key.attemptGeneration fingerprint
  if decision.present then
    .ok (tables.incrementAttempt key.identity key.attemptGeneration attempt now)
  else match tables.insertAttempt key.identity key.attemptGeneration attempt now with
    | .ok next => .ok next
    | .error err => .error (.wrap (backend ++ ": insert handler attempt") err)

def markAttemptTerminal (tables : Tables F) (key : Key) (fingerprint : F) (handlerErr : GoError)
    (now : Time) : Tables F :=
  if handlerErr.isPermanent then
    tables.markTerminal key.identity key.attemptGeneration
      (attemptFingerprint key.attemptGeneration fingerprint) now
  else tables

def recordTerminal (tables : Tables F) (key : Key) (fingerprint : F) (attempt : Nat)
    (permanent : Bool) (now : Time) : Except GoError (Tables F) :=
  let kind := if permanent then FailureKind.permanent else .attemptsExhausted
  record tables [⟨key, fingerprint, .dlq, attempt, false, 0, some kind, none⟩] now

/-- `begun` is what the deferred rollback restores; `tables` is the savepoint. -/
def finishFailedAttempt (backend : String) (now : Readings) (begun tables : Tables F) (key : Key)
    (fingerprint : F) (decision : AttemptDecision) (maxAttempts : Nat) (handlerErr : GoError) :
    Call F Result :=
  let item : BatchItem F := ⟨key, fingerprint⟩
  if handlerErr.deferDelay.isSome && !handlerErr.isPermanent then
    let kept := preserveDeferred tables
      [⟨key, fingerprint, .defer, decision.attempt - 1, false, 0, none, none⟩] now.deferred
    ⟨kept, [item], [(item, some handlerErr)], [], ⟨false, decision.attempt - 1⟩, some handlerErr⟩
  else match consumeAttempt backend tables key fingerprint decision now.attempted with
    | .error err => .rollback begun [item] ⟨false, 0⟩ err
    | .ok consumed =>
      let marked := markAttemptTerminal consumed key fingerprint handlerErr now.marked
      if handlerErr.isPermanent ∨ maxAttempts ≤ decision.attempt then
        match recordTerminal marked key fingerprint decision.attempt handlerErr.isPermanent
            now.recorded with
        | .error err => .rollback begun [item] ⟨false, 0⟩ err
        | .ok recorded =>
          ⟨recorded, [item], [(item, some handlerErr)], [keySlot key fingerprint],
            ⟨false, decision.attempt⟩, some handlerErr⟩
      else
        ⟨marked, [item], [(item, some handlerErr)], [], ⟨false, decision.attempt⟩, some handlerErr⟩

/-- `ProcessAttempt` from the attempt decision on; `outcome` is what the handler
returns if it is called. -/
def runAttempt (backend : String) (now : Readings) (begun tables : Tables F) (key : Key)
    (fingerprint : F) (decision : AttemptDecision) (maxAttempts : Nat) (outcome : Option GoError) :
    Call F Result :=
  let item : BatchItem F := ⟨key, fingerprint⟩
  if decision.terminal || decision.exhausted then
    match recordTerminal tables key fingerprint decision.attempt decision.terminal now.recorded with
    | .error err => .rollback begun [] ⟨false, 0⟩ err
    | .ok recorded =>
      ⟨recorded, [], [], [keySlot key fingerprint], ⟨false, decision.attempt⟩,
        some (if decision.terminal then .permanent (.sentinel .attemptTerminal)
          else .sentinel .attemptsExhausted)⟩
  else match outcome with
    | some handlerErr =>
      finishFailedAttempt backend now begun tables key fingerprint decision maxAttempts handlerErr
    | none =>
      match consumeAttempt backend tables key fingerprint decision now.attempted with
      | .error err => .rollback begun [item] ⟨false, 0⟩ err
      | .ok consumed =>
        ⟨consumed.markComplete key.identity now.completed, [item], [(item, none)], [],
          ⟨false, decision.attempt⟩, none⟩

inductive Prepared (F : Type) [LinearOrder F]
  | failed (err : GoError)
  | handled (result : Result)
  | proceed (tables : Tables F) (fresh : Bool)

def lockAttemptIdentity (tables : Tables F) (key : Key) (fingerprint : F)
    (row : IdentityRow F) : Prepared F :=
  if row.fingerprint ≠ fingerprint then .failed (.sentinel .fingerprintConflict)
  else match row.completedAt with
    | none => .proceed tables false
    | some _ =>
      .handled ⟨true, ((readAttempt tables key fingerprint).map AttemptState.attempt).getD 0⟩

namespace Pgsql

def prepareAttemptIdentity (now : Readings) (tables : Tables F) (key : Key)
    (fingerprint : F) : Prepared F :=
  match tables.inbox.find? key.identity with
  | none => .proceed (tables.insertIdentity key.identity now.created fingerprint) true
  | some row => lockAttemptIdentity tables key fingerprint row

def processAttempt (now : Readings) (tables : Tables F) (key : Key) (fingerprint : F)
    (maxAttempts : Nat) (outcome : Option GoError) : Call F Result :=
  match prepareAttemptIdentity now tables key fingerprint with
  | .failed err => .rollback tables [] ⟨false, 0⟩ err
  | .handled result => ⟨tables, [], [], [], result, none⟩
  | .proceed prepared fresh =>
    let decision := if fresh then ⟨1, false, false, false⟩
      else nextAttempt prepared key fingerprint maxAttempts
    runAttempt "inbox/pgsql" now tables prepared key fingerprint decision maxAttempts outcome

end Pgsql

namespace Sqlite

def prepareAttemptIdentity (now : Readings) (tables : Tables F) (key : Key)
    (fingerprint : F) : Prepared F :=
  match tables.inbox.find? key.identity with
  | none => .proceed (tables.insertIdentity key.identity now.created fingerprint) false
  | some row => lockAttemptIdentity tables key fingerprint row

def processAttempt (now : Readings) (tables : Tables F) (key : Key) (fingerprint : F)
    (maxAttempts : Nat) (outcome : Option GoError) : Call F Result :=
  match prepareAttemptIdentity now tables key fingerprint with
  | .failed err => .rollback tables [] ⟨false, 0⟩ err
  | .handled result => ⟨tables, [], [], [], result, none⟩
  | .proceed prepared _ =>
    runAttempt "inbox/sqlite" now tables prepared key fingerprint
      (nextAttempt prepared key fingerprint maxAttempts) maxAttempts outcome

end Sqlite

/-- `handleExisting`; an empty result lets the handler run. -/
def handleExisting (tables : Tables F) (key : Key) (fingerprint : F) (row : IdentityRow F) :
    Option (Except GoError Result) :=
  if row.fingerprint ≠ fingerprint then some (.error (.sentinel .fingerprintConflict))
  else if row.completedAt ≠ none then some (.ok ⟨true, 0⟩)
  else
    let inspected := tables.inspectAttempts key.identity
    if 0 < inspected.2 then
      if 0 < inspected.1 then some (.error (.permanent (.sentinel .attemptTerminal)))
      else some (.error (.sentinel .attemptConflict))
    else none

/-- The identity insert of `Process`; a conflicting row is handed to `handleExisting`. -/
def claimIdentity (tables : Tables F) (key : Key) (fingerprint : F) :
    Option (Except GoError Result) :=
  match tables.inbox.find? key.identity with
  | none => none
  | some row => handleExisting tables key fingerprint row

def process (now : Readings) (tables : Tables F) (key : Key) (fingerprint : F)
    (outcome : Option GoError) : Call F Result :=
  let item : BatchItem F := ⟨key, fingerprint⟩
  match claimIdentity tables key fingerprint with
  | some (.error err) => .rollback tables [] ⟨false, 0⟩ err
  | some (.ok result) => ⟨tables, [], [], [], result, none⟩
  | none =>
    match outcome with
    | some err => .rollback tables [item] ⟨false, 0⟩ err
    | none =>
      let inserted := tables.insertIdentity key.identity now.created fingerprint
      ⟨inserted.markComplete key.identity now.completed, [item],
        [(item, none)], [], ⟨false, 0⟩, none⟩

def forgetAttempt (tables : Tables F) (key : Key) (fingerprint : F) : Call F Unit :=
  match tables.inbox.find? key.identity with
  | none => ⟨tables, [], [], [], (), none⟩
  | some row =>
    if row.fingerprint ≠ fingerprint then
      .rollback tables [] () (.sentinel .fingerprintConflict)
    else if row.completedAt ≠ none then ⟨tables, [], [], [], (), none⟩
    else
      let forgotten := (forgetTerminal tables key fingerprint).deleteAttempt key.identity
        key.attemptGeneration (attemptFingerprint key.attemptGeneration fingerprint)
      if forgotten.hasAttempts key.identity then ⟨forgotten, [], [], [], (), none⟩
      else ⟨forgotten.deleteIncompleteIdentity key.identity, [], [], [], (), none⟩

def confirmTerminalHandoff (now : Readings) (tables : Tables F) (key : Key)
    (fingerprint : F) : Call F Unit :=
  match confirm tables key fingerprint now.confirmed with
  | .error err => .rollback tables [] () err
  | .ok next => ⟨next, [], [], [], (), none⟩

def prune (collation : Collation) (tables : Tables F) (before : Time) (limit : Nat) : Call F Nat :=
  let unclosed := pruneCompleted collation tables before limit
  let ungenerated := pruneAttemptGenerations collation unclosed before limit
  let uncounted := pruneAttempts collation ungenerated before limit
  let pruned := pruneInbox collation uncounted before limit
  ⟨pruned.1, [], [], [], pruned.2, none⟩

def pruneTerminalAttempts (collation : Collation) (tables : Tables F) (before : Time)
    (limit : Nat) : Call F Nat :=
  let pruned := pruneTerminal collation tables before limit
  ⟨pruned.1, [], [], [], pruned.2, none⟩

end Single

end Gomessenger.Inbox
