import Gomessenger.Inbox.Single

/-! The batch transaction of the two SQL backends.

`runBatch` is the body the backends share. The statements they issue
differently, set based in PostgreSQL and chunked or per item in SQLite, are the
fields of `BatchStatements`. The report is filled in by index; the assignments
are kept in program order and read into the report at commit. -/

namespace Gomessenger.Inbox

open LocalAction

section Batch

variable {F : Type} [LinearOrder F] [Sha256 F]

structure BatchPreparedItem (F : Type) where
  index : Nat
  item : BatchItem F
  deriving DecidableEq, Repr

/-- The inputs of one logical identity; `front` is `entries[0]`. -/
structure BatchGroup (F : Type) where
  key : BatchItemKey
  front : BatchPreparedItem F
  others : List (BatchPreparedItem F)
  deriving DecidableEq, Repr

def BatchGroup.entries (group : BatchGroup F) : List (BatchPreparedItem F) :=
  group.front :: group.others

/-- A group with an input that carries the stored fingerprint; `lead` is
`matching[0]`. -/
structure MatchedGroup (F : Type) extends BatchGroup F where
  lead : BatchPreparedItem F
  copies : List (BatchPreparedItem F)
  state : AttemptState
  deriving DecidableEq, Repr

def batchKey (key : Key) : BatchItemKey := ⟨key.source, key.messageID⟩

def identityOf (consumerID : String) (key : BatchItemKey) : Identity :=
  ⟨consumerID, key.source, key.messageID⟩

def mixedGenerations (key : BatchItemKey) : GoError :=
  .wrap ("mixed attempt generations for " ++ key.source ++ "/" ++ messageText key.messageID)
    (.sentinel .invalidBatchResult)

def addToGroups (entry : BatchPreparedItem F) : List (BatchGroup F) →
    Except GoError (List (BatchGroup F))
  | [] => .ok [⟨batchKey entry.item.key, entry, []⟩]
  | group :: rest =>
    if group.key = batchKey entry.item.key then
      if group.front.item.key.attemptGeneration ≠ entry.item.key.attemptGeneration then
        .error (mixedGenerations group.key)
      else .ok ({ group with others := group.others ++ [entry] } :: rest)
    else match addToGroups entry rest with
      | .error err => .error err
      | .ok next => .ok (group :: next)

def prepareEntries (groups : List (BatchGroup F)) : List (BatchPreparedItem F) →
    Except GoError (List (BatchGroup F))
  | [] => .ok groups
  | entry :: rest =>
    match addToGroups entry groups with
    | .error err => .error err
    | .ok next => prepareEntries next rest

def batchEntries (items : List (BatchItem F)) : List (BatchPreparedItem F) :=
  items.zipIdx.map (fun entry => ⟨entry.2, entry.1⟩)

def prepareBatchGroups (items : List (BatchItem F)) : Except GoError (List (BatchGroup F)) :=
  prepareEntries [] (batchEntries items)

def lockLe (left right : BatchGroup F) : Bool :=
  left.key.source < right.key.source || (left.key.source = right.key.source &&
    left.key.messageID ≤ right.key.messageID)

abbrev Assignments (F : Type) := List (Nat × BatchItemOutcome F)

def conflictOutcome (entry : BatchPreparedItem F) : BatchItemOutcome F :=
  ⟨entry.item.key, entry.item.fingerprint, .dlq, 0, false, 0, some .identityConflict,
    some (.sentinel .fingerprintConflict)⟩

def assignConflicts (stored : F) (group : BatchGroup F) : Assignments F :=
  (group.entries.filter (fun entry => entry.item.fingerprint ≠ stored)).map
    (fun entry => (entry.index, conflictOutcome entry))

def assignBatchOutcome (group : MatchedGroup F) (outcome : BatchItemOutcome F) : Assignments F :=
  (group.lead.index, { outcome with key := group.lead.item.key }) :: group.copies.map (fun entry =>
      (entry.index, { outcome with key := entry.item.key, duplicate := true }))

def noAttempt : AttemptState := ⟨0, false, none⟩

def matchGroup (stored : F) (group : BatchGroup F) : Option (MatchedGroup F) :=
  match group.entries.filter (fun entry => entry.item.fingerprint = stored) with
  | [] => none
  | lead :: copies => some ⟨group, lead, copies, noAttempt⟩

def AttemptState.closed (state : AttemptState) (maxAttempts : Nat) : Bool :=
  state.terminal || maxAttempts ≤ state.attempt || state.kind.isSome

def AttemptState.closedPermanent (state : AttemptState) : Bool :=
  state.terminal || state.kind = some .permanent

def duplicateOutcome (group : MatchedGroup F) : BatchItemOutcome F :=
  ⟨group.lead.item.key, group.lead.item.fingerprint, .ack, group.state.attempt, true, 0, none, none⟩

def closedOutcome (group : MatchedGroup F) : BatchItemOutcome F :=
  if group.state.closedPermanent then
    ⟨group.lead.item.key, group.lead.item.fingerprint, .dlq, group.state.attempt, false, 0,
      some .permanent, some (.permanent (.sentinel .attemptTerminal))⟩
  else
    ⟨group.lead.item.key, group.lead.item.fingerprint, .dlq, group.state.attempt, false, 0,
      some .attemptsExhausted, some (.sentinel .attemptsExhausted)⟩

/-- The assignments of a group that the handler does not see, and the groups it does. -/
def decideGroup (maxAttempts : Nat) (completedAt : Option Time) (group : MatchedGroup F) :
    Assignments F × List (MatchedGroup F) :=
  if completedAt ≠ none then (assignBatchOutcome group (duplicateOutcome group), [])
  else if group.state.closed maxAttempts then
    (assignBatchOutcome group (closedOutcome group), [])
  else ([], [group])

structure PreparedBatch (F : Type) [LinearOrder F] where
  tables : Tables F
  assigned : Assignments F
  active : List (MatchedGroup F)

structure BatchStatements (F : Type) [LinearOrder F] where
  prepareBatchIdentities : Readings → Tables F → List (BatchGroup F) → Nat →
    Except GoError (PreparedBatch F)
  incrementBatchAttempts : Readings → Tables F → List (MatchedGroup F) →
    Except GoError (Tables F × List (BatchItemKey × Nat))
  markBatchCompleted : Readings → Tables F → List (MatchedGroup F) → Tables F
  markBatchTerminal : Readings → Tables F → List (MatchedGroup F) → Tables F

def invalidResult (message : String) : GoError := .wrap message (.sentinel .invalidBatchResult)

def keyText (key : BatchItemKey) : String := key.source ++ "/" ++ messageText key.messageID

def checkExpected (seen : List BatchItemKey) : List BatchItemKey → Option GoError
  | [] => none
  | key :: rest =>
    if key.source = "" ∨ key.messageID = 0 then some (invalidResult "incomplete expected key")
    else if key ∈ seen then some (invalidResult ("duplicate expected key " ++ keyText key))
    else checkExpected (key :: seen) rest

def collectResult (expected : List BatchItemKey) (byKey : List (BatchItemKey × Option GoError)) :
    List BatchItemResult → Except GoError (List (BatchItemKey × Option GoError))
  | [] => .ok byKey
  | item :: rest =>
    if item.key ∉ expected then .error (invalidResult ("unknown key " ++ keyText item.key))
    else if (byKey.lookup item.key).isSome then
      .error (invalidResult ("duplicate key " ++ keyText item.key))
    else collectResult expected ((item.key, item.err) :: byKey) rest

def orderResult (byKey : List (BatchItemKey × Option GoError)) :
    List BatchItemKey → Except GoError (List (Option GoError))
  | [] => .ok []
  | key :: rest =>
    match byKey.lookup key with
    | none => .error (invalidResult ("missing key " ++ keyText key))
    | some err => match orderResult byKey rest with
      | .error failure => .error failure
      | .ok later => .ok (err :: later)

def validateResult (expected : List BatchItemKey) (result : List BatchItemResult) :
    Except GoError (List (Option GoError)) :=
  if result.length ≠ expected.length then
    .error (invalidResult ("got " ++ toString result.length ++ " items, want " ++
      toString expected.length))
  else match checkExpected [] expected with
    | some err => .error err
    | none => match collectResult expected [] result with
      | .error err => .error err
      | .ok byKey => orderResult byKey expected

def reportItems (assigned : Assignments F) : List (BatchItemOutcome F) :=
  (KeyedTable.ofAssignments assigned).rows.map Prod.snd

def noReport : BatchProcessResult F := ⟨[], 0⟩

def commitTerminalBatch (now : Readings) (begun tables : Tables F) (assigned : Assignments F)
    (invoked : List (BatchItem F)) (finished : List (BatchItem F × Option GoError)) :
    Call F (BatchProcessResult F) :=
  let items := reportItems assigned
  match record (preserveDeferred tables items now.deferred) items now.recorded with
  | .error err => .rollback begun invoked noReport err
  | .ok recorded =>
    ⟨recorded, invoked, finished, (terminalItems [] items).map (fun entry => entry.1.attemptSlot),
      ⟨items, invoked.length⟩, none⟩

def settledOutcome (maxAttempts : Nat) (attempts : List (BatchItemKey × Nat))
    (group : MatchedGroup F) (err : Option GoError) : BatchItemOutcome F :=
  let attempt := (attempts.lookup group.key).getD 0
  let key := group.lead.item.key
  let fingerprint := group.lead.item.fingerprint
  match classify err with
  | (.deferred, delay) => ⟨key, fingerprint, .defer, group.state.attempt, false, delay, none, err⟩
  | (.success, delay) => ⟨key, fingerprint, .ack, attempt, false, delay, none, err⟩
  | (.permanent, _) => ⟨key, fingerprint, .dlq, attempt, false, 0, some .permanent, err⟩
  | (.retryAfter, delay) | (.ordinary, delay) =>
    if maxAttempts ≤ attempt then
      ⟨key, fingerprint, .dlq, attempt, false, 0, some .attemptsExhausted, err⟩
    else ⟨key, fingerprint, .retry, attempt, false, delay, none, err⟩

def selectSettled (kind : FailureClass) (settled : List (MatchedGroup F × Option GoError)) :
    List (MatchedGroup F) :=
  (settled.filter (fun entry => (classify entry.2).1 = kind)).map Prod.fst

def consumingGroups (settled : List (MatchedGroup F × Option GoError)) : List (MatchedGroup F) :=
  (settled.filter (fun entry => (classify entry.2).1 ≠ .deferred)).map Prod.fst

def topLevelError (result : List BatchItemResult) (handlerErr : GoError) : GoError :=
  if result ≠ [] ∨ isFailClosed handlerErr then
    .join "invalid top-level batch failure" (.sentinel .invalidBatchResult) handlerErr
  else handlerErr

/-- The part of the transaction after a handler result passed validation. -/
def settleBatch (statements : BatchStatements F) (now : Readings) (begun : Tables F)
    (prepared : PreparedBatch F) (maxAttempts : Nat)
    (settled : List (MatchedGroup F × Option GoError)) : Call F (BatchProcessResult F) :=
  let invoked := settled.map (fun entry => entry.1.lead.item)
  match statements.incrementBatchAttempts now prepared.tables (consumingGroups settled) with
  | .error err => .rollback begun invoked noReport err
  | .ok (incremented, attempts) =>
    let outcomes := settled.flatMap (fun entry =>
      assignBatchOutcome entry.1 (settledOutcome maxAttempts attempts entry.1 entry.2))
    let completed := statements.markBatchCompleted now incremented (selectSettled .success settled)
    let marked := statements.markBatchTerminal now completed (selectSettled .permanent settled)
    commitTerminalBatch now begun marked (prepared.assigned ++ outcomes) invoked
      (settled.map (fun entry => (entry.1.lead.item, entry.2)))

def runBatch (statements : BatchStatements F) (now : Readings) (tables : Tables F)
    (items : List (BatchItem F)) (maxAttempts : Nat) (handler : BatchHandler F) :
    Call F (BatchProcessResult F) :=
  if items = [] then ⟨tables, [], [], [], noReport, none⟩
  else match prepareBatchGroups items with
    | .error err => .rollback tables [] noReport err
    | .ok groups =>
      match statements.prepareBatchIdentities now tables (groups.insertionSort (lockLe · ·))
          maxAttempts with
      | .error err => .rollback tables [] noReport err
      | .ok prepared =>
        -- Every item is decided by its rows: the handler is not called.
        if prepared.active = [] then
          commitTerminalBatch now tables prepared.tables prepared.assigned [] []
        else
          let active := prepared.active.insertionSort
            (fun left right => left.lead.index ≤ right.lead.index)
          let handlerItems := active.map (fun group => group.lead.item)
          match handler handlerItems with
          | (result, some handlerErr) =>
            .rollback tables handlerItems noReport (topLevelError result handlerErr)
          | (result, none) =>
            match validateResult (active.map (fun group => group.key)) result with
            | .error err => .rollback tables handlerItems noReport err
            | .ok itemErrors =>
              settleBatch statements now tables prepared maxAttempts (active.zip itemErrors)

end Batch

end Gomessenger.Inbox
