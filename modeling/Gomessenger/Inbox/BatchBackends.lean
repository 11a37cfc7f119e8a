import Gomessenger.Inbox.Batch

/-! The batch statements of PostgreSQL and of SQLite. -/

namespace Gomessenger.Inbox

open LocalAction

section Statements

variable {F : Type} [LinearOrder F] [Sha256 F]

def isGenerated (group : MatchedGroup F) : Bool :=
  decide (group.lead.item.key.attemptGeneration ≠ "")

def selectBatchGroups (groups : List (MatchedGroup F)) (generated : Bool) : List (MatchedGroup F) :=
  groups.filter (fun group => isGenerated group = generated)

def MatchedGroup.attempt (group : MatchedGroup F) : F :=
  attemptFingerprint group.lead.item.key.attemptGeneration group.lead.item.fingerprint

def MatchedGroup.generation (group : MatchedGroup F) : String :=
  group.lead.item.key.attemptGeneration

def BatchGroup.consumer (group : BatchGroup F) : String := group.front.item.key.consumerID

def MatchedGroup.consumer (group : MatchedGroup F) : String := group.lead.item.key.consumerID

/-- The consumer a set-based statement is bound to: that of `groups[0].entries[0]`. -/
def firstConsumer : List (BatchGroup F) → String
  | [] => ""
  | group :: _ => group.consumer

def incrementGroup (now : Time) (consumerID : String) (tables : Tables F)
    (group : MatchedGroup F) : Tables F :=
  tables.upsertAttempt (identityOf consumerID group.key) group.generation group.attempt now

def readGroup (tables : Tables F) (consumerID : String)
    (group : MatchedGroup F) : Option AttemptState :=
  tables.readAttempt (identityOf consumerID group.key) group.generation group.attempt

namespace Pgsql

def insertBatchIdentities (now : Readings) (tables : Tables F) (consumerID : String)
    (groups : List (BatchGroup F)) : Tables F :=
  groups.foldl (fun current group => current.insertIdentity (identityOf consumerID group.key)
    now.created group.front.item.fingerprint) tables

/-- The first loop over the locked identities: conflicts and matching groups. -/
def matchGroups (tables : Tables F) (consumerID : String) :
    List (BatchGroup F) → Except GoError (Assignments F × List (MatchedGroup F))
  | [] => .ok ([], [])
  | group :: rest =>
    match tables.inbox.find? (identityOf consumerID group.key) with
    | none => .error (.text "inbox/pgsql: missing or invalid batch identity")
    | some row =>
      match matchGroups tables consumerID rest with
      | .error err => .error err
      | .ok (assigned, matched) =>
        .ok (assignConflicts row.fingerprint group ++ assigned,
          (matchGroup row.fingerprint group).toList ++ matched)

def readBatchAttempts (tables : Tables F) (groups : List (MatchedGroup F)) :
    List (BatchItemKey × AttemptState) :=
  [false, true].flatMap (fun generated =>
    let selected := selectBatchGroups groups generated
    let consumerID := firstConsumer (selected.map MatchedGroup.toBatchGroup)
    selected.filterMap (fun group =>
      (readGroup tables consumerID group).map (fun state => (group.key, state))))

def completedAt (tables : Tables F) (consumerID : String) (group : MatchedGroup F) : Option Time :=
  (tables.inbox.find? (identityOf consumerID group.key)).bind IdentityRow.completedAt

/-- The second loop: duplicates, closed generations and active groups. -/
def decideGroups (tables : Tables F) (consumerID : String) (maxAttempts : Nat)
    (attempts : List (BatchItemKey × AttemptState)) (groups : List (MatchedGroup F)) :
    Assignments F × List (MatchedGroup F) :=
  let decided := groups.map (fun group =>
    decideGroup maxAttempts (completedAt tables consumerID group)
      { group with state := (attempts.lookup group.key).getD noAttempt })
  (decided.flatMap Prod.fst, decided.flatMap Prod.snd)

def prepareBatchIdentities (now : Readings) (tables : Tables F) (groups : List (BatchGroup F))
    (maxAttempts : Nat) : Except GoError (PreparedBatch F) :=
  let consumerID := firstConsumer groups
  let inserted := insertBatchIdentities now tables consumerID groups
  match matchGroups inserted consumerID groups with
  | .error err => .error err
  | .ok (conflicts, matched) =>
    let attempts := readBatchAttempts inserted matched
    let decided := decideGroups inserted consumerID maxAttempts attempts matched
    .ok ⟨inserted, conflicts ++ decided.1, decided.2⟩

def incrementReturning (now : Time) (consumerID : String)
    (state : Tables F × List (BatchItemKey × Nat)) (group : MatchedGroup F) :
    Tables F × List (BatchItemKey × Nat) :=
  let next := incrementGroup now consumerID state.1 group
  let counted := next.readCounter (identityOf consumerID group.key) group.generation group.attempt
  (next, (group.key, (counted.map CounterRow.attempts).getD 0) :: state.2)

def incrementBatchAttempts (now : Readings) (tables : Tables F) (groups : List (MatchedGroup F)) :
    Except GoError (Tables F × List (BatchItemKey × Nat)) :=
  let incremented := [false, true].foldl (fun state generated =>
    let selected := selectBatchGroups groups generated
    let consumerID := firstConsumer (selected.map MatchedGroup.toBatchGroup)
    selected.foldl (incrementReturning now.attempted consumerID) state) (tables, [])
  if incremented.2.any (fun entry => entry.2 < 1) then
    .error (.text "inbox/pgsql: invalid incremented batch attempt")
  else if incremented.2.length ≠ groups.length then
    .error (.text "inbox/pgsql: incomplete incremented batch attempt result")
  else .ok incremented

def markBatchCompleted (now : Readings) (tables : Tables F)
    (groups : List (MatchedGroup F)) : Tables F :=
  let consumerID := firstConsumer (groups.map MatchedGroup.toBatchGroup)
  groups.foldl (fun current group =>
    current.markComplete (identityOf consumerID group.key) now.completed) tables

def markBatchTerminal (now : Readings) (tables : Tables F)
    (groups : List (MatchedGroup F)) : Tables F :=
  [false, true].foldl (fun state generated =>
    let selected := selectBatchGroups groups generated
    let consumerID := firstConsumer (selected.map MatchedGroup.toBatchGroup)
    selected.foldl (fun current group => current.markTerminal (identityOf consumerID group.key)
      group.generation group.attempt now.marked) state) tables

def batchStatements : BatchStatements F :=
  ⟨prepareBatchIdentities, incrementBatchAttempts, markBatchCompleted, markBatchTerminal⟩

def processBatchAttempt (now : Readings) (tables : Tables F) (items : List (BatchItem F))
    (maxAttempts : Nat) (handler : BatchHandler F) : Call F (BatchProcessResult F) :=
  runBatch batchStatements now tables items maxAttempts handler

end Pgsql

namespace Sqlite

def sqliteBatchStatementItems : Nat := 100

def insertSQLiteBatchIdentities (now : Readings) (tables : Tables F)
    (groups : List (BatchGroup F)) : Tables F :=
  (chunksOf sqliteBatchStatementItems groups).foldl (fun current chunk =>
    chunk.foldl (fun state group => state.insertIdentity (identityOf group.consumer group.key)
      now.created group.front.item.fingerprint) current) tables

def readSQLiteBatchAttempt (tables : Tables F) (group : MatchedGroup F) : AttemptState :=
  (readGroup tables group.consumer group).getD noAttempt

def decideGroups (tables : Tables F) (maxAttempts : Nat) :
    List (BatchGroup F) → Except GoError (Assignments F × List (MatchedGroup F))
  | [] => .ok ([], [])
  | group :: rest =>
    match tables.inbox.find? (identityOf group.consumer group.key) with
    | none =>
      .error (.wrap "inbox/sqlite: read batch identity" (.text "sql: no rows in result set"))
    | some row =>
      let decided := match matchGroup row.fingerprint group with
        | none => ([], [])
        | some matched => decideGroup maxAttempts row.completedAt
            { matched with state := readSQLiteBatchAttempt tables matched }
      match decideGroups tables maxAttempts rest with
      | .error err => .error err
      | .ok (assigned, active) =>
        .ok (assignConflicts row.fingerprint group ++ decided.1 ++ assigned, decided.2 ++ active)

def prepareSQLiteBatchIdentities (now : Readings) (tables : Tables F)
    (groups : List (BatchGroup F)) (maxAttempts : Nat) : Except GoError (PreparedBatch F) :=
  let inserted := insertSQLiteBatchIdentities now tables groups
  match decideGroups inserted maxAttempts groups with
  | .error err => .error err
  | .ok (assigned, active) => .ok ⟨inserted, assigned, active⟩

def incrementSQLiteBatchAttempts (now : Readings) (tables : Tables F)
    (groups : List (MatchedGroup F)) : Except GoError (Tables F × List (BatchItemKey × Nat)) :=
  let incremented := [false, true].foldl (fun state generated =>
    (chunksOf sqliteBatchStatementItems (selectBatchGroups groups generated)).foldl
      (fun current chunk => chunk.foldl (fun inner group =>
        incrementGroup now.attempted group.consumer inner group) current) state) tables
  let counted := groups.map (fun group =>
    (group.key, (readSQLiteBatchAttempt incremented group).attempt))
  if counted.any (fun entry => entry.2 < 1) then
    .error (.text "inbox/sqlite: invalid incremented batch attempt")
  else .ok (incremented, counted)

def chunkConsumer : List (MatchedGroup F) → String
  | [] => ""
  | group :: _ => group.consumer

def markSQLiteBatchCompleted (now : Readings) (tables : Tables F)
    (groups : List (MatchedGroup F)) : Tables F :=
  (chunksOf sqliteBatchStatementItems groups).foldl (fun current chunk =>
    chunk.foldl (fun state group =>
      state.markComplete (identityOf (chunkConsumer chunk) group.key) now.completed) current) tables

def markSQLiteBatchTerminal (now : Readings) (tables : Tables F)
    (groups : List (MatchedGroup F)) : Tables F :=
  groups.foldl (fun current group => markAttemptTerminal current group.lead.item.key
    group.lead.item.fingerprint (.permanent (.text "batch terminal")) now.marked) tables

def batchStatements : BatchStatements F :=
  ⟨prepareSQLiteBatchIdentities, incrementSQLiteBatchAttempts, markSQLiteBatchCompleted,
    markSQLiteBatchTerminal⟩

def processBatchAttempt (now : Readings) (tables : Tables F) (items : List (BatchItem F))
    (maxAttempts : Nat) (handler : BatchHandler F) : Call F (BatchProcessResult F) :=
  runBatch batchStatements now tables items maxAttempts handler

end Sqlite

end Statements

end Gomessenger.Inbox
