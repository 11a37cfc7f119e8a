import Gomessenger.Inbox.BatchGroups

/-! A reference model of the batch statements, and that both backends refine it.

The reference walks the groups once, in lock order, with one statement for each
group; PostgreSQL issues set-based statements over the legacy and then the
generated groups, and SQLite chunked and per-group ones. -/

namespace Gomessenger.Inbox

open LocalAction

section Reference

variable {F : Type}

@[simp] theorem identityOf_inj (consumerID : String) (left right : BatchItemKey) :
    identityOf consumerID left = identityOf consumerID right ↔ left = right := by
  obtain ⟨source, message⟩ := left
  obtain ⟨source₂, message₂⟩ := right
  simp [identityOf]

theorem identityOf_batchKey (consumerID : String) (key : Key)
    (consumer : key.consumerID = consumerID) :
    identityOf consumerID (batchKey key) = key.identity := by
  subst consumer
  rfl

structure Bound (consumerID : String) (groups : List (MatchedGroup F)) : Prop where
  keys : (groups.map (fun group => group.key)).Nodup
  fronts : ∀ group ∈ groups, group.front.item.key.consumerID = consumerID
  leads : ∀ group ∈ groups, group.lead.item.key.identity = identityOf consumerID group.key

variable {consumerID : String} {left right : List (MatchedGroup F)}

theorem Bound.sublist (bound : Bound consumerID right) (part : left.Sublist right) :
    Bound consumerID left where
  keys := bound.keys.sublist (part.map _)
  fronts group member := bound.fronts group (part.subset member)
  leads group member := bound.leads group (part.subset member)

theorem Bound.perm (bound : Bound consumerID left) (perm : left.Perm right) :
    Bound consumerID right where
  keys := (perm.map _).nodup_iff.mp bound.keys
  fronts group member := bound.fronts group (perm.mem_iff.mpr member)
  leads group member := bound.leads group (perm.mem_iff.mpr member)

variable {groups : List (MatchedGroup F)}

theorem Bound.identities (bound : Bound consumerID groups) :
    (groups.map (fun group => identityOf consumerID group.key)).Nodup := by
  have mapped : groups.map (fun group => identityOf consumerID group.key) =
      (groups.map (fun group => group.key)).map (identityOf consumerID) := by
    rw [List.map_map]
    rfl
  rw [mapped]
  exact bound.keys.map (fun _ _ same => (identityOf_inj consumerID _ _).mp same)

theorem Bound.consumer (bound : Bound consumerID groups) (group : MatchedGroup F)
    (member : group ∈ groups) :
    group.consumer = consumerID :=
  congrArg Identity.consumerID (bound.leads group member)

theorem foldl_firstConsumer {S : Type} (consumerID : String) (groups : List (MatchedGroup F))
    (bound : Bound consumerID groups) (act : String → S → MatchedGroup F → S) (state : S) :
    groups.foldl (act (firstConsumer (groups.map MatchedGroup.toBatchGroup))) state =
      groups.foldl (act consumerID) state := by
  cases groups with
  | nil => rfl
  | cons head tail =>
    have first : firstConsumer ((head :: tail).map MatchedGroup.toBatchGroup) = consumerID :=
      bound.fronts head (.head _)
    rw [first]

theorem selectBatchGroups_bound (bound : Bound consumerID groups) (generated : Bool) :
    Bound consumerID (selectBatchGroups groups generated) :=
  bound.sublist List.filter_sublist

theorem selectBatchGroups_perm (groups : List (MatchedGroup F)) :
    (selectBatchGroups groups false ++ selectBatchGroups groups true).Perm groups := by
  have legacy : selectBatchGroups groups false = groups.filter
      (fun group => !isGenerated group) := by
    simp [selectBatchGroups]
  have generated : selectBatchGroups groups true = groups.filter isGenerated := by
    simp [selectBatchGroups]
  rw [legacy, generated]
  exact List.perm_append_comm.trans (List.filter_append_perm isGenerated groups)

variable [LinearOrder F] [Sha256 F]

def decideEntries (tables : Tables F) (consumerID : String) (maxAttempts : Nat)
    (group : BatchGroup F) : Assignments F × List (MatchedGroup F) :=
  match tables.inbox.find? (identityOf consumerID group.key) with
  | none => ([], [])
  | some row =>
    match matchGroup row.fingerprint group with
    | none => (assignConflicts row.fingerprint group, [])
    | some matched =>
      let decided := decideGroup maxAttempts row.completedAt
        { matched with state := (readGroup tables consumerID matched).getD noAttempt }
      (assignConflicts row.fingerprint group ++ decided.1, decided.2)

def countOf (tables : Tables F) (consumerID : String) (group : MatchedGroup F) : Nat :=
  ((tables.readCounter (identityOf consumerID group.key) group.generation group.attempt).map
    CounterRow.attempts).getD 0

def referencePrepared (now : Readings) (tables : Tables F) (consumerID : String)
    (groups : List (BatchGroup F)) (maxAttempts : Nat) : PreparedBatch F :=
  let inserted := Pgsql.insertBatchIdentities now tables consumerID groups
  ⟨inserted, groups.flatMap (fun group => (decideEntries inserted consumerID maxAttempts group).1),
    groups.flatMap (fun group => (decideEntries inserted consumerID maxAttempts group).2)⟩

def completeGroups (now : Readings) (consumerID : String) (tables : Tables F)
    (groups : List (MatchedGroup F)) : Tables F :=
  groups.foldl (fun current group =>
    current.markComplete (identityOf consumerID group.key) now.completed) tables

def terminateGroups (now : Readings) (consumerID : String) (tables : Tables F)
    (groups : List (MatchedGroup F)) : Tables F :=
  groups.foldl (fun current group => current.markTerminal (identityOf consumerID group.key)
    group.generation group.attempt now.marked) tables

def incrementGroups (now : Readings) (consumerID : String) (tables : Tables F)
    (groups : List (MatchedGroup F)) : Tables F :=
  groups.foldl (incrementGroup now.attempted consumerID) tables

def referenceStatements (consumerID : String) : BatchStatements F where
  prepareBatchIdentities now tables groups maxAttempts :=
    .ok (referencePrepared now tables consumerID groups maxAttempts)
  incrementBatchAttempts now tables groups :=
    .ok (incrementGroups now consumerID tables groups,
      groups.map (fun group => (group.key, countOf tables consumerID group + 1)))
  markBatchCompleted now tables groups := completeGroups now consumerID tables groups
  markBatchTerminal now tables groups := terminateGroups now consumerID tables groups

/-- Agreement with the reference on the groups of one consumer. -/
structure Refines (consumerID : String) (statements : BatchStatements F) : Prop where
  prepare : ∀ (now : Readings) (tables : Tables F) (groups : List (BatchGroup F))
    (maxAttempts : Nat) (entries : List (BatchPreparedItem F)), GroupsOf entries groups →
    (∀ entry ∈ entries, entry.item.key.consumerID = consumerID) →
    ∃ assigned, statements.prepareBatchIdentities now tables groups maxAttempts =
        .ok { referencePrepared now tables consumerID groups maxAttempts with assigned } ∧
      assigned.Perm (referencePrepared now tables consumerID groups maxAttempts).assigned
  increment : ∀ (now : Readings) (tables : Tables F) (groups : List (MatchedGroup F)),
  Bound consumerID groups →
    ∃ attempts, statements.incrementBatchAttempts now tables groups =
        .ok (incrementGroups now consumerID tables groups, attempts) ∧
      ∀ group ∈ groups, attempts.lookup group.key = some (countOf tables consumerID group + 1)
  complete : ∀ (now : Readings) (tables : Tables F) (groups : List (MatchedGroup F)),
  Bound consumerID groups →
    statements.markBatchCompleted now tables groups = completeGroups now consumerID tables groups
  terminate : ∀ (now : Readings) (tables : Tables F) (groups : List (MatchedGroup F)),
  Bound consumerID groups →
    statements.markBatchTerminal now tables groups = terminateGroups now consumerID tables groups

end Reference

end Gomessenger.Inbox
