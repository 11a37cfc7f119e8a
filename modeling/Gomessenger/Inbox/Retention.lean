import Gomessenger.Inbox.Single

/-! What the reset, confirmation and retention calls do to one identity. -/

namespace Gomessenger.Inbox

open LocalAction

section Retention

variable {F : Type} [LinearOrder F]

namespace Slice

variable (slice : Slice F)

open Classical in
noncomputable def forget (generation : String) (attempt : F) : Slice F :=
  let rest := (slice.deleteTerminal attempt).deleteAttempt generation attempt
  if rest.HasAttempts then rest else rest.deleteIncompleteIdentity

def confirm (attempt : F) (now : Time) : Slice F :=
  { slice with
      terminal := fun other =>
        if attempt = other then
          (slice.terminal attempt).map (fun closed =>
            { closed with
                handoffConfirmedAt := some (latestConfirmation now closed.handoffConfirmedAt) })
        else slice.terminal other }

def HasTerminal : Prop := ∃ attempt, slice.terminal attempt ≠ none

def deleteCounters (attempt : F) : Slice F :=
  { slice with
      legacy := slice.legacy.filter (fun row => row.fingerprint ≠ attempt)
      generations := fun other => if attempt = other then none else slice.generations other }

open Classical in
noncomputable def deleteEmptyIdentity : Slice F :=
  if slice.HasAttempts ∨ slice.HasTerminal then slice else slice.deleteIncompleteIdentity

/-- A generation that retention may remove: its identity is incomplete and its
handoff was confirmed in time. -/
def Retirable (before : Time) (attempt : F) : Prop :=
  (∃ row, slice.identity = some row ∧ row.completedAt = none) ∧
    ∃ closed, slice.terminal attempt = some closed ∧ confirmedBefore before closed = true

open Classical in
noncomputable def retire (before : Time) (attempt : F) : Slice F :=
  if slice.Retirable before attempt then
    ((slice.deleteTerminal attempt).deleteCounters attempt).deleteEmptyIdentity
  else slice

end Slice

theorem hasTerminal_slice (tables : Tables F) (id : Identity) :
    tables.hasTerminal id = true ↔ (tables.slice id).HasTerminal := by
  simp only [Tables.hasTerminal, List.any_eq_true, decide_eq_true_eq, Slice.HasTerminal]
  constructor
  · rintro ⟨⟨key, row⟩, member, rfl⟩
    have found := (KeyedTable.mem_rows _ _ _).mp member
    refine ⟨(ofLex key).2, ?_⟩
    change tables.terminal.find? key ≠ none
    rw [found]
    exact Option.some_ne_none row
  · rintro ⟨attempt, present⟩
    obtain ⟨row, found⟩ := Option.ne_none_iff_exists'.mp present
    exact ⟨(slot id attempt, row), (KeyedTable.mem_rows _ _ _).mpr found, rfl⟩

variable (collation : Collation) (id : Identity) (before : Time)

theorem deleteCounters_acts (attempt : F) :
    ActsAt Tables.slice id (fun tables => deleteCounters tables id attempt)
      (fun slice => slice.deleteCounters attempt) := by
  intro tables other
  by_cases same : other = id
  · subst same
    cases found : tables.attempts.find? other <;>
      simp [Tables.slice, deleteCounters, Slice.deleteCounters, KeyedTable.find?_deleteWhere,
        KeyedTable.find?_erase, found]
  · cases found : tables.attempts.find? other <;>
      simp [Tables.slice, deleteCounters, KeyedTable.find?_deleteWhere, KeyedTable.find?_erase,
        found, same, Ne.symm same]

theorem deleteEmptyIdentity_acts : ActsAt Tables.slice id
    (fun tables : Tables F => deleteEmptyIdentity tables id)
      (fun slice => slice.deleteEmptyIdentity) := by
  intro tables other
  have kept : (tables.hasAttempts id || tables.hasTerminal id) = true ↔
      (tables.slice id).HasAttempts ∨ (tables.slice id).HasTerminal := by
    rw [Bool.or_eq_true, hasAttempts_slice, hasTerminal_slice]
  simp only [deleteEmptyIdentity, Slice.deleteEmptyIdentity]
  by_cases occupied : (tables.slice id).HasAttempts ∨ (tables.slice id).HasTerminal
  · rw [if_pos (kept.mpr occupied)]
    by_cases same : other = id
    · subst same
      rw [if_pos rfl, if_pos occupied]
    · rw [if_neg same]
  · rw [if_neg (fun held => occupied (kept.mp held)), deleteIncompleteIdentity_acts id tables other]
    by_cases same : other = id
    · subst same
      rw [if_pos rfl, if_pos rfl, if_neg occupied]
    · rw [if_neg same, if_neg same]

theorem pruneCandidate_eq (tables : Tables F) (id : Identity) (attempt : F) :
    ((tables.slice id).Retirable before attempt ∧ (pruneCandidate before tables id attempt).1 =
        deleteEmptyIdentity (deleteCounters (tables.deleteTerminal id attempt) id attempt) id) ∨
    (¬ (tables.slice id).Retirable before attempt ∧
      (pruneCandidate before tables id attempt).1 = tables) := by
  have identity : (tables.slice id).identity = tables.inbox.find? id := rfl
  have terminal : (tables.slice id).terminal attempt = tables.terminal.find? (slot id attempt) :=
    rfl
  simp only [Slice.Retirable, identity, terminal, pruneCandidate]
  cases stored : tables.inbox.find? id with
  | none => simp
  | some row =>
    cases completed : row.completedAt with
    | some time => simp [completed]
    | none =>
      cases closed : tables.terminal.find? (slot id attempt) with
      | none => simp [completed]
      | some found => by_cases old : confirmedBefore before found = true <;> simp [completed, old]

theorem pruneCandidate_acts (id : Identity) (attempt : F) :
    ActsAt Tables.slice id (fun tables => (pruneCandidate before tables id attempt).1)
      (fun slice => slice.retire before attempt) := by
  have removed := ((deleteTerminal_acts id attempt).comp (deleteCounters_acts id attempt)).comp
    (deleteEmptyIdentity_acts id)
  intro tables other
  change ((pruneCandidate before tables id attempt).1).slice other = if other = id then
    (tables.slice other).retire before attempt else tables.slice other
  rcases pruneCandidate_eq before tables id attempt with ⟨ready, pruned⟩ | ⟨kept, pruned⟩
  · rw [pruned, removed tables other]
    by_cases same : other = id
    · subst same
      rw [if_pos rfl, if_pos rfl, Slice.retire, if_pos ready]
    · rw [if_neg same, if_neg same]
  · rw [pruned]
    by_cases same : other = id
    · subst same
      rw [if_pos rfl, Slice.retire, if_neg kept]
    · rw [if_neg same]

def retiring (candidates : List (Identity ×ₗ F)) (id : Identity) : List F :=
  (fibre (fun candidate : Identity ×ₗ F => (ofLex candidate).1) candidates id).map
    (fun candidate => (ofLex candidate).2)

/-- Retention retires generations of each identity one after another. -/
theorem pruneTerminal_slice (tables : Tables F) (before : Time) (limit : Nat) (id : Identity) :
    ((pruneTerminal collation tables before limit).1).slice id =
      (retiring (candidates collation tables before limit) id).foldl
        (fun slice attempt => slice.retire before attempt) (tables.slice id) := by
  have first : ∀ (chosen : List (Identity ×ₗ F)) (state : Tables F × Nat),
      (chosen.foldl (fun state candidate =>
        let pruned := pruneCandidate before state.1 (ofLex candidate).1 (ofLex candidate).2
        (pruned.1, state.2 + pruned.2)) state).1 =
      chosen.foldl (fun current candidate =>
        (pruneCandidate before current (ofLex candidate).1 (ofLex candidate).2).1) state.1 := by
    intro chosen
    induction chosen with
    | nil => exact fun state => rfl
    | cons candidate rest ih => exact fun state => ih _
  rw [pruneTerminal, first, retiring, List.foldl_map]
  exact foldl_view (fun candidate : Identity ×ₗ F => (ofLex candidate).1) (fun candidate current =>
      (pruneCandidate before current (ofLex candidate).1 (ofLex candidate).2).1)
    (fun candidate (slice : Slice F) => slice.retire before (ofLex candidate).2)
    (candidates collation tables before limit)
    (fun candidate _ => pruneCandidate_acts before (ofLex candidate).1 (ofLex candidate).2) tables
      id

theorem mem_doomed (tables : Tables F) (before : Time) (limit : Nat)
    (id : Identity) (member : id ∈ doomed collation tables before limit) :
    ∃ row time, tables.inbox.find? id = some row ∧ row.completedAt = some time ∧ time < before := by
  obtain ⟨⟨time, chosen⟩, taken, rfl⟩ := List.mem_map.mp member
  have listed := (List.perm_insertionSort _ _).mem_iff.mp (List.mem_of_mem_take taken)
  obtain ⟨⟨key, row⟩, stored, selected⟩ := List.mem_filterMap.mp listed
  cases completed : row.completedAt with
  | none =>
    rw [completed] at selected
    cases selected
  | some moment =>
    simp only [completed] at selected
    split at selected
    · rename_i early
      simp only [Option.some.injEq, Prod.mk.injEq] at selected
      obtain ⟨rfl, rfl⟩ := selected
      exact ⟨row, moment, (KeyedTable.mem_rows _ _ _).mp stored, completed, early⟩
    · cases selected

theorem prune_slice [Sha256 F] (tables : Tables F) (before : Time) (limit : Nat) (id : Identity) :
    ((prune collation tables before limit).tables).slice id =
      if id ∈ doomed collation tables before limit then Slice.empty else tables.slice id := by
  have selected : ∀ attempts generations terminal,
      doomed collation ⟨tables.inbox, attempts, generations, terminal⟩ before limit =
        doomed collation tables before limit := fun _ _ _ => rfl
  simp only [prune, pruneInbox, pruneAttempts, pruneAttemptGenerations, pruneCompleted, selected]
  by_cases member : id ∈ doomed collation tables before limit
  · rw [if_pos member]
    ext <;> simp [Tables.slice, Slice.empty, KeyedTable.find?_deleteWhere, member, slot]
  · rw [if_neg member]
    have kept : ∀ {V : Type} (found : Option V), found.filter (fun _ => true) = found := by
      intro V found
      cases found <;> rfl
    ext <;> simp [Tables.slice, KeyedTable.find?_deleteWhere, member, slot, kept]

section Keyed

variable [Sha256 F] (tables : Tables F) (key : Key) (fingerprint : F)

theorem forgetAttempt_slice : (forgetAttempt tables key fingerprint).tables = tables ∨
      (∃ row, (tables.slice key.identity).identity = some row ∧ row.fingerprint = fingerprint ∧
        row.completedAt = none) ∧
      ∀ id, ((forgetAttempt tables key fingerprint).tables).slice id =
        if id = key.identity then (tables.slice id).forget key.attemptGeneration
          (attemptFingerprint key.attemptGeneration fingerprint)
        else tables.slice id := by
  unfold forgetAttempt
  cases stored : tables.inbox.find? key.identity with
  | none => exact .inl rfl
  | some row =>
    by_cases conflict : row.fingerprint ≠ fingerprint
    · exact .inl (by simp [conflict, Call.rollback])
    · by_cases completed : row.completedAt ≠ none
      · exact .inl (by simp [conflict, completed])
      · refine .inr ⟨⟨row, stored, not_not.mp conflict, not_not.mp completed⟩, fun id => ?_⟩
        have removed := (deleteTerminal_acts key.identity
          (attemptFingerprint key.attemptGeneration fingerprint)).comp (deleteAttempt_acts
            key.identity key.attemptGeneration
            (attemptFingerprint key.attemptGeneration fingerprint))
        have occupied := hasAttempts_slice ((forgetTerminal tables key fingerprint).deleteAttempt
          key.identity key.attemptGeneration
          (attemptFingerprint key.attemptGeneration fingerprint)) key.identity
        rw [show ((forgetTerminal tables key fingerprint).deleteAttempt key.identity
          key.attemptGeneration (attemptFingerprint key.attemptGeneration fingerprint)).slice
            key.identity = _ from removed.here tables] at occupied
        simp only [if_neg conflict, if_neg completed]
        by_cases same : id = key.identity
        · subst same
          rw [if_pos rfl, Slice.forget]
          split
          · rename_i held
            rw [if_pos (occupied.mp held)]
            exact removed.here tables
          · rename_i empty
            rw [if_neg (fun held => empty (occupied.mpr held))]
            exact (removed.comp (deleteIncompleteIdentity_acts key.identity)).here tables
        · rw [if_neg same]
          split
          · exact removed.elsewhere same tables
          · exact (removed.comp (deleteIncompleteIdentity_acts key.identity)).elsewhere same tables

theorem confirmTerminalHandoff_slice (now : Readings) :
    (confirmTerminalHandoff now tables key fingerprint).tables = tables ∨
      (∃ row, (tables.slice key.identity).identity = some row ∧ row.fingerprint = fingerprint) ∧
      ∀ id, ((confirmTerminalHandoff now tables key fingerprint).tables).slice id =
        if id = key.identity then (tables.slice id).confirm
          (attemptFingerprint key.attemptGeneration fingerprint) now.confirmed
        else tables.slice id := by
  unfold confirmTerminalHandoff Inbox.confirm
  cases stored : tables.inbox.find? key.identity with
  | none => exact .inl rfl
  | some row =>
    by_cases conflict : row.fingerprint ≠ fingerprint
    · exact .inl (by simp [conflict, Call.rollback])
    · cases closed : tables.terminal.find? (slot key.identity
          (attemptFingerprint key.attemptGeneration fingerprint)) with
      | none => exact .inl (by simp [conflict, closed, Call.rollback])
      | some terminal =>
        refine .inr ⟨⟨row, stored, not_not.mp conflict⟩, fun id => ?_⟩
        simp only [if_neg conflict, closed]
        by_cases same : id = key.identity
        · subst same
          simp [Tables.slice, Slice.confirm, KeyedTable.find?_set, closed]
        · rw [if_neg same]
          simp [Tables.slice, KeyedTable.find?_set, Ne.symm same]

end Keyed

end Retention

end Gomessenger.Inbox
