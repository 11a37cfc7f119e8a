import Gomessenger.Lib.LocalAction
import Gomessenger.Inbox.Types

/-! The SQL statements of the Inbox and what they do to one logical identity.

Each statement names one identity, or one generation of it. `Slice` is what the
four tables hold for one identity; every statement changes the slice of the
identity it names and no other. -/

namespace Gomessenger.Inbox

open LocalAction

section Statements

variable {F : Type}

def slot (id : Identity) (attempt : F) : Identity ×ₗ F := toLex (id, attempt)

@[simp] theorem slot_inj (id other : Identity) (attempt next : F) :
    slot id attempt = slot other next ↔ id = other ∧ attempt = next := by
  simp [slot]

variable [LinearOrder F]

structure AttemptState where
  attempt : Nat
  terminal : Bool
  kind : Option TerminalKind
  deriving DecidableEq, Repr

namespace Tables

variable (tables : Tables F) (id : Identity) (generation : String) (attempt : F) (now : Time)

def insertIdentity (fingerprint : F) : Tables F :=
  match tables.inbox.find? id with
  | none => { tables with inbox := tables.inbox.set id ⟨fingerprint, now, none⟩ }
  | some _ => tables

def markComplete : Tables F :=
  { tables with inbox := tables.inbox.modify id (fun row => { row with completedAt := some now }) }

/-- The counter of a generation; the empty one is kept in the legacy table. -/
def readCounter : Option CounterRow :=
  if generation = "" then (tables.attempts.find? id).map AttemptRow.toCounterRow
  else tables.attemptGenerations.find? (slot id attempt)

def insertCounter (row : CounterRow) : Tables F :=
  if generation = "" then { tables with attempts := tables.attempts.set id ⟨row, attempt⟩ }
  else { tables with attemptGenerations := tables.attemptGenerations.set (slot id attempt) row }

def updateCounter (change : CounterRow → CounterRow) : Tables F :=
  if generation = "" then
    { tables with attempts := tables.attempts.modify id (AttemptRow.recount change) }
  else
    { tables with
        attemptGenerations := tables.attemptGenerations.modify (slot id attempt) change }

def deleteAttempt : Tables F :=
  if generation = "" then { tables with attempts := tables.attempts.erase id }
  else { tables with attemptGenerations := tables.attemptGenerations.erase (slot id attempt) }

def insertAttempt : Except GoError (Tables F) :=
  match tables.readCounter id generation attempt with
  | none => .ok (tables.insertCounter id generation attempt ⟨1, false, now⟩)
  | some _ => .error (.text "unique constraint violated")

def incrementAttempt : Tables F :=
  tables.updateCounter id generation attempt (fun row =>
    { row with attempts := row.attempts + 1, updatedAt := now })

def markTerminal : Tables F :=
  tables.updateCounter id generation attempt (fun row =>
    { row with terminal := true, updatedAt := now })

def upsertAttempt : Tables F :=
  match tables.readCounter id generation attempt with
  | none => tables.insertCounter id generation attempt ⟨1, false, now⟩
  | some _ => tables.incrementAttempt id generation attempt now

/-- `INSERT … ON CONFLICT DO NOTHING` of a counter that has consumed no attempt. -/
def insertDeferred : Tables F :=
  match tables.readCounter id generation attempt with
  | none => tables.insertCounter id generation attempt ⟨0, false, now⟩
  | some _ => tables

/-- The legacy statement joins on the counter row's own fingerprint. -/
def readAttempt : Option AttemptState :=
  if generation = "" then
    (tables.attempts.find? id).map (fun row =>
      ⟨row.attempts, row.terminal, (tables.terminal.find? (slot id row.fingerprint)).map
        TerminalRow.failureKind⟩)
  else
    (tables.attemptGenerations.find? (slot id attempt)).map (fun row =>
      ⟨row.attempts, row.terminal, (tables.terminal.find? (slot id attempt)).map
        TerminalRow.failureKind⟩)

def generationRows : List CounterRow :=
  (tables.attemptGenerations.rows.filter (fun entry => (ofLex entry.1).1 = id)).map Prod.snd

def hasAttempts : Bool :=
  (tables.attempts.find? id).isSome || !(tables.generationRows id).isEmpty

/-- The greatest terminal flag and the number of the identity's counter rows. -/
def inspectAttempts : Nat × Nat :=
  let rows := ((tables.attempts.find? id).map AttemptRow.toCounterRow).toList ++
    tables.generationRows id
  (rows.foldl (fun most row => max most (if row.terminal then 1 else 0)) 0, rows.length)

def deleteIncompleteIdentity : Tables F :=
  { tables with
      inbox := tables.inbox.deleteWhere (fun key row => key = id && row.completedAt.isNone) }

/-- `INSERT … ON CONFLICT DO UPDATE SET handoff_confirmed_at = NULL`. -/
def upsertTerminal (count : Nat) (counted : 0 < count) (kind : TerminalKind) : Tables F :=
  { tables with
      terminal := match tables.terminal.find? (slot id attempt) with
        | none => tables.terminal.set (slot id attempt) ⟨count, counted, kind, now, none⟩
        | some row =>
          tables.terminal.set (slot id attempt) { row with handoffConfirmedAt := none } }

def deleteTerminal : Tables F :=
  { tables with terminal := tables.terminal.erase (slot id attempt) }

end Tables

/-- The rows of one logical identity. -/
@[ext] structure Slice (F : Type) where
  identity : Option (IdentityRow F)
  legacy : Option (AttemptRow F)
  generations : F → Option CounterRow
  terminal : F → Option TerminalRow

def Tables.slice (tables : Tables F) (id : Identity) : Slice F :=
  ⟨tables.inbox.find? id, tables.attempts.find? id,
    fun attempt => tables.attemptGenerations.find? (slot id attempt),
    fun attempt => tables.terminal.find? (slot id attempt)⟩

namespace Slice

def empty : Slice F := ⟨none, none, fun _ => none, fun _ => none⟩

variable (slice : Slice F) (generation : String) (attempt : F) (now : Time)

def insertIdentity (fingerprint : F) : Slice F :=
  match slice.identity with
  | none => { slice with identity := some ⟨fingerprint, now, none⟩ }
  | some _ => slice

def markComplete : Slice F :=
  { slice with identity := slice.identity.map (fun row => { row with completedAt := some now }) }

def readCounter : Option CounterRow :=
  if generation = "" then slice.legacy.map AttemptRow.toCounterRow else slice.generations attempt

def insertCounter (row : CounterRow) : Slice F :=
  if generation = "" then { slice with legacy := some ⟨row, attempt⟩ }
  else
    { slice with
        generations := fun other => if attempt = other then some row else slice.generations other }

def updateCounter (change : CounterRow → CounterRow) : Slice F :=
  if generation = "" then
    { slice with legacy := slice.legacy.map (AttemptRow.recount change) }
  else
    { slice with generations := fun other =>
        if attempt = other then (slice.generations other).map change
        else slice.generations other }

def deleteAttempt : Slice F :=
  if generation = "" then { slice with legacy := none }
  else
    { slice with
        generations := fun other => if attempt = other then none else slice.generations other }

def incrementAttempt : Slice F :=
  slice.updateCounter generation attempt
    (fun row => { row with attempts := row.attempts + 1, updatedAt := now })

def markTerminal : Slice F :=
  slice.updateCounter generation attempt
    (fun row => { row with terminal := true, updatedAt := now })

def upsertAttempt : Slice F :=
  match slice.readCounter generation attempt with
  | none => slice.insertCounter generation attempt ⟨1, false, now⟩
  | some _ => slice.incrementAttempt generation attempt now

def insertDeferred : Slice F :=
  match slice.readCounter generation attempt with
  | none => slice.insertCounter generation attempt ⟨0, false, now⟩
  | some _ => slice

def readAttempt : Option AttemptState :=
  if generation = "" then
    slice.legacy.map (fun row =>
      ⟨row.attempts, row.terminal, (slice.terminal row.fingerprint).map TerminalRow.failureKind⟩)
  else
    (slice.generations attempt).map (fun row =>
      ⟨row.attempts, row.terminal, (slice.terminal attempt).map TerminalRow.failureKind⟩)

def HasAttempts : Prop := slice.legacy ≠ none ∨ ∃ other, slice.generations other ≠ none

def deleteIncompleteIdentity : Slice F :=
  { slice with identity := slice.identity.filter (fun row => row.completedAt.isSome) }

def upsertTerminal (count : Nat) (counted : 0 < count) (kind : TerminalKind) : Slice F :=
  { slice with
      terminal := fun other =>
        if attempt = other then
          match slice.terminal attempt with
          | none => some ⟨count, counted, kind, now, none⟩
          | some row => some { row with handoffConfirmedAt := none }
        else slice.terminal other }

def deleteTerminal : Slice F :=
  { slice with terminal := fun other => if attempt = other then none else slice.terminal other }

end Slice

@[simp] theorem slice_empty (id : Identity) : (Tables.empty F).slice id = Slice.empty := rfl

theorem tables_ext (left right : Tables F) (same : ∀ id, left.slice id = right.slice id) :
    left = right := by
  obtain ⟨inbox, attempts, generations, terminal⟩ := left
  obtain ⟨inbox₂, attempts₂, generations₂, terminal₂⟩ := right
  have parts : ∀ id, inbox.find? id = inbox₂.find? id ∧ attempts.find? id = attempts₂.find? id ∧
      (∀ attempt, generations.find? (slot id attempt) = generations₂.find? (slot id attempt)) ∧
      ∀ attempt, terminal.find? (slot id attempt) = terminal₂.find? (slot id attempt) := by
    intro id
    have equal := same id
    simp only [Tables.slice, Slice.mk.injEq] at equal
    exact ⟨equal.1, equal.2.1, congrFun equal.2.2.1, congrFun equal.2.2.2⟩
  have identities : inbox = inbox₂ := KeyedTable.ext_find? _ _ (fun id => (parts id).1)
  have counters : attempts = attempts₂ := KeyedTable.ext_find? _ _ (fun id => (parts id).2.1)
  have replays : generations = generations₂ := KeyedTable.ext_find? _ _
    (fun key => (parts (ofLex key).1).2.2.1 (ofLex key).2)
  have closures : terminal = terminal₂ := KeyedTable.ext_find? _ _
    (fun key => (parts (ofLex key).1).2.2.2 (ofLex key).2)
  rw [identities, counters, replays, closures]

theorem readCounter_slice (tables : Tables F) (id : Identity) (generation : String) (attempt : F) :
    tables.readCounter id generation attempt = (tables.slice id).readCounter generation attempt :=
  rfl

theorem readAttempt_slice (tables : Tables F) (id : Identity) (generation : String) (attempt : F) :
    tables.readAttempt id generation attempt = (tables.slice id).readAttempt generation attempt :=
  rfl

section Locality

variable (id : Identity) (generation : String) (attempt : F) (now : Time)

theorem insertIdentity_acts (fingerprint : F) :
    ActsAt Tables.slice id (fun tables => tables.insertIdentity id now fingerprint)
      (fun slice => slice.insertIdentity now fingerprint) := by
  intro tables other
  simp only [Tables.insertIdentity, Slice.insertIdentity]
  by_cases same : other = id
  · subst same
    cases found : tables.inbox.find? other <;> simp [Tables.slice, found]
  · cases found : tables.inbox.find? id <;>
      simp [Tables.slice, KeyedTable.find?_set, same, Ne.symm same]

theorem markComplete_acts :
    ActsAt Tables.slice id (fun tables : Tables F => tables.markComplete id now)
      (fun slice => slice.markComplete now) := by
  intro tables other
  by_cases same : other = id
  · subst same
    simp [Tables.slice, Tables.markComplete, Slice.markComplete, KeyedTable.find?_modify]
  · simp [Tables.slice, Tables.markComplete, KeyedTable.find?_modify, same, Ne.symm same]

theorem insertCounter_acts (row : CounterRow) :
    ActsAt Tables.slice id (fun tables => tables.insertCounter id generation attempt row)
      (fun slice => slice.insertCounter generation attempt row) := by
  intro tables other
  simp only [Tables.insertCounter, Slice.insertCounter]
  by_cases same : other = id
  · subst same
    split <;> simp [Tables.slice, KeyedTable.find?_set]
  · rw [if_neg same]
    split <;> simp [Tables.slice, KeyedTable.find?_set, Ne.symm same]

theorem updateCounter_acts (change : CounterRow → CounterRow) :
    ActsAt Tables.slice id (fun tables => tables.updateCounter id generation attempt change)
      (fun slice => slice.updateCounter generation attempt change) := by
  intro tables other
  simp only [Tables.updateCounter, Slice.updateCounter]
  by_cases same : other = id
  · subst same
    split <;> simp [Tables.slice, KeyedTable.find?_modify]
  · rw [if_neg same]
    split <;> simp [Tables.slice, KeyedTable.find?_modify, Ne.symm same]

theorem deleteAttempt_acts :
    ActsAt Tables.slice id (fun tables => tables.deleteAttempt id generation attempt)
      (fun slice => slice.deleteAttempt generation attempt) := by
  intro tables other
  simp only [Tables.deleteAttempt, Slice.deleteAttempt]
  by_cases same : other = id
  · subst same
    split <;> simp [Tables.slice, KeyedTable.find?_erase]
  · rw [if_neg same]
    split <;> simp [Tables.slice, KeyedTable.find?_erase, Ne.symm same]

theorem upsertAttempt_acts :
    ActsAt Tables.slice id (fun tables => tables.upsertAttempt id generation attempt now)
      (fun slice => slice.upsertAttempt generation attempt now) := by
  intro tables other
  simp only [Tables.upsertAttempt, Slice.upsertAttempt, readCounter_slice]
  by_cases same : other = id
  · subst same
    cases (tables.slice other).readCounter generation attempt with
    | none => exact insertCounter_acts other generation attempt _ tables other
    | some row => exact updateCounter_acts other generation attempt _ tables other
  · rw [if_neg same]
    cases (tables.slice id).readCounter generation attempt with
    | none => exact (insertCounter_acts id generation attempt _).elsewhere same tables
    | some row => exact (updateCounter_acts id generation attempt _).elsewhere same tables

theorem insertDeferred_acts :
    ActsAt Tables.slice id (fun tables => tables.insertDeferred id generation attempt now)
      (fun slice => slice.insertDeferred generation attempt now) := by
  intro tables other
  simp only [Tables.insertDeferred, Slice.insertDeferred, readCounter_slice]
  by_cases same : other = id
  · subst same
    cases (tables.slice other).readCounter generation attempt with
    | none => exact insertCounter_acts other generation attempt _ tables other
    | some row => simp
  · rw [if_neg same]
    cases (tables.slice id).readCounter generation attempt with
    | none => exact (insertCounter_acts id generation attempt _).elsewhere same tables
    | some row => rfl

theorem deleteIncompleteIdentity_acts :
    ActsAt Tables.slice id (fun tables : Tables F => tables.deleteIncompleteIdentity id)
      (fun slice => slice.deleteIncompleteIdentity) := by
  intro tables other
  by_cases same : other = id
  · subst same
    cases tables.inbox.find? other <;>
      simp [Tables.slice, Tables.deleteIncompleteIdentity, Slice.deleteIncompleteIdentity,
        KeyedTable.find?_deleteWhere]
  · cases found : tables.inbox.find? other <;>
      simp [Tables.slice, Tables.deleteIncompleteIdentity,
        KeyedTable.find?_deleteWhere, same, found]

theorem upsertTerminal_acts (count : Nat) (counted : 0 < count) (kind : TerminalKind) :
    ActsAt Tables.slice id (fun tables => tables.upsertTerminal id attempt now count counted kind)
      (fun slice => slice.upsertTerminal attempt now count counted kind) := by
  intro tables other
  simp only [Tables.upsertTerminal, Slice.upsertTerminal]
  by_cases same : other = id
  · subst same
    cases found : tables.terminal.find? (slot other attempt) <;>
      simp [Tables.slice, KeyedTable.find?_set, found]
  · cases tables.terminal.find? (slot id attempt) <;>
      simp [Tables.slice, KeyedTable.find?_set, same, Ne.symm same]

theorem deleteTerminal_acts :
    ActsAt Tables.slice id (fun tables => tables.deleteTerminal id attempt)
      (fun slice => slice.deleteTerminal attempt) := by
  intro tables other
  by_cases same : other = id
  · subst same
    simp [Tables.slice, Tables.deleteTerminal, Slice.deleteTerminal, KeyedTable.find?_erase]
  · simp [Tables.slice, Tables.deleteTerminal, KeyedTable.find?_erase, same, Ne.symm same]

end Locality

theorem mem_generationRows (tables : Tables F) (id : Identity) (row : CounterRow) :
    row ∈ tables.generationRows id ↔ ∃ attempt,
      (tables.slice id).generations attempt = some row := by
  simp only [Tables.generationRows, List.mem_map, List.mem_filter, decide_eq_true_eq]
  constructor
  · rintro ⟨⟨key, value⟩, ⟨member, same⟩, rfl⟩
    refine ⟨(ofLex key).2, ?_⟩
    have found := (KeyedTable.mem_rows _ _ _).mp member
    have key_eq : slot id (ofLex key).2 = key := by
      rw [← same]
      rfl
    simpa only [Tables.slice, key_eq] using found
  · rintro ⟨attempt, found⟩
    exact ⟨(slot id attempt, row), ⟨(KeyedTable.mem_rows _ _ _).mpr found, rfl⟩, rfl⟩

theorem hasAttempts_slice (tables : Tables F) (id : Identity) :
    tables.hasAttempts id = true ↔ (tables.slice id).HasAttempts := by
  simp only [Tables.hasAttempts, Slice.HasAttempts, Bool.or_eq_true, Option.isSome_iff_ne_none,
    Bool.not_eq_true', List.isEmpty_eq_false_iff_exists_mem]
  apply or_congr Iff.rfl
  constructor
  · rintro ⟨row, member⟩
    obtain ⟨attempt, found⟩ := (mem_generationRows tables id row).mp member
    exact ⟨attempt, by simp [found]⟩
  · rintro ⟨attempt, present⟩
    obtain ⟨row, found⟩ := Option.ne_none_iff_exists'.mp present
    exact ⟨row, (mem_generationRows tables id row).mpr ⟨attempt, found⟩⟩

end Statements

end Gomessenger.Inbox
