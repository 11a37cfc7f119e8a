import Gomessenger.Inbox.Integrity

/-! The PostgreSQL migrations of the Inbox, run again on a store in use.

A migration is one request: its statements take effect together or not at all. -/

namespace Gomessenger.Inbox

section Migrations

variable {F : Type} [LinearOrder F]

/-- The tables and indexes of a namespace that exist. -/
structure Database (F : Type) [LinearOrder F] where
  inbox : Option (KeyedTable Identity (IdentityRow F))
  completedAtIndex : Bool
  attempts : Option (KeyedTable Identity (AttemptRow F))
  attemptGenerations : Option (KeyedTable (Identity ×ₗ F) CounterRow)
  terminal : Option (KeyedTable (Identity ×ₗ F) TerminalRow)
  terminalHandoffIndex : Bool

namespace Database

def unmigrated : Database F := ⟨none, false, none, none, none, false⟩

def ofTables (tables : Tables F) : Database F :=
  ⟨some tables.inbox, true, some tables.attempts, some tables.attemptGenerations,
    some tables.terminal, true⟩

end Database

def createTable {K V : Type} [LinearOrder K] (table : Option (KeyedTable K V)) : KeyedTable K V :=
  table.getD .empty

def relation {K V : Type} [LinearOrder K] (table : Option (KeyedTable K V)) :
    Except GoError (KeyedTable K V) :=
  match table with
  | some table => .ok table
  | none => .error (.text "relation does not exist")

def createInbox (database : Database F) : Except GoError (Database F) :=
  .ok { database with inbox := some (createTable database.inbox), completedAtIndex := true }

def createInboxAttempts (database : Database F) : Except GoError (Database F) :=
  .ok { database with attempts := some (createTable database.attempts) }

def createInboxAttemptGenerations (database : Database F) : Except GoError (Database F) :=
  .ok { database with attemptGenerations := some (createTable database.attemptGenerations) }

def backfillRow (terminal : KeyedTable (Identity ×ₗ F) TerminalRow)
    (entry : (Identity ×ₗ F) × CounterRow) :
    KeyedTable (Identity ×ₗ F) TerminalRow :=
  if selected : entry.2.terminal = true ∧ 0 < entry.2.attempts then
    match terminal.find? entry.1 with
    | some _ => terminal
    | none =>
      terminal.set entry.1 ⟨entry.2.attempts, selected.2, .permanent, entry.2.updatedAt, none⟩
  else terminal

def backfill (entries : List ((Identity ×ₗ F) × CounterRow))
    (terminal : KeyedTable (Identity ×ₗ F) TerminalRow) :
    KeyedTable (Identity ×ₗ F) TerminalRow :=
  entries.foldl backfillRow terminal

def legacyEntries (attempts : KeyedTable Identity (AttemptRow F)) :
    List ((Identity ×ₗ F) × CounterRow) :=
  attempts.rows.map fun entry => (slot entry.1 entry.2.fingerprint, entry.2.toCounterRow)

def createInboxTerminal (database : Database F) : Except GoError (Database F) := do
  let terminal := createTable database.terminal
  let attempts ← relation database.attempts
  let terminal := backfill (legacyEntries attempts) terminal
  let generations ← relation database.attemptGenerations
  return { database with
    terminal := some (backfill generations.rows terminal)
    terminalHandoffIndex := true }

inductive Migration
  | createInbox
  | createInboxAttempts
  | createInboxAttemptGenerations
  | createInboxTerminal
  deriving DecidableEq

def migrations : List Migration :=
  [.createInbox, .createInboxAttempts, .createInboxAttemptGenerations, .createInboxTerminal]

def Migration.statements : Migration → Database F → Except GoError (Database F)
  | .createInbox => Inbox.createInbox
  | .createInboxAttempts => Inbox.createInboxAttempts
  | .createInboxAttemptGenerations => Inbox.createInboxAttemptGenerations
  | .createInboxTerminal => Inbox.createInboxTerminal

/-- What the connection does to a migration: nothing, or it fails, before or after
the migration took effect. -/
inductive Connection
  | up
  | fails (applied : Bool) (err : GoError)

def applyMigration (connection : Connection) (migration : Migration) (database : Database F) :
    Database F × Option GoError :=
  match migration.statements database, connection with
  | .ok after, .up => (after, none)
  | .ok after, .fails applied err =>
    (if applied then after else database, some (.wrap "inbox/pgsql: apply migration" err))
  | .error err, _ => (database, some (.wrap "inbox/pgsql: apply migration" err))

def migrateFrom (connections : Migration → Connection) :
    List Migration → Database F → Database F × Option GoError
  | [], database => (database, none)
  | migration :: rest, database =>
    match applyMigration (connections migration) migration database with
    | (after, some err) => (after, some err)
    | (after, none) => migrateFrom connections rest after

def migrate (connections : Migration → Connection) (database : Database F) :
    Database F × Option GoError :=
  migrateFrom connections migrations database

variable {terminal : KeyedTable (Identity ×ₗ F) TerminalRow}

theorem backfillRow_present {entry : (Identity ×ₗ F) × CounterRow}
    (closed : entry.2.terminal = true → 0 < entry.2.attempts → terminal.find? entry.1 ≠ none) :
    backfillRow terminal entry = terminal := by
  unfold backfillRow
  split_ifs with selected
  · obtain ⟨row, found⟩ := Option.ne_none_iff_exists'.mp (closed selected.1 selected.2)
    rw [found]
  · rfl

theorem backfill_present {entries : List ((Identity ×ₗ F) × CounterRow)}
    (closed : ∀ entry ∈ entries, entry.2.terminal = true → 0 < entry.2.attempts →
      terminal.find? entry.1 ≠ none) :
    backfill entries terminal = terminal := by
  induction entries with
  | nil => rfl
  | cons entry rest ih =>
    have here := backfillRow_present (closed entry (.head _))
    have later := ih (fun other member => closed other (.tail _ member))
    unfold backfill at later ⊢
    rw [List.foldl_cons, here]
    exact later

theorem createInboxTerminal_related {tables : Tables F} (related : tables.Related) :
    createInboxTerminal (Database.ofTables tables) = .ok (Database.ofTables tables) := by
  have legacy : backfill (legacyEntries tables.attempts) tables.terminal = tables.terminal := by
    apply backfill_present
    intro entry member flag _
    obtain ⟨⟨id, counter⟩, stored, rfl⟩ := List.mem_map.mp member
    obtain ⟨row, found, _⟩ :=
      related.flaggedAttempts id counter ((tables.attempts.mem_rows id counter).mp stored) flag
    rw [found]
    exact Option.some_ne_none row
  have generations : backfill tables.attemptGenerations.rows tables.terminal = tables.terminal := by
    apply backfill_present
    intro entry member flag _
    obtain ⟨key, counter⟩ := entry
    obtain ⟨row, found, _⟩ := related.flaggedGenerations (ofLex key).1 (ofLex key).2 counter
      ((tables.attemptGenerations.mem_rows key counter).mp member) flag
    show tables.terminal.find? key ≠ none
    rw [show key = slot (ofLex key).1 (ofLex key).2 from rfl, found]
    exact Option.some_ne_none row
  show Except.ok _ = _
  simp [Database.ofTables, createTable, legacy, generations]

theorem statements_related {tables : Tables F} (related : tables.Related) (migration : Migration) :
    migration.statements (Database.ofTables tables) = .ok (Database.ofTables tables) := by
  cases migration with
  | createInbox => rfl
  | createInboxAttempts => rfl
  | createInboxAttemptGenerations => rfl
  | createInboxTerminal => exact createInboxTerminal_related related

variable {database : Database F}

theorem applyMigration_unchanged {migration : Migration}
    (unchanged : migration.statements database = .ok database) (connection : Connection) :
    (applyMigration connection migration database).1 = database ∧
      (connection = .up → (applyMigration connection migration database).2 = none) := by
  unfold applyMigration
  rw [unchanged]
  cases connection with
  | up => exact ⟨rfl, fun _ => rfl⟩
  | fails applied err => exact ⟨ite_self _, nofun⟩

theorem migrateFrom_unchanged (unchanged : ∀ migration : Migration,
    migration.statements database = .ok database)
    (connections : Migration → Connection) (pending : List Migration) :
    (migrateFrom connections pending database).1 = database ∧
      ((∀ migration, connections migration = .up) →
        (migrateFrom connections pending database).2 = none) := by
  induction pending with
  | nil => exact ⟨rfl, fun _ => rfl⟩
  | cons migration rest ih =>
    obtain ⟨same, passes⟩ := applyMigration_unchanged (unchanged migration) (connections migration)
    unfold migrateFrom
    rcases outcome : applyMigration (connections migration) migration database with ⟨after, err⟩
    rw [outcome] at same passes
    obtain rfl : after = database := same
    cases err with
    | none => exact ih
    | some err => exact ⟨rfl, fun willing => nomatch passes (willing migration)⟩

variable [Sha256 F]

/-- A new namespace is migrated to empty tables, and migrating the store again
in any state its calls reach changes nothing. A connection that stays up lets the
migration succeed. The calls may instead show a collision of the digest. -/
theorem migrations_change_no_row (connections : Migration → Connection) :
    migrate (fun _ => .up) (Database.unmigrated : Database F) =
      (Database.ofTables (Tables.empty F), none) ∧
    ∀ (collation : Collation) (steps : List (Step F)),
      let tables := run (.pgsql collation) (Tables.empty F) steps
      Collision "" steps ∨
      (migrate connections (Database.ofTables tables)).1 = Database.ofTables tables ∧
        ((∀ migration, connections migration = .up) →
          (migrate connections (Database.ofTables tables)).2 = none) := by
  refine ⟨rfl, fun collation steps => or_iff_not_imp_left.mpr fun clear => ?_⟩
  have related := run_related (.pgsql collation) steps clear
  exact migrateFrom_unchanged (statements_related related) connections migrations

/-- A permanent failure that is forgotten leaves nothing to fill back. -/
theorem migrations_change_no_row_forgotten :
    let failing : Op Preimage := .processAttempt sampleKey ⟨[1]⟩ 5 (some (.permanent (.text "bad")))
    let forgetting : Op Preimage := .forgetAttempt sampleKey ⟨[1]⟩
    let tables := run (.pgsql .binary) (Tables.empty Preimage)
      [sampleStep failing, sampleStep forgetting]
    tables.terminal.rows = [] ∧
      (migrate (fun _ => .up) (Database.ofTables tables)).1 = Database.ofTables tables := by
  intro failing forgetting tables
  have unchanged := (migrations_change_no_row (fun _ => .up)).2 .binary
    [sampleStep failing, sampleStep forgetting]
  exact ⟨by decide, (unchanged.resolve_left (by unfold Collision; decide)).1⟩

end Migrations

end Gomessenger.Inbox
