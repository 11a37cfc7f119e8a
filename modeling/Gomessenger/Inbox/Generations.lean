import Gomessenger.Inbox.Separation

/-! A call touches the rows of the attempt generations it names and no others. -/

namespace Gomessenger.Inbox

open LocalAction

section Generations

variable {F : Type}

def Op.keys : Op F → List Key
  | .process key _ _ => [key]
  | .processAttempt key _ _ _ => [key]
  | .processBatchAttempt items _ _ => items.map BatchItem.key
  | .forgetAttempt key _ => [key]
  | .confirmTerminalHandoff key _ => [key]
  | .prune _ _ => []
  | .pruneTerminalAttempts _ _ => []

variable [LinearOrder F] [Sha256 F]

theorem Effect.process_untouched {now : Readings} {id : Identity} {slice : Slice F} {key : Key}
    {fingerprint : F} {outcome : Option GoError} {trace : Trace F}
    (effect : Effect now id slice (.process key fingerprint outcome) trace) (generation : String)
    (attempt : F) : slice.Untouched trace.slice generation attempt := by
  cases effect with
  | idle | abandoned | dropped => exact .refl slice
  | refused op item maxAttempts next member here limit => cases limit
  | attempted op item maxAttempts outcome next member here limit => cases limit
  | processed =>
    exact (Slice.Untouched.insertIdentity slice now.created _).trans (.of_rows rfl rfl rfl)

/-- What a call that names keys leaves of an identity: everything, or everything
outside one generation it names. -/
theorem Effect.outside {now : Readings} {id : Identity} {slice : Slice F} {op : Op F}
    {trace : Trace F} (effect : Effect now id slice op trace) (keyed : op.isRetention = false) :
    trace.slice = slice ∨ ∃ key ∈ op.keys, key.identity = id ∧ ∃ fingerprint : F,
      slice.Matches fingerprint ∧ trace.slice.Matches fingerprint ∧
      slice.Untouched trace.slice key.attemptGeneration
        (attemptFingerprint key.attemptGeneration fingerprint) := by
  rcases effect.touched keyed with same | ⟨item, member, here, before, later, untouched⟩
  · exact .inl same
  · right
    cases op with
    | process key fingerprint outcome =>
      obtain rfl := List.mem_singleton.mp member
      exact ⟨key, .head _, here, fingerprint, before, later, effect.process_untouched _ _⟩
    | processAttempt | forgetAttempt | confirmTerminalHandoff =>
      obtain rfl := List.mem_singleton.mp member
      exact ⟨_, .head _, here, _, before, later, untouched⟩
    | processBatchAttempt items maxAttempts handler =>
      exact ⟨item.key, List.mem_map_of_mem member, here, item.fingerprint, before, later, untouched⟩
    | prune | pruneTerminalAttempts => cases keyed

/-- Every replay counter and terminal row belongs to a generation of a stored identity. -/
def Tables.Generated (tables : Tables F) : Prop :=
  ∀ id attempt, (tables.attemptGenerations.find? (slot id attempt) ≠ none ∨
      tables.terminal.find? (slot id attempt) ≠ none) →
    ∃ stored generation, tables.inbox.find? id = some stored ∧
      attempt = attemptFingerprint generation stored.fingerprint

omit [LinearOrder F] in
theorem Slice.Coherent.terminal_generation {slice : Slice F} (coherent : slice.Coherent)
    (attempt : F) (closed : slice.terminal attempt ≠ none) :
    ∃ stored generation, slice.identity = some stored ∧
      attempt = attemptFingerprint generation stored.fingerprint := by
  have spent := coherent.closed attempt closed
  obtain ⟨stored, identity⟩ := Option.ne_none_iff_exists'.mp
    (fun missing => coherent.tracked missing spent.hasAttempts)
  rcases spent with ⟨row, found, print, _⟩ | ⟨row, found, _⟩
  · refine ⟨stored, "", identity, ?_⟩
    rw [attemptFingerprint_empty, ← print]
    exact coherent.stamped row stored found identity
  · obtain ⟨generation, _, derived⟩ := coherent.derived attempt stored
      (by rw [found]; exact Option.some_ne_none row) identity
    exact ⟨stored, generation, identity, derived⟩

theorem Tables.Coherent.generated {tables : Tables F} (coherent : tables.Coherent) :
    tables.Generated := by
  rintro id attempt (counted | closed)
  · obtain ⟨stored, identity⟩ := Option.ne_none_iff_exists'.mp
      (fun missing => (coherent id).tracked missing (.inr ⟨attempt, counted⟩))
    obtain ⟨generation, _, derived⟩ := (coherent id).derived attempt stored counted identity
    exact ⟨stored, generation, identity, derived⟩
  · exact (coherent id).terminal_generation attempt closed

/-- In every reachable state a call of `Process`, `ProcessAttempt`,
`ProcessBatchAttempt`, `ForgetAttempt` or `ConfirmTerminalHandoff` leaves every
row of the identities it does not name, and every counter and terminal row of the
generations it does not name, as they were, unless the digest takes such a
generation and one it names to the same attempt fingerprint. -/
theorem generation_isolation (backend : Backend) (earlier : List (Step F)) (taken : Step F)
    (keyed : taken.op.isRetention = false) :
    let tables := run backend (Tables.empty F) earlier
    let after := (step backend tables taken).tables
    (∀ id, (∀ key ∈ taken.op.keys, key.identity ≠ id) → after.slice id = tables.slice id) ∧
    (∀ id generation, (∀ key ∈ taken.op.keys, key.identity = id →
      key.attemptGeneration ≠ generation) →
      (generation = "" → after.attempts.find? id = tables.attempts.find? id) ∧
      ∀ stored, (tables.inbox.find? id = some stored ∨ after.inbox.find? id = some stored) →
        let attempt := slot id (attemptFingerprint generation stored.fingerprint)
        (∃ key ∈ taken.op.keys, key.attemptGeneration ≠ generation ∧
          attemptFingerprint key.attemptGeneration stored.fingerprint =
            attemptFingerprint generation stored.fingerprint) ∨
        (generation ≠ "" →
          after.attemptGenerations.find? attempt = tables.attemptGenerations.find? attempt) ∧
        after.terminal.find? attempt = tables.terminal.find? attempt) ∧
    tables.Generated ∧ after.Generated := by
  intro tables after
  have coherent : tables.Coherent := run_coherent backend earlier _ (fun _ => coherent_empty)
  have outside := fun id => (step_effect backend tables coherent.tracked taken id).outside keyed
  refine ⟨fun id absent => ?_, fun id generation absent => ?_, coherent.generated,
    (step_coherent backend tables taken coherent).generated⟩
  · rcases outside id with same | ⟨key, member, here, _⟩
    · exact same
    · exact absurd here (absent key member)
  · rcases outside id with same | ⟨key, member, here, fingerprint, before, later, untouched⟩
    · have rows : after.slice id = tables.slice id := same
      refine ⟨fun _ => congrArg Slice.legacy rows, fun stored _ => .inr ⟨fun _ => ?_, ?_⟩⟩
      · exact congrFun (congrArg Slice.generations rows) _
      · exact congrFun (congrArg Slice.terminal rows) _
    · have other := absent key member here
      refine ⟨fun legacy => untouched.legacy (fun empty => other (empty.trans legacy.symm)),
        fun stored known => ?_⟩
      obtain rfl : stored.fingerprint = fingerprint := known.elim (before stored) (later stored)
      by_cases collides : attemptFingerprint key.attemptGeneration stored.fingerprint =
          attemptFingerprint generation stored.fingerprint
      · exact .inl ⟨key, member, other, collides⟩
      · exact .inr ⟨fun _ => untouched.generations _ (.inr (Ne.symm collides)),
          untouched.terminal _ (Ne.symm collides)⟩

/-- A failed replay leaves the first delivery's counter and terminal row as they were. -/
theorem generation_isolation_replayed :
    let first : Step Preimage :=
      sampleStep (.processAttempt sampleKey ⟨[1]⟩ 5 (some (.permanent (.text "bad"))))
    let replay : Step Preimage := sampleStep (.processAttempt
      { sampleKey with attemptGeneration := "r1" } ⟨[1]⟩ 5 (some (.text "busy")))
    let tables := run .sqlite (Tables.empty Preimage) [first]
    let after := (step .sqlite tables replay).tables
    after ≠ tables ∧ after.attempts.find? sampleKey.identity =
      tables.attempts.find? sampleKey.identity ∧
      (after.terminal.find? (keySlot sampleKey ⟨[1]⟩)).isSome = true ∧
      after.terminal.find? (keySlot sampleKey ⟨[1]⟩) =
        tables.terminal.find? (keySlot sampleKey ⟨[1]⟩) := by
  intro first replay tables after
  obtain ⟨counter, rows⟩ := (generation_isolation .sqlite [first] replay rfl).2.1
    sampleKey.identity "" (by decide)
  refine ⟨by decide, counter rfl, by decide, ?_⟩
  exact ((rows ⟨⟨[1]⟩, sampleReadings.created, none⟩ (.inl (by decide))).resolve_left (by decide)).2

end Generations

end Gomessenger.Inbox
