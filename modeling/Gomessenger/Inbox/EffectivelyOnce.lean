import Gomessenger.Inbox.Coherence

/-! Effectively once: a logical identity succeeds at most once while it exists. -/

namespace Gomessenger.Inbox

open LocalAction

section EffectivelyOnce

variable {F : Type}

def Slice.Completed (slice : Slice F) : Prop :=
  ∃ row, slice.identity = some row ∧ row.completedAt ≠ none

def Op.isRetention : Op F → Bool
  | .prune _ _ => true
  | .pruneTerminalAttempts _ _ => true
  | _ => false

def Trace.successes (trace : Trace F) : Nat := trace.finished.countP (fun entry => entry.2.isNone)

theorem Slice.Available.incomplete {slice : Slice F} {fingerprint : F}
    (available : slice.Available fingerprint) : ¬ slice.Completed := by
  rintro ⟨row, stored, completed⟩
  exact completed (available row stored).2

theorem Slice.Unclaimed.available {slice : Slice F} {fingerprint : F}
    (unclaimed : slice.Unclaimed fingerprint) : slice.Available fingerprint := by
  intro row stored
  rcases unclaimed with missing | ⟨other, found, same, incomplete, _⟩
  · rw [missing] at stored
    cases stored
  · rw [← Option.some.inj (found.symm.trans stored)]
    exact ⟨same, incomplete⟩

variable [LinearOrder F]

theorem Slice.retire_completed (slice : Slice F) (completed : slice.Completed)
    (before : Time) (attempts : List F) :
    attempts.foldl (fun current attempt => current.retire before attempt) slice = slice := by
  have kept : ∀ attempt, slice.retire before attempt = slice := by
    intro attempt
    refine if_neg ?_
    rintro ⟨⟨row, stored, incomplete⟩, _⟩
    obtain ⟨other, found, done⟩ := completed
    rw [Option.some.inj (found.symm.trans stored)] at done
    exact done incomplete
  induction attempts with
  | nil => rfl
  | cons attempt rest ih => rw [List.foldl_cons, kept attempt, ih]

variable [Sha256 F]

theorem Slice.verdict_admits (slice : Slice F) (key : Key) (fingerprint : F) (maxAttempts : Nat)
    (admitted : (slice.verdict key fingerprint maxAttempts).admits = true) :
    slice.Available fingerprint := by
  rcases slice.verdict_cases key fingerprint maxAttempts
    with ⟨equal, _⟩ | ⟨equal, _⟩ | ⟨available, _⟩
  · rw [equal] at admitted
    cases admitted
  · rw [equal] at admitted
    cases admitted
  · exact available

theorem Slice.settle_identity (slice : Slice F) (key : Key) (fingerprint : F) (now : Readings)
    (maxAttempts count : Nat) (outcome : Option GoError) :
    (slice.settle key fingerprint now maxAttempts count outcome).identity =
      if outcome = none then
        slice.identity.map (fun row => { row with completedAt := some now.completed })
      else slice.identity := by
  have consumed : (slice.upsertAttempt key.attemptGeneration
      (attemptFingerprint key.attemptGeneration fingerprint) now.attempted).identity =
      slice.identity := by
    unfold Slice.upsertAttempt Slice.incrementAttempt Slice.insertCounter Slice.updateCounter
    split <;> split <;> rfl
  unfold Slice.settle
  cases classified : (classify outcome).1 with
  | success =>
    rw [if_pos ((classify_success outcome).mp classified)]
    simp only [Slice.markComplete, consumed]
  | deferred =>
    rw [if_neg (fun done => by rw [done] at classified; cases classified)]
    by_cases first : count = 0
    · simp only [first, if_true, Slice.insertDeferred, Slice.insertCounter]
      split <;> [split; skip] <;> rfl
    · simp [first]
  | permanent =>
    rw [if_neg (fun done => by rw [done] at classified; cases classified)]
    simp only [Slice.upsertTerminal, Slice.markTerminal, Slice.updateCounter]
    split <;> exact consumed
  | retryAfter | ordinary =>
    rw [if_neg (fun done => by rw [done] at classified; cases classified)]
    by_cases last : maxAttempts ≤ count + 1
    · simp only [last, if_true, Slice.upsertTerminal]
      exact consumed
    · simp only [last, if_false]
      exact consumed

section Steps

variable {now : Readings} {id : Identity} {slice : Slice F} {op : Op F} {trace : Trace F}
variable (effect : Effect now id slice op trace)

include effect

/-- A completed identity is left alone by everything but `Prune`, which removes it. -/
theorem Effect.completed (completed : slice.Completed) : trace.invoked = [] ∧ trace.finished = [] ∧
      (trace.slice.identity = slice.identity ∨
        (∃ before limit, op = .prune before limit) ∧ trace.slice.identity = none) := by
  cases effect with
  | idle => exact ⟨rfl, rfl, .inl rfl⟩
  | abandoned op item maxAttempts member here limit positive admitted =>
    exact absurd completed (slice.verdict_admits _ _ _ admitted).incomplete
  | refused op item maxAttempts next member here limit positive denied settled =>
    rcases slice.attempt_cases item.key item.fingerprint now maxAttempts next none settled with
      ⟨rfl, _⟩ | ⟨available, _⟩ | ⟨available, _⟩
    · exact ⟨rfl, rfl, .inl rfl⟩
    · exact absurd completed available.incomplete
    · exact absurd completed available.incomplete
  | attempted op item maxAttempts outcome next member here limit positive admitted settled =>
    exact absurd completed (slice.verdict_admits _ _ _ admitted).incomplete
  | dropped key fingerprint outcome here unclaimed =>
    exact absurd completed unclaimed.available.incomplete
  | processed key fingerprint outcome here unclaimed =>
    exact absurd completed unclaimed.available.incomplete
  | forgotten key fingerprint here row stored same incomplete =>
    obtain ⟨other, found, done⟩ := completed
    rw [Option.some.inj (found.symm.trans stored)] at done
    exact absurd incomplete done
  | confirmed => exact ⟨rfl, rfl, .inl rfl⟩
  | pruned before limit row stored done => exact ⟨rfl, rfl, .inr ⟨⟨before, limit, rfl⟩, rfl⟩⟩
  | retired before limit attempts =>
    rw [slice.retire_completed completed before attempts]
    exact ⟨rfl, rfl, .inl rfl⟩

/-- A committed success leaves a completed identity, and there is at most one. -/
theorem Effect.success : trace.successes ≤ 1 ∧ (0 < trace.successes → trace.slice.Completed) := by
  cases effect with
  | attempted op item maxAttempts outcome next member here limit positive admitted settled =>
    have count : (⟨next, [item], [(item, outcome)]⟩ : Trace F).successes =
        if outcome.isNone then 1 else 0 := by
      simp [Trace.successes, List.countP_cons]
    rw [count]
    refine ⟨by split <;> omega, fun succeeded => ?_⟩
    have available := slice.verdict_admits _ _ _ admitted
    cases outcome with
    | some err => exact absurd succeeded (Nat.lt_irrefl 0)
    | none =>
      obtain ⟨row, stored, _⟩ := slice.insertIdentity_holds item.fingerprint now.created available
      rcases slice.attempt_cases item.key item.fingerprint now maxAttempts next none settled with
        ⟨_, taken⟩ | ⟨_, denied, _⟩ | ⟨_, _, _, rfl⟩
      · exact absurd available taken
      · rw [admitted] at denied
        cases denied
      · refine ⟨{ row with completedAt := some now.completed }, ?_, nofun⟩
        rw [Slice.settle_identity, if_pos rfl, stored]
        rfl
  | processed key fingerprint outcome here unclaimed =>
    refine ⟨Nat.le_refl 1, fun _ => ?_⟩
    obtain ⟨row, stored, _⟩ := slice.insertIdentity_holds fingerprint
      now.created unclaimed.available
    refine ⟨{ row with completedAt := some now.completed }, ?_, nofun⟩
    simp [Slice.markComplete, stored]
  | idle | abandoned | refused | dropped | forgotten | confirmed | pruned | retired =>
    exact ⟨Nat.zero_le 1, fun none => absurd none (Nat.lt_irrefl 0)⟩

theorem Effect.fingerprint (item : BatchItem F) (invoked : item ∈ trace.invoked)
    (row : IdentityRow F) (stored : slice.identity = some row ∨ trace.slice.identity = some row) :
    row.fingerprint = item.fingerprint := by
  have before : ∀ fingerprint, slice.Available fingerprint → slice.identity = some row →
      row.fingerprint = fingerprint := fun _ available found => (available row found).1
  cases effect with
  | abandoned op other maxAttempts member here limit positive admitted =>
    rw [List.mem_singleton.mp invoked]
    exact before _ (slice.verdict_admits _ _ _ admitted) (or_self_iff.mp stored)
  | attempted op other maxAttempts outcome next member here limit positive admitted settled =>
    rw [List.mem_singleton.mp invoked]
    have available := slice.verdict_admits _ _ _ admitted
    rcases stored with found | found
    · exact before _ available found
    · obtain ⟨held, inserted, same⟩ := slice.insertIdentity_holds
        other.fingerprint now.created available
      rcases slice.attempt_cases other.key other.fingerprint now maxAttempts next outcome settled
          with
        ⟨_, taken⟩ | ⟨_, denied, _⟩ | ⟨_, _, _, rfl⟩
      · exact absurd available taken
      · rw [admitted] at denied
        cases denied
      · simp only [Slice.settle_identity, inserted, Option.map_some] at found
        split at found
        · rw [← Option.some.inj found]
          exact same
        · rw [← Option.some.inj found]
          exact same
  | dropped key fingerprint outcome here unclaimed =>
    rw [List.mem_singleton.mp invoked]
    exact before _ unclaimed.available (or_self_iff.mp stored)
  | processed key fingerprint outcome here unclaimed =>
    rw [List.mem_singleton.mp invoked]
    rcases stored with found | found
    · exact before _ unclaimed.available found
    · obtain ⟨held, inserted, same⟩ := slice.insertIdentity_holds fingerprint
        now.created unclaimed.available
      simp only [Slice.markComplete, inserted, Option.map_some] at found
      rw [← Option.some.inj found]
      exact same
  | idle | refused | forgotten | confirmed | pruned | retired =>
    exact absurd invoked List.not_mem_nil

theorem Effect.untouched (row : IdentityRow F) (stored : slice.identity = some row)
    (carries : op.isRetention = false)
    (different : ∀ item ∈ op.items, item.key.identity = id → item.fingerprint ≠ row.fingerprint) :
    trace.slice = slice := by
  cases effect with
  | idle | abandoned | dropped => rfl
  | refused op item maxAttempts next member here limit positive denied settled =>
    rcases slice.attempt_cases item.key item.fingerprint now maxAttempts next none settled with
      ⟨same, _⟩ | ⟨available, _⟩ | ⟨available, _⟩
    · exact same
    · exact absurd (available row stored).1.symm (different item member here)
    · exact absurd (available row stored).1.symm (different item member here)
  | attempted op item maxAttempts outcome next member here limit positive admitted settled =>
    have available := slice.verdict_admits _ _ _ admitted
    exact absurd (available row stored).1.symm (different item member here)
  | processed key fingerprint outcome here unclaimed =>
    exact absurd (unclaimed.available row stored).1.symm
      (different ⟨key.plain, fingerprint⟩ (List.mem_singleton.mpr rfl) here)
  | forgotten key fingerprint here other found same incomplete =>
    rw [Option.some.inj (found.symm.trans stored)] at same
    exact absurd same.symm (different ⟨key, fingerprint⟩ (List.mem_singleton.mpr rfl) here)
  | confirmed key fingerprint here other found same =>
    rw [Option.some.inj (found.symm.trans stored)] at same
    exact absurd same.symm (different ⟨key, fingerprint⟩ (List.mem_singleton.mpr rfl) here)
  | pruned => cases carries
  | retired => cases carries

end Steps

section Runs

variable (backend : Backend) (id : Identity)

/-- The identity stays stored between the first and the last of the calls. -/
def Persists (backend : Backend) (id : Identity) (tables : Tables F)
    (steps : List (Step F)) : Prop :=
  ∀ count, 0 < count → count < steps.length →
    (run backend tables (steps.take count)).inbox.find? id ≠ none

/-- The handler invocations for an identity that a run committed as successes. -/
def committedSuccesses (backend : Backend) (id : Identity) (tables : Tables F)
    (steps : List (Step F)) : Nat :=
  ((calls backend tables steps).map (fun call => (call.at id).successes)).sum

variable {rest : List (Step F)}

theorem Persists.tail {backend : Backend} {id : Identity} {tables : Tables F} {taken : Step F}
    (persists : Persists backend id tables (taken :: rest)) :
    Persists backend id (step backend tables taken).tables rest := by
  intro count positive below
  have later := persists (count + 1) (Nat.succ_pos count) (Nat.succ_lt_succ below)
  rw [List.take_succ_cons, run_cons] at later
  exact later

theorem Persists.next {backend : Backend} {id : Identity} {tables : Tables F} {taken : Step F}
    (persists : Persists backend id tables (taken :: rest))
    (more : rest ≠ []) : (step backend tables taken).tables.inbox.find? id ≠ none := by
  have first := persists 1 Nat.one_pos (by
    have := List.length_pos_iff.mpr more
    rw [List.length_cons]
    omega)
  rw [List.take_succ_cons, List.take_zero, run_cons, run_nil] at first
  exact first

variable (steps : List (Step F)) (tables : Tables F)

theorem committedSuccesses_cons (taken : Step F) (rest : List (Step F)) :
    committedSuccesses backend id tables (taken :: rest) =
      ((step backend tables taken).at id).successes +
        committedSuccesses backend id (step backend tables taken).tables rest := by
  simp [committedSuccesses, calls]

theorem committedSuccesses_completed (coherent : tables.Coherent)
    (completed : (tables.slice id).Completed) (persists : Persists backend id tables steps) :
    committedSuccesses backend id tables steps = 0 := by
  induction steps generalizing tables with
  | nil => rfl
  | cons taken rest ih =>
    have effect := step_effect backend tables coherent.tracked taken id
    obtain ⟨_, quiet, kept⟩ := effect.completed completed
    have none : ((step backend tables taken).at id).successes = 0 := by
      rw [Trace.successes, quiet]
      rfl
    rw [committedSuccesses_cons, none, Nat.zero_add]
    by_cases more : rest = []
    · rw [more]
      rfl
    · apply ih _ (step_coherent backend tables taken coherent) _ persists.tail
      rcases kept with same | ⟨_, gone⟩
      · obtain ⟨row, stored, done⟩ := completed
        exact ⟨row, same.trans stored, done⟩
      · exact absurd gone (persists.next more)

theorem committedSuccesses_le_one (coherent : tables.Coherent)
    (persists : Persists backend id tables steps) :
    committedSuccesses backend id tables steps ≤ 1 := by
  induction steps generalizing tables with
  | nil => exact Nat.zero_le 1
  | cons taken rest ih =>
    have effect := step_effect backend tables coherent.tracked taken id
    obtain ⟨bounded, completes⟩ := effect.success
    have coherent' := step_coherent backend tables taken coherent
    rw [committedSuccesses_cons]
    by_cases succeeded : 0 < ((step backend tables taken).at id).successes
    · have later := committedSuccesses_completed backend id rest _ coherent'
        (completes succeeded) persists.tail
      omega
    · have later := ih _ coherent' persists.tail
      omega

end Runs

/-- In every state a store can reach, for every identity: while it is stored at
most one handler invocation commits as a success; once it is completed no call
invokes a handler for it and only `Prune` takes its row away; and an item whose
fingerprint differs from the stored one is never handed to a handler, nor does a
call without the stored fingerprint change a row. -/
theorem effectively_once (backend : Backend) (earlier : List (Step F)) (id : Identity) :
    let tables := run backend (Tables.empty F) earlier
    (∀ steps, Persists backend id tables steps → committedSuccesses backend id tables steps ≤ 1) ∧
    (∀ row taken, tables.inbox.find? id = some row → row.completedAt ≠ none →
      (∀ item ∈ (step backend tables taken).invoked, item.key.identity ≠ id) ∧
      ((step backend tables taken).tables.inbox.find? id = some row ∨
        (∃ before limit, taken.op = .prune before limit) ∧
          (step backend tables taken).tables.inbox.find? id = none)) ∧
    ∀ taken, (∀ item ∈ (step backend tables taken).invoked, item.key.identity = id → ∀ row,
        tables.inbox.find? id = some row ∨
          (step backend tables taken).tables.inbox.find? id = some row →
        row.fingerprint = item.fingerprint) ∧
      ∀ row, tables.inbox.find? id = some row → taken.op.isRetention = false →
        (∀ item ∈ taken.op.items, item.key.identity = id → item.fingerprint ≠ row.fingerprint) →
        (step backend tables taken).tables.slice id = tables.slice id := by
  intro tables
  have coherent : tables.Coherent := run_coherent backend earlier _ (fun _ => coherent_empty)
  have effect := fun taken => step_effect backend tables coherent.tracked taken id
  refine ⟨fun steps => committedSuccesses_le_one backend id steps tables coherent, ?_, ?_⟩
  · intro row taken stored done
    obtain ⟨quiet, _, kept⟩ := (effect taken).completed ⟨row, stored, done⟩
    constructor
    · intro item invoked here
      have member :=
        (mem_fibre (fun item : BatchItem F => item.key.identity) _ _ _).mpr ⟨invoked, here⟩
      rw [show fibre (fun item : BatchItem F => item.key.identity) _ id = [] from quiet] at member
      exact absurd member List.not_mem_nil
    · exact kept.imp (fun same => same.trans stored) (fun removed => removed)
  · intro taken
    constructor
    · intro item invoked here row stored
      exact (effect taken).fingerprint item ((mem_fibre _ _ _ _).mpr ⟨invoked, here⟩) row stored
    · intro row stored carries different
      exact (effect taken).untouched row stored carries different

/-- The same message processed twice. -/
theorem effectively_once_redelivered : committedSuccesses .sqlite
    sampleKey.identity (Tables.empty Preimage)
      [sampleStep (.process sampleKey ⟨[1]⟩ none),
        sampleStep (.process sampleKey ⟨[1]⟩ none)] ≤ 1 := by
  apply (effectively_once .sqlite [] sampleKey.identity).1
  intro count positive below
  have only : count = 1 := by
    change count < 2 at below
    omega
  subst only
  decide

end EffectivelyOnce

end Gomessenger.Inbox
