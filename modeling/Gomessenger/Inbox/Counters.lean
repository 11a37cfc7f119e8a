import Gomessenger.Inbox.EffectivelyOnce

/-! The attempt counter and the terminal row of one generation. -/

namespace Gomessenger.Inbox

open LocalAction

section Counters

variable {F : Type}

structure SameClosure (left right : TerminalRow) : Prop where
  attempts : left.attempts = right.attempts
  failureKind : left.failureKind = right.failureKind
  terminalAt : left.terminalAt = right.terminalAt

structure Slice.Within (small large : Slice F) : Prop where
  identity : ∀ row, small.identity = some row → large.identity = some row
  legacy : ∀ row, small.legacy = some row → large.legacy = some row
  generations : ∀ attempt row, small.generations attempt = some row →
    large.generations attempt = some row
  terminal : ∀ attempt row, small.terminal attempt = some row → large.terminal attempt = some row

theorem Slice.Within.refl (slice : Slice F) : slice.Within slice :=
  ⟨fun _ found => found, fun _ found => found, fun _ _ found => found, fun _ _ found => found⟩

theorem Slice.Within.trans {small middle large : Slice F} (first : small.Within middle)
    (second : middle.Within large) : small.Within large :=
  ⟨fun row found => second.identity row (first.identity row found),
    fun row found => second.legacy row (first.legacy row found),
    fun attempt row found => second.generations attempt row (first.generations attempt row found),
    fun attempt row found => second.terminal attempt row (first.terminal attempt row found)⟩

theorem Slice.deleteIncompleteIdentity_within (slice : Slice F) :
    slice.deleteIncompleteIdentity.Within slice :=
  ⟨fun _ found => (Option.filter_eq_some_iff.mp found).1, fun _ found => found,
    fun _ _ found => found, fun _ _ found => found⟩

variable [LinearOrder F]

theorem Slice.deleteCounters_within (slice : Slice F) (attempt : F) :
    ((slice.deleteTerminal attempt).deleteCounters attempt).Within slice := by
  refine ⟨fun _ found => found, fun _ found => (Option.filter_eq_some_iff.mp found).1,
    fun other row found => ?_, fun other row found => ?_⟩
  · change (if attempt = other then none else slice.generations other) = some row at found
    split at found
    · cases found
    · exact found
  · change (if attempt = other then none else slice.terminal other) = some row at found
    split at found
    · cases found
    · exact found

theorem Slice.deleteAttempt_within (slice : Slice F) (generation : String) (attempt : F) :
    ((slice.deleteTerminal attempt).deleteAttempt generation attempt).Within slice := by
  have terminal : ∀ other row, (if attempt = other then none else slice.terminal other) = some row →
      slice.terminal other = some row := by
    intro other row found
    split at found
    · cases found
    · exact found
  unfold Slice.deleteAttempt
  split
  · exact ⟨fun _ found => found, (fun _ found => by cases found), fun _ _ found => found, terminal⟩
  · refine ⟨fun _ found => found, fun _ found => found, fun other row found => ?_, terminal⟩
    change (if attempt = other then none else slice.generations other) = some row at found
    split at found
    · cases found
    · exact found

theorem Slice.forget_within (slice : Slice F) (generation : String) (attempt : F) :
    (slice.forget generation attempt).Within slice := by
  have rest := slice.deleteAttempt_within generation attempt
  simp only [Slice.forget]
  split
  · exact rest
  · exact (Slice.deleteIncompleteIdentity_within _).trans rest

theorem Slice.retire_within (slice : Slice F) (before : Time) (attempts : List F) :
    (attempts.foldl (fun current attempt => current.retire before attempt) slice).Within slice := by
  have once : ∀ (current : Slice F) attempt, (current.retire before attempt).Within current := by
    intro current attempt
    unfold Slice.retire
    split
    · unfold Slice.deleteEmptyIdentity
      split
      · exact current.deleteCounters_within attempt
      · exact (Slice.deleteIncompleteIdentity_within _).trans
          (current.deleteCounters_within attempt)
    · exact Slice.Within.refl current
  induction attempts generalizing slice with
  | nil => exact Slice.Within.refl slice
  | cons attempt rest ih => exact (ih _).trans (once slice attempt)

variable [Sha256 F]

def Slice.counter (slice : Slice F) (generation : String) : Option CounterRow :=
  slice.identity.bind (fun row =>
    slice.readCounter generation (attemptFingerprint generation row.fingerprint))

def Slice.count (slice : Slice F) (generation : String) : Nat :=
  ((slice.counter generation).map CounterRow.attempts).getD 0

def Slice.flag (slice : Slice F) (generation : String) : Bool :=
  ((slice.counter generation).map CounterRow.terminal).getD false

def Trace.consumed (trace : Trace F) (generation : String) : Nat :=
  trace.finished.countP (fun entry => entry.1.key.attemptGeneration =
    generation && !isDeferral entry.2)

omit [LinearOrder F] in
theorem Slice.Within.counter {small large : Slice F} (within : small.Within large)
    (generation : String) (row : CounterRow) (found : small.counter generation = some row) :
    large.counter generation = some row := by
  obtain ⟨stored, identity, counted⟩ := Option.bind_eq_some_iff.mp found
  refine Option.bind_eq_some_iff.mpr ⟨stored, within.identity stored identity, ?_⟩
  unfold Slice.readCounter at counted ⊢
  by_cases legacy : generation = ""
  · rw [if_pos legacy] at counted ⊢
    obtain ⟨old, present, equal⟩ := Option.map_eq_some_iff.mp counted
    exact Option.map_eq_some_iff.mpr ⟨old, within.legacy old present, equal⟩
  · rw [if_neg legacy] at counted ⊢
    exact within.generations _ row counted

omit [LinearOrder F] in
theorem Slice.counter_of_holds (slice : Slice F) (fingerprint : F) (generation : String)
    (holds : slice.Holds fingerprint) :
    slice.counter generation = slice.readCounter generation
      (attemptFingerprint generation fingerprint) := by
  obtain ⟨row, stored, rfl⟩ := holds
  simp [Slice.counter, stored]

omit [LinearOrder F] in
@[simp] theorem Slice.markComplete_counter (slice : Slice F) (time : Time) (generation : String) :
    (slice.markComplete time).counter generation = slice.counter generation := by
  unfold Slice.counter Slice.markComplete
  cases slice.identity <;> rfl

@[simp] theorem Slice.upsertTerminal_counter (slice : Slice F) (attempt : F) (time : Time)
    (count : Nat) (counted : 0 < count) (kind : TerminalKind) (generation : String) :
    (slice.upsertTerminal attempt time count counted kind).counter generation =
      slice.counter generation := rfl

omit [LinearOrder F] in
theorem Slice.counter_of_tracked (slice : Slice F) (free : ¬ slice.HasAttempts)
    (generation : String) : slice.counter generation = none := by
  simp only [Slice.HasAttempts, not_or, not_exists, not_not] at free
  unfold Slice.counter Slice.readCounter
  cases slice.identity with
  | none => rfl
  | some row =>
    rw [Option.bind_some, free.1, free.2]
    split <;> rfl

omit [LinearOrder F] in
theorem Slice.Coherent.insertIdentity_counter {slice : Slice F} (coherent : slice.Coherent)
    (time : Time) (fingerprint : F) (generation : String) :
    (slice.insertIdentity time fingerprint).counter generation = slice.counter generation := by
  cases stored : slice.identity with
  | some row => rw [slice.insertIdentity_some time fingerprint row stored]
  | none =>
    have free := coherent.tracked stored
    have inserted : ¬ (slice.insertIdentity time fingerprint).HasAttempts := by
      simp only [Slice.insertIdentity, stored]
      exact free
    rw [slice.counter_of_tracked free, Slice.counter_of_tracked _ inserted]

section Settle

theorem Slice.insertCounter_counter (slice : Slice F) (fingerprint : F)
    (holds : slice.Holds fingerprint) (generation other : String)
    (separates : Separates fingerprint generation other) (row : CounterRow) :
    (slice.insertCounter generation (attemptFingerprint generation fingerprint) row).counter other =
      if other = generation then some row else slice.counter other := by
  have kept := (slice.insertCounter_holds generation (attemptFingerprint generation fingerprint) row
    fingerprint).mpr holds
  rw [Slice.counter_of_holds _ fingerprint other kept,
    Slice.counter_of_holds _ fingerprint other holds]
  by_cases same : other = generation
  · subst same
    rw [if_pos rfl, Slice.readCounter_insertCounter]
  · rw [if_neg same]
    have apart : attemptFingerprint generation fingerprint ≠ attemptFingerprint other fingerprint :=
      fun equal => same (separates equal).symm
    unfold Slice.insertCounter Slice.readCounter
    by_cases legacy : generation = ""
    · rw [if_pos legacy]
      have replay : other ≠ "" := fun empty => same (empty.trans legacy.symm)
      rw [if_neg replay, if_neg replay]
    · rw [if_neg legacy]
      simp only [if_neg apart]

variable {slice : Slice F} (coherent : slice.Coherent) (key : Key) (fingerprint : F)
variable (holds : slice.Holds fingerprint) (now : Readings) (maxAttempts count : Nat)
variable (outcome : Option GoError)

include coherent holds in
theorem Slice.Coherent.settle_consumed (consumed : isDeferral outcome = false) :
    ∃ row, row.attempts = slice.count key.attemptGeneration + 1 ∧
      (row.terminal = true → (classify outcome).1 = .permanent ∨
        slice.flag key.attemptGeneration = true) ∧
      ∀ generation, Separates fingerprint key.attemptGeneration generation →
        (slice.settle key fingerprint now maxAttempts count outcome).counter generation =
          if generation = key.attemptGeneration then some row else slice.counter generation := by
  have next : (nextCounter now.attempted (slice.readCounter key.attemptGeneration
      (attemptFingerprint key.attemptGeneration fingerprint))).attempts =
      slice.count key.attemptGeneration + 1 := by
    rw [Slice.count, Slice.counter_of_holds _ fingerprint _ holds]
    cases slice.readCounter key.attemptGeneration
      (attemptFingerprint key.attemptGeneration fingerprint) <;> rfl
  have unmarked : (nextCounter now.attempted (slice.readCounter key.attemptGeneration
      (attemptFingerprint key.attemptGeneration fingerprint))).terminal =
      slice.flag key.attemptGeneration := by
    rw [Slice.flag, Slice.counter_of_holds _ fingerprint _ holds]
    cases slice.readCounter key.attemptGeneration
      (attemptFingerprint key.attemptGeneration fingerprint) <;> rfl
  have inserted := slice.insertCounter_counter fingerprint holds key.attemptGeneration
  have upserted := coherent.upsertAttempt_eq key.attemptGeneration fingerprint now.attempted holds
  have used := nextCounter_positive now.attempted (slice.readCounter key.attemptGeneration
    (attemptFingerprint key.attemptGeneration fingerprint))
  have coherentNext := coherent.insertCounter key.attemptGeneration fingerprint holds
    (nextCounter now.attempted (slice.readCounter key.attemptGeneration
      (attemptFingerprint key.attemptGeneration fingerprint))) (fun _ => used) (.inr used)
  have holdsNext := (slice.insertCounter_holds key.attemptGeneration
    (attemptFingerprint key.attemptGeneration fingerprint) (nextCounter now.attempted
      (slice.readCounter key.attemptGeneration
        (attemptFingerprint key.attemptGeneration fingerprint))) fingerprint).mpr holds
  simp only [Slice.settle, upserted]
  cases classified : (classify outcome).1 with
  | deferred =>
    rw [(classify_deferred outcome).mp classified] at consumed
    cases consumed
  | success =>
    refine ⟨_, next, fun flag => .inr (unmarked.symm.trans flag), fun generation separates => ?_⟩
    rw [Slice.markComplete_counter, inserted generation separates]
  | permanent =>
    have marked := coherentNext.updateCounter_eq key.attemptGeneration fingerprint holdsNext
      (fun row => { row with terminal := true, updatedAt := now.marked }) _
      (slice.readCounter_insertCounter _ _ _)
    refine ⟨⟨_, true, now.marked⟩, next, fun _ => .inl rfl, fun generation separates => ?_⟩
    rw [Slice.upsertTerminal_counter, Slice.markTerminal, marked,
      Slice.insertCounter_counter _ fingerprint holdsNext _ generation separates,
      inserted generation separates]
    by_cases own : generation = key.attemptGeneration
    · rw [if_pos own, if_pos own]
    · rw [if_neg own, if_neg own, if_neg own]
  | retryAfter | ordinary =>
    refine ⟨_, next, fun flag => .inr (unmarked.symm.trans flag), fun generation separates => ?_⟩
    by_cases last : maxAttempts ≤ count + 1
    · simp [last, Slice.upsertTerminal_counter, inserted generation separates]
    · simp [last, inserted generation separates]

include holds in
theorem Slice.settle_deferred (deferred : isDeferral outcome = true) (generation : String)
    (separates : Separates fingerprint key.attemptGeneration generation) :
    (slice.settle key fingerprint now maxAttempts count outcome).counter generation =
      slice.counter generation ∨
      slice.counter generation = none ∧ ∃ row, row.attempts = 0 ∧ row.terminal = false ∧
          (slice.settle key fingerprint now maxAttempts count outcome).counter
            generation = some row := by
  have classified := (classify_deferred outcome).mpr deferred
  simp only [Slice.settle, classified]
  by_cases first : count = 0
  · simp only [first, if_true, Slice.insertDeferred]
    split
    · rename_i missing
      rw [slice.insertCounter_counter fingerprint holds _ generation separates]
      by_cases own : generation = key.attemptGeneration
      · rw [if_pos own, own, slice.counter_of_holds fingerprint _ holds]
        exact .inr ⟨missing, _, rfl, rfl, rfl⟩
      · rw [if_neg own]
        exact .inl rfl
    · exact .inl rfl
  · simp only [first, if_false]
    exact .inl trivial

end Settle

section Steps

variable {now : Readings} {id : Identity} {slice : Slice F} {op : Op F} {trace : Trace F}
variable (effect : Effect now id slice op trace) (coherent : slice.Coherent)

omit [LinearOrder F] [Sha256 F] in
theorem Trace.consumed_single (next : Slice F) (item : BatchItem F)
    (outcome : Option GoError) (generation : String) :
    (⟨next, [item], [(item, outcome)]⟩ : Trace F).consumed generation =
      if item.key.attemptGeneration = generation ∧ isDeferral outcome = false then 1 else 0 := by
  simp [Trace.consumed, List.countP_cons]

include coherent in
theorem Slice.Coherent.attempt_counter (item : BatchItem F) (maxAttempts : Nat)
    (outcome : Option GoError) (next : Slice F)
    (admitted : (slice.verdict item.key item.fingerprint maxAttempts).admits = true)
    (settled : slice.attempt item.key item.fingerprint now maxAttempts outcome = some next)
    (generation : String)
    (separates : Separates item.fingerprint item.key.attemptGeneration generation) :
    let spent := (⟨next, [item], [(item, outcome)]⟩ : Trace F).consumed generation
    (spent = 0 ∧ next.counter generation = slice.counter generation) ∨
      (spent = 0 ∧ slice.counter generation = none ∧
        ∃ row, row.attempts = 0 ∧ next.counter generation = some row) ∨
      spent = 1 ∧ ∃ row, row.attempts = slice.count generation + 1 ∧
          next.counter generation = some row := by
  have available := slice.verdict_admits _ _ _ admitted
  have holds := slice.insertIdentity_holds item.fingerprint now.created available
  have inserted := coherent.insertIdentity item.fingerprint now.created
  have same := coherent.insertIdentity_counter now.created item.fingerprint
  have counts : (slice.insertIdentity now.created item.fingerprint).count = slice.count := by
    funext other
    rw [Slice.count, Slice.count, same]
  rw [Trace.consumed_single]
  rcases slice.attempt_cases item.key item.fingerprint now maxAttempts next outcome settled with
    ⟨_, taken⟩ | ⟨_, denied, _⟩ | ⟨_, _, _, rfl⟩
  · exact absurd available taken
  · rw [admitted] at denied
    cases denied
  · cases deferred : isDeferral outcome with
    | true =>
      simp only [Bool.true_eq_false, and_false, if_false, true_and,
        Nat.zero_ne_one, false_and, or_false]
      have kept := Slice.settle_deferred item.key item.fingerprint holds now maxAttempts
        (slice.state item.key item.fingerprint).attempt outcome deferred generation separates
      rw [same] at kept
      exact kept.imp_right (fun ⟨missing, row, empty, _, stored⟩ => ⟨missing, row, empty, stored⟩)
    | false =>
      obtain ⟨row, counted, _, rows⟩ := inserted.settle_consumed item.key item.fingerprint holds now
        maxAttempts (slice.state item.key item.fingerprint).attempt outcome deferred
      rw [rows generation separates, same]
      rw [counts] at counted
      by_cases own : generation = item.key.attemptGeneration
      · subst own
        simp only [if_true, and_self]
        exact .inr (.inr ⟨trivial, row, counted, rfl⟩)
      · have apart : item.key.attemptGeneration ≠ generation := Ne.symm own
        simp only [if_neg own, apart, false_and, if_false]
        exact .inl ⟨trivial, trivial⟩

include coherent in
theorem Slice.Coherent.refused_counter (item : BatchItem F) (maxAttempts : Nat) (next : Slice F)
    (denied : (slice.verdict item.key item.fingerprint maxAttempts).admits = false)
    (settled : slice.attempt item.key item.fingerprint now maxAttempts none = some next)
    (generation : String) : next.counter generation = slice.counter generation := by
  rcases slice.attempt_cases item.key item.fingerprint now maxAttempts next none settled with
    ⟨rfl, _⟩ | ⟨available, _, counted, rfl⟩ | ⟨_, admitted, _⟩
  · rfl
  · rw [Slice.upsertTerminal_counter, coherent.insertIdentity_counter]
  · rw [denied] at admitted
    cases admitted

include effect coherent in
/-- A counter that exists after a call counts the attempts the call consumed. -/
theorem Effect.counter (generation : String) (separates : op.Separates generation)
    (row : CounterRow) (found : trace.slice.counter generation = some row) :
    row.attempts = slice.count generation + if op.limit.isSome
      then trace.consumed generation else 0 := by
  have unchanged : slice.counter generation = some row → row.attempts = slice.count generation := by
    intro same
    rw [Slice.count, same]
    rfl
  cases effect with
  | idle | abandoned | dropped =>
    rw [unchanged found]
    simp [Trace.consumed]
  | refused op item maxAttempts next member here limit positive denied settled =>
    rw [coherent.refused_counter item maxAttempts next denied settled] at found
    rw [unchanged found]
    simp [Trace.consumed]
  | attempted op item maxAttempts outcome next member here limit positive admitted settled =>
    rw [limit]
    rcases coherent.attempt_counter item maxAttempts outcome next admitted settled
        generation (separates item member) with
      ⟨none, same⟩ | ⟨none, missing, fresh, empty, stored⟩ | ⟨one, next', counted, stored⟩
    · rw [none, unchanged (same ▸ found)]
      rfl
    · rw [none, Slice.count, missing, ← Option.some.inj (stored.symm.trans found), empty]
      rfl
    · rw [one, ← Option.some.inj (stored.symm.trans found), counted]
      rfl
  | processed key fingerprint outcome here unclaimed =>
    have free : ¬ slice.HasAttempts := by
      rcases unclaimed with missing | ⟨_, _, _, _, free⟩
      · exact coherent.tracked missing
      · exact free
    change ((slice.insertIdentity now.created fingerprint).markComplete now.completed).counter
      generation = some row at found
    rw [Slice.markComplete_counter, coherent.insertIdentity_counter,
      slice.counter_of_tracked free] at found
    cases found
  | forgotten key fingerprint here other stored same incomplete =>
    rw [unchanged ((slice.forget_within _ _).counter generation row found)]
    rfl
  | confirmed key fingerprint here other stored same =>
    rw [unchanged found]
    rfl
  | pruned => cases found
  | retired before limit attempts =>
    rw [unchanged ((slice.retire_within before attempts).counter generation row found)]
    rfl

include effect coherent in
theorem Effect.counter_kept (bounded : op.limit.isSome = true) (generation : String)
    (separates : op.Separates generation)
    (unspent : trace.consumed generation = 0) (row : CounterRow)
    (found : slice.counter generation = some row) : trace.slice.counter generation = some row := by
  cases effect with
  | idle | abandoned => exact found
  | refused op item maxAttempts next member here limit positive denied settled =>
    exact (coherent.refused_counter item maxAttempts next denied settled generation).trans found
  | attempted op item maxAttempts outcome next member here limit positive admitted settled =>
    rcases coherent.attempt_counter item maxAttempts outcome next admitted settled
        generation (separates item member) with ⟨_, same⟩ | ⟨_, missing, _⟩ | ⟨one, _⟩
    · exact same.trans found
    · rw [missing] at found
      cases found
    · exact absurd (one.symm.trans unspent) Nat.one_ne_zero
  | dropped | processed | forgotten | confirmed | pruned | retired => cases bounded

omit [LinearOrder F] in
include coherent in
theorem Slice.Coherent.state_count (key : Key) (fingerprint : F)
    (available : slice.Available fingerprint) :
    (slice.state key fingerprint).attempt = slice.count key.attemptGeneration := by
  rw [slice.state_attempt, Slice.count]
  cases stored : slice.identity with
  | some row =>
    rw [slice.counter_of_holds fingerprint _ ⟨row, stored, (available row stored).1⟩]
  | none =>
    have free := coherent.tracked stored
    have unread : slice.readCounter key.attemptGeneration
        (attemptFingerprint key.attemptGeneration fingerprint) = none := by
      simp only [Slice.HasAttempts, not_or, not_exists, not_not] at free
      rw [Slice.readCounter, free.1, free.2]
      split <;> rfl
    rw [unread, slice.counter_of_tracked free]

include effect coherent in
/-- A call consumes at most one attempt of a generation, and only below its limit. -/
theorem Effect.consumed_below (maxAttempts : Nat)
    (limit : op.limit = some maxAttempts) (generation : String) :
    trace.consumed generation = 0 ∨ trace.consumed generation = 1 ∧
      slice.count generation < maxAttempts := by
  cases effect with
  | idle | abandoned | refused => exact .inl rfl
  | attempted op item bound outcome next member here known positive admitted settled =>
    obtain rfl := Option.some.inj (known.symm.trans limit)
    rw [Trace.consumed_single]
    split
    · rename_i spent
      refine .inr ⟨rfl, ?_⟩
      have available := slice.verdict_admits _ _ _ admitted
      rcases slice.attempt_cases item.key item.fingerprint now bound next outcome settled with
        ⟨_, taken⟩ | ⟨_, denied, _⟩ | ⟨_, _, opened, _⟩
      · exact absurd available taken
      · rw [admitted] at denied
        cases denied
      · rw [← spent.1, ← coherent.state_count item.key item.fingerprint available]
        simp only [AttemptState.closed, Bool.or_eq_false_iff, decide_eq_false_iff_not] at opened
        omega
    · exact .inl rfl
  | dropped | processed | forgotten | confirmed | pruned | retired => cases limit

end Steps

end Counters

end Gomessenger.Inbox
