import Gomessenger.Inbox.Effects

/-! The invariant of the four tables, kept by every call of the store. -/

namespace Gomessenger.Inbox

open LocalAction

section Coherence

variable {F : Type}

namespace Slice

/-- A counter of the fingerprint has consumed an attempt. -/
def Spent (slice : Slice F) (attempt : F) : Prop :=
  (∃ row, slice.legacy = some row ∧ row.fingerprint = attempt ∧ 0 < row.attempts) ∨
    ∃ row, slice.generations attempt = some row ∧ 0 < row.attempts

def Holds (slice : Slice F) (fingerprint : F) : Prop :=
  ∃ row, slice.identity = some row ∧ row.fingerprint = fingerprint

/-- Counters belong to a stored identity and carry fingerprints derived from its
own, a terminal flag follows a consumed attempt, and so does a terminal row. -/
structure Coherent [Sha256 F] (slice : Slice F) : Prop where
  tracked : slice.identity = none → ¬ slice.HasAttempts
  stamped : ∀ row stored, slice.legacy = some row → slice.identity = some stored →
    row.fingerprint = stored.fingerprint
  derived : ∀ attempt stored, slice.generations attempt ≠ none → slice.identity = some stored →
    ∃ generation, generation ≠ "" ∧ attempt = attemptFingerprint generation stored.fingerprint
  flaggedLegacy : ∀ row, slice.legacy = some row → row.terminal = true → 0 < row.attempts
  flagged : ∀ attempt row, slice.generations attempt = some row →
    row.terminal = true → 0 < row.attempts
  closed : ∀ attempt, slice.terminal attempt ≠ none → slice.Spent attempt

end Slice

variable [Sha256 F]

theorem coherent_empty : (Slice.empty : Slice F).Coherent where
  tracked _ := by simp [Slice.empty, Slice.HasAttempts]
  stamped _ _ found := by cases found
  derived _ _ present := absurd rfl present
  flaggedLegacy _ found := by cases found
  flagged _ _ found := by cases found
  closed _ present := absurd rfl present

omit [Sha256 F] in
theorem Slice.Spent.hasAttempts {slice : Slice F} {attempt : F}
    (spent : slice.Spent attempt) : slice.HasAttempts := by
  rcases spent with ⟨row, found, _⟩ | ⟨row, found, _⟩
  · exact .inl (by rw [found]; exact Option.some_ne_none row)
  · exact .inr ⟨attempt, by rw [found]; exact Option.some_ne_none row⟩

section Statements

variable {slice : Slice F} (coherent : slice.Coherent)
variable (generation : String) (fingerprint : F) (time : Time)

namespace Slice.Coherent

include coherent

theorem insertIdentity : (slice.insertIdentity time fingerprint).Coherent := by
  cases stored : slice.identity with
  | some row =>
    rw [slice.insertIdentity_some time fingerprint row stored]
    exact coherent
  | none =>
    have free := coherent.tracked stored
    simp only [Slice.HasAttempts, not_or, not_exists, not_not] at free
    simp only [Slice.insertIdentity, stored]
    exact
      { tracked := fun missing => by cases missing
        stamped := fun row _ found => by rw [free.1] at found; cases found
        derived := fun attempt _ present => absurd (free.2 attempt) present
        flaggedLegacy := coherent.flaggedLegacy
        flagged := coherent.flagged
        closed := coherent.closed }

theorem markComplete : (slice.markComplete time).Coherent where
  tracked missing := coherent.tracked (by simpa [Slice.markComplete] using missing)
  stamped row stored found identity := by
    cases before : slice.identity with
    | none => simp [Slice.markComplete, before] at identity
    | some old =>
      simp only [Slice.markComplete, before, Option.map_some, Option.some.injEq] at identity
      subst identity
      exact coherent.stamped row old found before
  derived attempt stored present identity := by
    cases before : slice.identity with
    | none => simp [Slice.markComplete, before] at identity
    | some old =>
      simp only [Slice.markComplete, before, Option.map_some, Option.some.injEq] at identity
      subst identity
      exact coherent.derived attempt old present before
  flaggedLegacy := coherent.flaggedLegacy
  flagged := coherent.flagged
  closed := coherent.closed

theorem deleteIncompleteIdentity (free : ¬ slice.HasAttempts) :
    slice.deleteIncompleteIdentity.Coherent := by
  have rows := free
  simp only [Slice.HasAttempts, not_or, not_exists, not_not] at rows
  exact
    { tracked := fun _ => free
      stamped :=
        fun row _ found => by rw [show slice.legacy = some row from found] at rows; cases rows.1
      derived := fun attempt _ present => absurd (rows.2 attempt) present
      flaggedLegacy := coherent.flaggedLegacy
      flagged := coherent.flagged
      closed := coherent.closed }

variable [LinearOrder F] (holds : slice.Holds fingerprint)

include holds in
theorem insertCounter (row : CounterRow) (flag : row.terminal = true → 0 < row.attempts)
    (kept : slice.readCounter generation (attemptFingerprint generation fingerprint) =
      none ∨ 0 < row.attempts) :
    (slice.insertCounter generation (attemptFingerprint generation fingerprint) row).Coherent := by
  obtain ⟨stored, identity, same⟩ := holds
  by_cases legacy : generation = ""
  · subst legacy
    simp only [Slice.readCounter, if_true, attemptFingerprint_empty, Option.map_eq_none_iff] at kept
    simp only [Slice.insertCounter, if_true, attemptFingerprint_empty]
    refine ⟨fun missing => ?_, fun found other => ?_, coherent.derived, fun found => ?_,
      coherent.flagged, fun attempt present => ?_⟩
    · exact absurd (identity.symm.trans missing) (Option.some_ne_none stored)
    · intro inserted known
      rw [← Option.some.inj inserted, ← Option.some.inj (identity.symm.trans known)]
      exact same.symm
    · intro inserted
      rw [← Option.some.inj inserted]
      exact flag
    · rcases coherent.closed attempt present with ⟨old, found, print, used⟩ | generated
      · have equal : fingerprint = attempt := by
          rw [← same, ← coherent.stamped old stored found identity, print]
        rcases kept with missing | positive
        · rw [missing] at found
          cases found
        · exact .inl ⟨⟨row, fingerprint⟩, rfl, equal, positive⟩
      · exact .inr generated
  · simp only [Slice.readCounter, if_neg legacy] at kept
    simp only [Slice.insertCounter, if_neg legacy]
    refine ⟨fun missing => ?_, coherent.stamped, fun attempt other present known => ?_,
      coherent.flaggedLegacy, fun attempt found inserted => ?_, fun attempt present => ?_⟩
    · exact absurd (identity.symm.trans missing) (Option.some_ne_none stored)
    · obtain rfl := Option.some.inj (identity.symm.trans known)
      by_cases here : attemptFingerprint generation fingerprint = attempt
      · exact ⟨generation, legacy, by rw [same]; exact here.symm⟩
      · simp only [if_neg here] at present
        exact coherent.derived attempt stored present identity
    · by_cases here : attemptFingerprint generation fingerprint = attempt
      · simp only [if_pos here, Option.some.injEq] at inserted
        rw [← inserted]
        exact flag
      · simp only [if_neg here] at inserted
        exact coherent.flagged attempt found inserted
    · rcases coherent.closed attempt present with old | ⟨old, found, used⟩
      · exact .inl old
      · by_cases here : attemptFingerprint generation fingerprint = attempt
        · rcases kept with missing | positive
          · rw [here, found] at missing
            cases missing
          · exact .inr ⟨row, by simp only [if_pos here], positive⟩
        · exact .inr ⟨old, by simp only [if_neg here]; exact found, used⟩

include holds in
theorem updateCounter_eq (change : CounterRow → CounterRow) (row : CounterRow)
    (found : slice.readCounter generation (attemptFingerprint generation fingerprint) = some row) :
    slice.updateCounter generation (attemptFingerprint generation fingerprint) change =
      slice.insertCounter generation (attemptFingerprint generation fingerprint) (change row) := by
  obtain ⟨stored, identity, same⟩ := holds
  by_cases legacy : generation = ""
  · subst legacy
    simp only [Slice.readCounter, if_true, Option.map_eq_some_iff] at found
    obtain ⟨old, present, rfl⟩ := found
    have print := coherent.stamped old stored present identity
    simp [Slice.updateCounter, Slice.insertCounter, AttemptRow.recount, present, print, same]
  · simp only [Slice.readCounter, if_neg legacy] at found
    simp only [Slice.updateCounter, Slice.insertCounter, if_neg legacy]
    congr 1
    funext other
    by_cases here : attemptFingerprint generation fingerprint = other
    · rw [if_pos here, if_pos here, ← here, found, Option.map_some]
    · rw [if_neg here, if_neg here]

theorem upsertTerminal (attempt : F) (count : Nat) (counted : 0 < count) (kind : TerminalKind)
    (spent : slice.Spent attempt) :
    (slice.upsertTerminal attempt time count counted kind).Coherent where
  tracked := coherent.tracked
  stamped := coherent.stamped
  derived := coherent.derived
  flaggedLegacy := coherent.flaggedLegacy
  flagged := coherent.flagged
  closed other present := by
    by_cases here : attempt = other
    · exact here ▸ spent
    · simp only [Slice.upsertTerminal, if_neg here] at present
      exact coherent.closed other present

end Slice.Coherent

section Counters

variable [LinearOrder F]

def nextCounter (time : Time) : Option CounterRow → CounterRow
  | none => ⟨1, false, time⟩
  | some row => { row with attempts := row.attempts + 1, updatedAt := time }

theorem nextCounter_positive (time : Time) (row : Option CounterRow) :
    0 < (nextCounter time row).attempts := by
  cases row with
  | none => exact Nat.one_pos
  | some row => exact Nat.succ_pos row.attempts

include coherent in
theorem Slice.Coherent.upsertAttempt_eq (holds : slice.Holds fingerprint) :
    slice.upsertAttempt generation (attemptFingerprint generation fingerprint) time =
      slice.insertCounter generation (attemptFingerprint generation fingerprint) (nextCounter time
          (slice.readCounter generation (attemptFingerprint generation fingerprint))) := by
  unfold Slice.upsertAttempt Slice.incrementAttempt
  cases found : slice.readCounter generation (attemptFingerprint generation fingerprint) with
  | none => rfl
  | some row => exact coherent.updateCounter_eq generation fingerprint holds _ row found

omit [Sha256 F] in
theorem Slice.readCounter_insertCounter (slice : Slice F) (generation : String)
    (attempt : F) (row : CounterRow) :
    (slice.insertCounter generation attempt row).readCounter generation attempt = some row := by
  unfold Slice.readCounter Slice.insertCounter
  split <;> simp

omit [Sha256 F] in
theorem Slice.insertCounter_holds (slice : Slice F) (generation : String) (attempt : F)
    (row : CounterRow) (fingerprint : F) :
    (slice.insertCounter generation attempt row).Holds fingerprint ↔ slice.Holds fingerprint := by
  unfold Slice.insertCounter
  split <;> rfl

omit [Sha256 F] in
theorem Slice.insertCounter_spent (slice : Slice F) (generation : String) (attempt : F)
    (row : CounterRow) (used : 0 < row.attempts) :
    (slice.insertCounter generation attempt row).Spent attempt := by
  unfold Slice.insertCounter
  split
  · exact .inl ⟨⟨row, attempt⟩, rfl, rfl, used⟩
  · exact .inr ⟨row, by simp, used⟩

end Counters

end Statements

def Slice.Available (slice : Slice F) (fingerprint : F) : Prop :=
  ∀ row, slice.identity = some row → row.fingerprint = fingerprint ∧ row.completedAt = none

section Attempt

variable [LinearOrder F] {slice : Slice F} (coherent : slice.Coherent)
variable (key : Key) (fingerprint : F) (now : Readings) (maxAttempts : Nat)

include coherent in
theorem Slice.Coherent.settle (holds : slice.Holds fingerprint) (count : Nat)
    (outcome : Option GoError) :
    (slice.settle key fingerprint now maxAttempts count outcome).Coherent := by
  have used := nextCounter_positive now.attempted (slice.readCounter key.attemptGeneration
    (attemptFingerprint key.attemptGeneration fingerprint))
  have consumed := coherent.insertCounter key.attemptGeneration fingerprint holds
    (nextCounter now.attempted (slice.readCounter key.attemptGeneration
      (attemptFingerprint key.attemptGeneration fingerprint))) (fun _ => used) (.inr used)
  unfold Slice.settle
  simp only [coherent.upsertAttempt_eq key.attemptGeneration fingerprint now.attempted holds]
  cases (classify outcome).1 with
  | deferred =>
    by_cases first : count = 0
    · simp only [first, if_true, Slice.insertDeferred]
      split
      · rename_i missing
        exact coherent.insertCounter key.attemptGeneration fingerprint holds _
          (fun flag => by cases flag)
          (.inl missing)
      · exact coherent
    · simp only [first, if_false]
      exact coherent
  | success => exact consumed.markComplete now.completed
  | permanent =>
    have marked := consumed.updateCounter_eq key.attemptGeneration fingerprint
      ((slice.insertCounter_holds _ _ _ _).mpr holds)
      (fun row => { row with terminal := true, updatedAt := now.marked }) _
      (slice.readCounter_insertCounter _ _ _)
    simp only [Slice.markTerminal, marked]
    apply Slice.Coherent.upsertTerminal
    · exact consumed.insertCounter key.attemptGeneration fingerprint
        ((slice.insertCounter_holds _ _ _ _).mpr holds) _ (fun _ => used) (.inr used)
    · exact Slice.insertCounter_spent _ _ _ _ used
  | retryAfter | ordinary =>
    by_cases last : maxAttempts ≤ count + 1
    · simp only [last, if_true]
      exact consumed.upsertTerminal now.recorded _ _ _ _ (Slice.insertCounter_spent _ _ _ _ used)
    · simp only [last, if_false]
      exact consumed

omit [LinearOrder F] [Sha256 F] in
theorem Slice.insertIdentity_holds (slice : Slice F) (fingerprint : F) (time : Time)
    (available : slice.Available fingerprint) :
    (slice.insertIdentity time fingerprint).Holds fingerprint := by
  cases stored : slice.identity with
  | none => exact ⟨⟨fingerprint, time, none⟩, by simp [Slice.insertIdentity, stored], rfl⟩
  | some row =>
    rw [slice.insertIdentity_some time fingerprint row stored]
    exact ⟨row, stored, (available row stored).1⟩

theorem Slice.verdict_cases (slice : Slice F) :
    (slice.verdict key fingerprint maxAttempts = .conflict ∧ ¬ slice.Available fingerprint) ∨
      (slice.verdict key fingerprint maxAttempts =
        .duplicate (slice.state key fingerprint).attempt ∧ ¬ slice.Available fingerprint) ∨
      slice.Available fingerprint ∧ slice.verdict key fingerprint maxAttempts =
        slice.pending key fingerprint maxAttempts := by
  unfold Slice.verdict Slice.Available
  cases stored : slice.identity with
  | none => exact .inr (.inr ⟨(fun row found => by cases found), rfl⟩)
  | some row =>
    by_cases conflict : row.fingerprint ≠ fingerprint
    · exact .inl ⟨if_pos conflict, fun free => conflict (free row rfl).1⟩
    · by_cases completed : row.completedAt ≠ none
      · refine .inr (.inl ⟨?_, fun free => completed (free row rfl).2⟩)
        simp only [if_neg conflict, if_pos completed]
      · refine .inr (.inr ⟨fun other found => ?_, ?_⟩)
        · rw [← Option.some.inj found]
          exact ⟨not_not.mp conflict, not_not.mp completed⟩
        · simp only [if_neg conflict, if_neg completed]

theorem Slice.verdict_available (slice : Slice F) (available : slice.Available fingerprint) :
    slice.verdict key fingerprint maxAttempts = slice.pending key fingerprint maxAttempts := by
  rcases slice.verdict_cases key fingerprint maxAttempts with ⟨_, other⟩ | ⟨_, other⟩ | ⟨_, equal⟩
  · exact absurd available other
  · exact absurd available other
  · exact equal

/-- What an attempt leaves, by the three ways it can go. -/
theorem Slice.attempt_cases (slice next : Slice F) (outcome : Option GoError)
    (settled : slice.attempt key fingerprint now maxAttempts outcome = some next) :
    (next = slice ∧ ¬ slice.Available fingerprint) ∨ (slice.Available fingerprint ∧
        (slice.verdict key fingerprint maxAttempts).admits = false ∧
        ∃ counted : 0 < (slice.state key fingerprint).attempt,
          next = (slice.insertIdentity now.created fingerprint).upsertTerminal
            (attemptFingerprint key.attemptGeneration fingerprint) now.recorded
            (slice.state key fingerprint).attempt counted
              (slice.state key fingerprint).closedKind) ∨
      slice.Available fingerprint ∧ (slice.verdict key fingerprint maxAttempts).admits = true ∧
        (slice.state key fingerprint).closed maxAttempts = false ∧
        next = (slice.insertIdentity now.created fingerprint).settle key fingerprint now maxAttempts
          (slice.state key fingerprint).attempt outcome := by
  unfold Slice.attempt at settled
  rcases slice.verdict_cases key fingerprint maxAttempts
    with ⟨equal, taken⟩ | ⟨equal, taken⟩ | ⟨available, equal⟩
  · rw [equal] at settled
    exact .inl ⟨(Option.some.inj settled).symm, taken⟩
  · rw [equal] at settled
    exact .inl ⟨(Option.some.inj settled).symm, taken⟩
  · rw [equal, Slice.pending] at settled
    rw [equal, Slice.pending]
    cases closed : (slice.state key fingerprint).closed maxAttempts with
    | true =>
      simp only [closed, if_true] at settled ⊢
      split at settled
      · rename_i counted
        exact .inr (.inl ⟨available, rfl, counted, (Option.some.inj settled).symm⟩)
      · cases settled
    | false =>
      simp only [closed, Bool.false_eq_true, if_false] at settled ⊢
      exact .inr (.inr ⟨available, rfl, trivial, (Option.some.inj settled).symm⟩)

omit [LinearOrder F] in
theorem Slice.state_attempt (slice : Slice F) : (slice.state key fingerprint).attempt =
      ((slice.readCounter key.attemptGeneration
        (attemptFingerprint key.attemptGeneration fingerprint)).map
          CounterRow.attempts).getD 0 := by
  rw [← Slice.readAttempt_count, Slice.state]
  cases slice.readAttempt key.attemptGeneration
    (attemptFingerprint key.attemptGeneration fingerprint) <;> rfl

omit [LinearOrder F] in
include coherent in
theorem Slice.Coherent.spent_of_counted (available : slice.Available fingerprint)
    (counted : 0 < (slice.state key fingerprint).attempt) :
    slice.Holds fingerprint ∧ slice.Spent
      (attemptFingerprint key.attemptGeneration fingerprint) := by
  rw [slice.state_attempt] at counted
  cases found : slice.readCounter key.attemptGeneration
      (attemptFingerprint key.attemptGeneration fingerprint) with
  | none =>
    rw [found] at counted
    exact absurd counted (Nat.lt_irrefl 0)
  | some row =>
    rw [found] at counted
    have used : 0 < row.attempts := counted
    have tracked : slice.HasAttempts := by
      unfold Slice.readCounter at found
      split at found
      · exact .inl (fun missing => by rw [missing] at found; cases found)
      · exact .inr ⟨_, by rw [found]; exact Option.some_ne_none row⟩
    obtain ⟨stored, identity⟩ := Option.ne_none_iff_exists'.mp
      (fun missing => coherent.tracked missing tracked)
    have same := (available stored identity).1
    refine ⟨⟨stored, identity, same⟩, ?_⟩
    by_cases legacy : key.attemptGeneration = ""
    · simp only [legacy, Slice.readCounter, if_true, Option.map_eq_some_iff] at found
      obtain ⟨old, present, rfl⟩ := found
      refine .inl ⟨old, present, ?_, used⟩
      rw [legacy, attemptFingerprint_empty, coherent.stamped old stored present identity, same]
    · simp only [Slice.readCounter, if_neg legacy] at found
      exact .inr ⟨row, found, used⟩

include coherent in
theorem Slice.Coherent.attempt (next : Slice F) (outcome : Option GoError)
    (settled : slice.attempt key fingerprint now maxAttempts outcome = some next) :
    next.Coherent := by
  have inserted := coherent.insertIdentity fingerprint now.created
  rcases slice.attempt_cases key fingerprint now maxAttempts next outcome settled with
    ⟨rfl, _⟩ | ⟨available, _, counted, rfl⟩ | ⟨available, _, _, rfl⟩
  · exact coherent
  · obtain ⟨⟨row, stored, _⟩, spent⟩ := coherent.spent_of_counted key fingerprint available counted
    rw [slice.insertIdentity_some now.created fingerprint row stored]
    exact coherent.upsertTerminal now.recorded _ _ counted _ spent
  · exact inserted.settle key fingerprint now maxAttempts
      (slice.insertIdentity_holds fingerprint now.created available) _ outcome

include coherent in
theorem Slice.Coherent.deleteCounters (attempt : F) :
    ((slice.deleteTerminal attempt).deleteCounters attempt).Coherent where
  tracked missing held := by
    refine coherent.tracked missing ?_
    rcases held with legacy | ⟨other, present⟩
    · refine .inl (fun gone => legacy ?_)
      change Option.filter _ slice.legacy = _
      rw [gone]
      rfl
    · refine .inr ⟨other, fun gone => present ?_⟩
      change (if attempt = other then none else slice.generations other) = none
      rw [gone, ite_self]
  stamped row stored found identity := by
    obtain ⟨present, _⟩ := Option.filter_eq_some_iff.mp found
    exact coherent.stamped row stored present identity
  derived other stored present identity := by
    refine coherent.derived other stored (fun gone => present ?_) identity
    change (if attempt = other then none else slice.generations other) = none
    rw [gone, ite_self]
  flaggedLegacy row found := by
    obtain ⟨present, _⟩ := Option.filter_eq_some_iff.mp found
    exact coherent.flaggedLegacy row present
  flagged other row found := by
    change (if attempt = other then none else slice.generations other) = some row at found
    split at found
    · cases found
    · exact coherent.flagged other row found
  closed other present := by
    change (if attempt = other then none else slice.terminal other) ≠ none at present
    split at present
    · exact absurd rfl present
    · rename_i apart
      rcases coherent.closed other present with ⟨row, found, print, used⟩ | ⟨row, found, used⟩
      · refine .inl ⟨row, Option.filter_eq_some_iff.mpr ⟨found, ?_⟩, print, used⟩
        exact decide_eq_true (fun same => apart (same.symm.trans print))
      · exact .inr ⟨row, (if_neg apart).trans found, used⟩

include coherent in
theorem Slice.Coherent.retire (before : Time) (attempt : F) :
    (slice.retire before attempt).Coherent := by
  unfold Slice.retire
  split
  · unfold Slice.deleteEmptyIdentity
    split
    · exact coherent.deleteCounters attempt
    · rename_i empty
      exact (coherent.deleteCounters attempt).deleteIncompleteIdentity
        (fun held => empty (.inl held))
  · exact coherent

include coherent in
theorem Slice.Coherent.forget (generation : String) (fingerprint : F)
    (holds : slice.Holds fingerprint) :
    (slice.forget generation (attemptFingerprint generation fingerprint)).Coherent := by
  obtain ⟨stored, identity, same⟩ := holds
  have rest : ((slice.deleteTerminal (attemptFingerprint generation fingerprint)).deleteAttempt
      generation (attemptFingerprint generation fingerprint)).Coherent := by
    unfold Slice.deleteAttempt
    split
    · rename_i legacy
      subst legacy
      refine ⟨fun missing => ?_, fun row _ found => ?_, coherent.derived, fun row found => ?_,
        coherent.flagged, fun other present => ?_⟩
      · exact absurd (identity.symm.trans missing) (Option.some_ne_none stored)
      · cases found
      · cases found
      · change (if attemptFingerprint "" fingerprint = other then none
          else slice.terminal other) ≠ none at present
        split at present
        · exact absurd rfl present
        · rename_i apart
          rcases coherent.closed other present with ⟨row, found, print, _⟩ | generated
          · have own := coherent.stamped row stored found identity
            exact absurd (same.symm.trans (own.symm.trans print)) apart
          · exact .inr generated
    · refine ⟨fun missing => ?_, coherent.stamped, fun other row present known => ?_,
        coherent.flaggedLegacy, fun other row found => ?_, fun other present => ?_⟩
      · exact absurd (identity.symm.trans missing) (Option.some_ne_none stored)
      · refine coherent.derived other row (fun gone => present ?_) known
        change (if attemptFingerprint generation fingerprint = other then none
          else slice.generations other) = none
        rw [gone, ite_self]
      · change (if attemptFingerprint generation fingerprint = other then none
          else slice.generations other) = some row at found
        split at found
        · cases found
        · exact coherent.flagged other row found
      · change (if attemptFingerprint generation fingerprint = other then none
          else slice.terminal other) ≠ none at present
        split at present
        · exact absurd rfl present
        · rename_i apart
          rcases coherent.closed other present with legacy | ⟨row, found, used⟩
          · exact .inl legacy
          · exact .inr ⟨row, (if_neg apart).trans found, used⟩
  simp only [Slice.forget]
  split
  · exact rest
  · rename_i empty
    exact rest.deleteIncompleteIdentity empty

include coherent in
theorem Slice.Coherent.confirm (attempt : F) (time : Time) :
    (slice.confirm attempt time).Coherent where
  tracked := coherent.tracked
  stamped := coherent.stamped
  derived := coherent.derived
  flaggedLegacy := coherent.flaggedLegacy
  flagged := coherent.flagged
  closed other present := by
    apply coherent.closed other
    intro gone
    apply present
    change (if attempt = other then (slice.terminal attempt).map _ else slice.terminal other) = _
    by_cases here : attempt = other
    · rw [if_pos here, here, gone]
      rfl
    · rw [if_neg here, gone]

end Attempt

section Runs

variable [LinearOrder F]

theorem Effect.coherent {now : Readings} {id : Identity} {slice : Slice F} {op : Op F}
    {trace : Trace F} (effect : Effect now id slice op trace) (coherent : slice.Coherent) :
    trace.slice.Coherent := by
  cases effect with
  | idle => exact coherent
  | abandoned => exact coherent
  | refused op item maxAttempts next member here limit positive denied settled =>
    exact coherent.attempt item.key item.fingerprint now maxAttempts next none settled
  | attempted op item maxAttempts outcome next member here limit positive admitted settled =>
    exact coherent.attempt item.key item.fingerprint now maxAttempts next outcome settled
  | dropped => exact coherent
  | processed key fingerprint outcome here unclaimed =>
    exact (coherent.insertIdentity fingerprint now.created).markComplete now.completed
  | forgotten key fingerprint here row stored same incomplete =>
    exact coherent.forget key.attemptGeneration fingerprint ⟨row, stored, same⟩
  | confirmed key fingerprint here row stored same => exact coherent.confirm _ now.confirmed
  | pruned => exact coherent_empty
  | retired before limit attempts =>
    induction attempts generalizing slice with
    | nil => exact coherent
    | cons attempt rest ih => exact ih (coherent.retire before attempt)

/-- Every identity of the tables is coherent. -/
def Tables.Coherent (tables : Tables F) : Prop := ∀ id, (tables.slice id).Coherent

variable {tables : Tables F}

theorem Tables.Coherent.tracked (coherent : tables.Coherent) : tables.Tracked :=
  fun id => (coherent id).tracked

theorem step_coherent (backend : Backend) (tables : Tables F) (taken : Step F)
    (coherent : tables.Coherent) : (step backend tables taken).tables.Coherent :=
  fun id => (step_effect backend tables coherent.tracked taken id).coherent (coherent id)

theorem run_coherent (backend : Backend) (steps : List (Step F)) (tables : Tables F)
    (coherent : tables.Coherent) : (run backend tables steps).Coherent := by
  induction steps generalizing tables with
  | nil => exact coherent
  | cons taken rest ih => exact ih _ (step_coherent backend tables taken coherent)

theorem Reachable.coherent {backend : Backend} (reachable : Reachable backend tables) :
    tables.Coherent := by
  obtain ⟨steps, rfl⟩ := reachable
  exact run_coherent backend steps _ (fun _ => coherent_empty)

end Runs

end Coherence

end Gomessenger.Inbox
