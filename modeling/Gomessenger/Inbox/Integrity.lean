import Gomessenger.Inbox.Closure
import Gomessenger.Inbox.Generations

/-! The relations between the rows of the four tables, which no foreign key enforces. -/

namespace Gomessenger.Inbox

open LocalAction

section Integrity

variable {F : Type}

/-- A counter row, of either table, that is kept under the attempt fingerprint. -/
def Slice.Counts (slice : Slice F) (attempt : F) (row : CounterRow) : Prop :=
  (∃ counter, slice.legacy = some counter ∧ counter.fingerprint = attempt ∧
      counter.toCounterRow = row) ∨
    slice.generations attempt = some row

/-- A terminal row has a counter of the same count, a flagged counter a permanent
terminal row, and an incomplete identity a counter. -/
structure Slice.Linked (slice : Slice F) : Prop where
  counted : ∀ attempt row, slice.terminal attempt = some row →
    ∃ counter, slice.Counts attempt counter ∧ counter.attempts = row.attempts
  flagged : ∀ attempt counter, slice.Counts attempt counter → counter.terminal = true →
    ∃ row, slice.terminal attempt = some row ∧ row.failureKind = .permanent
  held : ∀ row, slice.identity = some row → row.completedAt = none → slice.HasAttempts

theorem Slice.Counts.hasAttempts {slice : Slice F} {attempt : F} {row : CounterRow}
    (counts : slice.Counts attempt row) : slice.HasAttempts := by
  rcases counts with ⟨counter, present, _⟩ | present
  · exact .inl (by rw [present]; exact Option.some_ne_none counter)
  · exact .inr ⟨attempt, by rw [present]; exact Option.some_ne_none row⟩

theorem linked_empty : (Slice.empty : Slice F).Linked where
  counted _ _ closed := by cases closed
  flagged _ _ counts := by rcases counts with ⟨_, present, _⟩ | present <;> cases present
  held _ stored := by cases stored

variable [Sha256 F]

section Views

variable {slice next : Slice F} {fingerprint : F} {generation : String}
variable (coherent : slice.Coherent) (print : slice.Matches fingerprint)

include coherent print in
theorem Slice.Coherent.legacy_print (counter : AttemptRow F)
    (present : slice.legacy = some counter) :
    counter.fingerprint = fingerprint := by
  obtain ⟨stored, identity⟩ := Option.ne_none_iff_exists'.mp (fun missing =>
    coherent.tracked missing (.inl (by rw [present]; exact Option.some_ne_none counter)))
  exact (coherent.stamped counter stored present identity).trans (print stored identity)

include coherent print in
theorem Slice.Coherent.counts_iff (apart : slice.Apart)
    (separates : Separates fingerprint generation "") (row : CounterRow) :
    slice.Counts (attemptFingerprint generation fingerprint) row ↔
      slice.readCounter generation (attemptFingerprint generation fingerprint) = some row := by
  unfold Slice.Counts Slice.readCounter
  by_cases legacy : generation = ""
  · subst legacy
    rw [attemptFingerprint_empty, if_pos rfl, Option.map_eq_some_iff]
    constructor
    · rintro (⟨counter, present, _, same⟩ | present)
      · exact ⟨counter, present, same⟩
      · have some := present ▸ Option.some_ne_none row
        obtain ⟨stored, identity⟩ := Option.ne_none_iff_exists'.mp
          (fun missing => coherent.tracked missing (.inr ⟨fingerprint, some⟩))
        exact absurd (print stored identity).symm (apart fingerprint stored some identity)
    · rintro ⟨counter, present, same⟩
      exact .inl ⟨counter, present, coherent.legacy_print print counter present, same⟩
  · rw [if_neg legacy, or_iff_right]
    rintro ⟨counter, present, own, _⟩
    refine legacy (separates ?_)
    rw [← own, coherent.legacy_print print counter present, attemptFingerprint_empty]

include coherent print in
theorem Slice.Untouched.counts (coherentNext : next.Coherent) (later : next.Matches fingerprint)
    (untouched : slice.Untouched next generation (attemptFingerprint generation fingerprint))
    (attempt : F) (other : attempt ≠ attemptFingerprint generation fingerprint) (row : CounterRow) :
    next.Counts attempt row ↔ slice.Counts attempt row := by
  unfold Slice.Counts
  rw [untouched.generations attempt (.inr other)]
  by_cases legacy : generation = ""
  · subst legacy
    rw [attemptFingerprint_empty] at other
    refine or_congr_left (iff_of_false ?_ ?_)
    · rintro ⟨counter, present, own, _⟩
      exact other (own.symm.trans (coherentNext.legacy_print later counter present))
    · rintro ⟨counter, present, own, _⟩
      exact other (own.symm.trans (coherent.legacy_print print counter present))
  · rw [untouched.legacy legacy]

/-- The invariant, fingerprint by fingerprint: only the touched one needs an argument. -/
theorem Slice.Linked.of_untouched (coherent : slice.Coherent) (coherentNext : next.Coherent)
    (print : slice.Matches fingerprint) (later : next.Matches fingerprint) (linked : slice.Linked)
    (untouched : slice.Untouched next generation (attemptFingerprint generation fingerprint))
    (counted : ∀ row, next.terminal (attemptFingerprint generation fingerprint) = some row →
      ∃ counter, next.Counts (attemptFingerprint generation fingerprint) counter ∧
        counter.attempts = row.attempts)
    (flagged : ∀ counter, next.Counts (attemptFingerprint generation fingerprint) counter →
      counter.terminal = true →
      ∃ row, next.terminal (attemptFingerprint generation fingerprint) = some row ∧
        row.failureKind = .permanent)
    (held : ∀ row, next.identity = some row → row.completedAt = none → next.HasAttempts) :
    next.Linked where
  counted attempt row closed := by
    by_cases own : attempt = attemptFingerprint generation fingerprint
    · subst own
      exact counted row closed
    · rw [untouched.terminal attempt own] at closed
      obtain ⟨counter, counts, same⟩ := linked.counted attempt row closed
      exact ⟨counter, (untouched.counts coherent print coherentNext later attempt own counter).mpr
        counts, same⟩
  flagged attempt counter counts flag := by
    by_cases own : attempt = attemptFingerprint generation fingerprint
    · subst own
      exact flagged counter counts flag
    · rw [untouched.terminal attempt own]
      exact linked.flagged attempt counter
        ((untouched.counts coherent print coherentNext later attempt own counter).mp counts) flag
  held := held

end Views

section Settling

variable [LinearOrder F]

def settledKind (outcome : Option GoError) : TerminalKind :=
  if (classify outcome).1 = .permanent then .permanent else .attemptsExhausted

omit [Sha256 F] in
theorem Slice.upsertTerminal_own (slice : Slice F) (attempt : F) (time : Time) (count : Nat)
    (counted : 0 < count) (kind : TerminalKind) :
    (slice.upsertTerminal attempt time count counted kind).terminal attempt =
      some (((slice.terminal attempt).map (fun row => { row with handoffConfirmedAt := none })).getD
        ⟨count, counted, kind, time, none⟩) := by
  cases stored : slice.terminal attempt <;> simp [Slice.upsertTerminal, stored]

theorem Slice.settle_terminal (slice : Slice F) (key : Key) (fingerprint : F) (now : Readings)
    (maxAttempts count : Nat) (outcome : Option GoError) :
    let attempt := attemptFingerprint key.attemptGeneration fingerprint
    (slice.settle key fingerprint now maxAttempts count outcome).terminal attempt =
      if closesGeneration maxAttempts count outcome = true then
        some (((slice.terminal attempt).map (fun row =>
          { row with handoffConfirmedAt := none })).getD
          ⟨count + 1, Nat.succ_pos count, settledKind outcome, now.recorded, none⟩)
      else slice.terminal attempt := by
  intro attempt
  have consumed := slice.upsertAttempt_terminal key.attemptGeneration attempt now.attempted
  unfold Slice.settle closesGeneration settledKind
  cases classified : (classify outcome).1 with
  | deferred =>
    simp only [Bool.false_eq_true, if_false]
    by_cases first : count = 0
    · simp only [first, if_true, Slice.insertDeferred]
      split
      · rw [Slice.insertCounter_terminal]
      · rfl
    · simp [first]
  | success =>
    simp only [Bool.false_eq_true, if_false]
    exact congrFun consumed attempt
  | permanent =>
    simp only [if_true]
    rw [Slice.upsertTerminal_own, Slice.markTerminal, Slice.updateCounter_terminal, consumed]
  | retryAfter | ordinary =>
    by_cases last : maxAttempts ≤ count + 1
    · simp only [last, if_true, decide_true, reduceCtorEq, if_false]
      rw [Slice.upsertTerminal_own, consumed]
    · simp only [last, if_false, decide_false, Bool.false_eq_true]
      exact congrFun consumed attempt

omit [LinearOrder F] in
theorem Slice.Coherent.admitted_open {slice : Slice F} (coherent : slice.Coherent)
    (apart : slice.Apart) (key : Key) (fingerprint : F)
    (separates : Separates fingerprint key.attemptGeneration "") (maxAttempts : Nat)
    (available : slice.Available fingerprint)
    (opened : (slice.state key fingerprint).closed maxAttempts = false) :
    slice.terminal (attemptFingerprint key.attemptGeneration fingerprint) = none := by
  by_contra closed
  obtain ⟨row, stored⟩ := Option.ne_none_iff_exists'.mp (fun missing =>
    coherent.tracked missing (coherent.closed _ closed).hasAttempts)
  have denied := coherent.state_closed apart key fingerprint separates maxAttempts
    ⟨row, stored, (available row stored).1⟩ closed
  rw [opened] at denied
  cases denied

end Settling

section Attempts

variable [LinearOrder F] {slice : Slice F} (coherent : slice.Coherent) (apart : slice.Apart)
variable (linked : slice.Linked) (key : Key) (fingerprint : F) (now : Readings) (maxAttempts : Nat)
variable (separates : Separates fingerprint key.attemptGeneration "")

omit [LinearOrder F] in
theorem Slice.state_counter (slice : Slice F) :
    (slice.readCounter key.attemptGeneration
        (attemptFingerprint key.attemptGeneration fingerprint) = none ∧
      slice.state key fingerprint = noAttempt) ∨
    ∃ row, slice.readCounter key.attemptGeneration
        (attemptFingerprint key.attemptGeneration fingerprint) = some row ∧
      (slice.state key fingerprint).attempt = row.attempts ∧
      (slice.state key fingerprint).terminal = row.terminal := by
  rw [Slice.state, Slice.readAttempt, Slice.readCounter]
  split
  · cases slice.legacy with
    | none => exact .inl ⟨rfl, rfl⟩
    | some row => exact .inr ⟨row.toCounterRow, rfl, rfl, rfl⟩
  · cases slice.generations (attemptFingerprint key.attemptGeneration fingerprint) with
    | none => exact .inl ⟨rfl, rfl⟩
    | some row => exact .inr ⟨row, rfl, rfl, rfl⟩

include coherent apart linked separates in
theorem Slice.Linked.record (available : slice.Available fingerprint)
    (counted : 0 < (slice.state key fingerprint).attempt) :
    ((slice.insertIdentity now.created fingerprint).upsertTerminal
      (attemptFingerprint key.attemptGeneration fingerprint) now.recorded
      (slice.state key fingerprint).attempt counted
      (slice.state key fingerprint).closedKind).Linked := by
  obtain ⟨holds, spent⟩ := coherent.spent_of_counted key fingerprint available counted
  obtain ⟨stored, identity, same⟩ := holds
  have holds : slice.Holds fingerprint := ⟨stored, identity, same⟩
  rw [slice.insertIdentity_some now.created fingerprint stored identity]
  refine Slice.Linked.of_untouched coherent
    (coherent.upsertTerminal now.recorded _ _ counted _ spent)
    holds.matches holds.matches linked (.upsertTerminal slice now.recorded _ counted _) ?_ ?_
    (fun _ _ _ => spent.hasAttempts)
  · intro row closed
    rw [Slice.upsertTerminal_own] at closed
    cases before : slice.terminal (attemptFingerprint key.attemptGeneration fingerprint) with
    | some old =>
      rw [before] at closed
      rw [← Option.some.inj closed]
      exact linked.counted _ old before
    | none =>
      rw [before] at closed
      rw [← Option.some.inj closed]
      rcases slice.state_counter key fingerprint with ⟨_, fresh⟩ | ⟨counter, found, count, _⟩
      · rw [fresh] at counted
        cases counted
      · exact ⟨counter, (coherent.counts_iff holds.matches apart separates counter).mpr found,
          count.symm⟩
  · intro counter counts flag
    obtain ⟨old, before, kind⟩ := linked.flagged _ counter counts flag
    rw [Slice.upsertTerminal_own, before]
    exact ⟨_, rfl, kind⟩

include coherent apart linked separates in
theorem Slice.Linked.record_kind (available : slice.Available fingerprint)
    (counted : 0 < (slice.state key fingerprint).attempt) :
    ∃ row, ((slice.insertIdentity now.created fingerprint).upsertTerminal
        (attemptFingerprint key.attemptGeneration fingerprint) now.recorded
        (slice.state key fingerprint).attempt counted
        (slice.state key fingerprint).closedKind).terminal
          (attemptFingerprint key.attemptGeneration fingerprint) = some row ∧
      row.failureKind = (slice.state key fingerprint).closedKind := by
  obtain ⟨⟨stored, identity, same⟩, _⟩ :=
    coherent.spent_of_counted key fingerprint available counted
  have holds : slice.Holds fingerprint := ⟨stored, identity, same⟩
  rw [slice.insertIdentity_some now.created fingerprint stored identity, Slice.upsertTerminal_own]
  refine ⟨_, rfl, ?_⟩
  cases before : slice.terminal (attemptFingerprint key.attemptGeneration fingerprint) with
  | none => rfl
  | some old =>
    have kind := coherent.state_kind apart key fingerprint separates holds
      (by rw [before]; exact Option.some_ne_none old)
    rw [before, Option.map_some] at kind
    change old.failureKind = _
    unfold AttemptState.closedKind AttemptState.closedPermanent
    rw [kind]
    rcases slice.state_counter key fingerprint with ⟨_, fresh⟩ | ⟨counter, found, _, flag⟩
    · rw [fresh] at counted
      cases counted
    · rw [flag]
      cases marked : counter.terminal with
      | false => cases old.failureKind <;> rfl
      | true =>
        obtain ⟨row, closed, permanent⟩ := linked.flagged _ counter
          ((coherent.counts_iff holds.matches apart separates counter).mpr found) marked
        rw [Option.some.inj (before.symm.trans closed), permanent]
        rfl

omit [Sha256 F] in
theorem Slice.insertDeferred_hasAttempts (slice : Slice F) (generation : String) (attempt : F)
    (time : Time) : (slice.insertDeferred generation attempt time).HasAttempts := by
  have held : ∀ (base : Slice F) row, base.readCounter generation attempt = some row →
      base.HasAttempts := by
    intro base row found
    unfold Slice.readCounter at found
    split at found
    · exact .inl (fun missing => by rw [missing] at found; cases found)
    · exact .inr ⟨attempt, by rw [found]; exact Option.some_ne_none row⟩
  unfold Slice.insertDeferred
  split
  · exact held _ _ (slice.readCounter_insertCounter generation attempt _)
  · rename_i row found
    exact held slice row found

omit [LinearOrder F] in
theorem Slice.hasAttempts_of_counter {generation : String} (row : CounterRow)
    (found : slice.counter generation = some row) : slice.HasAttempts := by
  by_contra free
  rw [slice.counter_of_tracked free] at found
  cases found

include coherent in
theorem Slice.Coherent.settle_counted (available : slice.Available fingerprint)
    (unflagged : slice.flag key.attemptGeneration = false) (outcome : Option GoError) :
    let next := (slice.insertIdentity now.created fingerprint).settle key
      fingerprint now maxAttempts
      (slice.state key fingerprint).attempt outcome
    next.HasAttempts ∧ (next.flag key.attemptGeneration = true →
      (classify outcome).1 = .permanent) ∧
      (isDeferral outcome = false → ∃ counter, next.counter key.attemptGeneration = some counter ∧
        counter.attempts = (slice.state key fingerprint).attempt + 1) := by
  intro next
  have holds := slice.insertIdentity_holds fingerprint now.created available
  have inserted := coherent.insertIdentity fingerprint now.created
  have counters := coherent.insertIdentity_counter now.created fingerprint
  have counts := coherent.state_count key fingerprint available
  have own : Separates fingerprint key.attemptGeneration key.attemptGeneration := fun _ => rfl
  cases deferred : isDeferral outcome with
  | false =>
    obtain ⟨row, counted, marks, rows⟩ := inserted.settle_consumed key fingerprint holds now
      maxAttempts (slice.state key fingerprint).attempt outcome deferred
    have stored := rows key.attemptGeneration own
    rw [if_pos rfl] at stored
    rw [Slice.count, counters] at counted
    rw [Slice.flag, counters] at marks
    refine ⟨Slice.hasAttempts_of_counter row stored, fun flag => ?_, fun _ => ⟨row, stored, ?_⟩⟩
    · rw [Slice.flag, stored] at flag
      rcases marks flag with permanent | old
      · exact permanent
      · exact absurd (unflagged.symm.trans old) Bool.false_ne_true
    · rw [counts]
      exact counted
  | true =>
    refine ⟨?_, fun flag => ?_, fun consumed => by cases consumed⟩
    · have classified := (classify_deferred outcome).mpr deferred
      simp only [next, Slice.settle, classified]
      by_cases first : (slice.state key fingerprint).attempt = 0
      · simp only [first, if_true]
        exact Slice.insertDeferred_hasAttempts _ _ _ _
      · simp only [first, if_false]
        rw [counts, Slice.count] at first
        cases found : slice.counter key.attemptGeneration with
        | none =>
          rw [found] at first
          exact absurd rfl first
        | some row => exact Slice.hasAttempts_of_counter row ((counters _).trans found)
    · exfalso
      rw [Slice.flag] at flag unflagged
      rcases Slice.settle_deferred key fingerprint holds now maxAttempts
          (slice.state key fingerprint).attempt outcome deferred key.attemptGeneration own with
        same | ⟨_, fresh, _, plain, stored⟩
      · rw [same, counters] at flag
        exact Bool.false_ne_true (unflagged.symm.trans flag)
      · rw [stored] at flag
        exact Bool.false_ne_true (plain.symm.trans flag)

omit [LinearOrder F] in
include coherent apart linked separates in
theorem Slice.Linked.unflagged (available : slice.Available fingerprint)
    (unclosed : slice.terminal (attemptFingerprint key.attemptGeneration fingerprint) = none) :
    slice.flag key.attemptGeneration = false := by
  rw [Slice.flag]
  cases found : slice.counter key.attemptGeneration with
  | none => rfl
  | some counter =>
    obtain ⟨stored, identity⟩ := Option.ne_none_iff_exists'.mp (fun missing =>
      coherent.tracked missing (Slice.hasAttempts_of_counter counter found))
    rw [slice.counter_of_holds fingerprint _ ⟨stored, identity, (available stored identity).1⟩]
      at found
    have counts := (coherent.counts_iff available.matches apart separates counter).mpr found
    refine Bool.eq_false_iff.mpr (fun flag => ?_)
    obtain ⟨row, closed, _⟩ := linked.flagged _ counter counts flag
    rw [unclosed] at closed
    cases closed

include coherent apart linked separates in
theorem Slice.Linked.settle (available : slice.Available fingerprint)
    (opened : (slice.state key fingerprint).closed maxAttempts = false) (outcome : Option GoError)
    (apartNext : ((slice.insertIdentity now.created fingerprint).settle key fingerprint now
      maxAttempts (slice.state key fingerprint).attempt outcome).Apart) :
    ((slice.insertIdentity now.created fingerprint).settle key fingerprint now maxAttempts
      (slice.state key fingerprint).attempt outcome).Linked := by
  have holds := slice.insertIdentity_holds fingerprint now.created available
  have inserted := coherent.insertIdentity fingerprint now.created
  have unclosed := coherent.admitted_open apart key fingerprint separates
    maxAttempts available opened
  have unflagged := linked.unflagged coherent apart key fingerprint separates available unclosed
  have closing :=
    Slice.settle_terminal (slice.insertIdentity now.created fingerprint) key fingerprint
    now maxAttempts (slice.state key fingerprint).attempt outcome
  simp only [slice.insertIdentity_terminal, unclosed, Option.map_none, Option.getD_none] at closing
  obtain ⟨held, flags, counted⟩ := coherent.settle_counted key fingerprint now maxAttempts available
    unflagged outcome
  have coherentNext := inserted.settle key fingerprint now maxAttempts holds
    (slice.state key fingerprint).attempt outcome
  have kept := Slice.settle_holds _ key fingerprint now maxAttempts
    (slice.state key fingerprint).attempt outcome holds
  have rows := coherentNext.counts_iff kept.matches apartNext separates
  simp only [← Slice.counter_of_holds _ fingerprint _ kept] at rows
  refine Slice.Linked.of_untouched coherent coherentNext available.matches kept.matches linked
    ((Slice.Untouched.insertIdentity slice now.created fingerprint).trans
      (.settle _ key fingerprint now maxAttempts _ outcome)) ?_ ?_ (fun _ _ _ => held)
  · intro row closed
    rw [closing] at closed
    split at closed
    · rename_i closes
      rw [← Option.some.inj closed]
      obtain ⟨counter, found, count⟩ := counted (by
        by_contra deferred
        have classified := (classify_deferred outcome).mpr (Bool.not_eq_false _ ▸ deferred)
        rw [closesGeneration, classified] at closes
        cases closes)
      exact ⟨counter, (rows counter).mpr found, count⟩
    · cases closed
  · intro counter counts flag
    have permanent := flags (by rw [Slice.flag, (rows counter).mp counts]; exact flag)
    have closes : closesGeneration maxAttempts (slice.state key fingerprint).attempt outcome =
        true := by
      rw [closesGeneration, permanent]
    rw [closing, if_pos closes]
    refine ⟨_, rfl, ?_⟩
    change settledKind outcome = .permanent
    rw [settledKind, if_pos permanent]

include coherent apart linked separates in
theorem Slice.Linked.attempt (outcome : Option GoError) (next : Slice F) (apartNext : next.Apart)
    (settled : slice.attempt key fingerprint now maxAttempts outcome = some next) :
    next.Linked := by
  rcases slice.attempt_cases key fingerprint now maxAttempts next outcome settled with
    ⟨rfl, _⟩ | ⟨available, _, counted, rfl⟩ | ⟨available, _, opened, rfl⟩
  · exact linked
  · exact linked.record coherent apart key fingerprint now separates available counted
  · exact linked.settle coherent apart key fingerprint now maxAttempts separates available opened
      outcome apartNext

end Attempts

section Removal

variable [LinearOrder F] {slice : Slice F} (coherent : slice.Coherent) (linked : slice.Linked)

omit [Sha256 F] in
theorem Slice.forget_rows (slice : Slice F) (generation : String) (attempt : F) :
    (slice.forget generation attempt).readCounter generation attempt = none ∧
      (slice.forget generation attempt).terminal attempt = none := by
  have rest : ((slice.deleteTerminal attempt).deleteAttempt generation attempt).readCounter
        generation attempt = none ∧
      ((slice.deleteTerminal attempt).deleteAttempt generation attempt).terminal attempt =
          none := by
    unfold Slice.readCounter Slice.deleteAttempt Slice.deleteTerminal
    by_cases legacy : generation = ""
    · simp [legacy]
    · simp [legacy]
  simp only [Slice.forget]
  split
  · exact rest
  · exact rest

omit [Sha256 F] [LinearOrder F] in
theorem Slice.deleteIncompleteIdentity_held (slice : Slice F) (row : IdentityRow F)
    (stored : slice.deleteIncompleteIdentity.identity = some row) : row.completedAt ≠ none := by
  intro incomplete
  have kept := (Option.filter_eq_some_iff.mp stored).2
  rw [incomplete] at kept
  cases kept

omit [Sha256 F] in
theorem Slice.forget_held (slice : Slice F) (generation : String) (attempt : F)
    (row : IdentityRow F) (stored : (slice.forget generation attempt).identity = some row)
    (incomplete : row.completedAt = none) : (slice.forget generation attempt).HasAttempts := by
  simp only [Slice.forget] at stored ⊢
  split at stored
  · rename_i held
    rw [if_pos held]
    exact held
  · exact absurd incomplete (Slice.deleteIncompleteIdentity_held _ row stored)

include coherent linked in
theorem Slice.Linked.forget (apart : slice.Apart) (generation : String) (fingerprint : F)
    (separates : Separates fingerprint generation "") (holds : slice.Holds fingerprint) :
    (slice.forget generation (attemptFingerprint generation fingerprint)).Linked := by
  have within := slice.forget_within generation (attemptFingerprint generation fingerprint)
  have coherentNext := coherent.forget generation fingerprint holds
  have later : (slice.forget generation (attemptFingerprint generation fingerprint)).Matches
      fingerprint := fun row kept => holds.matches row (within.identity row kept)
  obtain ⟨uncounted, unclosed⟩ := slice.forget_rows generation
    (attemptFingerprint generation fingerprint)
  refine Slice.Linked.of_untouched coherent coherentNext holds.matches later linked (.forget slice)
    (fun row closed => ?_) (fun counter counts => ?_) (slice.forget_held _ _)
  · rw [unclosed] at closed
    cases closed
  · rw [coherentNext.counts_iff later (within.apart apart) separates, uncounted] at counts
    cases counts

omit [Sha256 F] in
include linked in
theorem Slice.Linked.confirm (attempt : F) (now : Time) : (slice.confirm attempt now).Linked where
  counted other row closed := by
    simp only [Slice.confirm] at closed
    split at closed
    · rename_i own
      obtain ⟨old, found, rfl⟩ := Option.map_eq_some_iff.mp closed
      exact linked.counted other old (own ▸ found)
    · exact linked.counted other row closed
  flagged other counter counts flag := by
    obtain ⟨row, found, kind⟩ := linked.flagged other counter counts flag
    by_cases own : attempt = other
    · subst own
      refine ⟨{ row with
        handoffConfirmedAt := some (latestConfirmation now row.handoffConfirmedAt) }, ?_, kind⟩
      simp only [Slice.confirm, if_true, found, Option.map_some]
    · exact ⟨row, (if_neg own).trans found, kind⟩
  held := linked.held

omit [Sha256 F] in
theorem Slice.deleteCounters_counts (slice : Slice F) (attempt other : F) (row : CounterRow) :
    (slice.deleteCounters attempt).Counts other row ↔ attempt ≠ other ∧ slice.Counts other row := by
  unfold Slice.Counts Slice.deleteCounters
  by_cases own : attempt = other
  · subst own
    simp +contextual [Option.filter_eq_some_iff]
  · simp only [own, if_false, ne_eq, not_false_eq_true, true_and]
    refine or_congr_left (exists_congr fun counter => and_congr_left ?_)
    rintro ⟨rfl, _⟩
    simp [Option.filter_eq_some_iff, Ne.symm own]

omit [Sha256 F] in
include linked in
theorem Slice.Linked.retire (before : Time) (attempt : F) :
    (slice.retire before attempt).Linked := by
  by_cases ready : slice.Retirable before attempt
  · have counted : ∀ other row,
        ((slice.deleteTerminal attempt).deleteCounters attempt).terminal other =
        some row → ∃ counter, ((slice.deleteTerminal attempt).deleteCounters attempt).Counts other
          counter ∧ counter.attempts = row.attempts := by
      intro other row closed
      simp only [Slice.deleteCounters, Slice.deleteTerminal] at closed
      split at closed
      · cases closed
      · rename_i apart
        obtain ⟨counter, counts, same⟩ := linked.counted other row closed
        exact ⟨counter, (Slice.deleteCounters_counts _ attempt other counter).mpr ⟨apart, counts⟩,
          same⟩
    have flagged : ∀ other counter, ((slice.deleteTerminal attempt).deleteCounters attempt).Counts
        other counter → counter.terminal = true →
        ∃ row, ((slice.deleteTerminal attempt).deleteCounters attempt).terminal other = some row ∧
          row.failureKind = .permanent := by
      intro other counter counts flag
      obtain ⟨apart, before⟩ := (Slice.deleteCounters_counts _ attempt other counter).mp counts
      obtain ⟨row, found, kind⟩ := linked.flagged other counter before flag
      exact ⟨row, (if_neg apart).trans found, kind⟩
    rw [Slice.retire, if_pos ready, Slice.deleteEmptyIdentity]
    split
    · rename_i occupied
      refine ⟨counted, flagged, fun _ _ _ => ?_⟩
      rcases occupied with held | ⟨other, closed⟩
      · exact held
      · obtain ⟨row, found⟩ := Option.ne_none_iff_exists'.mp closed
        obtain ⟨counter, counts, _⟩ := counted other row found
        exact counts.hasAttempts
    · exact ⟨counted, flagged, fun row stored incomplete =>
        absurd incomplete (Slice.deleteIncompleteIdentity_held _ row stored)⟩
  · rw [Slice.retire, if_neg ready]
    exact linked

omit [Sha256 F] in
theorem Slice.Linked.retire_all (slice : Slice F) (linked : slice.Linked) (before : Time)
    (attempts : List F) :
    (attempts.foldl (fun current attempt => current.retire before attempt) slice).Linked := by
  induction attempts generalizing slice with
  | nil => exact linked
  | cons attempt rest ih => exact ih _ (linked.retire before attempt)

end Removal

section Runs

variable [LinearOrder F]

omit [LinearOrder F] in
theorem Slice.Unclaimed.free {slice : Slice F} (coherent : slice.Coherent) {fingerprint : F}
    (unclaimed : slice.Unclaimed fingerprint) : ¬ slice.HasAttempts := by
  rcases unclaimed with missing | ⟨_, _, _, _, free⟩
  · exact coherent.tracked missing
  · exact free

theorem Effect.linked {now : Readings} {id : Identity} {slice : Slice F} {op : Op F}
    {trace : Trace F} (effect : Effect now id slice op trace) (coherent : slice.Coherent)
    (apart : slice.Apart) (linked : slice.Linked) (separates : op.Separates "") :
    trace.slice.Linked := by
  have apartNext := effect.apart coherent apart separates
  cases effect with
  | idle | abandoned | dropped => exact linked
  | refused op item maxAttempts next member here limit positive denied settled =>
    exact linked.attempt coherent apart item.key item.fingerprint now maxAttempts
      (separates item member) none next apartNext settled
  | attempted op item maxAttempts outcome next member here limit positive admitted settled =>
    exact linked.attempt coherent apart item.key item.fingerprint now maxAttempts
      (separates item member) outcome next apartNext settled
  | processed key fingerprint outcome here unclaimed =>
    have free := unclaimed.free coherent
    have rows : ((slice.insertIdentity now.created fingerprint).markComplete
        now.completed).HasAttempts ↔ slice.HasAttempts := by
      unfold Slice.insertIdentity
      split <;> rfl
    refine ⟨fun attempt row closed => ?_, fun attempt counter counts => ?_,
      fun row stored open' => ?_⟩
    · change (slice.insertIdentity now.created fingerprint).terminal attempt = _ at closed
      rw [slice.insertIdentity_terminal] at closed
      have spent := coherent.closed attempt (by rw [closed]; exact Option.some_ne_none row)
      exact absurd spent.hasAttempts free
    · exact absurd (rows.mp counts.hasAttempts) free
    · obtain ⟨old, _, rfl⟩ := Option.map_eq_some_iff.mp stored
      cases open'
  | forgotten key fingerprint here row stored same incomplete =>
    exact linked.forget coherent apart key.attemptGeneration fingerprint
      (separates ⟨key, fingerprint⟩ (.head _)) ⟨row, stored, same⟩
  | confirmed key fingerprint here row stored same => exact linked.confirm _ _
  | pruned => exact linked_empty
  | retired before limit attempts => exact linked.retire_all slice before attempts

def Tables.Linked (tables : Tables F) : Prop := ∀ id, (tables.slice id).Linked

theorem run_linked (backend : Backend) (steps : List (Step F)) (tables : Tables F)
    (coherent : tables.Coherent) (apart : tables.Apart) (linked : tables.Linked)
    (separates : ∀ taken ∈ steps, taken.op.Separates "") : (run backend tables steps).Linked := by
  induction steps generalizing tables with
  | nil => exact linked
  | cons taken rest ih =>
    refine ih _ (step_coherent backend tables taken coherent)
      (step_apart backend tables taken coherent apart (separates taken (.head _)))
      (fun id => ?_) (fun later member => separates later (.tail _ member))
    exact (step_effect backend tables coherent.tracked taken id).linked (coherent id) (apart id)
      (linked id) (separates taken (.head _))

end Runs

section Relations

variable [LinearOrder F]

/-- The relations between the rows: counters and terminal rows have their
identity, terminal rows their counter, flagged counters their terminal row, and
incomplete identities a counter. -/
structure Tables.Related (tables : Tables F) : Prop where
  attempts : ∀ id counter, tables.attempts.find? id = some counter →
    ∃ stored, tables.inbox.find? id = some stored ∧ counter.fingerprint = stored.fingerprint
  attemptGenerations : ∀ id attempt, tables.attemptGenerations.find? (slot id attempt) ≠ none →
    tables.inbox.find? id ≠ none
  terminal : ∀ id attempt row, tables.terminal.find? (slot id attempt) = some row →
    tables.inbox.find? id ≠ none ∧ 1 ≤ row.attempts ∧
      ((∃ counter, tables.attempts.find? id = some counter ∧ counter.fingerprint = attempt ∧
          counter.attempts = row.attempts) ∨
        ∃ counter, tables.attemptGenerations.find? (slot id attempt) = some counter ∧
          counter.attempts = row.attempts)
  flaggedAttempts : ∀ id counter, tables.attempts.find? id = some counter →
    counter.terminal = true →
    ∃ row, tables.terminal.find? (slot id counter.fingerprint) = some row ∧
      row.failureKind = .permanent
  flaggedGenerations : ∀ id attempt counter,
    tables.attemptGenerations.find? (slot id attempt) = some counter → counter.terminal = true →
    ∃ row, tables.terminal.find? (slot id attempt) = some row ∧ row.failureKind = .permanent
  inbox : ∀ id stored, tables.inbox.find? id = some stored → stored.completedAt = none →
    tables.attempts.find? id ≠ none ∨ ∃ attempt,
      tables.attemptGenerations.find? (slot id attempt) ≠ none

section Slices

variable {tables : Tables F} (coherent : tables.Coherent) (id : Identity)

include coherent in
theorem Tables.Coherent.stored (held : (tables.slice id).HasAttempts) :
    ∃ stored, tables.inbox.find? id = some stored :=
  Option.ne_none_iff_exists'.mp (fun missing => (coherent id).tracked missing held)

theorem Tables.Coherent.related (coherent : tables.Coherent) (linked : tables.Linked) :
    tables.Related where
  attempts id counter found := by
    obtain ⟨stored, identity⟩ := coherent.stored id
      (.inl (by rw [show (tables.slice id).legacy = some counter from found]; exact nofun))
    exact ⟨stored, identity, (coherent id).stamped counter stored found identity⟩
  attemptGenerations id attempt present missing :=
    (coherent id).tracked missing (.inr ⟨attempt, present⟩)
  terminal id attempt row closed := by
    obtain ⟨counter, counts, same⟩ := (linked id).counted attempt row closed
    refine ⟨fun missing => (coherent id).tracked missing counts.hasAttempts, row.counted, ?_⟩
    rcases counts with ⟨legacy, found, print, rfl⟩ | found
    · exact .inl ⟨legacy, found, print, same⟩
    · exact .inr ⟨counter, found, same⟩
  flaggedAttempts id counter found flag :=
    (linked id).flagged counter.fingerprint counter.toCounterRow
      (.inl ⟨counter, found, rfl, rfl⟩) flag
  flaggedGenerations id attempt counter found flag :=
    (linked id).flagged attempt counter (.inr found) flag
  inbox id stored identity incomplete := (linked id).held stored identity incomplete

end Slices

/-- The rows of the four tables are related as `Tables.Related` says after every
run of the store on empty tables, unless an item of its calls shows a collision
of the digest. -/
theorem run_related (backend : Backend) (steps : List (Step F)) (clear : ¬ Collision "" steps) :
    (run backend (Tables.empty F) steps).Related := by
  have separates := fun taken member => (separates_of_no_collision clear taken member).1
  have empty : (Tables.empty F).Coherent := fun _ => coherent_empty
  have coherent := run_coherent backend steps (Tables.empty F) empty
  refine coherent.related (run_linked backend steps (Tables.empty F) empty (fun _ => apart_empty)
    (fun _ => linked_empty) separates)

/-- In every state that calls of the store reach from empty tables, the rows of
the four tables are related as `Tables.Related` says, unless the digest of a
generation the calls name is that of the empty one. -/
theorem reachable_related (backend : Backend) (steps : List (Step F)) :
    Collision "" steps ∨ (run backend (Tables.empty F) steps).Related :=
  or_iff_not_imp_left.mpr (run_related backend steps)

end Relations

/-- A permanent failure, and a replay that is deferred. -/
theorem reachable_related_closed :
    let failing : Op Preimage := .processAttempt sampleKey ⟨[1]⟩ 5 (some (.permanent (.text "bad")))
    let deferring : Op Preimage :=
      .processAttempt { sampleKey with attemptGeneration := "r1" } ⟨[1]⟩ 5
      (some (.deferAfter (.text "later") 10))
    let tables := run .sqlite (Tables.empty Preimage) [sampleStep failing, sampleStep deferring]
    tables.attempts.rows.length = 1 ∧ tables.attemptGenerations.rows.length = 1 ∧
      tables.terminal.rows.length = 1 ∧ tables.Related := by
  refine ⟨by decide, by decide, by decide, ?_⟩
  exact (reachable_related .sqlite _).resolve_left (by unfold Collision; decide)

end Integrity

end Gomessenger.Inbox
