import Gomessenger.Inbox.Admission

/-! Rows up to their timestamps: the clock readings of an attempt decide nothing
but the times it stores. -/

namespace Gomessenger.Inbox

section Untimed

variable {F : Type}

def IdentityRow.untimed (row : IdentityRow F) : IdentityRow F :=
  ⟨row.fingerprint, 0, row.completedAt.map (fun _ => 0)⟩

def CounterRow.untimed (row : CounterRow) : CounterRow := { row with updatedAt := 0 }

def TerminalRow.untimed (row : TerminalRow) : TerminalRow :=
  { row with terminalAt := 0, handoffConfirmedAt := row.handoffConfirmedAt.map (fun _ => 0) }

def Slice.untimed (slice : Slice F) : Slice F :=
  ⟨slice.identity.map IdentityRow.untimed, slice.legacy.map (AttemptRow.recount CounterRow.untimed),
    fun attempt => (slice.generations attempt).map CounterRow.untimed,
    fun attempt => (slice.terminal attempt).map TerminalRow.untimed⟩

def Readings.zero : Readings := ⟨0, 0, 0, 0, 0, 0, 0⟩

namespace Slice

variable (slice : Slice F) (generation : String) (attempt : F) (time : Time)

theorem insertIdentity_untimed (fingerprint : F) :
    (slice.insertIdentity time fingerprint).untimed =
      slice.untimed.insertIdentity 0 fingerprint := by
  unfold insertIdentity
  cases stored : slice.identity <;> simp [untimed, stored, IdentityRow.untimed]

theorem markComplete_untimed : (slice.markComplete time).untimed =
    slice.untimed.markComplete 0 := by
  unfold markComplete
  cases stored : slice.identity <;> simp [untimed, stored, IdentityRow.untimed]

theorem readCounter_untimed : slice.untimed.readCounter generation attempt =
      (slice.readCounter generation attempt).map CounterRow.untimed := by
  unfold readCounter
  split
  · simp [untimed, Function.comp_def, AttemptRow.recount]
  · rfl

variable [LinearOrder F]

theorem insertCounter_untimed (row : CounterRow) :
    (slice.insertCounter generation attempt row).untimed =
      slice.untimed.insertCounter generation attempt row.untimed := by
  unfold insertCounter
  split
  · rfl
  · simp only [untimed, mk.injEq, true_and, and_true]
    funext other
    by_cases same : attempt = other <;> simp [same]

theorem updateCounter_untimed (change forgetful : CounterRow → CounterRow)
    (commutes : ∀ row, (change row).untimed = forgetful row.untimed) :
    (slice.updateCounter generation attempt change).untimed =
      slice.untimed.updateCounter generation attempt forgetful := by
  unfold updateCounter
  split
  · cases stored : slice.legacy <;> simp [untimed, stored, AttemptRow.recount, commutes]
  · simp only [untimed, mk.injEq, true_and, and_true]
    funext other
    by_cases same : attempt = other
    · subst same
      cases slice.generations attempt <;> simp [commutes]
    · simp [same]

theorem upsertAttempt_untimed : (slice.upsertAttempt generation attempt time).untimed =
      slice.untimed.upsertAttempt generation attempt 0 := by
  unfold upsertAttempt
  rw [readCounter_untimed]
  cases slice.readCounter generation attempt with
  | none => exact slice.insertCounter_untimed generation attempt ⟨1, false, time⟩
  | some row => exact slice.updateCounter_untimed generation attempt _ _ (fun _ => rfl)

theorem insertDeferred_untimed : (slice.insertDeferred generation attempt time).untimed =
      slice.untimed.insertDeferred generation attempt 0 := by
  unfold insertDeferred
  rw [readCounter_untimed]
  cases slice.readCounter generation attempt with
  | none => exact slice.insertCounter_untimed generation attempt ⟨0, false, time⟩
  | some row => rfl

theorem markTerminal_untimed : (slice.markTerminal generation attempt time).untimed =
      slice.untimed.markTerminal generation attempt 0 :=
  slice.updateCounter_untimed generation attempt _ _ (fun _ => rfl)

theorem upsertTerminal_untimed (count : Nat) (counted : 0 < count) (kind : TerminalKind) :
    (slice.upsertTerminal attempt time count counted kind).untimed =
      slice.untimed.upsertTerminal attempt 0 count counted kind := by
  simp only [upsertTerminal, untimed, mk.injEq, true_and]
  funext other
  by_cases same : attempt = other
  · subst same
    cases slice.terminal attempt <;> simp [TerminalRow.untimed]
  · simp [same]

variable [Sha256 F] (key : Key) (fingerprint : F) (now : Readings) (maxAttempts : Nat)

theorem settle_untimed (count : Nat) (outcome : Option GoError) :
    (slice.settle key fingerprint now maxAttempts count outcome).untimed =
      slice.untimed.settle key fingerprint .zero maxAttempts count outcome := by
  unfold settle
  cases (classify outcome).1 with
  | deferred =>
    by_cases first : count = 0
    · simp only [first, if_true]
      exact slice.insertDeferred_untimed _ _ now.deferred
    · simp [first]
  | success => simp only [markComplete_untimed, upsertAttempt_untimed, Readings.zero]
  | permanent =>
    simp only [upsertTerminal_untimed, markTerminal_untimed, upsertAttempt_untimed, Readings.zero]
  | retryAfter | ordinary =>
    by_cases last : maxAttempts ≤ count + 1
    · simp [last, upsertTerminal_untimed, upsertAttempt_untimed, Readings.zero]
    · simp [last, upsertAttempt_untimed, Readings.zero]

/-- An attempt at other clock readings stores the same rows at other times. -/
theorem attempt_untimed (other : Readings) (outcome : Option GoError) :
    (slice.attempt key fingerprint now maxAttempts outcome).map untimed =
      (slice.attempt key fingerprint other maxAttempts outcome).map untimed := by
  unfold attempt
  cases slice.verdict key fingerprint maxAttempts with
  | conflict | duplicate => rfl
  | closed kind count =>
    by_cases counted : 0 < count
    · simp [counted, upsertTerminal_untimed, insertIdentity_untimed]
    · simp [counted]
  | admitted count => simp [settle_untimed, insertIdentity_untimed]

end Slice

end Untimed

end Gomessenger.Inbox
