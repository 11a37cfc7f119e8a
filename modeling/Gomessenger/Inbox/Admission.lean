import Gomessenger.Inbox.BatchBackends

/-! One attempt of one logical identity.

`Slice.verdict` is what an inbox transaction decides for an item from the rows
of its identity, and `Slice.attempt` is what it leaves there, given what the
handler returns. The single-message transactions are shown to be these. -/

namespace Gomessenger.Inbox

open LocalAction

section Admission

variable {F : Type}

theorem Slice.readAttempt_isSome (slice : Slice F) (generation : String) (attempt : F) :
    (slice.readAttempt generation attempt).isSome =
      (slice.readCounter generation attempt).isSome := by
  unfold Slice.readAttempt Slice.readCounter
  split <;> simp

theorem Slice.readAttempt_count (slice : Slice F) (generation : String) (attempt : F) :
    (slice.readAttempt generation attempt).map AttemptState.attempt =
      (slice.readCounter generation attempt).map CounterRow.attempts := by
  unfold Slice.readAttempt Slice.readCounter
  split <;> simp [Function.comp_def]

variable [LinearOrder F] [Sha256 F]

inductive Verdict
  | conflict
  | duplicate (count : Nat)
  | closed (kind : TerminalKind) (count : Nat)
  | admitted (count : Nat)
  deriving DecidableEq, Repr

def AttemptState.closedKind (state : AttemptState) : TerminalKind :=
  if state.closedPermanent then .permanent else .attemptsExhausted

def TerminalKind.closedError : TerminalKind → GoError
  | .permanent => .permanent (.sentinel .attemptTerminal)
  | .attemptsExhausted => .sentinel .attemptsExhausted

namespace Slice

variable (slice : Slice F) (key : Key) (fingerprint : F)

def state : AttemptState :=
  (slice.readAttempt key.attemptGeneration
    (attemptFingerprint key.attemptGeneration fingerprint)).getD noAttempt

def pending (maxAttempts : Nat) : Verdict :=
  if (slice.state key fingerprint).closed maxAttempts then
    .closed (slice.state key fingerprint).closedKind (slice.state key fingerprint).attempt
  else .admitted (slice.state key fingerprint).attempt

def verdict (maxAttempts : Nat) : Verdict :=
  match slice.identity with
  | none => slice.pending key fingerprint maxAttempts
  | some row =>
    if row.fingerprint ≠ fingerprint then .conflict
    else if row.completedAt ≠ none then .duplicate (slice.state key fingerprint).attempt
    else slice.pending key fingerprint maxAttempts

/-- The rows after the handler returned `outcome` on the attempt after `count`. -/
def settle (now : Readings) (maxAttempts count : Nat) (outcome : Option GoError) : Slice F :=
  let generation := key.attemptGeneration
  let attempt := attemptFingerprint generation fingerprint
  let consumed := slice.upsertAttempt generation attempt now.attempted
  match (classify outcome).1 with
  | .deferred => if count = 0 then slice.insertDeferred generation attempt now.deferred else slice
  | .success => consumed.markComplete now.completed
  | .permanent =>
    (consumed.markTerminal generation attempt now.marked).upsertTerminal attempt now.recorded
      (count + 1) (Nat.succ_pos count) .permanent
  | .retryAfter | .ordinary =>
    if maxAttempts ≤ count + 1 then
      consumed.upsertTerminal attempt now.recorded (count + 1)
        (Nat.succ_pos count) .attemptsExhausted
    else consumed

/-- The rows after one attempt; `none` is a failed check constraint. -/
def attempt (now : Readings) (maxAttempts : Nat) (outcome : Option GoError) : Option (Slice F) :=
  match slice.verdict key fingerprint maxAttempts with
  | .conflict => some slice
  | .duplicate _ => some slice
  | .closed kind count =>
    if counted : 0 < count then
      some ((slice.insertIdentity now.created fingerprint).upsertTerminal
        (attemptFingerprint key.attemptGeneration fingerprint) now.recorded count counted kind)
    else none
  | .admitted count =>
    some ((slice.insertIdentity now.created fingerprint).settle key fingerprint now
      maxAttempts count outcome)

end Slice

def settleTables (now : Readings) (key : Key) (fingerprint : F) (maxAttempts count : Nat)
    (outcome : Option GoError) (tables : Tables F) : Tables F :=
  let id := key.identity
  let generation := key.attemptGeneration
  let attempt := attemptFingerprint generation fingerprint
  let consumed := tables.upsertAttempt id generation attempt now.attempted
  match (classify outcome).1 with
  | .deferred =>
    if count = 0 then tables.insertDeferred id generation attempt now.deferred else tables
  | .success => consumed.markComplete id now.completed
  | .permanent =>
    (consumed.markTerminal id generation attempt now.marked).upsertTerminal id attempt
      now.recorded (count + 1) (Nat.succ_pos count) .permanent
  | .retryAfter | .ordinary =>
    if maxAttempts ≤ count + 1 then
      consumed.upsertTerminal id attempt now.recorded (count + 1)
        (Nat.succ_pos count) .attemptsExhausted
    else consumed

theorem settleTables_acts (now : Readings) (key : Key) (fingerprint : F) (maxAttempts count : Nat)
    (outcome : Option GoError) :
    ActsAt Tables.slice key.identity (settleTables now key fingerprint maxAttempts count outcome)
      (fun slice => slice.settle key fingerprint now maxAttempts count outcome) := by
  have consumed := upsertAttempt_acts key.identity key.attemptGeneration
    (attemptFingerprint key.attemptGeneration fingerprint) now.attempted
  have recorded := upsertTerminal_acts key.identity
    (attemptFingerprint key.attemptGeneration fingerprint) now.recorded (count + 1)
    (Nat.succ_pos count)
  unfold settleTables Slice.settle
  cases kind : (classify outcome).1 with
  | deferred =>
    by_cases first : count = 0
    · simp only [first, if_true]
      exact insertDeferred_acts key.identity key.attemptGeneration _ now.deferred
    · intro tables other
      simp [first]
  | success => exact consumed.comp (markComplete_acts key.identity now.completed)
  | permanent =>
    have marked := updateCounter_acts key.identity key.attemptGeneration
      (attemptFingerprint key.attemptGeneration fingerprint)
      (fun row => { row with terminal := true, updatedAt := now.marked })
    exact (consumed.comp marked).comp (recorded .permanent)
  | retryAfter | ordinary =>
    by_cases last : maxAttempts ≤ count + 1
    · simp only [last, if_true]
      exact consumed.comp (recorded .attemptsExhausted)
    · simp only [last, if_false]
      exact consumed

def attemptAfter (count : Nat) (outcome : Option GoError) : Nat :=
  if isDeferral outcome then count else count + 1

def closesGeneration (maxAttempts count : Nat) (outcome : Option GoError) : Bool :=
  match (classify outcome).1 with
  | .permanent => true
  | .retryAfter | .ordinary => maxAttempts ≤ count + 1
  | .deferred | .success => false

def attemptCall (now : Readings) (tables : Tables F) (key : Key) (fingerprint : F)
    (maxAttempts : Nat) (outcome : Option GoError) : Call F Result :=
  let item : BatchItem F := ⟨key, fingerprint⟩
  let inserted := tables.insertIdentity key.identity now.created fingerprint
  match (tables.slice key.identity).verdict key fingerprint maxAttempts with
  | .conflict => .rollback tables [] ⟨false, 0⟩ (.sentinel .fingerprintConflict)
  | .duplicate count => ⟨tables, [], [], [], ⟨true, count⟩, none⟩
  -- The terminal row is written again, and its check refuses a count of zero.
  | .closed kind count =>
    if counted : 0 < count then
      ⟨inserted.upsertTerminal key.identity
          (attemptFingerprint key.attemptGeneration fingerprint) now.recorded count counted kind,
        [], [], [keySlot key fingerprint], ⟨false, count⟩, some kind.closedError⟩
    else .rollback tables [] ⟨false, 0⟩ checkViolation
  | .admitted count =>
    ⟨settleTables now key fingerprint maxAttempts count outcome inserted, [item], [(item, outcome)],
      if closesGeneration maxAttempts count outcome then [keySlot key fingerprint] else [],
      ⟨false, attemptAfter count outcome⟩, outcome⟩

omit [LinearOrder F] in
@[simp] theorem Slice.insertIdentity_state (slice : Slice F) (key : Key) (fingerprint : F)
    (time : Time) (stored : F) :
    (slice.insertIdentity time stored).state key fingerprint = slice.state key fingerprint := by
  unfold Slice.insertIdentity
  split <;> rfl

omit [LinearOrder F] in
theorem Slice.pending_cases (slice : Slice F) (key : Key) (fingerprint : F) (maxAttempts : Nat) :
    (∃ kind count, slice.pending key fingerprint maxAttempts = .closed kind count) ∨
      ∃ count, slice.pending key fingerprint maxAttempts = .admitted count := by
  unfold Slice.pending
  split
  · exact .inl ⟨_, _, rfl⟩
  · exact .inr ⟨_, rfl⟩

section SinglePath

variable (now : Readings) (tables : Tables F) (key : Key) (fingerprint : F) (maxAttempts : Nat)

theorem nextAttempt_eq (positive : 0 < maxAttempts) :
    nextAttempt tables key fingerprint maxAttempts =
      let state := (tables.slice key.identity).state key fingerprint
      if state.closed maxAttempts then
        ⟨state.attempt, state.closedPermanent, !state.closedPermanent, true⟩
      else
        ⟨state.attempt + 1, false, false, (readAttempt tables key fingerprint).isSome⟩ := by
  have state_eq : (tables.slice key.identity).state key fingerprint =
      (readAttempt tables key fingerprint).getD noAttempt := rfl
  simp only [state_eq, nextAttempt]
  cases found : readAttempt tables key fingerprint with
  | none =>
    have unlimited : ¬ maxAttempts ≤ 0 := by omega
    simp [noAttempt, AttemptState.closed, unlimited]
  | some state =>
    obtain ⟨count, flagged, kind⟩ := state
    cases flagged <;> rcases kind with _ | _ | _ <;> by_cases used : maxAttempts ≤ count <;>
      simp [AttemptState.closed, AttemptState.closedPermanent, used]

variable (backend : String) (outcome : Option GoError) (begun : Tables F) (count : Nat)

theorem consumeAttempt_eq (decision : AttemptDecision) (time : Time)
    (known : decision.present = (readAttempt tables key fingerprint).isSome) :
    consumeAttempt backend tables key fingerprint decision time =
      .ok (tables.upsertAttempt key.identity key.attemptGeneration
        (attemptFingerprint key.attemptGeneration fingerprint) time) := by
  have counter := (tables.slice key.identity).readAttempt_isSome key.attemptGeneration
    (attemptFingerprint key.attemptGeneration fingerprint)
  rw [← readCounter_slice, ← readAttempt_slice] at counter
  rw [readAttempt, counter] at known
  simp only [consumeAttempt, known, Tables.insertAttempt, Tables.upsertAttempt]
  cases tables.readCounter key.identity key.attemptGeneration
    (attemptFingerprint key.attemptGeneration fingerprint) <;> simp

theorem recordTerminal_eq (permanent : Bool) (time : Time) :
    recordTerminal tables key fingerprint count permanent time =
      if counted : 0 < count then
        .ok (tables.upsertTerminal key.identity
          (attemptFingerprint key.attemptGeneration fingerprint) time count counted
          (if permanent then .permanent else .attemptsExhausted))
      else .error checkViolation := by
  rw [recordTerminal, record_eq]
  by_cases counted : 0 < count <;> cases permanent <;>
    simp [terminalItems, terminalKind?, recordItem, counted]

theorem preserveDeferred_single (delay : Duration) (err : Option GoError) (time : Time) :
    preserveDeferred tables [⟨key, fingerprint, .defer, count, false, delay, none, err⟩] time =
      if count = 0 then tables.insertDeferred key.identity key.attemptGeneration
        (attemptFingerprint key.attemptGeneration fingerprint) time
      else tables := by
  rw [preserveDeferred_eq]
  by_cases first : count = 0 <;> by_cases replay : key.attemptGeneration = "" <;>
    simp [firstDeferrals, isFirstDeferral, preserveDeferredItem, first, replay]

theorem finishFailedAttempt_eq (handlerErr : GoError) :
    finishFailedAttempt backend now begun tables key fingerprint
        ⟨count + 1, false, false, (readAttempt tables key fingerprint).isSome⟩
          maxAttempts handlerErr =
      ⟨settleTables now key fingerprint maxAttempts count (some handlerErr) tables,
        [⟨key, fingerprint⟩], [(⟨key, fingerprint⟩, some handlerErr)],
        if closesGeneration maxAttempts count (some handlerErr) then [keySlot key fingerprint]
        else [],
        ⟨false, attemptAfter count (some handlerErr)⟩, some handlerErr⟩ := by
  have consumed := consumeAttempt_eq tables key fingerprint backend
    ⟨count + 1, false, false, (readAttempt tables key fingerprint).isSome⟩ now.attempted rfl
  have positive : 0 < count + 1 := Nat.succ_pos count
  unfold finishFailedAttempt settleTables closesGeneration attemptAfter
  simp only [consumed, preserveDeferred_single, recordTerminal_eq, positive, dif_pos]
  cases permanent : handlerErr.isPermanent with
  | true => simp [classify, isDeferral, markAttemptTerminal, permanent]
  | false =>
    cases deferred : handlerErr.deferDelay with
    | some delay => simp [classify, isDeferral, permanent, deferred]
    | none =>
      cases retry : handlerErr.retryDelay <;> by_cases last : maxAttempts ≤ count + 1 <;>
        simp [classify, isDeferral, markAttemptTerminal, permanent, deferred, retry, last]

theorem runAttempt_eq (outcome : Option GoError) (positive : 0 < maxAttempts) :
    runAttempt backend now begun tables key fingerprint
        (nextAttempt tables key fingerprint maxAttempts) maxAttempts outcome =
      match (tables.slice key.identity).pending key fingerprint maxAttempts with
      | .closed kind count =>
        if counted : 0 < count then
          ⟨tables.upsertTerminal key.identity
              (attemptFingerprint key.attemptGeneration fingerprint) now.recorded count counted
              kind,
            [], [], [keySlot key fingerprint], ⟨false, count⟩, some kind.closedError⟩
        else .rollback begun [] ⟨false, 0⟩ checkViolation
      | .admitted count =>
        ⟨settleTables now key fingerprint maxAttempts count outcome tables, [⟨key, fingerprint⟩],
          [(⟨key, fingerprint⟩, outcome)],
          if closesGeneration maxAttempts count outcome then [keySlot key fingerprint] else [],
          ⟨false, attemptAfter count outcome⟩, outcome⟩
      | _ => .rollback begun [] ⟨false, 0⟩ checkViolation := by
  simp only [nextAttempt_eq tables key fingerprint maxAttempts positive, Slice.pending]
  generalize state_eq : (tables.slice key.identity).state key fingerprint = state
  cases closed : state.closed maxAttempts with
  | true =>
    cases permanent : state.closedPermanent <;> by_cases counted : 0 < state.attempt <;>
      simp [runAttempt, AttemptState.closedKind, recordTerminal_eq, permanent, counted,
        TerminalKind.closedError]
  | false =>
    simp only [runAttempt, Bool.false_eq_true, if_false, Bool.or_self]
    cases outcome with
    | some handlerErr => exact finishFailedAttempt_eq ..
    | none =>
      have consumed := consumeAttempt_eq tables key fingerprint backend
        ⟨state.attempt + 1, false, false, (readAttempt tables key fingerprint).isSome⟩
        now.attempted rfl
      simp [consumed, settleTables, closesGeneration, attemptAfter, isDeferral]

omit [Sha256 F] in
theorem insertIdentity_present (id : Identity) (time : Time) (stored : F) (row : IdentityRow F)
    (found : tables.inbox.find? id = some row) : tables.insertIdentity id time stored = tables := by
  simp [Tables.insertIdentity, found]

theorem pending_inserted (time : Time) :
    ((tables.insertIdentity key.identity time fingerprint).slice key.identity).pending key
      fingerprint maxAttempts = (tables.slice key.identity).pending key
        fingerprint maxAttempts := by
  have inserted := (insertIdentity_acts key.identity time fingerprint).here tables
  simp only [inserted, Slice.pending, Slice.insertIdentity_state]

/-- SQLite's transaction is the attempt its verdict describes. -/
theorem sqlite_processAttempt_eq (positive : 0 < maxAttempts) :
    Sqlite.processAttempt now tables key fingerprint maxAttempts outcome =
      attemptCall now tables key fingerprint maxAttempts outcome := by
  have identity : (tables.slice key.identity).identity = tables.inbox.find? key.identity := rfl
  unfold Sqlite.processAttempt Sqlite.prepareAttemptIdentity attemptCall Slice.verdict
  rw [identity]
  cases found : tables.inbox.find? key.identity with
  | none =>
    simp only [runAttempt_eq now _ key fingerprint maxAttempts _ tables outcome positive,
      pending_inserted]
    rcases (tables.slice key.identity).pending_cases key fingerprint maxAttempts with
      ⟨kind, count, closed⟩ | ⟨count, admitted⟩
    · rw [closed]
    · rw [admitted]
  | some row =>
    simp only [lockAttemptIdentity, insertIdentity_present tables _ _ _ row found]
    by_cases conflict : row.fingerprint ≠ fingerprint
    · rw [if_pos conflict, if_pos conflict]
    · rw [if_neg conflict, if_neg conflict]
      cases completed : row.completedAt with
      | some time =>
        have count : ((readAttempt tables key fingerprint).map AttemptState.attempt).getD 0 =
            ((tables.slice key.identity).state key fingerprint).attempt := by
          change _ = ((readAttempt tables key fingerprint).getD noAttempt).attempt
          cases readAttempt tables key fingerprint <;> rfl
        simp [count]
      | none =>
        simp only [runAttempt_eq now _ key fingerprint maxAttempts _ tables outcome positive,
          ne_eq, not_true_eq_false, if_false]
        rcases (tables.slice key.identity).pending_cases key fingerprint maxAttempts with
          ⟨kind, count, closed⟩ | ⟨count, admitted⟩
        · rw [closed]
        · rw [admitted]

/-- PostgreSQL's shortcut is the same attempt unless a counter outlived its identity. -/
theorem pgsql_processAttempt_eq (positive : 0 < maxAttempts)
    (counted : tables.inbox.find? key.identity = none → readAttempt tables key fingerprint = none) :
    Pgsql.processAttempt now tables key fingerprint maxAttempts outcome =
      attemptCall now tables key fingerprint maxAttempts outcome := by
  rw [← sqlite_processAttempt_eq now tables key fingerprint maxAttempts outcome positive]
  have renamed : ∀ prepared : Tables F, runAttempt "inbox/pgsql" now tables prepared key fingerprint
          (nextAttempt prepared key fingerprint maxAttempts) maxAttempts outcome =
        runAttempt "inbox/sqlite" now tables prepared key fingerprint
          (nextAttempt prepared key fingerprint maxAttempts) maxAttempts outcome := by
    intro prepared
    rw [runAttempt_eq now prepared key fingerprint maxAttempts _ tables outcome positive,
      runAttempt_eq now prepared key fingerprint maxAttempts _ tables outcome positive]
  unfold Pgsql.processAttempt Sqlite.processAttempt Pgsql.prepareAttemptIdentity
    Sqlite.prepareAttemptIdentity
  cases found : tables.inbox.find? key.identity with
  | none =>
    have fresh : nextAttempt (tables.insertIdentity key.identity now.created fingerprint) key
        fingerprint maxAttempts = ⟨1, false, false, false⟩ := by
      have unread : readAttempt (tables.insertIdentity key.identity now.created fingerprint) key
          fingerprint = readAttempt tables key fingerprint := by
        simp only [Tables.insertIdentity, found]
        rfl
      simp only [nextAttempt, unread, counted found]
    simp [← fresh, renamed]
  | some row =>
    simp only [lockAttemptIdentity]
    by_cases conflict : row.fingerprint ≠ fingerprint
    · rw [if_pos conflict]
    · rw [if_neg conflict]
      cases row.completedAt with
      | none => exact renamed tables
      | some time => rfl

end SinglePath

end Admission

end Gomessenger.Inbox
