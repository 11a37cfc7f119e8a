import Gomessenger.Inbox.BatchFold
import Gomessenger.Inbox.Integrity
import Gomessenger.Lib.Utf8

/-! The outcome decision of the single-message consumers.

After the inbox call, `processMessage` of the NATS consumer and
`processPreparedRecord` of the Kafka consumer decide from the returned attempt
number and error alone whether to acknowledge, to dead-letter or to retry. -/

namespace Gomessenger.Consumer

open Inbox

/-- What both consumers read of a message's metadata. -/
structure Metadata where
  id : MessageID
  source : String
  notBefore : Option Time
  expiresAt : Option Time
  deriving DecidableEq, Repr

structure DecodedMessage where
  metadata : Metadata
  canonical : Bytes
  deriving DecidableEq, Repr

/-- `!t.IsZero() && !t.After(now)`. -/
def reached (time : Option Time) (now : Time) : Bool := time.any (fun time => decide (time ≤ now))

/-- What a consumer does with a delivery after its inbox call; `leave` is the
return without a handoff once the run context is done. -/
inductive Decision
  | acknowledge
  | leave
  | deadLetter (kind : FailureKind) (attempt : Nat)
  | retry (delay : Duration)
  deriving DecidableEq, Repr

def Decision.kind? : Decision → Option FailureKind
  | .deadLetter kind _ => some kind
  | _ => none

/-- The terminal branch both consumers share, and its failure kind. -/
def failureKind? (maxAttempts attempt : Nat) (processErr : GoError) : Option FailureKind :=
  let exhausted := maxAttempts ≤ attempt || processErr.is .attemptsExhausted
  let identityConflict := processErr.is .fingerprintConflict
  if identityConflict || processErr.isPermanent || exhausted then
    some (if identityConflict then .identityConflict
      else if exhausted && !processErr.isPermanent then .attemptsExhausted
      else .permanent)
  else none

def doubleDelay (maximum : Duration) : Nat → Duration → Duration
  | 0, delay => delay
  | steps + 1, delay =>
    if delay < maximum then
      if delay > maximum / 2 then maximum else doubleDelay maximum steps (delay * 2)
    else delay

def cappedDelay (base maximum : Duration) (attempt : Nat) : Duration :=
  min (doubleDelay maximum (attempt - 1) base) maximum

/-- The settings of a consumer that its decision reads. `random` is
`rand.Int(rand.Reader, bound)`. -/
structure Settings where
  maxAttempts : Nat
  baseRetry : Duration
  maxRetry : Duration
  random : Duration → Option Duration
  positive : 0 < maxAttempts

/-- The branches after the inbox call, for a delivery with the given record
attempt and backoff. -/
def decideOutcome (settings : Settings) (recordAttempt : Nat → Nat) (retryDelay : Nat → Duration)
    (live : Bool) (result : Result) (processErr : Option GoError) : Decision :=
  match processErr with
  | none => .acknowledge
  | some err =>
    if !live then .leave
    else match failureKind? settings.maxAttempts result.attempt err with
      | some kind => .deadLetter kind (recordAttempt result.attempt)
      | none => .retry ((err.deferDelay <|> err.retryDelay).getD (retryDelay result.attempt))

namespace Nats

def terminalRecordAttempt (handlerAttempt deliveryCount : Nat) : Nat :=
  if 0 < handlerAttempt then handlerAttempt else max 1 deliveryCount

def retryDelay (settings : Settings) (attempt : Nat) : Duration :=
  let delay := cappedDelay settings.baseRetry settings.maxRetry attempt
  if delay ≤ 1 then delay else (settings.random (delay + 1)).getD delay

def processOutcome (settings : Settings) (numDelivered : Nat) (live : Bool) (result : Result)
    (processErr : Option GoError) : Decision :=
  decideOutcome settings (fun attempt => terminalRecordAttempt attempt numDelivered)
    (retryDelay settings)
    live result processErr

end Nats

namespace Kafka

def retryDelay (settings : Settings) (attempt : Nat) : Duration :=
  let delay := cappedDelay settings.baseRetry settings.maxRetry attempt
  if delay ≤ 1 then delay
  else match settings.random delay with
    | none => delay
    | some value => value + 1

def processOutcome (settings : Settings) (live : Bool) (result : Result)
    (processErr : Option GoError) : Decision :=
  decideOutcome settings (fun attempt => max 1 attempt) (retryDelay settings) live result processErr

end Kafka

theorem decideOutcome_kind (settings : Settings) (recordAttempt : Nat → Nat)
    (retryDelay : Nat → Duration) (result : Result) (processErr : Option GoError) :
    (decideOutcome settings recordAttempt retryDelay true result processErr).kind? =
      processErr.bind (failureKind? settings.maxAttempts result.attempt) := by
  cases processErr with
  | none => rfl
  | some err =>
    simp only [decideOutcome, Bool.not_true, Bool.false_eq_true, if_false, Option.bind_some]
    cases failureKind? settings.maxAttempts result.attempt err <;> rfl

section Agreement

variable {F : Type} [LinearOrder F] [Sha256 F]

/-- The committed transaction wrote the terminal row of the generation, and the
row is of the kind. -/
def LeftTerminal (call : Call F Result) (key : Key) (fingerprint : F)
    (kind : TerminalKind) : Prop :=
  keySlot key fingerprint ∈ call.recorded ∧
    ∃ row, call.tables.terminal.find? (keySlot key fingerprint) = some row ∧ row.failureKind = kind

/-- A consumer's decision says what the inbox transaction did. -/
structure Agrees (kind : Option FailureKind) (tables : Tables F) (call : Call F Result) (key : Key)
    (fingerprint : F) : Prop where
  permanent : kind = some .permanent ↔ LeftTerminal call key fingerprint .permanent
  exhausted : kind = some .attemptsExhausted ↔ LeftTerminal call key fingerprint .attemptsExhausted
  conflict : kind = some .identityConflict ↔
    ∃ row, tables.inbox.find? key.identity = some row ∧ row.fingerprint ≠ fingerprint

/-- The rows let the handler run: the identity is absent, or incomplete with the
message's fingerprint, and its generation is open with `count` attempts consumed. -/
def OpenAt (tables : Tables F) (key : Key) (fingerprint : F) (maxAttempts count : Nat) : Prop :=
  (tables.slice key.identity).Available fingerprint ∧
    ((tables.slice key.identity).state key fingerprint).closed maxAttempts = false ∧
    ((tables.slice key.identity).state key fingerprint).attempt = count

/-- A handler error after `count` consumed attempts that the consumers read as
the inbox does. -/
def ReadsAlike (maxAttempts count : Nat) (err : GoError) : Prop :=
  err.is .fingerprintConflict = false ∧ (err.isPermanent = true ∨
    err.is .attemptsExhausted = false ∨
      isDeferral (some err) = false ∧ maxAttempts ≤ count + 1)

def writtenKind (maxAttempts : Nat) (outcome : Option GoError) : Verdict → Option TerminalKind
  | .conflict => none
  | .duplicate _ => none
  | .closed kind _ => some kind
  | .admitted count =>
    if closesGeneration maxAttempts count outcome then some (settledKind outcome) else none

section Call

variable (tables : Tables F) (coherent : tables.Coherent) (apart : tables.Apart)
variable (linked : tables.Linked) (now : Readings) (key : Key) (fingerprint : F)
variable (separates : Separates fingerprint key.attemptGeneration "")
variable (maxAttempts : Nat) (positive : 0 < maxAttempts) (outcome : Option GoError)

include coherent apart linked separates positive in
theorem leftTerminal_iff (kind : TerminalKind) :
    LeftTerminal (attemptCall now tables key fingerprint maxAttempts outcome) key fingerprint kind ↔
      writtenKind maxAttempts outcome
        ((tables.slice key.identity).verdict key fingerprint maxAttempts) = some kind := by
  have here := coherent key.identity
  have inserted := insertIdentity_acts key.identity now.created fingerprint
  have unrecorded : ∀ call : Call F Result, call.recorded = [] →
      ¬ LeftTerminal call key fingerprint kind := by
    intro call none left
    rw [LeftTerminal, none] at left
    exact absurd left.1 List.not_mem_nil
  rcases (tables.slice key.identity).verdict_cases key fingerprint maxAttempts with
    ⟨verdict, _⟩ | ⟨verdict, _⟩ | ⟨available, verdict⟩
  · simp only [attemptCall, verdict, writtenKind, reduceCtorEq, iff_false]
    exact unrecorded _ rfl
  · simp only [attemptCall, verdict, writtenKind, reduceCtorEq, iff_false]
    exact unrecorded _ rfl
  · rw [Slice.pending] at verdict
    -- A closed generation is recorded again under its kind; an open one only when it closes.
    cases closed : ((tables.slice key.identity).state key fingerprint).closed maxAttempts with
    | true =>
      rw [if_pos closed] at verdict
      have counted := here.closed_counted (apart key.identity) key fingerprint separates maxAttempts
        positive available closed
      obtain ⟨row, found, same⟩ := (linked key.identity).record_kind here (apart key.identity) key
        fingerprint now separates available counted
      have rows := (inserted.comp (upsertTerminal_acts key.identity
        (attemptFingerprint key.attemptGeneration fingerprint) now.recorded _ counted
        ((tables.slice key.identity).state key fingerprint).closedKind)).here tables
      rw [← rows] at found
      simp only [attemptCall, verdict, counted, dif_pos, writtenKind, Option.some.injEq]
      constructor
      · rintro ⟨_, other, stored, equal⟩
        rw [← same, ← equal, Option.some.inj (found.symm.trans stored)]
      · intro equal
        exact ⟨List.mem_singleton.mpr rfl, row, found, same.trans equal⟩
    | false =>
      rw [if_neg (by rw [closed]; exact Bool.false_ne_true)] at verdict
      have rows := (inserted.comp (settleTables_acts now key fingerprint maxAttempts
        ((tables.slice key.identity).state key fingerprint).attempt outcome)).here tables
      have unclosed := here.admitted_open (apart key.identity) key fingerprint separates maxAttempts
        available closed
      simp only [attemptCall, verdict, writtenKind]
      cases closes : closesGeneration maxAttempts
          ((tables.slice key.identity).state key fingerprint).attempt outcome with
      | false =>
        simp only [Bool.false_eq_true, if_false, reduceCtorEq, iff_false]
        exact unrecorded _ rfl
      | true =>
        have found := Slice.settle_terminal ((tables.slice key.identity).insertIdentity now.created
          fingerprint) key fingerprint now maxAttempts
          ((tables.slice key.identity).state key fingerprint).attempt outcome
        dsimp only at found
        rw [if_pos closes, Slice.insertIdentity_terminal, unclosed, ← rows] at found
        simp only [if_true, Option.some.injEq]
        constructor
        · rintro ⟨_, other, stored, equal⟩
          rw [← equal, ← Option.some.inj (found.symm.trans stored)]
          rfl
        · intro equal
          exact ⟨List.mem_singleton.mpr rfl, _, found, equal⟩

theorem verdict_conflict_iff (slice : Slice F) :
    slice.verdict key fingerprint maxAttempts = .conflict ↔
      ∃ row, slice.identity = some row ∧ row.fingerprint ≠ fingerprint := by
  have pending : slice.pending key fingerprint maxAttempts ≠ .conflict := by
    unfold Slice.pending
    split <;> exact fun equal => by cases equal
  unfold Slice.verdict
  cases stored : slice.identity with
  | none => simp [pending]
  | some row =>
    by_cases conflict : row.fingerprint ≠ fingerprint
    · simp [conflict]
    · by_cases completed : row.completedAt ≠ none
      · simp [not_not.mp conflict, completed]
      · simp [not_not.mp conflict, not_not.mp completed, pending]

theorem admitted_kind_iff (count : Nat) (opened : count < maxAttempts) (err : GoError) :
    ((failureKind? maxAttempts (attemptAfter count (some err)) err = some .permanent ↔
        writtenKind maxAttempts (some err) (.admitted count) = some .permanent) ∧
      (failureKind? maxAttempts (attemptAfter count (some err)) err = some .attemptsExhausted ↔
        writtenKind maxAttempts (some err) (.admitted count) = some .attemptsExhausted) ∧
      failureKind? maxAttempts (attemptAfter count (some err)) err ≠ some .identityConflict) ↔
    ReadsAlike maxAttempts count err := by
  have below : ¬ maxAttempts ≤ count := Nat.not_le.mpr opened
  unfold ReadsAlike
  cases conflict : err.is .fingerprintConflict <;> cases permanent : err.isPermanent <;>
    cases exhausted : err.is .attemptsExhausted <;> cases delay : err.deferDelay <;>
    cases retry : err.retryDelay <;> by_cases last : maxAttempts ≤ count + 1 <;>
    simp [failureKind?, writtenKind, closesGeneration, settledKind, classify, attemptAfter,
      isDeferral, conflict, permanent, exhausted, delay, retry, last, below]

include coherent apart linked separates positive in
theorem agrees_iff :
    let call := attemptCall now tables key fingerprint maxAttempts outcome
    Agrees (call.err.bind (failureKind? maxAttempts call.reply.attempt))
      tables call key fingerprint ↔
      ∀ err count, outcome = some err → OpenAt tables key fingerprint maxAttempts count →
        ReadsAlike maxAttempts count err := by
  intro call
  have left := leftTerminal_iff tables coherent apart linked now key fingerprint separates
    maxAttempts positive outcome
  have differs := verdict_conflict_iff key fingerprint maxAttempts (tables.slice key.identity)
  have split : Agrees (call.err.bind (failureKind? maxAttempts call.reply.attempt))
    tables call key fingerprint ↔
      (call.err.bind (failureKind? maxAttempts call.reply.attempt) = some .permanent ↔
        writtenKind maxAttempts outcome
          ((tables.slice key.identity).verdict key fingerprint maxAttempts) = some .permanent) ∧
      (call.err.bind (failureKind? maxAttempts call.reply.attempt) = some .attemptsExhausted ↔
        writtenKind maxAttempts outcome ((tables.slice key.identity).verdict key
          fingerprint maxAttempts) =
            some .attemptsExhausted) ∧
      (call.err.bind (failureKind? maxAttempts call.reply.attempt) = some .identityConflict ↔
        (tables.slice key.identity).verdict key fingerprint maxAttempts = .conflict) := by
    rw [← left, ← left, differs]
    exact ⟨fun agrees => ⟨agrees.permanent, agrees.exhausted, agrees.conflict⟩,
      fun ⟨permanent, exhausted, conflict⟩ => ⟨permanent, exhausted, conflict⟩⟩
  rw [split]
  rcases (tables.slice key.identity).verdict_cases key fingerprint maxAttempts with
    ⟨verdict, taken⟩ | ⟨verdict, taken⟩ | ⟨available, verdict⟩
  · simp [call, attemptCall, verdict, Call.rollback, failureKind?, GoError.is,
      writtenKind, OpenAt, taken]
  · simp [call, attemptCall, verdict, writtenKind, OpenAt, taken]
  · rw [Slice.pending] at verdict
    cases closed : ((tables.slice key.identity).state key fingerprint).closed maxAttempts with
    | true =>
      rw [if_pos closed] at verdict
      have counted := (coherent key.identity).closed_counted (apart key.identity) key fingerprint
        separates maxAttempts positive available closed
      cases kind : ((tables.slice key.identity).state key fingerprint).closedKind <;>
        simp [call, attemptCall, verdict, counted, kind, writtenKind, failureKind?, OpenAt, closed,
          TerminalKind.closedError, GoError.is, GoError.isPermanent]
    | false =>
      rw [if_neg (by rw [closed]; exact Bool.false_ne_true)] at verdict
      have opened : ((tables.slice key.identity).state key fingerprint).attempt < maxAttempts := by
        simp only [AttemptState.closed, Bool.or_eq_false_iff, decide_eq_false_iff_not] at closed
        omega
      cases outcome with
      | none =>
        simp [call, attemptCall, verdict, writtenKind, closesGeneration, classify]
      | some err =>
        have admitted := admitted_kind_iff maxAttempts
          ((tables.slice key.identity).state key fingerprint).attempt opened err
        -- The count is a function of the rows, so the condition is about one count.
        have condition : (∀ other count, some err = some other →
            OpenAt tables key fingerprint maxAttempts count → ReadsAlike maxAttempts count other) ↔
            ReadsAlike maxAttempts ((tables.slice key.identity).state key fingerprint).attempt
                err := by
          constructor
          · exact fun alike => alike err _ rfl ⟨available, closed, rfl⟩
          · rintro alike other count same ⟨_, _, rfl⟩
            rw [← Option.some.inj same]
            exact alike
        rw [condition, ← admitted]
        simp [call, attemptCall, verdict, iff_false]

end Call

/-- In every reachable state, the terminal decision of both consumers agrees with
the inbox exactly when the handler, if the rows let it run, returns no error that
wraps `ErrFingerprintConflict`, and none that wraps `ErrAttemptsExhausted` without
being permanent or failing the last attempt. Otherwise an item of the calls shows a
collision of the digest. -/
theorem terminal_decision_agrees_iff (backend : Backend) (earlier : List (Step F)) (now : Readings)
    (key : Key) (fingerprint : F) (settings : Settings) (numDelivered : Nat)
    (outcome : Option GoError) (valid : validateKey key = none) :
    let tables := run backend (Tables.empty F) earlier
    let call := Store.processAttempt backend now tables key fingerprint settings.maxAttempts outcome
    let alike := ∀ err count, outcome = some err →
      OpenAt tables key fingerprint settings.maxAttempts count →
      ReadsAlike settings.maxAttempts count err
    Collision "" (earlier ++
      [⟨.processAttempt key fingerprint settings.maxAttempts outcome, now, .asDecided⟩]) ∨
    (Agrees (Nats.processOutcome settings numDelivered true call.reply call.err).kind? tables call
        key fingerprint ↔ alike) ∧
      (Agrees (Kafka.processOutcome settings true call.reply call.err).kind? tables call key
        fingerprint ↔ alike) := by
  intro tables call alike
  refine or_iff_not_imp_left.mpr fun clear => ?_
  have separates := fun taken member => (separates_of_no_collision clear taken member).1
  have before := fun taken (member : taken ∈ earlier) =>
    separates taken (List.mem_append_left _ member)
  have empty : (Tables.empty F).Coherent := fun _ => coherent_empty
  have coherent : tables.Coherent := run_coherent backend earlier _ empty
  have apart : tables.Apart := run_apart backend earlier _ empty (fun _ => apart_empty) before
  have linked : tables.Linked := run_linked backend earlier _ empty (fun _ => apart_empty)
    (fun _ => linked_empty) before
  have performed := processAttempt_valid backend settings.maxAttempts settings.positive now tables
    coherent.tracked ⟨key, fingerprint⟩ valid outcome
  have agrees := agrees_iff tables coherent apart linked now key fingerprint
    (separates _ (List.mem_append_right _ (.head _)) _ (.head _)) settings.maxAttempts
    settings.positive outcome
  rw [← performed] at agrees
  rw [Nats.processOutcome, Kafka.processOutcome, decideOutcome_kind, decideOutcome_kind]
  exact ⟨agrees, agrees⟩

end Agreement

def sampleSettings : Settings := ⟨5, 1000, 60000, fun _ => none, by decide⟩

def sampleAttempt (outcome : Option GoError) : Call Preimage Result :=
  Store.processAttempt .sqlite sampleReadings (Tables.empty Preimage) sampleKey ⟨[1]⟩ 5 outcome

theorem terminal_decision_agrees_plain :
    Agrees (Nats.processOutcome sampleSettings 1 true
      (sampleAttempt (some (.text "declined"))).reply
        (sampleAttempt (some (.text "declined"))).err).kind?
      (Tables.empty Preimage) (sampleAttempt (some (.text "declined"))) sampleKey ⟨[1]⟩ := by
  apply ((terminal_decision_agrees_iff .sqlite [] sampleReadings sampleKey (⟨[1]⟩ : Preimage)
    sampleSettings 1 (some (.text "declined")) (by decide)).resolve_left
      (by unfold Collision; decide)).1.mpr
  intro err count same _
  rw [← Option.some.inj same]
  exact ⟨rfl, .inr (.inl rfl)⟩

/-- A handler error that wraps a sentinel of the inbox is dead-lettered on the
first of five attempts: as exhausted although no terminal row was written, and as
an identity conflict although the stored fingerprint is the message's own. -/
theorem wrapped_sentinel_misread :
    let exhausted := sampleAttempt (some (.wrap "charge" (.sentinel .attemptsExhausted)))
    let conflict := sampleAttempt (some (.wrap "charge" (.sentinel .fingerprintConflict)))
    (Nats.processOutcome sampleSettings 1 true exhausted.reply exhausted.err =
      .deadLetter .attemptsExhausted 1 ∧
      Kafka.processOutcome sampleSettings true exhausted.reply exhausted.err =
        .deadLetter .attemptsExhausted 1 ∧
      exhausted.recorded = [] ∧ exhausted.tables.terminal.rows = []) ∧
    Nats.processOutcome sampleSettings 1 true conflict.reply conflict.err =
      .deadLetter .identityConflict 1 ∧
      Kafka.processOutcome sampleSettings true conflict.reply conflict.err =
        .deadLetter .identityConflict 1 ∧
      (conflict.tables.inbox.find? sampleKey.identity).map
          IdentityRow.fingerprint = some ⟨[1]⟩ := by
  decide

end Gomessenger.Consumer
