import Gomessenger.Inbox.Separation

/-! Closed generations stay closed, and attempts are counted exactly. -/

namespace Gomessenger.Inbox

open LocalAction

section Closure

variable {F : Type} [LinearOrder F]

def Op.removesTerminal : Op F → Bool
  | .forgetAttempt _ _ => true
  | .prune _ _ => true
  | .pruneTerminalAttempts _ _ => true
  | _ => false

theorem Slice.updateCounter_terminal (slice : Slice F) (generation : String) (attempt : F)
    (change : CounterRow → CounterRow) :
    (slice.updateCounter generation attempt change).terminal = slice.terminal := by
  unfold Slice.updateCounter
  split <;> rfl

theorem Slice.insertCounter_terminal (slice : Slice F) (generation : String) (attempt : F)
    (row : CounterRow) :
    (slice.insertCounter generation attempt row).terminal = slice.terminal := by
  unfold Slice.insertCounter
  split <;> rfl

theorem Slice.upsertAttempt_terminal (slice : Slice F) (generation : String) (attempt : F)
    (time : Time) : (slice.upsertAttempt generation attempt time).terminal = slice.terminal := by
  unfold Slice.upsertAttempt
  split
  · exact slice.insertCounter_terminal generation attempt _
  · exact slice.updateCounter_terminal generation attempt _

omit [LinearOrder F] in
theorem Slice.insertIdentity_terminal (slice : Slice F) (time : Time) (fingerprint : F) :
    (slice.insertIdentity time fingerprint).terminal = slice.terminal := by
  unfold Slice.insertIdentity
  split <;> rfl

theorem Slice.upsertTerminal_kept (slice : Slice F) (recorded : F) (time : Time) (count : Nat)
    (counted : 0 < count) (kind : TerminalKind) (attempt : F) (row : TerminalRow)
    (found : slice.terminal attempt = some row) :
    ∃ kept, (slice.upsertTerminal recorded time count counted kind).terminal attempt = some kept ∧
      SameClosure kept row := by
  by_cases same : recorded = attempt
  · subst same
    exact ⟨{ row with handoffConfirmedAt := none }, by simp [Slice.upsertTerminal,
      found], rfl, rfl, rfl⟩
  · exact ⟨row, by simp [Slice.upsertTerminal, same, found], rfl, rfl, rfl⟩

variable [Sha256 F]

theorem Slice.settle_kept (slice : Slice F) (key : Key) (fingerprint : F) (now : Readings)
    (maxAttempts count : Nat) (outcome : Option GoError) (attempt : F) (row : TerminalRow)
    (found : slice.terminal attempt = some row) :
    ∃ kept, (slice.settle key fingerprint now maxAttempts count outcome).terminal attempt =
      some kept ∧ SameClosure kept row := by
  have consumed : (slice.upsertAttempt key.attemptGeneration
      (attemptFingerprint key.attemptGeneration fingerprint) now.attempted).terminal attempt =
      some row := by
    rw [slice.upsertAttempt_terminal]
    exact found
  have same : SameClosure row row := ⟨rfl, rfl, rfl⟩
  unfold Slice.settle
  cases (classify outcome).1 with
  | deferred =>
    refine ⟨row, ?_, same⟩
    by_cases first : count = 0
    · simp only [first, if_true, Slice.insertDeferred]
      split
      · rw [slice.insertCounter_terminal]
        exact found
      · exact found
    · simp only [first, if_false]
      exact found
  | success => exact ⟨row, consumed, same⟩
  | permanent =>
    apply Slice.upsertTerminal_kept
    rw [Slice.markTerminal, Slice.updateCounter_terminal]
    exact consumed
  | retryAfter | ordinary =>
    by_cases last : maxAttempts ≤ count + 1
    · simp only [last, if_true]
      exact Slice.upsertTerminal_kept _ _ _ _ _ _ attempt row consumed
    · simp only [last, if_false]
      exact ⟨row, consumed, same⟩

section Steps

variable {now : Readings} {id : Identity} {slice : Slice F} {op : Op F} {trace : Trace F}
variable (effect : Effect now id slice op trace)

include effect in
theorem Effect.terminal (attempt : F) (row : TerminalRow)
    (found : slice.terminal attempt = some row) :
    (∃ kept, trace.slice.terminal attempt = some kept ∧ SameClosure kept row) ∨
      op.removesTerminal = true ∧ trace.slice.terminal attempt = none := by
  have same : SameClosure row row := ⟨rfl, rfl, rfl⟩
  have removed : ∀ small : Slice F, small.Within slice →
      (∃ kept, small.terminal attempt = some kept ∧ SameClosure kept row) ∨
          small.terminal attempt = none := by
    intro small within
    cases left : small.terminal attempt with
    | none => exact .inr rfl
    | some kept =>
      have old := within.terminal attempt kept left
      rw [Option.some.inj (old.symm.trans found)]
      exact .inl ⟨row, rfl, same⟩
  have attempted : ∀ (item : BatchItem F) (maxAttempts : Nat)
    (outcome : Option GoError) (next : Slice F),
      slice.attempt item.key item.fingerprint now maxAttempts outcome = some next →
      ∃ kept, next.terminal attempt = some kept ∧ SameClosure kept row := by
    intro item maxAttempts outcome next settled
    have inserted : (slice.insertIdentity now.created item.fingerprint).terminal
        attempt = some row := by
      rw [slice.insertIdentity_terminal]
      exact found
    rcases slice.attempt_cases item.key item.fingerprint now maxAttempts next outcome settled with
      ⟨rfl, _⟩ | ⟨_, _, counted, rfl⟩ | ⟨_, _, _, rfl⟩
    · exact ⟨row, found, same⟩
    · exact Slice.upsertTerminal_kept _ _ _ _ counted _ attempt row inserted
    · exact Slice.settle_kept _ item.key item.fingerprint now maxAttempts _
        outcome attempt row inserted
  cases effect with
  | idle | abandoned | dropped => exact .inl ⟨row, found, same⟩
  | refused op item maxAttempts next member here limit positive denied settled =>
    exact .inl (attempted item maxAttempts none next settled)
  | attempted op item maxAttempts outcome next member here limit positive admitted settled =>
    exact .inl (attempted item maxAttempts outcome next settled)
  | processed key fingerprint outcome here unclaimed =>
    refine .inl ⟨row, ?_, same⟩
    change (slice.insertIdentity now.created fingerprint).terminal attempt = some row
    rw [slice.insertIdentity_terminal]
    exact found
  | forgotten key fingerprint here stored identity print incomplete =>
    exact (removed _ (slice.forget_within _ _)).imp_right (fun gone => ⟨rfl, gone⟩)
  | confirmed key fingerprint here stored identity print =>
    refine .inl ?_
    change ∃ kept, (if attemptFingerprint key.attemptGeneration fingerprint = attempt then
      (slice.terminal (attemptFingerprint key.attemptGeneration fingerprint)).map _
      else slice.terminal attempt) = some kept ∧ _
    by_cases own : attemptFingerprint key.attemptGeneration fingerprint = attempt
    · rw [if_pos own, own, found]
      exact ⟨_, rfl, rfl, rfl, rfl⟩
    · rw [if_neg own]
      exact ⟨row, found, same⟩
  | pruned => exact .inr ⟨rfl, rfl⟩
  | retired before limit attempts =>
    exact (removed _ (slice.retire_within before attempts)).imp_right (fun gone => ⟨rfl, gone⟩)

variable (row : IdentityRow F)

include effect in
theorem Effect.identity (stored : slice.identity = some row) :
    (∃ kept, trace.slice.identity = some kept ∧ kept.fingerprint = row.fingerprint) ∨
      op.removesTerminal = true ∧ trace.slice.identity = none := by
  have removed : ∀ small : Slice F, small.Within slice →
      (∃ kept, small.identity = some kept ∧ kept.fingerprint = row.fingerprint) ∨
          small.identity = none := by
    intro small within
    cases left : small.identity with
    | none => exact .inr rfl
    | some kept =>
      rw [Option.some.inj ((within.identity kept left).symm.trans stored)]
      exact .inl ⟨row, rfl, rfl⟩
  have attempted : ∀ (item : BatchItem F) (maxAttempts : Nat)
    (outcome : Option GoError) (next : Slice F),
      slice.attempt item.key item.fingerprint now maxAttempts outcome = some next →
      ∃ kept, next.identity = some kept ∧ kept.fingerprint = row.fingerprint := by
    intro item maxAttempts outcome next settled
    have inserted := slice.insertIdentity_some now.created item.fingerprint row stored
    rcases slice.attempt_cases item.key item.fingerprint now maxAttempts next outcome settled with
      ⟨rfl, _⟩ | ⟨_, _, counted, rfl⟩ | ⟨_, _, _, rfl⟩
    · exact ⟨row, stored, rfl⟩
    · rw [inserted]
      exact ⟨row, stored, rfl⟩
    · rw [inserted, Slice.settle_identity, stored]
      split
      · exact ⟨_, rfl, rfl⟩
      · exact ⟨row, rfl, rfl⟩
  cases effect with
  | idle | abandoned | dropped | confirmed => exact .inl ⟨row, stored, rfl⟩
  | refused op item maxAttempts next member here limit positive denied settled =>
    exact .inl (attempted item maxAttempts none next settled)
  | attempted op item maxAttempts outcome next member here limit positive admitted settled =>
    exact .inl (attempted item maxAttempts outcome next settled)
  | processed key fingerprint outcome here unclaimed =>
    rw [slice.insertIdentity_some now.created fingerprint row stored]
    exact .inl ⟨{ row with completedAt := some now.completed },
      by simp only [Slice.markComplete, stored, Option.map_some], rfl⟩
  | forgotten key fingerprint here other found print incomplete =>
    exact (removed _ (slice.forget_within _ _)).imp_right (fun gone => ⟨rfl, gone⟩)
  | pruned => exact .inr ⟨rfl, rfl⟩
  | retired before limit attempts =>
    exact (removed _ (slice.retire_within before attempts)).imp_right (fun gone => ⟨rfl, gone⟩)

include effect in
theorem Effect.finished_item (entry : BatchItem F × Option GoError)
    (finished : entry ∈ trace.finished) :
    entry.1 ∈ trace.invoked ∧ entry.1 ∈ op.items ∧ entry.1.key.identity = id := by
  cases effect with
  | attempted op item maxAttempts outcome next member here limit positive admitted settled =>
    rw [List.mem_singleton.mp finished]
    exact ⟨List.mem_singleton.mpr rfl, member, here⟩
  | processed key fingerprint outcome here unclaimed =>
    rw [List.mem_singleton.mp finished]
    exact ⟨List.mem_singleton.mpr rfl, List.mem_singleton.mpr rfl, here⟩
  | idle | abandoned | refused | dropped | forgotten | confirmed | pruned | retired =>
    exact absurd finished List.not_mem_nil

include effect in
theorem Effect.unfinished (stored : slice.identity = some row) (quiet : row.completedAt ≠ none ∨
      ∀ item ∈ op.items, item.key.identity = id → item.fingerprint ≠ row.fingerprint) :
    trace.finished = [] := by
  rcases quiet with completed | different
  · exact (effect.completed ⟨row, stored, completed⟩).2.1
  · rw [List.eq_nil_iff_forall_not_mem]
    intro entry finished
    obtain ⟨invoked, carried, here⟩ := effect.finished_item entry finished
    exact different entry.1 carried here (effect.fingerprint entry.1 invoked row (.inl stored)).symm

def Slice.closure (slice : Slice F) (generation : String) : Option TerminalRow :=
  slice.identity.bind (fun row => slice.terminal (attemptFingerprint generation row.fingerprint))

include effect in
theorem Effect.closure (generation : String) (row : TerminalRow)
    (closed : slice.closure generation = some row) :
    (∃ kept, trace.slice.closure generation = some kept ∧ SameClosure kept row) ∨
      op.removesTerminal = true ∧ trace.slice.closure generation = none := by
  obtain ⟨stored, identity, found⟩ := Option.bind_eq_some_iff.mp closed
  rcases effect.identity stored identity with ⟨kept, known, same⟩ | ⟨removes, gone⟩
  · have read : trace.slice.closure generation =
        trace.slice.terminal (attemptFingerprint generation stored.fingerprint) := by
      rw [Slice.closure, known, Option.bind_some, same]
    rw [read]
    exact effect.terminal _ row found
  · refine .inr ⟨removes, ?_⟩
    rw [Slice.closure, gone, Option.bind_none]

end Steps

section Closed

variable {slice : Slice F} (coherent : slice.Coherent) (apart : slice.Apart)

theorem AttemptState.closed_of_kind (state : AttemptState) (maxAttempts : Nat)
    (kind : state.kind ≠ none) : state.closed maxAttempts = true := by
  rw [AttemptState.closed, Option.isSome_iff_ne_none.mpr kind, Bool.or_true]

variable (key : Key) (fingerprint : F)
variable (separates : Separates fingerprint key.attemptGeneration "")

omit [LinearOrder F] in
include coherent apart separates in
theorem Slice.Coherent.state_kind (holds : slice.Holds fingerprint)
    (closed : slice.terminal (attemptFingerprint key.attemptGeneration fingerprint) ≠ none) :
    (slice.state key fingerprint).kind =
      (slice.terminal (attemptFingerprint key.attemptGeneration fingerprint)).map
        TerminalRow.failureKind := by
  obtain ⟨stored, identity, rfl⟩ := holds
  rcases coherent.closed _ closed with ⟨row, found, print, _⟩ | ⟨row, found, _⟩
  · have stamp := coherent.stamped row stored found identity
    have legacy : key.attemptGeneration = "" := by
      apply separates
      rw [attemptFingerprint_empty, ← print, stamp]
    simp only [Slice.state, Slice.readAttempt, legacy, if_true, found,
      Option.map_some, Option.getD_some]
    rw [stamp, attemptFingerprint_empty]
  · have replay : key.attemptGeneration ≠ "" := by
      intro legacy
      refine apart _ stored (by rw [found]; exact Option.some_ne_none row) identity ?_
      rw [legacy, attemptFingerprint_empty]
    simp [Slice.state, Slice.readAttempt, if_neg replay, found]

omit [LinearOrder F] in
include coherent apart separates in
theorem Slice.Coherent.state_closed (maxAttempts : Nat) (holds : slice.Holds fingerprint)
    (closed : slice.terminal (attemptFingerprint key.attemptGeneration fingerprint) ≠ none) :
    (slice.state key fingerprint).closed maxAttempts = true := by
  apply AttemptState.closed_of_kind
  rw [coherent.state_kind apart key fingerprint separates holds closed,
    ne_eq, Option.map_eq_none_iff]
  exact closed

include coherent apart in
/-- No call hands an item of a closed generation to a handler. -/
theorem Effect.uninvoked {now : Readings} {id : Identity} {op : Op F} {trace : Trace F}
    (effect : Effect now id slice op trace) (separates : op.Separates "") (generation : String)
    (closed : slice.closure generation ≠ none) (item : BatchItem F)
    (invoked : item ∈ trace.invoked) : item.key.attemptGeneration ≠ generation := by
  obtain ⟨row, bound⟩ := Option.ne_none_iff_exists'.mp closed
  obtain ⟨stored, identity, found⟩ := Option.bind_eq_some_iff.mp bound
  have closes : slice.terminal (attemptFingerprint generation stored.fingerprint) ≠ none := by
    rw [found]
    exact Option.some_ne_none row
  have refuse : ∀ (other : BatchItem F) (maxAttempts : Nat), other ∈ op.items →
      (slice.verdict other.key other.fingerprint maxAttempts).admits = true →
      other.key.attemptGeneration ≠ generation := by
    intro other maxAttempts member admitted own
    have available := slice.verdict_admits _ _ _ admitted
    have same := (available stored identity).1
    have denied := coherent.state_closed apart other.key other.fingerprint (separates other member)
      maxAttempts ⟨stored, identity, same⟩ (by rw [own, ← same]; exact closes)
    rw [slice.verdict_available _ _ _ available, Slice.pending, if_pos denied] at admitted
    cases admitted
  have tracked : ∀ fingerprint : F, ¬ slice.Unclaimed fingerprint := by
    rintro fingerprint (missing | ⟨_, _, _, _, free⟩)
    · exact absurd (identity.symm.trans missing) (Option.some_ne_none stored)
    · exact free (coherent.closed _ closes).hasAttempts
  cases effect with
  | abandoned op other maxAttempts member here limit positive admitted =>
    rw [List.mem_singleton.mp invoked]
    exact refuse other maxAttempts member admitted
  | attempted op other maxAttempts outcome next member here limit positive admitted settled =>
    rw [List.mem_singleton.mp invoked]
    exact refuse other maxAttempts member admitted
  | dropped key fingerprint outcome here unclaimed => exact absurd unclaimed (tracked fingerprint)
  | processed key fingerprint outcome here unclaimed => exact absurd unclaimed (tracked fingerprint)
  | idle | refused | forgotten | confirmed | pruned | retired =>
    exact absurd invoked List.not_mem_nil

end Closed

section BatchErrors

variable (now : Readings) (tables : Tables F)

theorem commitTerminalBatch_error (current : Tables F) (assigned : Assignments F)
    (invoked : List (BatchItem F)) (finished : List (BatchItem F × Option GoError))
    (failed : (commitTerminalBatch now tables current assigned invoked finished).err ≠ none) :
    (commitTerminalBatch now tables current assigned invoked finished).tables = tables := by
  unfold commitTerminalBatch at failed ⊢
  simp only at failed ⊢
  split at failed
  · rfl
  · exact absurd rfl failed

variable (statements : BatchStatements F)

theorem settleBatch_error (prepared : PreparedBatch F)
    (maxAttempts : Nat) (settled : List (MatchedGroup F × Option GoError))
    (failed : (settleBatch statements now tables prepared maxAttempts settled).err ≠ none) :
    (settleBatch statements now tables prepared maxAttempts settled).tables = tables := by
  unfold settleBatch at failed ⊢
  simp only at failed ⊢
  split
  · rfl
  · rename_i incremented
    rw [incremented] at failed
    exact commitTerminalBatch_error now tables _ _ _ _ failed

theorem runBatch_error (items : List (BatchItem F)) (maxAttempts : Nat) (handler : BatchHandler F)
    (failed : (runBatch statements now tables items maxAttempts handler).err ≠ none) :
    (runBatch statements now tables items maxAttempts handler).tables = tables := by
  revert failed
  unfold runBatch
  split
  · exact fun _ => rfl
  · split
    · exact fun _ => rfl
    · split
      · exact fun _ => rfl
      · split
        · exact commitTerminalBatch_error now tables _ _ _ _
        · simp only
          split
          · exact fun _ => rfl
          · split
            · exact fun _ => rfl
            · exact settleBatch_error now tables statements _ maxAttempts _

end BatchErrors

theorem step_batch_error (backend : Backend) (tables : Tables F) (taken : Step F)
    (items : List (BatchItem F)) (maxAttempts : Nat) (handler : BatchHandler F)
    (batch : taken.op = .processBatchAttempt items maxAttempts handler)
    (failed : (step backend tables taken).err ≠ none) :
    (step backend tables taken).tables = tables := by
  revert failed
  unfold step
  cases taken.ends with
  | fails ran err => exact fun _ => rfl
  | asDecided =>
    rw [batch]
    simp only [Op.perform, Store.processBatchAttempt]
    split
    · exact fun _ => rfl
    · split
      · exact fun _ => rfl
      · split
        · exact fun _ => rfl
        · cases backend with
          | pgsql collation => exact runBatch_error taken.now tables _ _ maxAttempts handler
          | sqlite => exact runBatch_error taken.now tables _ _ maxAttempts handler

section Runs

variable (backend : Backend) (id : Identity) (generation : String)

/-- The generation is closed at the start and after every call. -/
def StaysClosed (backend : Backend) (id : Identity) (generation : String) (tables : Tables F)
    (steps : List (Step F)) : Prop :=
  ∀ count ≤ steps.length, ((run backend tables (steps.take count)).slice id).closure generation ≠
    none

def StaysCounted (backend : Backend) (id : Identity) (generation : String) (tables : Tables F)
    (steps : List (Step F)) : Prop :=
  ∀ count, 0 < count → count ≤ steps.length →
    ((run backend tables (steps.take count)).slice id).counter generation ≠ none

/-- The bounded handler invocations of a generation that a run committed with an
outcome other than a deferral. -/
def committedAttempts (backend : Backend) (id : Identity) (generation : String)
    (tables : Tables F) : List (Step F) → Nat
  | [] => 0
  | taken :: rest =>
    (if taken.op.limit.isSome then ((step backend tables taken).at id).consumed generation
      else 0) +
      committedAttempts backend id generation (step backend tables taken).tables rest

def largestLimit (steps : List (Step F)) : Nat :=
  steps.foldr (fun taken largest => max (taken.op.limit.getD 0) largest) 0

variable {backend id generation}

variable {tables : Tables F} {taken : Step F} {rest : List (Step F)}

theorem StaysClosed.tail (stays : StaysClosed backend id generation tables (taken :: rest)) :
    StaysClosed backend id generation (step backend tables taken).tables rest := by
  intro count below
  have later := stays (count + 1) (Nat.succ_le_succ below)
  rw [List.take_succ_cons, run_cons] at later
  exact later

theorem StaysCounted.tail (stays : StaysCounted backend id generation tables (taken :: rest)) :
    StaysCounted backend id generation (step backend tables taken).tables rest := by
  intro count _ below
  have later := stays (count + 1) (Nat.succ_pos count) (Nat.succ_le_succ below)
  rw [List.take_succ_cons, run_cons] at later
  exact later

theorem StaysCounted.next (stays : StaysCounted backend id generation tables (taken :: rest)) :
    ((step backend tables taken).tables.slice id).counter generation ≠ none := by
  have first := stays 1 Nat.one_pos (Nat.succ_le_succ (Nat.zero_le _))
  rw [List.take_succ_cons, List.take_zero, run_cons, run_nil] at first
  exact first

variable (backend id generation) (steps : List (Step F))

/-- While a generation is closed its row keeps its reason, count and time, and no
call invokes a handler for it. -/
theorem run_closed (tables : Tables F) (coherent : tables.Coherent) (apart : tables.Apart)
    (separates : ∀ taken ∈ steps, taken.op.Separates "") (row : TerminalRow)
    (closed : (tables.slice id).closure generation = some row)
    (stays : StaysClosed backend id generation tables steps) :
    (∃ kept, ((run backend tables steps).slice id).closure generation = some kept ∧
      SameClosure kept row) ∧
    ∀ call ∈ calls backend tables steps, ∀ item ∈ call.invoked, item.key.identity = id →
      item.key.attemptGeneration ≠ generation := by
  induction steps generalizing tables row with
  | nil => exact ⟨⟨row, closed, rfl, rfl, rfl⟩, nofun⟩
  | cons taken rest ih =>
    have effect := step_effect backend tables coherent.tracked taken id
    have coherentNext := step_coherent backend tables taken coherent
    have apartNext := step_apart backend tables taken coherent apart (separates taken (.head _))
    have open' := stays.tail 0 (Nat.zero_le _)
    rw [List.take_zero, run_nil] at open'
    rcases effect.closure generation row closed with ⟨kept, found, same⟩ | ⟨_, gone⟩
    · obtain ⟨⟨last, final, equal⟩, quiet⟩ := ih _ coherentNext apartNext
        (fun later member => separates later (.tail _ member)) kept found stays.tail
      refine ⟨⟨last, final, ?_⟩, ?_⟩
      · exact ⟨equal.attempts.trans same.attempts, equal.failureKind.trans same.failureKind,
          equal.terminalAt.trans same.terminalAt⟩
      · intro call member item invoked here
        rcases List.mem_cons.mp member with rfl | later
        · exact effect.uninvoked (coherent id) (apart id) (separates taken (.head _)) generation
            (by rw [closed]; exact Option.some_ne_none row) item
            ((mem_fibre _ _ _ _).mpr ⟨invoked, here⟩)
        · exact quiet call later item invoked here
    · exact absurd gone open'

/-- A live counter grows by exactly the attempts its calls commit. -/
theorem run_count (tables : Tables F) (coherent : tables.Coherent)
    (separates : ∀ taken ∈ steps, taken.op.Separates generation)
    (stays : StaysCounted backend id generation tables steps) :
    ((run backend tables steps).slice id).count generation = (tables.slice id).count generation +
        committedAttempts backend id generation tables steps := by
  induction steps generalizing tables with
  | nil => rfl
  | cons taken rest ih =>
    obtain ⟨row, found⟩ := Option.ne_none_iff_exists'.mp stays.next
    have counted := (step_effect backend tables coherent.tracked taken id).counter
      (coherent id) generation (separates taken (.head _)) row found
    have grown : ((step backend tables taken).tables.slice id).count generation = row.attempts := by
      rw [Slice.count, found]
      rfl
    rw [run_cons, ih _ (step_coherent backend tables taken coherent)
      (fun later member => separates later (.tail _ member)) stays.tail, grown, counted,
      committedAttempts, Nat.add_assoc]

theorem run_count_le (tables : Tables F) (coherent : tables.Coherent)
    (separates : ∀ taken ∈ steps, taken.op.Separates generation)
    (stays : StaysCounted backend id generation tables steps) :
    ((run backend tables steps).slice id).count generation ≤
      max ((tables.slice id).count generation) (largestLimit steps) := by
  induction steps generalizing tables with
  | nil => exact Nat.le_max_left _ _
  | cons taken rest ih =>
    have effect := step_effect backend tables coherent.tracked taken id
    obtain ⟨row, found⟩ := Option.ne_none_iff_exists'.mp stays.next
    have counted := effect.counter (coherent id) generation (separates taken (.head _)) row found
    have grown : ((step backend tables taken).tables.slice id).count generation = row.attempts := by
      rw [Slice.count, found]
      rfl
    have once : row.attempts ≤ max ((tables.slice id).count generation)
        (taken.op.limit.getD 0) := by
      cases limit : taken.op.limit with
      | none =>
        rw [limit] at counted
        exact counted.le.trans (Nat.le_max_left _ _)
      | some maxAttempts =>
        rw [limit, Option.isSome_some, if_pos rfl] at counted
        rw [Option.getD_some]
        rcases effect.consumed_below (coherent id) maxAttempts limit generation with
          unspent | ⟨one, below⟩ <;> omega
    have later := ih _ (step_coherent backend tables taken coherent)
      (fun later member => separates later (.tail _ member)) stays.tail
    rw [grown] at later
    rw [run_cons, largestLimit, List.foldr_cons]
    change _ ≤ max _ (max _ (largestLimit rest))
    omega

end Runs

/-- Over every run of the store, for every generation of an identity: while its
terminal row exists no call invokes a handler for it, and its reason, count and
closing time stand until one of the removing calls takes it away; while its
counter row exists the counter is the number of committed attempts since the row
was created, and at most the largest limit used since; and a bounded call that
commits no such attempt leaves it as it was. Otherwise an item of the calls shows
a collision of the digest. -/
theorem closed_generations (backend : Backend) (earlier steps : List (Step F)) (taken : Step F)
    (id : Identity) (generation : String) :
    let tables := run backend (Tables.empty F) earlier
    Collision generation (earlier ++ steps ++ [taken]) ∨
    (∀ row, (tables.slice id).closure generation = some row →
      (StaysClosed backend id generation tables steps →
        (∃ kept, ((run backend tables steps).slice id).closure generation = some kept ∧
          SameClosure kept row) ∧
        ∀ call ∈ calls backend tables steps, ∀ item ∈ call.invoked, item.key.identity = id →
          item.key.attemptGeneration ≠ generation) ∧
      (∀ item ∈ (step backend tables taken).invoked, item.key.identity = id →
          item.key.attemptGeneration ≠ generation) ∧
        (((step backend tables taken).tables.slice id).closure generation = none →
          taken.op.removesTerminal = true)) ∧
    (∀ row, (tables.slice id).counter generation = none →
      StaysCounted backend id generation tables steps →
      ((run backend tables steps).slice id).counter generation = some row →
      row.attempts = committedAttempts backend id generation tables steps ∧
        row.attempts ≤ largestLimit steps) ∧
    (taken.op.limit.isSome = true →
      (((step backend tables taken).at id).consumed generation = 0 →
        ((step backend tables taken).tables.slice id).count generation =
            (tables.slice id).count generation ∧
          ∀ row, (tables.slice id).counter generation = some row →
            ((step backend tables taken).tables.slice id).counter generation = some row) ∧
      (∀ row, tables.inbox.find? id = some row →
        (row.completedAt ≠ none ∨ ∀ item ∈ taken.op.items, item.key.identity = id →
          item.fingerprint ≠ row.fingerprint) →
        ((step backend tables taken).at id).consumed generation = 0) ∧
      ∀ items maxAttempts handler, taken.op = .processBatchAttempt items maxAttempts handler →
        (step backend tables taken).err ≠ none → (step backend tables taken).tables = tables) := by
  intro tables
  refine or_iff_not_imp_left.mpr fun clear => ?_
  have separates := separates_of_no_collision clear
  have before := fun past (member : past ∈ earlier) =>
    (separates past (List.mem_append_left _ (List.mem_append_left _ member))).1
  have during := fun next (member : next ∈ steps) =>
    separates next (List.mem_append_left _ (List.mem_append_right _ member))
  have last := separates taken (List.mem_append_right _ (.head _))
  have empty : (Tables.empty F).Coherent := fun _ => coherent_empty
  have coherent : tables.Coherent := run_coherent backend earlier _ empty
  have apart : tables.Apart := run_apart backend earlier _ empty (fun _ => apart_empty) before
  have effect := step_effect backend tables coherent.tracked taken id
  refine ⟨fun row closed => ⟨fun stays => ?_, fun item invoked here => ?_, fun gone => ?_⟩,
    fun row absent stays found => ?_, fun bounded => ⟨fun unspent => ?_,
      fun row stored quiet => ?_, ?_⟩⟩
  · exact run_closed backend id generation steps tables coherent apart
      (fun next member => (during next member).1) row closed stays
  · exact effect.uninvoked (coherent id) (apart id) last.1 generation
      (by rw [closed]; exact Option.some_ne_none row) item ((mem_fibre _ _ _ _).mpr ⟨invoked, here⟩)
  · rcases effect.closure generation row closed with ⟨kept, found, _⟩ | ⟨removes, _⟩
    · exact absurd (found.symm.trans gone) (Option.some_ne_none kept)
    · exact removes
  -- The counter was absent at the start, so it counts the committed attempts alone.
  · have fresh : (tables.slice id).count generation = 0 := by
      rw [Slice.count, absent]
      rfl
    have counting := fun next (member : next ∈ steps) => (during next member).2
    have exact' := run_count backend id generation steps tables coherent counting stays
    have bound := run_count_le backend id generation steps tables coherent counting stays
    rw [fresh] at exact' bound
    rw [Slice.count, found] at exact' bound
    change row.attempts = _ at exact'
    change row.attempts ≤ _ at bound
    omega
  · have kept := effect.counter_kept (coherent id) bounded generation last.2 unspent
    refine ⟨?_, kept⟩
    cases after : ((step backend tables taken).tables.slice id).counter generation with
    | some row =>
      have counted := effect.counter (coherent id) generation last.2 row after
      rw [if_pos bounded, unspent] at counted
      rw [Slice.count, after]
      exact counted
    | none =>
      cases before : (tables.slice id).counter generation with
      | some row => exact absurd ((kept row before).symm.trans after) (Option.some_ne_none row)
      | none => rw [Slice.count, Slice.count, after, before]
  · rw [Trace.consumed, effect.unfinished row stored quiet, List.countP_nil]
  · exact fun items maxAttempts handler batch failed =>
      step_batch_error backend tables taken items maxAttempts handler batch failed

/-- A permanent failure stays closed to a call with a larger limit. -/
theorem closed_generations_larger_limit :
    let failing : Op Preimage := .processAttempt sampleKey ⟨[1]⟩ 1 (some (.permanent (.text "bad")))
    let tables := (step .sqlite (Tables.empty Preimage) (sampleStep failing)).tables
    ((tables.slice sampleKey.identity).closure "").isSome = true ∧ ∀ item ∈ (step .sqlite tables
          (sampleStep (.processAttempt sampleKey ⟨[1]⟩ 5 none))).invoked,
        item.key.identity = sampleKey.identity → item.key.attemptGeneration ≠ "" := by
  intro failing tables
  have closed : (tables.slice sampleKey.identity).closure "" =
      some ⟨1, by decide, .permanent, 6, none⟩ := by decide
  refine ⟨by rw [closed]; rfl, ?_⟩
  exact (((closed_generations .sqlite [sampleStep failing] []
    (sampleStep (.processAttempt sampleKey ⟨[1]⟩ 5 none)) sampleKey.identity "").resolve_left
      (by unfold Collision; decide)).1 _ closed).2.1

end Closure

end Gomessenger.Inbox
