import Gomessenger.Inbox.DistinctBatch
import Gomessenger.Inbox.Separation
import Gomessenger.Inbox.Untimed

/-! A batch of distinct identities is the fold of its single messages. -/

namespace Gomessenger.Inbox

open LocalAction

section Committed

variable {F : Type} [LinearOrder F] [Sha256 F]

/-- A handler that gives every item it sees the error assigned to its identity. -/
def AnswersWith (handler : BatchHandler F) (errors : Identity → Option GoError) : Prop :=
  ∀ given, (handler given).2 = none ∧ (handler given).1.Perm
      (given.map (fun item => ⟨batchKey item.key, errors item.key.identity⟩))

section Counted

theorem closed_of_read {Row : Type} {row? : Option Row} {read : Row → AttemptState}
    {maxAttempts : Nat} (positive : 0 < maxAttempts)
    (closed : ((row?.map read).getD noAttempt).closed maxAttempts = true) :
    ∃ row, row? = some row ∧ (((read row).terminal = true ∨ maxAttempts ≤ (read row).attempt) ∨
      (read row).kind.isSome = true) := by
  cases row? with
  | none =>
    simp only [Option.map_none, Option.getD_none, AttemptState.closed, noAttempt,
      Bool.false_or, Option.isSome_none, Bool.or_false] at closed
    exact absurd (of_decide_eq_true closed) (Nat.not_le.mpr positive)
  | some row =>
    simp only [Option.map_some, Option.getD_some, AttemptState.closed, Bool.or_eq_true,
      decide_eq_true_eq] at closed
    exact ⟨row, rfl, closed⟩

variable {slice : Slice F} (coherent : slice.Coherent) (apart : slice.Apart)

omit [LinearOrder F] in
include coherent apart in
theorem Slice.Coherent.closed_counted (key : Key) (fingerprint : F)
    (separates : Separates fingerprint key.attemptGeneration "") (maxAttempts : Nat)
    (positive : 0 < maxAttempts) (available : slice.Available fingerprint)
    (closed : (slice.state key fingerprint).closed maxAttempts = true) :
    0 < (slice.state key fingerprint).attempt := by
  by_cases legacy : key.attemptGeneration = ""
  · simp only [Slice.state, Slice.readAttempt, legacy, if_true] at closed ⊢
    obtain ⟨row, found, closed⟩ := closed_of_read positive closed
    simp only [found, Option.map_some, Option.getD_some, Option.isSome_map] at closed ⊢
    rcases closed with (flag | spent) | terminal
    · exact coherent.flaggedLegacy row found flag
    · omega
    · have tracked : slice.HasAttempts := .inl (by rw [found]; exact Option.some_ne_none row)
      obtain ⟨stored, identity⟩ := Option.ne_none_iff_exists'.mp
        (fun missing => coherent.tracked missing tracked)
      have stamp := coherent.stamped row stored found identity
      rcases coherent.closed row.fingerprint (Option.isSome_iff_ne_none.mp terminal) with
        ⟨other, same, _, used⟩ | ⟨other, generated, _⟩
      · rw [Option.some.inj (found.symm.trans same)]
        exact used
      -- A generation under the stored fingerprint would be a collision of the digest.
      · exact absurd stamp (apart row.fingerprint stored
          (by rw [generated]; exact Option.some_ne_none other) identity)
  · simp only [Slice.state, Slice.readAttempt, if_neg legacy] at closed ⊢
    obtain ⟨row, found, closed⟩ := closed_of_read positive closed
    simp only [found, Option.map_some, Option.getD_some, Option.isSome_map] at closed ⊢
    rcases closed with (flag | spent) | terminal
    · exact coherent.flagged _ row found flag
    · omega
    · have tracked : slice.HasAttempts :=
        .inr ⟨_, by rw [found]; exact Option.some_ne_none row⟩
      obtain ⟨stored, identity⟩ := Option.ne_none_iff_exists'.mp
        (fun missing => coherent.tracked missing tracked)
      rcases coherent.closed _ (Option.isSome_iff_ne_none.mp terminal) with
        ⟨other, same, print, _⟩ | ⟨other, same, used⟩
      · have stamp := coherent.stamped other stored same identity
        have own := (available stored identity).1
        refine absurd (separates ?_) legacy
        rw [← print, stamp, own, attemptFingerprint_empty]
      · rw [Option.some.inj (found.symm.trans same)]
        exact used

end Counted

theorem record_accepts (tables : Tables F) (outcomes : List (BatchItemOutcome F)) (now : Time)
    (counted : ∀ item ∈ outcomes, ∀ kind, terminalKind? item = some kind → 0 < item.attempt) :
    ∃ recorded, record tables outcomes now = .ok recorded := by
  have all : (terminalItems [] outcomes).all (fun entry => decide (0 < entry.1.attempt)) =
      true := by
    refine List.all_eq_true.mpr (fun entry member => decide_eq_true ?_)
    obtain ⟨reported, closes, _⟩ := mem_terminalItems [] outcomes entry.1 entry.2 member
    exact counted entry.1 reported entry.2 closes
  exact ⟨_, by rw [record_eq, if_pos all]⟩

theorem validateKey_complete (key : Key) (valid : validateKey key = none) :
    key.source ≠ "" ∧ key.messageID ≠ 0 := by
  unfold validateKey at valid
  split at valid
  · cases valid
  · rename_i accepted
    simp only [not_or] at accepted
    obtain ⟨_, named, numbered, _⟩ := accepted
    exact ⟨fun empty => named (by rw [empty]; decide), numbered⟩

variable (consumerID : String) (now : Readings) (tables : Tables F) (items : List (BatchItem F))
variable (maxAttempts : Nat) (errors : Identity → Option GoError) (handler : BatchHandler F)

section Distinct

variable (coherent : tables.Coherent) (apart : tables.Apart) (positive : 0 < maxAttempts)

include coherent apart positive in
theorem outcomeOf_counted (item : BatchItem F)
    (separates : Separates item.fingerprint item.key.attemptGeneration "") (kind : TerminalKind)
    (closes : terminalKind? (outcomeOf tables maxAttempts errors item) = some kind) :
    0 < (outcomeOf tables maxAttempts errors item).attempt := by
  unfold outcomeOf at closes ⊢
  rcases (tables.slice item.key.identity).verdict_cases item.key item.fingerprint maxAttempts with
    ⟨verdict, _⟩ | ⟨verdict, _⟩ | ⟨available, verdict⟩
  · rw [verdict] at closes
    cases closes
  · rw [verdict] at closes
    cases closes
  · rw [verdict, Slice.pending] at closes ⊢
    by_cases closed : ((tables.slice item.key.identity).state item.key item.fingerprint).closed
      maxAttempts = true
    · rw [if_pos closed]
      exact (coherent item.key.identity).closed_counted (apart item.key.identity) item.key
        item.fingerprint separates maxAttempts positive available closed
    · rw [if_neg closed] at closes ⊢
      simp only [attemptOutcome] at closes ⊢
      rcases classified : classify (errors item.key.identity) with ⟨kind, delay⟩
      rw [classified] at closes
      cases kind with
      | deferred => cases closes
      | success => exact Nat.succ_pos _
      | permanent => exact Nat.succ_pos _
      | retryAfter | ordinary =>
        simp only
        split <;> exact Nat.succ_pos _

variable (consumers : ∀ item ∈ items, item.key.consumerID = consumerID)
variable (valid : ∀ item ∈ items, validateKey item.key = none)
variable (distinct : (items.map (fun item => item.key.identity)).Nodup)
variable (answers : AnswersWith handler errors)

omit [LinearOrder F] [Sha256 F] in
include consumers distinct in
theorem prepareBatchGroups_distinct : ∃ groups, prepareBatchGroups items = .ok groups :=
  ⟨_, prepareEntries_distinct (batchEntries items) []
    (batchEntries_distinct consumerID items consumers distinct)
    (fun _ _ _ member => absurd member List.not_mem_nil)⟩

include consumers valid answers in
theorem answer_accepted (groups : List (BatchGroup F)) (active : List (MatchedGroup F))
    (given : Answered consumerID now tables items maxAttempts groups active)
    (result : List BatchItemResult)
    (answer : handler (active.map (fun group => group.lead.item)) = (result, none)) :
    validateResult (active.map (fun group => group.key)) result =
      .ok (active.map (fun group => errors group.lead.item.key.identity)) := by
  have paired : (active.map (fun group => (group, (none : Option GoError)))).map Prod.fst =
      active := by
    simp [Function.comp_def]
  rw [← paired] at given
  have bound := given.bound consumerID _ now tables items maxAttempts groups consumers
  have leads := fun group (member : group ∈ active) => given.lead consumerID _ now tables items
    maxAttempts groups consumers (group, none) (List.mem_map_of_mem member)
  rw [paired] at bound
  have keys : ∀ group ∈ active, batchKey group.lead.item.key = group.key := by
    intro group member
    obtain ⟨listed, identity, _⟩ := leads group member
    have named := identityOf_batchKey consumerID _ (consumers group.lead.item listed)
    exact (identityOf_inj consumerID _ _).mp (named.trans identity)
  have accepted := validateResult_accepts (active.map (fun group => group.key))
      bound.keys (fun key member => by
      obtain ⟨group, present, rfl⟩ := List.mem_map.mp member
      rw [← keys group present]
      exact validateKey_complete _ (valid _ (leads group present).1))
    (fun key => errors (identityOf consumerID key)) result (by
      have perm := (answers (active.map (fun group => group.lead.item))).2
      rw [answer, List.map_map] at perm
      rw [List.map_map]
      refine perm.trans (List.Perm.of_eq (List.map_congr_left ?_))
      intro group member
      simp only [Function.comp_apply, keys group member, (leads group member).2.1])
  rw [accepted, List.map_map]
  refine congrArg Except.ok (List.map_congr_left ?_)
  intro group member
  exact congrArg errors (leads group member).2.1.symm

variable (separates : ∀ item ∈ items, Separates item.fingerprint item.key.attemptGeneration "")

include coherent apart positive consumers valid distinct answers separates in
/-- A batch of distinct identities commits, reports the outcome of each item's own
attempt, and leaves each identity's rows as that attempt would. -/
theorem runBatch_distinct :
    let call := runBatch (referenceStatements consumerID) now tables items maxAttempts handler
    call.err = none ∧ call.reply.items = items.map (outcomeOf tables maxAttempts errors) ∧
      (∀ item ∈ items, (tables.slice item.key.identity).attempt item.key item.fingerprint now
        maxAttempts (errors item.key.identity) = some (call.tables.slice item.key.identity)) ∧
      ∀ id, (∀ item ∈ items, item.key.identity ≠ id) → call.tables.slice id = tables.slice id := by
  intro call
  have ends := runBatch_end consumerID now tables items maxAttempts handler
  change BatchEnd consumerID now tables items maxAttempts handler call at ends
  generalize call = finished at ends
  cases ends with
  -- With distinct identities and answers for each item only the last ending is left.
  | mixed err rejected =>
    obtain ⟨groups, prepared⟩ := prepareBatchGroups_distinct consumerID items consumers distinct
    rw [prepared] at rejected
    cases rejected
  | failed groups active result err given answer =>
    have silent := (answers (active.map (fun group => group.lead.item))).1
    rw [answer] at silent
    cases silent
  | invalid groups active result err given answer rejected =>
    rw [answer_accepted consumerID now tables items maxAttempts errors handler consumers valid
      answers groups active given result answer] at rejected
    cases rejected
  | settled groups settled given answer =>
    have answered : ∀ entry ∈ settled, entry.2 = errors entry.1.lead.item.key.identity := by
      rcases answer with rfl | ⟨result, answer, accepted⟩
      · exact nofun
      · have expected := answer_accepted consumerID now tables items maxAttempts errors handler
          consumers valid answers groups (settled.map Prod.fst) given result
          (by rw [List.map_map]; exact answer)
        rw [List.map_map, List.map_map] at expected
        have same := Except.ok.inj (accepted.symm.trans expected)
        exact fun entry member => List.map_inj_left.mp same entry member
    have report := report_distinct consumerID now tables items maxAttempts errors groups settled
      given consumers distinct answered
    obtain ⟨recorded, accepted⟩ :=
      record_accepts (preserveDeferred (settledTables now tables consumerID groups settled)
      (reportItems (finalAssignments now tables consumerID groups maxAttempts settled))
      now.deferred) (reportItems (finalAssignments now tables consumerID
        groups maxAttempts settled))
      now.recorded (by
        intro item reported kind closes
        rw [report] at reported
        obtain ⟨input, listed, rfl⟩ := List.mem_map.mp reported
        exact outcomeOf_counted tables maxAttempts errors coherent apart positive input
          (separates input listed) kind closes)
    have indices : ((batchEntries items).map BatchPreparedItem.index).Nodup := by
      rw [batchEntries_indices]
      exact List.nodup_range
    simp only [commitTerminalBatch, accepted]
    refine ⟨trivial, report, ?_, fun id absent => ?_⟩
    · exact fun item member => recorded_distinct consumerID now tables items maxAttempts errors
        groups settled given consumers distinct answered recorded accepted item member
    · apply recorded_elsewhere consumerID now tables maxAttempts settled given.active given.grouped
        (entry_consumers consumerID items consumers) indices recorded accepted
      intro group member same
      have inside := given.grouped.mem_entries group member group.front (.head _)
      have listed := List.mem_of_getElem? ((mem_batchEntries items group.front).mp inside)
      refine absent group.front.item listed ?_
      rw [← same]
      exact entry_identity consumerID given.grouped (entry_consumers consumerID items consumers)
        group member group.front (.head _)

end Distinct

def singleStep (maxAttempts : Nat) (errors : Identity → Option GoError)
    (single : BatchItem F × Readings) : Step F :=
  ⟨.processAttempt single.1.key single.1.fingerprint maxAttempts (errors single.1.key.identity),
    single.2, .asDecided⟩

/-- The batch outcome and failure kind that the return values of a single call stand for. -/
def outcomeOfSingle (maxAttempts : Nat) (result : Result) :
    Option GoError → BatchOutcome × Option FailureKind
  | none => (.ack, none)
  | some err =>
    if err.is .fingerprintConflict then (.dlq, some .identityConflict)
    else if err.isPermanent then (.dlq, some .permanent)
    else if err.deferDelay.isSome then (.defer, none)
    else if err.is .attemptsExhausted ∨ maxAttempts ≤ result.attempt then
      (.dlq, some .attemptsExhausted)
    else (.retry, none)

variable (backend : Backend) (maxAttempts : Nat) (errors : Identity → Option GoError)
variable (positive : 0 < maxAttempts)

theorem singleStep_local {tables other : Tables F} (tracked : tables.Tracked)
    (otherTracked : other.Tracked) (single : BatchItem F × Readings)
    (same : tables.slice single.1.key.identity = other.slice single.1.key.identity) :
    let call := step backend tables (singleStep maxAttempts errors single)
    let again := step backend other (singleStep maxAttempts errors single)
    (call.reply, call.err, call.invoked) = (again.reply, again.err, again.invoked) ∧
      call.tables.slice single.1.key.identity = again.tables.slice single.1.key.identity ∧
      ∀ id ≠ single.1.key.identity, call.tables.slice id = tables.slice id := by
  simp only [singleStep, step, Op.perform, Store.processAttempt]
  cases validateKey single.1.key with
  | some err => exact ⟨rfl, same, fun _ _ => rfl⟩
  | none =>
    by_cases none : maxAttempts = 0
    · simp only [none, if_true]
      exact ⟨rfl, same, fun _ _ => rfl⟩
    · have positive := Nat.pos_of_ne_zero none
      simp only [none, if_false, processAttempt_eq _ _ _ tracked _ _ _ _ positive, Call.map,
        processAttempt_eq _ _ _ otherTracked _ _ _ _ positive, attemptCall_slice,
        if_true, same, true_and]
      refine ⟨?_, fun id apart => if_neg apart⟩
      unfold attemptCall
      rw [same]
      cases (other.slice single.1.key.identity).verdict single.1.key
          single.1.fingerprint maxAttempts with
      | closed kind count => by_cases counted : 0 < count <;> simp [counted, Call.rollback]
      | conflict | duplicate | admitted => rfl

/-- Single calls for different messages do not see each other: each answers the same
before and after the other, and both orders leave the same rows. -/
theorem singles_are_independent (otherMax : Nat) (earlier : List (Step F))
    (first second : BatchItem F × Readings) :
    let tables := run backend (Tables.empty F) earlier
    let mine := singleStep maxAttempts errors first
    let theirs := singleStep otherMax errors second
    let early := step backend tables mine
    let late := step backend (step backend tables theirs).tables mine
    first.1.key.identity = second.1.key.identity ∨
      (late.reply, late.err, late.invoked) = (early.reply, early.err, early.invoked) ∧
      ∀ id, late.tables.slice id = (step backend early.tables theirs).tables.slice id := by
  intro tables mine theirs early late
  refine or_iff_not_imp_left.mpr fun apart => ?_
  have coherent : tables.Coherent := run_coherent backend earlier _ fun _ => coherent_empty
  have tracked (taken : Step F) := (step_coherent backend tables taken coherent).tracked
  have firstApart :=
    (singleStep_local backend maxAttempts errors coherent.tracked coherent.tracked first rfl).2.2
  have secondApart :=
    (singleStep_local backend otherMax errors coherent.tracked coherent.tracked second rfl).2.2
  obtain ⟨answer, rows, elsewhere⟩ := singleStep_local backend maxAttempts errors
    (tracked theirs) coherent.tracked
    first (secondApart _ apart)
  obtain ⟨_, others, beyond⟩ := singleStep_local backend otherMax errors
    (tracked mine) coherent.tracked
    second (firstApart _ (Ne.symm apart))
  refine ⟨answer, fun id => ?_⟩
  by_cases own : id = first.1.key.identity
  · exact own ▸ rows.trans (beyond _ apart).symm
  · rw [elsewhere _ own]
    by_cases its : id = second.1.key.identity
    · exact its ▸ others.symm
    · rw [beyond _ its, firstApart _ own, secondApart _ its]

include positive in
theorem processAttempt_valid (now : Readings) (tables : Tables F) (tracked : tables.Tracked)
    (item : BatchItem F) (valid : validateKey item.key = none) (outcome : Option GoError) :
    Store.processAttempt backend now tables item.key item.fingerprint maxAttempts outcome =
      attemptCall now tables item.key item.fingerprint maxAttempts outcome := by
  simp only [Store.processAttempt, valid, if_neg positive.ne']
  exact processAttempt_eq backend now tables tracked item.key item.fingerprint
    maxAttempts outcome positive

include positive in
theorem singleStep_slice (tables : Tables F) (tracked : tables.Tracked)
    (single : BatchItem F × Readings) (valid : validateKey single.1.key = none) (id : Identity) :
    (step backend tables (singleStep maxAttempts errors single)).tables.slice id =
      if id = single.1.key.identity then
        ((tables.slice id).attempt single.1.key single.1.fingerprint single.2 maxAttempts
          (errors single.1.key.identity)).getD (tables.slice id)
      else tables.slice id := by
  have call := processAttempt_valid backend maxAttempts positive single.2
    tables tracked single.1 valid
    (errors single.1.key.identity)
  rw [← attemptCall_slice single.2 tables maxAttempts single.1.key single.1.fingerprint
    (errors single.1.key.identity) id, ← call]
  rfl

variable (singles : List (BatchItem F × Readings))

include positive in
theorem singles_elsewhere (tables : Tables F)
    (coherent : tables.Coherent) (valid : ∀ single ∈ singles, validateKey single.1.key = none)
    (id : Identity) (absent : ∀ single ∈ singles, single.1.key.identity ≠ id) :
    (run backend tables (singles.map (singleStep maxAttempts errors))).slice
      id = tables.slice id := by
  induction singles generalizing tables with
  | nil => rfl
  | cons single rest ih =>
    rw [List.map_cons, run_cons, ih _ (step_coherent backend tables _ coherent)
        (fun other inside => valid other (.tail _ inside))
        (fun other inside => absent other (.tail _ inside)),
      singleStep_slice backend maxAttempts errors positive tables coherent.tracked single
        (valid single (.head _)) id,
      if_neg (Ne.symm (absent single (.head _)))]

include positive in
theorem singles_here (tables : Tables F)
    (coherent : tables.Coherent) (valid : ∀ single ∈ singles, validateKey single.1.key = none)
    (distinct : (singles.map (fun single => single.1.key.identity)).Nodup)
    (single : BatchItem F × Readings) (member : single ∈ singles) :
    (run backend tables (singles.map (singleStep maxAttempts errors))).slice single.1.key.identity =
      ((tables.slice single.1.key.identity).attempt single.1.key single.1.fingerprint single.2
        maxAttempts (errors single.1.key.identity)).getD (tables.slice single.1.key.identity) := by
  induction singles generalizing tables with
  | nil => exact absurd member List.not_mem_nil
  | cons first rest ih =>
    obtain ⟨fresh, later⟩ := List.nodup_cons.mp distinct
    have coherentNext := step_coherent backend tables (singleStep maxAttempts errors first) coherent
    have validRest : ∀ other ∈ rest, validateKey other.1.key = none :=
      fun other inside => valid other (.tail _ inside)
    have once := singleStep_slice backend maxAttempts errors positive tables coherent.tracked first
      (valid first (.head _))
    rw [List.map_cons, run_cons]
    rcases List.mem_cons.mp member with rfl | inside
    · rw [singles_elsewhere backend maxAttempts errors positive rest _ coherentNext validRest _
        (fun other inside same => fresh (List.mem_map.mpr ⟨other, inside, same⟩)), once,
        if_pos rfl]
    · have apart : single.1.key.identity ≠ first.1.key.identity :=
        fun same => fresh (List.mem_map.mpr ⟨single, inside, same⟩)
      rw [ih _ coherentNext validRest later inside, once, if_neg apart]

theorem attemptCall_outcome (now : Readings) (tables : Tables F) (item : BatchItem F)
    (foreign : ∀ err, errors item.key.identity = some err →
      err.is .fingerprintConflict = false ∧ err.is .attemptsExhausted = false)
    (settled : (tables.slice item.key.identity).attempt item.key item.fingerprint now maxAttempts
      (errors item.key.identity) ≠ none) :
    let call := attemptCall now tables item.key item.fingerprint maxAttempts
      (errors item.key.identity)
    let outcome := outcomeOf tables maxAttempts errors item
    (outcome.outcome, outcome.failureKind) = outcomeOfSingle maxAttempts call.reply call.err ∧
      outcome.attempt = call.reply.attempt := by
  revert settled
  unfold outcomeOf Slice.attempt
  simp only [attemptCall]
  cases (tables.slice item.key.identity).verdict item.key item.fingerprint maxAttempts with
  | conflict => exact fun _ => ⟨rfl, rfl⟩
  | duplicate count => exact fun _ => ⟨rfl, rfl⟩
  | closed kind count =>
    by_cases counted : 0 < count
    · simp only [counted, dif_pos, attemptOutcome]
      cases kind <;> exact fun _ => ⟨rfl, trivial⟩
    · exact fun settled => absurd (dif_neg counted) settled
  | admitted count =>
    intro _
    cases error : errors item.key.identity with
    | none => exact ⟨rfl, rfl⟩
    | some err =>
      obtain ⟨unconflicted, unexhausted⟩ := foreign err error
      cases permanent : err.isPermanent <;> cases delay : err.deferDelay <;>
        cases retry : err.retryDelay <;>
        by_cases last : maxAttempts ≤ count + 1 <;>
        simp [attemptOutcome, classify, outcomeOfSingle, attemptAfter, isDeferral, permanent,
          delay, retry, last, unconflicted, unexhausted]

omit [LinearOrder F] [Sha256 F] in
theorem validateItems_accepts (consumerID : String) (items : List (BatchItem F))
    (valid : ∀ item ∈ items, validateKey item.key = none)
    (consumers : ∀ item ∈ items, item.key.consumerID = consumerID)
    (distinct : (items.map (fun item => item.key.identity)).Nodup) (index : Nat)
    (generations : List (BatchItemKey × String))
    (fresh : ∀ item ∈ items, generations.lookup (batchKey item.key) = none) :
    validateItems consumerID index generations items = none := by
  induction items generalizing index generations with
  | nil => rfl
  | cons item rest ih =>
    obtain ⟨single, later⟩ := List.nodup_cons.mp distinct
    have consumer := consumers item (.head _)
    simp only [validateItems, valid item (.head _), consumer, ne_eq, not_true_eq_false,
      if_false, fresh item (.head _)]
    apply ih (fun other inside => valid other (.tail _ inside))
      (fun other inside => consumers other (.tail _ inside)) later
    intro other inside
    have apart : batchKey other.key ≠ batchKey item.key := by
      intro same
      have equal : other.key.identity = item.key.identity := by
        rw [← identityOf_batchKey consumerID _ consumer, ← same,
          identityOf_batchKey consumerID _ (consumers other (.tail _ inside))]
      exact single (List.mem_map.mpr ⟨other, inside, equal⟩)
    rw [List.lookup_cons, beq_false_of_ne apart]
    exact fresh other (.tail _ inside)

/-- For every reachable state, limit, list of items of one consumer with distinct
identities and error for each identity that wraps none of the store's own: a batch
whose handler returns those errors leaves the tables that the single calls leave
in any order, up to timestamps, and reports for each item what its single call
returns, unless an item shows a collision of the digest. -/
theorem batch_is_fold (backend : Backend) (earlier : List (Step F)) (now : Readings)
    (consumerID : String) (items : List (BatchItem F)) (maxAttempts : Nat)
    (errors : Identity → Option GoError) (handler : BatchHandler F)
    (positive : 0 < maxAttempts) (valid : ∀ item ∈ items, validateKey item.key = none)
    (consumers : ∀ item ∈ items, item.key.consumerID = consumerID)
    (distinct : (items.map (fun item => item.key.identity)).Nodup)
    (foreign : ∀ id err, errors id = some err →
      err.is .fingerprintConflict = false ∧ err.is .attemptsExhausted = false)
    (answers : AnswersWith handler errors) :
    let tables := run backend (Tables.empty F) earlier
    let batch := Store.processBatchAttempt backend now tables items maxAttempts handler
    Collision "" (earlier ++ [⟨.processBatchAttempt items maxAttempts handler, now, .asDecided⟩]) ∨
    (items ≠ [] → batch.err = none) ∧ batch.reply.items.length = items.length ∧
    ∀ singles : List (BatchItem F × Readings), (singles.map Prod.fst).Perm items →
      (∀ id, (batch.tables.slice id).untimed =
        ((run backend tables (singles.map (singleStep maxAttempts errors))).slice id).untimed) ∧
      ∀ before single after, singles = before ++ single :: after → ∀ index : Nat,
        items[index]? = some single.1 →
        let call := Store.processAttempt backend single.2
          (run backend tables (before.map (singleStep maxAttempts errors))) single.1.key
          single.1.fingerprint maxAttempts (errors single.1.key.identity)
        ∃ outcome : BatchItemOutcome F, batch.reply.items[index]? = some outcome ∧
          outcome.key = single.1.key ∧
          (outcome.outcome, outcome.failureKind) = outcomeOfSingle maxAttempts call.reply call.err ∧
          outcome.attempt = call.reply.attempt := by
  intro tables batch
  refine or_iff_not_imp_left.mpr fun clear => ?_
  have separates := fun taken member => (separates_of_no_collision clear taken member).1
  have empty : (Tables.empty F).Coherent := fun _ => coherent_empty
  have coherent : tables.Coherent := run_coherent backend earlier _ empty
  have apart : tables.Apart := run_apart backend earlier _ empty (fun _ => apart_empty)
    (fun taken member => separates taken (List.mem_append_left _ member))
  obtain ⟨committed, report, rows, others⟩ := runBatch_distinct consumerID now tables items
    maxAttempts errors handler coherent apart positive consumers valid distinct answers
    (separates _ (List.mem_append_right _ (.head _)))
  have performed : items ≠ [] → batch =
      runBatch (referenceStatements consumerID) now tables items maxAttempts handler := by
    intro nonempty
    rw [← processBatchAttempt_eq backend now tables consumerID items maxAttempts handler consumers]
    change Store.processBatchAttempt backend now tables items maxAttempts handler = _
    cases items with
    | nil => exact absurd rfl nonempty
    | cons first rest =>
      have accepted := validateItems_accepts first.key.consumerID (first :: rest) valid
        (fun item member => (consumers item member).trans
          (consumers first (.head _)).symm) distinct 0 [] (fun _ _ => rfl)
      simp only [Store.processBatchAttempt, if_neg positive.ne', accepted]
  -- An empty batch is refused, and there are no single calls to compare it with.
  by_cases empty : items = []
  · subst empty
    refine ⟨fun nonempty => absurd rfl nonempty, rfl, fun singles perm => ?_⟩
    obtain rfl := List.map_eq_nil_iff.mp perm.eq_nil
    refine ⟨fun _ => rfl, fun before single after split => ?_⟩
    exact absurd split.symm (List.append_ne_nil_of_right_ne_nil _ (List.cons_ne_nil _ _))
  · rw [performed empty]
    refine ⟨fun _ => committed, by rw [report, List.length_map], fun singles perm => ?_⟩
    have listed : ∀ single ∈ singles, single.1 ∈ items :=
      fun single member => perm.mem_iff.mp (List.mem_map_of_mem member)
    have validSingles : ∀ single ∈ singles, validateKey single.1.key = none :=
      fun single member => valid single.1 (listed single member)
    have distinctSingles : (singles.map (fun single => single.1.key.identity)).Nodup := by
      have moved := (perm.map (fun item => item.key.identity)).nodup_iff.mpr distinct
      rw [List.map_map] at moved
      exact moved
    refine ⟨fun id => ?_, fun before single after split index found => ?_⟩
    -- The rows of an identity: the call that names it writes them, or none does.
    · by_cases named : ∃ single ∈ singles, single.1.key.identity = id
      · obtain ⟨single, member, rfl⟩ := named
        have attempted := rows single.1 (listed single member)
        have same := (tables.slice single.1.key.identity).attempt_untimed single.1.key
          single.1.fingerprint now maxAttempts single.2 (errors single.1.key.identity)
        rw [attempted, Option.map_some] at same
        obtain ⟨next, settled, equal⟩ := Option.map_eq_some_iff.mp same.symm
        rw [singles_here backend maxAttempts errors positive singles tables coherent validSingles
          distinctSingles single member, settled, Option.getD_some, equal]
      · rw [singles_elsewhere backend maxAttempts errors positive singles
          tables coherent validSingles
          id (fun single member same => named ⟨single, member, same⟩), others id]
        intro item member same
        obtain ⟨single, inside, rfl⟩ := List.mem_map.mp (perm.mem_iff.mpr member)
        exact named ⟨single, inside, same⟩
    · intro call
      subst split
      have member : single ∈ before ++ single :: after :=
        List.mem_append_right _ (.head _)
      have earlierSingles : ∀ other ∈ before, validateKey other.1.key = none :=
        fun other inside => validSingles other (List.mem_append_left _ inside)
      -- The calls before this one name other identities, so it reads the rows the batch read.
      have untouched := singles_elsewhere backend maxAttempts errors positive before tables coherent
        earlierSingles single.1.key.identity (by
          intro other inside same
          rw [List.map_append, List.map_cons] at distinctSingles
          have apart := (List.nodup_append.mp distinctSingles).2.2
          exact apart _ (List.mem_map_of_mem inside) _ (.head _) same)
      have reached :=
        run_coherent backend (before.map (singleStep maxAttempts errors)) tables coherent
      have performedSingle := processAttempt_valid backend maxAttempts positive single.2 _
        reached.tracked single.1 (validSingles single member) (errors single.1.key.identity)
      have settled : (tables.slice single.1.key.identity).attempt single.1.key single.1.fingerprint
          single.2 maxAttempts (errors single.1.key.identity) ≠ none := by
        intro refused
        have same := (tables.slice single.1.key.identity).attempt_untimed single.1.key
          single.1.fingerprint now maxAttempts single.2 (errors single.1.key.identity)
        rw [rows single.1 (listed single member), refused] at same
        cases same
      rw [← untouched] at settled
      have outcome := attemptCall_outcome maxAttempts errors single.2 _ single.1
        (fun err => foreign _ err) settled
      rw [← performedSingle] at outcome
      have unchanged : outcomeOf (run backend tables (before.map (singleStep maxAttempts errors)))
          maxAttempts errors single.1 = outcomeOf tables maxAttempts errors single.1 := by
        rw [outcomeOf, outcomeOf, untouched]
      rw [unchanged] at outcome
      refine ⟨outcomeOf tables maxAttempts errors single.1, ?_, attemptOutcome_key .., outcome⟩
      rw [report, List.getElem?_map, found]
      rfl

end Committed

def sampleItems : List (BatchItem Preimage) :=
  [⟨sampleKey, ⟨[1]⟩⟩, ⟨{ sampleKey with messageID := 2 }, ⟨[2]⟩⟩]

def sampleErrors (id : Identity) : Option GoError :=
  if id.messageID = 2 then some (.permanent (.text "bad")) else none

def sampleHandler : BatchHandler Preimage := fun given =>
  (given.map (fun item => ⟨batchKey item.key, sampleErrors item.key.identity⟩), none)

/-- One success and one permanent failure, as a batch and singly in reverse. -/
theorem batch_is_fold_reversed :
    let batch := Store.processBatchAttempt .sqlite sampleReadings
      (Tables.empty Preimage) sampleItems
      3 sampleHandler
    let singles := sampleItems.reverse.map (fun item => singleStep 3 sampleErrors (item, .zero))
    batch.err = none ∧ ∀ id, (batch.tables.slice id).untimed =
      ((run .sqlite (Tables.empty Preimage) singles).slice id).untimed := by
  intro batch singles
  have folded := (batch_is_fold .sqlite [] sampleReadings "orders" sampleItems 3
    sampleErrors sampleHandler (by decide) (by decide) (by decide) (by decide)
    (fun id err found => by
      unfold sampleErrors at found
      split at found
      · rw [← Option.some.inj found]
        decide
      · cases found)
    (fun given => ⟨rfl, List.Perm.refl _⟩)).resolve_left (by unfold Collision; decide)
  refine ⟨folded.1 (by decide), ?_⟩
  have moved := (folded.2.2 (sampleItems.reverse.map (fun item => (item, Readings.zero)))
    (by rw [List.map_map]; exact (List.map_id _).symm ▸ List.reverse_perm sampleItems)).1
  rw [List.map_map] at moved
  exact moved

end Gomessenger.Inbox
