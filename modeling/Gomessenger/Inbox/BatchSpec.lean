import Gomessenger.Inbox.BatchCover

/-! What a batch does to each identity: the attempt of its lead item. -/

namespace Gomessenger.Inbox

open LocalAction

section Outcomes

variable {F : Type}

def Verdict.admits : Verdict → Bool
  | .admitted _ => true
  | _ => false

/-- The reported outcome of an item, by its verdict and the handler's error. -/
def attemptOutcome (verdict : Verdict) (item : BatchItem F) (maxAttempts : Nat)
    (err : Option GoError) : BatchItemOutcome F :=
  match verdict with
  | .conflict =>
    ⟨item.key, item.fingerprint, .dlq, 0, false, 0, some .identityConflict,
      some (.sentinel .fingerprintConflict)⟩
  | .duplicate count => ⟨item.key, item.fingerprint, .ack, count, true, 0, none, none⟩
  | .closed kind count =>
    ⟨item.key, item.fingerprint, .dlq, count, false, 0,
      some kind.failureKind, some kind.closedError⟩
  | .admitted count =>
    match classify err with
    | (.deferred, delay) => ⟨item.key, item.fingerprint, .defer, count, false, delay, none, err⟩
    | (.success, delay) => ⟨item.key, item.fingerprint, .ack, count + 1, false, delay, none, err⟩
    | (.permanent, _) =>
      ⟨item.key, item.fingerprint, .dlq, count + 1, false, 0, some .permanent, err⟩
    | (.retryAfter, delay) | (.ordinary, delay) =>
      if maxAttempts ≤ count + 1 then
        ⟨item.key, item.fingerprint, .dlq, count + 1, false, 0, some .attemptsExhausted, err⟩
      else ⟨item.key, item.fingerprint, .retry, count + 1, false, delay, none, err⟩

variable (verdict : Verdict) (item : BatchItem F)

theorem attemptOutcome_key (maxAttempts : Nat)
    (err : Option GoError) : (attemptOutcome verdict item maxAttempts err).key = item.key := by
  unfold attemptOutcome
  split <;> try rfl
  split <;> try rfl
  all_goals split <;> rfl

theorem attemptOutcome_fingerprint (maxAttempts : Nat) (err : Option GoError) :
    (attemptOutcome verdict item maxAttempts err).fingerprint = item.fingerprint := by
  unfold attemptOutcome
  split <;> try rfl
  split <;> try rfl
  all_goals split <;> rfl

/-- What decides the rows an outcome writes; the duplicate flag does not. -/
structure SameDecision (left right : BatchItemOutcome F) : Prop where
  key : left.key = right.key
  fingerprint : left.fingerprint = right.fingerprint
  outcome : left.outcome = right.outcome
  attempt : left.attempt = right.attempt
  failureKind : left.failureKind = right.failureKind

def Neutral (outcome : BatchItemOutcome F) : Prop :=
  terminalKind? outcome = none ∧ ¬ (outcome.outcome = .defer ∧ outcome.attempt = 0)

theorem conflictOutcome_neutral (entry : BatchPreparedItem F) : Neutral (conflictOutcome entry) :=
  ⟨rfl, fun deferred => by cases deferred.1⟩

theorem SameDecision.terminalKind {left right : BatchItemOutcome F}
    (same : SameDecision left right) : terminalKind? left = terminalKind? right := by
  simp only [terminalKind?, same.outcome, same.failureKind]

variable [LinearOrder F] [Sha256 F]

section Rows

variable (tables : Tables F) (items : List (BatchItemOutcome F)) (time : Time) (id : Identity)
variable (decision : BatchItemOutcome F)
variable (uniform : ∀ item ∈ items, item.key.identity = id → Neutral item ∨
    SameDecision item decision)
variable (present : ∃ item ∈ items, item.key.identity = id ∧ SameDecision item decision)

omit [Sha256 F] in
theorem Slice.insertDeferred_idempotent (slice : Slice F) (generation : String) (attempt : F) :
    (slice.insertDeferred generation attempt time).insertDeferred generation attempt time =
      slice.insertDeferred generation attempt time := by
  unfold Slice.insertDeferred Slice.readCounter Slice.insertCounter
  by_cases legacy : generation = ""
  · cases found : slice.legacy <;> simp [legacy, found]
  · cases found : slice.generations attempt <;> simp [legacy, found]

include uniform present in
theorem preserveDeferred_slice : (preserveDeferred tables items time).slice id =
      if decision.outcome = .defer ∧ decision.attempt = 0 then
        (tables.slice id).insertDeferred decision.key.attemptGeneration
          (attemptFingerprint decision.key.attemptGeneration decision.fingerprint) time
      else tables.slice id := by
  have folded := foldl_view (fun item : BatchItemOutcome F => item.key.identity)
    (fun item current => preserveDeferredItem time current item)
    (fun item (slice : Slice F) => slice.insertDeferred item.key.attemptGeneration
      (attemptFingerprint item.key.attemptGeneration item.fingerprint) time)
    (firstDeferrals items) (fun item _ => preserveDeferredItem_acts time item) tables id
  have decided : ∀ item ∈ fibre (fun item : BatchItemOutcome F => item.key.identity)
      (firstDeferrals items) id, SameDecision item decision := by
    intro item member
    obtain ⟨inside, same⟩ := (mem_fibre _ _ _ _).mp member
    obtain ⟨reported, deferred⟩ := (mem_firstDeferrals items item).mp inside
    exact (uniform item reported same).resolve_left (fun neutral => neutral.2 deferred)
  rw [foldl_idempotent _ (fun slice : Slice F => slice.insertDeferred decision.key.attemptGeneration
      (attemptFingerprint decision.key.attemptGeneration decision.fingerprint) time) _
    (fun item member => by rw [(decided item member).key, (decided item member).fingerprint])
    (fun slice => slice.insertDeferred_idempotent time _ _)] at folded
  rw [preserveDeferred_eq]
  refine folded.trans ?_
  by_cases deferred : decision.outcome = .defer ∧ decision.attempt = 0
  · obtain ⟨item, reported, same, equal⟩ := present
    have chosen : item ∈ fibre (fun item : BatchItemOutcome F => item.key.identity)
        (firstDeferrals items) id := by
      refine (mem_fibre _ _ _ _).mpr ⟨(mem_firstDeferrals items item).mpr ⟨reported, ?_⟩, same⟩
      rw [equal.outcome, equal.attempt]
      exact deferred
    rw [if_pos deferred, if_neg (by
      rw [List.isEmpty_iff]
      exact List.ne_nil_of_mem chosen)]
  · have none : fibre (fun item : BatchItemOutcome F => item.key.identity)
        (firstDeferrals items) id = [] := by
      apply List.eq_nil_iff_forall_not_mem.mpr
      intro item member
      have equal := decided item member
      have first := ((mem_firstDeferrals items item).mp ((mem_fibre _ _ _ _).mp member).1).2
      rw [equal.outcome, equal.attempt] at first
      exact deferred first
    rw [if_neg deferred, none]
    rfl

variable (recorded : Tables F)

include uniform present in
theorem record_slice (accepted : record tables items time = .ok recorded) : recorded.slice id =
      match terminalKind? decision with
      | none => tables.slice id
      | some kind => (tables.slice id).recordItem time (decision, kind) := by
  rw [record_eq] at accepted
  split at accepted
  · simp only [Except.ok.injEq] at accepted
    have folded :=
      foldl_view (fun entry : BatchItemOutcome F × TerminalKind => entry.1.key.identity)
      (fun entry current => recordItem time current entry) (Slice.recordItem time)
      (terminalItems [] items) (fun entry _ => recordItem_acts time entry) tables id
    rw [← accepted]
    refine folded.trans ?_
    have decided : ∀ entry ∈ fibre (fun entry : BatchItemOutcome F ×
      TerminalKind => entry.1.key.identity)
        (terminalItems [] items) id,
        SameDecision entry.1 decision ∧ terminalKind? decision = some entry.2 := by
      intro entry member
      obtain ⟨inside, same⟩ := (mem_fibre _ _ _ _).mp member
      obtain ⟨reported, closes, _⟩ := mem_terminalItems [] items entry.1 entry.2 inside
      have equal := (uniform entry.1 reported same).resolve_left
        (fun neutral => by rw [neutral.1] at closes; cases closes)
      exact ⟨equal, equal.terminalKind ▸ closes⟩
    have slots : ∀ entry ∈ fibre (fun entry : BatchItemOutcome F ×
      TerminalKind => entry.1.key.identity)
        (terminalItems [] items) id, entry.1.attemptSlot = decision.attemptSlot := by
      intro entry member
      have equal := (decided entry member).1
      rw [BatchItemOutcome.attemptSlot, BatchItemOutcome.attemptSlot, equal.key, equal.fingerprint]
    have distinct : ((fibre (fun entry : BatchItemOutcome F × TerminalKind => entry.1.key.identity)
        (terminalItems [] items) id).map (fun entry => entry.1.attemptSlot)).Nodup :=
      (terminalItems_slots [] items).sublist (List.filter_sublist.map _)
    cases chosen : fibre (fun entry : BatchItemOutcome F × TerminalKind => entry.1.key.identity)
        (terminalItems [] items) id with
    -- No terminal item of this identity was written, so its decision closes nothing.
    | nil =>
      cases closes : terminalKind? decision with
      | none => rfl
      | some kind =>
        obtain ⟨item, reported, same, equal⟩ := present
        obtain ⟨entry, inside, slot⟩ := terminalItems_covers [] items item kind reported
          (equal.terminalKind.trans closes) List.not_mem_nil
        have identity : entry.1.key.identity = item.key.identity :=
          ((slot_inj _ _ _ _).mp slot).1
        have member := (mem_fibre (fun entry : BatchItemOutcome F × TerminalKind =>
          entry.1.key.identity) (terminalItems [] items) id entry).mpr ⟨inside, identity.trans same⟩
        rw [chosen] at member
        exact absurd member List.not_mem_nil
    | cons entry rest =>
      obtain ⟨equal, closes⟩ := decided entry (chosen ▸ List.mem_cons_self ..)
      -- All of them write one slot, and a slot is written once.
      have only : rest = [] := by
        cases rest with
        | nil => rfl
        | cons other later =>
          rw [chosen] at distinct slots
          have first := slots entry (.head _)
          have second := slots other (List.mem_cons_of_mem _ (.head _))
          have apart := (List.nodup_cons.mp distinct).1
          exact absurd (List.mem_map.mpr ⟨other, List.mem_cons_self ..,
            second.trans first.symm⟩) apart
      rw [closes, only]
      simp [Slice.recordItem, equal.attempt, equal.key, equal.fingerprint]
  · cases accepted

include uniform present in
theorem record_counted (accepted : record tables items time = .ok recorded)
    (kind : TerminalKind) (closes : terminalKind? decision = some kind) : 0 < decision.attempt := by
  rw [record_eq] at accepted
  split at accepted
  · rename_i counted
    obtain ⟨item, reported, same, equal⟩ := present
    obtain ⟨entry, inside, slot⟩ := terminalItems_covers [] items item kind reported
      (equal.terminalKind.trans closes) List.not_mem_nil
    have identity : entry.1.key.identity = id := ((slot_inj _ _ _ _).mp slot).1.trans same
    obtain ⟨listed, entryCloses, _⟩ := mem_terminalItems [] items entry.1 entry.2 inside
    have decided := (uniform entry.1 listed identity).resolve_left
      (fun neutral => by rw [neutral.1] at entryCloses; cases entryCloses)
    rw [← decided.attempt]
    exact of_decide_eq_true (List.all_eq_true.mp counted entry inside)
  · cases accepted

theorem record_elsewhere (accepted : record tables items time = .ok recorded)
    (absent : ∀ item ∈ items, item.key.identity ≠ id) : recorded.slice id = tables.slice id := by
  rw [record_eq] at accepted
  split at accepted
  · simp only [Except.ok.injEq] at accepted
    rw [← accepted]
    exact foldl_view_of_notMem (fun entry : BatchItemOutcome F ×
      TerminalKind => entry.1.key.identity)
      (fun entry current => recordItem time current entry) (Slice.recordItem time)
      (terminalItems [] items) (fun entry _ => recordItem_acts time entry) tables id
      (fun entry inside => absent entry.1 (mem_terminalItems [] items entry.1 entry.2 inside).1)
  · cases accepted

theorem preserveDeferred_elsewhere (absent : ∀ item ∈ items, item.key.identity ≠ id) :
    (preserveDeferred tables items time).slice id = tables.slice id := by
  rw [preserveDeferred_eq]
  exact foldl_view_of_notMem (fun item : BatchItemOutcome F => item.key.identity)
    (fun item current => preserveDeferredItem time current item)
    (fun item (slice : Slice F) => slice.insertDeferred item.key.attemptGeneration
      (attemptFingerprint item.key.attemptGeneration item.fingerprint) time)
    (firstDeferrals items) (fun item _ => preserveDeferredItem_acts time item) tables id
    (fun item inside => absent item ((mem_firstDeferrals items item).mp inside).1)

end Rows

section Groups

variable (consumerID : String) {entries : List (BatchPreparedItem F)} {groups : List (BatchGroup F)}
variable (now : Readings) (tables : Tables F) (maxAttempts : Nat)

/-- The lead item of a group, given the rows its identity had. -/
def leadOf (now : Readings) (slice : Slice F) (group : BatchGroup F) : Option (MatchedGroup F) :=
  matchGroup (lockedRow now slice group).fingerprint group

def MatchedGroup.counted (slice : Slice F) (matched : MatchedGroup F) : MatchedGroup F :=
  { matched with state := slice.state matched.lead.item.key matched.lead.item.fingerprint }

variable (slice : Slice F) (group : BatchGroup F) (matched : MatchedGroup F)

omit [Sha256 F] in
theorem leadOf_fingerprint (lead : leadOf now slice group = some matched) :
    matched.lead.item.fingerprint = (lockedRow now slice group).fingerprint :=
  (matchGroup_mem _ _ _ lead _ (.head _)).2

omit [Sha256 F] in
theorem leadOf_key (lead : leadOf now slice group = some matched) : matched.key = group.key :=
  congrArg BatchGroup.key (matchGroup_lead _ _ _ lead).1

omit [Sha256 F] in
theorem leadOf_fresh (fresh : slice.identity = none) : ∃ matched,
    leadOf now slice group = some matched := by
  have first : (lockedRow now slice group).fingerprint = group.front.item.fingerprint := by
    simp [lockedRow, fresh]
  unfold leadOf matchGroup
  rw [first]
  simp [BatchGroup.entries]

theorem verdict_lead (lead : leadOf now slice group = some matched) :
    slice.verdict matched.lead.item.key matched.lead.item.fingerprint maxAttempts =
      if (lockedRow now slice group).completedAt ≠ none then
        .duplicate (matched.counted slice).state.attempt
      else slice.pending matched.lead.item.key matched.lead.item.fingerprint maxAttempts := by
  have stored := leadOf_fingerprint now slice group matched lead
  unfold lockedRow at stored ⊢
  unfold Slice.verdict
  cases found : slice.identity with
  | none => simp
  | some row =>
    rw [found, Option.getD_some] at stored
    simp [stored, MatchedGroup.counted]

theorem readGroup_state (grouped : GroupsOf entries groups)
    (group : BatchGroup F) (member : group ∈ groups) (matched : MatchedGroup F)
    (lead : leadOf now (tables.slice (identityOf consumerID group.key)) group = some matched) :
    (readGroup (Pgsql.insertBatchIdentities now tables consumerID groups) consumerID matched).getD
      noAttempt =
      (matched.counted (tables.slice (identityOf consumerID group.key))).state := by
  have same := (matchGroup_lead _ _ _ lead).1
  have inserted := insertBatchIdentities_slice consumerID now tables grouped group member
  have unread := Slice.insertIdentity_state (tables.slice (identityOf consumerID group.key))
    matched.lead.item.key matched.lead.item.fingerprint now.created group.front.item.fingerprint
  rw [readGroup, readAttempt_slice, same, inserted]
  exact unread

theorem decideEntries_eq (grouped : GroupsOf entries groups) (group : BatchGroup F)
    (member : group ∈ groups) :
    decideEntries (Pgsql.insertBatchIdentities now tables consumerID groups)
      consumerID maxAttempts group =
      let slice := tables.slice (identityOf consumerID group.key)
      let conflicts := assignConflicts (lockedRow now slice group).fingerprint group
      match leadOf now slice group with
      | none => (conflicts, [])
      | some matched =>
        let verdict := slice.verdict matched.lead.item.key matched.lead.item.fingerprint maxAttempts
        if verdict.admits then (conflicts, [matched.counted slice])
        else (conflicts ++ assignBatchOutcome matched
          (attemptOutcome verdict matched.lead.item maxAttempts none), []) := by
  have found := insertBatchIdentities_find consumerID now tables grouped group member
  simp only [decideEntries, found]
  cases lead : leadOf now (tables.slice (identityOf consumerID group.key)) group with
  | none =>
    rw [leadOf] at lead
    simp only [lead]
  | some matched =>
    have state := readGroup_state consumerID now tables grouped group member matched lead
    have verdict := verdict_lead now maxAttempts _ group matched lead
    rw [leadOf] at lead
    simp only [lead, state, verdict, decideGroup]
    generalize tables.slice (identityOf consumerID group.key) = slice
    by_cases completed : (lockedRow now slice group).completedAt ≠ none
    · simp only [if_pos completed]
      rfl
    · simp only [if_neg completed, Slice.pending]
      have counted : (matched.counted slice).state =
          slice.state matched.lead.item.key matched.lead.item.fingerprint := rfl
      rw [← counted]
      cases closed : (matched.counted slice).state.closed maxAttempts with
      | false => simp [Verdict.admits, MatchedGroup.counted]
      | true =>
        simp only [if_true, Verdict.admits, Bool.false_eq_true, if_false, attemptOutcome,
          closedOutcome, AttemptState.closedKind]
        cases permanent : (matched.counted slice).state.closedPermanent <;>
          simp [TerminalKind.failureKind, TerminalKind.closedError,
            assignBatchOutcome, MatchedGroup.counted]

theorem countOf_inserted (grouped : GroupsOf entries groups) (group : BatchGroup F)
    (member : group ∈ groups) (matched : MatchedGroup F)
    (lead : leadOf now (tables.slice (identityOf consumerID group.key)) group = some matched) :
    countOf (Pgsql.insertBatchIdentities now tables consumerID groups) consumerID
        (matched.counted (tables.slice (identityOf consumerID group.key))) =
      (matched.counted (tables.slice (identityOf consumerID group.key))).state.attempt := by
  have state := readGroup_state consumerID now tables grouped group member matched lead
  have counted := ((Pgsql.insertBatchIdentities now tables consumerID groups).slice
    (identityOf consumerID matched.key)).readAttempt_count matched.generation matched.attempt
  rw [← readAttempt_slice, ← readCounter_slice] at counted
  rw [← state, readGroup]
  change Option.getD (Option.map CounterRow.attempts _) 0 = _
  change Option.getD (Option.map CounterRow.attempts
    ((Pgsql.insertBatchIdentities now tables consumerID groups).readCounter
      (identityOf consumerID matched.key) matched.generation matched.attempt)) 0 = _
  rw [← counted]
  cases (Pgsql.insertBatchIdentities now tables consumerID groups).readAttempt
    (identityOf consumerID matched.key) matched.generation matched.attempt <;> rfl

omit [LinearOrder F] [Sha256 F] in
theorem settledOutcome_eq (attempts : List (BatchItemKey × Nat))
    (group : MatchedGroup F) (err : Option GoError)
    (counted : (classify err).1 ≠ .deferred → attempts.lookup group.key =
      some (group.state.attempt + 1)) :
    settledOutcome maxAttempts attempts group err =
      attemptOutcome (.admitted group.state.attempt) group.lead.item maxAttempts err := by
  unfold settledOutcome attemptOutcome
  cases classified : classify err with
  | mk kind delay =>
    cases kind with
    | deferred => rfl
    | success | permanent | retryAfter | ordinary =>
      rw [counted (by simp [classified])]
      rfl

theorem Slice.verdict_admitted (key : Key) (fingerprint : F)
    (admitted : (slice.verdict key fingerprint maxAttempts).admits = true) :
    slice.verdict key fingerprint maxAttempts = .admitted
      (slice.state key fingerprint).attempt := by
  unfold Slice.verdict Slice.pending at admitted ⊢
  split
  · split
    · simp_all [Verdict.admits]
    · rfl
  · split
    · simp_all [Verdict.admits]
    · split
      · simp_all [Verdict.admits]
      · split
        · simp_all [Verdict.admits]
        · rfl

omit [LinearOrder F] [Sha256 F] in
theorem attemptOutcome_unadmitted (verdict : Verdict) (item : BatchItem F) (err : Option GoError)
    (refused : verdict.admits = false) :
    attemptOutcome verdict item maxAttempts err = attemptOutcome verdict item maxAttempts none := by
  cases verdict <;> first | rfl | cases refused

/-- An assignment of the finished report that belongs to a group. -/
def GroupAssigns (now : Readings) (maxAttempts : Nat)
    (settled : List (MatchedGroup F × Option GoError)) (slice : Slice F) (group : BatchGroup F)
    (index : Nat) (outcome : BatchItemOutcome F) : Prop :=
  (∃ entry ∈ group.entries, entry.item.fingerprint ≠ (lockedRow now slice group).fingerprint ∧
    index = entry.index ∧ outcome = conflictOutcome entry) ∨
  ∃ matched err, leadOf now slice group = some matched ∧
    ((slice.verdict matched.lead.item.key matched.lead.item.fingerprint maxAttempts).admits = true →
      (matched.counted slice, err) ∈ settled) ∧
    (index, outcome) ∈ assignBatchOutcome matched (attemptOutcome
      (slice.verdict matched.lead.item.key matched.lead.item.fingerprint maxAttempts)
      matched.lead.item maxAttempts err)

def finalAssignments (now : Readings) (tables : Tables F) (consumerID : String)
    (groups : List (BatchGroup F)) (maxAttempts : Nat)
    (settled : List (MatchedGroup F × Option GoError)) : Assignments F :=
  let prepared := referencePrepared now tables consumerID groups maxAttempts
  prepared.assigned ++ settled.flatMap (fun entry => assignBatchOutcome entry.1
    (settledOutcome maxAttempts ((consumingGroups settled).map
      (fun group => (group.key, countOf prepared.tables consumerID group + 1))) entry.1 entry.2))

section Settled

variable (settled : List (MatchedGroup F × Option GoError))
variable (active : (settled.map Prod.fst).Perm
    (referencePrepared now tables consumerID groups maxAttempts).active)
variable (grouped : GroupsOf entries groups)
variable (consumers : ∀ entry ∈ entries, entry.item.key.consumerID = consumerID)

variable (entry : MatchedGroup F × Option GoError)

include active grouped in
theorem settled_lead (member : entry ∈ settled) : ∃ group ∈ groups, ∃ matched,
      leadOf now (tables.slice (identityOf consumerID group.key)) group = some matched ∧
      ((tables.slice (identityOf consumerID group.key)).verdict matched.lead.item.key
        matched.lead.item.fingerprint maxAttempts).admits = true ∧
      entry.1 = matched.counted (tables.slice (identityOf consumerID group.key)) := by
  have inside : entry.1 ∈ (referencePrepared now tables consumerID groups maxAttempts).active :=
    active.mem_iff.mp (List.mem_map_of_mem member)
  obtain ⟨group, present, picked⟩ := List.mem_flatMap.mp inside
  rw [decideEntries_eq consumerID now tables maxAttempts grouped group present] at picked
  refine ⟨group, present, ?_⟩
  cases lead : leadOf now (tables.slice (identityOf consumerID group.key)) group with
  | none =>
    simp only [lead] at picked
    exact absurd picked List.not_mem_nil
  | some matched =>
    simp only [lead] at picked
    split at picked
    · rename_i admitted
      exact ⟨matched, rfl, admitted, List.mem_singleton.mp picked⟩
    · exact absurd picked List.not_mem_nil

include active grouped in
theorem settled_key (member : entry ∈ settled) : ∃ group ∈ groups, entry.1.key = group.key := by
  obtain ⟨group, present, matched, lead, _, equal⟩ := settled_lead consumerID now tables maxAttempts
    settled active grouped entry member
  refine ⟨group, present, ?_⟩
  rw [equal]
  exact leadOf_key now _ group matched lead

include active grouped in
theorem settled_group (group : BatchGroup F) (present : group ∈ groups)
    (entry : MatchedGroup F × Option GoError) (member : entry ∈ settled)
    (same : entry.1.key = group.key) :
    ∃ matched, leadOf now (tables.slice (identityOf consumerID group.key)) group = some matched ∧
      ((tables.slice (identityOf consumerID group.key)).verdict matched.lead.item.key
        matched.lead.item.fingerprint maxAttempts).admits = true ∧
      entry.1 = matched.counted (tables.slice (identityOf consumerID group.key)) := by
  obtain ⟨other, listed, matched, lead, admitted, equal⟩ := settled_lead consumerID now tables
    maxAttempts settled active grouped entry member
  have key : entry.1.key = other.key := by
    rw [equal]
    exact leadOf_key now _ other matched lead
  obtain rfl := List.inj_on_of_nodup_map grouped.keys listed present (key.symm.trans same)
  exact ⟨matched, lead, admitted, equal⟩

include active grouped in
theorem lead_settled (group : BatchGroup F) (member : group ∈ groups) (matched : MatchedGroup F)
    (lead : leadOf now (tables.slice (identityOf consumerID group.key)) group = some matched)
    (admitted : ((tables.slice (identityOf consumerID group.key)).verdict matched.lead.item.key
      matched.lead.item.fingerprint maxAttempts).admits = true) :
    ∃ err, (matched.counted (tables.slice (identityOf consumerID group.key)), err) ∈ settled := by
  have inside : matched.counted (tables.slice (identityOf consumerID group.key)) ∈
      (referencePrepared now tables consumerID groups maxAttempts).active := by
    refine List.mem_flatMap.mpr ⟨group, member, ?_⟩
    rw [decideEntries_eq consumerID now tables maxAttempts grouped group member]
    simp only [lead, admitted, if_true]
    exact List.mem_singleton.mpr rfl
  obtain ⟨entry, present, same⟩ := List.mem_map.mp (active.mem_iff.mpr inside)
  exact ⟨entry.2, same ▸ present⟩

include active grouped consumers in
theorem settledOutcome_final (member : entry ∈ settled) :
    settledOutcome maxAttempts ((consumingGroups settled).map (fun group => (group.key,
        countOf (Pgsql.insertBatchIdentities now tables consumerID groups) consumerID group + 1)))
        entry.1 entry.2 =
      attemptOutcome (.admitted entry.1.state.attempt) entry.1.lead.item maxAttempts entry.2 := by
  apply settledOutcome_eq
  intro consumed
  have bound : Bound consumerID (settled.map Prod.fst) :=
    (referencePrepared_bound consumerID now tables maxAttempts grouped consumers).perm active.symm
  have consuming : Bound consumerID (consumingGroups settled) :=
    bound.sublist (List.filter_sublist.map Prod.fst)
  have inside : entry.1 ∈ consumingGroups settled :=
    List.mem_map_of_mem (List.mem_filter.mpr ⟨member, by simpa using consumed⟩)
  obtain ⟨group, present, matched, lead, _, same⟩ := settled_lead consumerID now tables maxAttempts
    settled active grouped entry member
  rw [lookup_map_of_mem (fun group => group.key) (fun group => countOf
    (Pgsql.insertBatchIdentities now tables consumerID groups) consumerID group + 1) _
      consuming.keys
    entry.1 inside, same, countOf_inserted consumerID now tables grouped group present matched lead]

include active grouped consumers in
theorem mem_finalAssignments (index : Nat) (outcome : BatchItemOutcome F) :
    (index, outcome) ∈ finalAssignments now tables consumerID groups maxAttempts settled ↔
      ∃ group ∈ groups, GroupAssigns now maxAttempts settled
        (tables.slice (identityOf consumerID group.key)) group index outcome := by
  constructor
  · intro assigned
    -- Decided before the handler runs, or after it with the handler's answer.
    rcases List.mem_append.mp assigned with decided | finished
    · obtain ⟨group, present, inside⟩ := List.mem_flatMap.mp decided
      refine ⟨group, present, ?_⟩
      rw [decideEntries_eq consumerID now tables maxAttempts grouped group present] at inside
      have conflict : (index, outcome) ∈ assignConflicts (lockedRow now
          (tables.slice (identityOf consumerID group.key)) group).fingerprint group →
          GroupAssigns now maxAttempts settled (tables.slice (identityOf consumerID group.key))
            group index outcome := by
        intro conflicting
        obtain ⟨entry, filtered, built⟩ := List.mem_map.mp conflicting
        obtain ⟨listed, different⟩ := List.mem_filter.mp filtered
        obtain ⟨rfl, rfl⟩ := Prod.mk.inj built
        exact .inl ⟨entry, listed, of_decide_eq_true different, rfl, rfl⟩
      cases lead : leadOf now (tables.slice (identityOf consumerID group.key)) group with
      | none =>
        simp only [lead] at inside
        exact conflict inside
      | some matched =>
        simp only [lead] at inside
        split at inside
        · exact conflict inside
        · rename_i refused
          rcases List.mem_append.mp inside with conflicting | outcomes
          · exact conflict conflicting
          · exact .inr ⟨matched, none, lead, fun admitted => absurd admitted refused, outcomes⟩
    · obtain ⟨entry, member, inside⟩ := List.mem_flatMap.mp finished
      obtain ⟨group, present, matched, lead, admitted, same⟩ := settled_lead consumerID now tables
        maxAttempts settled active grouped entry member
      refine ⟨group, present, .inr ⟨matched, entry.2, lead, fun _ => same ▸ member, ?_⟩⟩
      rw [(tables.slice (identityOf consumerID group.key)).verdict_admitted
        maxAttempts _ _ admitted]
      have final := settledOutcome_final consumerID now tables maxAttempts settled active
        grouped consumers entry member
      simp only [referencePrepared] at inside
      rw [final, same] at inside
      exact inside
  · rintro ⟨group, present, assigned⟩
    rcases assigned with
      ⟨entry, listed, different, rfl, rfl⟩ | ⟨matched, err, lead, finished, inside⟩
    · apply List.mem_append_left
      refine List.mem_flatMap.mpr ⟨group, present, ?_⟩
      have conflicting : (entry.index, conflictOutcome entry) ∈ assignConflicts (lockedRow now
          (tables.slice (identityOf consumerID group.key)) group).fingerprint group :=
        List.mem_map.mpr ⟨entry, List.mem_filter.mpr ⟨listed, decide_eq_true different⟩, rfl⟩
      rw [decideEntries_eq consumerID now tables maxAttempts grouped group present]
      cases lead : leadOf now (tables.slice (identityOf consumerID group.key)) group with
      | none =>
        simp only [lead]
        exact conflicting
      | some matched =>
        simp only [lead]
        split
        · exact conflicting
        · exact List.mem_append_left _ conflicting
    · by_cases admitted : ((tables.slice (identityOf consumerID group.key)).verdict
          matched.lead.item.key matched.lead.item.fingerprint maxAttempts).admits = true
      · apply List.mem_append_right
        refine List.mem_flatMap.mpr ⟨_, finished admitted, ?_⟩
        have final := settledOutcome_final consumerID now tables maxAttempts settled active grouped
          consumers _ (finished admitted)
        simp only [referencePrepared]
        rw [final]
        rw [(tables.slice (identityOf consumerID group.key)).verdict_admitted
          maxAttempts _ _ admitted] at inside
        exact inside
      · apply List.mem_append_left
        refine List.mem_flatMap.mpr ⟨group, present, ?_⟩
        rw [decideEntries_eq consumerID now tables maxAttempts grouped group present]
        rw [attemptOutcome_unadmitted maxAttempts _ _ _ (Bool.eq_false_iff.mpr admitted)] at inside
        simp only [lead, if_neg admitted]
        exact List.mem_append_right _ inside

end Settled

end Groups

end Outcomes

end Gomessenger.Inbox
