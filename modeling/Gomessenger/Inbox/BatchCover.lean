import Gomessenger.Inbox.BatchRefinement

/-! The report assigns every input once, and the two backends' batches are one. -/

namespace Gomessenger.Inbox

open LocalAction

section Cover

variable {F : Type} [LinearOrder F] [Sha256 F]
variable (consumerID : String) {entries : List (BatchPreparedItem F)} {groups : List (BatchGroup F)}

def MatchedGroup.indices (group : MatchedGroup F) : List Nat :=
  (group.lead :: group.copies).map BatchPreparedItem.index

omit [LinearOrder F] [Sha256 F] in
theorem assignBatchOutcome_indices (group : MatchedGroup F) (outcome : BatchItemOutcome F) :
    (assignBatchOutcome group outcome).map Prod.fst = group.indices := by
  simp [assignBatchOutcome, MatchedGroup.indices, Function.comp_def]

omit [LinearOrder F] [Sha256 F] in
theorem decideGroup_indices (maxAttempts : Nat) (completedAt : Option Time)
    (group : MatchedGroup F) :
    (decideGroup maxAttempts completedAt group).1.map Prod.fst ++
      (decideGroup maxAttempts completedAt group).2.flatMap
        MatchedGroup.indices = group.indices := by
  unfold decideGroup
  split
  · simp [assignBatchOutcome_indices]
  · split
    · simp [assignBatchOutcome_indices]
    · simp

theorem decideEntries_indices (tables : Tables F) (maxAttempts : Nat)
    (group : BatchGroup F) (row : IdentityRow F)
    (found : tables.inbox.find? (identityOf consumerID group.key) = some row) :
    ((decideEntries tables consumerID maxAttempts group).1.map Prod.fst ++
      (decideEntries tables consumerID maxAttempts group).2.flatMap MatchedGroup.indices).Perm
        (group.entries.map BatchPreparedItem.index) := by
  have conflicts : (assignConflicts row.fingerprint group).map Prod.fst =
      (group.entries.filter (fun entry => !decide (entry.item.fingerprint = row.fingerprint))).map
        BatchPreparedItem.index := by
    simp [assignConflicts, Function.comp_def]
  have parts := (List.perm_append_comm.trans (List.filter_append_perm
    (fun entry => decide (entry.item.fingerprint = row.fingerprint)) group.entries)).map
      BatchPreparedItem.index
  rw [List.map_append] at parts
  simp only [decideEntries, found]
  cases picked : matchGroup row.fingerprint group with
  | none =>
    have unmatched : group.entries.filter (fun entry =>
      decide (entry.item.fingerprint = row.fingerprint)) = [] := by
      unfold matchGroup at picked
      split at picked
      · assumption
      · cases picked
    rw [unmatched, List.map_nil, List.append_nil, ← conflicts] at parts
    simpa using parts
  | some matched =>
    have lead := (matchGroup_lead _ _ _ picked).2
    have decided := decideGroup_indices maxAttempts row.completedAt
      { matched with state := (readGroup tables consumerID matched).getD noAttempt }
    rw [List.map_append, List.append_assoc, decided, conflicts]
    rw [← lead] at parts
    exact parts

theorem decideEntries_pick (tables : Tables F) (maxAttempts : Nat) (group : BatchGroup F) :
    (decideEntries tables consumerID maxAttempts group).2 = [] ∨
      ∃ matched, (decideEntries tables consumerID maxAttempts group).2 = [matched] ∧
        matched.toBatchGroup = group ∧ matched.lead ∈ group.entries := by
  unfold decideEntries
  split
  · exact .inl rfl
  · split
    · exact .inl rfl
    · rename_i row _ _ matched picked
      have same := (matchGroup_lead _ _ _ picked).1
      have lead := (matchGroup_mem _ _ _ picked _ (.head _)).1
      simp only [decideGroup]
      split
      · exact .inl rfl
      · split
        · exact .inl rfl
        · exact .inr ⟨_, rfl, same, lead⟩

theorem referencePrepared_bound (now : Readings) (tables : Tables F) (maxAttempts : Nat)
    (grouped : GroupsOf entries groups)
    (consumers : ∀ entry ∈ entries, entry.item.key.consumerID = consumerID) :
    Bound consumerID (referencePrepared now tables consumerID groups maxAttempts).active :=
  bound_flatMap consumerID entries groups grouped consumers _
    (fun group _ => decideEntries_pick consumerID _ maxAttempts group)

theorem assigned_cover (now : Readings) (tables : Tables F) (maxAttempts : Nat)
    (grouped : GroupsOf entries groups)
    (settled : List (MatchedGroup F × Option GoError))
    (active : (settled.map Prod.fst).Perm
      (referencePrepared now tables consumerID groups maxAttempts).active)
    (outcome : MatchedGroup F × Option GoError → BatchItemOutcome F) :
    (((referencePrepared now tables consumerID groups maxAttempts).assigned ++
      settled.flatMap (fun entry => assignBatchOutcome entry.1 (outcome entry))).map Prod.fst).Perm
        (entries.map BatchPreparedItem.index) := by
  have outcomes : (settled.flatMap (fun entry => assignBatchOutcome entry.1 (outcome entry))).map
      Prod.fst = (settled.map Prod.fst).flatMap MatchedGroup.indices := by
    rw [List.map_flatMap, List.flatMap_map]
    exact List.flatMap_congr (fun entry _ => assignBatchOutcome_indices entry.1 (outcome entry))
  have whole : ((groups.flatMap (fun group => (decideEntries
        (Pgsql.insertBatchIdentities now tables consumerID groups) consumerID maxAttempts
          group).1.map Prod.fst)) ++
      groups.flatMap (fun group => (decideEntries (Pgsql.insertBatchIdentities now tables consumerID
        groups) consumerID maxAttempts group).2.flatMap MatchedGroup.indices)).Perm
      (groups.flatMap (fun group => group.entries.map BatchPreparedItem.index)) := by
    refine (List.flatMap_append_perm groups _ _).trans ?_
    apply List.Perm.flatMap_left
    intro group member
    exact decideEntries_indices consumerID _ maxAttempts group _
      (insertBatchIdentities_find consumerID now tables grouped group member)
  calc
    _ = (referencePrepared now tables consumerID groups maxAttempts).assigned.map Prod.fst ++
          (settled.map Prod.fst).flatMap MatchedGroup.indices := by
      rw [List.map_append, outcomes]
    List.Perm _ ((referencePrepared now tables consumerID groups maxAttempts).assigned.map
      Prod.fst ++
          (referencePrepared now tables consumerID groups maxAttempts).active.flatMap
              MatchedGroup.indices) :=
      List.Perm.append_left _ (active.flatMap_right _)
    List.Perm _ (groups.flatMap (fun group => group.entries.map BatchPreparedItem.index)) := by
      simp only [referencePrepared, List.map_flatMap, List.flatMap_assoc]
      exact whole
    List.Perm _ (entries.map BatchPreparedItem.index) := by
      rw [← List.map_flatMap]
      exact grouped.covers.map _

omit [LinearOrder F] [Sha256 F] in
theorem orderResult_length (byKey : List (BatchItemKey × Option GoError))
    (expected : List BatchItemKey) (ordered : List (Option GoError))
    (accepted : orderResult byKey expected = .ok ordered) : ordered.length = expected.length := by
  induction expected generalizing ordered with
  | nil =>
    simp only [orderResult, Except.ok.injEq] at accepted
    rw [← accepted, List.length_nil, List.length_nil]
  | cons key rest ih =>
    simp only [orderResult] at accepted
    cases found : byKey.lookup key with
    | none =>
      rw [found] at accepted
      cases accepted
    | some err =>
      rw [found] at accepted
      cases later : orderResult byKey rest with
      | error failure =>
        rw [later] at accepted
        cases accepted
      | ok errors =>
        rw [later] at accepted
        simp only [Except.ok.injEq] at accepted
        rw [← accepted, List.length_cons, List.length_cons, ih errors later]

omit [LinearOrder F] [Sha256 F] in
theorem validateResult_length (expected : List BatchItemKey) (result : List BatchItemResult)
    (errors : List (Option GoError)) (accepted : validateResult expected result = .ok errors) :
    errors.length = expected.length := by
  unfold validateResult at accepted
  split at accepted
  · cases accepted
  · split at accepted
    · cases accepted
    · split at accepted
      · cases accepted
      · exact orderResult_length _ expected errors accepted

omit [LinearOrder F] [Sha256 F] in
theorem settledOutcome_congr (maxAttempts : Nat) (left right : List (BatchItemKey × Nat))
    (group : MatchedGroup F) (err : Option GoError)
    (agree : (classify err).1 ≠ .deferred → left.lookup group.key = right.lookup group.key) :
    settledOutcome maxAttempts left group err = settledOutcome maxAttempts right group err := by
  unfold settledOutcome
  cases classified : classify err with
  | mk kind delay =>
    cases kind with
    | deferred => rfl
    | success | permanent | retryAfter | ordinary =>
      rw [agree (by simp [classified])]

omit [LinearOrder F] [Sha256 F] in
theorem reportItems_perm (left right : Assignments F) (perm : left.Perm right)
    (distinct : (left.map Prod.fst).Nodup) : reportItems left = reportItems right := by
  rw [reportItems, reportItems, KeyedTable.ofAssignments_perm left right perm distinct]

variable (now : Readings) (tables : Tables F) (maxAttempts : Nat)
variable (statements : BatchStatements F) (refines : Refines consumerID statements)

include refines in
theorem settleBatch_refines (begun : Tables F) (prepared : PreparedBatch F)
    (assigned : Assignments F) (perm : assigned.Perm prepared.assigned)
    (settled : List (MatchedGroup F × Option GoError))
    (bound : Bound consumerID (settled.map Prod.fst))
    (distinct : ∀ outcome : MatchedGroup F × Option GoError → BatchItemOutcome F,
      ((assigned ++ settled.flatMap (fun entry =>
        assignBatchOutcome entry.1 (outcome entry))).map Prod.fst).Nodup) :
    settleBatch statements now begun { prepared with assigned } maxAttempts settled =
      settleBatch (referenceStatements consumerID) now begun prepared maxAttempts settled := by
  have part : ∀ keep : MatchedGroup F × Option GoError → Bool,
      Bound consumerID ((settled.filter keep).map Prod.fst) := fun keep =>
    bound.sublist (List.filter_sublist.map Prod.fst)
  have consuming : Bound consumerID (consumingGroups settled) := part _
  obtain ⟨attempts, incremented, counts⟩ := refines.increment now prepared.tables _ consuming
  have outcomes : settled.flatMap (fun entry => assignBatchOutcome entry.1
        (settledOutcome maxAttempts attempts entry.1 entry.2)) =
      settled.flatMap (fun entry => assignBatchOutcome entry.1
        (settledOutcome maxAttempts ((consumingGroups settled).map
          (fun group => (group.key, countOf prepared.tables consumerID group + 1)))
          entry.1 entry.2)) := by
    apply List.flatMap_congr
    intro entry member
    rw [settledOutcome_congr maxAttempts attempts _ entry.1 entry.2]
    intro consumed
    have inside : entry.1 ∈ consumingGroups settled :=
      List.mem_map_of_mem (List.mem_filter.mpr ⟨member, by simpa using consumed⟩)
    rw [counts entry.1 inside, lookup_map_of_mem (fun group => group.key)
      (fun group => countOf prepared.tables consumerID group + 1) _ consuming.keys entry.1 inside]
  have successful : Bound consumerID (selectSettled .success settled) := part _
  have permanent : Bound consumerID (selectSettled .permanent settled) := part _
  simp only [settleBatch, incremented, referenceStatements]
  rw [refines.complete now _ _ successful, refines.terminate now _ _ permanent, outcomes]
  unfold commitTerminalBatch
  rw [reportItems_perm _ _ (perm.append_right _) (distinct _)]

include refines in
/-- A backend that refines the reference runs the reference batch. -/
theorem runBatch_refines (items : List (BatchItem F)) (handler : BatchHandler F)
    (consumers : ∀ item ∈ items, item.key.consumerID = consumerID) :
    runBatch statements now tables items maxAttempts handler =
      runBatch (referenceStatements consumerID) now tables items maxAttempts handler := by
  by_cases empty : items = []
  · simp [runBatch, empty]
  · simp only [runBatch, if_neg empty]
    cases prepared : prepareBatchGroups items with
    | error err => rfl
    | ok groups =>
      have grouped := (prepareBatchGroups_groups items groups prepared).perm
        (List.perm_insertionSort (lockLe · ·) groups).symm
      have entryConsumers : ∀ entry ∈ batchEntries items,
          entry.item.key.consumerID = consumerID := fun entry member =>
        consumers entry.item (List.mem_of_getElem? ((mem_batchEntries items entry).mp member))
      obtain ⟨assigned, equal, perm⟩ := refines.prepare now tables _ maxAttempts
        _ grouped entryConsumers
      have bound := referencePrepared_bound consumerID now tables maxAttempts grouped entryConsumers
      -- A backend may decide the groups in another order: every index is assigned once,
      -- so the report does not depend on it.
      have distinct : ∀ (settled : List (MatchedGroup F × Option GoError)),
          (settled.map Prod.fst).Perm (referencePrepared now tables consumerID
            (groups.insertionSort (lockLe · ·)) maxAttempts).active →
          ∀ outcome : MatchedGroup F × Option GoError → BatchItemOutcome F,
            ((assigned ++ settled.flatMap (fun entry =>
            assignBatchOutcome entry.1 (outcome entry))).map Prod.fst).Nodup := by
        intro settled active outcome
        have cover := assigned_cover consumerID now tables maxAttempts
          grouped settled active outcome
        rw [batchEntries_indices] at cover
        exact ((perm.append_right _).map Prod.fst).nodup_iff.mpr
          (cover.nodup_iff.mpr List.nodup_range)
      simp only [equal, referenceStatements]
      by_cases idle : (referencePrepared now tables consumerID
          (groups.insertionSort (lockLe · ·)) maxAttempts).active = []
      · simp only [idle, if_true, commitTerminalBatch]
        have unique := distinct [] (by rw [idle]; exact List.Perm.refl _)
          (fun entry => conflictOutcome entry.1.lead)
        rw [List.flatMap_nil, List.append_nil] at unique
        rw [reportItems_perm _ _ perm unique]
      · simp only [if_neg idle]
        have sorted := List.perm_insertionSort (fun left right : MatchedGroup F =>
          left.lead.index ≤ right.lead.index)
          (referencePrepared now tables consumerID
            (groups.insertionSort (lockLe · ·)) maxAttempts).active
        split
        · rfl
        · split
          · rfl
          · rename_i _ result _ _ errors accepted
            have lengths := validateResult_length _ result errors accepted
            rw [List.length_map] at lengths
            have paired : ((((referencePrepared now tables consumerID
                (groups.insertionSort (lockLe · ·)) maxAttempts).active.insertionSort
                (fun left right => left.lead.index ≤ right.lead.index)).zip
                  errors).map Prod.fst).Perm
                (referencePrepared now tables consumerID (groups.insertionSort (lockLe · ·))
                    maxAttempts).active := by
              rw [List.map_fst_zip (by omega)]
              exact sorted
            exact settleBatch_refines consumerID now maxAttempts statements refines tables _
              assigned perm _ (bound.perm paired.symm) (distinct _ paired)

end Cover

end Gomessenger.Inbox
