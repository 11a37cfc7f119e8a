import Gomessenger.Inbox.Closure

/-! Batches of pairwise distinct identities: one group for each item, and a
handler that answers every item it is given. -/

namespace Gomessenger.Inbox

open LocalAction

section Answers

variable (expected : List BatchItemKey)

theorem checkExpected_accepts (distinct : expected.Nodup)
    (complete : ∀ key ∈ expected, key.source ≠ "" ∧ key.messageID ≠ 0) (seen : List BatchItemKey)
    (unseen : ∀ key ∈ expected, key ∉ seen) : checkExpected seen expected = none := by
  induction expected generalizing seen with
  | nil => rfl
  | cons key rest ih =>
    obtain ⟨fresh, later⟩ := List.nodup_cons.mp distinct
    obtain ⟨named, numbered⟩ := complete key (.head _)
    rw [checkExpected, if_neg (by rw [not_or]; exact ⟨named, numbered⟩),
      if_neg (unseen key (.head _))]
    apply ih later (fun other inside => complete other (.tail _ inside))
    intro other inside known
    rcases List.mem_cons.mp known with rfl | old
    · exact fresh inside
    · exact unseen other (.tail _ inside) old

theorem collectResult_accepts (result : List BatchItemResult)
    (known : ∀ item ∈ result, item.key ∈ expected)
    (distinct : (result.map BatchItemResult.key).Nodup)
    (byKey : List (BatchItemKey × Option GoError))
    (fresh : ∀ item ∈ result, byKey.lookup item.key = none) :
    collectResult expected byKey result =
      .ok ((result.map (fun item => (item.key, item.err))).reverse ++ byKey) := by
  induction result generalizing byKey with
  | nil => rfl
  | cons item rest ih =>
    obtain ⟨single, later⟩ := List.nodup_cons.mp distinct
    have member := known item (.head _)
    have unused := fresh item (.head _)
    rw [collectResult, if_neg (not_not.mpr member),
      if_neg (by rw [unused]; exact Bool.false_ne_true),
      ih (fun other inside => known other (.tail _ inside)) later]
    · rw [List.map_cons, List.reverse_cons, List.append_assoc]
      rfl
    · intro other inside
      have apart : other.key ≠ item.key := fun same => single (same ▸ List.mem_map_of_mem inside)
      rw [List.lookup_cons, beq_false_of_ne apart]
      exact fresh other (.tail _ inside)

theorem orderResult_accepts (byKey : List (BatchItemKey × Option GoError))
    (errors : BatchItemKey → Option GoError) (keys : List BatchItemKey)
    (answered : ∀ key ∈ keys, byKey.lookup key = some (errors key)) :
    orderResult byKey keys = .ok (keys.map errors) := by
  induction keys with
  | nil => rfl
  | cons key rest ih =>
    rw [orderResult, answered key (.head _),
      ih (fun other inside => answered other (.tail _ inside))]
    rfl

theorem validateResult_accepts (distinct : expected.Nodup)
    (complete : ∀ key ∈ expected, key.source ≠ "" ∧ key.messageID ≠ 0)
    (errors : BatchItemKey → Option GoError) (result : List BatchItemResult)
    (answers : result.Perm (expected.map (fun key => ⟨key, errors key⟩))) :
    validateResult expected result = .ok (expected.map errors) := by
  have keys : (result.map BatchItemResult.key).Perm expected := by
    have mapped := answers.map BatchItemResult.key
    rw [List.map_map] at mapped
    simpa [Function.comp_def] using mapped
  have lengths : result.length = expected.length := by
    rw [← keys.length_eq, List.length_map]
  have collected := collectResult_accepts expected result
    (fun item member => keys.mem_iff.mp (List.mem_map_of_mem member))
    (keys.nodup_iff.mpr distinct) [] (fun _ _ => rfl)
  rw [validateResult, if_neg (not_not.mpr lengths),
    checkExpected_accepts expected distinct complete [] (fun _ _ => List.not_mem_nil), collected]
  apply orderResult_accepts
  intro key member
  have unique : (((result.map (fun item : BatchItemResult => (item.key, item.err))).reverse ++
      []).map Prod.fst).Nodup := by
    rw [List.append_nil, List.map_reverse, List.map_map, List.nodup_reverse]
    exact keys.nodup_iff.mpr distinct
  rw [lookup_eq_some_iff_mem _ unique, List.append_nil, List.mem_reverse]
  have answer : (⟨key, errors key⟩ : BatchItemResult) ∈ result :=
    answers.mem_iff.mpr (List.mem_map_of_mem member)
  exact List.mem_map.mpr ⟨_, answer, rfl⟩

end Answers

section Groups

variable {F : Type}

def singleGroup (entry : BatchPreparedItem F) : BatchGroup F := ⟨batchKey entry.item.key, entry, []⟩

theorem addToGroups_fresh (entry : BatchPreparedItem F) (groups : List (BatchGroup F))
    (fresh : ∀ group ∈ groups, group.key ≠ batchKey entry.item.key) :
    addToGroups entry groups = .ok (groups ++ [singleGroup entry]) := by
  induction groups with
  | nil => rfl
  | cons group rest ih =>
    rw [addToGroups, if_neg (fresh group (.head _)),
      ih (fun other inside => fresh other (.tail _ inside))]
    rfl

theorem prepareEntries_distinct (entries : List (BatchPreparedItem F))
    (groups : List (BatchGroup F))
    (distinct : (entries.map (fun entry => batchKey entry.item.key)).Nodup)
    (fresh : ∀ entry ∈ entries, ∀ group ∈ groups, group.key ≠ batchKey entry.item.key) :
    prepareEntries groups entries = .ok (groups ++ entries.map singleGroup) := by
  induction entries generalizing groups with
  | nil => rw [prepareEntries, List.map_nil, List.append_nil]
  | cons entry rest ih =>
    obtain ⟨single, later⟩ := List.nodup_cons.mp distinct
    rw [prepareEntries, addToGroups_fresh entry groups (fresh entry (.head _))]
    simp only
    rw [ih _ later]
    · rw [List.append_assoc]
      rfl
    · intro other inside group member
      rcases List.mem_append.mp member with old | new
      · exact fresh other (.tail _ inside) group old
      · rw [List.mem_singleton.mp new]
        exact fun same => single (List.mem_map.mpr ⟨other, inside, same.symm⟩)

variable {entries : List (BatchPreparedItem F)} {groups : List (BatchGroup F)}

theorem GroupsOf.single (grouped : GroupsOf entries groups)
    (distinct : (entries.map (fun entry => batchKey entry.item.key)).Nodup) (group : BatchGroup F)
    (member : group ∈ groups) : group = singleGroup group.front := by
  have named := grouped.named group member
  have keys : (group.entries.map (fun entry => batchKey entry.item.key)).Nodup := by
    have all := (grouped.covers.map (fun entry => batchKey entry.item.key)).nodup_iff.mpr distinct
    rw [List.map_flatMap] at all
    exact (List.nodup_flatMap.mp all).1 group member
  obtain ⟨key, front, others⟩ := group
  have first := named front (.head _)
  cases others with
  | nil => exact congrArg (fun name => BatchGroup.mk name front []) first.symm
  | cons other rest =>
    have second := named other (List.mem_cons_of_mem _ (.head _))
    have apart := (List.nodup_cons.mp keys).1
    exact absurd (List.mem_map.mpr ⟨other, List.mem_cons_self .., second.trans first.symm⟩) apart

theorem GroupsOf.singleGroup_mem (grouped : GroupsOf entries groups)
    (distinct : (entries.map (fun entry => batchKey entry.item.key)).Nodup)
    (entry : BatchPreparedItem F) (member : entry ∈ entries) : singleGroup entry ∈ groups := by
  obtain ⟨group, present, inside⟩ := List.mem_flatMap.mp (grouped.covers.mem_iff.mpr member)
  have single := grouped.single distinct group present
  rw [single] at inside present
  rw [List.mem_singleton.mp inside]
  exact present

variable [LinearOrder F] [Sha256 F] (now : Readings) (maxAttempts : Nat)

omit [Sha256 F] in
theorem matchGroup_single (stored : F) (entry : BatchPreparedItem F) :
    matchGroup stored (singleGroup entry) =
      if entry.item.fingerprint = stored then some ⟨singleGroup entry, entry, [], noAttempt⟩
      else none := by
  by_cases same : entry.item.fingerprint = stored <;>
    simp [matchGroup, BatchGroup.entries, singleGroup, same]

theorem leadOf_single (slice : Slice F) (entry : BatchPreparedItem F) :
    (leadOf now slice (singleGroup entry) = none ∧
        entry.item.fingerprint ≠ (lockedRow now slice (singleGroup entry)).fingerprint ∧
        slice.verdict entry.item.key entry.item.fingerprint maxAttempts = .conflict) ∨
      leadOf now slice (singleGroup entry) = some ⟨singleGroup entry, entry, [], noAttempt⟩ := by
  rw [leadOf, matchGroup_single]
  by_cases same : entry.item.fingerprint = (lockedRow now slice (singleGroup entry)).fingerprint
  · exact .inr (if_pos same)
  · refine .inl ⟨if_neg same, same, ?_⟩
    unfold Slice.verdict
    cases stored : slice.identity with
    | none =>
      simp only [lockedRow, stored, Option.getD_none] at same
      exact absurd rfl same
    | some row =>
      simp only [lockedRow, stored, Option.getD_some] at same
      exact if_pos (Ne.symm same)

end Groups

section Settled

variable {F : Type} [LinearOrder F] [Sha256 F]
variable (consumerID : String) (now : Readings) (tables : Tables F) (items : List (BatchItem F))
variable (maxAttempts : Nat) (errors : Identity → Option GoError)

def outcomeOf (tables : Tables F) (maxAttempts : Nat) (errors : Identity → Option GoError)
    (item : BatchItem F) : BatchItemOutcome F :=
  attemptOutcome ((tables.slice item.key.identity).verdict item.key item.fingerprint maxAttempts)
    item maxAttempts (errors item.key.identity)

variable (groups : List (BatchGroup F)) (settled : List (MatchedGroup F × Option GoError))
variable (given : Answered consumerID now tables items maxAttempts groups (settled.map Prod.fst))
variable (consumers : ∀ item ∈ items, item.key.consumerID = consumerID)
variable (distinct : (items.map (fun item => item.key.identity)).Nodup)
variable (answered : ∀ entry ∈ settled, entry.2 = errors entry.1.lead.item.key.identity)

omit [LinearOrder F] [Sha256 F] in
theorem batchEntries_items : (batchEntries items).map BatchPreparedItem.item = items := by
  simp [batchEntries, Function.comp_def, List.zipIdx_map_fst]

omit [LinearOrder F] [Sha256 F] in
include consumers distinct in
theorem batchEntries_distinct :
    ((batchEntries items).map (fun entry => batchKey entry.item.key)).Nodup := by
  have identities : items.map (fun item => item.key.identity) =
      ((batchEntries items).map (fun entry => batchKey entry.item.key)).map
          (identityOf consumerID) := by
    calc
      items.map (fun item => item.key.identity)
          = items.map (fun item => identityOf consumerID (batchKey item.key)) := by
        apply List.map_congr_left
        intro item member
        exact (identityOf_batchKey consumerID item.key (consumers item member)).symm
      _ = ((batchEntries items).map BatchPreparedItem.item).map
            (fun item => identityOf consumerID (batchKey item.key)) := by
        rw [batchEntries_items]
      _ = _ := by
        rw [List.map_map, List.map_map]
        rfl
  rw [identities] at distinct
  exact distinct.of_map _

include given consumers distinct answered in
theorem groupAssigns_single (entry : BatchPreparedItem F) (member : entry ∈ batchEntries items)
    (index : Nat) (outcome : BatchItemOutcome F) :
    GroupAssigns now maxAttempts settled (tables.slice entry.item.key.identity)
    (singleGroup entry) index outcome ↔
      index = entry.index ∧ outcome = outcomeOf tables maxAttempts errors entry.item := by
  have listed := given.grouped.singleGroup_mem
    (batchEntries_distinct consumerID items consumers distinct) entry member
  have identity : identityOf consumerID (singleGroup entry).key = entry.item.key.identity :=
    identityOf_batchKey consumerID _ (entry_consumers consumerID items consumers entry member)
  unfold GroupAssigns outcomeOf
  rcases leadOf_single now maxAttempts (tables.slice entry.item.key.identity) entry with
    ⟨unled, conflict, verdict⟩ | lead
  · rw [verdict]
    constructor
    · rintro (⟨other, inside, _, rfl, rfl⟩ | ⟨matched, err, led, _⟩)
      · rw [List.mem_singleton.mp inside]
        exact ⟨rfl, rfl⟩
      · rw [unled] at led
        cases led
    · rintro ⟨rfl, rfl⟩
      exact .inl ⟨entry, List.mem_singleton.mpr rfl, conflict, rfl, rfl⟩
  · have stored := leadOf_fingerprint now _ _ _ lead
    have assigned := lead_assigned maxAttempts (⟨singleGroup entry, entry, [], noAttempt⟩ :
      MatchedGroup F) ((tables.slice entry.item.key.identity).verdict entry.item.key
        entry.item.fingerprint maxAttempts) (errors entry.item.key.identity)
    constructor
    · rintro (⟨other, inside, different, _⟩ | ⟨matched, err, led, finished, inside⟩)
      · rw [List.mem_singleton.mp inside] at different
        exact absurd stored different
      · obtain rfl := Option.some.inj (lead.symm.trans led)
        have outcomes : attemptOutcome ((tables.slice entry.item.key.identity).verdict
              entry.item.key entry.item.fingerprint maxAttempts) entry.item maxAttempts err =
            attemptOutcome ((tables.slice entry.item.key.identity).verdict entry.item.key
              entry.item.fingerprint maxAttempts) entry.item maxAttempts
              (errors entry.item.key.identity) := by
          cases admits : ((tables.slice entry.item.key.identity).verdict entry.item.key
              entry.item.fingerprint maxAttempts).admits with
          | true => rw [show err = _ from answered _ (finished admits)]; rfl
          | false =>
            rw [attemptOutcome_unadmitted maxAttempts _ _ err admits,
              attemptOutcome_unadmitted maxAttempts _ _ (errors _) admits]
        have only := List.mem_singleton.mp (assigned : _ ∈ [_])
        have built := List.mem_singleton.mp (inside : _ ∈ [_])
        obtain ⟨rfl, rfl⟩ := Prod.mk.inj built
        refine ⟨rfl, ?_⟩
        rw [outcomes]
        exact (congrArg Prod.snd only).symm
    · rintro ⟨rfl, rfl⟩
      refine .inr ⟨_, errors entry.item.key.identity, lead, fun admitted => ?_, assigned⟩
      have settledLead := lead_settled consumerID now tables maxAttempts settled given.active
        given.grouped (singleGroup entry) listed
      rw [identity] at settledLead
      obtain ⟨err, inside⟩ := settledLead _ lead admitted
      rw [show err = _ from answered _ inside] at inside
      exact inside

include given consumers distinct answered in
theorem report_distinct :
    reportItems (finalAssignments now tables consumerID groups maxAttempts settled) =
      items.map (outcomeOf tables maxAttempts errors) := by
  have keys := batchEntries_distinct consumerID items consumers distinct
  have entryConsumers := entry_consumers consumerID items consumers
  have identity : ∀ entry ∈ batchEntries items,
      identityOf consumerID (singleGroup entry).key = entry.item.key.identity :=
    fun entry member => identityOf_batchKey consumerID _ (entryConsumers entry member)
  have ordered : ((batchEntries items).map (fun entry =>
      (entry.index, outcomeOf tables maxAttempts errors entry.item))).Pairwise
        (fun left right => left.1 < right.1) := by
    have indices := List.pairwise_lt_range (n := items.length)
    rw [← batchEntries_indices items] at indices
    exact List.pairwise_map.mpr (List.pairwise_map.mp indices)
  have unique :
      ((finalAssignments now tables consumerID groups maxAttempts settled).map Prod.fst).Nodup := by
    have cover := assigned_cover consumerID now tables maxAttempts
      given.grouped settled given.active
    refine (cover _).nodup_iff.mpr ?_
    rw [batchEntries_indices]
    exact List.nodup_range
  have perm : (finalAssignments now tables consumerID groups maxAttempts settled).Perm
      ((batchEntries items).map (fun entry =>
        (entry.index, outcomeOf tables maxAttempts errors entry.item))) := by
    refine (List.perm_ext_iff_of_nodup (unique.of_map _)
      (ordered.imp (fun below same => below.ne (congrArg Prod.fst same)))).mpr ?_
    rintro ⟨index, outcome⟩
    rw [mem_finalAssignments consumerID now tables maxAttempts settled given.active given.grouped
      entryConsumers, List.mem_map]
    constructor
    · rintro ⟨group, member, assigned⟩
      have single := given.grouped.single keys group member
      have inside := given.grouped.mem_entries group member group.front (.head _)
      rw [single, identity group.front inside,
        groupAssigns_single consumerID now tables items maxAttempts errors groups settled given
          consumers distinct answered group.front inside] at assigned
      exact ⟨group.front, inside, by rw [assigned.1, assigned.2]⟩
    · rintro ⟨entry, inside, built⟩
      obtain ⟨rfl, rfl⟩ := Prod.mk.inj built
      refine ⟨singleGroup entry, given.grouped.singleGroup_mem keys entry inside, ?_⟩
      rw [identity entry inside]
      exact (groupAssigns_single consumerID now tables items maxAttempts errors groups settled given
        consumers distinct answered entry inside _ _).mpr ⟨rfl, rfl⟩
  rw [reportItems, KeyedTable.ofAssignments_perm _ _ perm unique,
    KeyedTable.ofAssignments_sorted _ ordered, List.map_map]
  calc
    (batchEntries items).map (Prod.snd ∘ fun entry =>
        (entry.index, outcomeOf tables maxAttempts errors entry.item))
        = ((batchEntries items).map BatchPreparedItem.item).map
            (outcomeOf tables maxAttempts errors) := by
      rw [List.map_map]
      rfl
    _ = items.map (outcomeOf tables maxAttempts errors) := by rw [batchEntries_items]

include given consumers distinct answered in
theorem recorded_distinct (recorded : Tables F) (accepted :
      let outcomes :=
        reportItems (finalAssignments now tables consumerID groups maxAttempts settled)
      record (preserveDeferred (settledTables now tables consumerID groups settled) outcomes
        now.deferred) outcomes now.recorded = .ok recorded)
    (item : BatchItem F) (member : item ∈ items) :
    (tables.slice item.key.identity).attempt item.key item.fingerprint now maxAttempts
      (errors item.key.identity) = some (recorded.slice item.key.identity) := by
  obtain ⟨entry, inside, rfl⟩ : ∃ entry ∈ batchEntries items, entry.item = item := by
    rw [← batchEntries_items items] at member
    exact List.mem_map.mp member
  have keys := batchEntries_distinct consumerID items consumers distinct
  have entryConsumers := entry_consumers consumerID items consumers
  have identity : identityOf consumerID (singleGroup entry).key = entry.item.key.identity :=
    identityOf_batchKey consumerID _ (entryConsumers entry inside)
  have indices : ((batchEntries items).map BatchPreparedItem.index).Nodup := by
    rw [batchEntries_indices]
    exact List.nodup_range
  have rows := recorded_group consumerID now tables maxAttempts settled given.active given.grouped
    entryConsumers indices recorded accepted (singleGroup entry)
    (given.grouped.singleGroup_mem keys entry inside)
  rw [identity] at rows
  unfold GroupSettled at rows
  rcases leadOf_single now maxAttempts (tables.slice entry.item.key.identity) entry with
    ⟨unled, _, verdict⟩ | lead
  · rw [unled] at rows
    rw [Slice.attempt, verdict]
    exact congrArg some rows.symm
  · rw [lead] at rows
    obtain ⟨err, finished, attempted⟩ := rows
    cases admits : ((tables.slice entry.item.key.identity).verdict entry.item.key
        entry.item.fingerprint maxAttempts).admits with
    | true =>
      rw [← show err = errors entry.item.key.identity from answered _ (finished admits)]
      exact attempted
    | false =>
      rw [Slice.attempt_denied now maxAttempts _ _ _ (errors _) admits]
      rw [Slice.attempt_denied now maxAttempts _ _ _ err admits] at attempted
      exact attempted

end Settled

end Gomessenger.Inbox
