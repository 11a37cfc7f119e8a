import Gomessenger.Inbox.Effects

/-! What a batch reports, input by input, and what its handler is given. -/

namespace Gomessenger.Inbox

open LocalAction

section Leads

variable {F : Type} [LinearOrder F] [Sha256 F]

/-- The fingerprint an identity carries once the batch has locked it: the stored
one, or that of its first input. -/
def expectedFingerprint (tables : Tables F) (items : List (BatchItem F))
    (id : Identity) : Option F :=
  match tables.inbox.find? id with
  | some stored => some stored.fingerprint
  | none => (items.find? (fun item => item.key.identity = id)).map BatchItem.fingerprint

/-- The first input of an active identity that carries its fingerprint. -/
structure IsLead (tables : Tables F) (items : List (BatchItem F)) (maxAttempts index : Nat)
    (item : BatchItem F) : Prop where
  placed : items[index]? = some item
  expected : expectedFingerprint tables items item.key.identity = some item.fingerprint
  first : ∀ earlier < index, ∀ other, items[earlier]? = some other →
    other.key.identity = item.key.identity → other.fingerprint ≠ item.fingerprint
  active : ((tables.slice item.key.identity).verdict item.key item.fingerprint maxAttempts).admits =
    true

/-- The inputs a handler is given: the leads, in input order. -/
def HandsLeads (tables : Tables F) (items : List (BatchItem F)) (maxAttempts : Nat)
    (handed : List (BatchItem F)) : Prop :=
  ∃ positions : List Nat, positions.Pairwise (· < ·) ∧
    (∀ index, index ∈ positions ↔ ∃ item, IsLead tables items maxAttempts index item) ∧
    handed.map some = positions.map (fun index => items[index]?)

section Groups

variable (consumerID : String) (now : Readings) (tables : Tables F) (items : List (BatchItem F))
variable (maxAttempts : Nat) {groups : List (BatchGroup F)}
variable (grouped : GroupsOf (batchEntries items) groups)
variable (ordered : ∀ group ∈ groups, group.entries.Pairwise
    (fun left right => left.index < right.index))
variable (consumers : ∀ item ∈ items, item.key.consumerID = consumerID)

variable (group : BatchGroup F) (index : Nat) (item : BatchItem F)

omit [LinearOrder F] [Sha256 F] in
include grouped consumers in
theorem group_of_input (placed : items[index]? = some item) :
    ∃ group ∈ groups, ⟨index, item⟩ ∈ group.entries ∧ item.key.identity =
      identityOf consumerID group.key := by
  have listed := (mem_batchEntries items ⟨index, item⟩).mpr placed
  obtain ⟨group, member, inside⟩ := List.mem_flatMap.mp (grouped.covers.mem_iff.mpr listed)
  exact ⟨group, member, inside, entry_identity consumerID grouped
    (entry_consumers consumerID items consumers) group member _ inside⟩

omit [LinearOrder F] [Sha256 F] in
include grouped consumers in
theorem group_has_input (member : group ∈ groups) (index : Nat)
    (item : BatchItem F) (placed : items[index]? = some item)
    (same : item.key.identity = identityOf consumerID group.key) :
    ⟨index, item⟩ ∈ group.entries := by
  obtain ⟨other, present, inside, identity⟩ :=
    group_of_input consumerID items grouped consumers index item placed
  have key := (identityOf_inj consumerID _ _).mp (identity.symm.trans same)
  rw [← List.inj_on_of_nodup_map grouped.keys present member key]
  exact inside

omit [LinearOrder F] [Sha256 F] in
include grouped in
theorem group_placed (member : group ∈ groups) (entry : BatchPreparedItem F)
    (inside : entry ∈ group.entries) : items[entry.index]? = some entry.item :=
  (mem_batchEntries items entry).mp (grouped.mem_entries group member entry inside)

omit [Sha256 F] in
include grouped ordered consumers in
theorem expectedFingerprint_locked (member : group ∈ groups) :
    expectedFingerprint tables items (identityOf consumerID group.key) =
      some (lockedRow now (tables.slice (identityOf consumerID group.key)) group).fingerprint := by
  unfold expectedFingerprint lockedRow
  change _ = some (Option.getD (tables.inbox.find? (identityOf consumerID group.key)) _).fingerprint
  cases stored : tables.inbox.find? (identityOf consumerID group.key) with
  | some row => rfl
  | none =>
    have front : group.front ∈ group.entries := List.mem_cons_self ..
    have found : items.find? (fun item => item.key.identity = identityOf consumerID group.key) =
        some group.front.item := by
      have placed := group_placed items grouped group member group.front front
      obtain ⟨inRange, here⟩ := List.getElem?_eq_some_iff.mp placed
      refine List.find?_eq_some_iff_getElem.mpr ⟨?_, group.front.index, inRange, here, ?_⟩
      · exact decide_eq_true (entry_identity consumerID grouped
          (entry_consumers consumerID items consumers) group member group.front front)
      · intro earlier before
        rw [Bool.not_eq_true', decide_eq_false_iff_not]
        intro same
        have inside := group_has_input consumerID items grouped consumers group member earlier _
          (List.getElem?_eq_getElem (before.trans inRange)) same
        rcases List.mem_cons.mp inside with first | later
        · have index := congrArg BatchPreparedItem.index first
          simp only at index
          omega
        · have above := (List.pairwise_cons.mp (ordered group member)).1 _ later
          simp only at above
          omega
    simp [found]

omit [Sha256 F] in
include ordered in
theorem lead_first (member : group ∈ groups) (matched : MatchedGroup F)
    (stored : F) (picked : matchGroup stored group = some matched) (entry : BatchPreparedItem F)
    (inside : entry ∈ group.entries) (same : entry.item.fingerprint = stored) :
    matched.lead.index ≤ entry.index := by
  have filtered := (matchGroup_lead stored group matched picked).2
  have sorted := (ordered group member).filter (fun entry => entry.item.fingerprint = stored)
  rw [← filtered] at sorted
  have listed : entry ∈ matched.lead :: matched.copies := by
    rw [filtered]
    exact List.mem_filter.mpr ⟨inside, decide_eq_true same⟩
  rcases List.mem_cons.mp listed with rfl | later
  · exact Nat.le_refl _
  · exact Nat.le_of_lt ((List.pairwise_cons.mp sorted).1 entry later)

include grouped ordered consumers in
theorem lead_isLead (member : group ∈ groups) (matched : MatchedGroup F)
    (lead : leadOf now (tables.slice (identityOf consumerID group.key)) group = some matched)
    (admitted : ((tables.slice (identityOf consumerID group.key)).verdict matched.lead.item.key
      matched.lead.item.fingerprint maxAttempts).admits = true) :
    IsLead tables items maxAttempts matched.lead.index matched.lead.item := by
  obtain ⟨inside, print⟩ := matchGroup_mem _ _ _ lead matched.lead (.head _)
  have identity :=
    entry_identity consumerID grouped (entry_consumers consumerID items consumers) group
    member matched.lead inside
  refine ⟨group_placed items grouped group member matched.lead inside, ?_, ?_, ?_⟩
  · rw [identity, expectedFingerprint_locked consumerID now tables items grouped ordered
      consumers group member, print]
  · intro earlier before other placed same equal
    have entry := group_has_input consumerID items grouped consumers group
      member earlier other placed
      (same.trans identity)
    have first := lead_first ordered group member matched _ lead _ entry (equal.trans print)
    exact absurd first (Nat.not_le.mpr before)
  · rw [identity]
    exact admitted

include grouped ordered consumers in
theorem isLead_lead (isLead : IsLead tables items maxAttempts index item) :
    ∃ group ∈ groups, ∃ matched, leadOf now (tables.slice (identityOf consumerID group.key)) group =
      some matched ∧
      ((tables.slice (identityOf consumerID group.key)).verdict matched.lead.item.key
        matched.lead.item.fingerprint maxAttempts).admits = true ∧
      matched.lead = ⟨index, item⟩ := by
  obtain ⟨group, member, inside, identity⟩ :=
    group_of_input consumerID items grouped consumers index item isLead.placed
  have locked := expectedFingerprint_locked consumerID now tables items grouped
    ordered consumers group member
  have print : item.fingerprint =
      (lockedRow now (tables.slice (identityOf consumerID group.key)) group).fingerprint := by
    rw [← identity, isLead.expected] at locked
    rw [identity] at locked
    exact Option.some.inj locked
  obtain ⟨matched, lead⟩ : ∃ matched,
      leadOf now (tables.slice (identityOf consumerID group.key)) group = some matched := by
    unfold leadOf matchGroup
    split
    · rename_i unmatched
      have listed : (⟨index, item⟩ : BatchPreparedItem F) ∈
        group.entries.filter (fun entry => entry.item.fingerprint =
            (lockedRow now (tables.slice (identityOf consumerID group.key)) group).fingerprint) :=
        List.mem_filter.mpr ⟨inside, decide_eq_true print⟩
      rw [unmatched] at listed
      exact absurd listed List.not_mem_nil
    · exact ⟨_, rfl⟩
  obtain ⟨leadInside, leadPrint⟩ := matchGroup_mem _ _ _ lead matched.lead (.head _)
  have below := lead_first ordered group member matched _ lead _ inside print
  have placed := group_placed items grouped group member matched.lead leadInside
  have leadIdentity := entry_identity consumerID grouped
    (entry_consumers consumerID items consumers)
    group member matched.lead leadInside
  have position : matched.lead.index = index := by
    by_contra apart
    exact isLead.first matched.lead.index (lt_of_le_of_ne below apart) matched.lead.item placed
      (leadIdentity.trans identity.symm) (leadPrint.trans print.symm)
  have same : matched.lead = ⟨index, item⟩ := by
    rw [position, isLead.placed] at placed
    calc
      matched.lead = ⟨matched.lead.index, matched.lead.item⟩ := rfl
      _ = ⟨index, item⟩ := by rw [position, Option.some.inj placed]
  refine ⟨group, member, matched, lead, ?_, same⟩
  rw [same, ← identity]
  exact isLead.active

include grouped ordered consumers in
theorem handsLeads_of_active (active : List (MatchedGroup F))
    (listed : active.Perm (referencePrepared now tables consumerID groups maxAttempts).active)
    (sorted : active.Pairwise (fun left right => left.lead.index ≤ right.lead.index)) :
    HandsLeads tables items maxAttempts (active.map (fun group => group.lead.item)) := by
  have paired : (active.map (fun group => (group, (none : Option GoError)))).map Prod.fst =
      active := by
    simp [Function.comp_def]
  have perm : ((active.map (fun group => (group, (none : Option GoError)))).map Prod.fst).Perm
      (referencePrepared now tables consumerID groups maxAttempts).active := by
    rw [paired]
    exact listed
  have leads : ∀ group ∈ active, IsLead tables items maxAttempts
      group.lead.index group.lead.item := by
    intro group member
    obtain ⟨source, present, matched, lead, admitted, equal⟩ := settled_lead consumerID now tables
      maxAttempts _ perm grouped (group, none) (List.mem_map.mpr ⟨group, member, rfl⟩)
    have same : group = matched.counted (tables.slice (identityOf consumerID source.key)) := equal
    rw [same]
    exact lead_isLead consumerID now tables items maxAttempts grouped ordered
      consumers source present
      matched lead admitted
  have bound : Bound consumerID active :=
    (referencePrepared_bound consumerID now tables maxAttempts grouped
      (entry_consumers consumerID items consumers)).perm listed.symm
  -- The sort is by index only; two groups never share a lead, so the order is strict.
  refine ⟨active.map (fun group => group.lead.index), ?_, ?_, ?_⟩
  · refine List.pairwise_map.mpr ?_
    have distinct : active.Pairwise (fun left right => left.key ≠ right.key) :=
      List.pairwise_map.mp bound.keys
    refine (sorted.and distinct).imp_of_mem ?_
    rintro left right leftMember rightMember ⟨below, apart⟩
    refine lt_of_le_of_ne below (fun same => apart ?_)
    have leftPlaced := (leads left leftMember).placed
    have rightPlaced := (leads right rightMember).placed
    rw [same, rightPlaced] at leftPlaced
    have identities := (bound.leads left leftMember).symm.trans
      ((congrArg (fun item => item.key.identity) (Option.some.inj leftPlaced).symm).trans
        (bound.leads right rightMember))
    exact (identityOf_inj consumerID _ _).mp identities
  · intro index
    constructor
    · intro inside
      obtain ⟨group, member, rfl⟩ := List.mem_map.mp inside
      exact ⟨group.lead.item, leads group member⟩
    · rintro ⟨item, isLead⟩
      obtain ⟨group, member, matched, lead, admitted, same⟩ :=
        isLead_lead consumerID now tables items
        maxAttempts grouped ordered consumers index item isLead
      obtain ⟨err, settled⟩ := lead_settled consumerID now tables maxAttempts _ perm grouped group
        member matched lead admitted
      obtain ⟨counted, present, equal⟩ := List.mem_map.mp settled
      refine List.mem_map.mpr ⟨counted, present, ?_⟩
      have leadSame : counted.lead = matched.lead :=
        congrArg (fun entry : MatchedGroup F × Option GoError => entry.1.lead) equal
      rw [leadSame, same]
  · rw [List.map_map, List.map_map]
    refine List.map_congr_left (fun group member => ?_)
    exact (leads group member).placed.symm

section Report

variable (settled : List (MatchedGroup F × Option GoError))
variable (active : (settled.map Prod.fst).Perm
    (referencePrepared now tables consumerID groups maxAttempts).active)

include grouped in
theorem GroupAssigns.placed (group : BatchGroup F) (member : group ∈ groups) (index : Nat)
    (outcome : BatchItemOutcome F)
    (assigned : GroupAssigns now maxAttempts settled
      (tables.slice (identityOf consumerID group.key)) group index outcome) :
    items[index]? = some ⟨outcome.key, outcome.fingerprint⟩ := by
  rcases assigned with ⟨entry, inside, _, rfl, rfl⟩ | ⟨matched, err, lead, _, inside⟩
  · exact group_placed items grouped group member entry inside
  · obtain ⟨entry, listed, rfl, duplicate, rfl⟩ := mem_assignBatchOutcome _ _ _ _ inside
    obtain ⟨present, print⟩ := matchGroup_mem _ _ _ lead entry listed
    have leadPrint := leadOf_fingerprint now _ group matched lead
    have same : (attemptOutcome ((tables.slice (identityOf consumerID group.key)).verdict
        matched.lead.item.key matched.lead.item.fingerprint maxAttempts)
          matched.lead.item maxAttempts
        err).fingerprint = entry.item.fingerprint := by
      rw [attemptOutcome_fingerprint, leadPrint, print]
    rw [same]
    exact group_placed items grouped group member entry present

include active grouped consumers in
theorem report_aligned :
    (reportItems (finalAssignments now tables consumerID groups maxAttempts settled)).map
      (fun outcome => (⟨outcome.key, outcome.fingerprint⟩ : BatchItem F)) = items := by
  have cover : ((finalAssignments now tables consumerID groups maxAttempts settled).map
      Prod.fst).Perm (List.range items.length) := by
    rw [← batchEntries_indices]
    exact assigned_cover consumerID now tables maxAttempts grouped settled active _
  have unique := cover.nodup_iff.mpr List.nodup_range
  have member := KeyedTable.mem_ofAssignments
    (finalAssignments now tables consumerID groups maxAttempts settled) unique
  generalize rows : (KeyedTable.ofAssignments
    (finalAssignments now tables consumerID groups maxAttempts settled)).rows = table at member
  have sorted : (table.map Prod.fst).Pairwise (· < ·) := by
    rw [← rows]
    exact List.pairwise_map.mpr (KeyedTable.ofAssignments _).sorted
  have indices : table.map Prod.fst = List.range items.length := by
    refine sorted.eq_of_mem_iff List.pairwise_lt_range (fun index => ?_)
    rw [← cover.mem_iff, List.mem_map, List.mem_map]
    exact exists_congr (fun entry => and_congr_left (fun _ => member entry))
  have placed : ∀ entry ∈ table, items[entry.1]? = some ⟨entry.2.key, entry.2.fingerprint⟩ := by
    intro entry inside
    obtain ⟨group, present, assigned⟩ := (mem_finalAssignments consumerID now tables maxAttempts
      settled active grouped (entry_consumers consumerID items consumers) entry.1 entry.2).mp
        ((member entry).mp inside)
    exact assigned.placed consumerID now tables items maxAttempts grouped settled group present
  rw [reportItems, rows, List.map_map]
  have lengths : table.length = items.length := by
    have lengths := congrArg List.length indices
    rwa [List.length_map, List.length_range] at lengths
  refine List.ext_getElem? (fun index => ?_)
  rw [List.getElem?_map]
  cases found : table[index]? with
  | none =>
    rw [Option.map_none, eq_comm, List.getElem?_eq_none_iff, ← lengths, ← List.getElem?_eq_none_iff]
    exact found
  | some entry =>
    have position : entry.1 = index := by
      have here := congrArg (fun list : List Nat => list[index]?) indices
      simp only [List.getElem?_map, found, Option.map_some] at here
      obtain ⟨bound, value⟩ := List.getElem?_eq_some_iff.mp here.symm
      rw [← value, List.getElem_range]
    rw [Option.map_some, ← position]
    exact (placed entry (List.mem_of_getElem? found)).symm

include active grouped consumers in
theorem report_shared (left right : BatchItemOutcome F)
    (first : left ∈ reportItems (finalAssignments now tables consumerID groups maxAttempts settled))
    (second : right ∈ reportItems (finalAssignments now tables consumerID
      groups maxAttempts settled))
    (identity : left.key.identity = right.key.identity)
    (print : left.fingerprint = right.fingerprint) :
    right = { left with duplicate := right.duplicate } := by
  have inputs := entry_consumers consumerID items consumers
  have unique : ((batchEntries items).map BatchPreparedItem.index).Nodup := by
    rw [batchEntries_indices]
    exact List.nodup_range
  have report := mem_report consumerID now tables maxAttempts settled active grouped inputs unique
  obtain ⟨leftIndex, group, member, leftAssigned⟩ := (report left).mp first
  obtain ⟨rightIndex, other, present, rightAssigned⟩ := (report right).mp second
  have key := (identityOf_inj consumerID _ _).mp ((leftAssigned.identity consumerID now tables
    maxAttempts settled grouped inputs group member).symm.trans (identity.trans
      (rightAssigned.identity consumerID now tables maxAttempts settled
        grouped inputs other present)))
  obtain rfl := List.inj_on_of_nodup_map grouped.keys member present key
  rcases leftAssigned with ⟨leftEntry, leftInside, leftOther, _, rfl⟩ |
    ⟨matched, leftErr, lead, leftFinished, leftInside⟩
  · rcases rightAssigned with ⟨rightEntry, rightInside, _, _, rfl⟩ | ⟨matched, err, lead, _, inside⟩
    · have keys := entry_key consumerID grouped inputs group member leftEntry
        rightEntry leftInside rightInside
      have prints : leftEntry.item.fingerprint = rightEntry.item.fingerprint := print
      simp only [conflictOutcome, keys, prints]
    · obtain ⟨entry, _, _, duplicate, rfl⟩ := mem_assignBatchOutcome _ _ _ _ inside
      refine absurd (print.trans ?_) leftOther
      exact (attemptOutcome_fingerprint ..).trans (leadOf_fingerprint now _ group matched lead)
  · rcases rightAssigned with ⟨rightEntry, _, rightOther, _, rfl⟩ |
      ⟨again, rightErr, leadAgain, rightFinished, rightInside⟩
    · obtain ⟨entry, _, _, duplicate, rfl⟩ := mem_assignBatchOutcome _ _ _ _ leftInside
      refine absurd (print.symm.trans ?_) rightOther
      exact (attemptOutcome_fingerprint ..).trans (leadOf_fingerprint now _ group matched lead)
    · obtain rfl := Option.some.inj (lead.symm.trans leadAgain)
      have outcomes : attemptOutcome ((tables.slice (identityOf consumerID group.key)).verdict
            matched.lead.item.key matched.lead.item.fingerprint maxAttempts) matched.lead.item
            maxAttempts rightErr =
          attemptOutcome ((tables.slice (identityOf consumerID group.key)).verdict
            matched.lead.item.key matched.lead.item.fingerprint maxAttempts) matched.lead.item
            maxAttempts leftErr := by
        by_cases admitted : ((tables.slice (identityOf consumerID group.key)).verdict
            matched.lead.item.key matched.lead.item.fingerprint maxAttempts).admits = true
        · rw [settled_unique consumerID now tables maxAttempts settled active grouped inputs _ _ _
            (rightFinished admitted) (leftFinished admitted)]
        · rw [attemptOutcome_unadmitted maxAttempts _ _ _ (Bool.eq_false_iff.mpr admitted),
            attemptOutcome_unadmitted maxAttempts _ _ leftErr (Bool.eq_false_iff.mpr admitted)]
      rw [outcomes] at rightInside
      obtain ⟨leftEntry, leftListed, _, leftDuplicate, rfl⟩ :=
        mem_assignBatchOutcome _ _ _ _ leftInside
      obtain ⟨rightEntry, rightListed, _, rightDuplicate, rfl⟩ :=
        mem_assignBatchOutcome _ _ _ _ rightInside
      have keys := entry_key consumerID grouped inputs group member leftEntry rightEntry
        (matchGroup_mem _ _ _ lead leftEntry leftListed).1
        (matchGroup_mem _ _ _ lead rightEntry rightListed).1
      simp only [keys]

include active grouped ordered consumers in
theorem report_conflicts (outcome : BatchItemOutcome F) (reported : outcome ∈ reportItems
      (finalAssignments now tables consumerID groups maxAttempts settled))
    (different : expectedFingerprint tables items outcome.key.identity ≠ some outcome.fingerprint) :
    outcome.outcome = .dlq ∧ outcome.failureKind = some .identityConflict := by
  have inputs := entry_consumers consumerID items consumers
  have unique : ((batchEntries items).map BatchPreparedItem.index).Nodup := by
    rw [batchEntries_indices]
    exact List.nodup_range
  obtain ⟨index, group, member, assigned⟩ := (mem_report consumerID now tables maxAttempts settled
    active grouped inputs unique outcome).mp reported
  have identity := assigned.identity consumerID now tables maxAttempts settled
    grouped inputs group member
  rcases assigned with ⟨entry, _, _, _, rfl⟩ | ⟨matched, err, lead, _, inside⟩
  · exact ⟨rfl, rfl⟩
  · refine absurd ?_ different
    rw [identity, expectedFingerprint_locked consumerID now tables items grouped
      ordered consumers group member]
    obtain ⟨entry, _, _, duplicate, rfl⟩ := mem_assignBatchOutcome _ _ _ _ inside
    have print := (attemptOutcome_fingerprint
      ((tables.slice (identityOf consumerID group.key)).verdict matched.lead.item.key
        matched.lead.item.fingerprint maxAttempts) matched.lead.item maxAttempts err).trans
      (leadOf_fingerprint now _ group matched lead)
    exact congrArg some print.symm

end Report

end Groups

end Leads

section Cover

variable (expected : List BatchItemKey) (result : List BatchItemResult)

theorem collectResult_keys (byKey collected : List (BatchItemKey × Option GoError))
    (accepted : collectResult expected byKey result = .ok collected) :
    (∀ item ∈ result, item.key ∈ expected ∧ byKey.lookup item.key = none) ∧
      (result.map BatchItemResult.key).Nodup := by
  induction result generalizing byKey with
  | nil => exact ⟨nofun, List.nodup_nil⟩
  | cons head tail ih =>
    unfold collectResult at accepted
    split at accepted
    · cases accepted
    · rename_i known
      split at accepted
      · cases accepted
      · rename_i fresh
        obtain ⟨later, distinct⟩ := ih ((head.key, head.err) :: byKey) accepted
        have apart : ∀ item ∈ tail, item.key ≠ head.key ∧ byKey.lookup item.key = none := by
          intro item member
          have missing := (later item member).2
          rw [List.lookup_cons] at missing
          split at missing
          · cases missing
          · rename_i different
            exact ⟨beq_eq_false_iff_ne.mp different, missing⟩
        constructor
        · intro item member
          rcases List.mem_cons.mp member with rfl | inside
          · exact ⟨not_not.mp known, Option.not_isSome_iff_eq_none.mp fresh⟩
          · exact ⟨(later item inside).1, (apart item inside).2⟩
        · rw [List.map_cons, List.nodup_cons]
          refine ⟨fun listed => ?_, distinct⟩
          obtain ⟨item, inside, same⟩ := List.mem_map.mp listed
          exact (apart item inside).1 same

/-- A result that passes validation is an exact cover. -/
theorem validateResult_cover (errors : List (Option GoError))
    (accepted : validateResult expected result = .ok errors) :
    (result.map BatchItemResult.key).Perm expected := by
  unfold validateResult at accepted
  split at accepted
  · cases accepted
  · rename_i lengths
    split at accepted
    · cases accepted
    · split at accepted
      · cases accepted
      · rename_i byKey collected
        obtain ⟨named, distinct⟩ := collectResult_keys expected result [] byKey collected
        have inside : result.map BatchItemResult.key ⊆ expected := by
          intro key listed
          obtain ⟨item, member, rfl⟩ := List.mem_map.mp listed
          exact (named item member).1
        refine (List.subperm_of_subset distinct inside).perm_of_length_le ?_
        rw [List.length_map]
        omega

end Cover

section Outcome

variable {F : Type} [LinearOrder F] [Sha256 F]

/-- The batch returned an error: nothing is stored and nothing is reported. -/
structure Refused (tables : Tables F) (call : Call F (Reply F)) : Prop where
  failed : call.err ≠ none
  unchanged : call.tables = tables
  unreported : call.reply = .batch noReport

/-- The batch returned a report, one outcome for each input. -/
structure Reported (tables : Tables F) (items : List (BatchItem F)) (maxAttempts : Nat)
    (call : Call F (Reply F)) (report : BatchProcessResult F) : Prop where
  succeeded : call.err = none
  replied : call.reply = .batch report
  aligned : report.items.map (fun outcome => (⟨outcome.key, outcome.fingerprint⟩ : BatchItem F)) =
    items
  handed : HandsLeads tables items maxAttempts call.invoked
  shared : ∀ left ∈ report.items, ∀ right ∈ report.items,
    left.key.identity = right.key.identity → left.fingerprint = right.fingerprint →
    right = { left with duplicate := right.duplicate }
  conflicts : ∀ outcome ∈ report.items,
    expectedFingerprint tables items outcome.key.identity ≠ some outcome.fingerprint →
    outcome.outcome = .dlq ∧ outcome.failureKind = some .identityConflict

/-- Two inputs of one identity carry different generations. -/
def MixesGenerations (items : List (BatchItem F)) : Prop :=
  ∃ left ∈ items, ∃ right ∈ items, left.key.identity = right.key.identity ∧
    left.key.attemptGeneration ≠ right.key.attemptGeneration

/-- The handler was invoked and returned an error, or a result that does not
name each item it was given exactly once. -/
def Misanswered (handler : BatchHandler F) (invoked : List (BatchItem F)) : Prop :=
  invoked ≠ [] ∧ ((handler invoked).2 ≠ none ∨ ¬ ((handler invoked).1.map BatchItemResult.key).Perm
      (invoked.map (fun item => batchKey item.key)))

omit [Sha256 F] in
theorem refused_rollback (tables : Tables F) (invoked : List (BatchItem F)) (err : GoError) :
    Refused tables ((Call.rollback tables invoked noReport err).map Reply.batch) :=
  ⟨Option.some_ne_none err, rfl, rfl⟩

section Ends

variable (consumerID : String) (now : Readings) (tables : Tables F) (items : List (BatchItem F))
variable (maxAttempts : Nat) (handler : BatchHandler F)
variable (consumers : ∀ item ∈ items, item.key.consumerID = consumerID)
variable {groups : List (BatchGroup F)} (settled : List (MatchedGroup F × Option GoError))
variable (given : Answered consumerID now tables items maxAttempts groups (settled.map Prod.fst))

include given consumers in
theorem Answered.unmixed : ¬ MixesGenerations items := by
  rintro ⟨left, leftMember, right, rightMember, same, different⟩
  obtain ⟨leftIndex, leftPlaced⟩ := List.mem_iff_getElem?.mp leftMember
  obtain ⟨rightIndex, rightPlaced⟩ := List.mem_iff_getElem?.mp rightMember
  obtain ⟨group, member, inside, identity⟩ :=
    group_of_input consumerID items given.grouped consumers
    leftIndex left leftPlaced
  have present := group_has_input consumerID items given.grouped consumers group member rightIndex
    right rightPlaced (same.symm.trans identity)
  exact different ((given.grouped.uniform group member _ inside).trans
    (given.grouped.uniform group member _ present).symm)

include given consumers in
theorem Answered.keys : settled.map (fun entry => entry.1.key) =
    settled.map (fun entry => batchKey entry.1.lead.item.key) := by
  have bound := given.bound consumerID settled now tables items maxAttempts groups consumers
  refine List.map_congr_left (fun entry member => ?_)
  have leads := bound.leads entry.1 (List.mem_map_of_mem member)
  have own : entry.1.lead.item.key.identity =
      identityOf entry.1.lead.item.key.consumerID (batchKey entry.1.lead.item.key) := rfl
  rw [own, identityOf, identityOf, Identity.mk.injEq] at leads
  calc
    entry.1.key = ⟨entry.1.key.source, entry.1.key.messageID⟩ := rfl
    _ = ⟨(batchKey entry.1.lead.item.key).source, (batchKey entry.1.lead.item.key).messageID⟩ := by
      rw [leads.2.1, leads.2.2]

include given consumers in
theorem commitTerminalBatch_reported (recorded : Tables F)
    (finished : List (BatchItem F × Option GoError)) (generations : List (Identity ×ₗ F)) :
    Reported tables items maxAttempts
      (Call.map Reply.batch ⟨recorded, settled.map (fun entry => entry.1.lead.item), finished,
        generations,
        ⟨reportItems (finalAssignments now tables consumerID groups maxAttempts settled),
          (settled.map (fun entry => entry.1.lead.item)).length⟩, none⟩)
      ⟨reportItems (finalAssignments now tables consumerID groups maxAttempts settled),
        (settled.map (fun entry => entry.1.lead.item)).length⟩ where
  succeeded := rfl
  replied := rfl
  aligned := report_aligned consumerID now tables items maxAttempts given.grouped
    consumers settled given.active
  handed := by
    have handed := handsLeads_of_active consumerID now tables items maxAttempts given.grouped
      given.ordered consumers (settled.map Prod.fst) given.active given.sorted
    rw [List.map_map] at handed
    exact handed
  shared left first right second := report_shared consumerID now tables items
    maxAttempts given.grouped
    consumers settled given.active left right first second
  conflicts outcome reported := report_conflicts consumerID now tables items
    maxAttempts given.grouped
    given.ordered consumers settled given.active outcome reported

include consumers in
theorem batchEnd_outcome (call : Call F (BatchProcessResult F))
    (ended : BatchEnd consumerID now tables items maxAttempts handler call) :
    Refused tables (call.map .batch) ∨ ¬ MixesGenerations items ∧
      ¬ Misanswered handler call.invoked ∧
        ∃ report, Reported tables items maxAttempts (call.map .batch) report := by
  cases ended with
  | mixed err rejected => exact .inl (refused_rollback tables _ err)
  | failed groups active result err given answer => exact .inl (refused_rollback tables _ _)
  | invalid groups active result err given answer rejected =>
    exact .inl (refused_rollback tables _ err)
  | settled groups settled given answer =>
    unfold commitTerminalBatch
    simp only
    split
    · exact .inl (refused_rollback tables _ _)
    · refine .inr ⟨given.unmixed consumerID now tables items maxAttempts consumers settled, ?_, _,
        commitTerminalBatch_reported consumerID now tables items maxAttempts consumers settled given
          _ _ _⟩
      rintro ⟨invoked, wrong⟩
      rcases answer with rfl | ⟨result, answer, accepted⟩
      · exact invoked rfl
      · have cover := validateResult_cover _ result _ accepted
        rw [given.keys consumerID now tables items maxAttempts consumers settled] at cover
        simp only [answer, List.map_map] at wrong
        rcases wrong with failed | uncovered
        · exact failed rfl
        · exact uncovered cover

end Ends

/-- A batch call reports one outcome for each of its inputs, or it fails and
nothing happened; mixed generations, a handler error and a result that is no
exact cover always fail it. -/
theorem batch_covers (backend : Backend) (tables : Tables F) (items : List (BatchItem F))
    (maxAttempts : Nat) (handler : BatchHandler F) (now : Readings) (ends : TxEnd) :
    let call := step backend tables ⟨.processBatchAttempt items maxAttempts handler, now, ends⟩
    (Refused tables call ∨ ∃ report, Reported tables items maxAttempts call report) ∧
      (MixesGenerations items ∨ Misanswered handler call.invoked → Refused tables call) := by
  intro call
  suffices outcome : Refused tables call ∨ ¬ MixesGenerations items ∧
    ¬ Misanswered handler call.invoked ∧
        ∃ report, Reported tables items maxAttempts call report by
    rcases outcome with refused | ⟨unmixed, answered, reported⟩
    · exact ⟨.inl refused, fun _ => refused⟩
    · refine ⟨.inr reported, ?_⟩
      rintro (mixed | wrong)
      · exact absurd mixed unmixed
      · exact absurd wrong answered
  simp only [call, step]
  cases ends with
  | fails ran err => exact .inl ⟨Option.some_ne_none err, rfl, rfl⟩
  | asDecided =>
    simp only [Op.perform, Store.processBatchAttempt]
    split
    · exact .inl (refused_rollback tables _ _)
    · rename_i first rest
      by_cases unlimited : maxAttempts = 0
      · rw [if_pos unlimited]
        exact .inl (refused_rollback tables _ _)
      · rw [if_neg unlimited]
        split
        · exact .inl (refused_rollback tables _ _)
        · rename_i accepted
          have valid := validateItems_consumers first.key.consumerID _ 0 [] accepted
          have consumers : ∀ item ∈ first :: rest, item.key.consumerID = first.key.consumerID :=
            fun item member => (valid item member).1
          rw [processBatchAttempt_eq backend now tables first.key.consumerID _
            maxAttempts handler consumers]
          exact batchEnd_outcome first.key.consumerID now tables _ maxAttempts handler consumers _
            (runBatch_end first.key.consumerID now tables _ maxAttempts handler)

end Outcome

def repeatedItems : List (BatchItem Preimage) :=
  [⟨sampleKey, ⟨[1]⟩⟩, ⟨sampleKey, ⟨[2]⟩⟩, ⟨sampleKey, ⟨[1]⟩⟩]

def mixedItems : List (BatchItem Preimage) :=
  [⟨sampleKey, ⟨[1]⟩⟩, ⟨{ sampleKey with attemptGeneration := "replay" }, ⟨[1]⟩⟩]

def completing : BatchHandler Preimage := fun items =>
  (items.map (fun item => ⟨batchKey item.key, none⟩), none)

/-- A repeated and a conflicting input are reported; mixed generations are refused. -/
theorem batch_covers_repeated : (∃ report, Reported (Tables.empty Preimage) repeatedItems 3
      (step .sqlite (Tables.empty Preimage)
        (sampleStep (.processBatchAttempt repeatedItems 3 completing))) report) ∧
    Refused (Tables.empty Preimage) (step .sqlite (Tables.empty Preimage)
      (sampleStep (.processBatchAttempt mixedItems 3 completing))) := by
  constructor
  · rcases (batch_covers .sqlite (Tables.empty Preimage) repeatedItems 3 completing sampleReadings
      .asDecided).1 with refused | reported
    · exact absurd (by decide) refused.failed
    · exact reported
  · refine (batch_covers .sqlite (Tables.empty Preimage) mixedItems 3 completing
      sampleReadings .asDecided).2 (.inl ?_)
    exact ⟨mixedItems.head (by decide), by decide,
      mixedItems.getLast (by decide), by decide, by decide, by decide⟩

end Gomessenger.Inbox
