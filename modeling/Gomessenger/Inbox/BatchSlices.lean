import Gomessenger.Inbox.BatchSpec

/-! The tables after a settled batch, identity by identity. -/

namespace Gomessenger.Inbox

open LocalAction

section Slices

variable {F : Type} [LinearOrder F] [Sha256 F]

/-- The rows of a group's identity after the batch settled: the attempt of its
lead item with the error the handler gave it. -/
def GroupSettled (now : Readings) (maxAttempts : Nat)
    (settled : List (MatchedGroup F × Option GoError)) (slice next : Slice F)
    (group : BatchGroup F) : Prop :=
  match leadOf now slice group with
  | none => next = slice
  | some matched => ∃ err,
      ((slice.verdict matched.lead.item.key matched.lead.item.fingerprint maxAttempts).admits =
        true →
        (matched.counted slice, err) ∈ settled) ∧
      slice.attempt matched.lead.item.key matched.lead.item.fingerprint now
        maxAttempts err = some next

variable (consumerID : String) {entries : List (BatchPreparedItem F)} {groups : List (BatchGroup F)}
variable (now : Readings) (tables : Tables F) (maxAttempts : Nat)

section Pass

variable (settled : List (MatchedGroup F × Option GoError))
variable (act : MatchedGroup F → Tables F → Tables F) (change : MatchedGroup F → Slice F → Slice F)
variable (acts : ∀ group,
    ActsAt Tables.slice (identityOf consumerID (MatchedGroup.toBatchGroup group).key)
  (act group) (change group))
variable (keep : MatchedGroup F × Option GoError → Bool)

omit [Sha256 F] in
include acts in
theorem pass_here (bound : Bound consumerID (settled.map Prod.fst))
    (entry : MatchedGroup F × Option GoError) (member : entry ∈ settled) :
    (((settled.filter keep).map Prod.fst).foldl (fun current group => act group current)
        tables).slice (identityOf consumerID entry.1.key) =
      if keep entry then change entry.1 (tables.slice (identityOf consumerID entry.1.key))
      else tables.slice (identityOf consumerID entry.1.key) := by
  have distinct : (settled.map (fun entry => identityOf consumerID entry.1.key)).Nodup := by
    have mapped := bound.identities
    rw [List.map_map] at mapped
    exact mapped
  rw [List.foldl_map]
  exact foldl_view_of_mem (fun entry => identityOf consumerID entry.1.key)
    (fun entry current => act entry.1 current) (fun entry => change entry.1) settled keep
    (fun other _ => acts other.1) distinct tables entry member

omit [Sha256 F] in
include acts in
theorem pass_elsewhere (id : Identity) (absent : ∀ entry ∈ settled,
    identityOf consumerID entry.1.key ≠ id) :
    (((settled.filter keep).map Prod.fst).foldl (fun current group => act group current)
        tables).slice id = tables.slice id := by
  rw [List.foldl_map]
  exact foldl_view_of_notMem (fun entry => identityOf consumerID entry.1.key)
    (fun entry current => act entry.1 current) (fun entry => change entry.1) _
    (fun other _ => acts other.1) tables id
    (fun entry member => absent entry (List.mem_of_mem_filter member))

def settledTables (now : Readings) (tables : Tables F) (consumerID : String)
    (groups : List (BatchGroup F)) (settled : List (MatchedGroup F × Option GoError)) : Tables F :=
  terminateGroups now consumerID (completeGroups now consumerID
      (incrementGroups now consumerID (Pgsql.insertBatchIdentities now tables consumerID groups)
        (consumingGroups settled)) (selectSettled .success settled))
    (selectSettled .permanent settled)

theorem settledTables_elsewhere (id : Identity) (absent : ∀ entry ∈ settled,
    identityOf consumerID entry.1.key ≠ id) :
    (settledTables now tables consumerID groups settled).slice id =
      (Pgsql.insertBatchIdentities now tables consumerID groups).slice id := by
  have terminated :=
    pass_elsewhere consumerID (completeGroups now consumerID (incrementGroups now consumerID
      (Pgsql.insertBatchIdentities now tables consumerID groups) (consumingGroups settled))
      (selectSettled .success settled)) settled
    (fun group current => current.markTerminal (identityOf consumerID group.key) group.generation
      group.attempt now.marked) _ (markTerminal_acts consumerID now)
    (fun entry => (classify entry.2).1 = .permanent) id absent
  have completed := pass_elsewhere consumerID (incrementGroups now consumerID
      (Pgsql.insertBatchIdentities now tables consumerID groups) (consumingGroups settled)) settled
    (fun group current => current.markComplete (identityOf consumerID group.key) now.completed) _
    (fun group => markComplete_acts (identityOf consumerID group.key) now.completed)
    (fun entry => (classify entry.2).1 = .success) id absent
  have incremented :=
    pass_elsewhere consumerID (Pgsql.insertBatchIdentities now tables consumerID groups) settled
    (fun group current => incrementGroup now.attempted consumerID current group) _
    (incrementGroup_acts consumerID now.attempted)
    (fun entry => (classify entry.2).1 ≠ .deferred) id absent
  exact terminated.trans (completed.trans incremented)

def Slice.settleRows (now : Readings) (group : MatchedGroup F) (err : Option GoError)
    (slice : Slice F) : Slice F :=
  match (classify err).1 with
  | .deferred => slice
  | .success =>
    (slice.upsertAttempt group.generation group.attempt now.attempted).markComplete now.completed
  | .permanent =>
    (slice.upsertAttempt group.generation group.attempt now.attempted).markTerminal
      group.generation group.attempt now.marked
  | .retryAfter | .ordinary => slice.upsertAttempt group.generation group.attempt now.attempted

theorem settledTables_here (groups : List (BatchGroup F))
    (bound : Bound consumerID (settled.map Prod.fst))
    (entry : MatchedGroup F × Option GoError) (member : entry ∈ settled) :
    (settledTables now tables consumerID groups settled).slice (identityOf consumerID entry.1.key) =
      ((Pgsql.insertBatchIdentities now tables consumerID groups).slice
        (identityOf consumerID entry.1.key)).settleRows now entry.1 entry.2 := by
  have terminated :=
    pass_here consumerID (completeGroups now consumerID (incrementGroups now consumerID
      (Pgsql.insertBatchIdentities now tables consumerID groups) (consumingGroups settled))
      (selectSettled .success settled)) settled
    (fun group current => current.markTerminal (identityOf consumerID group.key) group.generation
      group.attempt now.marked) _ (markTerminal_acts consumerID now)
    (fun entry => (classify entry.2).1 = .permanent) bound entry member
  have completed := pass_here consumerID (incrementGroups now consumerID
      (Pgsql.insertBatchIdentities now tables consumerID groups) (consumingGroups settled)) settled
    (fun group current => current.markComplete (identityOf consumerID group.key) now.completed) _
    (fun group => markComplete_acts (identityOf consumerID group.key) now.completed)
    (fun entry => (classify entry.2).1 = .success) bound entry member
  have incremented :=
    pass_here consumerID (Pgsql.insertBatchIdentities now tables consumerID groups) settled
    (fun group current => incrementGroup now.attempted consumerID current group) _
    (incrementGroup_acts consumerID now.attempted)
    (fun entry => (classify entry.2).1 ≠ .deferred) bound entry member
  refine terminated.trans ?_
  rw [show (completeGroups now consumerID (incrementGroups now consumerID
      (Pgsql.insertBatchIdentities now tables consumerID groups) (consumingGroups settled))
      (selectSettled .success settled)).slice (identityOf consumerID entry.1.key) = _ from
        completed,
    show (incrementGroups now consumerID (Pgsql.insertBatchIdentities now tables consumerID groups)
      (consumingGroups settled)).slice (identityOf consumerID entry.1.key) = _ from incremented]
  unfold Slice.settleRows
  cases (classify entry.2).1 <;> simp

section Report

variable (active : (settled.map Prod.fst).Perm
    (referencePrepared now tables consumerID groups maxAttempts).active)
variable (grouped : GroupsOf entries groups)
variable (consumers : ∀ entry ∈ entries, entry.item.key.consumerID = consumerID)
variable (distinct : (entries.map BatchPreparedItem.index).Nodup)

variable (group : BatchGroup F) (matched : MatchedGroup F) (slice : Slice F)

omit [LinearOrder F] [Sha256 F] in
include grouped consumers in
theorem entry_identity (member : group ∈ groups) (entry : BatchPreparedItem F)
    (inside : entry ∈ group.entries) :
    entry.item.key.identity = identityOf consumerID group.key := by
  have key := grouped.named group member entry inside
  have consumer := consumers entry (grouped.mem_entries group member entry inside)
  rw [← key, ← consumer]
  rfl

omit [LinearOrder F] [Sha256 F] in
include grouped consumers in
theorem entry_key (member : group ∈ groups) (left right : BatchPreparedItem F)
    (first : left ∈ group.entries)
    (second : right ∈ group.entries) : left.item.key = right.item.key := by
  apply Key.eq_of_identity
  · exact (entry_identity consumerID grouped consumers group member left first).trans
      (entry_identity consumerID grouped consumers group member right second).symm
  · exact (grouped.uniform group member left first).trans
      (grouped.uniform group member right second).symm

omit [LinearOrder F] [Sha256 F] in
theorem mem_assignBatchOutcome (group : MatchedGroup F) (outcome assigned : BatchItemOutcome F)
    (index : Nat) (member : (index, assigned) ∈ assignBatchOutcome group outcome) :
    ∃ entry ∈ group.lead :: group.copies, index = entry.index ∧ ∃ duplicate,
      assigned = { outcome with key := entry.item.key, duplicate } := by
  rcases List.mem_cons.mp member with first | later
  · obtain ⟨rfl, rfl⟩ := Prod.mk.inj first
    exact ⟨group.lead, List.mem_cons_self .., rfl, outcome.duplicate, rfl⟩
  · obtain ⟨entry, inside, built⟩ := List.mem_map.mp later
    obtain ⟨rfl, rfl⟩ := Prod.mk.inj built
    exact ⟨entry, List.mem_cons_of_mem _ inside, rfl, true, rfl⟩

omit [LinearOrder F] [Sha256 F] in
theorem lead_assigned (verdict : Verdict) (err : Option GoError) :
    (matched.lead.index, attemptOutcome verdict matched.lead.item maxAttempts err) ∈
      assignBatchOutcome matched (attemptOutcome verdict matched.lead.item maxAttempts err) := by
  refine List.mem_cons.mpr (.inl ?_)
  rw [← attemptOutcome_key verdict matched.lead.item maxAttempts err]

include grouped consumers in
theorem GroupAssigns.identity (member : group ∈ groups) (index : Nat) (outcome : BatchItemOutcome F)
    (assigned : GroupAssigns now maxAttempts settled
      (tables.slice (identityOf consumerID group.key)) group index outcome) :
    outcome.key.identity = identityOf consumerID group.key := by
  rcases assigned with ⟨entry, inside, _, _, rfl⟩ | ⟨matched, err, lead, _, inside⟩
  · exact entry_identity consumerID grouped consumers group member entry inside
  · obtain ⟨entry, listed, _, duplicate, rfl⟩ := mem_assignBatchOutcome _ _ _ _ inside
    exact entry_identity consumerID grouped consumers group member entry
      (matchGroup_mem _ _ _ lead entry listed).1

include active grouped consumers distinct in
theorem mem_report (outcome : BatchItemOutcome F) :
    outcome ∈ reportItems (finalAssignments now tables consumerID groups maxAttempts settled) ↔
      ∃ index, ∃ group ∈ groups, GroupAssigns now maxAttempts settled
        (tables.slice (identityOf consumerID group.key)) group index outcome := by
  have unique :
      ((finalAssignments now tables consumerID groups maxAttempts settled).map Prod.fst).Nodup :=
    (assigned_cover consumerID now tables maxAttempts grouped settled active _).nodup_iff.mpr
      distinct
  simp only [reportItems, List.mem_map]
  constructor
  · rintro ⟨⟨index, reported⟩, stored, rfl⟩
    exact ⟨index, (mem_finalAssignments consumerID now tables maxAttempts settled active grouped
      consumers index reported).mp ((KeyedTable.mem_ofAssignments _ unique _).mp stored)⟩
  · rintro ⟨index, assigned⟩
    exact ⟨(index, outcome), (KeyedTable.mem_ofAssignments _ unique _).mpr
      ((mem_finalAssignments consumerID now tables maxAttempts settled
        active grouped consumers index
        outcome).mpr assigned), rfl⟩

include active grouped consumers distinct in
theorem mem_report_at (member : group ∈ groups) (outcome : BatchItemOutcome F) :
    (outcome ∈ reportItems (finalAssignments now tables consumerID groups maxAttempts settled) ∧
      outcome.key.identity = identityOf consumerID group.key) ↔
      ∃ index, GroupAssigns now maxAttempts settled
        (tables.slice (identityOf consumerID group.key)) group index outcome := by
  rw [mem_report consumerID now tables maxAttempts settled active grouped consumers distinct]
  constructor
  · rintro ⟨⟨index, other, present, assigned⟩, same⟩
    have identity := assigned.identity consumerID now tables maxAttempts settled
      grouped consumers other present
    have key := (identityOf_inj consumerID _ _).mp (identity.symm.trans same)
    have equal := List.inj_on_of_nodup_map grouped.keys present member key
    subst equal
    exact ⟨index, assigned⟩
  · rintro ⟨index, assigned⟩
    exact ⟨⟨index, group, member, assigned⟩, assigned.identity consumerID now tables maxAttempts
      settled grouped consumers group member⟩

include active grouped consumers in
theorem settled_unique (left right : Option GoError)
    (first : (matched, left) ∈ settled) (second : (matched, right) ∈ settled) : left = right := by
  have bound : Bound consumerID (settled.map Prod.fst) :=
    (referencePrepared_bound consumerID now tables maxAttempts grouped consumers).perm active.symm
  have keys := bound.keys
  rw [List.map_map] at keys
  exact congrArg Prod.snd (List.inj_on_of_nodup_map keys first second rfl)

include active grouped consumers distinct in
theorem report_uniform (member : group ∈ groups) (matched : MatchedGroup F) (err : Option GoError)
    (lead : leadOf now (tables.slice (identityOf consumerID group.key)) group = some matched)
    (finished : ((tables.slice (identityOf consumerID group.key)).verdict matched.lead.item.key
        matched.lead.item.fingerprint maxAttempts).admits = true →
      (matched.counted (tables.slice (identityOf consumerID group.key)), err) ∈ settled)
    (item : BatchItemOutcome F)
    (reported : item ∈ reportItems (finalAssignments now tables consumerID
      groups maxAttempts settled))
    (same : item.key.identity = identityOf consumerID group.key) :
    Neutral item ∨ SameDecision item (attemptOutcome
      ((tables.slice (identityOf consumerID group.key)).verdict matched.lead.item.key
        matched.lead.item.fingerprint maxAttempts) matched.lead.item maxAttempts err) := by
  obtain ⟨index, assigned⟩ :=
    (mem_report_at consumerID now tables maxAttempts settled active grouped
    consumers distinct group member item).mp ⟨reported, same⟩
  rcases assigned with ⟨entry, _, _, _, rfl⟩ | ⟨other, otherErr, otherLead, otherFinished, inside⟩
  · exact .inl (conflictOutcome_neutral entry)
  · obtain rfl : matched = other := Option.some.inj (lead.symm.trans otherLead)
    have outcomes : attemptOutcome ((tables.slice (identityOf consumerID group.key)).verdict
          matched.lead.item.key matched.lead.item.fingerprint maxAttempts) matched.lead.item
          maxAttempts otherErr =
        attemptOutcome ((tables.slice (identityOf consumerID group.key)).verdict
          matched.lead.item.key matched.lead.item.fingerprint maxAttempts) matched.lead.item
          maxAttempts err := by
      by_cases admitted : ((tables.slice (identityOf consumerID group.key)).verdict
          matched.lead.item.key matched.lead.item.fingerprint maxAttempts).admits = true
      · rw [settled_unique consumerID now tables maxAttempts settled active grouped consumers _ _ _
          (otherFinished admitted) (finished admitted)]
      · rw [attemptOutcome_unadmitted maxAttempts _ _ _ (Bool.eq_false_iff.mpr admitted),
          attemptOutcome_unadmitted maxAttempts _ _ err (Bool.eq_false_iff.mpr admitted)]
    rw [outcomes] at inside
    obtain ⟨entry, listed, _, duplicate, rfl⟩ := mem_assignBatchOutcome _ _ _ _ inside
    have key := entry_key consumerID grouped consumers group member entry matched.lead
      (matchGroup_mem _ _ _ lead entry listed).1
      (matchGroup_mem _ _ _ lead _ (.head _)).1
    exact .inr ⟨key.trans (attemptOutcome_key ..).symm, rfl, rfl, rfl, rfl⟩

include active grouped consumers distinct in
theorem report_present (member : group ∈ groups) (matched : MatchedGroup F) (err : Option GoError)
    (lead : leadOf now (tables.slice (identityOf consumerID group.key)) group = some matched)
    (finished : ((tables.slice (identityOf consumerID group.key)).verdict matched.lead.item.key
        matched.lead.item.fingerprint maxAttempts).admits = true →
      (matched.counted (tables.slice (identityOf consumerID group.key)), err) ∈ settled) :
    ∃ item ∈ reportItems (finalAssignments now tables consumerID groups maxAttempts settled),
      item.key.identity = identityOf consumerID group.key ∧ SameDecision item (attemptOutcome
        ((tables.slice (identityOf consumerID group.key)).verdict matched.lead.item.key
          matched.lead.item.fingerprint maxAttempts) matched.lead.item maxAttempts err) := by
  have assigned : GroupAssigns now maxAttempts settled
      (tables.slice (identityOf consumerID group.key)) group matched.lead.index
      (attemptOutcome ((tables.slice (identityOf consumerID group.key)).verdict
        matched.lead.item.key matched.lead.item.fingerprint maxAttempts) matched.lead.item
        maxAttempts err) :=
    .inr ⟨matched, err, lead, finished, lead_assigned maxAttempts matched _ err⟩
  obtain ⟨reported, same⟩ := (mem_report_at consumerID now tables maxAttempts settled active grouped
    consumers distinct group member _).mpr ⟨_, assigned⟩
  exact ⟨_, reported, same, rfl, rfl, rfl, rfl, rfl⟩

include active grouped in
theorem settledTables_idle (member : group ∈ groups)
    (refused : ∀ matched, leadOf now (tables.slice (identityOf consumerID group.key)) group =
      some matched → ((tables.slice (identityOf consumerID group.key)).verdict
        matched.lead.item.key matched.lead.item.fingerprint maxAttempts).admits = false) :
    (settledTables now tables consumerID groups settled).slice (identityOf consumerID group.key) =
      (tables.slice (identityOf consumerID group.key)).insertIdentity now.created
        group.front.item.fingerprint := by
  rw [settledTables_elsewhere consumerID now tables settled,
    insertBatchIdentities_slice consumerID now tables grouped group member]
  intro entry inside same
  obtain ⟨matched, lead, admitted, _⟩ := settled_group consumerID now tables maxAttempts settled
    active grouped group member entry inside ((identityOf_inj consumerID _ _).mp same)
  rw [refused matched lead] at admitted
  cases admitted

omit [LinearOrder F] [Sha256 F] in
theorem Slice.insertIdentity_some (time : Time) (fingerprint : F)
    (row : IdentityRow F) (found : slice.identity = some row) :
    slice.insertIdentity time fingerprint = slice := by
  simp [Slice.insertIdentity, found]

omit [Sha256 F] in
theorem insertIdentity_lead (group : BatchGroup F) (matched : MatchedGroup F)
    (lead : leadOf now slice group = some matched) (time : Time) :
    slice.insertIdentity time group.front.item.fingerprint =
      slice.insertIdentity time matched.lead.item.fingerprint := by
  cases found : slice.identity with
  | some row =>
    rw [slice.insertIdentity_some time _ row found, slice.insertIdentity_some time _ row found]
  | none =>
    have stored := leadOf_fingerprint now slice group matched lead
    simp only [lockedRow, found, Option.getD_none] at stored
    rw [stored]

theorem Slice.settleRows_settle (slice : Slice F) (group : MatchedGroup F) (count : Nat)
    (err : Option GoError) :
    let item := group.lead.item
    let decision := attemptOutcome (.admitted count) item maxAttempts err
    let rows := slice.settleRows now group err
    let kept := if decision.outcome = .defer ∧ decision.attempt = 0 then
        rows.insertDeferred decision.key.attemptGeneration
          (attemptFingerprint decision.key.attemptGeneration decision.fingerprint) now.deferred
      else rows
    (match terminalKind? decision with
      | none => kept
      | some kind => kept.recordItem now.recorded (decision, kind)) =
      slice.settle item.key item.fingerprint now maxAttempts count err := by
  rcases classified : classify err with ⟨kind, delay⟩
  cases kind with
  | deferred => simp [Slice.settleRows, Slice.settle, attemptOutcome, classified, terminalKind?]
  | success =>
    simp [Slice.settleRows, Slice.settle, attemptOutcome, classified, terminalKind?,
      MatchedGroup.generation, MatchedGroup.attempt]
  | permanent =>
    simp [Slice.settleRows, Slice.settle, attemptOutcome, classified, terminalKind?,
      Slice.recordItem, MatchedGroup.generation, MatchedGroup.attempt]
  | retryAfter | ordinary =>
    by_cases last : maxAttempts ≤ count + 1 <;>
      simp [Slice.settleRows, Slice.settle, attemptOutcome, classified, terminalKind?, last,
        Slice.recordItem, MatchedGroup.generation, MatchedGroup.attempt]

section Recorded

variable (recorded : Tables F)
variable (accepted :
  let items := reportItems (finalAssignments now tables consumerID groups maxAttempts settled)
  record (preserveDeferred (settledTables now tables consumerID groups settled) items now.deferred)
    items now.recorded = .ok recorded)

include active grouped consumers distinct accepted in
theorem recorded_conflict (group : BatchGroup F) (member : group ∈ groups)
    (unmatched : leadOf now (tables.slice (identityOf consumerID group.key)) group = none) :
    recorded.slice (identityOf consumerID group.key) = tables.slice
      (identityOf consumerID group.key) := by
  have stored : (tables.slice (identityOf consumerID group.key)).identity ≠ none := by
    intro fresh
    obtain ⟨matched, lead⟩ := leadOf_fresh now _ group fresh
    rw [unmatched] at lead
    cases lead
  obtain ⟨row, found⟩ := Option.ne_none_iff_exists'.mp stored
  have different : group.front.item.fingerprint ≠
      (lockedRow now (tables.slice (identityOf consumerID group.key)) group).fingerprint := by
    intro same
    unfold leadOf matchGroup at unmatched
    simp [BatchGroup.entries, same] at unmatched
  have uniform : ∀ item ∈ reportItems (finalAssignments now tables consumerID groups maxAttempts
      settled), item.key.identity = identityOf consumerID group.key →
      Neutral item ∨ SameDecision item (conflictOutcome group.front) := by
    intro item reported same
    obtain ⟨index, assigned⟩ := (mem_report_at consumerID now tables maxAttempts settled active
      grouped consumers distinct group member item).mp ⟨reported, same⟩
    rcases assigned with ⟨entry, _, _, _, rfl⟩ | ⟨matched, _, lead, _⟩
    · exact .inl (conflictOutcome_neutral entry)
    · rw [unmatched] at lead
      cases lead
  have present : ∃ item ∈ reportItems (finalAssignments now tables consumerID groups maxAttempts
      settled), item.key.identity = identityOf consumerID group.key ∧
      SameDecision item (conflictOutcome group.front) := by
    obtain ⟨reported, same⟩ := (mem_report_at consumerID now tables maxAttempts settled active
      grouped consumers distinct group member (conflictOutcome group.front)).mpr
        ⟨group.front.index, .inl ⟨group.front, List.mem_cons_self .., different, rfl, rfl⟩⟩
    exact ⟨_, reported, same, rfl, rfl, rfl, rfl, rfl⟩
  have idle := settledTables_idle consumerID now tables maxAttempts settled active grouped group
    member (fun matched lead => by rw [unmatched] at lead; cases lead)
  rw [Slice.insertIdentity_some _ _ _ row found] at idle
  have final := record_slice _ _ now.recorded _ _ uniform present recorded accepted
  have kept := preserveDeferred_slice (settledTables now tables consumerID groups settled) _
    now.deferred _ _ uniform present
  rw [final, kept, idle]
  rfl

include active grouped consumers distinct accepted in
/-- A committed batch settles every group by the attempt of its lead item. -/
theorem recorded_group (group : BatchGroup F) (member : group ∈ groups) :
    GroupSettled now maxAttempts settled (tables.slice (identityOf consumerID group.key))
      (recorded.slice (identityOf consumerID group.key)) group := by
  unfold GroupSettled
  cases lead : leadOf now (tables.slice (identityOf consumerID group.key)) group with
  | none =>
    exact recorded_conflict consumerID now tables maxAttempts settled active grouped consumers
      distinct recorded accepted group member lead
  | some matched =>
    -- A refused lead has no answer of the handler, and any error stands for it.
    have result : ∃ err, (((tables.slice (identityOf consumerID group.key)).verdict
        matched.lead.item.key matched.lead.item.fingerprint maxAttempts).admits = true →
        (matched.counted (tables.slice (identityOf consumerID group.key)), err) ∈ settled) := by
      by_cases admitted : ((tables.slice (identityOf consumerID group.key)).verdict
          matched.lead.item.key matched.lead.item.fingerprint maxAttempts).admits = true
      · obtain ⟨err, inside⟩ := lead_settled consumerID now tables maxAttempts settled active
          grouped group member matched lead admitted
        exact ⟨err, fun _ => inside⟩
      · exact ⟨none, fun yes => absurd yes admitted⟩
    obtain ⟨err, finished⟩ := result
    refine ⟨err, finished, ?_⟩
    have uniform := report_uniform consumerID now tables maxAttempts settled active grouped
      consumers distinct group member matched err lead finished
    have present := report_present consumerID now tables maxAttempts settled active grouped
      consumers distinct group member matched err lead finished
    have final := record_slice _ _ now.recorded _ _ uniform present recorded accepted
    have kept := preserveDeferred_slice (settledTables now tables consumerID groups settled) _
      now.deferred _ _ uniform present
    have counted := record_counted _ _ now.recorded _ _ uniform present recorded accepted
    have verdict := verdict_lead now maxAttempts _ group matched lead
    have inserted := insertIdentity_lead now _ group matched lead now.created
    have idle : ((tables.slice (identityOf consumerID group.key)).verdict matched.lead.item.key
          matched.lead.item.fingerprint maxAttempts).admits = false →
        (settledTables now tables consumerID groups settled).slice
          (identityOf consumerID group.key) =
          (tables.slice (identityOf consumerID group.key)).insertIdentity now.created
            matched.lead.item.fingerprint := by
      intro refused
      rw [settledTables_idle consumerID now tables maxAttempts settled active grouped group member
        (fun other otherLead => by
          obtain rfl := Option.some.inj (lead.symm.trans otherLead)
          exact refused), inserted]
    rw [Slice.attempt, final, kept]
    generalize decided : (tables.slice (identityOf consumerID group.key)).verdict
      matched.lead.item.key matched.lead.item.fingerprint maxAttempts = choice at *
    cases choice with
    -- The lead carries the stored fingerprint, so it cannot conflict.
    | conflict =>
      split at verdict
      · cases verdict
      · unfold Slice.pending at verdict
        split at verdict <;> cases verdict
    -- Only a stored row can be complete, and inserting the identity keeps it.
    | duplicate count =>
      have stored : (tables.slice (identityOf consumerID group.key)).identity ≠ none := by
        intro fresh
        simp only [lockedRow, fresh, Option.getD_none, ne_eq, not_true_eq_false, if_false,
          Slice.pending] at verdict
        split at verdict <;> cases verdict
      obtain ⟨row, found⟩ := Option.ne_none_iff_exists'.mp stored
      rw [idle rfl, Slice.insertIdentity_some _ _ _ row found]
      rfl
    | closed kind count =>
      have terminal : terminalKind? (attemptOutcome (.closed kind count) matched.lead.item
          maxAttempts err) = some kind := by cases kind <;> rfl
      have positive : 0 < count := counted kind terminal
      rw [idle rfl, terminal]
      simp [attemptOutcome, Slice.recordItem, positive]
    | admitted count =>
      have bound : Bound consumerID (settled.map Prod.fst) :=
        (referencePrepared_bound consumerID now tables maxAttempts grouped consumers).perm
          active.symm
      have here := settledTables_here consumerID now tables settled groups bound _ (finished rfl)
      have key : (matched.counted (tables.slice (identityOf consumerID group.key))).key =
          group.key := leadOf_key now _ group matched lead
      rw [key, insertBatchIdentities_slice consumerID now tables grouped group member, inserted]
        at here
      rw [here]
      exact congrArg some (Slice.settleRows_settle now maxAttempts _ _ count err).symm

include active grouped consumers distinct accepted in
theorem recorded_elsewhere (id : Identity) (absent : ∀ group ∈ groups,
    identityOf consumerID group.key ≠ id) :
    recorded.slice id = tables.slice id := by
  have unreported : ∀ item ∈ reportItems (finalAssignments now tables consumerID groups maxAttempts
      settled), item.key.identity ≠ id := by
    intro item reported same
    obtain ⟨index, group, member, assigned⟩ := (mem_report consumerID now tables maxAttempts settled
      active grouped consumers distinct item).mp reported
    exact absent group member ((assigned.identity consumerID now tables maxAttempts settled grouped
      consumers group member).symm.trans same)
  have unsettled : ∀ entry ∈ settled, identityOf consumerID entry.1.key ≠ id := by
    intro entry inside
    obtain ⟨group, member, key⟩ := settled_key consumerID now tables maxAttempts settled
      active grouped entry inside
    rw [key]
    exact absent group member
  calc
    recorded.slice id = (preserveDeferred (settledTables now tables consumerID groups settled) _
            now.deferred).slice id :=
      record_elsewhere _ _ now.recorded id recorded accepted unreported
    _ = (settledTables now tables consumerID groups settled).slice id :=
      preserveDeferred_elsewhere _ _ now.deferred id unreported
    _ = (Pgsql.insertBatchIdentities now tables consumerID groups).slice id :=
      settledTables_elsewhere consumerID now tables settled id unsettled
    _ = tables.slice id := insertBatchIdentities_elsewhere consumerID now tables id absent

end Recorded

end Report

end Pass

end Slices

end Gomessenger.Inbox
