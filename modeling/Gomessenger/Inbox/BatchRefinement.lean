import Gomessenger.Inbox.BatchReference

/-! Both backends' batch statements refine the reference. -/

namespace Gomessenger.Inbox

open LocalAction

section Matching

variable {F : Type}

theorem bound_flatMap (consumerID : String) (entries : List (BatchPreparedItem F))
    (groups : List (BatchGroup F)) (grouped : GroupsOf entries groups)
    (consumers : ∀ entry ∈ entries, entry.item.key.consumerID = consumerID)
    (pick : BatchGroup F → List (MatchedGroup F))
    (picks : ∀ group ∈ groups, pick group = [] ∨ ∃ matched,
      pick group = [matched] ∧ matched.toBatchGroup = group ∧
        matched.lead ∈ group.entries) :
    Bound consumerID (groups.flatMap pick) := by
  have member : ∀ matched ∈ groups.flatMap pick, ∃ group ∈ groups,
      matched.toBatchGroup = group ∧ matched.lead ∈ group.entries := by
    intro matched present
    obtain ⟨group, inside, picked⟩ := List.mem_flatMap.mp present
    rcases picks group inside with none | ⟨only, single, same, lead⟩
    · rw [none] at picked
      exact absurd picked List.not_mem_nil
    · rw [single, List.mem_singleton] at picked
      subst picked
      exact ⟨group, inside, same, lead⟩
  refine ⟨?_, ?_, ?_⟩
  · have shorter : ((groups.flatMap pick).map (fun matched => matched.key)).Sublist
        (groups.map BatchGroup.key) := by
      clear member grouped
      induction groups with
      | nil => exact List.Sublist.slnil
      | cons group rest ih =>
        have tail := ih (fun other inside => picks other (.tail _ inside))
        rcases picks group (.head _) with none | ⟨matched, single, same, _⟩
        · rw [List.flatMap_cons, none, List.nil_append]
          exact tail.cons _
        · rw [List.flatMap_cons, single, List.singleton_append,
            List.map_cons, List.map_cons, ← same]
          exact tail.cons_cons _
    exact grouped.keys.sublist shorter
  · intro matched present
    obtain ⟨group, inside, same, _⟩ := member matched present
    rw [same]
    exact consumers group.front (grouped.mem_entries group inside _ (.head _))
  · intro matched present
    obtain ⟨group, inside, same, lead⟩ := member matched present
    have key := grouped.named group inside matched.lead lead
    have consumer := consumers matched.lead (grouped.mem_entries group inside _ lead)
    rw [same, ← key, ← consumer]
    rfl
variable [LinearOrder F]

theorem matchGroup_lead (stored : F) (group : BatchGroup F) (matched : MatchedGroup F)
    (found : matchGroup stored group = some matched) :
    matched.toBatchGroup = group ∧ matched.lead :: matched.copies =
        group.entries.filter (fun entry => entry.item.fingerprint = stored) := by
  unfold matchGroup at found
  split at found
  · cases found
  · rename_i lead copies entries
    cases found
    exact ⟨rfl, entries.symm⟩

theorem matchGroup_mem (stored : F) (group : BatchGroup F) (matched : MatchedGroup F)
    (found : matchGroup stored group = some matched) (entry : BatchPreparedItem F)
    (member : entry ∈ matched.lead :: matched.copies) :
    entry ∈ group.entries ∧ entry.item.fingerprint = stored := by
  rw [(matchGroup_lead stored group matched found).2] at member
  obtain ⟨inside, same⟩ := List.mem_filter.mp member
  exact ⟨inside, of_decide_eq_true same⟩

end Matching

section Refinement

variable {F : Type} [LinearOrder F] [Sha256 F]
variable (consumerID : String) {entries : List (BatchPreparedItem F)} {groups : List (BatchGroup F)}

omit [LinearOrder F] [Sha256 F] in
theorem GroupsOf.identities (grouped : GroupsOf entries groups) :
    (groups.map (fun group => identityOf consumerID group.key)).Nodup := by
  have mapped : groups.map (fun group => identityOf consumerID group.key) =
      (groups.map BatchGroup.key).map (identityOf consumerID) := by
    rw [List.map_map]
    rfl
  rw [mapped]
  exact grouped.keys.map (fun _ _ same => (identityOf_inj consumerID _ _).mp same)

omit [Sha256 F] in
theorem insertBatchIdentities_slice (now : Readings) (tables : Tables F)
    (grouped : GroupsOf entries groups) (group : BatchGroup F) (member : group ∈ groups) :
    (Pgsql.insertBatchIdentities now tables consumerID groups).slice
      (identityOf consumerID group.key) =
      (tables.slice (identityOf consumerID group.key)).insertIdentity now.created
        group.front.item.fingerprint := by
  have folded := foldl_view (fun group => identityOf consumerID (BatchGroup.key group))
    (fun group (current : Tables F) => current.insertIdentity (identityOf consumerID group.key)
      now.created group.front.item.fingerprint)
    (fun group (slice : Slice F) => slice.insertIdentity now.created group.front.item.fingerprint)
      groups
    (fun other _ => insertIdentity_acts (identityOf consumerID other.key) now.created
      other.front.item.fingerprint) tables (identityOf consumerID group.key)
  rw [fibre_of_mem _ groups (GroupsOf.identities consumerID grouped) group member] at folded
  exact folded

omit [Sha256 F] in
theorem insertBatchIdentities_elsewhere (now : Readings) (tables : Tables F) (id : Identity)
    (absent : ∀ group ∈ groups, identityOf consumerID group.key ≠ id) :
    (Pgsql.insertBatchIdentities now tables consumerID groups).slice id = tables.slice id :=
  foldl_view_of_notMem (fun group => identityOf consumerID (BatchGroup.key group))
    (fun group (current : Tables F) => current.insertIdentity (identityOf consumerID group.key)
      now.created group.front.item.fingerprint)
    (fun group (slice : Slice F) => slice.insertIdentity now.created group.front.item.fingerprint)
      groups
    (fun other _ => insertIdentity_acts (identityOf consumerID other.key) now.created
      other.front.item.fingerprint) tables id absent

def lockedRow (now : Readings) (slice : Slice F) (group : BatchGroup F) : IdentityRow F :=
  slice.identity.getD ⟨group.front.item.fingerprint, now.created, none⟩

omit [Sha256 F] in
theorem insertBatchIdentities_find (now : Readings) (tables : Tables F)
    (grouped : GroupsOf entries groups) (group : BatchGroup F) (member : group ∈ groups) :
    (Pgsql.insertBatchIdentities now tables consumerID groups).inbox.find?
      (identityOf consumerID group.key) =
      some (lockedRow now (tables.slice (identityOf consumerID group.key)) group) := by
  have slice :=
    congrArg Slice.identity (insertBatchIdentities_slice consumerID now tables grouped group member)
  rw [show (Pgsql.insertBatchIdentities now tables consumerID groups).inbox.find?
      (identityOf consumerID group.key) = ((Pgsql.insertBatchIdentities now tables consumerID
        groups).slice (identityOf consumerID group.key)).identity from rfl, slice]
  unfold Slice.insertIdentity lockedRow
  cases found : (tables.slice (identityOf consumerID group.key)).identity <;> simp [found]

section Prepare

variable (maxAttempts : Nat) (tables : Tables F)
variable (consumers : ∀ entry ∈ entries, entry.item.key.consumerID = consumerID)
variable (grouped : GroupsOf entries groups)

omit [LinearOrder F] [Sha256 F] in
include consumers grouped in
theorem group_consumer (group : BatchGroup F) (member : group ∈ groups) :
    group.consumer = consumerID :=
  consumers group.front (grouped.mem_entries group member _ (.head _))

omit [Sha256 F] in
include consumers grouped in
theorem matched_consumer (stored : F) (group : BatchGroup F) (member : group ∈ groups)
    (matched : MatchedGroup F) (found : matchGroup stored group = some matched) :
    matched.consumer = consumerID :=
  consumers matched.lead (grouped.mem_entries group member _
    (matchGroup_mem stored group matched found _ (.head _)).1)

omit [Sha256 F] in
include consumers grouped in
theorem insertSQLiteBatchIdentities_eq (now : Readings) :
    Sqlite.insertSQLiteBatchIdentities now tables groups =
      Pgsql.insertBatchIdentities now tables consumerID groups := by
  unfold Sqlite.insertSQLiteBatchIdentities Pgsql.insertBatchIdentities
  rw [foldl_chunksOf Sqlite.sqliteBatchStatementItems (by decide)]
  apply List.foldl_ext
  intro state group member
  rw [group_consumer consumerID consumers grouped group member]

theorem sqlite_decideGroups_eq (groups : List (BatchGroup F))
    (bound : ∀ group ∈ groups, group.consumer = consumerID)
    (leads : ∀ group ∈ groups, ∀ stored matched, matchGroup stored group = some matched →
      matched.consumer = consumerID)
    (present : ∀ group ∈ groups, ∃ row, tables.inbox.find?
      (identityOf consumerID group.key) = some row) :
    Sqlite.decideGroups tables maxAttempts groups =
      .ok (groups.flatMap (fun group => (decideEntries tables consumerID maxAttempts group).1),
        groups.flatMap (fun group => (decideEntries tables consumerID maxAttempts group).2)) := by
  induction groups with
  | nil => rfl
  | cons group rest ih =>
    have tail := ih (fun other member => bound other (.tail _ member))
      (fun other member => leads other (.tail _ member))
      (fun other member => present other (.tail _ member))
    obtain ⟨row, found⟩ := present group (.head _)
    simp only [Sqlite.decideGroups, bound group (.head _), found, tail,
      List.flatMap_cons, decideEntries]
    cases picked : matchGroup row.fingerprint group with
    | none => simp
    | some matched =>
      have consumer := leads group (.head _) _ matched picked
      simp [Sqlite.readSQLiteBatchAttempt, consumer]

def conflictsOf (tables : Tables F) (consumerID : String) (group : BatchGroup F) :
    Assignments F × List (MatchedGroup F) :=
  match tables.inbox.find? (identityOf consumerID group.key) with
  | none => ([], [])
  | some row => (assignConflicts row.fingerprint group, (matchGroup row.fingerprint group).toList)

omit [Sha256 F] in
theorem pgsql_matchGroups_eq (groups : List (BatchGroup F)) (present : ∀ group ∈ groups, ∃ row,
      tables.inbox.find? (identityOf consumerID group.key) = some row) :
    Pgsql.matchGroups tables consumerID groups =
      .ok (groups.flatMap (fun group => (conflictsOf tables consumerID group).1),
        groups.flatMap (fun group => (conflictsOf tables consumerID group).2)) := by
  induction groups with
  | nil => rfl
  | cons group rest ih =>
    have tail := ih (fun other member => present other (.tail _ member))
    obtain ⟨row, found⟩ := present group (.head _)
    simp [Pgsql.matchGroups, found, tail, conflictsOf]

theorem readBatchAttempts_lookup (matched : List (MatchedGroup F))
    (bound : Bound consumerID matched) (group : MatchedGroup F) (member : group ∈ matched) :
    (Pgsql.readBatchAttempts tables matched).lookup group.key =
      readGroup tables consumerID group := by
  have pass : ∀ generated, (selectBatchGroups matched generated).filterMap (fun group =>
        (readGroup tables (firstConsumer ((selectBatchGroups matched generated).map
          MatchedGroup.toBatchGroup)) group).map (fun state => (group.key, state))) =
      (selectBatchGroups matched generated).filterMap (fun group =>
        (readGroup tables consumerID group).map (fun state => (group.key, state))) := by
    intro generated
    have selected := selectBatchGroups_bound bound generated
    cases chosen : selectBatchGroups matched generated with
    | nil => rfl
    | cons head rest =>
      have first : firstConsumer ((head :: rest).map MatchedGroup.toBatchGroup) = consumerID :=
        selected.fronts head (chosen ▸ List.mem_cons_self ..)
      rw [first]
  have perm := selectBatchGroups_perm matched
  have whole : Pgsql.readBatchAttempts tables matched =
      (selectBatchGroups matched false ++ selectBatchGroups matched true).filterMap
        (fun group => (readGroup tables consumerID group).map
            (fun state => (group.key, state))) := by
    simp [Pgsql.readBatchAttempts, pass]
  rw [whole]
  exact lookup_filterMap_of_mem (fun group => group.key) (readGroup tables consumerID) _
    (bound.perm perm.symm).keys group (perm.mem_iff.mpr member)

theorem pgsql_decideGroups_eq (groups : List (BatchGroup F))
    (bound : Bound consumerID (groups.flatMap (fun group =>
      (conflictsOf tables consumerID group).2)))
    (present : ∀ group ∈ groups, ∃ row, tables.inbox.find?
      (identityOf consumerID group.key) = some row) :
    let matched := groups.flatMap (fun group => (conflictsOf tables consumerID group).2)
    let decided := Pgsql.decideGroups tables consumerID maxAttempts
      (Pgsql.readBatchAttempts tables matched) matched
    (groups.flatMap (fun group => (conflictsOf tables consumerID group).1) ++ decided.1).Perm
        (groups.flatMap (fun group => (decideEntries tables consumerID maxAttempts group).1)) ∧
      decided.2 = groups.flatMap (fun group =>
        (decideEntries tables consumerID maxAttempts group).2) := by
  intro matched decided
  have one : ∀ group ∈ groups, ∀ picked ∈ (conflictsOf tables consumerID group).2,
      decideGroup maxAttempts (Pgsql.completedAt tables consumerID picked)
          { picked with state :=
            ((Pgsql.readBatchAttempts tables matched).lookup picked.key).getD noAttempt } =
        decideGroup maxAttempts ((tables.inbox.find? (identityOf consumerID group.key)).bind
          IdentityRow.completedAt)
          { picked with state := (readGroup tables consumerID picked).getD noAttempt } := by
    intro group inside picked chosen
    have member : picked ∈ matched := List.mem_flatMap.mpr ⟨group, inside, chosen⟩
    have same : picked.toBatchGroup = group := by
      obtain ⟨row, found⟩ := present group inside
      simp only [conflictsOf, found, Option.mem_toList] at chosen
      exact (matchGroup_lead _ _ _ chosen).1
    rw [readBatchAttempts_lookup consumerID tables matched bound picked member,
      Pgsql.completedAt, same]
  have split : ∀ group ∈ groups, (conflictsOf tables consumerID group).1 ++
          (conflictsOf tables consumerID group).2.flatMap (fun picked => (decideGroup maxAttempts
            (Pgsql.completedAt tables consumerID picked) { picked with state :=
              ((Pgsql.readBatchAttempts tables matched).lookup picked.key).getD noAttempt }).1) =
        (decideEntries tables consumerID maxAttempts group).1 ∧
      (conflictsOf tables consumerID group).2.flatMap (fun picked => (decideGroup maxAttempts
            (Pgsql.completedAt tables consumerID picked) { picked with state :=
              ((Pgsql.readBatchAttempts tables matched).lookup picked.key).getD noAttempt }).2) =
        (decideEntries tables consumerID maxAttempts group).2 := by
    intro group inside
    obtain ⟨row, found⟩ := present group inside
    rw [List.flatMap_congr (fun picked chosen => congrArg Prod.fst
      (one group inside picked chosen)),
      List.flatMap_congr (fun picked chosen => congrArg Prod.snd (one group inside picked chosen))]
    simp only [conflictsOf, decideEntries, found, Option.bind_some]
    cases matchGroup row.fingerprint group <;> simp
  constructor
  · rw [← List.flatMap_congr (fun group inside => (split group inside).1)]
    refine List.Perm.trans ?_ (List.flatMap_append_perm groups _ _)
    simp only [decided, Pgsql.decideGroups, matched, List.flatMap_map, List.flatMap_assoc]
    exact List.Perm.refl _
  · rw [← List.flatMap_congr (fun group inside => (split group inside).2)]
    simp only [decided, Pgsql.decideGroups, matched, List.flatMap_map, List.flatMap_assoc]

end Prepare

section Increment

variable (now : Readings) (tables : Tables F)

variable (group : MatchedGroup F) (time : Time)

theorem incrementGroup_acts (group : MatchedGroup F) :
    ActsAt Tables.slice (identityOf consumerID group.key)
    (fun tables => incrementGroup time consumerID tables group)
      (fun slice => slice.upsertAttempt group.generation group.attempt time) :=
  upsertAttempt_acts (identityOf consumerID group.key) group.generation group.attempt time

omit [Sha256 F] in
theorem Slice.upsertAttempt_count (slice : Slice F) (generation : String)
    (attempt : F) (time : Time) :
    (((slice.upsertAttempt generation attempt time).readCounter generation attempt).map
      CounterRow.attempts).getD 0 =
      ((slice.readCounter generation attempt).map CounterRow.attempts).getD 0 + 1 := by
  unfold Slice.upsertAttempt Slice.incrementAttempt Slice.insertCounter Slice.updateCounter
  by_cases legacy : generation = ""
  · cases found : slice.legacy <;> simp [Slice.readCounter, legacy, found, AttemptRow.recount]
  · cases found : slice.generations attempt <;> simp [Slice.readCounter, legacy, found]

theorem countOf_incremented (group : MatchedGroup F) :
    countOf (incrementGroup time consumerID tables group) consumerID group =
      countOf tables consumerID group + 1 := by
  have here := (incrementGroup_acts consumerID time group).here tables
  simp only [countOf, readCounter_slice, here]
  exact Slice.upsertAttempt_count _ group.generation group.attempt time

theorem countOf_elsewhere (groups : List (MatchedGroup F)) (time : Time) (other : MatchedGroup F)
    (apart : ∀ group ∈ groups, group.key ≠ other.key) :
    countOf (groups.foldl (incrementGroup time consumerID) tables) consumerID other =
      countOf tables consumerID other := by
  have unchanged :=
    foldl_view_of_notMem (fun group => identityOf consumerID (MatchedGroup.toBatchGroup group).key)
    (fun group current => incrementGroup time consumerID current group)
    (fun group (slice : Slice F) => slice.upsertAttempt group.generation group.attempt time) groups
    (fun group _ => incrementGroup_acts consumerID time group) tables
    (identityOf consumerID other.key)
    (fun group member same => apart group member ((identityOf_inj consumerID _ _).mp same))
  simp only [countOf, readCounter_slice, unchanged]

theorem foldl_incrementReturning (groups : List (MatchedGroup F)) (time : Time)
    (distinct : (groups.map (fun group => group.key)).Nodup) (tables : Tables F)
    (returned : List (BatchItemKey × Nat)) :
    groups.foldl (Pgsql.incrementReturning time consumerID) (tables, returned) =
      (groups.foldl (incrementGroup time consumerID) tables,
        (groups.map (fun group => (group.key, countOf tables consumerID group + 1))).reverse ++
          returned) := by
  induction groups generalizing tables returned with
  | nil => rfl
  | cons group rest ih =>
    obtain ⟨fresh, tail⟩ := List.nodup_cons.mp distinct
    have counted : ∀ other ∈ rest,
        (other.key, countOf (incrementGroup time consumerID tables group) consumerID other + 1) =
          (other.key, countOf tables consumerID other + 1) := by
      intro other member
      have apart : ∀ single ∈ [group], single.key ≠ other.key := by
        intro single present same
        rw [List.mem_singleton.mp present] at same
        exact fresh (List.mem_map.mpr ⟨other, member, same.symm⟩)
      exact congrArg (fun count => (other.key, count + 1))
        (countOf_elsewhere consumerID tables [group] time other apart)
    have first : Pgsql.incrementReturning time consumerID (tables, returned) group =
        (incrementGroup time consumerID tables group,
          (group.key, countOf tables consumerID group + 1) :: returned) := by
      rw [← countOf_incremented consumerID tables time group]
      rfl
    rw [List.foldl_cons, first, ih tail, List.map_congr_left counted]
    simp

theorem incrementGroups_perm (left right : List (MatchedGroup F)) (bound : Bound consumerID left)
    (perm : left.Perm right) :
    incrementGroups now consumerID tables left = incrementGroups now consumerID tables right := by
  apply tables_ext
  intro id
  exact foldl_view_perm (fun group => identityOf consumerID (MatchedGroup.toBatchGroup group).key)
    (fun group current => incrementGroup now.attempted consumerID current group)
    (fun group (slice : Slice F) => slice.upsertAttempt group.generation
      group.attempt now.attempted)
    left right perm (fun group _ => incrementGroup_acts consumerID now.attempted group)
    bound.identities tables id

theorem pgsql_increment (groups : List (MatchedGroup F)) (bound : Bound consumerID groups) :
    ∃ attempts, Pgsql.incrementBatchAttempts now tables groups =
        .ok (incrementGroups now consumerID tables groups, attempts) ∧
      ∀ group ∈ groups, attempts.lookup group.key = some (countOf tables consumerID group + 1) := by
  have perm := selectBatchGroups_perm groups
  have selected := bound.perm perm.symm
  have passes : [false, true].foldl (fun state generated =>
        let chosen := selectBatchGroups groups generated
        let consumer := firstConsumer (chosen.map MatchedGroup.toBatchGroup)
        chosen.foldl (Pgsql.incrementReturning now.attempted consumer) state) (tables, []) =
      (selectBatchGroups groups false ++ selectBatchGroups groups true).foldl
        (Pgsql.incrementReturning now.attempted consumerID) (tables, []) := by
    simp only [List.foldl_cons, List.foldl_nil, List.foldl_append]
    rw [foldl_firstConsumer consumerID _ (selectBatchGroups_bound bound false)
      (Pgsql.incrementReturning now.attempted),
      foldl_firstConsumer consumerID _ (selectBatchGroups_bound bound true)
        (Pgsql.incrementReturning now.attempted)]
  rw [foldl_incrementReturning consumerID _ now.attempted selected.keys tables []] at passes
  have ordered := incrementGroups_perm consumerID now tables _ _ selected perm
  unfold incrementGroups at ordered
  rw [ordered, List.append_nil] at passes
  refine ⟨((selectBatchGroups groups false ++ selectBatchGroups groups true).map (fun group =>
    (group.key, countOf tables consumerID group + 1))).reverse, ?_, ?_⟩
  · simp only [Pgsql.incrementBatchAttempts, passes]
    have positive : ((selectBatchGroups groups false ++ selectBatchGroups groups true).map
        (fun group => (group.key, countOf tables consumerID group + 1))).reverse.any
          (fun entry => decide (entry.2 < 1)) = false := by
      simp [List.any_eq_false]
    have whole := perm.length_eq
    rw [positive]
    simp only [Bool.false_eq_true, if_false, List.length_reverse, List.length_map, whole,
      ne_eq, not_true_eq_false]
    rfl
  · intro group member
    rw [lookup_eq_some_iff_mem _ (by
      rw [List.map_reverse, List.nodup_reverse, List.map_map]
      exact selected.keys), List.mem_reverse]
    exact List.mem_map_of_mem (perm.mem_iff.mpr member)

theorem readSQLiteBatchAttempt_count (consumer : group.consumer = consumerID) :
    (Sqlite.readSQLiteBatchAttempt tables group).attempt = countOf tables consumerID group := by
  have counted := (tables.slice (identityOf consumerID group.key)).readAttempt_count
    group.generation group.attempt
  rw [← readAttempt_slice, ← readCounter_slice] at counted
  simp only [Sqlite.readSQLiteBatchAttempt, readGroup, countOf, consumer, ← counted]
  cases tables.readAttempt (identityOf consumerID group.key) group.generation group.attempt <;> rfl

theorem sqlite_increment (groups : List (MatchedGroup F)) (bound : Bound consumerID groups) :
    ∃ attempts, Sqlite.incrementSQLiteBatchAttempts now tables groups =
        .ok (incrementGroups now consumerID tables groups, attempts) ∧
      ∀ group ∈ groups, attempts.lookup group.key = some (countOf tables consumerID group + 1) := by
  have perm := selectBatchGroups_perm groups
  have own : ∀ (chosen : List (MatchedGroup F)) (state : Tables F), Bound consumerID chosen →
      chosen.foldl (fun inner group => incrementGroup now.attempted group.consumer inner group)
        state =
        chosen.foldl (incrementGroup now.attempted consumerID) state := by
    intro chosen state chosen_bound
    apply List.foldl_ext
    intro inner group member
    rw [chosen_bound.consumer group member]
  -- SQLite counts the legacy groups first and then the generated ones, in chunks; the
  -- groups have distinct identities, so the order does not matter.
  have passes : [false, true].foldl (fun state generated =>
        (chunksOf Sqlite.sqliteBatchStatementItems (selectBatchGroups groups generated)).foldl
          (fun current chunk => chunk.foldl (fun inner group =>
            incrementGroup now.attempted group.consumer inner group) current) state) tables =
      incrementGroups now consumerID tables groups := by
    have chunked := foldl_chunksOf Sqlite.sqliteBatchStatementItems
      (by decide)
        (fun (inner : Tables F) (group : MatchedGroup F) =>
          incrementGroup now.attempted group.consumer inner group)
    simp only [List.foldl_cons, List.foldl_nil, chunked,
      own _ _ (selectBatchGroups_bound bound false), own _ _ (selectBatchGroups_bound bound true),
      ← List.foldl_append]
    exact incrementGroups_perm consumerID now tables _ _ (bound.perm perm.symm) perm
  have counts : groups.map (fun group => (group.key,
        (Sqlite.readSQLiteBatchAttempt (incrementGroups now consumerID tables groups)
          group).attempt)) =
      groups.map (fun group => (group.key, countOf tables consumerID group + 1)) := by
    apply List.map_congr_left
    intro group member
    rw [readSQLiteBatchAttempt_count consumerID _ group (bound.consumer group member)]
    have here :=
      foldl_view (fun group => identityOf consumerID (MatchedGroup.toBatchGroup group).key)
      (fun group current => incrementGroup now.attempted consumerID current group)
      (fun group (slice : Slice F) => slice.upsertAttempt group.generation
        group.attempt now.attempted) groups
      (fun group _ => incrementGroup_acts consumerID now.attempted group) tables
      (identityOf consumerID group.key)
    rw [fibre_of_mem _ groups bound.identities group member] at here
    have counted := Slice.upsertAttempt_count (tables.slice (identityOf consumerID group.key))
      group.generation group.attempt now.attempted
    simp only [countOf, readCounter_slice]
    rw [← counted]
    exact congrArg (fun slice : Slice F => (group.key,
      ((slice.readCounter group.generation group.attempt).map CounterRow.attempts).getD 0)) here
  refine ⟨groups.map (fun group => (group.key, countOf tables consumerID group + 1)), ?_, ?_⟩
  · simp only [Sqlite.incrementSQLiteBatchAttempts, passes, counts]
    have positive : (groups.map (fun group => (group.key, countOf tables consumerID group + 1))).any
        (fun entry => decide (entry.2 < 1)) = false := by
      simp [List.any_eq_false]
    rw [positive]
    rfl
  · intro group member
    exact lookup_map_of_mem (fun group => group.key)
      (fun group => countOf tables consumerID group + 1) groups bound.keys group member

omit [Sha256 F] in
theorem sqlite_complete (groups : List (MatchedGroup F)) (bound : Bound consumerID groups) :
    Sqlite.markSQLiteBatchCompleted now tables groups =
      completeGroups now consumerID tables groups := by
  unfold Sqlite.markSQLiteBatchCompleted completeGroups
  rw [← foldl_chunksOf Sqlite.sqliteBatchStatementItems (by decide)
    (fun (current : Tables F) (group : MatchedGroup F) =>
      current.markComplete (identityOf consumerID group.key) now.completed)]
  apply List.foldl_ext
  intro state chunk present
  have inside : ∀ group ∈ chunk, group ∈ groups := by
    intro group member
    rw [← flatten_chunksOf Sqlite.sqliteBatchStatementItems (by decide) groups]
    exact List.mem_flatten.mpr ⟨chunk, present, member⟩
  cases chunk with
  | nil => rfl
  | cons head rest =>
    have consumer : Sqlite.chunkConsumer (head :: rest) = consumerID :=
      bound.consumer head (inside head (.head _))
    rw [consumer]

theorem markTerminal_acts : ActsAt Tables.slice (identityOf consumerID group.key)
      (fun tables => tables.markTerminal (identityOf consumerID group.key) group.generation
        group.attempt now.marked)
      (fun slice => slice.markTerminal group.generation group.attempt now.marked) :=
  updateCounter_acts (identityOf consumerID group.key) group.generation group.attempt
    (fun row => { row with terminal := true, updatedAt := now.marked })

theorem pgsql_terminate (groups : List (MatchedGroup F)) (bound : Bound consumerID groups) :
    Pgsql.markBatchTerminal now tables groups = terminateGroups now consumerID tables groups := by
  have perm := selectBatchGroups_perm groups
  have passes : Pgsql.markBatchTerminal now tables groups =
      (selectBatchGroups groups false ++ selectBatchGroups groups true).foldl
        (fun current group => current.markTerminal (identityOf consumerID group.key)
          group.generation group.attempt now.marked) tables := by
    simp only [Pgsql.markBatchTerminal, List.foldl_cons, List.foldl_nil, List.foldl_append]
    rw [foldl_firstConsumer consumerID _ (selectBatchGroups_bound bound false)
        (fun consumer (current : Tables F) group => current.markTerminal
          (identityOf consumer group.key) group.generation group.attempt now.marked),
      foldl_firstConsumer consumerID _ (selectBatchGroups_bound bound true)
        (fun consumer (current : Tables F) group => current.markTerminal
          (identityOf consumer group.key) group.generation group.attempt now.marked)]
  rw [passes]
  apply tables_ext
  intro id
  exact foldl_view_perm (fun group => identityOf consumerID (MatchedGroup.toBatchGroup group).key)
    (fun group (current : Tables F) => current.markTerminal (identityOf consumerID group.key)
      group.generation group.attempt now.marked)
    (fun group (slice : Slice F) => slice.markTerminal group.generation group.attempt now.marked)
    _ _ perm (fun group _ => markTerminal_acts consumerID now group)
    (bound.perm perm.symm).identities tables id

theorem sqlite_terminate (groups : List (MatchedGroup F)) (bound : Bound consumerID groups) :
    Sqlite.markSQLiteBatchTerminal now tables groups = terminateGroups now
      consumerID tables groups := by
  apply List.foldl_ext
  intro state group member
  simp only [markAttemptTerminal, GoError.isPermanent, if_true, bound.leads group member]
  rfl

end Increment

variable (F) in
theorem pgsql_refines : Refines consumerID (Pgsql.batchStatements : BatchStatements F) where
  prepare now tables groups maxAttempts entries grouped consumers := by
    have first : groups ≠ [] → firstConsumer groups = consumerID := by
      intro some
      obtain ⟨head, rest, rfl⟩ := List.exists_cons_of_ne_nil some
      exact group_consumer consumerID consumers grouped head (.head _)
    have present : ∀ group ∈ groups, ∃ row,
        (Pgsql.insertBatchIdentities now tables consumerID groups).inbox.find?
          (identityOf consumerID group.key) = some row := fun group member =>
      ⟨_, insertBatchIdentities_find consumerID now tables grouped group member⟩
    have bound : Bound consumerID (groups.flatMap (fun group => (conflictsOf
        (Pgsql.insertBatchIdentities now tables consumerID groups) consumerID group).2)) := by
      apply bound_flatMap consumerID entries groups grouped consumers
      intro group member
      obtain ⟨row, found⟩ := present group member
      simp only [conflictsOf, found]
      cases picked : matchGroup row.fingerprint group with
      | none => exact .inl rfl
      | some matched =>
        exact .inr ⟨matched, rfl, (matchGroup_lead _ _ _ picked).1,
          (matchGroup_mem _ _ _ picked _ (.head _)).1⟩
    obtain ⟨perm, active⟩ := pgsql_decideGroups_eq consumerID maxAttempts
      (Pgsql.insertBatchIdentities now tables consumerID groups) groups bound present
    refine ⟨_, ?_, perm⟩
    have consumer : Pgsql.prepareBatchIdentities now tables groups maxAttempts =
        (Pgsql.matchGroups (Pgsql.insertBatchIdentities now tables consumerID groups) consumerID
          groups).map
          (fun found =>
            let inserted := Pgsql.insertBatchIdentities now tables consumerID groups
            let decided := Pgsql.decideGroups inserted consumerID maxAttempts
              (Pgsql.readBatchAttempts inserted found.2) found.2
            ⟨inserted, found.1 ++ decided.1, decided.2⟩) := by
      by_cases empty : groups = []
      · subst empty
        rfl
      · rw [← first empty]
        simp only [Pgsql.prepareBatchIdentities]
        cases Pgsql.matchGroups (Pgsql.insertBatchIdentities now tables
          (firstConsumer groups) groups)
          (firstConsumer groups) groups <;> rfl
    show Pgsql.prepareBatchIdentities now tables groups maxAttempts = _
    rw [consumer, pgsql_matchGroups_eq consumerID _ groups present]
    simp only [Except.map, active, referencePrepared]
  increment now tables groups bound := pgsql_increment consumerID now tables groups bound
  complete now tables groups bound :=
    foldl_firstConsumer consumerID groups bound (fun consumer (current : Tables F) group =>
        current.markComplete (identityOf consumer group.key) now.completed) tables
  terminate now tables groups bound := pgsql_terminate consumerID now tables groups bound

variable (F) in
theorem sqlite_refines : Refines consumerID (Sqlite.batchStatements : BatchStatements F) where
  prepare now tables groups maxAttempts entries grouped consumers := by
    refine ⟨_, ?_, List.Perm.refl _⟩
    show Sqlite.prepareSQLiteBatchIdentities now tables groups maxAttempts = _
    have decided := sqlite_decideGroups_eq consumerID maxAttempts
      (Pgsql.insertBatchIdentities now tables consumerID groups) groups
      (group_consumer consumerID consumers grouped)
      (fun group member stored matched found =>
        matched_consumer consumerID consumers grouped stored group member matched found)
      (fun group member =>
        ⟨_, insertBatchIdentities_find consumerID now tables grouped group member⟩)
    simp only [Sqlite.prepareSQLiteBatchIdentities,
      insertSQLiteBatchIdentities_eq consumerID tables consumers grouped, decided]
    rfl
  increment now tables groups bound := sqlite_increment consumerID now tables groups bound
  complete now tables groups bound := sqlite_complete consumerID now tables groups bound
  terminate now tables groups bound := sqlite_terminate consumerID now tables groups bound

end Refinement

end Gomessenger.Inbox
