import Gomessenger.Inbox.Admission

/-! How a batch is partitioned into logical identities. -/

namespace Gomessenger.Inbox

section Groups

variable {F : Type}

/-- The groups partition the entries by key, one generation in each. -/
structure GroupsOf (entries : List (BatchPreparedItem F)) (groups : List (BatchGroup F)) :
    Prop where
  keys : (groups.map BatchGroup.key).Nodup
  named : ∀ group ∈ groups, ∀ entry ∈ group.entries, batchKey entry.item.key = group.key
  uniform : ∀ group ∈ groups, ∀ entry ∈ group.entries,
    entry.item.key.attemptGeneration = group.front.item.key.attemptGeneration
  covers : (groups.flatMap BatchGroup.entries).Perm entries

variable {entries : List (BatchPreparedItem F)} {groups : List (BatchGroup F)}

theorem GroupsOf.mem_entries (grouped : GroupsOf entries groups) (group : BatchGroup F)
    (member : group ∈ groups)
    (entry : BatchPreparedItem F) (inside : entry ∈ group.entries) : entry ∈ entries :=
  grouped.covers.mem_iff.mp (List.mem_flatMap.mpr ⟨group, member, inside⟩)

theorem GroupsOf.perm {left right : List (BatchGroup F)}
    (grouped : GroupsOf entries left) (perm : left.Perm right) : GroupsOf entries right where
  keys := (perm.map BatchGroup.key).nodup_iff.mp grouped.keys
  named group member := grouped.named group (perm.mem_iff.mpr member)
  uniform group member := grouped.uniform group (perm.mem_iff.mpr member)
  covers := (perm.flatMap_right BatchGroup.entries).symm.trans grouped.covers

variable (items : List (BatchItem F)) (entry : BatchPreparedItem F)

variable {entry} in
theorem addToGroups_cons {group : BatchGroup F} {rest next : List (BatchGroup F)}
    (added : addToGroups entry (group :: rest) = .ok next) :
    (group.key = batchKey entry.item.key ∧
      group.front.item.key.attemptGeneration = entry.item.key.attemptGeneration ∧
      next = { group with others := group.others ++ [entry] } :: rest) ∨
    group.key ≠ batchKey entry.item.key ∧
      ∃ later, addToGroups entry rest = .ok later ∧ next = group :: later := by
  simp only [addToGroups] at added
  split_ifs at added with same generation
  · exact .inl ⟨same, not_not.mp generation, (Except.ok.inj added).symm⟩
  · cases tail : addToGroups entry rest with
    | error err =>
      rw [tail] at added
      cases added
    | ok later =>
      rw [tail] at added
      exact .inr ⟨same, later, rfl, (Except.ok.inj added).symm⟩

theorem addToGroups_keys (groups next : List (BatchGroup F))
    (added : addToGroups entry groups = .ok next) :
    next.map BatchGroup.key = groups.map BatchGroup.key ∨
      batchKey entry.item.key ∉ groups.map BatchGroup.key ∧
        next.map BatchGroup.key = groups.map BatchGroup.key ++ [batchKey entry.item.key] := by
  induction groups generalizing next with
  | nil =>
    rw [← Except.ok.inj added]
    exact .inr ⟨List.not_mem_nil, rfl⟩
  | cons group rest ih =>
    rcases addToGroups_cons added with ⟨_, _, rfl⟩ | ⟨apart, later, tail, rfl⟩
    · exact .inl rfl
    · rcases ih later tail with unchanged | ⟨fresh, appended⟩
      · exact .inl (by rw [List.map_cons, List.map_cons, unchanged])
      · refine .inr ⟨?_, by rw [List.map_cons, List.map_cons, appended, List.cons_append]⟩
        rw [List.map_cons, List.mem_cons, not_or]
        exact ⟨Ne.symm apart, fresh⟩

theorem mem_addToGroups (groups next : List (BatchGroup F))
    (added : addToGroups entry groups = .ok next) (group : BatchGroup F) (member : group ∈ next) :
    group ∈ groups ∨ (∃ old ∈ groups, group = { old with others := old.others ++ [entry] } ∧
        old.key = batchKey entry.item.key ∧
        old.front.item.key.attemptGeneration = entry.item.key.attemptGeneration) ∨
      group = ⟨batchKey entry.item.key, entry, []⟩ := by
  induction groups generalizing next with
  | nil =>
    rw [← Except.ok.inj added] at member
    exact .inr (.inr (List.mem_singleton.mp member))
  | cons head rest ih =>
    rcases addToGroups_cons added with ⟨same, generation, rfl⟩ | ⟨_, later, tail, rfl⟩
    · rcases List.mem_cons.mp member with here | later
      · exact .inr (.inl ⟨head, List.mem_cons_self .., here, same, generation⟩)
      · exact .inl (.tail _ later)
    · rcases List.mem_cons.mp member with here | inside
      · exact .inl (here ▸ List.mem_cons_self ..)
      · rcases ih later tail inside with old | ⟨old, present, extended⟩ | own
        · exact .inl (.tail _ old)
        · exact .inr (.inl ⟨old, List.mem_cons_of_mem _ present, extended⟩)
        · exact .inr (.inr own)

theorem addToGroups_covers (groups next : List (BatchGroup F))
    (added : addToGroups entry groups = .ok next) :
    (next.flatMap BatchGroup.entries).Perm (groups.flatMap BatchGroup.entries ++ [entry]) := by
  induction groups generalizing next with
  | nil =>
    rw [← Except.ok.inj added]
    exact List.Perm.refl _
  | cons group rest ih =>
    rcases addToGroups_cons added with ⟨_, _, rfl⟩ | ⟨_, later, tail, rfl⟩
    · have extended : BatchGroup.entries { group with others := group.others ++ [entry] } =
          group.entries ++ [entry] := rfl
      rw [List.flatMap_cons, List.flatMap_cons, extended, List.append_assoc, List.append_assoc]
      exact List.Perm.append_left _ List.perm_append_comm
    · rw [List.flatMap_cons, List.flatMap_cons, List.append_assoc]
      exact List.Perm.append_left _ (ih later tail)

theorem GroupsOf.add {next : List (BatchGroup F)} (grouped : GroupsOf entries groups)
    (entry : BatchPreparedItem F)
    (added : addToGroups entry groups = .ok next) : GroupsOf (entries ++ [entry]) next where
  keys := by
    rcases addToGroups_keys entry groups next added with unchanged | ⟨fresh, appended⟩
    · rw [unchanged]
      exact grouped.keys
    · rw [appended]
      exact List.nodup_append.mpr ⟨grouped.keys, List.nodup_singleton _,
        fun key present other single => by
          rw [List.mem_singleton.mp single]
          exact fun same => fresh (same ▸ present)⟩
  named group member item inside := by
    rcases mem_addToGroups entry groups next added group member with
      old | ⟨old, present, rfl, key, _⟩ | rfl
    · exact grouped.named group old item inside
    · rcases List.mem_append.mp (show item ∈ old.entries ++ [entry] from inside) with before | last
      · exact grouped.named old present item before
      · rw [List.mem_singleton.mp last]
        exact key.symm
    · rw [List.mem_singleton.mp (show item ∈ [entry] from inside)]
  uniform group member item inside := by
    rcases mem_addToGroups entry groups next added group member with
      old | ⟨old, present, rfl, _, generation⟩ | rfl
    · exact grouped.uniform group old item inside
    · rcases List.mem_append.mp (show item ∈ old.entries ++ [entry] from inside) with before | last
      · exact grouped.uniform old present item before
      · rw [List.mem_singleton.mp last]
        exact generation.symm
    · rw [List.mem_singleton.mp (show item ∈ [entry] from inside)]
  covers := (addToGroups_covers entry groups next added).trans (grouped.covers.append_right _)

theorem prepareEntries_groups (entries rest : List (BatchPreparedItem F))
    (groups next : List (BatchGroup F)) (grouped : GroupsOf entries groups)
    (prepared : prepareEntries groups rest = .ok next) : GroupsOf (entries ++ rest) next := by
  induction rest generalizing entries groups with
  | nil =>
    simp only [prepareEntries, Except.ok.injEq] at prepared
    subst prepared
    rw [List.append_nil]
    exact grouped
  | cons entry rest ih =>
    simp only [prepareEntries] at prepared
    cases added : addToGroups entry groups with
    | error err =>
      rw [added] at prepared
      cases prepared
    | ok later =>
      rw [added] at prepared
      have extended := ih (entries ++ [entry]) later (grouped.add entry added) prepared
      rw [List.append_assoc] at extended
      exact extended

theorem prepareBatchGroups_groups (groups : List (BatchGroup F))
    (prepared : prepareBatchGroups items = .ok groups) : GroupsOf (batchEntries items) groups := by
  have none : GroupsOf ([] : List (BatchPreparedItem F)) [] :=
    ⟨List.nodup_nil, nofun, nofun, List.Perm.refl _⟩
  exact prepareEntries_groups [] (batchEntries items) [] groups none prepared

theorem batchEntries_indices : (batchEntries items).map BatchPreparedItem.index =
    List.range items.length := by
  simp [batchEntries, Function.comp_def, List.zipIdx_map_snd, List.range_eq_range']

theorem mem_batchEntries : entry ∈ batchEntries items ↔ items[entry.index]? = some entry.item := by
  obtain ⟨index, item⟩ := entry
  simp only [batchEntries, List.mem_map, BatchPreparedItem.mk.injEq]
  constructor
  · rintro ⟨⟨other, position⟩, member, rfl, rfl⟩
    exact List.mem_zipIdx_iff_getElem?.mp member
  · intro found
    exact ⟨(item, index), List.mem_zipIdx_iff_getElem?.mpr found, rfl, rfl⟩

def Indexed (groups : List (BatchGroup F)) (bound : Nat) : Prop :=
  ∀ group ∈ groups, group.entries.Pairwise (fun left right => left.index < right.index) ∧
    ∀ entry ∈ group.entries, entry.index < bound

theorem addToGroups_indexed (groups next : List (BatchGroup F))
    (indexed : Indexed groups entry.index) (added : addToGroups entry groups = .ok next) :
    Indexed next (entry.index + 1) := by
  intro group member
  rcases mem_addToGroups entry groups next added group member with
    old | ⟨old, present, rfl, _⟩ | rfl
  · obtain ⟨ordered, below⟩ := indexed group old
    exact ⟨ordered, fun other inside => Nat.lt_succ_of_lt (below other inside)⟩
  · obtain ⟨ordered, below⟩ := indexed old present
    have extended : BatchGroup.entries { old with others := old.others ++ [entry] } =
      old.entries ++ [entry] := rfl
    rw [extended]
    constructor
    · refine List.pairwise_append.mpr ⟨ordered, List.pairwise_singleton _ _, ?_⟩
      intro left inside right last
      rw [List.mem_singleton.mp last]
      exact below left inside
    · intro other inside
      rcases List.mem_append.mp inside with before | last
      · exact Nat.lt_succ_of_lt (below other before)
      · rw [List.mem_singleton.mp last]
        exact Nat.lt_succ_self _
  · constructor
    · exact List.pairwise_singleton _ _
    · intro other inside
      rw [List.mem_singleton.mp (show other ∈ [entry] from inside)]
      exact Nat.lt_succ_self _

theorem prepareEntries_indexed (rest : List (BatchPreparedItem F))
    (groups next : List (BatchGroup F)) (bound : Nat) (indexed : Indexed groups bound)
    (ordered : rest.Pairwise (fun left right => left.index < right.index))
    (above : ∀ entry ∈ rest, bound ≤ entry.index) (prepared : prepareEntries groups rest = .ok next)
    : ∃ last, Indexed next last := by
  induction rest generalizing groups bound with
  | nil =>
    simp only [prepareEntries, Except.ok.injEq] at prepared
    exact ⟨bound, prepared ▸ indexed⟩
  | cons entry rest ih =>
    simp only [prepareEntries] at prepared
    obtain ⟨first, later⟩ := List.pairwise_cons.mp ordered
    have start := above entry (.head _)
    have raised : Indexed groups entry.index := fun group member =>
      ⟨(indexed group member).1,
        fun other inside => Nat.lt_of_lt_of_le ((indexed group member).2 other inside) start⟩
    cases added : addToGroups entry groups with
    | error err =>
      rw [added] at prepared
      cases prepared
    | ok middle =>
      rw [added] at prepared
      exact ih middle (entry.index + 1) (addToGroups_indexed entry groups middle raised added) later
        first prepared

theorem batchEntries_ordered : (batchEntries items).Pairwise
    (fun left right => left.index < right.index) := by
  have indices : ((batchEntries items).map BatchPreparedItem.index).Pairwise (· < ·) := by
    rw [batchEntries_indices]
    exact List.pairwise_lt_range
  exact List.pairwise_map.mp indices

theorem prepareBatchGroups_ordered (groups : List (BatchGroup F))
    (prepared : prepareBatchGroups items = .ok groups) (group : BatchGroup F)
    (member : group ∈ groups) :
    group.entries.Pairwise (fun left right => left.index < right.index) := by
  have none : Indexed ([] : List (BatchGroup F)) 0 := nofun
  obtain ⟨last, indexed⟩ := prepareEntries_indexed (batchEntries items) [] groups 0 none
    (batchEntries_ordered items) (fun _ _ => Nat.zero_le _) prepared
  exact (indexed group member).1

end Groups

end Gomessenger.Inbox
