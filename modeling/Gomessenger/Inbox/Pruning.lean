import Gomessenger.Lib.Selection
import Gomessenger.Inbox.Integrity

/-! The two retention calls remove what is eligible, the oldest first, and nothing else. -/

namespace Gomessenger.Inbox

open LocalAction Selection

section Orders

variable (collation : Collation)

theorem Collation.linear : Linear collation.le :=
  ⟨collation.total, collation.trans, collation.antisymm⟩

theorem identityLe_linear : Linear collation.identityLe := by
  have columns := collation.linear.lex (collation.linear.lex (Linear.decided (X := MessageID)))
  refine columns.comap (fun id : Identity => (id.consumerID, id.source, id.messageID)) ?_
  intro left right same
  cases left
  cases right
  simp only [Prod.mk.injEq] at same
  obtain ⟨rfl, rfl, rfl⟩ := same
  rfl

theorem slotLe_linear {F : Type} [LinearOrder F] :
    Linear (collation.slotLe : Identity ×ₗ F → Identity ×ₗ F → Bool) :=
  ((identityLe_linear collation).lex (Linear.decided (X := F))).comap ofLex ofLex.injective

theorem timedLe_linear {K : Type} {keyLe : K → K → Bool} (linear : Linear keyLe) :
    Linear (Collation.timedLe keyLe) := by
  have same : Collation.timedLe keyLe = lexLe (fun left right : Time =>
    decide (left ≤ right)) keyLe := by
    funext left right
    unfold Collation.timedLe lexLe
    split
    · rfl
    · rename_i apart
      exact decide_eq_decide.mpr ⟨fun below => le_of_lt below,
        fun below => lt_of_le_of_ne below apart⟩
  rw [same]
  exact Linear.decided.lex linear

end Orders

section Eligible

variable {F : Type} [LinearOrder F] (tables : Tables F) (before : Time)

/-- A generation of an incomplete identity whose handoff was confirmed before the
cut-off, with the time of its confirmation. -/
def EligibleGeneration (candidate : Time × (Identity ×ₗ F)) : Prop :=
  ∃ row stored, tables.terminal.find? candidate.2 = some row ∧
    row.handoffConfirmedAt = some candidate.1 ∧ candidate.1 < before ∧
    tables.inbox.find? (ofLex candidate.2).1 = some stored ∧ stored.completedAt = none

def EligibleIdentity (candidate : Time × Identity) : Prop :=
  ∃ stored, tables.inbox.find? candidate.2 = some stored ∧
    stored.completedAt = some candidate.1 ∧ candidate.1 < before

def selectTimed {K V : Type} [LinearOrder K] (table : KeyedTable K V)
    (time : K → V → Option Time) : List (Time × K) :=
  table.rows.filterMap (fun entry => (time entry.1 entry.2).map (fun moment => (moment, entry.1)))

variable {K V : Type} [LinearOrder K] (table : KeyedTable K V) (time : K → V → Option Time)

theorem mem_selectTimed (candidate : Time × K) : candidate ∈ selectTimed table time ↔
      ∃ row, table.find? candidate.2 = some row ∧ time candidate.2 row = some candidate.1 := by
  simp only [selectTimed, List.mem_filterMap, Option.map_eq_some_iff]
  constructor
  · rintro ⟨⟨key, row⟩, stored, moment, timed, rfl⟩
    exact ⟨row, (KeyedTable.mem_rows _ _ _).mp stored, timed⟩
  · rintro ⟨row, stored, timed⟩
    exact ⟨(candidate.2, row), (KeyedTable.mem_rows _ _ _).mpr stored, candidate.1, timed, rfl⟩

theorem selectTimed_distinct : ((selectTimed table time).map Prod.snd).Nodup := by
  have keys : (selectTimed table time).map Prod.snd =
      (table.rows.filter (fun entry => (time entry.1 entry.2).isSome)).map Prod.fst := by
    unfold selectTimed
    induction table.rows with
    | nil => rfl
    | cons entry rest ih =>
      cases timed : time entry.1 entry.2 with
      | none => simpa [timed] using ih
      | some moment => simpa [timed] using ih
  rw [keys]
  have ordered := (List.pairwise_map (f := Prod.fst)).mpr
    (table.sorted.filter (fun entry => (time entry.1 entry.2).isSome))
  exact ordered.imp (fun below => ne_of_lt below)

theorem selectTimed_nodup : (selectTimed table time).Nodup :=
  (selectTimed_distinct table time).of_map _

theorem selectTimed_least {keyLe : K → K → Bool} (linear : Linear keyLe)
    (table : KeyedTable K V) (time : K → V → Option Time) (limit : Nat) :
    Least (Collation.timedLe keyLe · ·) limit (· ∈ selectTimed table time)
        (((selectTimed table time).insertionSort (Collation.timedLe keyLe · ·)).take limit) ∧
      ((((selectTimed table time).insertionSort (Collation.timedLe keyLe · ·)).take limit).map
        Prod.snd).Nodup := by
  refine ⟨least_take_insertionSort (timedLe_linear linear) limit _ (selectTimed_nodup table time),
    ?_⟩
  have sorted :=
    (List.perm_insertionSort (Collation.timedLe keyLe · ·) (selectTimed table time)).map Prod.snd
  exact (sorted.nodup_iff.mpr (selectTimed_distinct table time)).sublist
    ((List.take_sublist limit _).map Prod.snd)

variable (collation : Collation) (limit : Nat)

def completedTime (row : IdentityRow F) : Option Time :=
  row.completedAt.filter (fun time => time < before)

def confirmedTime (key : Identity ×ₗ F) (row : TerminalRow) : Option Time :=
  row.handoffConfirmedAt.filter (fun time => time < before &&
    (tables.inbox.find? (ofLex key).1).any (fun stored => stored.completedAt.isNone))

theorem doomed_eq : doomed collation tables before limit =
    (((selectTimed tables.inbox (fun _ => completedTime before)).insertionSort
      (Collation.timedLe collation.identityLe · ·)).take limit).map Prod.snd := by
  simp only [doomed, selectTimed]
  congr 3
  refine List.filterMap_congr (fun entry _ => ?_)
  unfold completedTime
  cases completed : entry.2.completedAt with
  | none => rfl
  | some time => by_cases early : time < before <;> simp [early, Option.filter_some]

theorem candidates_eq : candidates collation tables before limit =
    ((((selectTimed tables.terminal (confirmedTime tables before)).insertionSort
      (Collation.timedLe collation.slotLe · ·)).take limit).map Prod.snd).insertionSort
        (collation.slotLe · ·) := by
  simp only [candidates, selectTimed]
  congr 4
  refine List.filterMap_congr (fun entry _ => ?_)
  unfold confirmedTime
  cases confirmed : entry.2.handoffConfirmedAt with
  | none => rfl
  | some time =>
    cases stored : tables.inbox.find? (ofLex entry.1).1 with
    | none => simp [Option.filter_some]
    | some row =>
      by_cases early : time < before <;> cases completed : row.completedAt <;>
        simp [early, completed, Option.filter_some]

/-- `Prune` selects the oldest completed identities. -/
theorem doomed_least : ∃ chosen, Least (Collation.timedLe collation.identityLe · ·) limit
        (EligibleIdentity tables before) chosen ∧
      (chosen.map Prod.snd).Nodup ∧ doomed collation tables before limit = chosen.map Prod.snd := by
  obtain ⟨least, distinct⟩ := selectTimed_least (identityLe_linear collation) tables.inbox
    (fun _ => completedTime before) limit
  refine ⟨_, least.congr (fun candidate => ?_), distinct, doomed_eq tables before collation limit⟩
  rw [mem_selectTimed]
  refine exists_congr (fun row => and_congr_right (fun _ => ?_))
  rw [completedTime, Option.filter_eq_some_iff, decide_eq_true_eq]

/-- `PruneTerminalAttempts` selects the generations confirmed earliest, and visits
them in key order. -/
theorem candidates_least : ∃ chosen, Least (Collation.timedLe collation.slotLe · ·) limit
        (EligibleGeneration tables before) chosen ∧
      (chosen.map Prod.snd).Nodup ∧
      (candidates collation tables before limit).Perm (chosen.map Prod.snd) := by
  obtain ⟨least, distinct⟩ := selectTimed_least (slotLe_linear collation) tables.terminal
    (confirmedTime tables before) limit
  refine ⟨_, least.congr (fun candidate => ?_), distinct, ?_⟩
  · rw [mem_selectTimed]
    refine exists_congr (fun row => ?_)
    rw [confirmedTime, Option.filter_eq_some_iff, Bool.and_eq_true,
      decide_eq_true_eq, Option.any_eq_true]
    constructor
    · rintro ⟨closed, confirmed, early, stored, known, incomplete⟩
      exact ⟨stored, closed, confirmed, early, known, Option.isNone_iff_eq_none.mp incomplete⟩
    · rintro ⟨stored, closed, confirmed, early, known, incomplete⟩
      exact ⟨closed, confirmed, early, stored, known, Option.isNone_iff_eq_none.mpr incomplete⟩
  · rw [candidates_eq]
    exact List.perm_insertionSort _ _

end Eligible

section Retire

variable {F : Type} [LinearOrder F] (before : Time)

namespace Slice

/-- The rows that retiring some generations leaves. -/
structure Retired (slice next : Slice F) (attempts : List F) : Prop where
  legacy : next.legacy = slice.legacy.filter (fun row => row.fingerprint ∉ attempts)
  generations : ∀ attempt, next.generations attempt =
    if attempt ∈ attempts then none else slice.generations attempt
  terminal : ∀ attempt, next.terminal attempt =
    if attempt ∈ attempts then none else slice.terminal attempt
  emptied : attempts ≠ [] → ¬ (next.HasAttempts ∨ next.HasTerminal) → next.identity = none
  kept : attempts = [] ∨ next.HasAttempts ∨ next.HasTerminal → next.identity = slice.identity

theorem retired_nil (slice : Slice F) : slice.Retired slice [] where
  legacy := by cases found : slice.legacy <;> simp [Option.filter_some]
  generations _ := rfl
  terminal _ := rfl
  emptied present := absurd rfl present
  kept _ := rfl

theorem retire_terminal (slice : Slice F) (attempt : F)
    (ready : slice.Retirable before attempt) (other : F) :
    (slice.retire before attempt).terminal other =
      if other = attempt then none else slice.terminal other := by
  have rest : ((slice.deleteTerminal attempt).deleteCounters attempt).terminal other =
      if other = attempt then none else slice.terminal other := by
    change (if attempt = other then none else slice.terminal other) = _
    by_cases own : other = attempt
    · rw [if_pos own, if_pos own.symm]
    · rw [if_neg own, if_neg (Ne.symm own)]
  rw [retire, if_pos ready, deleteEmptyIdentity]
  split
  · exact rest
  · exact rest

theorem retire_single (slice : Slice F) (attempt : F) (ready : slice.Retirable before attempt) :
    slice.Retired (slice.retire before attempt) [attempt] := by
  obtain ⟨⟨stored, identity, incomplete⟩, _⟩ := id ready
  have rows : ∀ next : Slice F, next.legacy =
    ((slice.deleteTerminal attempt).deleteCounters attempt).legacy →
      next.generations = ((slice.deleteTerminal attempt).deleteCounters attempt).generations →
      next.terminal = (slice.retire before attempt).terminal →
      (¬ (next.HasAttempts ∨ next.HasTerminal) → next.identity = none) →
      (next.HasAttempts ∨ next.HasTerminal → next.identity = slice.identity) →
      slice.Retired next [attempt] := by
    intro next legacy generations terminal emptied kept
    refine ⟨?_, fun other => ?_, fun other => ?_, fun _ => emptied, fun held => ?_⟩
    · rw [legacy]
      simp only [List.mem_singleton]
      rfl
    · rw [generations]
      change (if attempt = other then none else slice.generations other) = _
      simp [eq_comm]
    · rw [terminal, slice.retire_terminal before attempt ready]
      simp
    · rcases held with empty | held
      · cases empty
      · exact kept held
  by_cases held : ((slice.deleteTerminal attempt).deleteCounters attempt).HasAttempts ∨
      ((slice.deleteTerminal attempt).deleteCounters attempt).HasTerminal
  · have kept : slice.retire before attempt =
        (slice.deleteTerminal attempt).deleteCounters attempt := by
      rw [retire, if_pos ready, deleteEmptyIdentity, if_pos held]
    refine rows _ (by rw [kept]) (by rw [kept]) rfl (fun empty => ?_) (fun _ => by rw [kept]; rfl)
    rw [kept] at empty
    exact absurd held empty
  · have emptied : slice.retire before attempt =
        ((slice.deleteTerminal attempt).deleteCounters attempt).deleteIncompleteIdentity := by
      rw [retire, if_pos ready, deleteEmptyIdentity, if_neg held]
    refine rows _ (by rw [emptied]; rfl) (by rw [emptied]; rfl) rfl
      (fun _ => ?_) (fun occupied => ?_)
    · rw [emptied]
      change slice.identity.filter _ = none
      rw [identity, Option.filter_some, incomplete]
      rfl
    · rw [emptied] at occupied
      exact absurd occupied held

variable {slice : Slice F}

theorem Retirable.retire {attempt other : F} (apart : other ≠ attempt)
    (ready : slice.Retirable before attempt) (later : slice.Retirable before other) :
    (slice.retire before attempt).Retirable before other := by
  have single := slice.retire_single before attempt ready
  obtain ⟨incomplete, closed, found, early⟩ := later
  have terminal : (slice.retire before attempt).terminal other = some closed := by
    rw [slice.retire_terminal before attempt ready, if_neg apart]
    exact found
  have identity := single.kept (.inr (.inr ⟨other, by rw [terminal]; exact nofun⟩))
  refine ⟨?_, closed, terminal, early⟩
  rw [identity]
  exact incomplete

variable {next : Slice F}

theorem Retired.eq_of_nil (retired : slice.Retired next []) : next = slice := by
  have legacy : next.legacy = slice.legacy := by
    rw [retired.legacy]
    cases slice.legacy <;> simp [Option.filter_some]
  exact Slice.ext (retired.kept (.inl rfl)) legacy (funext retired.generations)
    (funext retired.terminal)

theorem Retired.occupied {attempts : List F}
    (retired : slice.Retired next attempts) (held : next.HasAttempts ∨ next.HasTerminal) :
    slice.HasAttempts ∨ slice.HasTerminal := by
  rcases held with (legacy | ⟨other, present⟩) | ⟨other, present⟩
  · refine .inl (.inl (fun gone => legacy ?_))
    rw [retired.legacy, gone]
    rfl
  · refine .inl (.inr ⟨other, fun gone => present ?_⟩)
    rw [retired.generations, gone, ite_self]
  · refine .inr ⟨other, fun gone => present ?_⟩
    rw [retired.terminal, gone, ite_self]

theorem Retired.cons {middle : Slice F} {attempt : F} {rest : List F}
    (first : slice.Retired middle [attempt]) (second : middle.Retired next rest) :
    slice.Retired next (attempt :: rest) where
  legacy := by
    rw [second.legacy, first.legacy, Option.filter_filter]
    congr 1
    funext row
    simp
  generations other := by
    rw [second.generations, first.generations]
    by_cases later : other ∈ rest <;> by_cases own : other = attempt <;> simp [later, own]
  terminal other := by
    rw [second.terminal, first.terminal]
    by_cases later : other ∈ rest <;> by_cases own : other = attempt <;> simp [later, own]
  emptied _ empty := by
    cases rest with
    | nil =>
      obtain rfl := second.eq_of_nil
      exact first.emptied (List.cons_ne_nil _ _) empty
    | cons _ _ => exact second.emptied (List.cons_ne_nil _ _) empty
  kept held := by
    have occupied := held.resolve_left (List.cons_ne_nil _ _)
    rw [second.kept (.inr occupied)]
    exact first.kept (.inr (second.occupied occupied))

theorem retire_all (attempts : List F) (distinct : attempts.Nodup) (slice : Slice F)
    (ready : ∀ attempt ∈ attempts, slice.Retirable before attempt) :
    slice.Retired (attempts.foldl (fun current attempt => current.retire before attempt) slice)
      attempts := by
  induction attempts generalizing slice with
  | nil => exact slice.retired_nil
  | cons attempt rest ih =>
    obtain ⟨fresh, later⟩ := List.nodup_cons.mp distinct
    have first := ready attempt (.head _)
    refine (slice.retire_single before attempt first).cons (ih later _ (fun other member => ?_))
    have apart : other ≠ attempt := fun same => fresh (same ▸ member)
    exact Retirable.retire before apart first (ready other (.tail _ member))

end Slice

theorem pruneCandidate_count (tables : Tables F) (id : Identity) (attempt : F)
    (ready : (tables.slice id).Retirable before attempt) :
    (pruneCandidate before tables id attempt).2 = 1 := by
  obtain ⟨⟨stored, identity, incomplete⟩, closed, found, early⟩ := ready
  have known : tables.inbox.find? id = some stored := identity
  have terminal : tables.terminal.find? (slot id attempt) = some closed := found
  simp [pruneCandidate, known, terminal, incomplete, early]

variable (chosen : List (Identity ×ₗ F))

theorem foldl_pruneCandidate_count (distinct : chosen.Nodup) (state : Tables F × Nat)
    (ready : ∀ candidate ∈ chosen, (state.1.slice (ofLex candidate).1).Retirable
      before (ofLex candidate).2) :
    (chosen.foldl (fun state candidate =>
      let pruned := pruneCandidate before state.1 (ofLex candidate).1 (ofLex candidate).2
      (pruned.1, state.2 + pruned.2)) state).2 = state.2 + chosen.length := by
  induction chosen generalizing state with
  | nil => rfl
  | cons candidate rest ih =>
    obtain ⟨fresh, later⟩ := List.nodup_cons.mp distinct
    have first := ready candidate (.head _)
    rw [List.foldl_cons, ih later]
    · have counted := pruneCandidate_count before _ _ _ first
      simp only [counted, List.length_cons]
      omega
    · intro other member
      have eligible := ready other (.tail _ member)
      have acts := pruneCandidate_acts before (ofLex candidate).1
        (ofLex candidate).2 state.1 (ofLex other).1
      change ((pruneCandidate before state.1 (ofLex candidate).1
        (ofLex candidate).2).1.slice (ofLex other).1).Retirable before (ofLex other).2
      rw [acts]
      by_cases same : (ofLex other).1 = (ofLex candidate).1
      · rw [if_pos same]
        have apart : (ofLex other).2 ≠ (ofLex candidate).2 := by
          intro equal
          exact fresh (ofLex.injective (Prod.ext same equal) ▸ member)
        rw [← same] at first
        exact Slice.Retirable.retire before apart first eligible
      · rw [if_neg same]
        exact eligible

omit [LinearOrder F] in
theorem mem_retiring (id : Identity) (attempt : F) : attempt ∈ retiring chosen id ↔
    slot id attempt ∈ chosen := by
  simp only [retiring, List.mem_map, mem_fibre]
  constructor
  · rintro ⟨candidate, ⟨member, here⟩, rfl⟩
    rw [← here]
    exact member
  · exact fun member => ⟨slot id attempt, ⟨member, rfl⟩, rfl⟩

omit [LinearOrder F] in
theorem retiring_distinct (distinct : chosen.Nodup) (id : Identity) :
    (retiring chosen id).Nodup := by
  unfold retiring fibre
  rw [List.nodup_map_iff_inj_on (distinct.filter _)]
  intro left leftMember right rightMember same
  have leftHere := of_decide_eq_true (List.mem_filter.mp leftMember).2
  have rightHere := of_decide_eq_true (List.mem_filter.mp rightMember).2
  exact ofLex.injective (Prod.ext (leftHere.trans rightHere.symm) same)

end Retire

section Exact

variable {F : Type} [LinearOrder F]

/-- What removing some generations leaves: their counter and terminal rows go, and
an identity goes with its last row; the rest stays. -/
structure Retires (tables after : Tables F) (chosen : List (Identity ×ₗ F)) : Prop where
  attempts : ∀ id stored, tables.inbox.find? id = some stored → after.attempts.find? id =
      if slot id stored.fingerprint ∈ chosen then none else tables.attempts.find? id
  attemptGenerations : ∀ candidate, after.attemptGenerations.find? candidate =
    if candidate ∈ chosen then none else tables.attemptGenerations.find? candidate
  terminal : ∀ candidate, after.terminal.find? candidate =
    if candidate ∈ chosen then none else tables.terminal.find? candidate
  emptied : ∀ candidate ∈ chosen, ¬ ((after.slice (ofLex candidate).1).HasAttempts ∨
    (after.slice (ofLex candidate).1).HasTerminal) →
    after.inbox.find? (ofLex candidate).1 = none
  kept : ∀ id, (∀ attempt, slot id attempt ∉ chosen) ∨
    ((after.slice id).HasAttempts ∨ (after.slice id).HasTerminal) →
    after.inbox.find? id = tables.inbox.find? id
  elsewhere : ∀ id, (∀ attempt, slot id attempt ∉ chosen) → after.slice id = tables.slice id

variable [Sha256 F]

omit [Sha256 F] in
theorem EligibleGeneration.retirable {tables : Tables F} {before : Time}
    {candidate : Time × (Identity ×ₗ F)} (eligible : EligibleGeneration tables before candidate) :
    (tables.slice (ofLex candidate.2).1).Retirable before (ofLex candidate.2).2 := by
  obtain ⟨row, stored, closed, confirmed, early, identity, incomplete⟩ := eligible
  refine ⟨⟨stored, identity, incomplete⟩, row, closed, ?_⟩
  simpa only [confirmedBefore, confirmed, decide_eq_true_eq] using early

theorem pruneTerminal_retires (collation : Collation) (tables : Tables F)
    (coherent : tables.Coherent) (before : Time) (limit : Nat) :
    ∃ chosen, Least (Collation.timedLe collation.slotLe · ·) limit
      (EligibleGeneration tables before) chosen ∧
      Retires tables (pruneTerminal collation tables before limit).1 (chosen.map Prod.snd) ∧
      (pruneTerminal collation tables before limit).2 = chosen.length := by
  obtain ⟨chosen, least, distinct, visited⟩ := candidates_least tables before collation limit
  have single := visited.nodup_iff.mpr distinct
  have ready : ∀ candidate ∈ candidates collation tables before limit,
      (tables.slice (ofLex candidate).1).Retirable before (ofLex candidate).2 := by
    intro candidate member
    obtain ⟨timed, listed, rfl⟩ := List.mem_map.mp (visited.mem_iff.mp member)
    exact (least.selected timed listed).retirable
  have listed : ∀ id attempt, attempt ∈ retiring (candidates collation tables before limit) id ↔
      slot id attempt ∈ chosen.map Prod.snd := by
    intro id attempt
    rw [mem_retiring, visited.mem_iff]
  have retired : ∀ id,
      (tables.slice id).Retired ((pruneTerminal collation tables before limit).1.slice id)
      (retiring (candidates collation tables before limit) id) := by
    intro id
    rw [pruneTerminal_slice]
    refine Slice.retire_all before _ (retiring_distinct _ single id) _ (fun attempt member => ?_)
    exact ready (slot id attempt) ((mem_retiring _ id attempt).mp member)
  have absent : ∀ id, (∀ attempt, slot id attempt ∉ chosen.map Prod.snd) →
      retiring (candidates collation tables before limit) id = [] := by
    intro id none
    refine List.eq_nil_iff_forall_not_mem.mpr (fun attempt member => none attempt ?_)
    exact (listed id attempt).mp member
  refine ⟨chosen, least, ⟨fun id stored identity => ?_, fun candidate => ?_, fun candidate => ?_,
    fun candidate member empty => ?_, fun id held => ?_, fun id none => ?_⟩, ?_⟩
  · change ((pruneTerminal collation tables before limit).1.slice id).legacy = _
    rw [(retired id).legacy]
    change Option.filter _ (tables.attempts.find? id) = _
    -- The legacy counter goes with the generation that carries its fingerprint.
    cases found : tables.attempts.find? id with
    | none => simp
    | some counter =>
      have print := (coherent id).stamped counter stored found identity
      by_cases member : slot id stored.fingerprint ∈ chosen.map Prod.snd
      · simp only [Option.filter_some, print, listed, member, not_true_eq_false, decide_false,
          Bool.false_eq_true, if_false, if_true]
      · simp only [Option.filter_some, print, listed, member, not_false_eq_true,
          decide_true, if_true, if_false]
  · have rows := (retired (ofLex candidate).1).generations (ofLex candidate).2
    simp only [listed] at rows
    exact rows
  · have rows := (retired (ofLex candidate).1).terminal (ofLex candidate).2
    simp only [listed] at rows
    exact rows
  · refine (retired (ofLex candidate).1).emptied (fun none => ?_) empty
    have present := (listed (ofLex candidate).1 (ofLex candidate).2).mpr member
    rw [none] at present
    exact absurd present List.not_mem_nil
  · exact (retired id).kept (held.imp_left (absent id))
  · have rows := retired id
    rw [absent id none] at rows
    exact rows.eq_of_nil
  · rw [pruneTerminal, foldl_pruneCandidate_count before _ single _ ready, Nat.zero_add,
      visited.length_eq, List.length_map]

theorem length_deleteWhere {K V : Type} [LinearOrder K] (table : KeyedTable K V)
    (removes : K → V → Bool) (keys : List K) (named : ∀ key row,
      removes key row = true ↔ key ∈ keys)
    (distinct : keys.Nodup) (stored : ∀ key ∈ keys, table.find? key ≠ none) :
    table.rows.length - (table.deleteWhere removes).rows.length = keys.length := by
  have split := List.length_eq_length_filter_add (l := table.rows)
    (fun entry => removes entry.1 entry.2)
  have removed : ((table.rows.filter (fun entry => removes entry.1 entry.2)).map Prod.fst).Perm
      keys := by
    have ordered := (List.pairwise_map (f := Prod.fst)).mpr
      (table.sorted.filter (fun entry => removes entry.1 entry.2))
    refine (List.perm_ext_iff_of_nodup (ordered.imp (fun below => ne_of_lt below)) distinct).mpr ?_
    intro key
    simp only [List.mem_map, List.mem_filter, named]
    constructor
    · rintro ⟨entry, ⟨_, member⟩, rfl⟩
      exact member
    · intro member
      obtain ⟨row, found⟩ := Option.ne_none_iff_exists'.mp (stored key member)
      exact ⟨(key, row), ⟨(KeyedTable.mem_rows _ _ _).mpr found, member⟩, rfl⟩
  have count := removed.length_eq
  rw [List.length_map] at count
  simp only [KeyedTable.deleteWhere]
  omega

/-- In every reachable state, for every cut-off and accepted limit:
`PruneTerminalAttempts` removes the generations confirmed earliest among the
eligible ones and counts them, and `Prune` the identities completed earliest. -/
theorem pruning_exact (backend : Backend) (tables : Tables F) (reachable : Reachable backend tables)
    (now : Readings) (before : Time) (limit : Int) (accepted : pruneBounds before limit = true) :
    (let call := step backend tables ⟨.pruneTerminalAttempts before limit, now, .asDecided⟩
      ∃ chosen, Least (Collation.timedLe backend.collation.slotLe · ·) limit.toNat
          (EligibleGeneration tables before) chosen ∧
        Retires tables call.tables (chosen.map Prod.snd) ∧
        call.reply = .pruned chosen.length ∧ call.err = none) ∧
    let call := step backend tables ⟨.prune before limit, now, .asDecided⟩
    ∃ chosen, Least (Collation.timedLe backend.collation.identityLe · ·) limit.toNat
        (EligibleIdentity tables before) chosen ∧
      (∀ id, call.tables.slice id =
        if id ∈ chosen.map Prod.snd then Slice.empty else tables.slice id) ∧
      call.reply = .pruned chosen.length ∧ call.err = none := by
  have coherent := reachable.coherent
  constructor
  · obtain ⟨chosen, least, retires, count⟩ :=
      pruneTerminal_retires backend.collation tables coherent before limit.toNat
    refine ⟨chosen, least, ?_⟩
    simp only [step, Op.perform, Store.pruneTerminalAttempts, accepted, if_true,
      Call.map, pruneTerminalAttempts]
    exact ⟨retires, by rw [count], trivial⟩
  · obtain ⟨chosen, least, distinct, selected⟩ :=
      doomed_least tables before backend.collation limit.toNat
    refine ⟨chosen, least, ?_⟩
    simp only [step, Op.perform, Store.prune, accepted, if_true, Call.map]
    refine ⟨fun id => ?_, ?_, rfl⟩
    · rw [prune_slice, selected]
    · have stored : ∀ id ∈ chosen.map Prod.snd, tables.inbox.find? id ≠ none := by
        intro id member
        obtain ⟨candidate, listed, rfl⟩ := List.mem_map.mp member
        obtain ⟨row, known, _⟩ := least.selected candidate listed
        rw [known]
        exact Option.some_ne_none row
      have count := length_deleteWhere tables.inbox
        (fun id _ => id ∈ doomed backend.collation tables before limit.toNat) (chosen.map Prod.snd)
        (fun id _ => by rw [decide_eq_true_eq, selected]) distinct stored
      rw [List.length_map] at count
      exact congrArg Reply.pruned count

/-- A closed generation and its identity go once the handoff was confirmed. -/
theorem pruning_exact_confirmed :
    let failing : Op Preimage := .processAttempt sampleKey ⟨[1]⟩ 5 (some (.permanent (.text "bad")))
    let confirming : Op Preimage := .confirmTerminalHandoff sampleKey ⟨[1]⟩
    let tables := run .sqlite (Tables.empty Preimage) [sampleStep failing, sampleStep confirming]
    let call := step .sqlite tables ⟨.pruneTerminalAttempts 8 1, sampleReadings, .asDecided⟩
    call.tables = Tables.empty Preimage ∧ call.reply = .pruned 1 ∧
      ∃ chosen, Least (Collation.timedLe Collation.binary.slotLe · ·) 1
        (EligibleGeneration tables 8)
        chosen ∧ Retires tables call.tables (chosen.map Prod.snd) := by
  intro failing confirming tables call
  refine ⟨by decide, by decide, ?_⟩
  obtain ⟨chosen, least, retires, _⟩ :=
    (pruning_exact .sqlite tables ⟨[_, _], rfl⟩ sampleReadings 8 1 (by decide)).1
  exact ⟨chosen, least, retires⟩

/-- Calls of `Prune` in a row remove what one call under the sum of their limits
would choose. -/
theorem portions_add_up (backend : Backend) (before : Time) (tables : Tables F)
    (portions : List ({ limit : Int // pruneBounds before limit = true } × Readings)) :
    ∃ chosen, Least (Collation.timedLe backend.collation.identityLe · ·)
    (portions.map (·.1.val.toNat)).sum
        (EligibleIdentity tables before) chosen ∧
      ∀ id, (run backend tables (portions.map fun portion => ⟨.prune before portion.1.val,
        portion.2, .asDecided⟩)).slice id =
        if id ∈ chosen.map Prod.snd then Slice.empty else tables.slice id := by
  induction portions generalizing tables with
  | nil => exact ⟨[], ⟨.nil, by simp, Nat.le_refl 0, by simp, fun _ _ _ => rfl⟩, fun id => by simp⟩
  | cons portion rest ih =>
    obtain ⟨chosen, least, _, selected⟩ :=
      doomed_least tables before backend.collation portion.1.val.toNat
    have pruned (id : Identity) : (step backend tables ⟨.prune before portion.1.val, portion.2,
      .asDecided⟩).tables.slice id =
        if id ∈ chosen.map Prod.snd then Slice.empty else tables.slice id := by
      simp only [step, Op.perform, Store.prune, portion.1.property, if_true,
        Call.map, prune_slice, selected]
    obtain ⟨later, next, after⟩ := ih _
    refine ⟨chosen ++ later, least.append (next.congr fun candidate => ?_), fun id => ?_⟩
    · have found := congrArg Slice.identity (pruned candidate.2)
      by_cases gone : candidate.2 ∈ chosen.map Prod.snd
      · obtain ⟨other, inside, same⟩ := List.mem_map.mp gone
        obtain ⟨row, stored, time, _⟩ := least.selected other inside
        rw [if_pos gone] at found
        constructor
        · rintro ⟨_, known, _⟩
          cases found.symm.trans known
        · rintro ⟨⟨_, known, completed, _⟩, apart⟩
          obtain rfl := Option.some.inj ((same ▸ stored).symm.trans known)
          exact absurd (Prod.ext (Option.some.inj (time.symm.trans completed)) same ▸ inside) apart
      · rw [if_neg gone] at found
        have apart : candidate ∉ chosen := fun inside => gone (List.mem_map_of_mem inside)
        rw [and_iff_left apart]
        constructor <;> rintro ⟨row, known, rest⟩
        · exact ⟨row, found.symm.trans known, rest⟩
        · exact ⟨row, found.trans known, rest⟩
    · rw [List.map_cons, run_cons, after, pruned, List.map_append]
      simp only [List.mem_append]
      split_ifs <;> first | rfl | tauto

end Exact

end Gomessenger.Inbox
