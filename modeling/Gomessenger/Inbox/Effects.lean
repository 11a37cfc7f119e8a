import Gomessenger.Inbox.Store

/-! Everything a call of the store can do to one identity. -/

namespace Gomessenger.Inbox

open LocalAction

section Effects

variable {F : Type}

/-- What a call did with one identity: its rows afterwards, the items of it
handed to a handler, and the handler outcomes that were committed. -/
structure Trace (F : Type) where
  slice : Slice F
  invoked : List (BatchItem F)
  finished : List (BatchItem F × Option GoError)

/-- An identity for which `Process` runs its handler. -/
def Slice.Unclaimed (slice : Slice F) (fingerprint : F) : Prop :=
  slice.identity = none ∨ ∃ row, slice.identity = some row ∧ row.fingerprint = fingerprint ∧
    row.completedAt = none ∧ ¬ slice.HasAttempts

variable [LinearOrder F]

def Call.at {Reply : Type} (call : Call F Reply) (id : Identity) : Trace F :=
  ⟨call.tables.slice id, fibre (fun item => item.key.identity) call.invoked id,
    fibre (fun entry => entry.1.key.identity) call.finished id⟩

@[simp] theorem Call.at_rollback {Reply : Type} (tables : Tables F) (invoked : List (BatchItem F))
    (reply : Reply) (err : GoError) (id : Identity) :
    (Call.rollback tables invoked reply err).at id =
      ⟨tables.slice id, fibre (fun item => item.key.identity) invoked id, []⟩ := rfl

@[simp] theorem Call.at_map {Reply Other : Type} (convert : Reply → Other) (call : Call F Reply)
    (id : Identity) : (call.map convert).at id = call.at id := by
  cases call
  rfl

theorem inspectAttempts_count (tables : Tables F) (id : Identity) :
    0 < (tables.inspectAttempts id).2 ↔ (tables.slice id).HasAttempts := by
  rw [← hasAttempts_slice]
  cases found : tables.attempts.find? id <;>
    simp [Tables.inspectAttempts, Tables.hasAttempts, found, List.length_pos_iff]

variable [Sha256 F]

inductive Effect (now : Readings) (id : Identity) (slice : Slice F) : Op F → Trace F → Prop
  | idle (op : Op F) : Effect now id slice op ⟨slice, [], []⟩
  | abandoned (op : Op F) (item : BatchItem F) (maxAttempts : Nat) (member : item ∈ op.items)
      (here : item.key.identity = id) (limit : op.limit = some maxAttempts)
      (positive : 0 < maxAttempts)
      (admitted : (slice.verdict item.key item.fingerprint maxAttempts).admits = true) :
      Effect now id slice op ⟨slice, [item], []⟩
  | refused (op : Op F) (item : BatchItem F) (maxAttempts : Nat) (next : Slice F)
      (member : item ∈ op.items) (here : item.key.identity = id)
      (limit : op.limit = some maxAttempts) (positive : 0 < maxAttempts)
      (denied : (slice.verdict item.key item.fingerprint maxAttempts).admits = false)
      (settled : slice.attempt item.key item.fingerprint now maxAttempts none = some next) :
      Effect now id slice op ⟨next, [], []⟩
  | attempted (op : Op F) (item : BatchItem F) (maxAttempts : Nat) (outcome : Option GoError)
      (next : Slice F) (member : item ∈ op.items) (here : item.key.identity = id)
      (limit : op.limit = some maxAttempts) (positive : 0 < maxAttempts)
      (admitted : (slice.verdict item.key item.fingerprint maxAttempts).admits = true)
      (settled : slice.attempt item.key item.fingerprint now maxAttempts outcome = some next) :
      Effect now id slice op ⟨next, [item], [(item, outcome)]⟩
  | dropped (key : Key) (fingerprint : F) (outcome : Option GoError) (here : key.identity = id)
      (unclaimed : slice.Unclaimed fingerprint) :
      Effect now id slice (.process key fingerprint outcome) ⟨slice, [⟨key.plain, fingerprint⟩], []⟩
  | processed (key : Key) (fingerprint : F) (outcome : Option GoError) (here : key.identity = id)
      (unclaimed : slice.Unclaimed fingerprint) :
      Effect now id slice (.process key fingerprint outcome)
        ⟨(slice.insertIdentity now.created fingerprint).markComplete now.completed,
          [⟨key.plain, fingerprint⟩], [(⟨key.plain, fingerprint⟩, none)]⟩
  | forgotten (key : Key) (fingerprint : F) (here : key.identity = id) (row : IdentityRow F)
      (stored : slice.identity = some row) (same : row.fingerprint = fingerprint)
      (incomplete : row.completedAt = none) :
      Effect now id slice (.forgetAttempt key fingerprint) ⟨slice.forget key.attemptGeneration
          (attemptFingerprint key.attemptGeneration fingerprint), [], []⟩
  | confirmed (key : Key) (fingerprint : F) (here : key.identity = id) (row : IdentityRow F)
      (stored : slice.identity = some row) (same : row.fingerprint = fingerprint) :
      Effect now id slice (.confirmTerminalHandoff key fingerprint)
        ⟨slice.confirm (attemptFingerprint key.attemptGeneration fingerprint) now.confirmed, [], []⟩
  | pruned (before : Time) (limit : Int) (row : IdentityRow F) (stored : slice.identity = some row)
      (completed : row.completedAt ≠ none) :
      Effect now id slice (.prune before limit) ⟨Slice.empty, [], []⟩
  | retired (before : Time) (limit : Int) (attempts : List F) :
      Effect now id slice (.pruneTerminalAttempts before limit)
        ⟨attempts.foldl (fun current attempt => current.retire before attempt) slice, [], []⟩

theorem Effect.undo {now : Readings} {id : Identity} {slice : Slice F} {op : Op F} {trace : Trace F}
    (effect : Effect now id slice op trace) :
    Effect now id slice op ⟨slice, trace.invoked, []⟩ := by
  cases effect with
  | idle => exact .idle op
  | abandoned op item maxAttempts member here limit positive admitted =>
    exact .abandoned op item maxAttempts member here limit positive admitted
  | refused => exact .idle op
  | attempted op item maxAttempts outcome next member here limit positive admitted settled =>
    exact .abandoned op item maxAttempts member here limit positive admitted
  | dropped key fingerprint outcome here unclaimed =>
    exact .dropped key fingerprint outcome here unclaimed
  | processed key fingerprint outcome here unclaimed =>
    exact .dropped key fingerprint outcome here unclaimed
  | forgotten => exact .idle _
  | confirmed => exact .idle _
  | pruned => exact .idle _
  | retired => exact .idle _

omit [LinearOrder F] [Sha256 F] in
theorem fibre_single {X : Type} (index : X → Identity) (item : X) (id : Identity) :
    fibre index [item] id = if index item = id then [item] else [] := by
  by_cases same : index item = id <;> simp [fibre, same]

omit [Sha256 F] in
theorem claimIdentity_cases (tables : Tables F) (key : Key) (fingerprint : F) :
    (∃ reply, claimIdentity tables key fingerprint = some (.ok reply)) ∨
      (∃ err, claimIdentity tables key fingerprint = some (.error err)) ∨
      (tables.slice key.identity).Unclaimed fingerprint ∧
        claimIdentity tables key fingerprint = none := by
  unfold claimIdentity
  cases stored : tables.inbox.find? key.identity with
  | none => exact .inr (.inr ⟨.inl stored, rfl⟩)
  | some row =>
    simp only [handleExisting]
    by_cases conflict : row.fingerprint ≠ fingerprint
    · exact .inr (.inl ⟨_, if_pos conflict⟩)
    · rw [if_neg conflict]
      by_cases completed : row.completedAt ≠ none
      · exact .inl ⟨_, if_pos completed⟩
      · rw [if_neg completed]
        by_cases tracked : 0 < (tables.inspectAttempts key.identity).2
        · rw [if_pos tracked]
          by_cases flagged : 0 < (tables.inspectAttempts key.identity).1
          · exact .inr (.inl ⟨_, if_pos flagged⟩)
          · exact .inr (.inl ⟨_, if_neg flagged⟩)
        · refine .inr (.inr ⟨.inr ⟨row, stored, not_not.mp conflict, not_not.mp completed,
            fun held => tracked ((inspectAttempts_count tables key.identity).mpr held)⟩, ?_⟩)
          rw [if_neg tracked]

omit [Sha256 F] in
theorem process_cases (now : Readings) (tables : Tables F) (key : Key) (fingerprint : F)
    (outcome : Option GoError) :
    (∃ reply err, process now tables key fingerprint outcome = ⟨tables, [], [], [], reply, err⟩) ∨
      (tables.slice key.identity).Unclaimed fingerprint ∧
        ((∃ err, process now tables key fingerprint outcome =
            .rollback tables [⟨key, fingerprint⟩] ⟨false, 0⟩ err) ∨
          process now tables key fingerprint outcome =
            ⟨(tables.insertIdentity key.identity now.created fingerprint).markComplete
              key.identity now.completed,
              [⟨key, fingerprint⟩], [(⟨key, fingerprint⟩, none)], [], ⟨false, 0⟩, none⟩) := by
  unfold process
  rcases claimIdentity_cases tables key fingerprint with
    ⟨reply, held⟩ | ⟨err, held⟩ | ⟨unclaimed, free⟩
  · exact .inl ⟨reply, none, by rw [held]⟩
  · exact .inl ⟨⟨false, 0⟩, some err, by rw [held]; rfl⟩
  · refine .inr ⟨unclaimed, ?_⟩
    rw [free]
    cases outcome with
    | none => exact .inr rfl
    | some err => exact .inl ⟨err, rfl⟩

theorem process_effect (now : Readings) (tables : Tables F) (key : Key) (fingerprint : F)
    (outcome : Option GoError) (id : Identity) :
    Effect now id (tables.slice id) (.process key fingerprint outcome)
      ((process now tables key.plain fingerprint outcome).at id) := by
  have plain : key.plain.identity = key.identity := rfl
  rcases process_cases now tables key.plain fingerprint outcome with
    ⟨reply, err, unchanged⟩ | ⟨unclaimed, ⟨err, undone⟩ | committed⟩
  · rw [unchanged]
    exact .idle _
  · rw [undone, Call.at_rollback, fibre_single]
    by_cases here : key.identity = id
    · subst here
      rw [if_pos plain]
      exact .dropped key fingerprint outcome rfl unclaimed
    · rw [if_neg (plain ▸ here)]
      exact .idle _
  · have acts := (insertIdentity_acts key.identity now.created fingerprint).comp
      (markComplete_acts key.identity now.completed)
    rw [committed, Call.at, fibre_single, fibre_single]
    by_cases here : key.identity = id
    · subst here
      rw [if_pos plain, if_pos plain]
      simp only [plain]
      rw [show ((tables.insertIdentity key.identity now.created fingerprint).markComplete
        key.identity
        now.completed).slice key.identity = _ from acts.here tables]
      exact .processed key fingerprint outcome rfl unclaimed
    · rw [if_neg (plain ▸ here), if_neg (plain ▸ here)]
      simp only [plain]
      rw [show ((tables.insertIdentity key.identity now.created fingerprint).markComplete
        key.identity
        now.completed).slice id = _ from acts.elsewhere (Ne.symm here) tables]
      exact .idle _

section Attempt

variable (now : Readings) (tables : Tables F) (maxAttempts : Nat) (positive : 0 < maxAttempts)

variable (slice : Slice F) (key : Key) (fingerprint : F) (outcome : Option GoError) (id : Identity)

theorem attemptCall_slice :
    ((attemptCall now tables key fingerprint maxAttempts outcome).tables).slice id =
      if id = key.identity then
        ((tables.slice id).attempt key fingerprint now maxAttempts outcome).getD (tables.slice id)
      else tables.slice id := by
  have inserted := insertIdentity_acts key.identity now.created fingerprint
  by_cases same : id = key.identity
  · subst same
    rw [if_pos rfl]
    unfold attemptCall Slice.attempt
    cases (tables.slice key.identity).verdict key fingerprint maxAttempts with
    | conflict => rfl
    | duplicate count => rfl
    | closed kind count =>
      by_cases counted : 0 < count
      · simp only [counted, dif_pos]
        exact (inserted.comp (upsertTerminal_acts key.identity _ now.recorded count
          counted kind)).here tables
      · simp only [counted, dif_neg, not_false_eq_true]
        rfl
    | admitted count =>
      exact (inserted.comp (settleTables_acts now key fingerprint maxAttempts count outcome)).here
        tables
  · rw [if_neg same]
    unfold attemptCall
    cases (tables.slice key.identity).verdict key fingerprint maxAttempts with
    | conflict => rfl
    | duplicate count => rfl
    | closed kind count =>
      by_cases counted : 0 < count
      · simp only [counted, dif_pos]
        exact (inserted.comp (upsertTerminal_acts key.identity _ now.recorded count counted
          kind)).elsewhere same tables
      · simp only [counted, dif_neg, not_false_eq_true]
        rfl
    | admitted count =>
      exact (inserted.comp (settleTables_acts now key fingerprint maxAttempts count
        outcome)).elsewhere same tables

theorem attemptCall_invoked (key : Key) (fingerprint : F) (outcome : Option GoError) :
    let call := attemptCall now tables key fingerprint maxAttempts outcome
    let admits := ((tables.slice key.identity).verdict key fingerprint maxAttempts).admits
    call.invoked = (if admits then [⟨key, fingerprint⟩] else []) ∧
      call.finished = if admits then [(⟨key, fingerprint⟩, outcome)] else [] := by
  simp only [attemptCall]
  cases (tables.slice key.identity).verdict key fingerprint maxAttempts with
  | conflict => exact ⟨rfl, rfl⟩
  | duplicate count => exact ⟨rfl, rfl⟩
  | closed kind count =>
    by_cases counted : 0 < count <;> simp [counted, Verdict.admits, Call.rollback]
  | admitted count => exact ⟨rfl, rfl⟩

theorem Slice.attempt_denied
    (denied : (slice.verdict key fingerprint maxAttempts).admits = false) :
    slice.attempt key fingerprint now maxAttempts outcome =
      slice.attempt key fingerprint now maxAttempts none := by
  unfold Slice.attempt
  cases verdict : slice.verdict key fingerprint maxAttempts with
  | admitted count =>
    rw [verdict] at denied
    cases denied
  | conflict | duplicate | closed => rfl

theorem Slice.attempt_admitted
    (admitted : (slice.verdict key fingerprint maxAttempts).admits = true) :
    ∃ next, slice.attempt key fingerprint now maxAttempts outcome = some next := by
  unfold Slice.attempt
  cases verdict : slice.verdict key fingerprint maxAttempts with
  | admitted count => exact ⟨_, rfl⟩
  | conflict | duplicate | closed =>
    rw [verdict] at admitted
    cases admitted

include positive in
theorem attemptCall_effect :
    Effect now id (tables.slice id) (.processAttempt key fingerprint maxAttempts outcome)
      ((attemptCall now tables key fingerprint maxAttempts outcome).at id) := by
  obtain ⟨invoked, finished⟩ := attemptCall_invoked now tables maxAttempts key fingerprint outcome
  have rows := attemptCall_slice now tables maxAttempts key fingerprint outcome id
  rw [Call.at, invoked, finished, rows]
  by_cases here : id = key.identity
  · subst here
    rw [if_pos rfl]
    cases admits : ((tables.slice key.identity).verdict key fingerprint maxAttempts).admits with
    | true =>
      obtain ⟨next, settled⟩ := (tables.slice key.identity).attempt_admitted now maxAttempts key
        fingerprint outcome admits
      simp only [if_true, fibre_single, settled, Option.getD_some]
      exact .attempted _ ⟨key, fingerprint⟩ maxAttempts outcome next
        (List.mem_singleton.mpr rfl) rfl
        rfl positive admits settled
    | false =>
      have denied := (tables.slice key.identity).attempt_denied now maxAttempts key
        fingerprint outcome admits
      simp only [Bool.false_eq_true, if_false, denied]
      cases settled : (tables.slice key.identity).attempt key fingerprint now maxAttempts none with
      | none => exact .idle _
      | some next =>
        exact .refused _ ⟨key, fingerprint⟩ maxAttempts next (List.mem_singleton.mpr rfl) rfl rfl
          positive admits settled
  · rw [if_neg here]
    have apart : key.identity ≠ id := Ne.symm here
    split
    · rw [fibre_single, fibre_single, if_neg apart, if_neg apart]
      exact .idle _
    · exact .idle _

end Attempt

section Batch

variable (consumerID : String) (settled : List (MatchedGroup F × Option GoError))

omit [LinearOrder F] [Sha256 F] in
theorem Bound.fibre_of_mem (bound : Bound consumerID (settled.map Prod.fst)) {X : Type}
    (read : MatchedGroup F × Option GoError → X) (index : X → Identity)
    (named : ∀ entry, index (read entry) = entry.1.lead.item.key.identity)
    (entry : MatchedGroup F × Option GoError) (member : entry ∈ settled) :
    fibre index (settled.map read) (identityOf consumerID entry.1.key) = [read entry] := by
  have leads : ∀ other ∈ settled, index (read other) = identityOf consumerID other.1.key :=
    fun other present => (named other).trans (bound.leads other.1 (List.mem_map_of_mem present))
  have distinct : ((settled.map read).map index).Nodup := by
    have identities := bound.identities
    rw [List.map_map] at identities ⊢
    have same : settled.map (index ∘ read) = settled.map
        ((fun group => identityOf consumerID group.key) ∘ Prod.fst) :=
      List.map_congr_left leads
    rw [same]
    exact identities
  rw [← leads entry member]
  exact LocalAction.fibre_of_mem index (settled.map read) distinct (read entry)
    (List.mem_map_of_mem member)

omit [LinearOrder F] [Sha256 F] in
theorem Bound.fibre_of_notMem (bound : Bound consumerID (settled.map Prod.fst)) {X : Type}
    (read : MatchedGroup F × Option GoError → X) (index : X → Identity)
    (named : ∀ entry, index (read entry) = entry.1.lead.item.key.identity) (id : Identity)
    (absent : ∀ entry ∈ settled, identityOf consumerID entry.1.key ≠ id) :
    fibre index (settled.map read) id = [] := by
  apply LocalAction.fibre_of_notMem
  intro item member
  obtain ⟨entry, present, rfl⟩ := List.mem_map.mp member
  rw [named, bound.leads entry.1 (List.mem_map_of_mem present)]
  exact absent entry present

variable (now : Readings) (tables : Tables F) (items : List (BatchItem F)) (maxAttempts : Nat)
variable (handler : BatchHandler F) (groups : List (BatchGroup F))
variable (positive : 0 < maxAttempts)
variable (consumers : ∀ item ∈ items, item.key.consumerID = consumerID)
variable (given : Answered consumerID now tables items maxAttempts groups (settled.map Prod.fst))

omit [LinearOrder F] [Sha256 F] in
include consumers in
theorem entry_consumers (entry : BatchPreparedItem F) (member : entry ∈ batchEntries items) :
    entry.item.key.consumerID = consumerID :=
  consumers entry.item (List.mem_of_getElem? ((mem_batchEntries items entry).mp member))

include consumers given in
theorem Answered.bound : Bound consumerID (settled.map Prod.fst) :=
  (referencePrepared_bound consumerID now tables maxAttempts given.grouped
    (entry_consumers consumerID items consumers)).perm given.active.symm

include consumers given in
theorem Answered.lead (entry : MatchedGroup F × Option GoError) (member : entry ∈ settled) :
    entry.1.lead.item ∈ items ∧
      entry.1.lead.item.key.identity = identityOf consumerID entry.1.key ∧
      ((tables.slice (identityOf consumerID entry.1.key)).verdict entry.1.lead.item.key
        entry.1.lead.item.fingerprint maxAttempts).admits = true := by
  have bound := given.bound consumerID settled now tables items maxAttempts groups consumers
  obtain ⟨group, present, matched, lead, admitted, equal⟩ := settled_lead consumerID now tables
    maxAttempts settled given.active given.grouped entry member
  have key : entry.1.key = group.key := by
    rw [equal]
    exact leadOf_key now _ group matched lead
  have inside := given.grouped.mem_entries group present matched.lead
    (matchGroup_mem _ _ _ lead _ (.head _)).1
  refine ⟨?_, bound.leads entry.1 (List.mem_map_of_mem member), ?_⟩
  · rw [equal]
    exact List.mem_of_getElem? ((mem_batchEntries items matched.lead).mp inside)
  · rw [key, equal]
    exact admitted

include positive consumers given in
theorem abandoned_effect (id : Identity) :
    Effect now id (tables.slice id) (.processBatchAttempt items maxAttempts handler)
      ⟨tables.slice id, fibre (fun item => item.key.identity)
        (settled.map (fun entry => entry.1.lead.item)) id, []⟩ := by
  have bound := given.bound consumerID settled now tables items maxAttempts groups consumers
  by_cases named : ∃ entry ∈ settled, identityOf consumerID entry.1.key = id
  · obtain ⟨entry, member, rfl⟩ := named
    obtain ⟨inside, here, admitted⟩ := given.lead consumerID settled now tables items maxAttempts
      groups consumers entry member
    rw [bound.fibre_of_mem consumerID settled (fun entry => entry.1.lead.item) _
      (fun _ => rfl) entry member]
    exact .abandoned _ entry.1.lead.item maxAttempts inside here rfl positive admitted
  · rw [bound.fibre_of_notMem consumerID settled (fun entry =>
      entry.1.lead.item) _ (fun _ => rfl) id
      (fun entry member same => named ⟨entry, member, same⟩)]
    exact .idle _

include positive consumers given in
/-- A committed batch attempts the lead item of every group and leaves the other
identities alone. -/
theorem recorded_effect (recorded : Tables F) (accepted :
      let outcomes :=
        reportItems (finalAssignments now tables consumerID groups maxAttempts settled)
      record (preserveDeferred (settledTables now tables consumerID groups settled) outcomes
        now.deferred) outcomes now.recorded = .ok recorded) (id : Identity) :
    Effect now id (tables.slice id) (.processBatchAttempt items maxAttempts handler)
      ⟨recorded.slice id,
        fibre (fun item => item.key.identity) (settled.map (fun entry => entry.1.lead.item)) id,
        fibre (fun entry => entry.1.key.identity)
            (settled.map (fun entry => (entry.1.lead.item, entry.2))) id⟩ := by
  have bound := given.bound consumerID settled now tables items maxAttempts groups consumers
  have entryConsumers := entry_consumers consumerID items consumers
  have distinct : ((batchEntries items).map BatchPreparedItem.index).Nodup := by
    rw [batchEntries_indices]
    exact List.nodup_range
  by_cases named : ∃ group ∈ groups, identityOf consumerID group.key = id
  · obtain ⟨group, member, rfl⟩ := named
    have rows := recorded_group consumerID now tables maxAttempts settled given.active given.grouped
      entryConsumers distinct recorded accepted group member
    have belongs : ∀ entry ∈ settled, identityOf consumerID entry.1.key =
      identityOf consumerID group.key → ∃ matched,
          leadOf now (tables.slice (identityOf consumerID group.key)) group = some matched ∧
          ((tables.slice (identityOf consumerID group.key)).verdict matched.lead.item.key
            matched.lead.item.fingerprint maxAttempts).admits = true := by
      intro entry inside same
      obtain ⟨matched, lead, admitted, _⟩ := settled_group consumerID now tables maxAttempts settled
        given.active given.grouped group member entry inside
          ((identityOf_inj consumerID _ _).mp same)
      exact ⟨matched, lead, admitted⟩
    unfold GroupSettled at rows
    cases lead : leadOf now (tables.slice (identityOf consumerID group.key)) group with
    -- Every item of the group differs from the stored fingerprint, so none is attempted.
    | none =>
      simp only [lead] at rows
      have unsettled : ∀ entry ∈ settled,
          identityOf consumerID entry.1.key ≠ identityOf consumerID group.key := by
        intro entry inside same
        obtain ⟨matched, other, _⟩ := belongs entry inside same
        rw [lead] at other
        cases other
      rw [rows, bound.fibre_of_notMem consumerID settled (fun entry => entry.1.lead.item) _
        (fun _ => rfl) _ unsettled,
        bound.fibre_of_notMem consumerID settled (fun entry => (entry.1.lead.item, entry.2)) _
          (fun _ => rfl) _ unsettled]
      exact .idle _
    | some matched =>
      simp only [lead] at rows
      obtain ⟨err, finished, attempted⟩ := rows
      have inside := given.grouped.mem_entries group member matched.lead
        (matchGroup_mem _ _ _ lead _ (.head _)).1
      have listed : matched.lead.item ∈ items :=
        List.mem_of_getElem? ((mem_batchEntries items matched.lead).mp inside)
      have here : matched.lead.item.key.identity = identityOf consumerID group.key :=
        entry_identity consumerID given.grouped entryConsumers group member matched.lead
          (matchGroup_mem _ _ _ lead _ (.head _)).1
      cases admits : ((tables.slice (identityOf consumerID group.key)).verdict
          matched.lead.item.key matched.lead.item.fingerprint maxAttempts).admits with
      | true =>
        have key : (matched.counted (tables.slice (identityOf consumerID group.key))).key =
            group.key := leadOf_key now _ group matched lead
        have invoked := bound.fibre_of_mem consumerID settled (fun entry => entry.1.lead.item)
          (fun item => item.key.identity) (fun _ => rfl) _ (finished admits)
        have committed := bound.fibre_of_mem consumerID settled
          (fun entry => (entry.1.lead.item, entry.2)) (fun entry => entry.1.key.identity)
          (fun _ => rfl) _ (finished admits)
        rw [key] at invoked committed
        rw [invoked, committed]
        exact .attempted _ matched.lead.item maxAttempts err _ listed here rfl
          positive admits attempted
      -- The lead found its generation closed or its message done.
      | false =>
        have unsettled : ∀ entry ∈ settled,
            identityOf consumerID entry.1.key ≠ identityOf consumerID group.key := by
          intro entry inside same
          obtain ⟨other, otherLead, admitted⟩ := belongs entry inside same
          obtain rfl := Option.some.inj (lead.symm.trans otherLead)
          rw [admits] at admitted
          cases admitted
        rw [Slice.attempt_denied now maxAttempts _ _ _ err admits] at attempted
        rw [bound.fibre_of_notMem consumerID settled (fun entry => entry.1.lead.item) _
          (fun _ => rfl) _ unsettled,
          bound.fibre_of_notMem consumerID settled (fun entry => (entry.1.lead.item, entry.2)) _
            (fun _ => rfl) _ unsettled]
        exact .refused _ matched.lead.item maxAttempts _ listed here rfl positive admits attempted
  · have absent : ∀ group ∈ groups, identityOf consumerID group.key ≠ id :=
      fun group member same => named ⟨group, member, same⟩
    have unsettled : ∀ entry ∈ settled, identityOf consumerID entry.1.key ≠ id := by
      intro entry member
      obtain ⟨group, present, key⟩ := settled_key consumerID now tables maxAttempts settled
        given.active given.grouped entry member
      rw [key]
      exact absent group present
    rw [recorded_elsewhere consumerID now tables maxAttempts settled given.active given.grouped
        entryConsumers distinct recorded accepted id absent,
      bound.fibre_of_notMem consumerID settled (fun entry => entry.1.lead.item) _
        (fun _ => rfl) id unsettled,
      bound.fibre_of_notMem consumerID settled (fun entry => (entry.1.lead.item, entry.2)) _
        (fun _ => rfl) id unsettled]
    exact .idle _

include positive consumers in
theorem batch_effect (call : Call F (BatchProcessResult F))
    (ends : BatchEnd consumerID now tables items maxAttempts handler call) (id : Identity) :
    Effect now id (tables.slice id) (.processBatchAttempt items maxAttempts handler)
    (call.at id) := by
  cases ends with
  | mixed err rejected => exact .idle _
  | failed groups active result err given answer | invalid groups active result err given answer =>
    have paired : (active.map (fun group => (group, (none : Option GoError)))).map Prod.fst =
        active := by simp [Function.comp_def]
    have effect := abandoned_effect consumerID
      (active.map (fun group => (group, (none : Option GoError)))) now tables items maxAttempts
      handler groups positive consumers (by rw [paired]; exact given) id
    rw [List.map_map] at effect
    exact effect
  | settled groups settled given answer =>
    cases accepted : record (preserveDeferred (settledTables now tables consumerID groups settled)
        (reportItems (finalAssignments now tables consumerID groups maxAttempts settled))
        now.deferred) (reportItems (finalAssignments now tables consumerID groups maxAttempts
        settled)) now.recorded with
    | error err =>
      simp only [commitTerminalBatch, accepted]
      exact abandoned_effect consumerID settled now tables items maxAttempts handler groups
        positive consumers given id
    | ok recorded =>
      simp only [commitTerminalBatch, accepted]
      exact recorded_effect consumerID settled now tables items maxAttempts handler groups positive
        consumers given recorded accepted id

end Batch

section Perform

theorem forget_effect (now : Readings) (tables : Tables F) (key : Key)
    (fingerprint : F) (id : Identity) :
    Effect now id (tables.slice id) (.forgetAttempt key fingerprint)
      ((forgetAttempt tables key fingerprint).at id) := by
  have quiet : (forgetAttempt tables key fingerprint).invoked = [] ∧
      (forgetAttempt tables key fingerprint).finished = [] := by
    simp only [forgetAttempt]
    repeat' split
    all_goals exact ⟨rfl, rfl⟩
  rw [Call.at, quiet.1, quiet.2]
  rcases forgetAttempt_slice tables key fingerprint with
    unchanged | ⟨⟨row, stored, same, incomplete⟩, rows⟩
  · rw [unchanged]
    exact .idle _
  · rw [rows id]
    by_cases here : id = key.identity
    · subst here
      rw [if_pos rfl]
      exact .forgotten key fingerprint rfl row stored same incomplete
    · rw [if_neg here]
      exact .idle _

theorem confirm_effect (now : Readings) (tables : Tables F) (key : Key)
    (fingerprint : F) (id : Identity) :
    Effect now id (tables.slice id) (.confirmTerminalHandoff key fingerprint)
      ((confirmTerminalHandoff now tables key fingerprint).at id) := by
  have quiet : (confirmTerminalHandoff now tables key fingerprint).invoked = [] ∧
      (confirmTerminalHandoff now tables key fingerprint).finished = [] := by
    unfold confirmTerminalHandoff
    split <;> exact ⟨rfl, rfl⟩
  rw [Call.at, quiet.1, quiet.2]
  rcases confirmTerminalHandoff_slice tables key fingerprint now with
    unchanged | ⟨⟨row, stored, same⟩, rows⟩
  · rw [unchanged]
    exact .idle _
  · rw [rows id]
    by_cases here : id = key.identity
    · subst here
      rw [if_pos rfl]
      exact .confirmed key fingerprint rfl row stored same
    · rw [if_neg here]
      exact .idle _

omit [LinearOrder F] [Sha256 F] in
theorem validateItems_consumers (consumerID : String) (items : List (BatchItem F)) :
    ∀ (index : Nat) (generations : List (BatchItemKey × String)),
      validateItems consumerID index generations items = none →
      ∀ item ∈ items, item.key.consumerID = consumerID ∧ validateKey item.key = none := by
  induction items with
  | nil => exact fun _ _ _ item member => absurd member List.not_mem_nil
  | cons head tail ih =>
    intro index generations accepted
    unfold validateItems at accepted
    split at accepted
    · cases accepted
    · rename_i valid
      split at accepted
      · cases accepted
      · rename_i consumer
        have later : ∀ item ∈ tail, item.key.consumerID = consumerID ∧
            validateKey item.key = none := by
          split at accepted
          · split at accepted
            · cases accepted
            · exact ih _ _ accepted
          · exact ih _ _ accepted
        intro item member
        rcases List.mem_cons.mp member with rfl | inside
        · exact ⟨not_not.mp consumer, valid⟩
        · exact later item inside

def Tables.Tracked (tables : Tables F) : Prop :=
  ∀ id, (tables.slice id).identity = none → ¬ (tables.slice id).HasAttempts

variable (backend : Backend) (now : Readings) (tables : Tables F) (tracked : tables.Tracked)

include tracked in
theorem Tables.Tracked.unread (key : Key) (fingerprint : F)
    (absent : tables.inbox.find? key.identity = none) :
    Inbox.readAttempt tables key fingerprint = none := by
  have free := tracked key.identity absent
  simp only [Slice.HasAttempts, not_or, not_exists, not_not] at free
  rw [Inbox.readAttempt, readAttempt_slice, Slice.readAttempt, free.1, free.2]
  split <;> rfl

include tracked in
theorem processAttempt_eq (key : Key) (fingerprint : F) (maxAttempts : Nat)
    (outcome : Option GoError) (positive : 0 < maxAttempts) :
    backend.processAttempt now tables key fingerprint maxAttempts outcome =
      attemptCall now tables key fingerprint maxAttempts outcome := by
  cases backend with
  | pgsql collation =>
    exact pgsql_processAttempt_eq now tables key fingerprint maxAttempts outcome positive
      (tracked.unread tables key fingerprint)
  | sqlite => exact sqlite_processAttempt_eq now tables key fingerprint maxAttempts outcome positive

theorem processBatchAttempt_eq (consumerID : String)
    (items : List (BatchItem F)) (maxAttempts : Nat)
    (handler : BatchHandler F) (consumers : ∀ item ∈ items, item.key.consumerID = consumerID) :
    backend.processBatchAttempt now tables items maxAttempts handler =
      runBatch (referenceStatements consumerID) now tables items maxAttempts handler := by
  cases backend with
  | pgsql collation =>
    exact runBatch_refines consumerID now tables maxAttempts _
      (pgsql_refines F consumerID) items handler consumers
  | sqlite =>
    exact runBatch_refines consumerID now tables maxAttempts _
      (sqlite_refines F consumerID) items handler consumers

include tracked in
theorem perform_effect (op : Op F) (id : Identity) :
    Effect now id (tables.slice id) op ((op.perform backend now tables).at id) := by
  cases op with
  | process key fingerprint outcome =>
    simp only [Op.perform, Call.at_map, Store.process]
    split
    · exact .idle _
    · exact process_effect now tables key fingerprint outcome id
  | processAttempt key fingerprint maxAttempts outcome =>
    simp only [Op.perform, Call.at_map, Store.processAttempt]
    split
    · exact .idle _
    · by_cases unlimited : maxAttempts = 0
      · rw [if_pos unlimited]
        exact .idle _
      · have positive : 0 < maxAttempts := Nat.pos_of_ne_zero unlimited
        rw [if_neg unlimited, processAttempt_eq backend now tables tracked key fingerprint
          maxAttempts outcome positive]
        exact attemptCall_effect now tables maxAttempts positive key fingerprint outcome id
  | processBatchAttempt items maxAttempts handler =>
    simp only [Op.perform, Call.at_map, Store.processBatchAttempt]
    split
    · exact .idle _
    · rename_i first rest
      by_cases unlimited : maxAttempts = 0
      · rw [if_pos unlimited]
        exact .idle _
      · rw [if_neg unlimited]
        split
        · exact .idle _
        · rename_i accepted
          have valid := validateItems_consumers first.key.consumerID _ 0 [] accepted
          have consumers : ∀ item ∈ first :: rest, item.key.consumerID = first.key.consumerID :=
            fun item member => (valid item member).1
          rw [processBatchAttempt_eq backend now tables first.key.consumerID _
            maxAttempts handler consumers]
          exact batch_effect first.key.consumerID now tables _ maxAttempts handler
            (Nat.pos_of_ne_zero unlimited) consumers _
            (runBatch_end first.key.consumerID now tables _ maxAttempts handler) id
  | forgetAttempt key fingerprint =>
    simp only [Op.perform, Call.at_map, Store.forgetAttempt]
    split
    · exact .idle _
    · exact forget_effect now tables key fingerprint id
  | confirmTerminalHandoff key fingerprint =>
    simp only [Op.perform, Call.at_map, Store.confirmTerminalHandoff]
    split
    · exact .idle _
    · exact confirm_effect now tables key fingerprint id
  | prune before limit =>
    simp only [Op.perform, Call.at_map, Store.prune]
    split
    · have rows := prune_slice backend.collation tables before limit.toNat id
      rw [Call.at, rows]
      split
      · rename_i member
        obtain ⟨row, time, stored, completed, _⟩ :=
          mem_doomed backend.collation tables before limit.toNat id member
        exact .pruned before limit row stored (by rw [completed]; exact Option.some_ne_none time)
      · exact .idle _
    · exact .idle _
  | pruneTerminalAttempts before limit =>
    simp only [Op.perform, Call.at_map, Store.pruneTerminalAttempts]
    split
    · rw [Call.at, pruneTerminalAttempts]
      rw [pruneTerminal_slice backend.collation tables before limit.toNat id]
      exact .retired before limit _
    · exact .idle _

include tracked in
/-- Every transition of the store, seen from one identity. -/
theorem step_effect (taken : Step F) (id : Identity) :
    Effect taken.now id (tables.slice id) taken.op ((step backend tables taken).at id) := by
  have performed := perform_effect backend taken.now tables tracked taken.op id
  unfold step
  cases taken.ends with
  | asDecided => exact performed
  | fails ran err =>
    simp only [Call.at_rollback]
    cases ran with
    | true => exact performed.undo
    | false => exact .idle _

end Perform

end Effects

end Gomessenger.Inbox
