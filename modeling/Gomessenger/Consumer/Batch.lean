import Gomessenger.Inbox.BatchReport

/-! What the batch consumers hand to the Inbox and read back from it. -/

namespace Gomessenger.Consumer

open Inbox

section Collecting

variable {D : Type} (identity : D → Option (MessageID × String)) (generation : D → String)

/-- One of the earlier deliveries has the candidate's identity under another
generation. Deliveries that did not decode have no identity. -/
def conflictingGeneration (earlier : List D) (candidate : D) : Bool :=
  match identity candidate with
  | none => false
  | some (id, source) =>
    id ≠ 0 && earlier.any (fun previous =>
      decide (identity previous = some (id, source)) &&
        decide (generation previous ≠ generation candidate))

def Compatible (previous candidate : D) : Prop :=
  ∀ id source, identity candidate = some (id, source) → id ≠ 0 →
    identity previous = some (id, source) → generation previous = generation candidate

theorem compatible_of_clear {earlier : List D} {candidate : D}
    (clear : conflictingGeneration identity generation earlier candidate = false) :
    ∀ previous ∈ earlier, Compatible identity generation previous candidate := by
  intro previous member id source own named same
  simp only [conflictingGeneration, own, Bool.and_eq_false_iff, List.any_eq_false,
    decide_eq_false_iff_not, Bool.and_eq_true, decide_eq_true_eq, not_and, not_not] at clear
  exact (clear.resolve_left named) previous member same

end Collecting

section Generations

variable {F : Type}

/-- Items of one identity carry one generation; an item without a message ID is
no identity's. -/
def OneGeneration (items : List (BatchItem F)) : Prop :=
  items.Pairwise (fun left right => right.key.messageID ≠ 0 →
    batchKey left.key = batchKey right.key →
    left.key.attemptGeneration = right.key.attemptGeneration)

theorem oneGeneration_of_compatible {D M : Type} {identity : D → Option (MessageID × String)}
    {generation : D → String} {deliveries : List D} (choose : D → Option (BatchItem F × M))
    (compatible : deliveries.Pairwise (Compatible identity generation))
    (chosen : ∀ delivery entry, choose delivery = some entry →
      identity delivery = some (entry.1.key.messageID, entry.1.key.source) ∧
        generation delivery = entry.1.key.attemptGeneration) :
    OneGeneration ((deliveries.filterMap choose).map Prod.fst) := by
  refine List.pairwise_map.mpr (List.Pairwise.filterMap choose ?_ compatible)
  intro left right compatible leftItem leftChosen rightItem rightChosen named same
  obtain ⟨leftIdentity, leftGeneration⟩ := chosen left leftItem leftChosen
  obtain ⟨rightIdentity, rightGeneration⟩ := chosen right rightItem rightChosen
  rw [batchKey, batchKey, BatchItemKey.mk.injEq] at same
  rw [← leftGeneration, ← rightGeneration]
  refine compatible _ _ rightIdentity named ?_
  rw [leftIdentity, same.1, same.2]

theorem validateKey_named (key : Key) (valid : validateKey key = none) : key.messageID ≠ 0 := by
  intro unnamed
  rw [validateKey, if_pos (.inr (.inr (.inl unnamed)))] at valid
  cases valid

theorem validateItems_unmixed (consumerID : String) (items : List (BatchItem F))
    (uniform : OneGeneration items) (key : BatchItemKey) (index : Nat)
    (generations : List (BatchItemKey × String))
    (agree : ∀ item ∈ items, item.key.messageID ≠ 0 → ∀ generation,
      generations.lookup (batchKey item.key) = some generation →
        generation = item.key.attemptGeneration) :
    validateItems consumerID index generations items ≠ some (mixedGenerations key) := by
  induction items generalizing index generations with
  | nil => exact nofun
  | cons head tail ih =>
    obtain ⟨first, later⟩ := List.pairwise_cons.mp uniform
    unfold validateItems
    split
    next err invalid =>
      unfold validateKey at invalid
      split at invalid
      · cases invalid
        simp [mixedGenerations]
      · cases invalid
    next valid =>
      have named := validateKey_named head.key valid
      split
      · simp [mixedGenerations]
      · split
        next generation found =>
          rw [if_neg (not_not.mpr (agree head (.head _) named generation found))]
          exact ih later _ generations (fun item member => agree item (.tail _ member))
        next =>
          refine ih later _ _ (fun item member present generation found => ?_)
          rw [List.lookup_cons] at found
          split at found
          next same =>
            rw [← Option.some.inj found]
            exact first item member present (eq_of_beq same).symm
          next => exact agree item (.tail _ member) present generation found

theorem addToGroups_accepts (entry : BatchPreparedItem F) (groups : List (BatchGroup F))
    (agree : ∀ group ∈ groups, group.key = batchKey entry.item.key →
      group.front.item.key.attemptGeneration = entry.item.key.attemptGeneration) :
    ∃ next, addToGroups entry groups = .ok next := by
  induction groups with
  | nil => exact ⟨_, rfl⟩
  | cons head rest ih =>
    obtain ⟨next, added⟩ := ih (fun group member => agree group (.tail _ member))
    simp only [addToGroups, added]
    split
    next same =>
      rw [if_neg (not_not.mpr (agree head (.head _) same))]
      exact ⟨_, rfl⟩
    next => exact ⟨_, rfl⟩

theorem prepareEntries_accepts (entries : List (BatchPreparedItem F)) (groups : List (BatchGroup F))
    (named : ∀ entry ∈ entries, entry.item.key.messageID ≠ 0)
    (uniform : entries.Pairwise (fun left right => right.item.key.messageID ≠ 0 →
      batchKey left.item.key = batchKey right.item.key →
      left.item.key.attemptGeneration = right.item.key.attemptGeneration))
    (agree : ∀ group ∈ groups, ∀ entry ∈ entries, group.key = batchKey entry.item.key →
      group.front.item.key.attemptGeneration = entry.item.key.attemptGeneration) :
    ∃ next, prepareEntries groups entries = .ok next := by
  induction entries generalizing groups with
  | nil => exact ⟨groups, rfl⟩
  | cons head tail ih =>
    obtain ⟨first, later⟩ := List.pairwise_cons.mp uniform
    obtain ⟨next, added⟩ := addToGroups_accepts head groups
      (fun group member => agree group member head (.head _))
    simp only [prepareEntries, added]
    refine ih next (fun entry member => named entry (.tail _ member)) later ?_
    intro group member entry inside same
    rcases mem_addToGroups head groups next added group member
      with old | ⟨old, present, rfl, _⟩ | rfl
    · exact agree group old entry (.tail _ inside) same
    · exact agree old present entry (.tail _ inside) same
    · exact first entry inside (named entry (.tail _ inside)) same

theorem prepareBatchGroups_accepts (items : List (BatchItem F))
    (named : ∀ item ∈ items, item.key.messageID ≠ 0) (uniform : OneGeneration items) :
    ∃ groups, prepareBatchGroups items = .ok groups := by
  have sources : (batchEntries items).map BatchPreparedItem.item = items := by
    simp [batchEntries, Function.comp_def, List.zipIdx_map_fst]
  refine prepareEntries_accepts (batchEntries items) [] ?_ ?_
    (fun _ absent => absurd absent List.not_mem_nil)
  · intro entry member
    exact named entry.item (sources ▸ List.mem_map_of_mem member)
  · rw [OneGeneration, ← sources] at uniform
    exact List.pairwise_map.mp uniform

end Generations

section Messages

variable {F M : Type} [LinearOrder F]

def batchDecodedMessages (byItem : List (BatchItem F × M)) :
    List (BatchItem F) → Except GoError (List M)
  | [] => .ok []
  | item :: rest =>
    match byItem.lookup item with
    | none => .error (invalidResult "active Inbox item is absent")
    | some value => (batchDecodedMessages byItem rest).map (value :: ·)

theorem batchDecodedMessages_found (byItem : List (BatchItem F × M)) (active : List (BatchItem F))
    (present : ∀ item ∈ active, item ∈ byItem.map Prod.fst) :
    ∃ messages, batchDecodedMessages byItem active = .ok messages ∧
      List.Forall₂ (fun item message => (item, message) ∈ byItem) active messages := by
  induction active with
  | nil => exact ⟨[], rfl, .nil⟩
  | cons head tail ih =>
    obtain ⟨messages, found, paired⟩ := ih (fun item member => present item (.tail _ member))
    obtain ⟨pair, inside, same⟩ := List.mem_map.mp (present head (.head _))
    have some : (byItem.lookup head).isSome = true :=
      List.lookup_isSome_iff.mpr ⟨pair, inside, beq_iff_eq.mpr same.symm⟩
    obtain ⟨message, looked⟩ := Option.isSome_iff_exists.mp some
    obtain ⟨before, after, split, _⟩ := List.lookup_eq_some_iff.mp looked
    refine ⟨message :: messages, ?_, .cons ?_ paired⟩
    · simp only [batchDecodedMessages, looked, found]
      rfl
    · rw [split]
      exact List.mem_append_right _ (.head _)

variable [Sha256 F]

theorem processBatchAttempt_invoked (backend : Backend) (now : Readings) (tables : Tables F)
    (items : List (BatchItem F)) (maxAttempts : Nat) (handler : BatchHandler F) :
    ∀ item ∈ (Store.processBatchAttempt backend now tables items maxAttempts handler).invoked,
      item ∈ items := by
  have none : ∀ err : GoError, ∀ item ∈
      (Call.rollback tables [] (noReport : BatchProcessResult F) err).invoked, item ∈ items :=
    fun _ _ absent => absurd absent List.not_mem_nil
  unfold Store.processBatchAttempt
  split
  · exact none _
  · rename_i first rest
    split
    · exact none _
    · split
      · exact none _
      · rename_i accepted
        have consumers : ∀ item ∈ first :: rest, item.key.consumerID = first.key.consumerID :=
          fun item member =>
            (validateItems_consumers first.key.consumerID _ 0 [] accepted item member).1
        rw [processBatchAttempt_eq backend now tables first.key.consumerID _
          maxAttempts handler consumers]
        have lead : ∀ (groups : List (BatchGroup F)) (active : List (MatchedGroup F)),
            Answered first.key.consumerID now tables (first :: rest) maxAttempts groups active →
            ∀ item ∈ active.map (fun group => group.lead.item), item ∈ first :: rest := by
          intro groups active given item member
          obtain ⟨group, inside, rfl⟩ := List.mem_map.mp member
          have paired : (active.map (fun group => (group, (Option.none : Option GoError)))).map
              Prod.fst = active := by
            simp [Function.comp_def]
          rw [← paired] at given
          exact (given.lead first.key.consumerID _ now tables _ maxAttempts groups consumers
            (group, Option.none) (List.mem_map.mpr ⟨group, inside, rfl⟩)).1
        have ended := runBatch_end first.key.consumerID now tables
          (first :: rest) maxAttempts handler
        generalize runBatch (referenceStatements first.key.consumerID) now tables (first :: rest)
          maxAttempts handler = call at ended ⊢
        cases ended with
        | mixed err rejected => exact none err
        | failed groups active result err given answer => exact lead groups active given
        | invalid groups active result err given answer rejected => exact lead groups active given
        | settled groups settled given answer =>
          have inside := lead groups (settled.map Prod.fst) given
          rw [List.map_map] at inside
          unfold commitTerminalBatch
          simp only
          split
          · exact inside
          · exact inside

/-- What the Inbox does with a collected batch: it never refuses its generations,
and every item it hands to the handler is found among the collected messages. -/
structure Admitted (consumerID : String) (byItem : List (BatchItem F × M)) : Prop where
  validated : ∀ key, validateItems consumerID 0 [] (byItem.map Prod.fst) ≠
    some (mixedGenerations key)
  grouped : validateItems consumerID 0 [] (byItem.map Prod.fst) = none →
    ∃ groups, prepareBatchGroups (byItem.map Prod.fst) = .ok groups
  found : ∀ (backend : Backend) (now : Readings) (tables : Tables F) (maxAttempts : Nat)
    (handler : BatchHandler F), ∃ messages,
      batchDecodedMessages byItem (Store.processBatchAttempt backend now
        tables (byItem.map Prod.fst)
        maxAttempts handler).invoked = .ok messages ∧
      List.Forall₂ (fun item message => (item, message) ∈ byItem)
        (Store.processBatchAttempt backend now tables (byItem.map Prod.fst) maxAttempts
          handler).invoked messages

theorem admitted_of_uniform (consumerID : String) (byItem : List (BatchItem F × M))
    (uniform : OneGeneration (byItem.map Prod.fst)) : Admitted consumerID byItem where
  validated key := validateItems_unmixed consumerID _ uniform key 0 [] (fun _ _ _ _ => nofun)
  grouped accepted := by
    refine prepareBatchGroups_accepts _ (fun item member => ?_) uniform
    exact validateKey_named item.key (validateItems_consumers consumerID _ 0
      [] accepted item member).2
  found backend now tables maxAttempts handler :=
    batchDecodedMessages_found byItem _ (processBatchAttempt_invoked backend now
      tables _ maxAttempts handler)

end Messages

end Gomessenger.Consumer
