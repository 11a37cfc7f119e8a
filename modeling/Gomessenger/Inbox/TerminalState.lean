import Gomessenger.Inbox.Statements

/-! The terminal-generation persistence that both SQL backends share. -/

namespace Gomessenger.Inbox

open LocalAction

/-- The order a database gives to its text columns. -/
structure Collation where
  le : String → String → Bool
  total : ∀ left right, (le left right || le right left) = true
  trans : ∀ left middle right, le left middle = true → le middle right = true → le left right = true
  antisymm : ∀ left right, le left right = true → le right left = true → left = right

namespace Collation

def binary : Collation where
  le left right := decide (left ≤ right)
  total left right := by simpa using le_total left right
  trans left middle right below above := by
    simpa using le_trans (of_decide_eq_true below) (of_decide_eq_true above)
  antisymm left right below above := le_antisymm (of_decide_eq_true below) (of_decide_eq_true above)

def identityLe (collation : Collation) (left right : Identity) : Bool :=
  if left.consumerID = right.consumerID then
    if left.source = right.source then decide (left.messageID ≤ right.messageID)
    else collation.le left.source right.source
  else collation.le left.consumerID right.consumerID

def slotLe {F : Type} [LinearOrder F] (collation : Collation) (left right : Identity ×ₗ F) : Bool :=
  if (ofLex left).1 = (ofLex right).1 then decide ((ofLex left).2 ≤ (ofLex right).2)
  else collation.identityLe (ofLex left).1 (ofLex right).1

def timedLe {K : Type} (keyLe : K → K → Bool) (left right : Time × K) : Bool :=
  if left.1 = right.1 then keyLe left.2 right.2 else decide (left.1 < right.1)

end Collation

section TerminalState

variable {F : Type} [LinearOrder F] [Sha256 F]

def BatchItemOutcome.attemptSlot (item : BatchItemOutcome F) : Identity ×ₗ F :=
  slot item.key.identity (attemptFingerprint item.key.attemptGeneration item.fingerprint)

def preserveDeferredItem (now : Time) (tables : Tables F) (item : BatchItemOutcome F) : Tables F :=
  tables.insertDeferred item.key.identity item.key.attemptGeneration
    (attemptFingerprint item.key.attemptGeneration item.fingerprint) now

def preserveDeferredChunk (now : Time) (tables : Tables F)
    (items : List (BatchItemOutcome F)) : Tables F :=
  items.foldl (preserveDeferredItem now) tables

def isFirstDeferral (replay : Bool) (item : BatchItemOutcome F) : Bool :=
  item.outcome = .defer && item.attempt = 0 && decide (item.key.attemptGeneration ≠ "") = replay

def preserveDeferred (tables : Tables F) (outcomes : List (BatchItemOutcome F))
    (now : Time) : Tables F :=
  [false, true].foldl (fun current replay =>
    (chunksOf 100 (outcomes.filter (isFirstDeferral replay))).foldl
      (preserveDeferredChunk now) current) tables

def terminalKind? (item : BatchItemOutcome F) : Option TerminalKind :=
  if item.outcome = .dlq then
    match item.failureKind with
    | some .permanent => some .permanent
    | some .attemptsExhausted => some .attemptsExhausted
    | _ => none
  else none

/-- The outcomes to record, the first one of each generation. -/
def terminalItems (seen : List (Identity ×ₗ F)) : List (BatchItemOutcome F) →
    List (BatchItemOutcome F × TerminalKind)
  | [] => []
  | item :: rest =>
    match terminalKind? item with
    | none => terminalItems seen rest
    | some kind =>
      if item.attemptSlot ∈ seen then terminalItems seen rest
      else (item, kind) :: terminalItems (item.attemptSlot :: seen) rest

def checkViolation : GoError :=
  .wrap "inbox: persist terminal generations" (.text "check constraint violated")

def recordChunk (now : Time) (tables : Tables F)
    (items : List (BatchItemOutcome F × TerminalKind)) : Except GoError (Tables F) :=
  items.foldlM (fun current entry =>
    if counted : 0 < entry.1.attempt then
      .ok (current.upsertTerminal entry.1.key.identity
        (attemptFingerprint entry.1.key.attemptGeneration entry.1.fingerprint) now
        entry.1.attempt counted entry.2)
    else .error checkViolation) tables

def record (tables : Tables F) (outcomes : List (BatchItemOutcome F)) (now : Time) :
    Except GoError (Tables F) :=
  (chunksOf 100 (terminalItems [] outcomes)).foldlM (recordChunk now) tables

def forgetTerminal (tables : Tables F) (key : Key) (fingerprint : F) : Tables F :=
  tables.deleteTerminal key.identity (attemptFingerprint key.attemptGeneration fingerprint)

def latestConfirmation (now : Time) : Option Time → Time
  | none => now
  | some earlier => if now < earlier then earlier else now

def confirm (tables : Tables F) (key : Key) (fingerprint : F) (now : Time) :
    Except GoError (Tables F) :=
  match tables.inbox.find? key.identity with
  | none => .error (.sentinel .terminalStateMissing)
  | some row =>
    if row.fingerprint ≠ fingerprint then .error (.sentinel .fingerprintConflict)
    else
      let derived := slot key.identity (attemptFingerprint key.attemptGeneration fingerprint)
      match tables.terminal.find? derived with
      | none => .error (.sentinel .terminalStateMissing)
      | some closed =>
        let latest := latestConfirmation now closed.handoffConfirmedAt
        .ok { tables with
                terminal := tables.terminal.set derived
                  { closed with handoffConfirmedAt := some latest } }

end TerminalState

section Retention

variable {F : Type} [LinearOrder F]

/-- The bounded batch of completed identities the prune statements select. -/
def doomed (collation : Collation) (tables : Tables F) (before : Time)
    (limit : Nat) : List Identity :=
  let completed := tables.inbox.rows.filterMap (fun entry =>
    match entry.2.completedAt with
    | some time => if time < before then some (time, entry.1) else none
    | none => none)
  ((completed.insertionSort (Collation.timedLe collation.identityLe · ·)).take limit).map Prod.snd

def pruneCompleted (collation : Collation) (tables : Tables F) (before : Time)
    (limit : Nat) : Tables F :=
  let batch := doomed collation tables before limit
  { tables with terminal := tables.terminal.deleteWhere (fun key _ => (ofLex key).1 ∈ batch) }

def pruneAttemptGenerations (collation : Collation) (tables : Tables F) (before : Time)
    (limit : Nat) : Tables F :=
  let batch := doomed collation tables before limit
  { tables with
      attemptGenerations :=
        tables.attemptGenerations.deleteWhere (fun key _ => (ofLex key).1 ∈ batch) }

def pruneAttempts (collation : Collation) (tables : Tables F) (before : Time)
    (limit : Nat) : Tables F :=
  let batch := doomed collation tables before limit
  { tables with attempts := tables.attempts.deleteWhere (fun key _ => key ∈ batch) }

def pruneInbox (collation : Collation) (tables : Tables F) (before : Time)
    (limit : Nat) : Tables F × Nat :=
  let batch := doomed collation tables before limit
  let kept := tables.inbox.deleteWhere (fun key _ => key ∈ batch)
  ({ tables with inbox := kept }, tables.inbox.rows.length - kept.rows.length)

/-- `candidates`: selected by confirmation time, then visited in key order. -/
def candidates (collation : Collation) (tables : Tables F) (before : Time)
    (limit : Nat) : List (Identity ×ₗ F) :=
  let eligible := tables.terminal.rows.filterMap (fun entry =>
    match entry.2.handoffConfirmedAt, tables.inbox.find? (ofLex entry.1).1 with
    | some time, some row =>
      if time < before ∧ row.completedAt = none then some (time, entry.1) else none
    | _, _ => none)
  (((eligible.insertionSort (Collation.timedLe collation.slotLe · ·)).take limit).map
    Prod.snd).insertionSort (collation.slotLe · ·)

def Tables.hasTerminal (tables : Tables F) (id : Identity) : Bool :=
  tables.terminal.rows.any (fun entry => (ofLex entry.1).1 = id)

def deleteEmptyIdentity (tables : Tables F) (id : Identity) : Tables F :=
  if tables.hasAttempts id || tables.hasTerminal id then tables
  else tables.deleteIncompleteIdentity id

/-- The two counter deletes of `pruneCandidate`, both by fingerprint. -/
def deleteCounters (tables : Tables F) (id : Identity) (attempt : F) : Tables F :=
  { tables with
      attempts := tables.attempts.deleteWhere (fun key row => key = id && row.fingerprint = attempt)
      attemptGenerations := tables.attemptGenerations.erase (slot id attempt) }

def confirmedBefore (before : Time) (row : TerminalRow) : Bool :=
  match row.handoffConfirmedAt with
  | some time => decide (time < before)
  | none => false

def pruneCandidate (before : Time) (tables : Tables F) (id : Identity)
    (attempt : F) : Tables F × Nat :=
  match tables.inbox.find? id with
  | none => (tables, 0)
  | some row =>
    if row.completedAt ≠ none then (tables, 0)
    else match tables.terminal.find? (slot id attempt) with
      | none => (tables, 0)
      | some closed =>
        if confirmedBefore before closed then
          (deleteEmptyIdentity (deleteCounters (tables.deleteTerminal id attempt) id attempt) id, 1)
        else (tables, 0)

def pruneTerminal (collation : Collation) (tables : Tables F) (before : Time)
    (limit : Nat) : Tables F × Nat :=
  (candidates collation tables before limit).foldl (fun state candidate =>
    let pruned := pruneCandidate before state.1 (ofLex candidate).1 (ofLex candidate).2
    (pruned.1, state.2 + pruned.2)) (tables, 0)

end Retention

section Lemmas

variable {F : Type}

def firstDeferrals (outcomes : List (BatchItemOutcome F)) : List (BatchItemOutcome F) :=
  outcomes.filter (isFirstDeferral false) ++ outcomes.filter (isFirstDeferral true)

theorem mem_firstDeferrals (outcomes : List (BatchItemOutcome F)) (item : BatchItemOutcome F) :
    item ∈ firstDeferrals outcomes ↔ item ∈ outcomes ∧ item.outcome =
      .defer ∧ item.attempt = 0 := by
  simp only [firstDeferrals, isFirstDeferral, List.mem_append, List.mem_filter, Bool.and_eq_true,
    decide_eq_true_eq, decide_eq_false_iff_not]
  constructor
  · rintro (⟨member, ⟨deferred, unused⟩, _⟩ | ⟨member, ⟨deferred, unused⟩, _⟩) <;>
      exact ⟨member, deferred, unused⟩
  · rintro ⟨member, deferred, unused⟩
    by_cases replay : item.key.attemptGeneration = ""
    · exact .inl ⟨member, ⟨deferred, unused⟩, not_not.mpr replay⟩
    · exact .inr ⟨member, ⟨deferred, unused⟩, replay⟩

variable [LinearOrder F] [Sha256 F]

variable (tables : Tables F) (seen : List (Identity ×ₗ F))
    (outcomes : List (BatchItemOutcome F)) (now : Time)
  (item : BatchItemOutcome F) (kind : TerminalKind)

theorem preserveDeferred_eq :
    preserveDeferred tables outcomes now = (firstDeferrals outcomes).foldl
      (preserveDeferredItem now) tables := by
  have pass : ∀ (items : List (BatchItemOutcome F)) (state : Tables F),
      (chunksOf 100 items).foldl (preserveDeferredChunk now) state =
          items.foldl (preserveDeferredItem now) state :=
    fun items state => foldl_chunksOf 100 (by decide) (preserveDeferredItem now) items state
  simp [preserveDeferred, pass, firstDeferrals]

def recordItem (now : Time) (tables : Tables F) (entry : BatchItemOutcome F × TerminalKind) :
    Tables F :=
  if counted : 0 < entry.1.attempt then
    tables.upsertTerminal entry.1.key.identity
      (attemptFingerprint entry.1.key.attemptGeneration entry.1.fingerprint) now
      entry.1.attempt counted entry.2
  else tables

theorem record_eq : record tables outcomes now =
      if (terminalItems [] outcomes).all (fun entry => decide (0 < entry.1.attempt)) then
        .ok ((terminalItems [] outcomes).foldl (recordItem now) tables)
      else .error checkViolation := by
  rw [← foldlM_guarded, record]
  have chunk_eq : recordChunk now = fun (current : Tables F) items =>
      items.foldlM (fun state entry => if decide (0 < entry.1.attempt) then
        Except.ok (recordItem now state entry) else Except.error checkViolation) current := by
    funext current items
    simp only [recordChunk]
    congr 1
    funext state entry
    by_cases counted : 0 < entry.1.attempt
    · simp [counted, recordItem]
    · simp [counted]
  rw [chunk_eq, foldlM_chunksOf 100 (by decide)]

theorem mem_terminalItems (member : (item, kind) ∈ terminalItems seen outcomes) :
    item ∈ outcomes ∧ terminalKind? item = some kind ∧ item.attemptSlot ∉ seen := by
  induction outcomes generalizing seen with
  | nil => exact absurd member (List.not_mem_nil)
  | cons head tail ih =>
    have later : ∀ older, (item, kind) ∈ terminalItems older tail →
        item ∈ head :: tail ∧ terminalKind? item = some kind ∧ item.attemptSlot ∉ older := by
      intro older present
      obtain ⟨inside, closes, fresh⟩ := ih older present
      exact ⟨List.mem_cons_of_mem _ inside, closes, fresh⟩
    unfold terminalItems at member
    split at member
    · exact later seen member
    · rename_i found closes
      split at member
      · exact later seen member
      · rename_i fresh
        rcases List.mem_cons.mp member with same | rest
        · obtain ⟨rfl, rfl⟩ := Prod.mk.inj same
          exact ⟨List.mem_cons_self .., closes, fresh⟩
        · obtain ⟨inside, marked, unseen⟩ := later _ rest
          exact ⟨inside, marked, fun old => unseen (.tail _ old)⟩

theorem terminalItems_slots :
    ((terminalItems seen outcomes).map (fun entry => entry.1.attemptSlot)).Nodup := by
  induction outcomes generalizing seen with
  | nil => exact List.nodup_nil
  | cons head tail ih =>
    unfold terminalItems
    split
    · exact ih seen
    · split
      · exact ih seen
      · rw [List.map_cons, List.nodup_cons]
        refine ⟨?_, ih _⟩
        intro repeated
        obtain ⟨⟨item, kind⟩, present, same⟩ := List.mem_map.mp repeated
        have unseen := (mem_terminalItems _ tail item kind present).2.2
        exact unseen (same ▸ List.mem_cons_self ..)

theorem terminalItems_covers (member : item ∈ outcomes)
    (closes : terminalKind? item = some kind) (fresh : item.attemptSlot ∉ seen) :
    ∃ entry ∈ terminalItems seen outcomes, entry.1.attemptSlot = item.attemptSlot := by
  induction outcomes generalizing seen with
  | nil => exact absurd member (List.not_mem_nil)
  | cons head tail ih =>
    rcases List.mem_cons.mp member with rfl | later
    · refine ⟨(item, kind), ?_, rfl⟩
      unfold terminalItems
      rw [closes]
      simp only [fresh, if_false]
      exact .head _
    · unfold terminalItems
      split
      · exact ih seen later fresh
      · split
        · exact ih seen later fresh
        · by_cases same : item.attemptSlot = head.attemptSlot
          · exact ⟨_, List.mem_cons_self .., same.symm⟩
          · obtain ⟨entry, present, slots⟩ :=
              ih (head.attemptSlot :: seen) later (by simpa [same] using fresh)
            exact ⟨entry, List.mem_cons_of_mem _ present, slots⟩

theorem preserveDeferredItem_acts :
    ActsAt Tables.slice item.key.identity (fun tables => preserveDeferredItem now tables item)
      (fun slice : Slice F => slice.insertDeferred item.key.attemptGeneration
        (attemptFingerprint item.key.attemptGeneration item.fingerprint) now) :=
  insertDeferred_acts item.key.identity item.key.attemptGeneration
    (attemptFingerprint item.key.attemptGeneration item.fingerprint) now

def Slice.recordItem (now : Time) (entry : BatchItemOutcome F × TerminalKind)
    (slice : Slice F) : Slice F :=
  if counted : 0 < entry.1.attempt then
    slice.upsertTerminal (attemptFingerprint entry.1.key.attemptGeneration entry.1.fingerprint) now
      entry.1.attempt counted entry.2
  else slice

theorem recordItem_acts (entry : BatchItemOutcome F × TerminalKind) :
    ActsAt Tables.slice entry.1.key.identity (fun tables => recordItem now tables entry)
      (Slice.recordItem now entry) := by
  by_cases counted : 0 < entry.1.attempt
  · have acts := upsertTerminal_acts entry.1.key.identity
      (attemptFingerprint entry.1.key.attemptGeneration entry.1.fingerprint) now entry.1.attempt
      counted entry.2
    intro tables other
    simpa only [recordItem, Slice.recordItem, counted, dif_pos] using acts tables other
  · intro tables other
    simp [recordItem, Slice.recordItem, counted]

end Lemmas

end Gomessenger.Inbox
