import Gomessenger.Inbox.BatchSlices

/-! The ways a batch transaction can end. -/

namespace Gomessenger.Inbox

open LocalAction

section Run

variable {F : Type} [LinearOrder F] [Sha256 F]

/-- What a handler was given and answered for the active groups of a batch. -/
structure Answered (consumerID : String) (now : Readings) (tables : Tables F)
    (items : List (BatchItem F)) (maxAttempts : Nat) (groups : List (BatchGroup F))
    (active : List (MatchedGroup F)) : Prop where
  grouped : GroupsOf (batchEntries items) groups
  ordered : ∀ group ∈ groups, group.entries.Pairwise (fun left right => left.index < right.index)
  sorted : active.Pairwise (fun left right => left.lead.index ≤ right.lead.index)
  active : active.Perm (referencePrepared now tables consumerID groups maxAttempts).active

inductive BatchEnd (consumerID : String) (now : Readings) (tables : Tables F)
    (items : List (BatchItem F)) (maxAttempts : Nat) (handler : BatchHandler F) :
    Call F (BatchProcessResult F) → Prop
  | mixed (err : GoError) (rejected : prepareBatchGroups items = .error err) :
      BatchEnd consumerID now tables items maxAttempts handler (.rollback tables [] noReport err)
  | failed (groups : List (BatchGroup F)) (active : List (MatchedGroup F))
      (result : List BatchItemResult) (err : GoError)
      (given : Answered consumerID now tables items maxAttempts groups active)
      (answer : handler (active.map (fun group => group.lead.item)) = (result, some err)) :
      BatchEnd consumerID now tables items maxAttempts handler
        (.rollback tables (active.map (fun group => group.lead.item)) noReport
          (topLevelError result err))
  | invalid (groups : List (BatchGroup F)) (active : List (MatchedGroup F))
      (result : List BatchItemResult) (err : GoError)
      (given : Answered consumerID now tables items maxAttempts groups active)
      (answer : handler (active.map (fun group => group.lead.item)) = (result, none))
      (rejected : validateResult (active.map (fun group => group.key)) result = .error err) :
      BatchEnd consumerID now tables items maxAttempts handler
        (.rollback tables (active.map (fun group => group.lead.item)) noReport err)
  | settled (groups : List (BatchGroup F)) (settled : List (MatchedGroup F × Option GoError))
      (given : Answered consumerID now tables items maxAttempts groups (settled.map Prod.fst))
      (answer : settled = [] ∨ ∃ result,
        handler (settled.map (fun entry => entry.1.lead.item)) = (result, none) ∧
        validateResult (settled.map (fun entry => entry.1.key)) result =
          .ok (settled.map Prod.snd)) :
      BatchEnd consumerID now tables items maxAttempts handler
        (commitTerminalBatch now tables (settledTables now tables consumerID groups settled)
          (finalAssignments now tables consumerID groups maxAttempts settled)
          (settled.map (fun entry => entry.1.lead.item))
          (settled.map (fun entry => (entry.1.lead.item, entry.2))))

variable (consumerID : String) (now : Readings) (tables : Tables F) (items : List (BatchItem F))
variable (maxAttempts : Nat) (handler : BatchHandler F)

omit [LinearOrder F] [Sha256 F] in
theorem map_zip_fst {X Y : Type} (groups : List X) (errors : List Y)
    (short : groups.length ≤ errors.length) {Z : Type} (read : X → Z) :
    (groups.zip errors).map (fun entry => read entry.1) = groups.map read := by
  have firsts := congrArg (List.map read) (List.map_fst_zip short)
  rw [List.map_map] at firsts
  exact firsts

theorem commitTerminalBatch_idle (groups : List (BatchGroup F)) :
    commitTerminalBatch now tables (referencePrepared now tables consumerID
      groups maxAttempts).tables
        (referencePrepared now tables consumerID groups maxAttempts).assigned [] [] =
      commitTerminalBatch now tables (settledTables now tables consumerID groups [])
        (finalAssignments now tables consumerID groups maxAttempts []) [] [] := by
  simp only [finalAssignments, List.flatMap_nil, List.append_nil]
  rfl

theorem runBatch_end : BatchEnd consumerID now tables items maxAttempts handler
      (runBatch (referenceStatements consumerID) now tables items maxAttempts handler) := by
  by_cases empty : items = []
  · subst empty
    exact .settled [] [] ⟨prepareBatchGroups_groups [] [] rfl,
      prepareBatchGroups_ordered [] [] rfl, List.Pairwise.nil, List.Perm.nil⟩ (.inl rfl)
  · simp only [runBatch, if_neg empty]
    cases prepared : prepareBatchGroups items with
    | error err => exact .mixed err prepared
    | ok groups =>
      have grouped := (prepareBatchGroups_groups items groups prepared).perm
        (List.perm_insertionSort (lockLe · ·) groups).symm
      have ordered : ∀ group ∈ groups.insertionSort (lockLe · ·),
          group.entries.Pairwise (fun left right => left.index < right.index) :=
        fun group member => prepareBatchGroups_ordered items groups prepared group
          ((List.mem_insertionSort _).mp member)
      have sorted := List.pairwise_insertionSort (fun left right : MatchedGroup F =>
        left.lead.index ≤ right.lead.index)
        (referencePrepared now tables consumerID
          (groups.insertionSort (lockLe · ·)) maxAttempts).active
      have listed := List.perm_insertionSort (fun left right : MatchedGroup F =>
        left.lead.index ≤ right.lead.index)
        (referencePrepared now tables consumerID
          (groups.insertionSort (lockLe · ·)) maxAttempts).active
      simp only [referenceStatements]
      by_cases idle : (referencePrepared now tables consumerID
          (groups.insertionSort (lockLe · ·)) maxAttempts).active = []
      · rw [if_pos idle, commitTerminalBatch_idle]
        exact .settled _ [] ⟨grouped, ordered,
          List.Pairwise.nil, by rw [idle]; exact List.Perm.nil⟩ (.inl rfl)
      · rw [if_neg idle]
        split
        next result err answer =>
          exact .failed _ _ result err ⟨grouped, ordered, sorted, listed⟩ answer
        next result answer =>
          split
          next err rejected =>
            exact .invalid _ _ result err ⟨grouped, ordered, sorted, listed⟩ answer rejected
          next errors accepted =>
            have lengths := validateResult_length _ result errors accepted
            rw [List.length_map] at lengths
            refine .settled _ _ ⟨grouped, ordered, ?_, ?_⟩ (.inr ⟨result, ?_, ?_⟩)
            · rw [List.map_fst_zip (by omega)]
              exact sorted
            · rw [List.map_fst_zip (by omega)]
              exact listed
            · rw [map_zip_fst _ _ (by omega) (fun group : MatchedGroup F => group.lead.item)]
              exact answer
            · rw [map_zip_fst _ _ (by omega) (fun group : MatchedGroup F => group.key),
                List.map_snd_zip (by omega)]
              exact accepted

end Run

end Gomessenger.Inbox
