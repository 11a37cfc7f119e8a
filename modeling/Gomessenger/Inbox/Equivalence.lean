import Gomessenger.Inbox.Coherence

/-! PostgreSQL and SQLite run the same calls. -/

namespace Gomessenger.Inbox

section Equivalence

variable {F : Type} [LinearOrder F] [Sha256 F]
variable (collation : Collation)
variable (binaryText : ∀ left right, collation.le left right = Collation.binary.le left right)

include binaryText in
theorem collation_binary : collation = Collation.binary := by
  have same : collation.le = Collation.binary.le := by
    funext left right
    exact binaryText left right
  obtain ⟨le, total, trans, antisymm⟩ := collation
  cases same
  rfl

include binaryText in
theorem perform_equivalent (now : Readings) (tables : Tables F)
    (tracked : tables.Tracked) (op : Op F) :
    op.perform (.pgsql collation) now tables = op.perform .sqlite now tables := by
  have orders : (Backend.pgsql collation).collation = Backend.sqlite.collation :=
    collation_binary collation binaryText
  cases op with
  | process | forgetAttempt | confirmTerminalHandoff => rfl
  | prune before limit => simp only [Op.perform, Store.prune, orders]
  | pruneTerminalAttempts before limit =>
    simp only [Op.perform, Store.pruneTerminalAttempts, orders]
  | processAttempt key fingerprint maxAttempts outcome =>
    simp only [Op.perform, Store.processAttempt]
    split
    · rfl
    · by_cases unlimited : maxAttempts = 0
      · rw [if_pos unlimited, if_pos unlimited]
      · have positive : 0 < maxAttempts := Nat.pos_of_ne_zero unlimited
        rw [if_neg unlimited, if_neg unlimited,
          processAttempt_eq _ now tables tracked key fingerprint maxAttempts outcome positive,
          processAttempt_eq _ now tables tracked key fingerprint maxAttempts outcome positive]
  | processBatchAttempt items maxAttempts handler =>
    simp only [Op.perform, Store.processBatchAttempt]
    split
    · rfl
    · rename_i first rest
      split
      · rfl
      · split
        · rfl
        · rename_i accepted
          have valid := validateItems_consumers first.key.consumerID _ 0 [] accepted
          have consumers : ∀ item ∈ first :: rest, item.key.consumerID = first.key.consumerID :=
            fun item member => (valid item member).1
          rw [processBatchAttempt_eq _ now tables first.key.consumerID _
            maxAttempts handler consumers,
            processBatchAttempt_eq _ now tables first.key.consumerID _
              maxAttempts handler consumers]

include binaryText in
theorem step_equivalent (tables : Tables F) (tracked : tables.Tracked) (taken : Step F) :
    step (.pgsql collation) tables taken = step .sqlite tables taken := by
  unfold step
  rw [perform_equivalent collation binaryText taken.now tables tracked taken.op]

include binaryText in
theorem run_equivalent (steps : List (Step F)) (tables : Tables F) (coherent : tables.Coherent) :
    calls (.pgsql collation) tables steps = calls .sqlite tables steps ∧
      run (.pgsql collation) tables steps = run .sqlite tables steps := by
  induction steps generalizing tables with
  | nil => exact ⟨rfl, by rw [run_nil, run_nil]⟩
  | cons taken rest ih =>
    have first := step_equivalent collation binaryText tables coherent.tracked taken
    obtain ⟨later, final⟩ := ih _ (step_coherent .sqlite tables taken coherent)
    constructor
    · rw [calls, calls, first, later]
    · rw [run_cons, run_cons, first, final]

/-- The same calls, with the same clock readings, handler outcomes and database
failures, give the same transactions on both backends: the same items handed to
handlers, the same replies and errors, and the same rows in all four tables. -/
theorem backends_equivalent (collation : Collation)
    (binaryText : ∀ left right, collation.le left right = Collation.binary.le left right)
    (steps : List (Step F)) :
    calls (.pgsql collation) (Tables.empty F) steps = calls .sqlite (Tables.empty F) steps ∧
      run (.pgsql collation) (Tables.empty F) steps = run .sqlite (Tables.empty F) steps :=
  run_equivalent collation binaryText steps _ (fun _ => coherent_empty)

/-- A processed message, pruned under a text order by bytes. -/
theorem backends_equivalent_pruned :
    let steps := [sampleStep (.process sampleKey ⟨[1]⟩ none), sampleStep (.prune 9 1)]
    calls (.pgsql .binary) (Tables.empty Preimage) steps =
      calls .sqlite (Tables.empty Preimage) steps ∧
      run (.pgsql .binary) (Tables.empty Preimage) steps =
          run .sqlite (Tables.empty Preimage) steps := by
  intro steps
  exact backends_equivalent Collation.binary (fun _ _ => rfl) steps

/-- A text order as PostgreSQL's language collations have it: by letters first, and
by case only between texts that are otherwise the same. -/
def Collation.caseless : Collation where
  le left right := decide (toLex (left.toList.map Char.toLower, left) ≤
    toLex (right.toList.map Char.toLower, right))
  total left right := by
    simpa using le_total (toLex (left.toList.map Char.toLower, left))
      (toLex (right.toList.map Char.toLower, right))
  trans left middle right below above := by
    simpa using le_trans (of_decide_eq_true below) (of_decide_eq_true above)
  antisymm left right below above := by
    have equal := le_antisymm (of_decide_eq_true below) (of_decide_eq_true above)
    exact congrArg Prod.snd (toLex_inj.mp equal)

/-- Two messages completed at one time, of sources that the collations order
differently: the same bounded prune removes different rows. -/
theorem collation_decides_pruned_row :
    let steps : List (Step Preimage) :=
      [sampleStep (.process { sampleKey with source := "a" } ⟨[1]⟩ none),
        sampleStep (.process { sampleKey with source := "B" } ⟨[2]⟩ none), sampleStep (.prune 9 1)]
    (run (.pgsql .caseless) (Tables.empty Preimage) steps).inbox.rows.map
        (fun entry => entry.1.source) = ["B"] ∧
      (run .sqlite (Tables.empty Preimage) steps).inbox.rows.map
        (fun entry => entry.1.source) = ["a"] := by
  decide

end Equivalence

end Gomessenger.Inbox
