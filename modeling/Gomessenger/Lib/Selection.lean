import Mathlib.Data.List.Sort
import Mathlib.Tactic.Common
import Mathlib.Tactic.Linarith

/-! The first elements of a collection in a total order, at most a given number of them. -/

namespace Selection

variable {X Y : Type}

structure Linear (le : X → X → Bool) : Prop where
  total : ∀ left right, (le left right || le right left) = true
  trans : ∀ left middle right, le left middle = true → le middle right = true → le left right = true
  antisymm : ∀ left right, le left right = true → le right left = true → left = right

def lexLe [DecidableEq X] (le : X → X → Bool) (fine : Y → Y → Bool) (left right : X × Y) : Bool :=
  if left.1 = right.1 then fine left.2 right.2 else le left.1 right.1

namespace Linear

theorem decided [LinearOrder X] : Linear (fun left right : X => decide (left ≤ right)) where
  total left right := by simpa using le_total left right
  trans left middle right below above := by
    simpa using le_trans (of_decide_eq_true below) (of_decide_eq_true above)
  antisymm left right below above := le_antisymm (of_decide_eq_true below) (of_decide_eq_true above)

variable {le : X → X → Bool}

theorem comap (linear : Linear le) (image : Y → X) (injective : Function.Injective image) :
    Linear (fun left right => le (image left) (image right)) where
  total _ _ := linear.total _ _
  trans _ _ _ := linear.trans _ _ _
  antisymm _ _ below above := injective (linear.antisymm _ _ below above)

theorem lex [DecidableEq X] {fine : Y → Y → Bool} (linear : Linear le)
    (fineLinear : Linear fine) : Linear (lexLe le fine) where
  total left right := by
    unfold lexLe
    by_cases same : left.1 = right.1
    · rw [if_pos same, if_pos same.symm]
      exact fineLinear.total _ _
    · rw [if_neg same, if_neg (Ne.symm same)]
      exact linear.total _ _
  trans left middle right below above := by
    unfold lexLe at below above ⊢
    by_cases first : left.1 = middle.1
    · rw [if_pos first] at below
      by_cases second : middle.1 = right.1
      · rw [if_pos second] at above
        rw [if_pos (first.trans second)]
        exact fineLinear.trans _ _ _ below above
      · rw [if_neg second] at above
        rw [if_neg (first ▸ second), first]
        exact above
    · rw [if_neg first] at below
      by_cases second : middle.1 = right.1
      · rw [← second, if_neg first]
        exact below
      · rw [if_neg second] at above
        have apart : left.1 ≠ right.1 := by
          intro same
          rw [same] at below
          exact second (linear.antisymm _ _ above below)
        rw [if_neg apart]
        exact linear.trans _ _ _ below above
  antisymm left right below above := by
    unfold lexLe at below above
    by_cases same : left.1 = right.1
    · rw [if_pos same] at below
      rw [if_pos same.symm] at above
      exact Prod.ext same (fineLinear.antisymm _ _ below above)
    · rw [if_neg same] at below
      rw [if_neg (Ne.symm same)] at above
      exact absurd (linear.antisymm _ _ below above) same

end Linear

/-- A choice of at most `limit` eligible elements, none above one left out; one is
left out only when the limit is reached. -/
structure Least (le : X → X → Prop) (limit : Nat) (eligible : X → Prop)
    (chosen : List X) : Prop where
  distinct : chosen.Nodup
  selected : ∀ item ∈ chosen, eligible item
  bounded : chosen.length ≤ limit
  least : ∀ item ∈ chosen, ∀ other, eligible other → other ∉ chosen → le item other
  full : ∀ other, eligible other → other ∉ chosen → chosen.length = limit

section Sorted

variable {le : X → X → Bool}

theorem Linear.sorted (linear : Linear le) (items : List X) :
    (items.insertionSort (le · ·)).Pairwise (le · ·) := by
  have total : Std.Total (fun left right => le left right = true) :=
    ⟨fun left right => by simpa using linear.total left right⟩
  have transitive : IsTrans X (fun left right => le left right = true) := ⟨linear.trans⟩
  exact List.pairwise_insertionSort _ items

theorem least_take_insertionSort (linear : Linear le) (limit : Nat) (items : List X)
    (distinct : items.Nodup) :
    Least (le · ·) limit (· ∈ items) ((items.insertionSort (le · ·)).take limit) where
  distinct := ((List.perm_insertionSort _ items).nodup_iff.mpr distinct).sublist
    (List.take_sublist limit _)
  selected item member := (List.perm_insertionSort _ items).mem_iff.mp (List.mem_of_mem_take member)
  bounded := List.length_take_le limit _
  least item chosen other listed dropped := by
    have sorted := linear.sorted items
    rw [← List.take_append_drop limit (items.insertionSort (le · ·)),
      List.pairwise_append] at sorted
    apply sorted.2.2 item chosen other
    have member := (List.perm_insertionSort (le · ·) items).mem_iff.mpr listed
    rw [← List.take_append_drop limit (items.insertionSort (le · ·))] at member
    exact (List.mem_append.mp member).resolve_left dropped
  full other listed dropped := by
    have member := (List.perm_insertionSort (le · ·) items).mem_iff.mpr listed
    rw [List.length_take]
    apply min_eq_left
    by_contra short
    rw [List.take_of_length_le (Nat.le_of_not_le short)] at dropped
    exact dropped member

end Sorted

theorem Least.congr {le : X → X → Prop} {limit : Nat} {eligible other : X → Prop} {chosen : List X}
    (choice : Least le limit eligible chosen) (same : ∀ item, eligible item ↔ other item) :
    Least le limit other chosen := by
  have equal : eligible = other := funext (fun item => propext (same item))
  rw [← equal]
  exact choice

theorem Least.append {le : X → X → Prop} {limit more : Nat} {eligible : X → Prop}
    {chosen later : List X} (first : Least le limit eligible chosen)
    (second : Least le more (fun item => eligible item ∧ item ∉ chosen) later) :
    Least le (limit + more) eligible (chosen ++ later) where
  distinct := first.distinct.append second.distinct fun _ early late =>
    (second.selected _ late).2 early
  selected item member := (List.mem_append.mp member).elim (first.selected item) fun late =>
    (second.selected item late).1
  bounded := List.length_append ▸ Nat.add_le_add first.bounded second.bounded
  least item member other listed dropped := by
    rw [List.mem_append, not_or] at dropped
    rcases List.mem_append.mp member with early | late
    · exact first.least item early other listed dropped.1
    · exact second.least item late other ⟨listed, dropped.1⟩ dropped.2
  full other listed dropped := by
    rw [List.mem_append, not_or] at dropped
    rw [List.length_append, first.full other listed dropped.1,
      second.full other ⟨listed, dropped.1⟩ dropped.2]

end Selection
