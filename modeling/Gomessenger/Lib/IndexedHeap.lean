import Mathlib.Order.Basic
import Mathlib.Tactic.Common
import Mathlib.Tactic.Linarith

/-! A binary heap whose entries know their index.

The entries are keys; what an entry is ordered by is a function of its key, so
that it can change under the heap. The operations are those of a heap on a slice:
an entry moves up or down by exchanging it with its parent or its least child. -/

namespace IndexedHeap

structure Heap (K : Type) where
  size : Nat
  slot : Nat → K
  place : K → Int

variable {K T : Type} [DecidableEq K] [LinearOrder T]

def Heap.swap (heap : Heap K) (left right : Nat) : Heap K where
  size := heap.size
  slot index := if index = left then heap.slot right else if index = right
    then heap.slot left else heap.slot index
  place key := if key = heap.slot left then right else if key = heap.slot right
    then left else heap.place key

variable (rank : K → T)

def Heap.up (heap : Heap K) (child : Nat) : Heap K :=
  if _rises : (child - 1) / 2 ≠ child ∧ rank (heap.slot child) < rank (heap.slot ((child - 1) / 2))
      then
    (heap.swap ((child - 1) / 2) child).up ((child - 1) / 2)
  else heap
termination_by child

def Heap.least (heap : Heap K) (index size : Nat) : Nat :=
  if 2 * index + 2 < size ∧ rank (heap.slot (2 * index + 2)) < rank (heap.slot (2 * index + 1))
    then 2 * index + 2
  else 2 * index + 1

omit [DecidableEq K] in
theorem Heap.least_child (heap : Heap K) (index size : Nat) (inside : 2 * index + 1 < size) :
    index < heap.least rank index size ∧ heap.least rank index size < size ∧
      (heap.least rank index size - 1) / 2 = index := by
  unfold Heap.least
  split_ifs with right <;> omega

def Heap.down (heap : Heap K) (index size : Nat) : Heap K × Nat :=
  if _sinks : 2 * index + 1 < size ∧ rank (heap.slot (heap.least rank index size)) <
      rank (heap.slot index) then
    (heap.swap index (heap.least rank index size)).down (heap.least rank index size) size
  else (heap, index)
termination_by size - index
decreasing_by
  have child := heap.least_child rank index size _sinks.1
  omega

def Heap.fix (heap : Heap K) (index : Nat) : Heap K :=
  if index < (heap.down rank index heap.size).2 then (heap.down rank index heap.size).1
  else (heap.down rank index heap.size).1.up rank index

def Heap.push (heap : Heap K) (key : K) : Heap K :=
  Heap.up rank
    { size := heap.size + 1
      slot := fun index => if index = heap.size then key else heap.slot index
      place := fun other => if other = key then heap.size else heap.place other }
    heap.size

def Heap.pop (heap : Heap K) : Heap K × K :=
  let sunk := ((heap.swap 0 (heap.size - 1)).down rank 0 (heap.size - 1)).1
  let item := sunk.slot (heap.size - 1)
  (⟨heap.size - 1, sunk.slot, fun key => if key = item then -1 else sunk.place key⟩, item)

section Entries

variable {heap : Heap K}

/-- Every entry knows its index. -/
def Heap.Placed (heap : Heap K) : Prop := ∀ index < heap.size, heap.place (heap.slot index) = index

def Heap.Holds (heap : Heap K) (key : K) : Prop := ∃ index < heap.size, heap.slot index = key

structure Rearranged (before after : Heap K) : Prop where
  size : after.size = before.size
  placed : before.Placed → after.Placed
  holds : ∀ key, after.Holds key ↔ before.Holds key

omit [DecidableEq K] in
theorem Rearranged.refl (heap : Heap K) : Rearranged heap heap := ⟨rfl, id, fun _ => Iff.rfl⟩

omit [DecidableEq K] in
theorem Rearranged.trans {first second third : Heap K} (left : Rearranged first second)
    (right : Rearranged second third) : Rearranged first third :=
  ⟨right.size.trans left.size, right.placed ∘ left.placed,
    fun key => (right.holds key).trans (left.holds key)⟩

omit [DecidableEq K] in
theorem Heap.Placed.injective (placed : heap.Placed) {left right : Nat} (isLeft : left < heap.size)
    (isRight : right < heap.size) (same : heap.slot left = heap.slot right) : left = right := by
  have indexes := (placed left isLeft).symm.trans (same ▸ placed right isRight)
  exact Int.ofNat.inj indexes

theorem swap_rearranged (heap : Heap K) {left right : Nat} (isLeft : left < heap.size)
    (isRight : right < heap.size) :
    Rearranged heap (heap.swap left right) where
  size := rfl
  placed placed := by
    intro index inside
    simp only [Heap.swap]
    by_cases atLeft : index = left
    · subst atLeft
      rw [if_pos rfl]
      by_cases same : heap.slot right = heap.slot index
      · rw [if_pos same, placed.injective isRight isLeft same]
      · rw [if_neg same, if_pos rfl]
    · rw [if_neg atLeft]
      by_cases atRight : index = right
      · rw [if_pos atRight, if_pos rfl, atRight]
      · rw [if_neg atRight, if_neg (fun same => atLeft (placed.injective inside isLeft same)),
          if_neg (fun same => atRight (placed.injective inside isRight same))]
        exact placed index inside
  holds key := by
    constructor
    · rintro ⟨index, inside, isKey⟩
      simp only [Heap.swap] at isKey
      split_ifs at isKey
      · exact ⟨right, isRight, isKey⟩
      · exact ⟨left, isLeft, isKey⟩
      · exact ⟨index, inside, isKey⟩
    · rintro ⟨index, inside, isKey⟩
      by_cases atLeft : index = left
      · refine ⟨right, isRight, ?_⟩
        simp only [Heap.swap, if_true]
        split_ifs with same
        · rw [same, ← atLeft, isKey]
        · rw [← atLeft, isKey]
      · by_cases atRight : index = right
        · exact ⟨left, isLeft, by simp only [Heap.swap, if_true]; rw [← atRight, isKey]⟩
        · exact ⟨index, inside, by simp only [Heap.swap, if_neg atLeft, if_neg atRight, isKey]⟩

theorem up_rearranged (heap : Heap K) (child : Nat) (inside : child < heap.size) :
    Rearranged heap (heap.up rank child) := by
  fun_induction Heap.up rank heap child with
  | case1 heap child rises ih =>
    exact (swap_rearranged heap (by omega) inside).trans
      (ih (show (child - 1) / 2 < heap.size by omega))
  | case2 heap child stays => exact .refl heap

theorem down_rearranged (heap : Heap K) (index size : Nat) (inside : index < heap.size)
    (within : size ≤ heap.size) :
    Rearranged heap (heap.down rank index size).1 ∧
      (∀ later, size ≤ later → index < size →
        (heap.down rank index size).1.slot later = heap.slot later) ∧
      index ≤ (heap.down rank index size).2 := by
  fun_induction Heap.down rank heap index size with
  | case1 heap index sinks ih =>
    obtain ⟨above, below, _⟩ := heap.least_child rank index size sinks.1
    obtain ⟨rearranged, kept, further⟩ := ih (show _ < heap.size by omega) within
    refine ⟨(swap_rearranged heap inside (by omega)).trans rearranged, ?_, by omega⟩
    intro later isLater _
    have apart : later ≠ heap.least rank index size := by omega
    rw [kept later isLater below]
    simp only [Heap.swap, if_neg (show later ≠ index by omega), if_neg apart]
  | case2 heap index stays => exact ⟨.refl heap, fun _ _ _ => rfl, Nat.le_refl _⟩

end Entries

section Order

variable {rank} {heap : Heap K} {index size : Nat}

def Heap.Above (rank : K → T) (heap : Heap K) (index : Nat) : Prop :=
  rank (heap.slot ((index - 1) / 2)) ≤ rank (heap.slot index)

def Heap.Ordered (rank : K → T) (heap : Heap K) : Prop :=
    ∀ index < heap.size, 0 < index → heap.Above rank index

theorem slot_left (heap : Heap K) (left right : Nat) :
    (heap.swap left right).slot left = heap.slot right :=
  if_pos rfl

theorem slot_right (heap : Heap K) (left right : Nat) :
    (heap.swap left right).slot right = heap.slot left := by
  by_cases same : right = left
  · rw [same, slot_left]
  · simp only [Heap.swap, if_neg same, if_true]

theorem slot_other (heap : Heap K) {left right other : Nat} (notLeft : other ≠ left)
    (notRight : other ≠ right) :
    (heap.swap left right).slot other = heap.slot other := by
  simp only [Heap.swap, if_neg notLeft, if_neg notRight]

/-- An entry that may come before its parent moves up until it does not. -/
theorem up_ordered (heap : Heap K) (child : Nat)
    (others : ∀ index < heap.size, 0 < index → index ≠ child → heap.Above rank index)
    (below : ∀ index < heap.size, 0 < index → (index - 1) / 2 = child → 0 < child →
      rank (heap.slot ((child - 1) / 2)) ≤ rank (heap.slot index))
    (inside : child < heap.size) : (heap.up rank child).Ordered rank := by
  fun_induction Heap.up rank heap child with
  | case1 heap child rises ih =>
    obtain ⟨apart, less⟩ := rises
    have parent : (child - 1) / 2 < child := by omega
    refine ih ?_ ?_ (show (child - 1) / 2 < heap.size by omega)
    · intro index isIndex positive notParent
      unfold Heap.Above
      by_cases isChild : index = child
      · rw [isChild, slot_left, slot_right]
        exact less.le
      · rw [slot_other heap notParent isChild]
        by_cases underChild : (index - 1) / 2 = child
        · rw [underChild, slot_right]
          exact below index isIndex positive underChild (by omega)
        · by_cases underParent : (index - 1) / 2 = (child - 1) / 2
          · rw [underParent, slot_left]
            have above := others index isIndex positive isChild
            rw [Heap.Above, underParent] at above
            exact less.le.trans above
          · rw [slot_other heap underParent underChild]
            exact others index isIndex positive isChild
    · intro index isIndex positive underParent notRoot
      have above := others ((child - 1) / 2) (by omega) notRoot (by omega)
      rw [slot_other heap (show ((child - 1) / 2 - 1) / 2 ≠ (child - 1) / 2 by omega) (by omega)]
      by_cases isChild : index = child
      · rw [isChild, slot_right]
        exact above
      · rw [slot_other heap (by omega) isChild]
        have sibling := others index isIndex positive isChild
        rw [Heap.Above, underParent] at sibling
        exact above.trans sibling
  | case2 heap child stays =>
    intro index isIndex positive
    by_cases isChild : index = child
    · subst isChild
      by_contra less
      exact stays ⟨by omega, not_le.mp less⟩
    · exact others index isIndex positive isChild

structure Sinking (rank : K → T) (heap : Heap K) (index size : Nat) : Prop where
  others : ∀ other < size, 0 < other → other ≠ index → (other - 1) / 2 ≠
    index → heap.Above rank other
  below : ∀ other < size, 0 < other → (other - 1) / 2 = index → 0 < index →
    rank (heap.slot ((index - 1) / 2)) ≤ rank (heap.slot other)

variable {index : Nat}

omit [DecidableEq K] in
theorem least_le (rank : K → T) (heap : Heap K) {size other : Nat}
    (isOther : other < size) (positive : 0 < other)
    (under : (other - 1) / 2 = index) : rank (heap.slot (heap.least rank index size)) ≤
      rank (heap.slot other) := by
  unfold Heap.least
  split_ifs with right
  · rcases show other = 2 * index + 1 ∨ other = 2 * index + 2 by omega with rfl | rfl
    · exact right.2.le
    · exact le_refl _
  · rcases show other = 2 * index + 1 ∨ other = 2 * index + 2 by omega with rfl | rfl
    · exact le_refl _
    · rw [not_and, not_lt] at right
      exact right isOther

theorem Sinking.swap (sinking : Sinking rank heap index size) (more : 2 * index + 1 < size)
    (less : rank (heap.slot (heap.least rank index size)) < rank (heap.slot index)) :
    Sinking rank (heap.swap index (heap.least rank index size)) (heap.least rank index size) size ∧
      (heap.swap index (heap.least rank index size)).Above rank (heap.least rank index size) := by
  obtain ⟨above, within, parent⟩ := heap.least_child rank index size more
  have smallest : ∀ other < size, 0 < other → (other - 1) / 2 = index → _ :=
    fun other isOther positive under =>
    least_le rank heap isOther positive under
  generalize heap.least rank index size = child at *
  refine ⟨⟨?_, ?_⟩, ?_⟩
  · intro other isOther positive notChild notUnder
    unfold Heap.Above
    by_cases isIndex : other = index
    · rw [isIndex, slot_left, slot_other heap (show (index - 1) / 2 ≠ index by omega) (by omega)]
      exact sinking.below child within (by omega) parent (by omega)
    · rw [slot_other heap isIndex notChild]
      by_cases under : (other - 1) / 2 = index
      · rw [under, slot_left]
        exact smallest other isOther positive under
      · rw [slot_other heap under notUnder]
        exact sinking.others other isOther positive isIndex under
  · intro other isOther positive under _
    rw [parent, slot_left, slot_other heap (by omega) (by omega)]
    have kept := sinking.others other isOther positive (by omega) (by omega)
    rw [Heap.Above, under] at kept
    exact kept
  · unfold Heap.Above
    rw [parent, slot_left, slot_right]
    exact less.le

theorem down_ordered (rank : K → T) (heap : Heap K) (index size : Nat)
    (sinking : Sinking rank heap index size) (above : 0 < index → heap.Above rank index) :
    ∀ other < size, 0 < other → (heap.down rank index size).1.Above rank other := by
  fun_induction Heap.down rank heap index size with
  | case1 heap index sinks ih =>
    obtain ⟨sunk, placed⟩ := sinking.swap sinks.1 sinks.2
    exact ih sunk fun _ => placed
  | case2 heap index stays =>
    intro other isOther positive
    by_cases isIndex : other = index
    · exact isIndex ▸ above (by omega)
    · by_cases under : (other - 1) / 2 = index
      · have smallest := least_le rank heap isOther positive under
        rw [not_and, not_lt] at stays
        rw [Heap.Above, under]
        exact (stays (by omega)).trans smallest
      · exact sinking.others other isOther positive isIndex under

omit [DecidableEq K] in
/-- The first entry of an ordered heap comes before every other. -/
theorem Heap.Ordered.first (ordered : heap.Ordered rank) (inside : index < heap.size) :
    rank (heap.slot 0) ≤ rank (heap.slot index) := by
  induction index using Nat.strongRecOn with
  | _ index ih =>
    by_cases isFirst : index = 0
    · rw [isFirst]
    · exact (ih ((index - 1) / 2) (by omega) (by omega)).trans (ordered index inside (by omega))

theorem push_ordered (heap : Heap K) (key : K) (ordered : heap.Ordered rank) :
    (heap.push rank key).Ordered rank := by
  refine up_ordered _ heap.size ?_ ?_ (Nat.lt_succ_self _)
  · intro index isIndex positive notLast
    have inside : index < heap.size := by simp only at isIndex; omega
    simp only [Heap.Above, if_neg notLast, if_neg (show (index - 1) / 2 ≠ heap.size by omega)]
    exact ordered index inside positive
  · intro index isIndex positive under
    simp only at isIndex
    omega

theorem push_entries (rank : K → T) (heap : Heap K) (key : K) (placed : heap.Placed)
    (fresh : ¬heap.Holds key) :
    (heap.push rank key).Placed ∧ ∀ other, (heap.push rank key).Holds other ↔
      heap.Holds other ∨ other = key := by
  have moved := up_rearranged rank
    { size := heap.size + 1
      slot := fun index => if index = heap.size then key else heap.slot index
      place := fun other => if other = key then heap.size
        else heap.place other } heap.size (Nat.lt_succ_self _)
  refine ⟨moved.placed ?_, fun other => (moved.holds other).trans ?_⟩
  · intro index isIndex
    simp only at isIndex ⊢
    by_cases isLast : index = heap.size
    · rw [if_pos isLast, if_pos rfl, isLast]
    · have inside : index < heap.size := by omega
      rw [if_neg isLast, if_neg fun same => fresh ⟨index, inside, same⟩, placed index inside]
  · constructor
    · rintro ⟨index, isIndex, isKey⟩
      simp only at isIndex isKey
      split_ifs at isKey with isLast
      · exact .inr isKey.symm
      · exact .inl ⟨index, by omega, isKey⟩
    · rintro (⟨index, inside, isKey⟩ | isKey)
      · exact ⟨index,
          Nat.lt_succ_of_lt inside, by simp only [if_neg (show index ≠ heap.size by omega), isKey]⟩
      · exact ⟨heap.size, Nat.lt_succ_self _, by simp only [if_true, isKey]⟩

theorem fix_ordered (heap : Heap K) (inside : index < heap.size)
    (sinking : Sinking rank heap index heap.size) :
    (heap.fix rank index).Ordered rank := by
  unfold Heap.fix
  obtain ⟨rearranged, _, further⟩ := down_rearranged rank heap index
    heap.size inside (Nat.le_refl _)
  by_cases sinks : 2 * index + 1 < heap.size ∧
    rank (heap.slot (heap.least rank index heap.size)) < rank (heap.slot index)
  · obtain ⟨sunk, placed⟩ := sinking.swap sinks.1 sinks.2
    obtain ⟨beyond, below, _⟩ := heap.least_child rank index heap.size sinks.1
    have final := down_rearranged rank (heap.swap index (heap.least rank index heap.size))
      (heap.least rank index heap.size) heap.size below (Nat.le_refl _)
    have ordered := down_ordered rank _ _ _ sunk fun _ => placed
    rw [Heap.down, dif_pos sinks, if_pos (by omega)]
    intro other isOther
    exact ordered other (final.1.size ▸ isOther)
  · rw [Heap.down, dif_neg sinks, if_neg (Nat.lt_irrefl _)]
    rw [not_and, not_lt] at sinks
    refine up_ordered heap index ?_ ?_ inside
    · intro other isOther positive notIndex
      by_cases under : (other - 1) / 2 = index
      · have smallest := least_le rank heap isOther positive under
        rw [Heap.Above, under]
        exact (sinks (by omega)).trans smallest
      · exact sinking.others other isOther positive notIndex under
    · exact fun other isOther positive under notFirst =>
        sinking.below other isOther positive under notFirst

omit [DecidableEq K] in
theorem Heap.Ordered.sinking {earlier : K → T} (ordered : heap.Ordered earlier)
    (inside : index < heap.size)
    (same : ∀ other < heap.size, other ≠ index → rank (heap.slot other) =
      earlier (heap.slot other)) :
    Sinking rank heap index heap.size := by
  constructor
  · intro other isOther positive notIndex notUnder
    rw [Heap.Above, same other isOther notIndex, same _ (by omega) notUnder]
    exact ordered other isOther positive
  · intro other isOther positive under notFirst
    rw [same other isOther (by omega), same _ (by omega) (by omega)]
    have child := ordered other isOther positive
    rw [Heap.Above, under] at child
    exact (ordered index inside notFirst).trans child

theorem fix_rearranged (rank : K → T) (heap : Heap K) (inside : index < heap.size) :
    Rearranged heap (heap.fix rank index) := by
  obtain ⟨rearranged, _, _⟩ := down_rearranged rank heap index heap.size inside (Nat.le_refl _)
  unfold Heap.fix
  split_ifs
  · exact rearranged
  · exact rearranged.trans (up_rearranged rank _ _ (rearranged.size.symm ▸ inside))

theorem pop_entries (heap : Heap K) (some : 0 < heap.size) (placed : heap.Placed)
    (ordered : heap.Ordered rank) :
    (heap.pop rank).2 = heap.slot 0 ∧ (heap.pop rank).1.Placed ∧ (heap.pop rank).1.Ordered rank ∧
      ∀ key, (heap.pop rank).1.Holds key ↔ heap.Holds key ∧ key ≠ heap.slot 0 := by
  have exchanged := swap_rearranged heap some (show heap.size - 1 < heap.size by omega)
  have moved := down_rearranged rank (heap.swap 0 (heap.size - 1)) 0
    (heap.size - 1) some (Nat.sub_le _ _)
  have sunk := down_ordered rank (heap.swap 0 (heap.size - 1)) 0 (heap.size - 1) ?_ (by omega)
  · have all := exchanged.trans moved.1
    have item : ((heap.swap 0 (heap.size - 1)).down rank 0 (heap.size - 1)).1.slot
        (heap.size - 1) = heap.slot 0 := by
      by_cases single : heap.size - 1 = 0
      · rw [single, Heap.down, dif_neg (by omega), slot_left]
      · rw [moved.2.1 _ (Nat.le_refl _) (by omega), slot_right]
    unfold Heap.pop
    simp only [item]
    generalize ((heap.swap 0 (heap.size - 1)).down rank 0 (heap.size - 1)).1 = final at *
    have differs : ∀ index < heap.size - 1, final.slot index ≠ heap.slot 0 := by
      intro index inside same
      have size := all.size
      have equal := (all.placed placed).injective (by omega) (by omega) (same.trans item.symm)
      omega
    refine ⟨trivial, ?_, sunk, ?_⟩
    · intro index inside
      simp only at inside ⊢
      rw [if_neg (differs index inside)]
      exact all.placed placed index (by rw [all.size]; omega)
    · intro key
      rw [← all.holds key]
      constructor
      · rintro ⟨index, inside, isKey⟩
        simp only at inside isKey
        exact ⟨⟨index, by rw [all.size]; omega, isKey⟩, isKey ▸ differs index inside⟩
      · rintro ⟨⟨index, inside, isKey⟩, notItem⟩
        rw [all.size] at inside
        refine ⟨index, ?_, isKey⟩
        by_contra last
        have isLast : index = heap.size - 1 := by simp only at last; omega
        exact notItem (by rw [← isKey, isLast, item])
  · constructor
    · intro other isOther positive notFirst notUnder
      simp only [Heap.Above]
      rw [slot_other heap notFirst (by omega), slot_other heap notUnder (by omega)]
      exact ordered other (by omega) positive
    · intro _ _ _ _ impossible
      exact absurd impossible (Nat.lt_irrefl _)

end Order

end IndexedHeap
