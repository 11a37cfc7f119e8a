import Mathlib.Data.Prod.Lex
import Mathlib.Data.List.Sort
import Mathlib.Tactic.Common
import Mathlib.Tactic.Linarith

/-! Finite tables with a primary key.

The rows are kept in key order, so two tables with the same rows are the same
value and a scan of the table is a scan in key order. -/

structure KeyedTable (K V : Type) [LinearOrder K] where
  rows : List (K × V)
  sorted : rows.Pairwise (fun left right => left.1 < right.1)

namespace KeyedTable

variable {K V : Type} [LinearOrder K]

def empty : KeyedTable K V := ⟨[], .nil⟩

def lookup (key : K) : List (K × V) → Option V
  | [] => none
  | row :: rest => if row.1 = key then some row.2 else lookup key rest

def find? (table : KeyedTable K V) (key : K) : Option V := lookup key table.rows

def place (key : K) (value : V) : List (K × V) → List (K × V)
  | [] => [(key, value)]
  | row :: rest =>
    if key < row.1 then (key, value) :: row :: rest
    else if key = row.1 then (key, value) :: rest
    else row :: place key value rest

variable (table : KeyedTable K V) (pairs : List (K × V)) (key : K) (value : V)
    (rows : List (K × V)) (other : K)

theorem mem_place (entry : K × V) (member : entry ∈ place key value rows) :
    entry = (key, value) ∨ entry ∈ rows := by
  induction rows with
  | nil => exact .inl (List.mem_singleton.mp member)
  | cons row rest ih =>
    unfold place at member
    split at member
    · exact List.mem_cons.mp member
    · split at member
      · rcases List.mem_cons.mp member with here | later
        · exact .inl here
        · exact .inr (.tail _ later)
      · rcases List.mem_cons.mp member with rfl | later
        · exact .inr (.head _)
        · rcases ih later with here | inside
          · exact .inl here
          · exact .inr (.tail _ inside)

theorem place_sorted (ordered : rows.Pairwise (fun left right => left.1 < right.1)) :
    (place key value rows).Pairwise (fun left right => left.1 < right.1) := by
  induction rows with
  | nil => exact List.pairwise_singleton _ _
  | cons row rest ih =>
    have heads := (List.pairwise_cons.mp ordered).1
    have tails := (List.pairwise_cons.mp ordered).2
    unfold place
    split
    next before =>
      refine List.pairwise_cons.mpr ⟨?_, ordered⟩
      intro entry member
      rcases List.mem_cons.mp member with rfl | later
      · exact before
      · exact before.trans (heads entry later)
    next notBefore =>
      split
      next same =>
        subst same
        exact List.pairwise_cons.mpr ⟨heads, tails⟩
      next different =>
        refine List.pairwise_cons.mpr ⟨?_, ih tails⟩
        intro entry member
        rcases mem_place key value rest entry member with rfl | later
        · exact lt_of_le_of_ne (not_lt.mp notBefore) (Ne.symm different)
        · exact heads entry later

def set (table : KeyedTable K V) (key : K) (value : V) : KeyedTable K V :=
  ⟨place key value table.rows, place_sorted key value table.rows table.sorted⟩

def modify (table : KeyedTable K V) (key : K) (change : V → V) : KeyedTable K V :=
  match table.find? key with
  | none => table
  | some value => table.set key (change value)

def deleteWhere (table : KeyedTable K V) (doomed : K → V → Bool) : KeyedTable K V :=
  ⟨table.rows.filter (fun row => !doomed row.1 row.2), table.sorted.filter _⟩

def erase (table : KeyedTable K V) (key : K) : KeyedTable K V :=
  table.deleteWhere (fun candidate _ => decide (candidate = key))

@[simp] theorem find?_empty : (empty : KeyedTable K V).find? key = none := rfl

theorem lookup_place (value : V) (rows : List (K × V)) : lookup other (place key value rows) =
      if key = other then some value else lookup other rows := by
  induction rows with
  | nil => simp [place, lookup]
  | cons row rest ih =>
    unfold place
    split
    · simp only [lookup]
    · split
      next same =>
        subst same
        simp only [lookup]
        split <;> rfl
      next different =>
        simp only [lookup, ih]
        by_cases here : row.1 = other
        · have : key ≠ other := fun equal => different (equal.trans here.symm)
          simp [here, this]
        · simp [here]

theorem find?_set (value : V) :
    (table.set key value).find? other = if key = other then some value else table.find? other :=
  lookup_place key other value table.rows

@[simp] theorem find?_set_self : (table.set key value).find? key = some value := by
  simp [find?_set]

theorem find?_modify (change : V → V) : (table.modify key change).find? other =
      if key = other then (table.find? other).map change else table.find? other := by
  unfold modify
  by_cases same : key = other
  · subst same
    cases found : table.find? key with
    | none => simp [found]
    | some value => simp
  · cases found : table.find? key with
    | none => simp [same]
    | some value => simp [find?_set, same]

theorem lookup_none (above : ∀ row ∈ rows, row.1 ≠ key) : lookup key rows = none := by
  induction rows with
  | nil => rfl
  | cons row rest ih =>
    simp only [lookup, above row (.head _), if_false]
    exact ih (fun entry member => above entry (.tail _ member))

theorem lookup_filter (keep : K → V → Bool) (rows : List (K × V))
    (ordered : rows.Pairwise (fun left right => left.1 < right.1)) :
    lookup key (rows.filter (fun row => keep row.1 row.2)) =
      (lookup key rows).filter (keep key) := by
  induction rows with
  | nil => rfl
  | cons row rest ih =>
    have heads := (List.pairwise_cons.mp ordered).1
    have tails := ih (List.pairwise_cons.mp ordered).2
    by_cases here : row.1 = key
    · subst here
      have gone : lookup row.1 (rest.filter (fun row => keep row.1 row.2)) = none := by
        apply lookup_none
        intro entry member
        exact (heads entry (List.mem_of_mem_filter member)).ne'
      by_cases kept : keep row.1 row.2 = true
      · simp [kept, lookup, Option.filter_some]
      · simp [kept, lookup, gone, Option.filter_some]
    · by_cases kept : keep row.1 row.2 = true
      · simp [kept, lookup, here, tails]
      · simp [kept, lookup, here, tails]

theorem find?_deleteWhere (doomed : K → V → Bool) (key : K) :
    (table.deleteWhere doomed).find? key = (table.find? key).filter
      (fun value => !doomed key value) :=
  lookup_filter key (fun candidate value => !doomed candidate value) table.rows table.sorted

theorem find?_deleteKeys (doomed : K → Bool) (key : K) :
    (table.deleteWhere (fun candidate _ => doomed candidate)).find? key =
      if doomed key = true then none else table.find? key := by
  rw [find?_deleteWhere]
  cases doomed key <;> cases table.find? key <;> rfl

theorem find?_erase :
    (table.erase key).find? other = if key = other then none else table.find? other := by
  unfold erase
  rw [find?_deleteWhere]
  by_cases same : key = other
  · subst same
    cases table.find? key <;> simp
  · have : ¬ other = key := fun equal => same equal.symm
    cases table.find? other <;> simp [same, this]

theorem mem_rows : (key, value) ∈ table.rows ↔ table.find? key = some value := by
  rcases table with ⟨rows, ordered⟩
  unfold find?
  simp only
  induction rows with
  | nil => simp [lookup]
  | cons row rest ih =>
    have heads := (List.pairwise_cons.mp ordered).1
    have tails := ih (List.pairwise_cons.mp ordered).2
    by_cases here : row.1 = key
    · subst here
      simp only [lookup, if_true, List.mem_cons, Option.some.injEq]
      constructor
      · rintro (same | later)
        · exact (congrArg Prod.snd same).symm
        · exact absurd (heads _ later) (lt_irrefl _)
      · rintro rfl
        exact .inl rfl
    · simp only [lookup, here, if_false, List.mem_cons, ← tails]
      constructor
      · rintro (same | later)
        · exact absurd (congrArg Prod.fst same).symm here
        · exact later
      · exact Or.inr

private theorem nodup_of_ordered (ordered : rows.Pairwise (fun a b => a.1 < b.1)) : rows.Nodup := by
  refine ordered.imp ?_
  intro a b below same
  exact absurd (congrArg Prod.fst same) below.ne

private theorem rows_eq_of_lookup (left right : List (K × V))
    (leftOrdered : left.Pairwise (fun a b => a.1 < b.1))
    (rightOrdered : right.Pairwise (fun a b => a.1 < b.1))
    (agree : ∀ entry, entry ∈ left ↔ entry ∈ right) : left = right := by
  have perm : left.Perm right :=
    (List.perm_ext_iff_of_nodup (nodup_of_ordered left leftOrdered)
      (nodup_of_ordered right rightOrdered)).mpr agree
  refine perm.eq_of_pairwise ?_ leftOrdered rightOrdered
  intro a b _ _ below above
  exact absurd (below.trans above) (lt_irrefl _)

theorem ext_find? (left right : KeyedTable K V) (agree : ∀ key, left.find? key = right.find? key) :
    left = right := by
  have rows : left.rows = right.rows := by
    apply rows_eq_of_lookup left.rows right.rows left.sorted right.sorted
    rintro ⟨key, value⟩
    rw [mem_rows, mem_rows, agree]
  cases left
  cases right
  cases rows
  rfl

def ofAssignments (pairs : List (K × V)) : KeyedTable K V :=
  pairs.foldl (fun table pair => table.set pair.1 pair.2) empty

theorem find?_foldl_set (table : KeyedTable K V)
    (distinct : (pairs.map Prod.fst).Nodup) (key : K) (value : V) :
    (pairs.foldl (fun current pair => current.set pair.1 pair.2) table).find? key = some value ↔
      (key, value) ∈ pairs ∨ (key ∉ pairs.map Prod.fst ∧ table.find? key = some value) := by
  induction pairs generalizing table with
  | nil => simp
  | cons pair rest ih =>
    obtain ⟨fresh, tail⟩ := List.nodup_cons.mp distinct
    rw [List.foldl_cons, ih (table.set pair.1 pair.2) tail, find?_set]
    obtain ⟨first, stored⟩ := pair
    by_cases same : first = key
    · subst same
      have missing : (first, value) ∉ rest := fun member =>
        fresh (List.mem_map.mpr ⟨(first, value), member, rfl⟩)
      simp only [List.map_cons, List.mem_cons, true_or, not_true_eq_false, false_and, or_false,
        missing, false_or, if_true, Option.some.injEq, Prod.mk.injEq, true_and]
      exact ⟨fun found => found.2.symm, fun found => ⟨fresh, found.symm⟩⟩
    · simp [same, Ne.symm same]

theorem mem_ofAssignments (distinct : (pairs.map Prod.fst).Nodup)
    (pair : K × V) : pair ∈ (ofAssignments pairs).rows ↔ pair ∈ pairs := by
  obtain ⟨key, value⟩ := pair
  rw [mem_rows, ofAssignments, find?_foldl_set pairs empty distinct]
  simp

theorem mem_foldl_set (table : KeyedTable K V) (row : K × V)
    (member : row ∈ (pairs.foldl (fun current pair => current.set pair.1 pair.2) table).rows) :
    row ∈ table.rows ∨ row ∈ pairs := by
  induction pairs generalizing table with
  | nil => exact .inl member
  | cons pair rest ih =>
    rcases ih (table.set pair.1 pair.2) member with placed | later
    · rcases mem_place pair.1 pair.2 table.rows row placed with rfl | before
      · exact .inr (.head _)
      · exact .inl before
    · exact .inr (.tail _ later)

theorem ofAssignments_subset (row : K × V) (member : row ∈ (ofAssignments pairs).rows) :
    row ∈ pairs := by
  rcases mem_foldl_set pairs empty row member with before | assigned
  · exact absurd before (by simp [empty])
  · exact assigned

theorem ofAssignments_sorted (ordered : pairs.Pairwise (fun left right => left.1 < right.1)) :
    (ofAssignments pairs).rows = pairs := by
  have distinct : (pairs.map Prod.fst).Nodup :=
    List.pairwise_map.mpr (ordered.imp (fun below => below.ne))
  exact rows_eq_of_lookup _ _ (ofAssignments pairs).sorted ordered
    (mem_ofAssignments pairs distinct)

theorem ofAssignments_rows : ofAssignments table.rows = table := by
  apply ext_find?
  intro key
  rw [find?, ofAssignments_sorted table.rows table.sorted, find?]

theorem ofAssignments_perm (left right : List (K × V)) (perm : left.Perm right)
    (distinct : (left.map Prod.fst).Nodup) : ofAssignments left = ofAssignments right := by
  apply ext_find?
  intro key
  apply Option.ext
  intro value
  have moved : (right.map Prod.fst).Nodup := (perm.map Prod.fst).nodup_iff.mp distinct
  rw [← mem_rows, ← mem_rows, mem_ofAssignments left distinct,
    mem_ofAssignments right moved, perm.mem_iff]

instance [DecidableEq V] : DecidableEq (KeyedTable K V) := fun left right =>
  decidable_of_iff (left.rows = right.rows) (by
    constructor
    · intro rows
      cases left
      cases right
      cases rows
      rfl
    · exact congrArg KeyedTable.rows)

end KeyedTable

section Association

variable {X K V : Type} [DecidableEq K]

theorem lookup_map_of_mem (key : X → K) (value : X → V) (items : List X)
    (distinct : (items.map key).Nodup) (item : X) (member : item ∈ items) :
    (items.map (fun other => (key other, value other))).lookup (key item) = some (value item) := by
  induction items with
  | nil => exact absurd member (List.not_mem_nil)
  | cons head tail ih =>
    obtain ⟨fresh, rest⟩ := List.nodup_cons.mp distinct
    rcases List.mem_cons.mp member with rfl | later
    · simp
    · have apart : key item ≠ key head := fun same => fresh (same ▸ List.mem_map_of_mem later)
      rw [List.map_cons, List.lookup_cons, beq_false_of_ne apart]
      exact ih rest later

theorem lookup_filterMap_of_mem (key : X → K) (value : X → Option V) (items : List X)
    (distinct : (items.map key).Nodup) (item : X) (member : item ∈ items) :
    (items.filterMap (fun other => (value other).map (fun found => (key other, found)))).lookup
      (key item) = value item := by
  induction items with
  | nil => exact absurd member (List.not_mem_nil)
  | cons head tail ih =>
    obtain ⟨fresh, rest⟩ := List.nodup_cons.mp distinct
    rcases List.mem_cons.mp member with rfl | later
    · cases found : value item with
      | some first => simp [found]
      | none =>
        simp only [List.filterMap_cons, found, Option.map_none]
        apply List.lookup_eq_none_iff.mpr
        intro pair present
        obtain ⟨other, inside, built⟩ := List.mem_filterMap.mp present
        obtain ⟨extra, _, rfl⟩ := Option.map_eq_some_iff.mp built
        have apart : key item ≠ key other := fun same =>
          fresh (same ▸ List.mem_map_of_mem inside)
        exact bne_iff_ne.mpr apart
    · have apart : key item ≠ key head := fun same => fresh (same ▸ List.mem_map_of_mem later)
      cases found : value head with
      | none =>
        simp only [List.filterMap_cons, found, Option.map_none]
        exact ih rest later
      | some first =>
        simp only [List.filterMap_cons, found, Option.map_some,
          List.lookup_cons, beq_false_of_ne apart]
        exact ih rest later

theorem lookup_eq_some_iff_mem (pairs : List (K × V)) (distinct : (pairs.map Prod.fst).Nodup)
    (key : K) (value : V) : pairs.lookup key = some value ↔ (key, value) ∈ pairs := by
  induction pairs with
  | nil => simp
  | cons pair rest ih =>
    obtain ⟨first, stored⟩ := pair
    obtain ⟨fresh, tail⟩ := List.nodup_cons.mp distinct
    by_cases same : key = first
    · subst same
      have missing : (key, value) ∉ rest := fun member =>
        fresh (List.mem_map.mpr ⟨(key, value), member, rfl⟩)
      simp [missing, eq_comm]
    · rw [List.lookup_cons, beq_false_of_ne same]
      simp [ih tail, same]

end Association
