import Mathlib.Data.List.Nodup
import Mathlib.Tactic.Common
import Mathlib.Tactic.Linarith

/-! State changes that touch one component of an indexed view.

A state is seen through `view : S → I → V`. An action is local when it changes
the view at one index only; a loop of local actions can then be read off
component by component, from the items that name the component. -/

namespace LocalAction

variable {S I V X E : Type}

/-- The slices `items[start:start+size]` of a loop that advances by `size`. -/
def chunks (size : Nat) : Nat → List X → List (List X)
  | 0, _ => []
  | _ + 1, [] => []
  | fuel + 1, item :: rest =>
    (item :: rest).take size :: chunks size fuel ((item :: rest).drop size)

def chunksOf (size : Nat) (items : List X) : List (List X) := chunks size items.length items

variable (size : Nat)

theorem flatten_chunks (positive : 0 < size) (fuel : Nat) (items : List X)
    (enough : items.length ≤ fuel) : (chunks size fuel items).flatten = items := by
  induction fuel generalizing items with
  | zero => simp [chunks, List.length_eq_zero_iff.mp (Nat.le_zero.mp enough)]
  | succ fuel ih =>
    cases items with
    | nil => rfl
    | cons item rest =>
      have shorter : ((item :: rest).drop size).length ≤ fuel := by
        simp only [List.length_drop, List.length_cons] at enough ⊢
        omega
      simp [chunks, ih _ shorter]

theorem flatten_chunksOf (positive : 0 < size) (items : List X) :
    (chunksOf size items).flatten = items :=
  flatten_chunks size positive _ _ (Nat.le_refl _)

theorem foldl_chunksOf (positive : 0 < size) (act : S → X → S) (items : List X) (state : S) :
    (chunksOf size items).foldl (fun current chunk => chunk.foldl act current) state =
      items.foldl act state := by
  rw [← List.foldl_flatten, flatten_chunksOf size positive]

theorem foldlM_flatten (act : S → X → Except E S) (blocks : List (List X)) (state : S) :
    blocks.foldlM (fun current block => block.foldlM act current) state =
      blocks.flatten.foldlM act state := by
  induction blocks generalizing state with
  | nil => rfl
  | cons block rest ih =>
    simp [ih]

theorem foldlM_chunksOf (positive : 0 < size) (act : S → X → Except E S)
    (items : List X) (state : S) :
    (chunksOf size items).foldlM (fun current chunk => chunk.foldlM act current) state =
      items.foldlM act state := by
  rw [foldlM_flatten, flatten_chunksOf size positive]

theorem foldlM_guarded (check : X → Bool) (failure : E) (act : S → X → S)
    (items : List X) (state : S) :
    items.foldlM (fun current item =>
        if check item then Except.ok (act current item) else Except.error failure) state =
      if items.all check then Except.ok (items.foldl act state) else Except.error failure := by
  induction items generalizing state with
  | nil => rfl
  | cons item rest ih =>
    cases passed : check item with
    | false =>
      simp only [List.foldlM_cons, List.all_cons, passed, Bool.false_and]
      rfl
    | true =>
      rw [List.foldlM_cons, List.all_cons, passed, Bool.true_and,
        List.foldl_cons, ← ih (act state item)]
      rfl

theorem foldl_idempotent (change : X → V → V) (once : V → V) (items : List X)
    (uniform : ∀ item ∈ items, change item = once) (idempotent : ∀ value,
      once (once value) = once value)
    (value : V) :
    items.foldl (fun current item => change item current) value =
      if items.isEmpty then value else once value := by
  induction items generalizing value with
  | nil => rfl
  | cons item rest ih =>
    have tail := ih (fun other member => uniform other (.tail _ member)) (once value)
    rw [List.foldl_cons, uniform item (.head _), tail]
    cases rest with
    | nil => rfl
    | cons next later => exact idempotent value

variable [DecidableEq I]

def ActsAt (view : S → I → V) (index : I) (act : S → S) (change : V → V) : Prop :=
  ∀ state other,
    view (act state) other = if other = index then change (view state other) else view state other

def fibre (index : X → I) (items : List X) (target : I) : List X :=
  items.filter (fun item => decide (index item = target))

theorem fibre_of_mem (index : X → I) (items : List X) (distinct : (items.map index).Nodup)
    (item : X) (member : item ∈ items) : fibre index items (index item) = [item] := by
  induction items with
  | nil => exact absurd member (List.not_mem_nil)
  | cons head tail ih =>
    obtain ⟨fresh, rest⟩ := List.nodup_cons.mp distinct
    rcases List.mem_cons.mp member with rfl | later
    · have others : fibre index tail (index item) = [] := by
        apply List.filter_eq_nil_iff.mpr
        intro other present same
        exact fresh (of_decide_eq_true same ▸ List.mem_map_of_mem present)
      rw [fibre, List.filter_cons_of_pos (by simp)]
      exact congrArg (item :: ·) others
    · have apart : index head ≠ index item := fun same =>
        fresh (same ▸ List.mem_map_of_mem later)
      rw [fibre, List.filter_cons_of_neg (by simpa using apart)]
      exact ih rest later

theorem fibre_of_notMem (index : X → I) (items : List X) (target : I)
    (absent : ∀ item ∈ items, index item ≠ target) : fibre index items target = [] := by
  apply List.filter_eq_nil_iff.mpr
  intro item member same
  exact absent item member (of_decide_eq_true same)

theorem fibre_filter (index : X → I) (keep : X → Bool) (items : List X) (target : I) :
    fibre index (items.filter keep) target = (fibre index items target).filter keep := by
  simp only [fibre, List.filter_filter, Bool.and_comm]

theorem mem_fibre (index : X → I) (items : List X) (target : I) (item : X) :
    item ∈ fibre index items target ↔ item ∈ items ∧ index item = target := by
  simp [fibre]

variable {view : S → I → V}

variable {index : I} {change : V → V}

theorem ActsAt.here {act : S → S} (acts : ActsAt view index act change) (state : S) :
    view (act state) index = change (view state index) := by
  simp [acts state index]

theorem ActsAt.elsewhere {other : I} {act : S → S}
    (acts : ActsAt view index act change) (apart : other ≠ index) (state : S) :
    view (act state) other = view state other := by
  simp [acts state other, apart]

theorem ActsAt.comp {first second : S → S} {next : V → V}
    (before : ActsAt view index first change) (after : ActsAt view index second next) :
    ActsAt view index (fun state => second (first state)) (fun value => next (change value)) := by
  intro state other
  rw [after, before]
  split <;> rfl

/-- A loop of local actions changes each component by the items that name it. -/
theorem foldl_view (index : X → I) (act : X → S → S) (change : X → V → V) (items : List X)
    (acts : ∀ item ∈ items, ActsAt view (index item) (act item) (change item))
    (state : S) (target : I) :
    view (items.foldl (fun current item => act item current) state) target =
      (fibre index items target).foldl (fun value item => change item value)
    (view state target) := by
  induction items generalizing state with
  | nil => rfl
  | cons item rest ih =>
    have tail := ih (fun other member => acts other (.tail _ member)) (act item state)
    have head := acts item (.head _) state target
    rw [List.foldl_cons, tail, head]
    by_cases same : index item = target
    · rw [if_pos same.symm, fibre, fibre,
        List.filter_cons_of_pos (by simpa using same), List.foldl_cons]
    · rw [if_neg (Ne.symm same), fibre, fibre, List.filter_cons_of_neg (by simpa using same)]

theorem foldl_view_of_mem (index : X → I) (act : X → S → S) (change : X → V → V) (items : List X)
    (keep : X → Bool) (acts : ∀ item ∈ items, ActsAt view (index item) (act item) (change item))
    (distinct : (items.map index).Nodup) (state : S) (item : X) (member : item ∈ items) :
    view ((items.filter keep).foldl (fun current item => act item current) state) (index item) =
      if keep item then change item (view state (index item)) else view state (index item) := by
  rw [foldl_view index act change (items.filter keep)
    (fun other present => acts other (List.mem_of_mem_filter present)), fibre_filter,
    fibre_of_mem index items distinct item member]
  cases kept : keep item <;> simp [kept]

theorem foldl_view_of_notMem (index : X → I) (act : X → S → S) (change : X → V → V) (items : List X)
    (acts : ∀ item ∈ items, ActsAt view (index item) (act item) (change item))
    (state : S) (target : I) (absent : ∀ item ∈ items, index item ≠ target) :
    view (items.foldl (fun current item => act item current) state) target = view state target := by
  rw [foldl_view index act change items acts, fibre_of_notMem index items target absent]
  rfl

/-- Local actions on different components commute. -/
theorem foldl_view_perm (index : X → I) (act : X → S → S) (change : X → V → V)
    (left right : List X) (perm : left.Perm right)
    (acts : ∀ item ∈ left, ActsAt view (index item) (act item) (change item))
    (distinct : (left.map index).Nodup) (state : S) (target : I) :
    view (left.foldl (fun current item => act item current) state) target =
      view (right.foldl (fun current item => act item current) state) target := by
  have moved : (right.map index).Nodup := (perm.map index).nodup_iff.mp distinct
  have same : fibre index left target = fibre index right target := by
    by_cases named : ∃ item ∈ left, index item = target
    · obtain ⟨item, member, rfl⟩ := named
      rw [fibre_of_mem index left distinct item member,
        fibre_of_mem index right moved item (perm.mem_iff.mp member)]
    · have absent : ∀ item ∈ left, index item ≠ target := by
        intro item member same
        exact named ⟨item, member, same⟩
      rw [fibre_of_notMem index left target absent, fibre_of_notMem index right target
        (fun item member => absent item (perm.mem_iff.mpr member))]
  rw [foldl_view index act change left acts, foldl_view index act change right
    (fun item member => acts item (perm.mem_iff.mpr member)), same]

end LocalAction
