import Mathlib.Algebra.Order.BigOperators.Group.List
import Mathlib.Algebra.Order.Group.Nat
import Mathlib.Tactic.Common
import Mathlib.Tactic.Linarith

/-! Threads that share a state.

A thread takes one atomic step at a time; the answer says which branch it takes
and what the code outside tells it. A step that is not enabled changes nothing,
so every list of moves is a run. -/

namespace ThreadPool

/-- The thread that a call starts, what one step of a thread does, and what the
world outside does to the shared state. -/
structure Machine (S T K A E : Type) where
  call : K → T
  advance : S → T → A → Option (S × T)
  happen : S → E → S

structure Pool (S T : Type) where
  shared : S
  threads : List T

inductive Move (K A E : Type)
  | call (kind : K)
  | act (index : Nat) (answer : A)
  | happen (event : E)

section Holdings

variable {S T : Type}

def total (cost : S → Nat) (held : T → Nat) (pool : Pool S T) : Nat :=
  cost pool.shared + (pool.threads.map held).sum

variable {threads : List T}

theorem sum_set (held : T → Nat) {index : Nat} {thread : T}
    (present : threads[index]? = some thread) (moved : T) :
    ((threads.set index moved).map held).sum + held thread =
      (threads.map held).sum + held moved := by
  induction threads generalizing index with
  | nil => cases present
  | cons first rest ih =>
    cases index with
    | zero =>
      obtain rfl := Option.some.inj present
      simp only [List.set_cons_zero, List.map_cons, List.sum_cons]
      omega
    | succ index =>
      have inner := ih present
      simp only [List.set_cons_succ, List.map_cons, List.sum_cons]
      omega

theorem le_sum (held : T → Nat) {index : Nat} {thread : T}
    (present : threads[index]? = some thread) : held thread ≤ (threads.map held).sum :=
  List.le_sum_of_mem (List.mem_map_of_mem (List.mem_of_getElem? present))

theorem sum_two (held : T → Nat) {first second : Nat} {left right : T}
    (isLeft : threads[first]? = some left) (isRight : threads[second]? = some right)
    (apart : first ≠ second) :
    held left + held right ≤ (threads.map held).sum := by
  induction threads generalizing first second with
  | nil => cases isLeft
  | cons thread rest ih =>
    simp only [List.map_cons, List.sum_cons]
    cases first with
    | zero =>
      cases second with
      | zero => exact absurd rfl apart
      | succ second =>
        obtain rfl := Option.some.inj isLeft
        have more := le_sum held (show rest[second]? = some right from isRight)
        omega
    | succ first =>
      cases second with
      | zero =>
        obtain rfl := Option.some.inj isRight
        have more := le_sum held (show rest[first]? = some left from isLeft)
        omega
      | succ second =>
        have inner := ih isLeft isRight (fun same => apart (congrArg Nat.succ same))
        omega

end Holdings

namespace Machine

variable {S T K A E : Type} (machine : Machine S T K A E)

def step (pool : Pool S T) : Move K A E → Pool S T
  | .call kind => { pool with threads := pool.threads ++ [machine.call kind] }
  | .act index answer =>
    match pool.threads[index]? with
    | none => pool
    | some thread =>
      match machine.advance pool.shared thread answer with
      | none => pool
      | some (shared, moved) => ⟨shared, pool.threads.set index moved⟩
  | .happen event => { pool with shared := machine.happen pool.shared event }

def run (pool : Pool S T) (moves : List (Move K A E)) : Pool S T := moves.foldl machine.step pool

theorem run_append (pool : Pool S T) (first second : List (Move K A E)) :
    machine.run pool (first ++ second) = machine.run (machine.run pool first) second :=
  List.foldl_append

/-- What a move can do: start a thread, advance one, or change the shared state
from outside. -/
theorem step_cases (pool : Pool S T) (move : Move K A E) : machine.step pool move = pool ∨
    (∃ kind, machine.step pool move = { pool with threads := pool.threads ++
      [machine.call kind] }) ∨
    (∃ (index : Nat) (thread : T) (answer : A) (shared : S) (moved : T),
      pool.threads[index]? = some thread ∧
        machine.advance pool.shared thread answer = some (shared, moved) ∧
      machine.step pool move = ⟨shared, pool.threads.set index moved⟩) ∨
    (∃ event,
        machine.step pool move = { pool with shared := machine.happen pool.shared event }) := by
  cases move with
  | call kind => exact .inr (.inl ⟨kind, rfl⟩)
  | happen event => exact .inr (.inr (.inr ⟨event, rfl⟩))
  | act index answer =>
    cases present : pool.threads[index]? with
    | none =>
      left
      simp only [step, present]
    | some thread =>
      cases advanced : machine.advance pool.shared thread answer with
      | none =>
        left
        simp only [step, present, advanced]
      | some result =>
        refine .inr (.inr (.inl ⟨index, thread, answer, result.1, result.2, present, advanced, ?_⟩))
        simp only [step, present, advanced]

variable {machine}

theorem total_step {cost : S → Nat} {held : T → Nat} (call : ∀ kind, held (machine.call kind) = 0)
    (pool : Pool S T) (move : Move K A E) :
    total cost held (machine.step pool move) = total cost held pool ∨
    (∃ thread ∈ pool.threads, ∃ answer next moved,
      machine.advance pool.shared thread answer = some (next, moved) ∧
      total cost held (machine.step pool move) + (cost pool.shared + held thread) =
        total cost held pool + (cost next + held moved)) ∨
    (∃ event, total cost held (machine.step pool move) + cost pool.shared =
      total cost held pool + cost (machine.happen pool.shared event)) := by
  rcases machine.step_cases pool move with same | ⟨kind, same⟩ |
    ⟨index, thread, answer, shared, moved, present, advanced, same⟩ | ⟨event, same⟩
  · exact .inl (by rw [same])
  · left
    simp [same, total, call kind]
  · refine .inr (.inl ⟨thread, List.mem_of_getElem? present, answer, shared, moved, advanced, ?_⟩)
    have moves := sum_set held present moved
    simp only [same, total]
    omega
  · refine .inr (.inr ⟨event, ?_⟩)
    simp only [same, total]
    omega

structure Holds (inv : S → Prop) (asserts : S → T → Prop) (pool : Pool S T) : Prop where
  shared : inv pool.shared
  threads : ∀ thread ∈ pool.threads, asserts pool.shared thread

variable (machine)

/-- An assertion about the shared state and one about each thread. At most one
thread holds something; no step of another thread that can be there beside it and
no outside event takes an assertion away. -/
structure Exclusive (held : T → Nat) (inv : S → Prop) (asserts : S → T → Prop) : Prop where
  call : ∀ {shared : S} (kind : K), inv shared → asserts shared (machine.call kind)
  advance : ∀ {shared : S} {thread : T} {answer : A} {next : S} {moved : T},
    inv shared → asserts shared thread → machine.advance shared thread answer = some (next, moved) →
    inv next ∧ asserts next moved ∧ ∀ other, held thread + held other ≤ 1 →
      asserts shared other → asserts next other
  happen : ∀ {shared : S} (event : E), inv shared → inv (machine.happen shared event) ∧
      ∀ other, asserts shared other → asserts (machine.happen shared event) other

structure Outline (inv : S → Prop) (asserts : S → T → Prop) : Prop where
  call : ∀ {shared : S} (kind : K), inv shared → asserts shared (machine.call kind)
  advance : ∀ {shared : S} {thread : T} {answer : A} {next : S} {moved : T},
    inv shared → asserts shared thread → machine.advance shared thread answer = some (next, moved) →
    inv next ∧ asserts next moved ∧ ∀ other, asserts shared other → asserts next other
  happen : ∀ {shared : S} (event : E), inv shared → inv (machine.happen shared event) ∧
      ∀ other, asserts shared other → asserts (machine.happen shared event) other

variable {machine}

namespace Exclusive

variable {held : T → Nat} {inv : S → Prop} {asserts : S → T → Prop}

theorem step (exclusive : machine.Exclusive held inv asserts) {pool : Pool S T}
    (holds : Holds inv asserts pool) (bounded : (pool.threads.map held).sum ≤ 1)
    (move : Move K A E) :
    Holds inv asserts (machine.step pool move) := by
  rcases machine.step_cases pool move with same | ⟨kind, same⟩ |
    ⟨index, thread, answer, shared, moved, present, advanced, same⟩ | ⟨event, same⟩
  · rw [same]
    exact holds
  · rw [same]
    refine ⟨holds.shared, ?_⟩
    intro thread member
    rcases List.mem_append.mp member with old | new
    · exact holds.threads thread old
    · rw [List.mem_singleton.mp new]
      exact exclusive.call kind holds.shared
  · rw [same]
    have isThread := List.mem_of_getElem? present
    obtain ⟨kept, own, others⟩ := exclusive.advance holds.shared
      (holds.threads thread isThread) advanced
    refine ⟨kept, ?_⟩
    intro other member
    obtain ⟨place, isPlace⟩ := List.mem_iff_getElem?.mp member
    by_cases atIndex : index = place
    · subst atIndex
      rw [List.getElem?_set_self (List.getElem?_eq_some_iff.mp present).1] at isPlace
      rw [← Option.some.inj isPlace]
      exact own
    · rw [List.getElem?_set_ne atIndex] at isPlace
      have two := sum_two held present isPlace atIndex
      exact others other (by omega) (holds.threads other (List.mem_of_getElem? isPlace))
  · rw [same]
    obtain ⟨kept, others⟩ := exclusive.happen event holds.shared
    exact ⟨kept, fun thread member => others thread (holds.threads thread member)⟩

/-- One token, in the shared state or with a thread, keeps the holders apart. -/
theorem run (exclusive : machine.Exclusive held inv asserts) (cost : S → Nat)
    (call : ∀ kind, held (machine.call kind) = 0)
    (advance : ∀ {shared thread answer next moved}, inv shared → asserts shared thread →
      machine.advance shared thread answer = some (next, moved) →
      cost next + held moved ≤ cost shared + held thread)
    (happen : ∀ shared event, cost (machine.happen shared event) ≤ cost shared)
    {pool : Pool S T} (holds : Holds inv asserts pool) (bounded : total cost held pool ≤ 1)
    (moves : List (Move K A E)) :
    Holds inv asserts (machine.run pool moves) ∧ total cost held (machine.run pool moves) ≤ 1 := by
  induction moves generalizing pool with
  | nil => exact ⟨holds, bounded⟩
  | cons move rest ih =>
    have few : (pool.threads.map held).sum ≤ 1 := Nat.le_trans (Nat.le_add_left _ _) bounded
    refine ih (exclusive.step holds few move) ?_
    rcases total_step call pool move with same | ⟨thread, member, _, _, _,
      advanced, same⟩ | ⟨event, same⟩
    · exact Nat.le_trans (Nat.le_of_eq same) bounded
    · have paid := advance holds.shared (holds.threads thread member) advanced
      omega
    · have paid := happen pool.shared event
      omega

end Exclusive

section Rules

variable {inv : S → Prop} {asserts : S → T → Prop}

variable {pool : Pool S T}

theorem Outline.run (outline : machine.Outline inv asserts) (holds : Holds inv asserts pool)
    (moves : List (Move K A E)) : Holds inv asserts (machine.run pool moves) := by
  have exclusive : machine.Exclusive (fun _ => 0) inv asserts := by
    refine ⟨outline.call, ?_, outline.happen⟩
    intro shared thread answer next moved kept own advanced
    obtain ⟨keptNext, ownNext, others⟩ := outline.advance kept own advanced
    exact ⟨keptNext, ownNext, fun other _ held => others other held⟩
  refine (exclusive.run (fun _ => 0) (fun _ => rfl) (fun _ _ _ => Nat.le_refl 0)
    (fun _ _ => Nat.le_refl 0)
    holds ?_ moves).1
  rw [total, List.map_const', List.sum_replicate]
  exact Nat.zero_le 1

/-- What every step does to the shared state, a whole run does. -/
theorem related {relation : S → S → Prop} (refl : ∀ shared, relation shared shared)
    (trans : ∀ {first second third}, relation first second →
      relation second third → relation first third)
    (advance : ∀ {shared thread answer next moved}, inv shared → asserts shared thread →
      machine.advance shared thread answer = some (next, moved) → relation shared next)
    (happen : ∀ shared event, inv shared → relation shared (machine.happen shared event))
    (always : ∀ moves, Holds inv asserts (machine.run pool moves))
    (moves : List (Move K A E)) : relation pool.shared (machine.run pool moves).shared := by
  induction moves generalizing pool with
  | nil => exact refl _
  | cons move rest ih =>
    refine trans ?_ (ih (fun more => always (move :: more)))
    have holds : Holds inv asserts pool := always []
    rcases machine.step_cases pool move with same | ⟨kind, same⟩ |
      ⟨index, thread, answer, shared, moved, present, advanced, same⟩ | ⟨event, same⟩
    · rw [same]
      exact refl _
    · rw [same]
      exact refl _
    · rw [same]
      exact advance holds.shared (holds.threads thread (List.mem_of_getElem? present)) advanced
    · rw [same]
      exact happen pool.shared event holds.shared

/-- A budget that no step exceeds is never exceeded. -/
theorem total_le (cost : S → Nat) (held : T → Nat) (call : ∀ kind, held (machine.call kind) = 0)
    (advance : ∀ {shared thread answer next moved}, inv shared → asserts shared thread →
      machine.advance shared thread answer = some (next, moved) →
      cost next + held moved ≤ cost shared + held thread)
    (happen : ∀ shared event, cost (machine.happen shared event) ≤ cost shared)
    (always : ∀ moves, Holds inv asserts (machine.run pool moves))
    (moves : List (Move K A E)) : total cost held (machine.run pool moves) ≤
      total cost held pool := by
  induction moves generalizing pool with
  | nil => exact Nat.le_refl _
  | cons move rest ih =>
    refine Nat.le_trans (ih (fun more => always (move :: more))) ?_
    have holds : Holds inv asserts pool := always []
    rcases total_step call pool move with same | ⟨thread, member, _, _, _,
      advanced, same⟩ | ⟨event, same⟩
    · exact Nat.le_of_eq same
    · have paid := advance holds.shared (holds.threads thread member) advanced
      omega
    · have paid := happen pool.shared event
      omega

theorem total_eq (cost : S → Nat) (held : T → Nat) (call : ∀ kind, held (machine.call kind) = 0)
    (advance : ∀ {shared thread answer next moved}, inv shared → asserts shared thread →
      machine.advance shared thread answer = some (next, moved) →
      cost next + held moved = cost shared + held thread)
    (happen : ∀ shared event, cost (machine.happen shared event) = cost shared)
    (always : ∀ moves, Holds inv asserts (machine.run pool moves))
    (moves : List (Move K A E)) : total cost held (machine.run pool moves) =
      total cost held pool := by
  induction moves generalizing pool with
  | nil => rfl
  | cons move rest ih =>
    refine (ih (fun more => always (move :: more))).trans ?_
    have holds : Holds inv asserts pool := always []
    rcases total_step call pool move with same | ⟨thread, member, _, _, _,
      advanced, same⟩ | ⟨event, same⟩
    · exact same
    · have paid := advance holds.shared (holds.threads thread member) advanced
      omega
    · have paid := happen pool.shared event
      omega

end Rules

end Machine

end ThreadPool
