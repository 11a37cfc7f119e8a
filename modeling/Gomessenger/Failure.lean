import Mathlib.Data.List.ReduceOption
import Mathlib.Tactic.Common
import Mathlib.Tactic.Linarith

/-! Error values and the failure markers of the root package.

`GoError` is the tree that `errors.Is` and `errors.As` walk: a node with one
`%w` is `wrap`, a node with two (or `errors.Join`) is `join`, and both
traversals visit the node first and then its causes from left to right. A nil
error is `none`. -/

namespace Gomessenger

abbrev Duration := Int

/-- The package-level error values that are compared with `errors.Is`. -/
inductive Sentinel
  | fingerprintConflict
  | invalidKey
  | attemptsExhausted
  | attemptTerminal
  | attemptConflict
  | terminalStateMissing
  | invalidBatchResult
  | invalidMessage
  | contextCanceled
  | runtimeRunning
  | runtimeClosed
  | runtimeNotRunning
  | transportClosed
  | invalidConfig
  deriving DecidableEq, Repr

inductive GoError
  | sentinel (value : Sentinel)
  | text (message : String)
  | permanent (cause : GoError)
  | retryAfter (cause : GoError) (delay : Duration)
  | deferAfter (cause : GoError) (delay : Duration)
  | wrap (message : String) (cause : GoError)
  | join (message : String) (first second : GoError)
  deriving DecidableEq, Repr

namespace GoError

def is (target : Sentinel) : GoError → Bool
  | .sentinel value => decide (value = target)
  | .text _ => false
  | .permanent cause => cause.is target
  | .retryAfter cause _ => cause.is target
  | .deferAfter cause _ => cause.is target
  | .wrap _ cause => cause.is target
  | .join _ first second => first.is target || second.is target

def isPermanent : GoError → Bool
  | .sentinel _ => false
  | .text _ => false
  | .permanent _ => true
  | .retryAfter cause _ => cause.isPermanent
  | .deferAfter cause _ => cause.isPermanent
  | .wrap _ cause => cause.isPermanent
  | .join _ first second => first.isPermanent || second.isPermanent

def retryDelay : GoError → Option Duration
  | .sentinel _ => none
  | .text _ => none
  | .permanent cause => cause.retryDelay
  | .retryAfter _ delay => some delay
  | .deferAfter cause _ => cause.retryDelay
  | .wrap _ cause => cause.retryDelay
  | .join _ first second => first.retryDelay <|> second.retryDelay

def deferDelay : GoError → Option Duration
  | .sentinel _ => none
  | .text _ => none
  | .permanent cause => cause.deferDelay
  | .retryAfter cause _ => cause.deferDelay
  | .deferAfter _ delay => some delay
  | .wrap _ cause => cause.deferDelay
  | .join _ first second => first.deferDelay <|> second.deferDelay

def contains : GoError → GoError → Bool
  | .sentinel value, target => decide (.sentinel value = target)
  | .text message, target => decide (.text message = target)
  | .permanent cause, target => decide (.permanent cause = target) || cause.contains target
  | .retryAfter cause delay, target =>
    decide (.retryAfter cause delay = target) || cause.contains target
  | .deferAfter cause delay, target =>
    decide (.deferAfter cause delay = target) || cause.contains target
  | .wrap message cause, target => decide (.wrap message cause = target) || cause.contains target
  | .join message first second, target =>
    decide (.join message first second = target) || first.contains target || second.contains target

theorem contains_self (err : GoError) : err.contains err = true := by
  cases err <;> simp [contains]

end GoError

def joinNodes : GoError → List GoError → GoError
  | err, [] => err
  | err, next :: rest => .join "" err (joinNodes next rest)

def joinErrors (errs : List (Option GoError)) : Option GoError :=
  match errs.reduceOption with
  | [] => none
  | [err] => some (.wrap "" err)
  | err :: rest => some (joinNodes err rest)

def ErrorIs (err : Option GoError) (target : GoError) : Prop :=
  ∃ value, err = some value ∧ value.contains target = true

theorem joinNodes_contains {err : GoError} {rest : List GoError} {value target : GoError}
    (member : value ∈ err :: rest) (contained : value.contains target = true) :
    (joinNodes err rest).contains target = true := by
  induction rest generalizing err with
  | nil =>
    rw [List.mem_singleton] at member
    rw [joinNodes, ← member]
    exact contained
  | cons next rest ih =>
    rw [joinNodes, GoError.contains]
    rcases List.mem_cons.mp member with rfl | inRest
    · simp [contained]
    · simp [ih inRest]

variable {errs : List (Option GoError)}

theorem joinErrors_is {err : Option GoError} {target : GoError}
    (member : err ∈ errs) (contained : ErrorIs err target) : ErrorIs (joinErrors errs) target := by
  obtain ⟨value, rfl, contains⟩ := contained
  have present : value ∈ errs.reduceOption := List.reduceOption_mem_iff.mpr member
  unfold joinErrors
  split
  next empty =>
    rw [empty] at present
    exact absurd present List.not_mem_nil
  next only single =>
    rw [single, List.mem_singleton] at present
    refine ⟨_, rfl, ?_⟩
    rw [GoError.contains, ← present, contains, Bool.or_true]
  next first rest _ several =>
    rw [several] at present
    exact ⟨_, rfl, joinNodes_contains present contains⟩

theorem joinErrors_isSome {value : GoError} (member : some value ∈ errs) :
    (joinErrors errs).isSome = true := by
  obtain ⟨_, joined, _⟩ := joinErrors_is member ⟨value, rfl, value.contains_self⟩
  rw [joined]
  rfl

inductive FailureClass
  | success
  | permanent
  | deferred
  | retryAfter
  | ordinary
  deriving DecidableEq, Repr

def classify : Option GoError → FailureClass × Duration
  | none => (.success, 0)
  | some err =>
    if err.isPermanent then (.permanent, 0)
    else match err.deferDelay with
      | some delay => (.deferred, delay)
      | none => match err.retryDelay with
        | some delay => (.retryAfter, delay)
        | none => (.ordinary, 0)

def isFailClosed (err : GoError) : Bool := err.is .invalidBatchResult || err.isPermanent

def isDeferral : Option GoError → Bool
  | none => false
  | some err => err.deferDelay.isSome && !err.isPermanent

@[simp] theorem classify_none : (classify none).1 = .success := rfl

variable (outcome : Option GoError)

theorem classify_deferred : (classify outcome).1 = .deferred ↔ isDeferral outcome = true := by
  cases outcome with
  | none => simp [classify, isDeferral]
  | some err =>
    cases permanent : err.isPermanent <;> cases delay : err.deferDelay <;>
      cases retry : err.retryDelay <;> simp [classify, isDeferral, permanent, delay, retry]

theorem classify_success : (classify outcome).1 = .success ↔ outcome = none := by
  cases outcome with
  | none => simp
  | some err =>
    cases permanent : err.isPermanent <;> cases delay : err.deferDelay <;>
      cases retry : err.retryDelay <;> simp [classify, permanent, delay, retry]

end Gomessenger
