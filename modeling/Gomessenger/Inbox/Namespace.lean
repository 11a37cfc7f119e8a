import Mathlib.Data.List.Nodup
import Gomessenger.Failure
import Gomessenger.Lib.Utf8

/-! The names of the Inbox tables and indexes under a table name's own beginning. -/

namespace Gomessenger.Inbox.Namespace

open Utf8

def maxTablePrefixBytes : Nat := 38

def smallLetter (byte : UInt8) : Bool := decide (0x61 ≤ byte) && decide (byte ≤ 0x7a)

def digit (byte : UInt8) : Bool := decide (0x30 ≤ byte) && decide (byte ≤ 0x39)

def firstByte (byte : UInt8) : Bool := byte == 0x5f || smallLetter byte

def laterByte (byte : UInt8) : Bool := byte == 0x5f || smallLetter byte || digit byte

/-- The quoted value is left out of the last message. -/
def validateIdentifier (role : String) (value : Bytes) (maximum : Nat)
    (allowEmpty : Bool) : Except GoError Unit :=
  match value with
  | [] => if allowEmpty then .ok () else .error (.text ("inbox: invalid " ++ role ++ ": empty"))
  | first :: rest =>
    if maximum < value.length then
      .error (.text ("inbox: invalid " ++ role ++ ": exceeds " ++ toString maximum ++ " bytes"))
    else if firstByte first = false ∨ rest.all laterByte = false
      then .error (.text ("inbox: invalid " ++ role))
    else .ok ()

structure Names where
  terminal : Bytes
  terminalHandoffIndex : Bytes
  inbox : Bytes
  attempts : Bytes
  attemptGenerations : Bytes
  completedAtIndex : Bytes

def resolve (opening : Bytes) : Except GoError Names :=
  match validateIdentifier "table prefix" opening maxTablePrefixBytes true with
  | .error err => .error err
  | .ok () =>
    .ok
      { terminal := opening ++ ofString "inbox_terminal"
        terminalHandoffIndex := opening ++ ofString "inbox_terminal_gc_idx"
        inbox := opening ++ ofString "inbox"
        attempts := opening ++ ofString "inbox_attempts"
        attemptGenerations := opening ++ ofString "inbox_attempt_generations"
        completedAtIndex := opening ++ ofString "inbox_completed_at_idx" }

def Names.all (names : Names) : List Bytes :=
  [names.terminal, names.terminalHandoffIndex, names.inbox, names.attempts,
    names.attemptGenerations,
    names.completedAtIndex]

def PlainIdentifier (name : Bytes) : Prop :=
  ∃ first rest, name = first :: rest ∧ firstByte first = true ∧ rest.all laterByte = true

def endings : List Bytes :=
  [ofString "inbox_terminal", ofString "inbox_terminal_gc_idx", ofString "inbox",
    ofString "inbox_attempts",
    ofString "inbox_attempt_generations", ofString "inbox_completed_at_idx"]

theorem endings_apart : ∀ left ∈ endings, ∀ right ∈ endings, left <:+ right → left = right := by
  decide +kernel

theorem endings_facts : endings.Nodup ∧ ∀ ending ∈ endings,
    ending.length ≤ 25 ∧ ending.all laterByte = true ∧
    ∃ first ∈ ending.head?, firstByte first = true := by
  decide +kernel

variable {opening : Bytes}

theorem resolve_ok {names : Names} (accepted : resolve opening = .ok names) :
    names.all = endings.map (opening ++ ·) ∧ opening.length ≤ maxTablePrefixBytes ∧
      (opening = [] ∨ PlainIdentifier opening) := by
  unfold resolve at accepted
  split at accepted
  · cases accepted
  next valid =>
    cases accepted
    refine ⟨rfl, ?_⟩
    cases opening with
    | nil => exact ⟨Nat.zero_le _, .inl rfl⟩
    | cons first rest =>
      simp only [validateIdentifier] at valid
      split_ifs at valid with long bad
      rw [not_or, Bool.not_eq_false, Bool.not_eq_false] at bad
      exact ⟨Nat.not_lt.mp long, .inr ⟨first, rest, rfl, bad.1, bad.2⟩⟩

theorem PlainIdentifier.append {ending : Bytes} (plain : PlainIdentifier opening)
    (later : ending.all laterByte = true) : PlainIdentifier (opening ++ ending) := by
  obtain ⟨first, rest, rfl, starts, continues⟩ := plain
  refine ⟨first, rest ++ ending, rfl, starts, ?_⟩
  rw [List.all_append, continues, later]
  rfl

theorem ending_plain {ending : Bytes} (member : ending ∈ endings)
    (plain : opening = [] ∨ PlainIdentifier opening) :
    PlainIdentifier (opening ++ ending) := by
  obtain ⟨_, later, first, isFirst, starts⟩ := endings_facts.2 ending member
  rcases plain with rfl | plain
  · cases ending with
    | nil => cases isFirst
    | cons head tail =>
      cases isFirst
      rw [List.all_cons, Bool.and_eq_true] at later
      exact ⟨_, tail, rfl, starts, later.2⟩
  · exact plain.append later

theorem opening_unique {left right leftEnding rightEnding : Bytes} (isLeft : leftEnding ∈ endings)
    (isRight : rightEnding ∈ endings) (same : left ++ leftEnding = right ++ rightEnding) :
    left = right := by
  have ends : leftEnding <:+ right ++ rightEnding := ⟨left, same⟩
  have equal : leftEnding = rightEnding := by
    rcases List.suffix_or_suffix_of_suffix ends (List.suffix_append right rightEnding)
      with inner | outer
    · exact endings_apart _ isLeft _ isRight inner
    · exact (endings_apart _ isRight _ isLeft outer).symm
  rw [equal] at same
  exact List.append_cancel_right same

theorem namespaces_never_overlap (left right : Bytes) (names others : Names)
    (accepted : resolve left = .ok names) (alsoAccepted : resolve right = .ok others) :
    (left ≠ right → ∀ name ∈ names.all, name ∉ others.all) ∧ names.all.Nodup ∧
      ∀ name ∈ names.all, name.length ≤ 63 ∧ PlainIdentifier name := by
  obtain ⟨spelt, short, plain⟩ := resolve_ok accepted
  obtain ⟨otherSpelt, _, _⟩ := resolve_ok alsoAccepted
  rw [spelt, otherSpelt]
  refine ⟨fun different name member found => ?_, ?_, fun name member => ?_⟩
  · obtain ⟨ending, isEnding, rfl⟩ := List.mem_map.mp member
    obtain ⟨other, isOther, same⟩ := List.mem_map.mp found
    exact different (opening_unique isEnding isOther same.symm)
  · exact List.Nodup.map (List.append_right_injective left) endings_facts.1
  · obtain ⟨ending, isEnding, rfl⟩ := List.mem_map.mp member
    have bounded := (endings_facts.2 ending isEnding).1
    rw [maxTablePrefixBytes] at short
    exact ⟨by rw [List.length_append]; omega, ending_plain isEnding plain⟩

theorem namespaces_never_overlap_sample : ∃ names others, resolve (ofString "inbox_") = .ok names ∧
    resolve [] = .ok others ∧ ∀ name ∈ names.all, name ∉ others.all :=
  ⟨_, _, rfl, rfl, (namespaces_never_overlap (ofString "inbox_") [] _ _ rfl rfl).1 (by decide)⟩

end Gomessenger.Inbox.Namespace
