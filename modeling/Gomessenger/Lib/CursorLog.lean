import Mathlib.Data.List.Basic
import Mathlib.Tactic.Common
import Mathlib.Tactic.Linarith

/-! Reading an ordered log through a transactional cursor.

A cursor knows the next offset to read, the offset its owner takes for
committed, and the offset the broker holds. A commit sends the position only
when it differs from the local committed offset. -/

namespace CursorLog

section Log

variable {R : Type} (offset : R → Int)

def Ascending (records : List R) : Prop :=
  records.Pairwise (fun left right => offset left < offset right)

def remaining (position : Int) (records : List R) : List R :=
  records.filter (fun record => decide (position ≤ offset record))

variable {offset}

variable {position : Int} {records : List R}

theorem mem_remaining {record : R} :
    record ∈ remaining offset position records ↔ record ∈ records ∧ position ≤ offset record := by
  simp [remaining]

theorem remaining_ascending (ascending : Ascending offset records) :
    Ascending offset (remaining offset position records) :=
  List.Pairwise.sublist List.filter_sublist ascending

theorem next_le {next record : R} (ascending : Ascending offset records)
    (first : (remaining offset position records).head? = some next) (member : record ∈ records)
    (ahead : position ≤ offset record) :
    offset next ≤ offset record := by
  have sorted : Ascending offset (remaining offset position records) :=
    remaining_ascending ascending
  have present := mem_remaining.mpr ⟨member, ahead⟩
  obtain ⟨rest, split⟩ := List.head?_eq_some_iff.mp first
  rw [split] at sorted present
  rcases List.mem_cons.mp present with rfl | later
  · exact Int.le_refl _
  · exact Int.le_of_lt (List.rel_of_pairwise_cons sorted later)

theorem next_mem {next : R} (first : (remaining offset position records).head? = some next) :
    next ∈ records ∧ position ≤ offset next :=
  mem_remaining.mp (List.mem_of_mem_head? first)

theorem eq_of_offset (ascending : Ascending offset records) {left right : R}
    (leftMember : left ∈ records) (rightMember : right ∈ records)
    (same : offset left = offset right) : left = right := by
  induction records with
  | nil => cases leftMember
  | cons head tail ih =>
    rcases List.mem_cons.mp leftMember with rfl | leftLater <;>
      rcases List.mem_cons.mp rightMember with rfl | rightLater
    · rfl
    · exact absurd same (Int.ne_of_lt (List.rel_of_pairwise_cons ascending rightLater))
    · exact absurd same.symm (Int.ne_of_lt (List.rel_of_pairwise_cons ascending leftLater))
    · exact ih (List.Pairwise.of_cons ascending) leftLater rightLater

/-- Every entry below the bound has the property. -/
def SettledBelow (offset : R → Int) (records : List R) (settled : R → Prop) (bound : Int) : Prop :=
  ∀ record ∈ records, offset record < bound → settled record

namespace SettledBelow

variable {records : List R} {settled other : R → Prop} {position : Int} {next : R}

theorem mono (below : SettledBelow offset records settled position)
    (weaker : ∀ record, settled record → other record) :
    SettledBelow offset records other position :=
  fun record member less => weaker record (below record member less)

theorem skip (ascending : Ascending offset records)
    (first : (remaining offset position records).head? = some next)
    (below : SettledBelow offset records settled position) :
    SettledBelow offset records settled (offset next) := by
  intro record member less
  apply below record member
  by_contra ahead
  have ordered := next_le ascending first member (Int.not_lt.mp ahead)
  exact absurd less (Int.not_lt.mpr ordered)

theorem advance (ascending : Ascending offset records)
    (first : (remaining offset position records).head? = some next)
    (below : SettledBelow offset records settled position) (done : settled next) :
    SettledBelow offset records settled (offset next + 1) := by
  intro record member less
  rcases Int.lt_or_eq_of_le (Int.lt_add_one_iff.mp less) with earlier | same
  · exact below.skip ascending first record member earlier
  · rw [eq_of_offset ascending member (next_mem first).1 same]
    exact done

end SettledBelow

end Log

structure Cursor (O : Type) where
  position : O
  committed : O
  broker : Option O
  deriving DecidableEq, Repr

namespace Cursor

variable {O : Type}

def move (target : O) (cursor : Cursor O) : Cursor O := { cursor with position := target }

/-- An explicit offset replaces the position and the local committed offset. -/
def seek (target : O) (cursor : Cursor O) : Cursor O :=
  { cursor with position := target, committed := target }

def abort (cursor : Cursor O) : Cursor O := { cursor with position := cursor.committed }

/-- A new owner starts at the broker's offset, or else at the given one. -/
def restart (start : O) (cursor : Cursor O) : Cursor O :=
  let offset := cursor.broker.getD start
  ⟨offset, offset, cursor.broker⟩

def uncommitted [DecidableEq O] (cursor : Cursor O) : Option O :=
  if cursor.position = cursor.committed then none else some cursor.position

def commit [DecidableEq O] (cursor : Cursor O) : Cursor O :=
  match cursor.uncommitted with
  | none => cursor
  | some offset => ⟨offset, offset, some offset⟩

/-- Nothing has been read since the local committed offset. -/
def Clean (cursor : Cursor O) : Prop := cursor.position = cursor.committed

variable (cursor : Cursor O) (target : O)

theorem clean_seek (cursor : Cursor O) : (cursor.seek target).Clean := rfl

theorem clean_restart (start : O) (cursor : Cursor O) : (cursor.restart start).Clean := rfl

@[simp] theorem abort_move (cursor : Cursor O) : (cursor.move target).abort = cursor.abort := rfl

theorem abort_of_clean (clean : cursor.Clean) : cursor.abort = cursor := by
  obtain ⟨position, committed, broker⟩ := cursor
  exact congrArg (fun offset => Cursor.mk offset committed broker) clean.symm

variable [DecidableEq O]

theorem commit_of_clean (clean : cursor.Clean) : cursor.commit = cursor := by
  have unsent : cursor.uncommitted = none := if_pos clean
  simp only [commit, unsent]

theorem commit_move (cursor : Cursor O) (moved : target ≠ cursor.committed) :
    (cursor.move target).commit = ⟨target, target, some target⟩ := by
  have sent : (cursor.move target).uncommitted = some target := if_neg moved
  simp only [commit, sent]

end Cursor

end CursorLog
