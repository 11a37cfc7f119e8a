import Gomessenger.Lib.Utf8

/-! Names whose segments are joined by dots. -/

namespace Dotted

def dot : UInt8 := 0x2e

def segments (name : Bytes) : List Bytes := name.splitOn dot

def join (segments : List Bytes) : Bytes := [dot].intercalate segments

theorem segments_append (left right : Bytes) :
    segments (left ++ dot :: right) = segments left ++ segments right :=
  List.splitOn_append_cons_self ..

theorem segments_ne_nil (name : Bytes) : segments name ≠ [] := List.splitOn_ne_nil dot name

theorem segments_plain {name : Bytes} (plain : dot ∉ name) : segments name = [name] :=
  List.splitOn_eq_singleton plain

theorem join_segments (name : Bytes) : join (segments name) = name := List.intercalate_splitOn dot

theorem segments_injective {left right : Bytes} (same : segments left = segments right) :
    left = right :=
  calc
    left = join (segments left) := (join_segments left).symm
    _ = join (segments right) := congrArg join same
    _ = right := join_segments right

theorem segments_join {parts : List Bytes} (plain : ∀ part ∈ parts,
    dot ∉ part) (filled : parts ≠ []) :
    segments (join parts) = parts :=
  List.splitOn_intercalate dot plain filled

theorem marked_injective (marked : Bytes → Prop) {before after others rest : List Bytes}
    {left right : Bytes} (plain : ∀ part ∈ before, ¬ marked part) (isLeft : marked left)
    (unmarked : ∀ part ∈ others, ¬ marked part) (isRight : marked right)
    (same : before ++ left :: after = others ++ right :: rest) :
    before = others ∧ left = right ∧ after = rest := by
  induction before generalizing others with
  | nil =>
    cases others with
    | nil => exact ⟨rfl, (List.cons.inj same).1, (List.cons.inj same).2⟩
    | cons first others =>
      exact absurd ((List.cons.inj same).1 ▸ isLeft) (unmarked first (.head _))
  | cons part before ih =>
    cases others with
    | nil => exact absurd ((List.cons.inj same).1 ▸ isRight) (plain part (.head _))
    | cons first others =>
      obtain ⟨isFirst, same⟩ := List.cons.inj same
      obtain ⟨isBefore, rest⟩ := ih (fun part inside => plain part (.tail _ inside))
        (fun part inside => unmarked part (.tail _ inside)) same
      exact ⟨by rw [isFirst, isBefore], rest⟩

end Dotted
