import Gomessenger.Lib.JsonFields
import Gomessenger.Lib.Runes

/-! Values that are compact as they are written, arrays of texts, and booleans. -/

namespace Json

open Utf8

def itemEntries (value : Value) : List Value → Entries .array
  | [] => .last (.item .none) value .none
  | next :: rest => .more (.item .none) value .none (itemEntries next rest)

def array : List Value → Value
  | [] => .empty .array .none
  | first :: rest => .node .array (itemEntries first rest)

def Value.items : Value → Option (List Value)
  | .empty .array _ => some []
  | .node .array entries => some (entries.list.map Prod.snd)
  | _ => none

theorem itemEntries_list (value : Value) (rest : List Value) :
    (itemEntries value rest).list.map Prod.snd = value :: rest := by
  induction rest generalizing value with
  | nil => rfl
  | cons next rest ih => exact congrArg (value :: ·) (ih next)

@[simp] theorem array_items (items : List Value) : (array items).items = some items := by
  cases items with
  | nil => rfl
  | cons first rest => exact congrArg some (itemEntries_list first rest)

/-- A Go slice with what its array still holds after the last element. -/
structure Slice (A : Type) where
  elements : List A
  spare : List A

def Slice.none {A : Type} : Slice A := ⟨[], []⟩

/-- Each item is decoded onto the element that stands in its place. -/
def decodeElements {A : Type} (decode : Value → A → Option A) (zero : A) :
    List Value → List A → Option (List A × List A)
  | [], spare => some ([], spare)
  | item :: items, elements => do
      let element ← decode item (elements.head?.getD zero)
      let (others, spare) ← decodeElements decode zero items elements.tail
      return (element :: others, spare)

/-- The array of a slice is reused, unless nothing is put into it. -/
def decodeItems {A : Type} (decode : Value → A → Option A) (zero : A)
    (items : List Value) (current : Slice A) :
    Option (Slice A) :=
  if items.isEmpty then some .none
  else (decodeElements decode zero items (current.elements ++ current.spare)).map
    (fun found => ⟨found.1, found.2⟩)

def decodeSlice {A : Type} (decode : Value → A → Option A) (zero : A) :
    Value → Slice A → Option (Slice A)
  | .literal .null, _ => some .none
  | value, current => do decodeItems decode zero (← value.items) current

end Json
