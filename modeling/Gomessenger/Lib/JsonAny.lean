import Gomessenger.Lib.JsonArray
import Gomessenger.Lib.KeyedTable

/-! Decoded JSON values and their canonical text.

A number keeps its text and an object its members in the order of their names, so
decoding forgets blanks, the spelling of strings and the order of members. -/

namespace Json

open Utf8

/-- A Go `any` that a decoder with `UseNumber` fills. -/
inductive Any
  | null
  | bool (value : Bool)
  | number (number : Number)
  | string (text : Bytes)
  | array (items : List Any)
  | object (members : List (Bytes × Any))

mutual

def Value.decode : Value → Any
  | .literal .null => .null
  | .literal .true => .bool true
  | .literal .false => .bool false
  | .number number => .number number
  | .string body => .string (unquote body)
  | .empty .array _ => .array []
  | .empty .object _ => .object []
  | .node .array entries => .array (entries.decode.map Prod.snd)
  | .node .object entries =>
    .object (KeyedTable.ofAssignments (entries.decode.map
      (fun entry => (unquote entry.1.key, entry.2)))).rows

def Entries.decode {kind : Kind} : Entries kind → List (Lead kind × Any)
  | .last lead value _ => [(lead, value.decode)]
  | .more lead value _ rest => (lead, value.decode) :: rest.decode

end

mutual

def Any.spell : Any → Value
  | .null => .literal .null
  | .bool true => .literal .true
  | .bool false => .literal .false
  | .number number => .number number
  | .string text => .string (quote text)
  | .array items => array (spellItems items)
  | .object members => object (spellMembers members)

def spellItems : List Any → List Value
  | [] => []
  | item :: rest => item.spell :: spellItems rest

def spellMembers : List (Bytes × Any) → List (Bytes × Value)
  | [] => []
  | (name, value) :: rest => (name, value.spell) :: spellMembers rest

end

theorem spellItems_map (items : List Any) : spellItems items = items.map Any.spell := by
  induction items with
  | nil => rw [spellItems]; rfl
  | cons item rest ih => rw [spellItems, ih]; rfl

theorem spellMembers_map (members : List (Bytes × Any)) :
    spellMembers members = members.map (fun member => (member.1, member.2.spell)) := by
  induction members with
  | nil => rw [spellMembers]; rfl
  | cons member rest ih => rw [spellMembers, ih]; rfl

theorem Entries.decode_list {kind : Kind} :
    (entries : Entries kind) → entries.decode = entries.list.map
      (fun entry => (entry.1, entry.2.decode))
  | .more lead value _ rest => congrArg ((lead, value.decode) :: ·) rest.decode_list
  | .last _ _ _ => rfl

theorem Value.decode_members {value : Value} {members : List (List Piece × Value)}
    (found : value.members = some members) :
    value.decode = .object (KeyedTable.ofAssignments
      (members.map (fun member => (unquote member.1, member.2.decode)))).rows := by
  unfold Value.members at found
  split at found
  · rw [← Option.some.inj found]
    rfl
  next entries =>
    rw [← Option.some.inj found, Value.decode, entries.decode_list, List.map_map, List.map_map]
    rfl
  · cases found

theorem Value.decode_items {value : Value} {items : List Value} (found : value.items = some items) :
    value.decode = .array (items.map Value.decode) := by
  unfold Value.items at found
  split at found
  · rw [← Option.some.inj found]
    rfl
  next entries =>
    rw [← Option.some.inj found, Value.decode, entries.decode_list, List.map_map, List.map_map]
    rfl
  · cases found

def Any.Canonical (value : Any) : Prop := value.spell.decode = value

theorem canonical_string (body : List Piece) : (Any.string (unquote body)).Canonical := by
  show Any.string (unquote (quote (unquote body))) = .string (unquote body)
  rw [unquote_quote, (valid_unquote body).coerce_eq]

theorem canonical_array {items : List Any} (each : ∀ item ∈ items, item.Canonical) :
    (Any.array items).Canonical := by
  have decoded : (items.map Any.spell).map Value.decode = items := by
    rw [List.map_map]
    exact (List.map_congr_left each).trans (List.map_id items)
  show (array (spellItems items)).decode = .array items
  rw [Value.decode_items (array_items _), spellItems_map, decoded]

theorem canonical_object (table : KeyedTable Bytes Any)
    (each : ∀ row ∈ table.rows, Valid row.1 ∧ row.2.Canonical) :
    (Any.object table.rows).Canonical := by
  have decoded : ((table.rows.map (fun row => (row.1, row.2.spell))).map
    (fun field => (quote field.1, field.2))).map
      (fun member => (unquote member.1, member.2.decode)) = table.rows := by
    rw [List.map_map, List.map_map]
    refine (List.map_congr_left ?_).trans (List.map_id table.rows)
    intro row member
    obtain ⟨valid, canonical⟩ := each row member
    show (unquote (quote row.1), row.2.spell.decode) = row
    rw [unquote_quote, valid.coerce_eq, canonical]
  show (object (spellMembers table.rows)).decode = .object table.rows
  rw [Value.decode_members (object_members _), spellMembers_map, decoded,
    KeyedTable.ofAssignments_rows]

mutual

theorem Value.decode_canonical : (value : Value) → value.decode.Canonical
  | .literal .null => rfl
  | .literal .true => rfl
  | .literal .false => rfl
  | .number _ => rfl
  | .string body => canonical_string body
  | .empty .array _ => rfl
  | .empty .object _ => rfl
  | .node .array entries => by
      apply canonical_array
      intro item member
      obtain ⟨entry, inside, rfl⟩ := List.mem_map.mp member
      exact entries.decode_canonical entry inside
  | .node .object entries => by
      apply canonical_object
      intro row member
      obtain ⟨entry, inside, rfl⟩ := List.mem_map.mp (KeyedTable.ofAssignments_subset _ row member)
      exact ⟨valid_unquote entry.1.key, entries.decode_canonical entry inside⟩

theorem Entries.decode_canonical {kind : Kind} : (entries : Entries kind) →
    ∀ entry ∈ entries.decode, entry.2.Canonical
  | .last lead value _, entry, member => by
      rw [List.mem_singleton.mp member]
      exact value.decode_canonical
  | .more lead value _ rest, entry, member => by
      rcases List.mem_cons.mp member with rfl | later
      · exact value.decode_canonical
      · exact rest.decode_canonical entry later

end

/-- Two decoded values with one canonical text are the same. -/
theorem decode_eq_of_text {left right : Value}
    (same : left.decode.spell.text = right.decode.spell.text) : left.decode = right.decode := by
  have spelt : left.decode.spell = right.decode.spell :=
    text_unambiguous (same.trans (List.append_nil _).symm) rfl
  rw [← left.decode_canonical, spelt, right.decode_canonical]

end Json
