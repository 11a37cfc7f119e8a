import Gomessenger.Lib.JsonText

/-! Compact texts, the tokens two spellings share, and objects built from fields. -/

namespace Json

open Scan

def Lead.compact {kind : Kind} : Lead kind → Lead kind
  | .item _ => .item .none
  | .member _ key _ _ => .member .none (escapeHTML key) .none .none

mutual

/-- The value without its blanks, and with the HTML characters of its strings
escaped. -/
def Value.compact : Value → Value
  | .literal literal => .literal literal
  | .number number => .number number
  | .string body => .string (escapeHTML body)
  | .empty kind _ => .empty kind .none
  | .node kind entries => .node kind entries.compact

def Entries.compact {kind : Kind} : Entries kind → Entries kind
  | .last lead value _ => .last lead.compact value.compact .none
  | .more lead value _ rest => .more lead.compact value.compact .none rest.compact

end

theorem Lead.compact_compact {kind : Kind} (lead : Lead kind) :
    lead.compact.compact = lead.compact := by
  cases lead with
  | item before => rfl
  | member before key beforeColon afterColon => simp [Lead.compact, escapeHTML_escapeHTML]

mutual

theorem Value.compact_compact : (value : Value) → value.compact.compact = value.compact
  | .literal _ => rfl
  | .number _ => rfl
  | .string body => congrArg Value.string (escapeHTML_escapeHTML body)
  | .empty _ _ => rfl
  | .node kind entries => congrArg (Value.node kind) entries.compact_compact

theorem Entries.compact_compact {kind : Kind} : (entries : Entries kind) →
    entries.compact.compact = entries.compact
  | .last lead value _ => by
      simp only [Entries.compact, lead.compact_compact, value.compact_compact]
  | .more lead value _ rest => by
      simp only [Entries.compact, lead.compact_compact, value.compact_compact, rest.compact_compact]

end

mutual

theorem Value.depth_compact : (value : Value) → value.compact.depth = value.depth
  | .literal _ => rfl
  | .number _ => rfl
  | .string _ => rfl
  | .empty _ _ => rfl
  | .node _ entries => congrArg (· + 1) entries.depth_compact

theorem Entries.depth_compact {kind : Kind} : (entries : Entries kind) →
    entries.compact.depth = entries.depth
  | .last _ value _ => value.depth_compact
  | .more _ value _ rest => by
      simp only [Entries.compact, Entries.depth, value.depth_compact, rest.depth_compact]

end

/-- The tokens of a text: its blanks are gone and its escapes are resolved. -/
inductive Token
  | mark (byte : UInt8)
  | literal (literal : Literal)
  | number (number : Number)
  | string (symbols : List Symbol)
  deriving DecidableEq

def Lead.tokens {kind : Kind} : Lead kind → List Token
  | .item _ => []
  | .member _ key _ _ => [.string (bodySymbols key), .mark 0x3a]

mutual

def Value.tokens : Value → List Token
  | .literal literal => [.literal literal]
  | .number number => [.number number]
  | .string body => [.string (bodySymbols body)]
  | .empty kind _ => [.mark kind.opening, .mark kind.closing]
  | .node kind entries => .mark kind.opening :: entries.tokens

def Entries.tokens {kind : Kind} : Entries kind → List Token
  | .last lead value _ => lead.tokens ++ (value.tokens ++ [.mark kind.closing])
  | .more lead value _ rest => lead.tokens ++ (value.tokens ++ .mark 0x2c :: rest.tokens)

end

theorem Lead.tokens_compact {kind : Kind} (lead : Lead kind) :
    lead.compact.tokens = lead.tokens := by
  cases lead with
  | item before => rfl
  | member before key beforeColon afterColon => simp [Lead.compact, Lead.tokens, escapeHTML_symbols]

mutual

theorem Value.tokens_compact : (value : Value) → value.compact.tokens = value.tokens
  | .literal _ => rfl
  | .number _ => rfl
  | .string body => by simp only [Value.compact, Value.tokens, escapeHTML_symbols]
  | .empty _ _ => rfl
  | .node kind entries => congrArg (Token.mark kind.opening :: ·) entries.tokens_compact

theorem Entries.tokens_compact {kind : Kind} : (entries : Entries kind) →
    entries.compact.tokens = entries.tokens
  | .last lead value _ => by
      simp only [Entries.compact, Entries.tokens, lead.tokens_compact, value.tokens_compact]
  | .more lead value _ rest => by
      simp only [Entries.compact, Entries.tokens, lead.tokens_compact,
        value.tokens_compact, rest.tokens_compact]

end

theorem blank_notNumber {rest : Bytes} (blank : rest.all isSpace = true) :
    NotAt numberByte rest := by
  cases rest with
  | nil => intro byte member; cases member
  | cons byte rest =>
    refine notAt_cons ?_
    simp only [List.all_cons, Bool.and_eq_true] at blank
    cases isNumber : numberByte byte with
    | false => rfl
    | true => exact absurd blank.1 (by simp [(numberByte_other byte isNumber).1])

/-- No other value has the text of this one, with or without blanks after it. -/
theorem text_unambiguous {value other : Value} {rest : Bytes}
    (same : value.text = other.text ++ rest) (blank : rest.all isSpace = true) : value = other := by
  have left := parseValue_text (max value.depth other.depth) value []
    (le_max_left ..) (blank_notNumber rfl)
  have right := parseValue_text (max value.depth other.depth) other rest
    (le_max_right ..) (blank_notNumber blank)
  rw [List.append_nil, same, right] at left
  exact (Prod.mk.inj (Option.some.inj left)).1.symm

section Object

def Lead.key : Lead .object → List Piece
  | .member _ key _ _ => key

def Entries.list {kind : Kind} : Entries kind → List (Lead kind × Value)
  | .last lead value _ => [(lead, value)]
  | .more lead value _ rest => (lead, value) :: rest.list

def Value.members : Value → Option (List (List Piece × Value))
  | .empty .object _ => some []
  | .node .object entries => some (entries.list.map (fun entry => (entry.1.key, entry.2)))
  | _ => none

theorem Entries.list_depth {kind : Kind} {depth : Nat} :
    (entries : Entries kind) → entries.depth ≤ depth → ∀ entry ∈ entries.list, entry.2.depth ≤ depth
  | .last lead value after, shallow, entry, member => by
      rw [List.mem_singleton.mp member]
      exact shallow
  | .more lead value after rest, shallow, entry, member => by
      obtain ⟨first, others⟩ := Nat.max_le.mp shallow
      rcases List.mem_cons.mp member with rfl | later
      · exact first
      · exact rest.list_depth others entry later

theorem Value.members_depth {value : Value} {members : List (List Piece × Value)} {depth : Nat}
    (found : value.members = some members) (shallow : value.depth ≤ depth + 1) :
    ∀ member ∈ members, member.2.depth ≤ depth := by
  unfold Value.members at found
  split at found
  · rw [← Option.some.inj found]
    simp
  next entries =>
    rw [← Option.some.inj found]
    intro member inside
    obtain ⟨entry, inList, rfl⟩ := List.mem_map.mp inside
    exact entries.list_depth (Nat.le_of_succ_le_succ shallow) entry inList
  · cases found

def fieldLead (name : Bytes) : Lead .object := .member .none (quote name) .none .none

def fieldEntries (name : Bytes) (value : Value) : List (Bytes × Value) → Entries .object
  | [] => .last (fieldLead name) value .none
  | next :: rest => .more (fieldLead name) value .none (fieldEntries next.1 next.2 rest)

def object : List (Bytes × Value) → Value
  | [] => .empty .object .none
  | first :: rest => .node .object (fieldEntries first.1 first.2 rest)

variable (fields : List (Bytes × Value)) (name : Bytes) (value : Value)
    (rest : List (Bytes × Value)) (depth : Nat)

theorem fieldEntries_list : (fieldEntries name value rest).list.map
    (fun entry => (entry.1.key, entry.2)) =
      ((name, value) :: rest).map (fun field => (quote field.1, field.2)) := by
  induction rest generalizing name value with
  | nil => rfl
  | cons next rest ih =>
    exact congrArg ((quote name, value) :: ·) (ih next.1 next.2)

@[simp] theorem object_members :
    (object fields).members = some (fields.map (fun field => (quote field.1, field.2))) := by
  cases fields with
  | nil => rfl
  | cons first rest => exact congrArg some (fieldEntries_list first.1 first.2 rest)

theorem fieldEntries_depth (name : Bytes) (value : Value) (rest : List (Bytes × Value)) :
    (fieldEntries name value rest).depth ≤ depth ↔ ∀ field ∈ (name, value) :: rest,
      field.2.depth ≤ depth := by
  induction rest generalizing name value with
  | nil => simp [fieldEntries, Entries.depth]
  | cons next rest ih =>
    simp [fieldEntries, Entries.depth, ih]

theorem object_depth (fields : List (Bytes × Value)) :
    (object fields).depth ≤ depth + 1 ↔ ∀ field ∈ fields, field.2.depth ≤ depth := by
  cases fields with
  | nil => simp [object, Value.depth]
  | cons first rest =>
    simp [object, Value.depth, fieldEntries_depth]

def fieldsLength (fields : List (Bytes × Value)) : Nat :=
  (fields.map (fun field => (bodyText (quote field.1)).length + field.2.text.length + 4)).sum

theorem fieldEntries_length : (fieldEntries name value rest).text.length =
    fieldsLength ((name, value) :: rest) := by
  induction rest generalizing name value with
  | nil =>
    simp only [fieldEntries, Entries.text, fieldLead, Lead.text, Gap.none, fieldsLength,
      List.length_append, List.length_cons, List.length_nil, List.map_cons, List.map_nil,
      List.sum_cons, List.sum_nil]
    omega
  | cons next rest ih =>
    have step := ih next.1 next.2
    simp only [fieldEntries, Entries.text, fieldLead, Lead.text, Gap.none, fieldsLength,
      List.length_append, List.length_cons, List.length_nil, List.map_cons, List.sum_cons] at step ⊢
    omega

theorem object_length : (object fields).text.length ≤ fieldsLength fields + 2 := by
  cases fields with
  | nil => simp [object, Value.text, Gap.none]
  | cons first rest =>
    simp only [object, Value.text, List.length_cons, fieldEntries_length, Prod.eta]
    omega

end Object

end Json
