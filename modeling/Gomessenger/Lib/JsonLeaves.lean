import Gomessenger.Lib.JsonArray

/-! Properties of a text that only its strings and numbers decide. -/

namespace Json

open Utf8

inductive Leaf
  | number (number : Number)
  | string (body : List Piece)

def Lead.leaves {kind : Kind} : Lead kind → List Leaf
  | .item _ => []
  | .member _ key _ _ => [.string key]

mutual

def Value.leaves : Value → List Leaf
  | .number number => [.number number]
  | .string body => [.string body]
  | .node _ entries => entries.leaves
  | _ => []

def Entries.leaves {kind : Kind} : Entries kind → List Leaf
  | .last lead value _ => lead.leaves ++ value.leaves
  | .more lead value _ rest => lead.leaves ++ (value.leaves ++ rest.leaves)

end

/-- A property that passes over every mark of a text and asks something of each
string. -/
structure Tokenwise (property : Bytes → Prop) (asks : List Piece → Prop) : Prop where
  mark : ∀ byte rest, byte < 0x80 → byte ≠ 0x5c → (property (byte :: rest) ↔ property rest)
  quoted : ∀ body rest, property (bodyText body ++ 0x22 :: rest) ↔ asks body ∧ property rest

def Leaf.Meets (asks : List Piece → Prop) : Leaf → Prop
  | .number _ => True
  | .string body => asks body

theorem space_mark : ∀ byte, isSpace byte = true → byte < 0x80 ∧ byte ≠ 0x5c := by
  apply forall_byte
  decide +kernel

theorem numberByte_mark : ∀ byte, numberByte byte = true → byte < 0x80 ∧ byte ≠ 0x5c := by
  apply forall_byte
  decide +kernel

theorem Kind.marks (kind : Kind) :
    (kind.opening < 0x80 ∧ kind.opening ≠ 0x5c) ∧ kind.closing < 0x80 ∧ kind.closing ≠ 0x5c := by
  cases kind <;> decide

namespace Tokenwise

variable {property : Bytes → Prop} {asks : List Piece → Prop} (tokenwise : Tokenwise property asks)

include tokenwise

theorem marks {text : Bytes} (all : ∀ byte ∈ text, byte < 0x80 ∧ byte ≠ 0x5c) (rest : Bytes) :
    property (text ++ rest) ↔ property rest := by
  induction text with
  | nil => exact Iff.rfl
  | cons byte text ih =>
    obtain ⟨⟨ascii, other⟩, later⟩ := List.forall_mem_cons.mp all
    rw [List.cons_append, tokenwise.mark byte _ ascii other, ih later]

theorem gap (gap : Gap) (rest : Bytes) : property (gap.text ++ rest) ↔ property rest :=
  tokenwise.marks (fun byte member => space_mark byte (List.all_eq_true.mp gap.blank byte member))
    rest

theorem string (body : List Piece) (rest : Bytes) :
    property (0x22 :: (bodyText body ++ 0x22 :: rest)) ↔ asks body ∧ property rest := by
  rw [tokenwise.mark 0x22 _ (by decide) (by decide), tokenwise.quoted]

theorem lead {kind : Kind} (lead : Lead kind) (rest : Bytes) :
    property (lead.text ++ rest) ↔ (∀ leaf ∈ lead.leaves, leaf.Meets asks) ∧ property rest := by
  cases lead with
  | item before =>
    rw [Lead.text, tokenwise.gap]
    simp [Lead.leaves]
  | member before key beforeColon afterColon =>
    simp only [Lead.text, List.append_assoc, List.cons_append]
    rw [tokenwise.gap, tokenwise.string, tokenwise.gap,
      tokenwise.mark 0x3a _ (by decide) (by decide), tokenwise.gap]
    simp [Lead.leaves, Leaf.Meets]

mutual

theorem value : (value : Value) → ∀ rest,
    (property (value.text ++ rest) ↔ (∀ leaf ∈ value.leaves, leaf.Meets asks) ∧ property rest)
  | .literal literal, rest => by
      have plain : literal.text.all (fun byte => decide (byte < 0x80 ∧ byte ≠ 0x5c)) = true := by
        cases literal <;> decide
      have marks := fun byte member => of_decide_eq_true (List.all_eq_true.mp plain byte member)
      rw [Value.text, tokenwise.marks marks]
      simp [Value.leaves]
  | .number number, rest => by
      have all := number.valid
      rw [isNumber, Bool.and_eq_true] at all
      have marks : ∀ byte ∈ number.text, byte < 0x80 ∧ byte ≠ 0x5c :=
        fun byte member => numberByte_mark byte (List.all_eq_true.mp all.1 byte member)
      rw [Value.text, tokenwise.marks marks]
      simp [Value.leaves, Leaf.Meets]
  | .string body, rest => by
      rw [Value.text, List.cons_append, List.append_assoc]
      exact (tokenwise.string body rest).trans (by simp [Value.leaves, Leaf.Meets])
  | .empty kind gap, rest => by
      obtain ⟨⟨opens, notOpening⟩, closes, notClosing⟩ := kind.marks
      rw [Value.text, List.cons_append, List.append_assoc, tokenwise.mark _ _ opens notOpening,
        tokenwise.gap, List.cons_append, tokenwise.mark _ _ closes notClosing]
      simp [Value.leaves]
  | .node kind entries, rest => by
      obtain ⟨⟨opens, notOpening⟩, _⟩ := kind.marks
      rw [Value.text, List.cons_append, tokenwise.mark _ _ opens notOpening]
      exact entriesOf entries rest

theorem entriesOf {kind : Kind} : (entries : Entries kind) → ∀ rest,
    (property (entries.text ++ rest) ↔ (∀ leaf ∈ entries.leaves, leaf.Meets asks) ∧ property rest)
  | .last lead inner after, rest => by
      obtain ⟨_, closes, notClosing⟩ := kind.marks
      simp only [Entries.text, List.append_assoc, List.cons_append, List.nil_append]
      rw [tokenwise.lead, value inner, tokenwise.gap, tokenwise.mark _ _ closes notClosing,
        Entries.leaves, List.forall_mem_append, and_assoc]
  | .more lead inner after others, rest => by
      simp only [Entries.text, List.append_assoc, List.cons_append]
      rw [tokenwise.lead, value inner, tokenwise.gap, tokenwise.mark 0x2c _ (by decide) (by decide),
        entriesOf others, Entries.leaves, List.forall_mem_append,
        List.forall_mem_append, and_assoc, and_assoc]

end

theorem document (empty : property []) (before after : Gap) (inner : Value) :
    property (before.text ++ (inner.text ++ after.text)) ↔
      ∀ leaf ∈ inner.leaves, leaf.Meets asks := by
  have blank : property after.text ↔ property [] := by
    rw [← List.append_nil after.text, tokenwise.gap]
  rw [tokenwise.gap, value tokenwise inner, blank]
  exact and_iff_left empty

end Tokenwise

theorem tokenwise_valid : Tokenwise Valid (fun body => Valid (bodyText body)) where
  mark byte rest ascii _ := valid_cons ascii
  quoted body rest := valid_around (by decide)

/-- What is accepted is a value with blanks around it. -/
theorem parseDocument_sound {depth : Nat} {input : Bytes} {value : Value}
    (parsed : parseDocument depth input = some value) :
    ∃ before after : Gap, input = before.text ++ (value.text ++ after.text) := by
  simp only [parseDocument, Option.bind_eq_bind, Option.bind_eq_some_iff, Prod.exists] at parsed
  obtain ⟨found, rest, isFound, ends⟩ := parsed
  split at ends
  next blank =>
    rw [← Option.some.inj ends]
    refine ⟨(spaces input).1, ⟨rest, blank⟩, ?_⟩
    rw [← (parseValue_sound depth _ _ _ isFound).1, spaces_sound]
  · cases ends

def Lead.names {kind : Kind} : Lead kind → List Bytes
  | .item _ => []
  | .member _ key _ _ => [unquote key]

def Entries.names {kind : Kind} : Entries kind → List Bytes
  | .last lead _ _ => lead.names
  | .more lead _ _ rest => lead.names ++ rest.names

mutual

/-- No object in the value has two members of one name. -/
def Value.Distinct : Value → Prop
  | .node _ entries => entries.names.Nodup ∧ entries.Distinct
  | _ => True

def Entries.Distinct {kind : Kind} : Entries kind → Prop
  | .last _ value _ => value.Distinct
  | .more _ value _ rest => value.Distinct ∧ rest.Distinct

end

end Json
