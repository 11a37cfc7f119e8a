import Gomessenger.Lib.Strings

/-! Texts that tell where they end: length-prefixed fields and counted sequences
of them. -/

namespace Netstring

open Scan Decimal

/-- Whatever follows them, texts that agree are of one value. -/
def SelfDelimiting {A : Type} (encode : A → Bytes) : Prop :=
  ∀ left right leftRest rightRest, encode left ++ leftRest = encode right ++ rightRest →
    left = right ∧ leftRest = rightRest

def colon : UInt8 := 0x3a

def length (count : Nat) : Bytes := Decimal.text count ++ [colon]

def field (bytes : Bytes) : Bytes := length bytes.length ++ bytes

def sequence {A : Type} (counter : Nat → Bytes) (encode : A → Bytes) (items : List A) : Bytes :=
  counter items.length ++ items.flatMap encode

theorem mark_delimits {group : UInt8 → Bool} {mark : UInt8} (outside : group mark = false)
    {left right leftRest rightRest : Bytes} (leftAll : left.all group = true)
    (rightAll : right.all group = true)
    (same : left ++ mark :: leftRest = right ++ mark :: rightRest) :
    left = right ∧ leftRest = rightRest := by
  have leftSplit := takeWhile_text leftAll (@notAt_cons _ mark leftRest outside)
  have rightSplit := takeWhile_text rightAll (@notAt_cons _ mark rightRest outside)
  rw [same] at leftSplit
  exact ⟨leftSplit.1.symm.trans rightSplit.1,
    List.tail_eq_of_cons_eq (leftSplit.2.symm.trans rightSplit.2)⟩

theorem text_injective {left right : Nat} (same : Decimal.text left = Decimal.text right) :
    left = right := by
  have spelt := congrArg value? same
  rw [value?_text, value?_text] at spelt
  exact Option.some.inj spelt

theorem length_delimits : SelfDelimiting length := by
  intro left right leftRest rightRest same
  simp only [length, List.append_assoc, List.singleton_append] at same
  have digits : ∀ count : Nat, (Decimal.text count).all isDigit = true :=
    fun count => List.all_eq_true.mpr (Strings.text_digits count)
  obtain ⟨texts, rests⟩ := mark_delimits (by decide) (digits left) (digits right) same
  exact ⟨text_injective texts, rests⟩

theorem field_delimits : SelfDelimiting field := by
  intro left right leftRest rightRest same
  simp only [field, List.append_assoc] at same
  obtain ⟨count, same⟩ := length_delimits _ _ _ _ same
  exact List.append_inj same count

section Compound

variable {A B : Type}

variable {encode : A → Bytes}

theorem SelfDelimiting.comp (delimits : SelfDelimiting encode) {name : B → A}
    (injective : ∀ {left right}, name left = name right → left = right) :
    SelfDelimiting (fun item => encode (name item)) := by
  intro left right leftRest rightRest same
  obtain ⟨names, rests⟩ := delimits _ _ _ _ same
  exact ⟨injective names, rests⟩

theorem flatMap_delimits (delimits : SelfDelimiting encode) {left right : List A}
    (count : left.length = right.length) {leftRest rightRest : Bytes}
    (same : left.flatMap encode ++ leftRest = right.flatMap encode ++ rightRest) :
    left = right ∧ leftRest = rightRest := by
  induction left generalizing right with
  | nil =>
    obtain rfl : right = [] := List.length_eq_zero_iff.mp count.symm
    exact ⟨rfl, same⟩
  | cons item left ih =>
    cases right with
    | nil => cases count
    | cons other right =>
      simp only [List.flatMap_cons, List.append_assoc] at same
      obtain ⟨rfl, later⟩ := delimits _ _ _ _ same
      obtain ⟨rfl, rests⟩ := ih (Nat.succ.inj count) later
      exact ⟨rfl, rests⟩

theorem SelfDelimiting.sequence {counter : Nat → Bytes} (counts : SelfDelimiting counter)
    (delimits : SelfDelimiting encode) : SelfDelimiting (sequence counter encode) := by
  intro left right leftRest rightRest same
  simp only [Netstring.sequence, List.append_assoc] at same
  obtain ⟨count, same⟩ := counts _ _ _ _ same
  exact flatMap_delimits delimits count same

end Compound

end Netstring
