import Gomessenger.Lib.Decimal
import Gomessenger.Lib.JsonString
import Mathlib.Data.List.TakeWhile

/-! JSON texts and their parser.

A value is kept as it is spelt, with the blanks between its tokens, so `text` is
the exact text it was parsed from. The parser refuses values nested deeper than
its first argument. -/

namespace Json

open Decimal Scan

def isSpace (byte : UInt8) : Bool := byte == 0x20 || byte == 0x09 || byte == 0x0a || byte == 0x0d

structure Gap where
  text : Bytes
  blank : text.all isSpace = true
  deriving DecidableEq

def Gap.none : Gap := ⟨[], rfl⟩

def numberByte (byte : UInt8) : Bool :=
  isDigit byte || byte == 0x2d || byte == 0x2b || byte == 0x2e || byte == 0x65 || byte == 0x45

def afterDigits : Bytes → Option Bytes
  | [] => none
  | byte :: rest => if isDigit byte then some (rest.dropWhile isDigit) else none

def afterInteger : Bytes → Option Bytes
  | [] => none
  | byte :: rest => if byte = 0x30 then some rest else afterDigits (byte :: rest)

def afterFraction : Bytes → Option Bytes
  | [] => some []
  | byte :: rest => if byte = 0x2e then afterDigits rest else some (byte :: rest)

def dropSign (plus : Bool) : Bytes → Bytes
  | [] => []
  | byte :: rest => if byte = 0x2d ∨ plus = true ∧ byte = 0x2b then rest else byte :: rest

def afterExponent : Bytes → Option Bytes
  | [] => some []
  | byte :: rest =>
    if byte = 0x65 ∨ byte = 0x45 then afterDigits (dropSign true rest) else some (byte :: rest)

def isNumber (text : Bytes) : Bool :=
  text.all numberByte &&
    (((afterInteger (dropSign false text)).bind afterFraction).bind afterExponent == some [])

structure Number where
  text : Bytes
  valid : isNumber text = true
  deriving DecidableEq

inductive Literal
  | null
  | true
  | false
  deriving DecidableEq

def Literal.text : Literal → Bytes
  | .null => [0x6e, 0x75, 0x6c, 0x6c]
  | .true => [0x74, 0x72, 0x75, 0x65]
  | .false => [0x66, 0x61, 0x6c, 0x73, 0x65]

inductive Kind
  | array
  | object
  deriving DecidableEq

def Kind.opening : Kind → UInt8
  | .array => 0x5b
  | .object => 0x7b

def Kind.closing : Kind → UInt8
  | .array => 0x5d
  | .object => 0x7d

def Kind.ofOpening? (byte : UInt8) : Option Kind :=
  if byte = 0x5b then some .array else if byte = 0x7b then some .object else none

inductive Lead : Kind → Type
  | item (before : Gap) : Lead .array
  | member (before : Gap) (key : List Piece) (beforeColon afterColon : Gap) : Lead .object
  deriving DecidableEq

def Lead.text {kind : Kind} : Lead kind → Bytes
  | .item before => before.text
  | .member before key beforeColon afterColon =>
    before.text ++ 0x22 :: (bodyText key ++ 0x22 :: (beforeColon.text ++ 0x3a :: afterColon.text))

mutual

inductive Value
  | literal (literal : Literal)
  | number (number : Number)
  | string (body : List Piece)
  | empty (kind : Kind) (gap : Gap)
  | node (kind : Kind) (entries : Entries kind)

inductive Entries : Kind → Type
  | last {kind : Kind} (lead : Lead kind) (value : Value) (after : Gap) : Entries kind
  | more {kind : Kind} (lead : Lead kind) (value : Value) (after : Gap)
    (rest : Entries kind) : Entries kind

end

mutual

def Value.text : Value → Bytes
  | .literal literal => literal.text
  | .number number => number.text
  | .string body => 0x22 :: (bodyText body ++ [0x22])
  | .empty kind gap => kind.opening :: (gap.text ++ [kind.closing])
  | .node kind entries => kind.opening :: entries.text

def Entries.text {kind : Kind} : Entries kind → Bytes
  | .last lead value after => lead.text ++ (value.text ++ (after.text ++ [kind.closing]))
  | .more lead value after rest => lead.text ++ (value.text ++ (after.text ++ 0x2c :: rest.text))

end

mutual

def Value.depth : Value → Nat
  | .literal _ => 0
  | .number _ => 0
  | .string _ => 0
  | .empty _ _ => 1
  | .node _ entries => entries.depth + 1

def Entries.depth {kind : Kind} : Entries kind → Nat
  | .last _ value _ => value.depth
  | .more _ value _ rest => max value.depth rest.depth

end

def spaces (input : Bytes) : Gap × Bytes :=
  (⟨input.takeWhile isSpace, List.all_takeWhile⟩, input.dropWhile isSpace)

def expect (byte : UInt8) : Bytes → Option Bytes
  | [] => none
  | first :: rest => if first = byte then some rest else none

def parseLead : (kind : Kind) → Bytes → Option (Lead kind × Bytes)
  | .array, input => some (.item (spaces input).1, (spaces input).2)
  | .object, input => do
      let opened ← expect 0x22 (spaces input).2
      let (key, named) ← scan opened
      let colon ← expect 0x3a (spaces named).2
      return (.member (spaces input).1 key (spaces named).1 (spaces colon).1, (spaces colon).2)

def parseEntries (parse : Bytes → Option (Value × Bytes)) (kind : Kind) :
    Nat → Bytes → Option (Entries kind × Bytes)
  | 0, _ => none
  | fuel + 1, input => do
      let (lead, input) ← parseLead kind input
      let (value, input) ← parse input
      match (spaces input).2 with
      | [] => none
      | byte :: rest =>
        if byte = kind.closing then some (.last lead value (spaces input).1, rest)
        else if byte = 0x2c then
          (parseEntries parse kind fuel rest).map (fun found =>
            (.more lead value (spaces input).1 found.1, found.2))
        else none

def parseNode (parse : Bytes → Option (Value × Bytes)) (kind : Kind) (input : Bytes) :
    Option (Value × Bytes) :=
  match expect kind.closing (spaces input).2 with
  | some rest => some (.empty kind (spaces input).1, rest)
  | none =>
    (parseEntries parse kind (input.length + 1) input).map
      (fun found => (.node kind found.1, found.2))

def parseAtom (input : Bytes) : Option (Value × Bytes) :=
  match [Literal.null, .true, .false].find? (fun literal => literal.text.isPrefixOf input) with
  | some literal => some (.literal literal, input.drop literal.text.length)
  | none =>
    if valid : isNumber (input.takeWhile numberByte) = true then
      some (.number ⟨input.takeWhile numberByte, valid⟩, input.dropWhile numberByte)
    else none

def parseWith (node : Kind → Bytes → Option (Value × Bytes)) : Bytes → Option (Value × Bytes)
  | [] => none
  | byte :: rest =>
    if byte = 0x22 then (scan rest).map (fun found => (.string found.1, found.2))
    else match Kind.ofOpening? byte with
      | some kind => node kind rest
      | none => parseAtom (byte :: rest)

def parseValue : Nat → Bytes → Option (Value × Bytes)
  | 0 => parseWith (fun _ _ => none)
  | depth + 1 => parseWith (parseNode (parseValue depth))

theorem afterInteger_text (value : Nat) : afterInteger (Decimal.text value) = some [] := by
  obtain ⟨_, digits, first, rest, shape, leading⟩ :=
    textFrom_spec (value + 1) value (Nat.lt_succ_self value)
  rw [Decimal.text]
  rw [shape] at digits ⊢
  have every : ∀ byte ∈ first :: rest, isDigit byte = true := List.all_eq_true.mp digits
  have isFirst := every first (.head _)
  have allDropped : rest.dropWhile isDigit = [] :=
    List.dropWhile_eq_nil_iff.mpr (fun byte member => every byte (.tail _ member))
  by_cases zero : first = 0x30
  · simp [afterInteger, zero, (leading zero).2]
  · simp [afterInteger, afterDigits, zero, isFirst, allDropped]

theorem text_numberBytes (value : Nat) : (Decimal.text value).all numberByte = true := by
  have digits := (textFrom_spec (value + 1) value (Nat.lt_succ_self value)).2.1
  exact List.all_eq_true.mpr (fun byte member => by
    simp [numberByte, List.all_eq_true.mp digits byte member])

theorem dropSign_text (value : Nat) : dropSign false (Decimal.text value) = Decimal.text value := by
  obtain ⟨_, digits, first, rest, shape, _⟩ :=
    textFrom_spec (value + 1) value (Nat.lt_succ_self value)
  rw [Decimal.text]
  rw [shape] at digits ⊢
  have unsigned : first ≠ 0x2d := by
    rintro rfl
    exact absurd (List.all_eq_true.mp digits _ (.head _)) (by decide)
  simp [dropSign, unsigned]

def intText (value : Int) : Bytes :=
  if value < 0 then 0x2d :: Decimal.text value.natAbs else Decimal.text value.natAbs

theorem isNumber_intText (value : Int) : isNumber (intText value) = true := by
  unfold intText
  split
  · have bytes : (0x2d :: Decimal.text value.natAbs).all numberByte = true := by
      rw [List.all_cons, text_numberBytes]
      decide
    simp [isNumber, bytes, dropSign, afterInteger_text, afterFraction, afterExponent]
  · simp [isNumber, text_numberBytes, dropSign_text, afterInteger_text,
      afterFraction, afterExponent]

def Number.ofInt (value : Int) : Number := ⟨intText value, isNumber_intText value⟩

def intOf? : Bytes → Option Int
  | [] => none
  | byte :: rest =>
    if byte = 0x2d then (value? rest).map (fun value : Nat => -(value : Int))
    else (value? (byte :: rest)).map (fun value : Nat => (value : Int))

theorem intOf?_intText (value : Int) : intOf? (intText value) = some value := by
  unfold intText
  split
  next negative =>
    rw [intOf?, if_pos rfl, value?_text, Option.map_some]
    congr 1
    omega
  next positive =>
    have unsigned := dropSign_text value.natAbs
    have spelt := value?_text value.natAbs
    cases shape : Decimal.text value.natAbs with
    | nil =>
      rw [shape] at spelt
      exact absurd spelt (by simp [value?])
    | cons byte rest =>
      rw [shape] at spelt unsigned
      have plain : byte ≠ 0x2d := by
        rintro rfl
        simp [dropSign] at unsigned
      rw [intOf?, if_neg plain, spelt, Option.map_some]
      congr 1
      omega

theorem spaces_sound (input : Bytes) : (spaces input).1.text ++ (spaces input).2 = input :=
  List.takeWhile_append_dropWhile

variable {input rest : Bytes}

theorem expect_sound {byte : UInt8} (found : expect byte input = some rest) :
    input = byte :: rest := by
  cases input with
  | nil => exact absurd found (by simp [expect])
  | cons first tail =>
    simp only [expect] at found
    split at found
    next same => rw [same, Option.some.inj found]
    next => cases found

variable {kind : Kind}

theorem parseLead_sound {lead : Lead kind}
    (parsed : parseLead kind input = some (lead, rest)) : input = lead.text ++ rest := by
  cases kind with
  | array =>
    simp only [parseLead, Option.some.injEq, Prod.mk.injEq] at parsed
    obtain ⟨rfl, rfl⟩ := parsed
    exact (spaces_sound input).symm
  | object =>
    simp only [parseLead, Option.bind_eq_bind, Option.bind_eq_some_iff, Option.pure_def,
      Option.some.injEq, Prod.mk.injEq, Prod.exists] at parsed
    obtain ⟨opened, isOpened, key, named, isKey, colon, isColon, rfl, rfl⟩ := parsed
    calc input = (spaces input).1.text ++ 0x22 :: opened := by
          rw [← expect_sound isOpened, spaces_sound]
      _ = (spaces input).1.text ++ 0x22 :: (bodyText key ++ 0x22 :: named) := by
          rw [← scan_sound isKey]
      _ = (spaces input).1.text ++ 0x22 :: (bodyText key ++
          0x22 :: ((spaces named).1.text ++ 0x3a :: colon)) := by
          rw [← expect_sound isColon, spaces_sound]
      _ = _ := by
          conv_lhs => rw [← spaces_sound colon]
          simp [Lead.text]

/-- What a parser of values nested at most `depth` deep returns. -/
def Sound (depth : Nat) (parse : Bytes → Option (Value × Bytes)) : Prop :=
  ∀ input value rest, parse input = some (value, rest) → input = value.text ++
    rest ∧ value.depth ≤ depth

variable {depth : Nat} {parse : Bytes → Option (Value × Bytes)}

theorem parseEntries_sound
    (sound : Sound depth parse) (kind : Kind) (fuel : Nat) (input : Bytes) (entries : Entries kind)
    (rest : Bytes) (parsed : parseEntries parse kind fuel input = some (entries, rest)) :
    input = entries.text ++ rest ∧ entries.depth ≤ depth := by
  induction fuel generalizing input entries with
  | zero => exact absurd parsed (by simp [parseEntries])
  | succ fuel ih =>
    simp only [parseEntries, Option.bind_eq_bind, Option.bind_eq_some_iff, Prod.exists] at parsed
    obtain ⟨lead, led, isLead, value, after, isValue, closes⟩ := parsed
    obtain ⟨valueText, shallow⟩ := sound _ _ _ isValue
    have opening : input = lead.text ++ (value.text ++
        ((spaces after).1.text ++ (spaces after).2)) := by
      rw [spaces_sound, ← valueText, ← parseLead_sound isLead]
    split at closes
    next => cases closes
    next byte tail next =>
      rw [next] at opening
      split at closes
      next close =>
        simp only [Option.some.injEq, Prod.mk.injEq] at closes
        obtain ⟨rfl, rfl⟩ := closes
        rw [opening, close]
        exact ⟨by simp [Entries.text], shallow⟩
      next =>
        split at closes
        next comma =>
          obtain ⟨⟨others, left⟩, isOthers, built⟩ := Option.map_eq_some_iff.mp closes
          obtain ⟨rfl, rfl⟩ := Prod.mk.inj built
          obtain ⟨othersText, othersShallow⟩ := ih _ _ isOthers
          rw [opening, comma, othersText]
          exact ⟨by simp [Entries.text], max_le shallow othersShallow⟩
        next => cases closes

theorem parseNode_sound (sound : Sound depth parse) (kind : Kind) (input : Bytes) (value : Value)
    (rest : Bytes) (parsed : parseNode parse kind input = some (value, rest)) :
    kind.opening :: input = value.text ++ rest ∧ value.depth ≤ depth + 1 := by
  unfold parseNode at parsed
  split at parsed
  next tail closes =>
    simp only [Option.some.injEq, Prod.mk.injEq] at parsed
    obtain ⟨rfl, rfl⟩ := parsed
    refine ⟨?_, Nat.le_add_left 1 depth⟩
    conv_lhs => rw [← spaces_sound input, expect_sound closes]
    simp [Value.text]
  next =>
    obtain ⟨⟨entries, left⟩, isEntries, built⟩ := Option.map_eq_some_iff.mp parsed
    obtain ⟨rfl, rfl⟩ := Prod.mk.inj built
    obtain ⟨spelt, shallow⟩ := parseEntries_sound sound kind _ _ _ _ isEntries
    exact ⟨congrArg (kind.opening :: ·) spelt, Nat.succ_le_succ shallow⟩

theorem parseAtom_sound {value : Value} (parsed : parseAtom input = some (value, rest)) :
    input = value.text ++ rest ∧ value.depth = 0 := by
  unfold parseAtom at parsed
  split at parsed
  next literal found =>
    simp only [Option.some.injEq, Prod.mk.injEq] at parsed
    obtain ⟨rfl, rfl⟩ := parsed
    have opens := List.find?_some found
    obtain ⟨after, rfl⟩ := List.isPrefixOf_iff_prefix.mp opens
    exact ⟨by simp [Value.text], rfl⟩
  next =>
    split at parsed
    next valid =>
      simp only [Option.some.injEq, Prod.mk.injEq] at parsed
      obtain ⟨rfl, rfl⟩ := parsed
      exact ⟨List.takeWhile_append_dropWhile.symm, rfl⟩
    next => cases parsed

theorem Kind.ofOpening?_eq_some {byte : UInt8} (found : Kind.ofOpening? byte = some kind) :
    byte = kind.opening := by
  unfold Kind.ofOpening? at found
  split at found
  next isArray => rw [← Option.some.inj found, isArray]; rfl
  next =>
    split at found
    next isObject => rw [← Option.some.inj found, isObject]; rfl
    next => cases found

theorem parseWith_sound {node : Kind → Bytes → Option (Value × Bytes)}
    (sound : ∀ kind input value rest, node kind input = some (value, rest) →
      kind.opening :: input = value.text ++ rest ∧ value.depth ≤ depth) :
    Sound depth (parseWith node) := by
  intro input value rest parsed
  cases input with
  | nil => exact absurd parsed (by simp [parseWith])
  | cons byte tail =>
    simp only [parseWith] at parsed
    split at parsed
    next isString =>
      obtain ⟨⟨body, left⟩, isBody, built⟩ := Option.map_eq_some_iff.mp parsed
      obtain ⟨rfl, rfl⟩ := Prod.mk.inj built
      refine ⟨?_, Nat.zero_le depth⟩
      rw [isString, scan_sound isBody]
      simp [Value.text]
    next =>
      split at parsed
      next kind isKind =>
        rw [Kind.ofOpening?_eq_some isKind]
        exact sound kind tail value rest parsed
      next =>
        obtain ⟨spelt, flat⟩ := parseAtom_sound parsed
        exact ⟨spelt, flat ▸ Nat.zero_le depth⟩

/-- A parsed value is spelt exactly as the text that was read. -/
theorem parseValue_sound (depth : Nat) : Sound depth (parseValue depth) := by
  induction depth with
  | zero => exact parseWith_sound (fun _ _ _ _ parsed => absurd parsed (by simp))
  | succ depth ih => exact parseWith_sound (parseNode_sound ih)

variable (node : Kind → Bytes → Option (Value × Bytes)) (value : Value) (byte : UInt8)
    (number : Number) (gap : Gap)

theorem spaces_text (rest : Bytes) (stops : NotAt isSpace rest) :
    spaces (gap.text ++ rest) = (gap, rest) := by
  obtain ⟨taken, dropped⟩ := takeWhile_text gap.blank stops
  simp only [spaces, dropped, Prod.mk.injEq, and_true]
  cases gap
  simpa using taken

theorem expect_cons (rest : Bytes) : expect byte (byte :: rest) = some rest := by
  simp [expect]

theorem parseLead_text (lead : Lead kind) (rest : Bytes) (stops : NotAt isSpace rest) :
    parseLead kind (lead.text ++ rest) = some (lead, rest) := by
  cases lead with
  | item before => simp [parseLead, Lead.text, spaces_text before rest stops]
  | member before key beforeColon afterColon =>
    have first := spaces_text before
      (0x22 :: (bodyText key ++ 0x22 :: (beforeColon.text ++ 0x3a :: (afterColon.text ++ rest))))
      (notAt_cons (by decide))
    have second := spaces_text beforeColon (0x3a :: (afterColon.text ++ rest))
      (notAt_cons (by decide))
    have third := spaces_text afterColon rest stops
    simp [Lead.text, parseLead, first, expect_cons, scan_bodyText, second, third]

theorem numberByte_other : numberByte byte = true → isSpace byte = false ∧ byte ≠ 0x5d ∧
    byte ≠ 0x7d ∧ byte ≠ 0x22 ∧
      Kind.ofOpening? byte = none ∧ byte ≠ 0x6e ∧ byte ≠ 0x74 ∧ byte ≠ 0x66 := by
  revert byte
  apply forall_byte
  decide +kernel

theorem Number.text_cons : ∃ byte rest, number.text = byte :: rest ∧ numberByte byte = true := by
  obtain ⟨text, valid⟩ := number
  cases text with
  | nil => exact absurd valid (by decide)
  | cons byte rest =>
    refine ⟨byte, rest, rfl, ?_⟩
    simp only [isNumber, List.all_cons, Bool.and_eq_true] at valid
    exact valid.1.1

theorem Value.text_cons :
    ∃ byte rest, value.text = byte :: rest ∧ isSpace byte = false ∧ byte ≠ 0x5d ∧ byte ≠ 0x7d := by
  cases value with
  | literal literal => cases literal <;> exact ⟨_, _, rfl, by decide, by decide, by decide⟩
  | number number =>
    obtain ⟨byte, rest, spelt, isNumber⟩ := number.text_cons
    obtain ⟨notSpace, notArray, notObject, _⟩ := numberByte_other byte isNumber
    exact ⟨byte, rest, spelt, notSpace, notArray, notObject⟩
  | string body => exact ⟨_, _, rfl, by decide, by decide, by decide⟩
  | empty kind gap => cases kind <;> exact ⟨_, _, rfl, by decide, by decide, by decide⟩
  | node kind entries => cases kind <;> exact ⟨_, _, rfl, by decide, by decide, by decide⟩

theorem Value.text_ne_nil : value.text ≠ [] := by
  obtain ⟨byte, rest, spelt, _⟩ := value.text_cons
  rw [spelt]
  exact List.cons_ne_nil byte rest

theorem Value.notSpace (rest : Bytes) : NotAt isSpace (value.text ++ rest) := by
  obtain ⟨byte, others, spelt, notSpace, _⟩ := value.text_cons
  rw [spelt]
  exact notAt_cons notSpace

/-- What a parser reads of a value nested at most `depth` deep. -/
def Complete (depth : Nat) (parse : Bytes → Option (Value × Bytes)) : Prop :=
  ∀ value rest, value.depth ≤ depth → NotAt numberByte rest →
    parse (value.text ++ rest) = some (value, rest)

theorem gap_notNumber (byte : UInt8) (rest : Bytes) (other : numberByte byte = false) :
    NotAt numberByte (gap.text ++ byte :: rest) := by
  obtain ⟨text, blank⟩ := gap
  cases text with
  | nil => exact notAt_cons other
  | cons first tail =>
    refine notAt_cons ?_
    have space : isSpace first = true := by
      simp only [List.all_cons, Bool.and_eq_true] at blank
      exact blank.1
    cases isNumber : numberByte first with
    | false => rfl
    | true => exact absurd space (by simp [(numberByte_other first isNumber).1])

theorem Kind.closing_other (kind : Kind) :
    isSpace kind.closing = false ∧ numberByte kind.closing = false ∧ kind.closing ≠ 0x2c := by
  cases kind <;> decide

theorem parseEntries_text (complete : Complete depth parse) (rest : Bytes) :
    (entries : Entries kind) → (fuel : Nat) → entries.depth ≤ depth → entries.text.length ≤ fuel →
      parseEntries parse kind fuel (entries.text ++ rest) = some (entries, rest)
  | .last lead value after, fuel, shallow, enough => by
      obtain ⟨notSpace, notNumber, _⟩ := kind.closing_other
      obtain ⟨fuel, rfl⟩ : ∃ less, fuel = less + 1 :=
        Nat.exists_eq_add_one.mpr (by simp only [Entries.text, List.length_append,
          List.length_cons] at enough; omega)
      have led :=
        parseLead_text lead (value.text ++ (after.text ++ kind.closing :: rest)) (value.notSpace _)
      have valued := complete value (after.text ++ kind.closing :: rest) shallow
        (gap_notNumber after _ _ notNumber)
      have closed := spaces_text after (kind.closing :: rest) (notAt_cons notSpace)
      simp [Entries.text, parseEntries, led, valued, closed]
  | .more lead value after others, fuel, shallow, enough => by
      have closing := kind.closing_other.2.2
      have shallow : value.depth ≤ depth ∧ others.depth ≤ depth := Nat.max_le.mp shallow
      obtain ⟨fuel, rfl⟩ : ∃ less, fuel = less + 1 :=
        Nat.exists_eq_add_one.mpr (by simp only [Entries.text, List.length_append,
          List.length_cons] at enough; omega)
      have led := parseLead_text lead (value.text ++
        (after.text ++ 0x2c :: (others.text ++ rest))) (value.notSpace _)
      have valued := complete value (after.text ++ 0x2c :: (others.text ++ rest)) shallow.1
        (gap_notNumber after _ _ (by decide))
      have commaed := spaces_text after (0x2c :: (others.text ++ rest)) (notAt_cons (by decide))
      have later := parseEntries_text complete rest others fuel shallow.2 (by
        simp only [Entries.text, List.length_append, List.length_cons] at enough; omega)
      simp [Entries.text, parseEntries, led, valued, commaed, later, closing.symm]

theorem Entries.notClosing (entries : Entries kind) (rest : Bytes) :
    expect kind.closing (spaces (entries.text ++ rest)).2 = none := by
  have begins : ∃ (lead : Lead kind) (value : Value) (tail : Bytes),
      entries.text ++ rest = lead.text ++ (value.text ++ tail) := by
    cases entries with
    | last lead value after =>
      exact ⟨lead, value, after.text ++ ([kind.closing] ++
        rest), by simp only [Entries.text, List.append_assoc]⟩
    | more lead value after others =>
      exact ⟨lead, value, after.text ++ (0x2c :: others.text ++
        rest), by simp only [Entries.text, List.append_assoc]⟩
  obtain ⟨lead, value, tail, spelt⟩ := begins
  rw [spelt]
  cases lead with
  | item before =>
    obtain ⟨byte, others, valued, _, notClosing, _⟩ := value.text_cons
    rw [Lead.text, spaces_text before _ (value.notSpace tail), valued]
    simp [expect, Kind.closing, notClosing]
  | member before key beforeColon afterColon =>
    simp only [Lead.text, List.append_assoc, List.cons_append]
    rw [spaces_text before _ (notAt_cons (by decide))]
    simp [expect, Kind.closing]

theorem parseNode_text (complete : Complete depth parse) (entries : Entries kind) (rest : Bytes)
    (shallow : entries.depth ≤ depth) :
    parseNode parse kind (entries.text ++ rest) = some (.node kind entries, rest) := by
  have parsed := parseEntries_text complete rest entries ((entries.text ++ rest).length + 1) shallow
    (by simp only [List.length_append]; omega)
  simp only [parseNode, entries.notClosing rest, parsed, Option.map_some]

theorem parseAtom_literal (literal : Literal) (rest : Bytes) :
    parseAtom (literal.text ++ rest) = some (.literal literal, rest) := by
  cases literal <;> simp [parseAtom, Literal.text, List.find?, List.isPrefixOf]

theorem parseAtom_number (rest : Bytes) (stops : NotAt numberByte rest) :
    parseAtom (number.text ++ rest) = some (.number number, rest) := by
  obtain ⟨byte, others, spelt, isNumber⟩ := number.text_cons
  obtain ⟨_, _, _, _, _, notNull, notTrue, notFalse⟩ := numberByte_other byte isNumber
  have noLiteral : [Literal.null, .true, .false].find?
      (fun literal => literal.text.isPrefixOf (number.text ++ rest)) = none := by
    simp [spelt, Literal.text, List.isPrefixOf, notNull.symm, notTrue.symm, notFalse.symm]
  have all : number.text.all numberByte = true := by
    have valid := number.valid
    simp only [Json.isNumber, Bool.and_eq_true] at valid
    exact valid.1
  obtain ⟨taken, dropped⟩ := takeWhile_text all stops
  simp only [parseAtom, noLiteral, taken, dropped, number.valid, dite_true]

theorem parseWith_atom (rest : Bytes) (notString : byte ≠ 0x22)
    (notNode : Kind.ofOpening? byte = none) :
    parseWith node (byte :: rest) = parseAtom (byte :: rest) := by
  simp [parseWith, notString, notNode]

theorem parseWith_opening (kind : Kind) (rest : Bytes) :
    parseWith node (kind.opening :: rest) = node kind rest := by
  cases kind <;> simp [parseWith, Kind.opening, Kind.ofOpening?]

theorem parseWith_flat (rest : Bytes) (flat : value.depth = 0) (stops : NotAt numberByte rest) :
    parseWith node (value.text ++ rest) = some (value, rest) := by
  cases value with
  | literal literal =>
    have atom : parseWith node (literal.text ++ rest) = parseAtom (literal.text ++ rest) := by
      cases literal <;> exact parseWith_atom node _ _ (by decide) (by decide)
    exact atom.trans (parseAtom_literal literal rest)
  | number number =>
    obtain ⟨byte, others, spelt, isNumber⟩ := number.text_cons
    obtain ⟨_, _, _, notString, notNode, _⟩ := numberByte_other byte isNumber
    have atom : parseWith node (number.text ++ rest) = parseAtom (number.text ++ rest) := by
      rw [spelt]
      exact parseWith_atom node _ _ notString notNode
    exact atom.trans (parseAtom_number number rest stops)
  | string body =>
    simp [Value.text, parseWith, scan_bodyText]
  | empty kind gap => exact absurd flat (by simp [Value.depth])
  | node kind entries => exact absurd flat (by simp [Value.depth])

/-- The parser reads back the text of every value that is not nested too deep. -/
theorem parseValue_text (depth : Nat) : Complete depth (parseValue depth) := by
  induction depth with
  | zero =>
    intro value rest shallow stops
    exact parseWith_flat _ value rest (Nat.le_zero.mp shallow) stops
  | succ depth ih =>
    intro value rest shallow stops
    cases value with
    | literal literal => exact parseWith_flat _ (.literal literal) rest rfl stops
    | number number => exact parseWith_flat _ (.number number) rest rfl stops
    | string body => exact parseWith_flat _ (.string body) rest rfl stops
    | empty kind gap =>
      have closed := spaces_text gap (kind.closing :: rest) (notAt_cons kind.closing_other.1)
      simp [Value.text, parseValue, parseWith_opening, parseNode, closed, expect_cons]
    | node kind entries =>
      simp only [Value.text, List.cons_append, parseValue, parseWith_opening]
      exact parseNode_text ih entries rest (Nat.le_of_succ_le_succ shallow)

def parseDocument (depth : Nat) (input : Bytes) : Option Value := do
  let (value, rest) ← parseValue depth (spaces input).2
  if rest.all isSpace then return value else none

theorem parseDocument_text (depth : Nat) (value : Value) (shallow : value.depth ≤ depth) :
    parseDocument depth value.text = some value := by
  have begins := spaces_text .none value.text (by simpa using value.notSpace [])
  have parsed := parseValue_text depth value [] shallow (by intro byte member; simp at member)
  rw [List.append_nil] at parsed
  have trimmed : (spaces value.text).2 = value.text := congrArg Prod.snd begins
  simp [parseDocument, trimmed, parsed]

theorem parseDocument_depth {value : Value}
    (parsed : parseDocument depth input = some value) : value.depth ≤ depth := by
  simp only [parseDocument, Option.bind_eq_bind, Option.bind_eq_some_iff, Prod.exists] at parsed
  obtain ⟨found, rest, isFound, ends⟩ := parsed
  split at ends
  · rw [← Option.some.inj ends]
    exact (parseValue_sound depth _ _ _ isFound).2
  · cases ends

end Json
