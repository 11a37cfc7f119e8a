import Gomessenger.Tools.SchemaCheck

/-! What `decodeSchemaJSON` accepts, as conditions on the value of a text. -/

namespace Gomessenger.SchemaCheck

open Utf8 Json Fallible
open Messenger (maxNestingDepth)

def unitOf : Piece → Option Nat
  | .unicode first second third fourth =>
    some (((first.value * 16 + second.value) * 16 + third.value) * 16 + fourth.value)
  | _ => none

def highUnit (code : Nat) : Bool := decide (0xd800 ≤ code) && decide (code ≤ 0xdbff)

def lowUnit (code : Nat) : Bool := decide (0xdc00 ≤ code) && decide (code ≤ 0xdfff)

def paired : List Piece → Bool
  | [] => true
  | piece :: rest =>
    match unitOf piece with
    | none => paired rest
    | some code =>
      if code < 0xd800 ∨ 0xdfff < code then paired rest
      else match rest with
        | [] => false
        | next :: others =>
          match unitOf next with
          | none => false
          | some low => highUnit code && lowUnit low && paired others

theorem surrogatesFrom_drop (skip : Nat) (data : Bytes) :
    surrogatesFrom skip data = surrogatesFrom 0 (data.drop skip) := by
  induction skip generalizing data with
  | zero => rfl
  | succ skip ih =>
    cases data with
    | nil => rfl
    | cons byte rest => exact ih rest

theorem surrogatesFrom_mark {byte : UInt8} {rest : Bytes} (other : byte ≠ 0x5c) :
    surrogatesFrom 0 (byte :: rest) = surrogatesFrom 0 rest := by
  rw [surrogatesFrom, if_pos other]

theorem HexDigit.parse (digit : HexDigit) : hexValue? digit.byte = some digit.value := by
  rw [HexDigit.value, Option.some_get]

theorem parseHex_digits (first second third fourth : HexDigit) :
    parseHex [first.byte, second.byte, third.byte, fourth.byte] =
      some (((first.value * 16 + second.value) * 16 + third.value) * 16 + fourth.value) := by
  simp [parseHex, HexDigit.parse]

variable {piece : Piece} {code : Nat}

theorem surrogates_other (other : unitOf piece = none) (rest : Bytes) :
    surrogatesFrom 0 (piece.text ++ rest) = surrogatesFrom 0 rest := by
  cases piece with
  | plain byte valid =>
    refine surrogatesFrom_mark ?_
    rintro rfl
    exact absurd valid (by decide)
  | short escape =>
    simp [Piece.text, surrogatesFrom, escapeLength, escape.letter_ne]
  | unicode first second third fourth => exact absurd other (by simp [unitOf])

theorem surrogates_plain {first second third fourth : HexDigit}
    (unit : unitOf (.unicode first second third fourth) = some code)
    (plain : code < 0xd800 ∨ 0xdfff < code) (rest : Bytes) :
    surrogatesFrom 0 ((Piece.unicode first second third fourth).text ++ rest) =
      surrogatesFrom 0 rest := by
  have parsed := parseHex_digits first second third fourth
  rw [← Option.some.inj unit] at plain
  have long : ¬ (first.byte :: second.byte :: third.byte :: fourth.byte :: rest).length < 4 := by
    simp only [List.length_cons]
    omega
  simp only [Piece.text, List.cons_append, List.nil_append, surrogatesFrom,
    escapeLength, List.take_succ_cons,
    List.take_zero, parsed, ne_eq, not_true_eq_false, false_or, if_false, if_neg long, if_pos plain]

theorem surrogates_half {first second third fourth : HexDigit}
    (unit : unitOf (.unicode first second third fourth) = some code)
    (half : ¬ (code < 0xd800 ∨ 0xdfff < code)) (rest : Bytes) :
    surrogatesFrom 0 ((Piece.unicode first second third fourth).text ++ rest) =
      if 0xdbff < code ∨ rest.length < 6 ∨ rest.take 2 ≠ [0x5c, 0x75] then false
      else match parseHex ((rest.drop 2).take 4) with
        | none => false
        | some low =>
          if low < 0xdc00 ∨ 0xdfff < low then false else surrogatesFrom 0 (rest.drop 6) := by
  have parsed := parseHex_digits first second third fourth
  have isCode := Option.some.inj unit
  have long : ¬ (first.byte :: second.byte :: third.byte :: fourth.byte :: rest).length < 4 := by
    simp only [List.length_cons]
    omega
  have longer : ((first.byte :: second.byte :: third.byte :: fourth.byte :: rest).length < 10) =
      (rest.length < 6) := by
    simp only [List.length_cons, eq_iff_iff]
    omega
  simp only [Piece.text, List.cons_append, List.nil_append, surrogatesFrom, escapeLength,
    List.take_succ_cons, List.take_zero, List.drop_succ_cons, List.drop_zero, parsed, isCode,
    longer, ne_eq, not_true_eq_false, false_or, if_false, if_neg long, if_neg half]
  by_cases alone : 0xdbff < code ∨ rest.length < 6 ∨ rest.take 2 ≠ [0x5c, 0x75]
  · simp only [if_pos alone]
  · simp only [if_neg alone]
    cases parseHex ((rest.drop 2).take 4) with
    | none => rfl
    | some low =>
      by_cases outside : low < 0xdc00 ∨ 0xdfff < low
      · simp only [if_pos outside]
      · simp only [if_neg outside]
        rw [surrogatesFrom_drop]
        rfl

theorem take_other (other : unitOf piece = none) (rest : Bytes) :
    (piece.text ++ rest).take 2 ≠ [0x5c, 0x75] := by
  cases piece with
  | plain byte valid =>
    intro same
    have isEscape : byte = 0x5c := (List.cons.inj same).1
    rw [isEscape] at valid
    exact absurd valid (by decide)
  | short escape =>
    intro same
    exact escape.letter_ne (List.cons.inj (List.cons.inj same).2).1
  | unicode first second third fourth => exact nomatch other

theorem unitOf_some (unit : unitOf piece = some code) :
    ∃ first second third fourth, piece = .unicode first second third fourth := by
  cases piece with
  | plain byte valid => exact nomatch unit
  | short escape => exact nomatch unit
  | unicode first second third fourth => exact ⟨first, second, third, fourth, rfl⟩

theorem surrogates_body (body : List Piece) (rest : Bytes) :
    surrogatesFrom 0 (bodyText body ++ 0x22 :: rest) = (paired body && surrogatesFrom 0 rest) := by
  have cons : ∀ (piece : Piece) (others : List Piece), bodyText (piece :: others) ++ 0x22 :: rest =
      piece.text ++ (bodyText others ++ 0x22 :: rest) := by
    intro piece others
    simp [bodyText]
  fun_induction paired body with
  | case1 => exact surrogatesFrom_mark (by decide)
  | case2 piece others other ih => rw [cons, surrogates_other other, ih]
  | case3 piece others code unit plain ih =>
    obtain ⟨first, second, third, fourth, rfl⟩ := unitOf_some unit
    rw [cons, surrogates_plain unit plain, ih]
  | case4 piece code unit half =>
    obtain ⟨first, second, third, fourth, rfl⟩ := unitOf_some unit
    rw [cons, surrogates_half unit half, if_pos]
    · rfl
    · refine .inr (.inr ?_)
      intro same
      exact absurd (List.cons.inj same).1 (by decide)
  | case5 piece code unit half next others other =>
    obtain ⟨first, second, third, fourth, rfl⟩ := unitOf_some unit
    rw [cons, surrogates_half unit half, if_pos]
    · rfl
    · rw [cons]
      exact .inr (.inr (take_other other _))
  | case6 piece code unit half next others low isLow ih =>
    obtain ⟨first, second, third, fourth, rfl⟩ := unitOf_some unit
    obtain ⟨a, b, c, d, rfl⟩ := unitOf_some isLow
    have parsed := parseHex_digits a b c d
    rw [show (((a.value * 16 + b.value) * 16 + c.value) * 16 + d.value) = low from
      Option.some.inj isLow] at parsed
    rw [cons, surrogates_half unit half, cons]
    simp only [Piece.text, List.cons_append, List.nil_append, List.length_cons,
      List.take_succ_cons, List.take_zero,
      List.drop_succ_cons, List.drop_zero, parsed, ne_eq, not_true_eq_false, or_false]
    have enough : ¬ (bodyText others ++ 0x22 :: rest).length + 1 + 1 + 1 + 1 + 1 + 1 < 6 := by omega
    simp only [ih, enough, or_false]
    have isHigh : highUnit code = !decide (0xdbff < code) := by
      rw [Bool.eq_iff_iff]
      simp only [highUnit, Bool.and_eq_true, decide_eq_true_eq, Bool.not_eq_true',
        decide_eq_false_iff_not]
      omega
    have isLowUnit : lowUnit low = !decide (low < 0xdc00 ∨ 0xdfff < low) := by
      rw [Bool.eq_iff_iff]
      simp only [lowUnit, Bool.and_eq_true, decide_eq_true_eq, Bool.not_eq_true',
        decide_eq_false_iff_not]
      omega
    rw [isHigh, isLowUnit]
    by_cases high : 0xdbff < code
    · simp [high]
    · by_cases outside : low < 0xdc00 ∨ 0xdfff < low <;> simp [high, outside]

theorem tokenwise_surrogates :
    Tokenwise (fun data => validSchemaSurrogates data = true) (fun body => paired body = true) where
  mark byte rest _ other := by rw [validSchemaSurrogates,
    surrogatesFrom_mark other, validSchemaSurrogates]
  quoted body rest := by rw [validSchemaSurrogates, surrogates_body,
    Bool.and_eq_true, validSchemaSurrogates]

def surrogateUnit (code : Nat) : Prop := 0xd800 ≤ code ∧ code ≤ 0xdfff

def Paired (body : List Piece) : Prop :=
  ∀ before piece after code, body = before ++ piece :: after →
    unitOf piece = some code → surrogateUnit code →
    (highUnit code = true ∧ ∃ next later low, after = next :: later ∧
      unitOf next = some low ∧ lowUnit low = true) ∨
      (lowUnit code = true ∧ ∃ earlier previous high, before = earlier ++ [previous] ∧
        unitOf previous = some high ∧
        highUnit high = true)

theorem lowUnit_high (low : lowUnit code = true) : highUnit code = false := by
  simp only [lowUnit, Bool.and_eq_true, decide_eq_true_eq] at low
  simp only [highUnit, Bool.and_eq_false_iff, decide_eq_false_iff_not]
  omega

theorem Paired.behind {front rest : List Piece} {last : Piece}
    (paired : Paired (front ++ last :: rest))
    (notHigh : ∀ code, unitOf last = some code → highUnit code = false) : Paired rest := by
  intro before inner after code spelt unit surrogate
  rcases paired (front ++ last :: before) inner after code (by rw [spelt]; simp) unit surrogate
    with first | second
  · exact .inl first
  · obtain ⟨low, earlier, previous, high, ends, isPrevious, isHigh⟩ := second
    rcases List.eq_nil_or_concat before with rfl | ⟨init, final, rfl⟩
    · have same := List.append_inj_right' ends rfl
      rw [List.cons.injEq] at same
      rw [← same.1] at isPrevious
      rw [notHigh high isPrevious] at isHigh
      cases isHigh
    · rw [List.concat_eq_append, ← List.cons_append, ← List.append_assoc] at ends
      have same := List.append_inj_right' ends rfl
      rw [List.cons.injEq] at same
      exact .inr ⟨low, init, previous, high, by rw [List.concat_eq_append,
        same.1], isPrevious, isHigh⟩

theorem Paired.cons {piece : Piece} {rest : List Piece} (paired : Paired rest)
    (first : ∀ code, unitOf piece = some code → surrogateUnit code →
      highUnit code = true ∧ ∃ next later low, rest = next :: later ∧
        unitOf next = some low ∧ lowUnit low = true) :
    Paired (piece :: rest) := by
  intro before inner after code spelt unit surrogate
  cases before with
  | nil =>
    rw [List.nil_append, List.cons.injEq] at spelt
    rw [← spelt.1] at unit
    rw [← spelt.2]
    exact .inl (first code unit surrogate)
  | cons head before =>
    rw [List.cons_append, List.cons.injEq] at spelt
    rcases paired before inner after code spelt.2 unit surrogate with opens | closes
    · exact .inl opens
    · obtain ⟨low, earlier, previous, high, ends, isPrevious, isHigh⟩ := closes
      exact .inr ⟨low, head :: earlier, previous, high, by rw [ends]; rfl, isPrevious, isHigh⟩

theorem Paired.pair {first second : Piece} {rest : List Piece} {high low : Nat}
    (paired : Paired rest) (isFirst : unitOf first = some high) (isHigh : highUnit high = true)
    (isSecond : unitOf second = some low) (isLow : lowUnit low = true) :
    Paired (first :: second :: rest) := by
  intro before inner after code spelt unit surrogate
  match before with
  | [] =>
    rw [List.nil_append, List.cons.injEq] at spelt
    rw [← spelt.1, isFirst, Option.some.injEq] at unit
    exact .inl ⟨unit ▸ isHigh, second, rest, low, spelt.2.symm, isSecond, isLow⟩
  | [head] =>
    rw [List.cons_append, List.nil_append, List.cons.injEq, List.cons.injEq] at spelt
    rw [← spelt.2.1, isSecond, Option.some.injEq] at unit
    exact .inr ⟨unit ▸ isLow, [], head, high, rfl, spelt.1 ▸ isFirst, isHigh⟩
  | head :: next :: before =>
    rw [List.cons_append, List.cons_append, List.cons.injEq, List.cons.injEq] at spelt
    rcases paired before inner after code spelt.2.2 unit surrogate with opens | closes
    · exact .inl opens
    · obtain ⟨isLast, earlier, previous, unitBefore, ends, isPrevious, highBefore⟩ := closes
      exact .inr ⟨isLast, head :: next :: earlier, previous,
        unitBefore, by rw [ends]; rfl, isPrevious, highBefore⟩

theorem paired_exact (body : List Piece) : paired body = true ↔ Paired body := by
  fun_induction paired body with
  | case1 => exact iff_of_true rfl fun before _ _ _ spelt => absurd spelt (by simp)
  | case2 piece rest other ih =>
    rw [ih]
    exact ⟨fun inner => inner.cons fun code unit => (by rw [other] at unit; cases unit),
      fun whole => @Paired.behind [] rest piece whole fun code unit =>
        (by rw [other] at unit; cases unit)⟩
  | case3 piece rest code unit plain ih =>
    rw [ih]
    refine ⟨fun inner => inner.cons fun other same surrogate => ?_,
      fun whole => @Paired.behind [] rest piece whole fun other same => ?_⟩
    · rw [unit, Option.some.injEq] at same
      rw [← same] at surrogate
      exact absurd surrogate (by simp only [surrogateUnit]; omega)
    · rw [unit, Option.some.injEq] at same
      rw [← same]
      simp only [highUnit, Bool.and_eq_false_iff, decide_eq_false_iff_not]
      omega
  | case4 piece code unit half =>
    refine iff_of_false (by simp) fun whole => ?_
    rcases whole [] piece [] code rfl unit (by simp only [surrogateUnit]; omega) with first | second
    · obtain ⟨_, next, later, low, none, _⟩ := first
      cases none
    · obtain ⟨_, earlier, previous, high, none, _⟩ := second
      simp at none
  | case5 piece code unit half next others other =>
    refine iff_of_false (by simp) fun whole => ?_
    rcases whole [] piece (next :: others) code rfl unit (by simp only [surrogateUnit]; omega)
      with first | second
    · obtain ⟨_, found, later, low, same, isLow, _⟩ := first
      rw [List.cons.injEq] at same
      rw [← same.1, other] at isLow
      cases isLow
    · obtain ⟨_, earlier, previous, high, none, _⟩ := second
      simp at none
  | case6 piece code unit half next others low isLow ih =>
    rw [Bool.and_eq_true, Bool.and_eq_true, ih]
    constructor
    · rintro ⟨⟨high, lowHalf⟩, inner⟩
      exact inner.pair unit high isLow lowHalf
    · intro whole
      rcases whole [] piece (next :: others) code rfl unit (by simp only [surrogateUnit]; omega)
        with first | second
      · obtain ⟨high, found, later, lower, same, isLower, lowHalf⟩ := first
        rw [List.cons.injEq] at same
        rw [← same.1, isLow, Option.some.injEq] at isLower
        rw [← isLower] at lowHalf
        refine ⟨⟨high, lowHalf⟩, @Paired.behind [piece] others next whole fun other same => ?_⟩
        rw [isLow, Option.some.injEq] at same
        rw [← same]
        exact lowUnit_high lowHalf
      · obtain ⟨_, earlier, previous, high, none, _⟩ := second
        simp at none

/-- The scanner of a JSON text accepts it just if the surrogates of every string are paired. -/
theorem surrogate_check_is_exact (depth : Nat) (data : Bytes) (value : Value)
    (parsed : parseDocument depth data = some value) :
    validSchemaSurrogates data = true ↔ ∀ body, Leaf.string body ∈ value.leaves → Paired body := by
  obtain ⟨before, after, rfl⟩ := parseDocument_sound parsed
  rw [tokenwise_surrogates.document rfl before after value]
  constructor
  · intro all body member
    exact (paired_exact body).mp (all (.string body) member)
  · intro all leaf member
    cases leaf with
    | number number => trivial
    | string body => exact (paired_exact body).mpr (all body member)

theorem surrogate_check_is_exact_sample :
    ∃ value, parseDocument 1 (ofString "\"\\\\ud83d\\ud83d\\ude00\"") = some value ∧
    (validSchemaSurrogates (ofString "\"\\\\ud83d\\ud83d\\ude00\"") = true ↔
      ∀ body, Leaf.string body ∈ value.leaves → Paired body) := by
  have accepted : (parseDocument 1 (ofString "\"\\\\ud83d\\ud83d\\ude00\"")).isSome = true := by
    decide +kernel
  obtain ⟨value, parsed⟩ := Option.isSome_iff_exists.mp accepted
  exact ⟨value, parsed, surrogate_check_is_exact 1 _ value parsed⟩

/-- What is asked of the numbers and the strings of a text. -/
def Admits : Leaf → Prop
  | .number number => scanNumber number = .ok ()
  | .string body => Valid (bodyText body) ∧ paired body = true

def Bounded : Leaf → Prop
  | .number number => scanNumber number = .ok ()
  | .string _ => True

theorem scanLead_ok {kind : Kind} {keys : List Bytes} {lead : Lead kind} {result : List Bytes} :
    scanLead keys lead = .ok result ↔ (∀ name ∈ lead.names, name ∉ keys) ∧
      result = lead.names ++ keys := by
  cases lead with
  | item before => simp [scanLead, Lead.names, eq_comm]
  | member before key beforeColon afterColon =>
    unfold scanLead
    by_cases taken : unquote key ∈ keys <;> simp [taken, Lead.names, eq_comm]

theorem lead_nodup {kind : Kind} (lead : Lead kind) : lead.names.Nodup ∧
    ∀ leaf ∈ lead.leaves, Bounded leaf := by
  cases lead <;> simp [Lead.names, Lead.leaves, Bounded]

theorem limit_ok {next : Except GoError Unit} {condition : Prop} [Decidable condition] :
    (if condition then Except.error errNesting else next) = .ok () ↔
      ¬ condition ∧ next = .ok () := by
  by_cases holds : condition <;> simp [holds]

def ScansExactly (value : Value) : Prop :=
  ∀ depth, scanSchemaJSON depth value = .ok () ↔
    value.depth + depth ≤ schemaMaxDepth ∧ value.Distinct ∧ ∀ leaf ∈ value.leaves, Bounded leaf

def EntriesExact {kind : Kind} (entries : Entries kind) : Prop :=
  ∀ depth keys, scanEntries depth keys entries = .ok () ↔
    (∀ name ∈ entries.names, name ∉ keys) ∧ entries.depth + (depth + 1) ≤ schemaMaxDepth ∧
      entries.names.Nodup ∧ entries.Distinct ∧ ∀ leaf ∈ entries.leaves, Bounded leaf

section Entries

variable {kind : Kind} {rest entries : Entries kind} {value : Value}

theorem scansExactly_node (inner : EntriesExact entries) : ScansExactly (.node kind entries) := by
  intro depth
  rw [scanSchemaJSON, limit_ok, inner depth [], Value.depth, Value.Distinct, Value.leaves]
  simp only [List.not_mem_nil, not_false_eq_true, implies_true, true_and]
  constructor
  · rintro ⟨_, shallow, names, distinct, leaves⟩
    exact ⟨by omega, ⟨names, distinct⟩, leaves⟩
  · rintro ⟨shallow, ⟨names, distinct⟩, leaves⟩
    exact ⟨by omega, by omega, names, distinct, leaves⟩

theorem entriesExact_last (lead : Lead kind) (after : Gap) (exact : ScansExactly value) :
    EntriesExact (.last lead value after) := by
  intro depth keys
  obtain ⟨single, bounded⟩ := lead_nodup lead
  rw [scanEntries, bind_ok, Entries.names, Entries.depth, Entries.Distinct, Entries.leaves,
    List.forall_mem_append]
  simp only [scanLead_ok, exact (depth + 1)]
  constructor
  · rintro ⟨_, ⟨fresh, _⟩, shallow, distinct, leaves⟩
    exact ⟨fresh, shallow, single, distinct, bounded, leaves⟩
  · rintro ⟨fresh, shallow, _, distinct, _, leaves⟩
    exact ⟨_, ⟨fresh, rfl⟩, shallow, distinct, leaves⟩

theorem entriesExact_more (lead : Lead kind) (after : Gap) (exact : ScansExactly value)
    (others : EntriesExact rest) : EntriesExact (.more lead value after rest) := by
  intro depth keys
  obtain ⟨single, bounded⟩ := lead_nodup lead
  rw [scanEntries, bind_ok, Entries.names, Entries.depth, Entries.Distinct, Entries.leaves,
    List.forall_mem_append, List.forall_mem_append, List.forall_mem_append, List.nodup_append]
  simp only [scanLead_ok, bind_ok, exact (depth + 1), others depth]
  constructor
  · rintro ⟨_, ⟨fresh, rfl⟩, _, ⟨shallow, distinct, leaves⟩, free, deep, names, apart, later⟩
    refine ⟨⟨fresh, ?_⟩, by omega, ⟨single, names, ?_⟩, ⟨distinct, apart⟩, bounded, leaves, later⟩
    · intro name member taken
      exact free name member (List.mem_append_right _ taken)
    · rintro name member other inside rfl
      exact free name inside (List.mem_append_left _ member)
  · rintro ⟨⟨fresh, free⟩, shallow, ⟨_, names, unshared⟩, ⟨distinct, apart⟩, _, leaves, later⟩
    refine ⟨_, ⟨fresh, rfl⟩, (), ⟨by omega, distinct, leaves⟩, ?_, by omega, names, apart, later⟩
    intro name member taken
    rcases List.mem_append.mp taken with first | before
    · exact unshared name first name member rfl
    · exact free name member before

end Entries

theorem scanSchemaJSON_ok (value : Value) : ScansExactly value := by
  refine @Value.rec ScansExactly (fun _ entries => EntriesExact entries) ?_ ?_ ?_ ?_ ?_ ?_ ?_ value
  · intro literal depth
    simp [scanSchemaJSON, Value.depth, Value.Distinct, Value.leaves]
  · intro number depth
    simp [scanSchemaJSON, limit_ok, Value.depth, Value.Distinct, Value.leaves, Bounded]
  · intro body depth
    simp [scanSchemaJSON, Value.depth, Value.Distinct, Value.leaves, Bounded]
  · intro kind gap depth
    simp [scanSchemaJSON, Value.depth, Value.Distinct, Value.leaves]
    omega
  · exact fun _ _ inner => scansExactly_node inner
  · exact fun lead _ after exact => entriesExact_last lead after exact
  · exact fun lead _ after _ exact others => entriesExact_more lead after exact others

/-- The values that `decodeSchemaJSON` hands to its target. -/
structure Admitted (value : Value) : Prop where
  shallow : value.depth ≤ schemaMaxDepth
  distinct : value.Distinct
  leaves : ∀ leaf ∈ value.leaves, Admits leaf

theorem admits_iff (leaf : Leaf) : Admits leaf ↔
    leaf.Meets (fun body => Valid (bodyText body)) ∧
      leaf.Meets (fun body => paired body = true) ∧ Bounded leaf := by
  cases leaf <;> simp [Admits, Leaf.Meets, Bounded]

theorem decodeSchemaJSON_ok {A : Type} {target : Value → Option A} {data : Bytes} {decoded : A} :
    decodeSchemaJSON target data = .ok decoded ↔ data.length ≤ schemaMaxBytes ∧
      ∃ value, parseDocument maxNestingDepth data = some value ∧ Admitted value ∧
        target value = some decoded := by
  unfold decodeSchemaJSON
  rw [check_ok]
  cases parsed : parseDocument maxNestingDepth data with
  | none => simp [throw, throwThe, MonadExceptOf.throw]
  | some value =>
    obtain ⟨before, after, spelt⟩ := parseDocument_sound parsed
    have valid : Valid data ↔ ∀ leaf ∈ value.leaves,
        leaf.Meets (fun body => Valid (bodyText body)) := by
      rw [spelt]
      exact tokenwise_valid.document valid_nil before after value
    have surrogates : validSchemaSurrogates data = true ↔
        ∀ leaf ∈ value.leaves, leaf.Meets (fun body => paired body = true) := by
      rw [spelt]
      exact tokenwise_surrogates.document rfl before after value
    have scanned := scanSchemaJSON_ok value 0
    simp only [bind_ok, decodeTarget_ok, scanned, not_or, not_lt, not_not,
      Bool.not_eq_false, valid, surrogates]
    constructor
    · rintro ⟨⟨size, areValid, arePaired⟩, _, ⟨shallow, distinct, bounded⟩, decodes⟩
      refine ⟨size, value, rfl, ⟨shallow, distinct, ?_⟩, decodes⟩
      intro leaf member
      exact (admits_iff leaf).mpr ⟨areValid leaf member, arePaired leaf member, bounded leaf member⟩
    · rintro ⟨size, found, isFound, admitted, decodes⟩
      rw [← Option.some.inj isFound] at admitted decodes
      have each := fun leaf member => (admits_iff leaf).mp (admitted.leaves leaf member)
      exact ⟨⟨size, fun leaf member => (each leaf member).1,
        fun leaf member => (each leaf member).2.1⟩, (),
        ⟨admitted.shallow, admitted.distinct, fun leaf member => (each leaf member).2.2⟩, decodes⟩

theorem scanNumber_ok {number : Number} :
    scanNumber number = .ok () ↔ number.text.length ≤ 128 ∧
      ∀ exponent, exponentOf number.text = some exponent →
        ∃ power : Int, Strings.integer? exponent = some power ∧ -1000 ≤ power ∧ power ≤ 1000 := by
  unfold scanNumber
  split_ifs with long
  · exact iff_of_false nofun fun limits => absurd limits.1 (by omega)
  · refine Iff.trans ?_ (and_iff_right (Nat.le_of_not_lt long)).symm
    cases exponentOf number.text with
    | none => simp
    | some exponent =>
      simp only [Option.some.injEq, forall_eq']
      cases read : Strings.atoi exponent with
      | none =>
        refine iff_of_false nofun ?_
        rintro ⟨power, isInteger, low, high⟩
        have inRange : (Int64.ofInt power).toInt = power :=
          Int64.toInt_ofInt_of_le (by omega) (by omega)
        rw [← inRange, ← Strings.atoi_some, read] at isInteger
        cases isInteger
      | some power =>
        simp only [Strings.atoi_some.mp read, Option.some.injEq, exists_eq_left']
        split_ifs with outside
        · exact iff_of_false nofun fun inside => by omega
        · exact iff_of_true rfl (by omega)

/-- Accepted are bounded JSON texts whose objects repeat no name, whose numbers have
at most 128 bytes and an exponent within ±1000, and whose strings have no half of a
surrogate pair. -/
theorem strict_decoder_is_exact {A : Type} (target : Value → Option A)
    (data : Bytes) (decoded : A) :
    decodeSchemaJSON target data = .ok decoded ↔ data.length ≤ schemaMaxBytes ∧
      ∃ value, parseDocument maxNestingDepth data = some value ∧ target value = some decoded ∧
        value.depth ≤ schemaMaxDepth ∧ value.Distinct ∧
        (∀ number, .number number ∈ value.leaves → number.text.length ≤ 128 ∧
          ∀ exponent, exponentOf number.text = some exponent →
            ∃ power : Int, Strings.integer? exponent = some power ∧
              -1000 ≤ power ∧ power ≤ 1000) ∧
        ∀ body, .string body ∈ value.leaves → Valid (bodyText body) ∧ Paired body := by
  simp only [decodeSchemaJSON_ok, ← paired_exact, ← scanNumber_ok]
  refine and_congr_right fun _ => exists_congr fun value => and_congr_right fun _ => ?_
  constructor
  · rintro ⟨admitted, decodes⟩
    exact ⟨decodes, admitted.shallow, admitted.distinct, fun _ => admitted.leaves _,
      fun _ => admitted.leaves _⟩
  · rintro ⟨decodes, shallow, distinct, numbers, strings⟩
    refine ⟨⟨shallow, distinct, fun leaf member => ?_⟩, decodes⟩
    cases leaf with
    | number number => exact numbers number member
    | string body => exact strings body member

end Gomessenger.SchemaCheck
