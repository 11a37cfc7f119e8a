import Gomessenger.Lib.Utf8

/-! JSON string literals.

A literal is kept as it is spelt: a list of pieces, each a byte that stands for
itself or an escape. What it denotes is a list of symbols, the bytes with every
escape resolved; a surrogate written as an escape denotes no bytes until a
partner follows it. -/

namespace Json

open Utf8

def plainByte (byte : UInt8) : Bool := decide (0x20 ≤ byte) && byte != 0x22 && byte != 0x5c

inductive Escape
  | quote
  | backslash
  | slash
  | backspace
  | formFeed
  | newline
  | carriageReturn
  | tab
  deriving DecidableEq

def Escape.letter : Escape → UInt8
  | .quote => 0x22
  | .backslash => 0x5c
  | .slash => 0x2f
  | .backspace => 0x62
  | .formFeed => 0x66
  | .newline => 0x6e
  | .carriageReturn => 0x72
  | .tab => 0x74

def Escape.byte : Escape → UInt8
  | .quote => 0x22
  | .backslash => 0x5c
  | .slash => 0x2f
  | .backspace => 0x08
  | .formFeed => 0x0c
  | .newline => 0x0a
  | .carriageReturn => 0x0d
  | .tab => 0x09

def Escape.all : List Escape :=
  [.quote, .backslash, .slash, .backspace, .formFeed, .newline, .carriageReturn, .tab]

def Escape.ofLetter? (letter : UInt8) : Option Escape :=
  Escape.all.find? (fun escape => escape.letter == letter)

def hexValue? (byte : UInt8) : Option Nat :=
  if 0x30 ≤ byte ∧ byte ≤ 0x39 then some (byte.toNat - 0x30)
  else if 0x61 ≤ byte ∧ byte ≤ 0x66 then some (byte.toNat - 0x61 + 10)
  else if 0x41 ≤ byte ∧ byte ≤ 0x46 then some (byte.toNat - 0x41 + 10)
  else none

structure HexDigit where
  byte : UInt8
  valid : (hexValue? byte).isSome = true
  deriving DecidableEq

def HexDigit.value (digit : HexDigit) : Nat := (hexValue? digit.byte).get digit.valid

def HexDigit.ofByte? (byte : UInt8) : Option HexDigit :=
  if valid : (hexValue? byte).isSome = true then some ⟨byte, valid⟩ else none

def hexByte (value : Nat) : UInt8 :=
  if value < 10 then UInt8.ofNat (0x30 + value) else UInt8.ofNat (0x61 + (value - 10))

theorem hexValue?_hexByte : ∀ value < 16, hexValue? (hexByte value) = some value := by
  decide

def HexDigit.ofFin (value : Fin 16) : HexDigit :=
  ⟨hexByte value, by rw [hexValue?_hexByte value value.isLt]; rfl⟩

inductive Piece
  | plain (byte : UInt8) (valid : plainByte byte = true)
  | short (escape : Escape)
  | unicode (first second third fourth : HexDigit)
  deriving DecidableEq

def Piece.text : Piece → Bytes
  | .plain byte _ => [byte]
  | .short escape => [0x5c, escape.letter]
  | .unicode first second third fourth =>
    [0x5c, 0x75, first.byte, second.byte, third.byte, fourth.byte]

def bodyText (body : List Piece) : Bytes := body.flatMap Piece.text

def nextUnicode : Bytes → Option Piece
  | a :: b :: c :: d :: _ => do
      let first ← HexDigit.ofByte? a
      let second ← HexDigit.ofByte? b
      let third ← HexDigit.ofByte? c
      let fourth ← HexDigit.ofByte? d
      return .unicode first second third fourth
  | _ => none

def nextEscape : Bytes → Option Piece
  | [] => none
  | letter :: rest =>
    if letter = 0x75 then nextUnicode rest else (Escape.ofLetter? letter).map .short

def nextPiece : Bytes → Option Piece
  | [] => none
  | byte :: rest =>
    if byte = 0x5c then nextEscape rest
    else if valid : plainByte byte = true then some (.plain byte valid) else none

/-- Reads a literal after its opening quote, up to and with the closing one; the
next `skip` bytes belong to a piece already read. -/
def scanFrom : Nat → Bytes → Option (List Piece × Bytes)
  | _, [] => none
  | skip + 1, _ :: rest => scanFrom skip rest
  | 0, byte :: rest =>
    if byte = 0x22 then some ([], rest)
    else match nextPiece (byte :: rest) with
      | some piece =>
        (scanFrom (piece.text.length - 1) rest).map (fun found => (piece :: found.1, found.2))
      | none => none

def scan (input : Bytes) : Option (List Piece × Bytes) := scanFrom 0 input

theorem HexDigit.ofByte?_byte (digit : HexDigit) : HexDigit.ofByte? digit.byte = some digit := by
  simp [HexDigit.ofByte?, digit.valid]

theorem HexDigit.ofByte?_eq_some {byte : UInt8} {digit : HexDigit}
    (found : HexDigit.ofByte? byte = some digit) : digit.byte = byte := by
  unfold HexDigit.ofByte? at found
  split at found
  · exact congrArg HexDigit.byte (Option.some.inj found).symm
  · cases found

variable (body : List Piece) (byte : UInt8) (text : Bytes) (escape : Escape)

theorem Escape.ofLetter?_letter : Escape.ofLetter? escape.letter = some escape := by
  cases escape <;> rfl

theorem Escape.letter_ne : escape.letter ≠ 0x75 := by
  cases escape <;> decide

theorem Escape.ofLetter?_eq_some {letter : UInt8} {escape : Escape}
    (found : Escape.ofLetter? letter = some escape) : escape.letter = letter := by
  have matched := List.find?_some found
  exact eq_of_beq matched

theorem nextPiece_text (piece : Piece) (rest : Bytes) :
    nextPiece (piece.text ++ rest) = some piece := by
  cases piece with
  | plain byte valid =>
    have notEscape : byte ≠ 0x5c := by rintro rfl; exact absurd valid (by decide)
    simp [Piece.text, nextPiece, notEscape, valid]
  | short escape =>
    simp [Piece.text, nextPiece, nextEscape, escape.letter_ne, Escape.ofLetter?_letter]
  | unicode first second third fourth =>
    simp [Piece.text, nextPiece, nextEscape, nextUnicode, HexDigit.ofByte?_byte]

variable {input : Bytes} {piece : Piece}

theorem nextUnicode_sound (next : nextUnicode input = some piece) :
    ∃ rest, 0x5c :: 0x75 :: input = piece.text ++ rest := by
  match input, next with
  | a :: b :: c :: d :: rest, next =>
    simp only [nextUnicode, Option.bind_eq_bind, Option.pure_def, Option.bind_eq_some_iff] at next
    obtain ⟨first, isFirst, second, isSecond, third, isThird, fourth, isFourth, built⟩ := next
    refine ⟨rest, ?_⟩
    rw [← Option.some.inj built, ← HexDigit.ofByte?_eq_some isFirst,
      ← HexDigit.ofByte?_eq_some isSecond, ← HexDigit.ofByte?_eq_some isThird,
      ← HexDigit.ofByte?_eq_some isFourth]
    rfl

theorem nextPiece_sound (next : nextPiece input = some piece) :
    ∃ rest, input = piece.text ++ rest := by
  cases input with
  | nil => exact absurd next (by simp [nextPiece])
  | cons byte rest =>
    simp only [nextPiece] at next
    split at next
    next isEscape =>
      subst isEscape
      cases rest with
      | nil => exact absurd next (by simp [nextEscape])
      | cons letter rest =>
        simp only [nextEscape] at next
        split at next
        next isUnicode =>
          subst isUnicode
          exact nextUnicode_sound next
        next =>
          obtain ⟨escape, found, built⟩ := Option.map_eq_some_iff.mp next
          refine ⟨rest, ?_⟩
          rw [← built, ← Escape.ofLetter?_eq_some found]
          rfl
    next =>
      split at next
      · exact ⟨rest, by rw [← Option.some.inj next]; rfl⟩
      · cases next

theorem scanFrom_drop (skip : Nat) (input : Bytes) :
    scanFrom skip input = scan (input.drop skip) := by
  induction skip generalizing input with
  | zero => rfl
  | succ skip ih =>
    cases input with
    | nil => rfl
    | cons byte rest => exact ih rest

theorem Piece.text_cons (piece : Piece) : ∃ byte rest, piece.text = byte :: rest ∧ byte ≠ 0x22 := by
  cases piece with
  | plain byte valid =>
    refine ⟨byte, [], rfl, ?_⟩
    rintro rfl
    exact absurd valid (by decide)
  | short escape => exact ⟨0x5c, [escape.letter], rfl, by decide⟩
  | unicode => exact ⟨0x5c, _, rfl, by decide⟩

theorem scan_piece (piece : Piece) (rest : Bytes) :
    scan (piece.text ++ rest) = (scan rest).map (fun found => (piece :: found.1, found.2)) := by
  obtain ⟨byte, others, spelt, notQuote⟩ := piece.text_cons
  have next := nextPiece_text piece rest
  have after : (piece.text ++ rest).drop piece.text.length = rest := List.drop_left
  rw [spelt] at next after ⊢
  simp only [List.cons_append, List.length_cons, List.drop_succ_cons] at next after ⊢
  simp only [scan, scanFrom, notQuote, next, spelt, List.length_cons, Nat.add_sub_cancel]
  rw [scanFrom_drop, after]
  rfl

theorem scan_bodyText (rest : Bytes) : scan (bodyText body ++
    0x22 :: rest) = some (body, rest) := by
  induction body with
  | nil => rfl
  | cons piece body ih =>
    have split : bodyText (piece :: body) ++ 0x22 :: rest = piece.text ++
        (bodyText body ++ 0x22 :: rest) := by
      simp [bodyText]
    rw [split, scan_piece, ih]
    rfl

theorem scan_sound {rest : Bytes} {body : List Piece}
    (scanned : scan input = some (body, rest)) : input = bodyText body ++ 0x22 :: rest := by
  induction length : input.length using Nat.strong_induction_on generalizing input body with
  | _ size ih =>
    cases input with
    | nil => exact absurd scanned (by simp [scan, scanFrom])
    | cons byte tail =>
      by_cases closes : byte = 0x22
      · simp only [scan, scanFrom, closes, if_true, Option.some.injEq, Prod.mk.injEq] at scanned
        rw [closes, ← scanned.1, ← scanned.2]
        rfl
      · cases next : nextPiece (byte :: tail) with
        | none => exact absurd scanned (by simp [scan, scanFrom, closes, next])
        | some piece =>
          obtain ⟨after, split⟩ := nextPiece_sound next
          rw [split, scan_piece, Option.map_eq_some_iff] at scanned
          obtain ⟨⟨found, left⟩, inner, built⟩ := scanned
          obtain ⟨rfl, rfl⟩ := Prod.mk.inj built
          have shorter : after.length < size := by
            obtain ⟨first, others, spelt, _⟩ := piece.text_cons
            rw [← length, split, spelt]
            simp only [List.cons_append, List.length_cons, List.length_append]
            omega
          rw [split, ih after.length shorter inner rfl]
          simp [bodyText]

inductive Symbol
  | byte (byte : UInt8)
  | half (code : Nat)
  deriving DecidableEq

def codeSymbols (code : Nat) : List Symbol :=
  if 0xd800 ≤ code ∧ code < 0xe000 then [.half code] else (encode (Char.ofNat code)).map .byte

def Piece.symbols : Piece → List Symbol
  | .plain byte _ => [.byte byte]
  | .short escape => [.byte escape.byte]
  | .unicode first second third fourth =>
    codeSymbols (((first.value * 16 + second.value) * 16 + third.value) * 16 + fourth.value)

def bodySymbols (body : List Piece) : List Symbol := body.flatMap Piece.symbols

def pairChar (high low : Nat) : Char :=
  Char.ofNat (0x10000 + (high - 0xd800) * 0x400 + (low - 0xdc00))

/-- A high surrogate and the low one after it are one character; any other
surrogate is U+FFFD. The first argument is a high surrogate still unpaired. -/
def resolveAfter : Option Nat → List Symbol → Bytes
  | none, [] => []
  | some _, [] => encode replacement
  | none, .byte byte :: rest => byte :: resolveAfter none rest
  | some _, .byte byte :: rest => encode replacement ++ byte :: resolveAfter none rest
  | none, .half code :: rest =>
    if code < 0xdc00 then resolveAfter (some code) rest
    else encode replacement ++ resolveAfter none rest
  | some high, .half code :: rest =>
    if code < 0xdc00 then encode replacement ++ resolveAfter (some code) rest
    else encode (pairChar high code) ++ resolveAfter none rest

def resolve (symbols : List Symbol) : Bytes := resolveAfter none symbols

/-- The Go string a literal decodes to. -/
def unquote (body : List Piece) : Bytes := coerce (resolve (bodySymbols body))

@[simp] theorem resolve_bytes (bytes : Bytes) : resolve (bytes.map .byte) = bytes := by
  induction bytes with
  | nil => rfl
  | cons byte bytes ih => exact congrArg (byte :: ·) ih

theorem valid_unquote : Valid (unquote body) := valid_coerce _

def htmlByte (byte : UInt8) : Bool := byte == 0x3c || byte == 0x3e || byte == 0x26

def unicodeByte (byte : UInt8) : Piece :=
  .unicode (.ofFin 0) (.ofFin 0) (.ofFin ⟨byte.toNat / 16, by have := byte.toNat_lt; omega⟩)
    (.ofFin ⟨byte.toNat % 16, by omega⟩)

def separatorPiece (last : Fin 16) : Piece :=
  .unicode (.ofFin 2) (.ofFin 0) (.ofFin 2) (.ofFin last)

def quoteByte (byte : UInt8) : Piece :=
  if byte = 0x22 then .short .quote
  else if byte = 0x5c then .short .backslash
  else if byte = 0x08 then .short .backspace
  else if byte = 0x0c then .short .formFeed
  else if byte = 0x0a then .short .newline
  else if byte = 0x0d then .short .carriageReturn
  else if byte = 0x09 then .short .tab
  else if htmlByte byte then unicodeByte byte
  else if valid : plainByte byte = true then .plain byte valid
  else unicodeByte byte

def quoteRune : Rune → List Piece
  | .stray _ => (encode replacement).map quoteByte
  | .scalar char =>
    if char = '\u2028' then [separatorPiece 8]
    else if char = '\u2029' then [separatorPiece 9]
    else (encode char).map quoteByte

/-- The literal the encoder writes for a Go string. -/
def quote (text : Bytes) : List Piece := (runes text).flatMap quoteRune

theorem quoteByte_symbols : (quoteByte byte).symbols = [.byte byte] := by
  revert byte
  apply forall_byte
  decide +kernel

theorem quoteRune_symbols (rune : Rune) :
    bodySymbols (quoteRune rune) = rune.coerced.map .byte := by
  cases rune with
  | stray byte =>
    have spelt : bodySymbols ((encode replacement).map quoteByte) =
        (encode replacement).map .byte := by decide
    exact spelt
  | scalar char =>
    simp only [quoteRune]
    split
    next separator => subst separator; decide
    next =>
      split
      next separator => subst separator; decide
      next =>
        simp only [bodySymbols, Rune.coerced, List.flatMap_map, quoteByte_symbols]
        exact List.flatMap_pure_eq_map ..

theorem quote_symbols : bodySymbols (quote text) = (coerce text).map .byte := by
  simp only [bodySymbols, quote, coerce, List.flatMap_assoc, List.map_flatMap]
  exact List.flatMap_congr (fun rune _ => quoteRune_symbols rune)

theorem unquote_quote : unquote (quote text) = coerce text := by
  rw [unquote, quote_symbols, resolve_bytes, coerce_coerce]

def Piece.isPlain : Piece → Bool
  | .plain _ _ => true
  | _ => false

def simpleByte (byte : UInt8) : Bool := decide (byte < 0x80) && plainByte byte && !htmlByte byte

theorem quoteByte_simple : simpleByte byte = true → (quoteByte byte).isPlain = true ∧
    (quoteByte byte).text = [byte] ∧
      [byte] = encode (Char.ofNat byte.toNat) ∧ Char.ofNat byte.toNat ≠ '\u2028' ∧
      Char.ofNat byte.toNat ≠ '\u2029' := by
  revert byte
  apply forall_byte
  decide +kernel

theorem quote_simple {text : Bytes} (simple : text.all simpleByte = true) :
    (quote text).all Piece.isPlain = true ∧ bodyText (quote text) = text := by
  induction text with
  | nil => exact ⟨rfl, rfl⟩
  | cons byte rest ih =>
    rw [List.all_cons, Bool.and_eq_true] at simple
    obtain ⟨isPlain, spelt, single, notLine, notParagraph⟩ := quoteByte_simple byte simple.1
    obtain ⟨plain, same⟩ := ih simple.2
    have runes : runes (byte :: rest) = .scalar (Char.ofNat byte.toNat) :: runes rest := by
      rw [← runes_encode, ← single]
      rfl
    have pieces : quote (byte :: rest) = quoteByte byte :: quote rest := by
      simp only [quote, runes, List.flatMap_cons, quoteRune, notLine, notParagraph, if_false]
      rw [← single]
      rfl
    rw [pieces]
    refine ⟨by simp [isPlain, plain], ?_⟩
    rw [bodyText, List.flatMap_cons, spelt]
    exact congrArg (byte :: ·) same

theorem Piece.text_length (piece : Piece) : piece.text.length ≤ 6 := by
  cases piece with
  | plain byte valid => exact Nat.le_add_left 1 5
  | short escape => exact Nat.le_add_left 2 4
  | unicode first second third fourth => exact Nat.le_refl 6

theorem bodyText_length (body : List Piece) : (bodyText body).length ≤ 6 * body.length := by
  induction body with
  | nil => exact Nat.le_refl 0
  | cons piece body ih =>
    have short := piece.text_length
    rw [bodyText, List.flatMap_cons, List.length_append, List.length_cons]
    have rest : (body.flatMap Piece.text).length ≤ 6 * body.length := ih
    omega

theorem quoteScalar_length (char : Char) :
    (bodyText (quoteRune (.scalar char))).length ≤ 6 * char.utf8Size := by
  have positive := char.utf8Size_pos
  refine (bodyText_length _).trans (Nat.mul_le_mul_left 6 ?_)
  simp only [quoteRune]
  split
  · exact positive
  · split
    · exact positive
    · rw [List.length_map, encode_length]

theorem quote_length : (bodyText (quote text)).length ≤ 6 * text.length := by
  have split : ∀ rune rest, bodyText (List.flatMap quoteRune (rune :: rest)) =
      bodyText (quoteRune rune) ++ bodyText (rest.flatMap quoteRune) := by
    intro rune rest
    rw [bodyText, List.flatMap_cons, List.flatMap_append]
    rfl
  induction text using pieces_induction with
  | nil => exact Nat.le_refl 0
  | char char rest ih =>
    have here := quoteScalar_length char
    rw [quote, runes_encode, split, List.length_append, List.length_append, encode_length]
    change _ + (bodyText (quote rest)).length ≤ _
    omega
  | stray byte rest stray ih =>
    have here : (bodyText (quoteRune (.stray byte))).length = 3 := by
      change (bodyText ((encode replacement).map quoteByte)).length = 3
      decide
    rw [quote, runes_stray stray, split, List.length_append, List.length_cons]
    change _ + (bodyText (quote rest)).length ≤ _
    omega

theorem valid_simple {text : Bytes} (simple : text.all simpleByte = true) : Valid text :=
  valid_ascii (fun byte member => by
    have here := List.all_eq_true.mp simple byte member
    simp only [simpleByte, Bool.and_eq_true, decide_eq_true_eq] at here
    exact here.1.1)

def separator : Piece → List Piece → Option (Fin 16 × List Piece)
  | .plain first _, .plain second _ :: .plain third _ :: rest =>
    if first = 0xe2 ∧ second = 0x80 then
      if third = 0xa8 then some (8, rest)
      else if third = 0xa9 then some (9, rest)
      else none
    else none
  | _, _ => none

def escapePiece : Piece → Piece
  | .plain byte valid => if htmlByte byte then unicodeByte byte else .plain byte valid
  | piece => piece

def escapeOnto (piece : Piece) (rest : List Piece) : List Piece :=
  match separator piece rest with
  | some (last, rest) => separatorPiece last :: rest
  | none => escapePiece piece :: rest

/-- The escapes `HTMLEscape` adds to a literal. -/
def escapeHTML (body : List Piece) : List Piece := body.foldr escapeOnto []

theorem escapeHTML_cons (piece : Piece) (body : List Piece) :
    escapeHTML (piece :: body) = escapeOnto piece (escapeHTML body) := rfl

theorem separator_eq_some {rest after : List Piece} {last : Fin 16}
    (found : separator piece rest = some (last, after)) :
    ∃ third valid second tail, piece = .plain 0xe2 valid ∧
      rest = .plain 0x80 second :: .plain third tail :: after ∧
      (separatorPiece last).symbols = [.byte 0xe2, .byte 0x80, .byte third] ∧
      htmlByte third = false ∧ third ≠ 0xe2 := by
  fun_cases separator piece rest <;> simp_all [separator]
  · obtain ⟨rfl, rfl⟩ := found
    decide
  · obtain ⟨rfl, rfl⟩ := found
    decide

theorem unicodeByte_symbols (html : htmlByte byte = true) :
    (unicodeByte byte).symbols = [.byte byte] := by
  simp only [htmlByte, Bool.or_eq_true, beq_iff_eq] at html
  rcases html with (rfl | rfl) | rfl <;> decide

theorem escapePiece_symbols (piece : Piece) : (escapePiece piece).symbols = piece.symbols := by
  cases piece with
  | plain byte valid =>
    simp only [escapePiece]
    split
    next html => exact unicodeByte_symbols byte html
    next => rfl
  | short escape => rfl
  | unicode first second third fourth => rfl

theorem escapeOnto_symbols (piece : Piece) (rest : List Piece) :
    bodySymbols (escapeOnto piece rest) = piece.symbols ++ bodySymbols rest := by
  unfold escapeOnto
  split
  next last after found =>
    obtain ⟨third, valid, second, tail, rfl, rfl, spelt, _, _⟩ := separator_eq_some found
    simp only [bodySymbols, List.flatMap_cons, spelt]
    rfl
  next => simp [bodySymbols, escapePiece_symbols]

theorem escapeHTML_symbols : bodySymbols (escapeHTML body) = bodySymbols body := by
  induction body with
  | nil => rfl
  | cons piece body ih =>
    rw [escapeHTML_cons, escapeOnto_symbols, ih]
    simp [bodySymbols]

theorem escapeOnto_plain (valid : plainByte byte = true) (rest : List Piece)
    (notHTML : htmlByte byte = false) (notLead : byte ≠ 0xe2) :
    escapeOnto (.plain byte valid) rest = .plain byte valid :: rest := by
  have absent : separator (.plain byte valid) rest = none := by
    unfold separator
    split <;> simp_all
  simp [escapeOnto, absent, escapePiece, notHTML]

theorem escapePiece_escapePiece (piece : Piece) :
    escapePiece (escapePiece piece) = escapePiece piece := by
  cases piece with
  | plain byte valid =>
    cases html : htmlByte byte <;> simp [escapePiece, html, unicodeByte]
  | short escape => rfl
  | unicode first second third fourth => rfl

theorem separator_escapePiece (piece : Piece) (rest : List Piece)
    (absent : separator piece rest = none) : separator (escapePiece piece) rest = none := by
  cases piece with
  | plain byte valid =>
    simp only [escapePiece]
    split
    · rfl
    · exact absent
  | short escape => rfl
  | unicode first second third fourth => rfl

theorem escapeOnto_stable (piece : Piece) (rest : List Piece) (stable : escapeHTML rest = rest) :
    escapeHTML (escapeOnto piece rest) = escapeOnto piece rest := by
  cases found : separator piece rest with
  | none =>
    have stays := separator_escapePiece piece rest found
    simp only [escapeOnto, found, escapeHTML_cons, stable, stays, escapePiece_escapePiece]
  | some result =>
    obtain ⟨last, after⟩ := result
    obtain ⟨third, valid, second, tail, rfl, rfl, _, notHTML, notLead⟩ := separator_eq_some found
    rw [escapeHTML_cons, escapeHTML_cons, escapeOnto_plain third tail _ notHTML notLead,
      escapeOnto_plain 0x80 second _ (by decide) (by decide)] at stable
    have inner : escapeHTML after = after := by simpa using stable
    simp only [escapeOnto, found, escapeHTML_cons, inner]
    rfl

theorem escapeHTML_escapeHTML : escapeHTML (escapeHTML body) = escapeHTML body := by
  induction body with
  | nil => rfl
  | cons piece body ih => exact escapeOnto_stable piece (escapeHTML body) ih

theorem unquote_escapeHTML : unquote (escapeHTML body) = unquote body := by
  rw [unquote, escapeHTML_symbols, unquote]

end Json
