import Gomessenger.Lib.Calendar
import Gomessenger.Lib.Decimal

/-! RFC 3339 timestamps with nanoseconds.

A stamp is an instant and the zone it is shown in. The strict parser is the one
of JSON; the lenient one also reads an hour of one digit, a comma before the
fraction, and offsets of 24 hours and 60 minutes. -/

namespace Rfc3339

open Calendar Decimal Scan

/-- Nanoseconds since the start of year 1, and seconds east of UTC. -/
structure Stamp where
  nanos : Int
  offset : Int
  deriving DecidableEq, Repr

namespace Stamp

def zero : Stamp := ⟨0, 0⟩

def isZero (stamp : Stamp) : Bool := stamp.nanos == 0

def utc (stamp : Stamp) : Stamp := ⟨stamp.nanos, 0⟩

@[simp] theorem utc_nanos (stamp : Stamp) : stamp.utc.nanos = stamp.nanos := rfl

@[simp] theorem utc_utc (stamp : Stamp) : stamp.utc.utc = stamp.utc := rfl

@[simp] theorem isZero_utc (stamp : Stamp) : stamp.utc.isZero = stamp.isZero := rfl

end Stamp

/-- `Time.Sub`, which stops at the ends of `Duration`. -/
def timeSub (left right : Stamp) : Int := max (-2 ^ 63)
    (min (2 ^ 63 - 1) (left.nanos - right.nanos))

def daySeconds : Int := 86400

structure Reading where
  date : Date
  hour : Nat
  minute : Nat
  second : Nat
  nano : Nat
  deriving DecidableEq, Repr

def readingOf (nanos : Int) : Reading :=
  let seconds := nanos / 1000000000
  let inDay := (seconds % daySeconds).toNat
  ⟨dateOf (seconds / daySeconds), inDay / 3600, inDay / 60 % 60, inDay % 60,
    (nanos % 1000000000).toNat⟩

def Reading.nanos (reading : Reading) : Int :=
  (dayOf reading.date * daySeconds + reading.hour * 3600 + reading.minute * 60 + reading.second) *
    1000000000 + reading.nano

variable (lenient : Bool) (digits : Bytes) (reading : Reading) (nanos : Int) (nano : Nat)

theorem readingOf_nanos : (readingOf nanos).nanos = nanos := by
  simp only [Reading.nanos, readingOf, dayOf_dateOf, daySeconds]
  omega

theorem readingOf_bounds : (readingOf nanos).hour < 24 ∧ (readingOf nanos).minute < 60 ∧
    (readingOf nanos).second < 60 ∧
      (readingOf nanos).nano < 1000000000 := by
  simp only [readingOf, daySeconds]
  omega

def trimZeros : Bytes → Bytes
  | [] => []
  | byte :: rest =>
    if byte = 0x30 ∧ trimZeros rest = [] then [] else byte :: trimZeros rest

def fractionText (nano : Nat) : Bytes :=
  if nano = 0 then [] else 0x2e :: trimZeros (padded 9 nano)

def zoneText (offset : Int) : Bytes :=
  if offset = 0 then [0x5a]
  else
    let minutes := offset.natAbs / 60
    (if offset < 0 then 0x2d else 0x2b) :: (padded 2 (minutes / 60) ++
      0x3a :: padded 2 (minutes % 60))

def yearText (year : Int) : Bytes :=
  let digits := if year.natAbs < 10000 then padded 4 year.natAbs else Decimal.text year.natAbs
  if year < 0 then 0x2d :: digits else digits

def Reading.text (reading : Reading) : Bytes :=
  yearText reading.date.year ++ 0x2d :: (padded 2 reading.date.month ++ 0x2d ::
    (padded 2 reading.date.day ++ 0x54 :: (padded 2 reading.hour ++ 0x3a ::
      (padded 2 reading.minute ++ 0x3a :: (padded 2 reading.second ++ fractionText reading.nano)))))

def display (stamp : Stamp) : Bytes := (readingOf stamp.nanos).text ++ [0x5a]

/-- The stamp in its zone. Years outside 0 to 9999 and offsets of a day or more
have no such text. -/
def format (stamp : Stamp) : Option Bytes :=
  let reading := readingOf (stamp.nanos + stamp.offset * 1000000000)
  if 0 ≤ reading.date.year ∧ reading.date.year ≤ 9999 ∧ stamp.offset.natAbs < 86400 then
    some (reading.text ++ zoneText stamp.offset)
  else none

def number (count low high : Nat) (input : Bytes) : Option (Nat × Bytes) := do
  let value ← value? (input.take count)
  if (input.take count).length = count ∧ low ≤ value ∧ value ≤ high then
    return (value, input.drop count)
  else none

def mark (byte : UInt8) : Bytes → Option Bytes
  | [] => none
  | first :: rest => if first = byte then some rest else none

def hourOf (lenient : Bool) (input : Bytes) : Option (Nat × Bytes) :=
  match number 2 0 23 input with
  | some found => some found
  | none => if lenient && !(input.take 2).all isDigit then number 1 0 23 input else none

/-- Nanoseconds of the digits after the point; digits past the ninth are dropped. -/
def nanosOf (digits : Bytes) : Option Nat :=
  value? (digits.take 9 ++ List.replicate (9 - digits.length) 0x30)

def fraction (lenient : Bool) : Bytes → Option (Nat × Bytes)
  | point :: rest =>
    if (point = 0x2e ∨ lenient = true ∧ point = 0x2c) ∧ rest.takeWhile isDigit ≠ [] then do
      return (← nanosOf (rest.takeWhile isDigit), rest.dropWhile isDigit)
    else some (0, point :: rest)
  | [] => some (0, [])

def zone (lenient : Bool) : Bytes → Option Int
  | [] => none
  | sign :: rest =>
    if sign = 0x5a then if rest = [] then some 0 else none
    else if sign = 0x2b ∨ sign = 0x2d then do
      let (hours, rest) ← number 2 0 (if lenient then 24 else 23) rest
      let rest ← mark 0x3a rest
      let (minutes, rest) ← number 2 0 (if lenient then 60 else 59) rest
      if rest ≠ [] then none
      else return (if sign = 0x2d then -1 else 1) * ((hours * 60 + minutes) * 60 : Nat)
    else none

def dateAt (input : Bytes) : Option (Date × Bytes) := do
  let (year, input) ← number 4 0 9999 input
  let input ← mark 0x2d input
  let (month, input) ← number 2 1 12 input
  let input ← mark 0x2d input
  let (day, input) ← number 2 1 (daysIn year month) input
  return (⟨year, month, day⟩, input)

def parse (lenient : Bool) (input : Bytes) : Option Stamp := do
  let (date, input) ← dateAt input
  let input ← mark 0x54 input
  let (hour, input) ← hourOf lenient input
  let input ← mark 0x3a input
  let (minute, input) ← number 2 0 59 input
  let input ← mark 0x3a input
  let (second, input) ← number 2 0 59 input
  let (nano, input) ← fraction lenient input
  let offset ← zone lenient input
  return ⟨(Reading.mk date hour minute second nano).nanos - offset * 1000000000, offset⟩

theorem number_padded (count low high value : Nat) (rest : Bytes) (positive : 0 < count)
    (fits : value < 10 ^ count) (above : low ≤ value) (below : value ≤ high) :
    number count low high (padded count value ++ rest) = some (value, rest) := by
  have taken : (padded count value ++ rest).take count = padded count value :=
    List.take_left' (padded_length count value)
  have dropped : (padded count value ++ rest).drop count = rest :=
    List.drop_left' (padded_length count value)
  simp [number, taken, dropped, value?_padded count value positive fits, above, below]

theorem mark_cons (byte : UInt8) (rest : Bytes) : mark byte (byte :: rest) = some rest := by
  simp [mark]

theorem trimZeros_restore :
    trimZeros digits ++ List.replicate (digits.length - (trimZeros digits).length) 0x30 =
      digits := by
  induction digits with
  | nil => rfl
  | cons byte rest ih =>
    simp only [trimZeros]
    split
    next zeros =>
      obtain ⟨rfl, empty⟩ := zeros
      rw [empty] at ih
      simpa [List.replicate_succ] using ih
    next => simpa using ih

theorem trimZeros_subset : ∀ byte ∈ trimZeros digits, byte ∈ digits := by
  intro byte member
  have restore := trimZeros_restore digits
  rw [← restore]
  exact List.mem_append_left _ member

theorem trimZeros_digits (width value : Nat) :
    (trimZeros (padded width value)).all isDigit = true :=
  List.all_eq_true.mpr (fun byte member =>
    List.all_eq_true.mp (padded_digits width value) byte (trimZeros_subset _ byte member))

theorem trimZeros_ne_nil {nano : Nat} (positive : nano ≠ 0) (small : nano < 1000000000) :
    trimZeros (padded 9 nano) ≠ [] := by
  intro empty
  have restore := trimZeros_restore (padded 9 nano)
  have spelt := value?_padded 9 nano (by decide) small
  rw [empty, padded_length, List.nil_append] at restore
  rw [← restore] at spelt
  exact positive (Option.some.inj (spelt.symm.trans (by decide)))

theorem nanosOf_trimZeros (small : nano < 1000000000) :
    nanosOf (trimZeros (padded 9 nano)) = some nano := by
  have restore := trimZeros_restore (padded 9 nano)
  rw [padded_length] at restore
  have short : (trimZeros (padded 9 nano)).length ≤ 9 := by
    have lengths := congrArg List.length restore
    rw [List.length_append, padded_length] at lengths
    omega
  rw [nanosOf, List.take_of_length_le short, restore]
  exact value?_padded 9 nano (by decide) small

def afterSeconds (byte : UInt8) : Bool := isDigit byte || byte == 0x2e || byte == 0x2c

theorem fraction_text (rest : Bytes) (small : nano < 1000000000) (stops : NotAt afterSeconds rest) :
    fraction lenient (fractionText nano ++ rest) = some (nano, rest) := by
  have notDigit : NotAt isDigit rest := by
    intro byte member
    have other := stops byte member
    simp only [afterSeconds, Bool.or_eq_false_iff] at other
    exact other.1.1
  by_cases whole : nano = 0
  · rw [fractionText, if_pos whole, List.nil_append, whole]
    cases rest with
    | nil => rfl
    | cons byte tail =>
      have other := stops byte rfl
      simp only [afterSeconds, Bool.or_eq_false_iff, beq_eq_false_iff_ne] at other
      simp [fraction, other.1.2, other.2]
  · obtain ⟨taken, dropped⟩ := takeWhile_text (trimZeros_digits 9 nano) notDigit
    simp [fractionText, whole, fraction, taken, dropped, trimZeros_ne_nil whole small,
      nanosOf_trimZeros nano small]

theorem dateAt_text (date : Date) (rest : Bytes) (valid : date.Valid) (early : 0 ≤ date.year)
    (late : date.year ≤ 9999) :
    dateAt (padded 4 date.year.toNat ++ 0x2d :: (padded 2 date.month ++ 0x2d ::
      (padded 2 date.day ++ rest))) = some (date, rest) := by
  obtain ⟨monthLow, monthHigh, dayLow, dayHigh⟩ := valid
  have year : (date.year.toNat : Int) = date.year := Int.toNat_of_nonneg early
  have long := daysIn_le date.year date.month
  have years := number_padded 4 0 9999 date.year.toNat
    (0x2d :: (padded 2 date.month ++ 0x2d :: (padded 2 date.day ++ rest))) (by decide) (by omega)
    (Nat.zero_le _) (by omega)
  have months := number_padded 2 1 12 date.month (0x2d :: (padded 2 date.day ++ rest)) (by decide)
    (by omega) monthLow monthHigh
  have days := number_padded 2 1 (daysIn date.year date.month) date.day rest (by decide)
    (by omega) dayLow dayHigh
  simp [dateAt, years, mark_cons, months, year, days]

theorem yearText_eq {year : Int} (early : 0 ≤ year) (late : year ≤ 9999) :
    yearText year = padded 4 year.toNat := by
  have small : year.natAbs < 10000 := by omega
  have same : year.natAbs = year.toNat := by omega
  rw [yearText, if_pos small, if_neg (Int.not_lt.mpr early), same]

variable {offset : Int}

theorem parse_text (valid : reading.date.Valid) (early : 0 ≤ reading.date.year)
    (late : reading.date.year ≤ 9999) (hours : reading.hour < 24) (minutes : reading.minute < 60)
    (seconds : reading.second < 60) (nanos : reading.nano < 1000000000) {ending : Bytes}
    (stops : NotAt afterSeconds ending) (zoned : zone lenient ending = some offset) :
    parse lenient (reading.text ++ ending) =
      some ⟨reading.nanos - offset * 1000000000, offset⟩ := by
  have fractions := fraction_text lenient reading.nano ending nanos stops
  have atSecond := number_padded 2 0 59 reading.second (fractionText reading.nano ++ ending)
    (by decide) (by omega) (Nat.zero_le _) (by omega)
  have atMinute := number_padded 2 0 59 reading.minute
    (0x3a :: (padded 2 reading.second ++ (fractionText reading.nano ++ ending)))
    (by decide) (by omega) (Nat.zero_le _) (by omega)
  have atHour := number_padded 2 0 23 reading.hour (0x3a :: (padded 2 reading.minute ++ 0x3a ::
      (padded 2 reading.second ++ (fractionText reading.nano ++ ending))))
    (by decide) (by omega) (Nat.zero_le _) (by omega)
  have atDate := dateAt_text reading.date (0x54 :: (padded 2 reading.hour ++
    0x3a :: (padded 2 reading.minute ++ 0x3a ::
      (padded 2 reading.second ++ (fractionText reading.nano ++ ending))))) valid early late
  simp only [Reading.text, yearText_eq early late, List.append_assoc, List.cons_append, parse,
    atDate, mark_cons, hourOf, atHour, atMinute, atSecond, fractions, zoned, Option.bind_eq_bind,
    Option.bind_some, Option.pure_def]

theorem zoneText_stops (offset : Int) : NotAt afterSeconds (zoneText offset) := by
  unfold zoneText
  split
  · exact notAt_cons (by decide)
  · split <;> exact notAt_cons (by decide)

theorem zone_text (whole : offset % 60 = 0) (small : offset.natAbs < 86400) :
    zone lenient (zoneText offset) = some offset := by
  unfold zoneText
  split
  next zero =>
    rw [zero]
    rfl
  next nonzero =>
    have minutes := number_padded 2 0 (if lenient then 60
      else 59) (offset.natAbs / 60 % 60) [] (by decide)
      (by omega) (Nat.zero_le _) (by split <;> omega)
    have hours := number_padded 2 0 (if lenient then 24 else 23) (offset.natAbs / 60 / 60)
      (0x3a :: padded 2 (offset.natAbs / 60 % 60)) (by decide) (by omega)
        (Nat.zero_le _) (by split <;> omega)
    rw [List.append_nil] at minutes
    have total : (offset.natAbs / 60 / 60 * 60 + offset.natAbs / 60 % 60) * 60 = offset.natAbs := by
      omega
    by_cases west : offset < 0
    · have magnitude : (offset.natAbs : Int) = -offset := by omega
      simp only [if_pos west, zone, hours, mark_cons, minutes, Option.bind_eq_bind,
        Option.bind_some, total, magnitude]
      simp
    · have magnitude : (offset.natAbs : Int) = offset := by omega
      simp only [if_neg west, zone, hours, mark_cons, minutes, Option.bind_eq_bind,
        Option.bind_some, total, magnitude]
      simp

variable {stamp : Stamp} {text : Bytes}

theorem parse_format_zoned (whole : stamp.offset % 60 = 0)
    (formatted : format stamp = some text) : parse lenient text = some stamp := by
  obtain ⟨⟨early, late, small⟩, spelt⟩ := Option.ite_none_right_eq_some.mp formatted
  obtain ⟨hours, minutes, seconds, nanos⟩ :=
    readingOf_bounds (stamp.nanos + stamp.offset * 1000000000)
  rw [← Option.some.inj spelt, parse_text lenient _ (dateOf_valid _) early late
    hours minutes seconds nanos
    (zoneText_stops _) (zone_text lenient whole small), readingOf_nanos, Int.add_sub_cancel]

theorem zone_whole {lenient : Bool} (zoned : zone lenient text = some offset) :
    offset % 60 = 0 := by
  unfold zone at zoned
  split at zoned
  · cases zoned
  · split at zoned
    · split at zoned
      · rw [← Option.some.inj zoned]
        rfl
      · cases zoned
    · split at zoned
      · obtain ⟨⟨hours, _⟩, _, zoned⟩ := Option.bind_eq_some_iff.mp zoned
        obtain ⟨_, _, zoned⟩ := Option.bind_eq_some_iff.mp zoned
        obtain ⟨⟨minutes, _⟩, _, zoned⟩ := Option.bind_eq_some_iff.mp zoned
        obtain ⟨_, same⟩ := Option.ite_none_left_eq_some.mp zoned
        rw [← Option.some.inj same]
        split <;> omega
      · cases zoned

theorem parse_whole {lenient : Bool} (parsed : parse lenient text = some stamp) :
    stamp.offset % 60 = 0 := by
  simp only [parse, Option.bind_eq_bind, Option.bind_eq_some_iff] at parsed
  obtain ⟨_, _, _, _, _, _, _, _, _, _, _, _, _, _, _, _, offset, zoned, same⟩ := parsed
  rw [← Option.some.inj same]
  exact zone_whole zoned

theorem format_utc (stamp : Stamp) : format stamp.utc =
      if 0 ≤ (readingOf stamp.nanos).date.year ∧ (readingOf stamp.nanos).date.year ≤ 9999 then
        some ((readingOf stamp.nanos).text ++ [0x5a])
      else none := by
  simp [format, Stamp.utc, zoneText]

def stampByte (byte : UInt8) : Bool :=
  isDigit byte || byte == 0x2d || byte == 0x2b || byte == 0x3a || byte == 0x2e ||
    byte == 0x54 || byte == 0x5a

theorem stampByte_digits (digits : text.all isDigit = true) : text.all stampByte = true :=
  List.all_eq_true.mpr (fun byte member => by
    simp [stampByte, List.all_eq_true.mp digits byte member])

theorem text_stampBytes : reading.text.all stampByte = true := by
  have marks : stampByte 0x2d = true ∧ stampByte 0x54 = true ∧ stampByte 0x3a = true ∧
      stampByte 0x2e = true := by decide
  have padding : ∀ width value, (padded width value).all stampByte = true :=
    fun width value => stampByte_digits (padded_digits width value)
  have fractions : (fractionText reading.nano).all stampByte = true := by
    unfold fractionText
    split
    · rfl
    · rw [List.all_cons, marks.2.2.2, stampByte_digits (trimZeros_digits 9 reading.nano)]
      rfl
  have years : (yearText reading.date.year).all stampByte = true := by
    have digits : (Decimal.text reading.date.year.natAbs).all isDigit = true :=
      (textFrom_spec _ _ (Nat.lt_succ_self _)).2.1
    simp only [yearText]
    split <;> split <;> simp only [List.all_cons, padding,
      stampByte_digits digits, marks, Bool.and_self]
  simp [Reading.text, padding, years, fractions, marks]

theorem zoneText_stampBytes (offset : Int) : (zoneText offset).all stampByte = true := by
  have marks : stampByte 0x5a = true ∧ stampByte 0x2d = true ∧ stampByte 0x2b = true ∧
      stampByte 0x3a = true := by
    decide
  have padding : ∀ width value, (padded width value).all stampByte = true :=
    fun width value => stampByte_digits (padded_digits width value)
  unfold zoneText
  split
  · simp [marks]
  · split <;> simp only [List.all_cons, List.all_append, padding, marks, Bool.and_self]

theorem format_stampBytes (formatted : format stamp = some text) : text.all stampByte = true := by
  obtain ⟨_, spelt⟩ := Option.ite_none_right_eq_some.mp formatted
  rw [← Option.some.inj spelt, List.all_append, text_stampBytes, zoneText_stampBytes]
  rfl

/-- Both parsers read the text of a stamp in UTC. -/
theorem parse_format (formatted : format stamp.utc = some text) :
    parse lenient text = some stamp.utc := by
  exact parse_format_zoned lenient rfl formatted

theorem display_of_format (formatted : format stamp.utc = some text) : display stamp = text := by
  rw [format_utc, Option.ite_none_right_eq_some] at formatted
  exact Option.some.inj formatted.2

theorem display_ne_nil (stamp : Stamp) : display stamp ≠ [] := by
  simp [display]

theorem trimZeros_length : (trimZeros digits).length ≤ digits.length := by
  have restored := congrArg List.length (trimZeros_restore digits)
  rw [List.length_append] at restored
  omega

theorem display_length (formatted : format stamp.utc = some text) :
    (display stamp).length ≤ 30 := by
  rw [format_utc, Option.ite_none_right_eq_some] at formatted
  obtain ⟨⟨early, late⟩, _⟩ := formatted
  have fraction : (fractionText (readingOf stamp.nanos).nano).length ≤ 10 := by
    unfold fractionText
    split
    · exact Nat.zero_le 10
    · have short := trimZeros_length (padded 9 (readingOf stamp.nanos).nano)
      rw [padded_length] at short
      exact Nat.succ_le_succ short
  simp only [display, Reading.text, yearText_eq early late, List.length_append, List.length_cons,
    padded_length, List.length_nil]
  omega

/-- A clock that is more than the longest `Duration` away from years that have
no text. -/
def Stamp.Ordinary (stamp : Stamp) : Prop :=
  1000 ≤ (readingOf stamp.nanos).date.year ∧ (readingOf stamp.nanos).date.year ≤ 9000

theorem format_ordinary (ordinary : stamp.Ordinary) (shift : Int) (low : -2 ^ 63 ≤ shift)
    (high : shift < 2 ^ 63) :
    (format (⟨stamp.nanos + shift, 0⟩ : Stamp).utc).isSome = true := by
  have bounds := yearOf_bounds (stamp.nanos / 1000000000 / daySeconds)
  have shifted := yearOf_bounds ((stamp.nanos + shift) / 1000000000 / daySeconds)
  obtain ⟨early, late⟩ := ordinary
  have length : ∀ year, yearLength year ≤ 366 := by
    intro year
    unfold yearLength
    split <;> omega
  have last := length (yearOf (stamp.nanos / 1000000000 / daySeconds))
  have lastShifted := length (yearOf ((stamp.nanos + shift) / 1000000000 / daySeconds))
  simp only [readingOf, dateOf] at early late
  have years : 0 ≤ yearOf ((stamp.nanos + shift) / 1000000000 / daySeconds) ∧
      yearOf ((stamp.nanos + shift) / 1000000000 / daySeconds) ≤ 9999 := by
    simp only [yearStart, daySeconds] at bounds shifted early late last lastShifted ⊢
    omega
  rw [format_utc, if_pos (by simpa only [readingOf, dateOf] using years)]
  rfl

theorem Stamp.Ordinary.dated (ordinary : stamp.Ordinary) :
    (format stamp.utc).isSome = true ∧ stamp.isZero = false := by
  constructor
  · have shown := format_ordinary ordinary 0 (by decide) (by decide)
    rw [Int.add_zero] at shown
    exact shown
  · apply Bool.eq_false_iff.mpr
    intro zero
    have early := ordinary.1
    rw [eq_of_beq zero] at early
    exact absurd early (by decide)

end Rfc3339
