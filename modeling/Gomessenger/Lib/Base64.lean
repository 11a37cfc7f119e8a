import Gomessenger.Lib.Utf8

/-! Base64 with the standard alphabet and padding, and with the URL alphabet
without padding. A decoder ignores line breaks and the unused bits of the last
digit. -/

namespace Base64

inductive Encoding
  | std
  | rawURL
  deriving DecidableEq

def Encoding.padded : Encoding → Bool
  | .std => true
  | .rawURL => false

def Encoding.digit (encoding : Encoding) (value : Nat) : UInt8 :=
  if value < 26 then UInt8.ofNat (0x41 + value)
  else if value < 52 then UInt8.ofNat (0x61 + (value - 26))
  else if value < 62 then UInt8.ofNat (0x30 + (value - 52))
  else match encoding with
    | .std => if value = 62 then 0x2b else 0x2f
    | .rawURL => if value = 62 then 0x2d else 0x5f

def Encoding.value? (encoding : Encoding) (byte : UInt8) : Option Nat :=
  if 0x41 ≤ byte ∧ byte ≤ 0x5a then some (byte.toNat - 0x41)
  else if 0x61 ≤ byte ∧ byte ≤ 0x7a then some (byte.toNat - 0x61 + 26)
  else if 0x30 ≤ byte ∧ byte ≤ 0x39 then some (byte.toNat - 0x30 + 52)
  else match encoding with
    | .std => if byte = 0x2b then some 62 else if byte = 0x2f then some 63 else none
    | .rawURL => if byte = 0x2d then some 62 else if byte = 0x5f then some 63 else none

def pad : UInt8 := 0x3d

def lineBreak (byte : UInt8) : Bool := byte == 0x0a || byte == 0x0d

def Encoding.pads (encoding : Encoding) (count : Nat) : Bytes :=
  if encoding.padded then List.replicate count pad else []

def encode (encoding : Encoding) : Bytes → Bytes
  | [] => []
  | [first] =>
    let bits := first.toNat * 16
    encoding.digit (bits / 64) :: encoding.digit (bits % 64) :: encoding.pads 2
  | [first, second] =>
    let bits := (first.toNat * 256 + second.toNat) * 4
    encoding.digit (bits / 4096) :: encoding.digit (bits / 64 % 64) :: encoding.digit
      (bits % 64) :: encoding.pads 1
  | first :: second :: third :: rest =>
    let bits := (first.toNat * 256 + second.toNat) * 256 + third.toNat
    encoding.digit (bits / 262144) :: encoding.digit (bits / 4096 % 64) ::
      encoding.digit (bits / 64 % 64) :: encoding.digit (bits % 64) :: encode encoding rest

def Encoding.one? (encoding : Encoding) (first second : UInt8) : Option Bytes := do
  let bits := (← encoding.value? first) * 64 + (← encoding.value? second)
  return [UInt8.ofNat (bits / 16)]

def Encoding.two? (encoding : Encoding) (first second third : UInt8) : Option Bytes := do
  let bits := ((← encoding.value? first) * 64 + (← encoding.value? second)) * 64 +
    (← encoding.value? third)
  return [UInt8.ofNat (bits / 1024), UInt8.ofNat (bits / 4 % 256)]

def Encoding.three? (encoding : Encoding) (first second third fourth : UInt8) : Option Bytes := do
  let bits := (((← encoding.value? first) * 64 + (← encoding.value? second)) * 64 +
    (← encoding.value? third)) * 64 + (← encoding.value? fourth)
  return [UInt8.ofNat (bits / 65536), UInt8.ofNat (bits / 256 % 256), UInt8.ofNat (bits % 256)]

def decodeDigits (encoding : Encoding) : Bytes → Option Bytes
  | [] => some []
  | [_] => none
  | [first, second] => if encoding.padded then none else encoding.one? first second
  | [first, second, third] => if encoding.padded then none else encoding.two? first second third
  | first :: second :: third :: fourth :: rest =>
    if encoding.padded = true ∧ fourth = pad then
      if rest ≠ [] then none
      else if third = pad then encoding.one? first second
      else encoding.two? first second third
    else do
      let opening ← encoding.three? first second third fourth
      return opening ++ (← decodeDigits encoding rest)

def decode (encoding : Encoding) (text : Bytes) : Option Bytes :=
  decodeDigits encoding (text.filter (fun byte => !lineBreak byte))

variable (encoding : Encoding) (bytes : Bytes) (first : UInt8)

theorem digit_facts : ∀ value < 64, encoding.value? (encoding.digit value) = some value ∧
    encoding.digit value ≠ pad ∧
      lineBreak (encoding.digit value) = false := by
  cases encoding <;> decide +kernel

variable {value : Nat}

theorem value?_digit (small : value < 64) :
    encoding.value? (encoding.digit value) = some value := (digit_facts encoding value small).1

theorem digit_ne_pad (small : value < 64) : encoding.digit value ≠ pad :=
    (digit_facts encoding value small).2.1

theorem digit_stays (small : value < 64) :
    lineBreak (encoding.digit value) = false := (digit_facts encoding value small).2.2

theorem one?_digits :
    encoding.one? (encoding.digit (first.toNat * 16 / 64))
    (encoding.digit (first.toNat * 16 % 64)) = some [first] := by
  have bound := first.toNat_lt
  have bits : (first.toNat * 16 / 64 * 64 + first.toNat * 16 % 64) / 16 = first.toNat := by omega
  simp [Encoding.one?, value?_digit encoding (show first.toNat * 16 / 64 < 64 by omega),
    value?_digit encoding (show first.toNat * 16 % 64 < 64 by omega), bits]

theorem two?_digits (second : UInt8) (bits : Nat)
    (packed : bits = (first.toNat * 256 + second.toNat) * 4) :
    encoding.two? (encoding.digit (bits / 4096)) (encoding.digit (bits / 64 % 64))
      (encoding.digit (bits % 64)) = some [first, second] := by
  have firstBound := first.toNat_lt
  have secondBound := second.toNat_lt
  have high : ((bits / 4096 * 64 + bits / 64 % 64) * 64 + bits % 64) / 1024 = first.toNat := by
    omega
  have low : ((bits / 4096 * 64 + bits / 64 % 64) * 64 + bits % 64) / 4 % 256 = second.toNat := by
    omega
  simp [Encoding.two?, value?_digit encoding (show bits / 4096 < 64 by omega),
    value?_digit encoding (show bits / 64 % 64 < 64 by omega),
    value?_digit encoding (show bits % 64 < 64 by omega), high, low]

theorem three?_digits (second third : UInt8) (bits : Nat)
    (packed : bits = (first.toNat * 256 + second.toNat) * 256 + third.toNat) :
    encoding.three? (encoding.digit (bits / 262144)) (encoding.digit (bits / 4096 % 64))
      (encoding.digit (bits / 64 % 64)) (encoding.digit (bits % 64)) =
        some [first, second, third] := by
  have firstBound := first.toNat_lt
  have secondBound := second.toNat_lt
  have thirdBound := third.toNat_lt
  have whole : ((bits / 262144 * 64 + bits / 4096 % 64) * 64 + bits / 64 % 64) * 64 + bits % 64 =
      bits := by omega
  have high : bits / 65536 = first.toNat := by omega
  have middle : bits / 256 % 256 = second.toNat := by omega
  have low : bits % 256 = third.toNat := by omega
  simp [Encoding.three?, value?_digit encoding (show bits / 262144 < 64 by omega),
    value?_digit encoding (show bits / 4096 % 64 < 64 by omega),
    value?_digit encoding (show bits / 64 % 64 < 64 by omega),
    value?_digit encoding (show bits % 64 < 64 by omega), whole, high, middle, low]

theorem pads_stay (count : Nat) : (encoding.pads count).filter (fun byte => !lineBreak byte) =
    encoding.pads count := by
  unfold Encoding.pads
  split
  · exact List.filter_eq_self.mpr (fun byte member => by
      rw [List.eq_of_mem_replicate member]; decide)
  · rfl

theorem encode_stays : (encode encoding bytes).filter (fun byte => !lineBreak byte) =
    encode encoding bytes := by
  fun_induction encode encoding bytes with
  | case1 => rfl
  | case2 first bits =>
    have bound := first.toNat_lt
    simp [digit_stays encoding (show bits / 64 < 64 by omega),
      digit_stays encoding (show bits % 64 < 64 by omega), pads_stay]
  | case3 first second bits =>
    have firstBound := first.toNat_lt
    have secondBound := second.toNat_lt
    simp [digit_stays encoding (show bits / 4096 < 64 by omega),
      digit_stays encoding (show bits / 64 % 64 < 64 by omega),
      digit_stays encoding (show bits % 64 < 64 by omega), pads_stay]
  | case4 first second third rest bits ih =>
    have firstBound := first.toNat_lt
    have secondBound := second.toNat_lt
    have thirdBound := third.toNat_lt
    simp [digit_stays encoding (show bits / 262144 < 64 by omega),
      digit_stays encoding (show bits / 4096 % 64 < 64 by omega),
      digit_stays encoding (show bits / 64 % 64 < 64 by omega),
      digit_stays encoding (show bits % 64 < 64 by omega), ih]

theorem decodeDigits_encode : decodeDigits encoding (encode encoding bytes) = some bytes := by
  fun_induction encode encoding bytes with
  | case1 => rfl
  | case2 first bits =>
    have digits := one?_digits encoding first
    cases encoding <;> simpa [decodeDigits, Encoding.pads, Encoding.padded] using digits
  | case3 first second bits =>
    have bound := first.toNat_lt
    have notPad := digit_ne_pad encoding (show bits % 64 < 64 by omega)
    have digits := two?_digits encoding first second bits rfl
    cases encoding <;> simpa [decodeDigits, Encoding.pads, Encoding.padded, notPad] using digits
  | case4 first second third rest bits ih =>
    have notPad := digit_ne_pad encoding (show bits % 64 < 64 by omega)
    have digits := three?_digits encoding first second third bits rfl
    simp [decodeDigits, notPad, digits, ih]

theorem decode_encode : decode encoding (encode encoding bytes) = some bytes := by
  rw [decode, encode_stays, decodeDigits_encode]

theorem encode_length : (encode .std bytes).length = (bytes.length + 2) / 3 * 4 := by
  fun_induction encode .std bytes with
  | case1 => rfl
  | case2 first bits => simp [Encoding.pads, Encoding.padded]
  | case3 first second bits => simp [Encoding.pads, Encoding.padded]
  | case4 first second third rest bits ih =>
    simp only [List.length_cons, ih]
    omega

def digitByte (byte : UInt8) : Bool := (Encoding.std.value? byte).isSome || byte == pad

theorem encode_digitBytes : (encode .std bytes).all digitByte = true := by
  have digits : ∀ value < 64, digitByte (Encoding.std.digit value) = true := by
    intro value small
    simp [digitByte, value?_digit .std small]
  have pads : ∀ count, (Encoding.std.pads count).all digitByte = true := by
    intro count
    exact List.all_eq_true.mpr (fun byte member => by rw [List.eq_of_mem_replicate member]; decide)
  fun_induction encode .std bytes with
  | case1 => rfl
  | case2 first bits =>
    have bound := first.toNat_lt
    simp [digits (bits / 64) (by omega), digits (bits % 64) (by omega), pads]
  | case3 first second bits =>
    have firstBound := first.toNat_lt
    have secondBound := second.toNat_lt
    simp [digits (bits / 4096) (by omega), digits (bits / 64 % 64) (by omega),
      digits (bits % 64) (by omega), pads]
  | case4 first second third rest bits ih =>
    have firstBound := first.toNat_lt
    have secondBound := second.toNat_lt
    have thirdBound := third.toNat_lt
    simp [digits (bits / 262144) (by omega), digits (bits / 4096 % 64) (by omega),
      digits (bits / 64 % 64) (by omega), digits (bits % 64) (by omega), ih]

end Base64
