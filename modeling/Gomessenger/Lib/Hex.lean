import Gomessenger.Lib.JsonString

/-! Hexadecimal texts of byte strings. -/

namespace Hex

open Json (hexByte hexValue? hexValue?_hexByte)

def encode : Bytes → Bytes
  | [] => []
  | byte :: rest => hexByte (byte.toNat / 16) :: hexByte (byte.toNat % 16) :: encode rest

def decode : Bytes → Option Bytes
  | [] => some []
  | [_] => none
  | high :: low :: rest => do
      let upper ← hexValue? high
      let lower ← hexValue? low
      let bytes ← decode rest
      return UInt8.ofNat (upper * 16 + lower) :: bytes

theorem encode_length (bytes : Bytes) : (encode bytes).length = 2 * bytes.length := by
  induction bytes with
  | nil => rfl
  | cons byte rest ih =>
    simp only [encode, List.length_cons, ih]
    omega

theorem decode_encode (bytes : Bytes) : decode (encode bytes) = some bytes := by
  induction bytes with
  | nil => rfl
  | cons byte rest ih =>
    have small := byte.toNat_lt
    have upper := hexValue?_hexByte (byte.toNat / 16) (by omega)
    have lower := hexValue?_hexByte (byte.toNat % 16) (by omega)
    have whole : byte.toNat / 16 * 16 + byte.toNat % 16 = byte.toNat := by omega
    simp only [encode, decode, upper, lower, ih, Option.bind_eq_bind, Option.bind_some,
      Option.pure_def, whole, UInt8.ofNat_toNat]

theorem encode_injective {left right : Bytes} (same : encode left = encode right) :
    left = right := by
  have decoded := decode_encode left
  rw [same, decode_encode] at decoded
  exact (Option.some.inj decoded).symm

theorem encode_all {group : UInt8 → Bool} (digits : ∀ value < 16,
    group (hexByte value) = true) (bytes : Bytes) :
    (encode bytes).all group = true := by
  induction bytes with
  | nil => rfl
  | cons byte rest ih =>
    have small := byte.toNat_lt
    rw [encode, List.all_cons, List.all_cons, digits _ (by omega), digits _ (by omega), ih]
    rfl

end Hex
