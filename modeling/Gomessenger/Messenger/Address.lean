import Gomessenger.Lib.Dotted
import Gomessenger.Messenger.RoundTrip

/-! The broker names `namespace.kind.descriptor.vN`. -/

namespace Gomessenger.Messenger

open Utf8 Dotted
open Json (intText intOf?_intText)

theorem kind_plain (kind : Kind) (wire : kind.validWire = true) : dot ∉ kind.text := by
  cases kind with
  | command => decide
  | event => decide
  | query => exact absurd wire (by decide)
  | other text => exact absurd wire (by simp [Kind.validWire])

theorem intText_injective {left right : Int64} (same : intText left.toInt = intText right.toInt) :
    left = right := by
  have read := intOf?_intText left.toInt
  rw [same, intOf?_intText] at read
  exact (Int64.toInt_inj.mp (Option.some.inj read)).symm

theorem intText_plain (value : Int) : dot ∉ intText value := by
  intro inside
  have digits : dot ∈ Decimal.text value.natAbs := by
    unfold intText at inside
    split at inside
    · exact (List.mem_cons.mp inside).resolve_left (by decide)
    · exact inside
  exact absurd (Strings.text_digits _ dot digits) (by decide)

def versionToken (version : Int64) : Bytes := 0x76 :: intText version.toInt

theorem versionToken_plain (version : Int64) : dot ∉ versionToken version := by
  intro inside
  exact intText_plain _ ((List.mem_cons.mp inside).resolve_left (by decide))

theorem segments_address (namespaceName name : Bytes) {kind : Kind} (version : Int64)
    (wire : kind.validWire = true) :
    segments (namespaceName ++ 0x2e :: (kind.text ++
      0x2e :: (name ++ ofString ".v" ++ intText version.toInt))) =
      segments namespaceName ++ kind.text :: (segments name ++ [versionToken version]) := by
  have ending : name ++ ofString ".v" ++ intText version.toInt = name ++
      dot :: versionToken version := by
    rw [List.append_assoc]
    rfl
  calc
    _ = segments namespaceName ++ segments (kind.text ++
        dot :: (name ++ dot :: versionToken version)) := by
      rw [ending]
      exact segments_append ..
    _ = segments namespaceName ++ (segments kind.text ++
        (segments name ++ segments (versionToken version))) := by
      rw [segments_append, segments_append]
    _ = _ := by
      rw [segments_plain (kind_plain kind wire), segments_plain (versionToken_plain version)]
      rfl

theorem kind_text_injective {left right : Kind} (isLeft : left.validWire = true)
    (isRight : right.validWire = true) (same : left.text = right.text) : left = right := by
  rw [← Kind.ofText_wire isLeft, ← Kind.ofText_wire isRight, same]

theorem descriptor_parts {kind otherKind : Kind} {name other : Bytes} {version otherVersion : Int64}
    (wire : kind.validWire = true) (otherWire : otherKind.validWire = true)
    (same : kind.text :: (segments name ++ [versionToken version]) =
      otherKind.text :: (segments other ++ [versionToken otherVersion])) :
    kind = otherKind ∧ name = other ∧ version = otherVersion := by
  obtain ⟨kinds, ends⟩ := List.cons.inj same
  obtain ⟨names, versions⟩ := List.append_inj' ends (by simp)
  have digits := (List.cons.inj (List.singleton_inj.mp versions)).2
  exact ⟨kind_text_injective wire otherWire kinds, segments_injective names,
    intText_injective digits⟩

end Gomessenger.Messenger
