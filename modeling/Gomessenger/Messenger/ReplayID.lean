import Gomessenger.Lib.Hex
import Gomessenger.Messenger.Types

/-! The replay IDs of both adapters: a digest in hexadecimal after a fixed text. -/

namespace Gomessenger.Messenger

open Utf8
open Inbox (Sha256)

def replayIDPrefix : Bytes := ofString "gm-replay-"

/-- No two of the texts that are hashed have one digest. -/
def CollisionFree (F : Type) [Sha256 F] (hashed : Set Bytes) : Prop :=
  Set.InjOn (fun data => Sha256.bytes (Sha256.sum data : F)) hashed

def TailDigest : Type := { digest : Bytes // digest.length = 32 }

instance : Sha256 TailDigest where
  sum data := ⟨(data.reverse ++ List.replicate 32 0).take 32, by simp⟩
  bytes digest := digest.val

def LegalGeneration (generation : Bytes) : Prop :=
    trimmed generation = true ∧ generation.length ≤ 128

def visibleByte (byte : UInt8) : Bool := decide (0x21 ≤ byte) && decide (byte < 0x7f)

theorem trimmed_visible {text : Bytes} (visible : text.all visibleByte = true) :
    trimmed text = true := by
  have spaces : unicodeSpaces.all (fun space => (encode space).any
    (fun byte => !visibleByte byte)) = true := by decide
  have every := List.all_eq_true.mp visible
  apply List.all_eq_true.mpr
  intro space member
  obtain ⟨byte, inside, hidden⟩ := List.any_eq_true.mp (List.all_eq_true.mp spaces space member)
  rw [Bool.not_eq_true'] at hidden
  have absent : byte ∉ text := fun found => absurd (every byte found) (by rw [hidden]; decide)
  rw [Bool.and_eq_true, Bool.not_eq_true_eq_eq_false, Bool.not_eq_true_eq_eq_false]
  constructor
  · apply Bool.eq_false_iff.mpr
    intro starts
    exact absent ((List.isPrefixOf_iff_prefix.mp starts).subset inside)
  · apply Bool.eq_false_iff.mpr
    intro ends
    exact absent ((List.isSuffixOf_iff_suffix.mp ends).subset inside)

theorem replayID_legal {digest : Bytes} (size : digest.length = 32) :
    LegalGeneration (replayIDPrefix ++ Hex.encode digest) := by
  have fixed : replayIDPrefix.all visibleByte = true ∧ replayIDPrefix.length = 10 := by decide
  constructor
  · apply trimmed_visible
    rw [List.all_append, fixed.1, Hex.encode_all (by decide)]
    rfl
  · rw [List.length_append, fixed.2, Hex.encode_length, size]
    decide

theorem replayID_injective {left right : Bytes}
    (same : replayIDPrefix ++ Hex.encode left = replayIDPrefix ++ Hex.encode right) :
    left = right :=
  Hex.encode_injective (List.append_cancel_left same)

end Gomessenger.Messenger
