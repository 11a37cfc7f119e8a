import Gomessenger.Lib.Strings
import Mathlib.Data.List.Infix

/-! Where a search in a byte string ends. -/

namespace Strings

theorem index_eq {text sought : Bytes} {position : Nat} (inside : position ≤ text.length)
    (found : sought.isPrefixOf (text.drop position) = true)
    (first : ∀ earlier < position, sought.isPrefixOf (text.drop earlier) = false) :
    index text sought = some position := by
  refine List.findIdx?_eq_some_iff_getElem.mpr ⟨by rw [List.length_tails]; omega, ?_, ?_⟩
  · rw [List.getElem_tails]
    exact found
  · intro earlier before
    rw [List.getElem_tails, first earlier before]
    exact Bool.false_ne_true

theorem lastIndex_eq {text sought : Bytes} {position : Nat} (inside : position ≤ text.length)
    (found : sought.isPrefixOf (text.drop position) = true)
    (last : ∀ later, position < later → sought.isPrefixOf (text.drop later) = false) :
    lastIndex text sought = some position := by
  have reversed :
      text.tails.reverse.findIdx? sought.isPrefixOf = some (text.length - position) := by
    refine List.findIdx?_eq_some_iff_getElem.mpr
      ⟨by rw [List.length_reverse, List.length_tails]; omega, ?_, ?_⟩
    · rw [List.getElem_reverse, List.getElem_tails, List.length_tails]
      rw [show text.length + 1 - 1 - (text.length - position) = position by omega]
      exact found
    · intro earlier before
      rw [List.getElem_reverse, List.getElem_tails, List.length_tails, last _ (by omega)]
      exact Bool.false_ne_true
  rw [lastIndex, reversed, Option.map_some]
  congr 1
  omega

end Strings
