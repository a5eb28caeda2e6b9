import ControlLoop.Text.Digits
import Mathlib.Data.List.Basic

/-!
# Numbers in decimal

The digits of a number denote it, also with zeros in front of them, and they fill a given width
exactly if the number fits into it.
-/

namespace ControlLoop.Text

variable {c : Char} {digits : List Char} {width n : Nat}

theorem hexValue_of_isDigit (h : c.isDigit = true) : hexValue c = some (c.toNat - '0'.toNat) := by
  have hrange : '0' ≤ c ∧ c ≤ '9' := by
    simpa [Char.isDigit, Char.le_def] using h
  rw [hexValue, if_pos hrange]

/-- Decimal digits are read as they are by the function of the library. -/
theorem ofDigits_eq_ofDigitChars (h : ∀ c ∈ digits, c.isDigit = true) :
    ofDigits 10 digits = Nat.ofDigitChars 10 digits 0 := by
  rw [ofDigits, Nat.ofDigitChars]
  apply List.foldl_ext
  intro m c hc
  rw [hexValue_of_isDigit (h c hc), Option.getD_some, Nat.mul_comm]

/-- A padded number is its digits after as many zeros as are missing. -/
theorem toList_padded :
    (padded width n).toList =
      List.replicate (width - (Nat.toDigits 10 n).length) '0' ++ Nat.toDigits 10 n := by
  rw [padded, String.toList_ofList]

theorem isDigit_of_mem_padded (hc : c ∈ (padded width n).toList) : c.isDigit = true := by
  rw [toList_padded, List.mem_append] at hc
  rcases hc with hzero | hdigit
  · rw [List.eq_of_mem_replicate hzero]
    rfl
  · exact Nat.isDigit_of_mem_toDigits (by decide) (by decide) hdigit

/-- Padding does not change the number. -/
theorem ofDigits_padded : ofDigits 10 (padded width n).toList = n := by
  rw [ofDigits_eq_ofDigitChars fun c hc ↦ isDigit_of_mem_padded hc, toList_padded,
    Nat.ofDigitChars_append, Nat.ofDigitChars_replicate_zero, Nat.mul_zero,
    Nat.ofDigitChars_ten_toDigits]

theorem padded_ne_nil : (padded width n).toList ≠ [] := by
  rw [toList_padded]
  exact List.append_ne_nil_of_right_ne_nil _ Nat.toDigits_ne_nil

/-- A number that fits is padded to the width. -/
theorem length_padded (hwidth : 0 < width) (hn : n < Nat.pow 10 width) :
    (padded width n).toList.length = width := by
  have hlength := (Nat.length_toDigits_le_iff (by decide) hwidth).2 hn
  rw [toList_padded, List.length_append, List.length_replicate]
  omega

end ControlLoop.Text
