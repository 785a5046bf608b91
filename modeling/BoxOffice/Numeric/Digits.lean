import Mathlib.Data.Nat.Digits.Defs
import Mathlib.Data.String.Basic

namespace Numeric

/-!
# Numeric library — how natural numbers are written

Two numbers are not written alike, and what is written are digits.
-/

/-- The text of a number is its digits. -/
theorem toString_toList (n : Nat) : (toString n).toList = Nat.toDigits 10 n :=
  String.toList_ofList

/-- Two numbers are not written alike. -/
theorem toString_injective {m n : Nat} (h : toString m = toString n) : m = n := by
  have hdigits := congrArg String.toList h
  rw [toString_toList, toString_toList] at hdigits
  calc m = Nat.ofDigitChars 10 (Nat.toDigits 10 m) 0 := Nat.ofDigitChars_ten_toDigits.symm
    _ = Nat.ofDigitChars 10 (Nat.toDigits 10 n) 0 := by rw [hdigits]
    _ = n := Nat.ofDigitChars_ten_toDigits

/-- The text of a number has nothing but digits. -/
theorem isDigit_of_mem_toString {n : Nat} {c : Char} (h : c ∈ (toString n).toList) :
    c.isDigit = true := by
  rw [toString_toList] at h
  exact Nat.isDigit_of_mem_toDigits (by decide) (by decide) h

end Numeric
