import BoxOffice.Python.Text
import BoxOffice.Schema
import Mathlib.Tactic.Ring

namespace BoxOffice

/-!
# Money — rounding, currencies and Stripe's minor units

* `roundHalfUp` / `roundHalfEven` — the two `decimal` rounding modes the money code uses;
* `toMinorUnits` — `_to_minor_units`, the integer amounts sent to Stripe, and `inCents`, what
  they are worth;
* `upper`, `lower` — the string methods that currencies are compared with, whose codes are ASCII.
-/

/-! ### Strings -/

export Python (strip)

/-- `str.upper()`, of a currency code, which is in ASCII. -/
def upper (s : String) : String := String.ofList (s.toList.map Char.toUpper)

/-- `str.lower()`, of a currency code or of the name of a host, which are in ASCII. -/
def lower (s : String) : String := String.ofList (s.toList.map Char.toLower)

/-! ### Rounding -/

/-- `num / den` to the nearest integer, ties away from zero (`ROUND_HALF_UP`). -/
def roundHalfUp (num : Int) (den : Nat) : Int :=
  if 0 ≤ num then (2 * num + den) / (2 * den) else -((2 * -num + den) / (2 * den))

/-- `num / den` to the nearest integer, ties to even (`ROUND_HALF_EVEN`, the default mode). -/
def roundHalfEven (num : Int) (den : Nat) : Int :=
  let q := num / den
  let r := num % den
  if 2 * r < den then q
  else if (den : Int) < 2 * r then q + 1
  else if q % 2 = 0 then q else q + 1

/-- A multiple of the denominator is not rounded at all. -/
theorem roundHalfEven_mul (q : Int) {den : Nat} (h : 0 < den) :
    roundHalfEven (q * den) den = q := by
  have hd : (den : Int) ≠ 0 := by omega
  unfold roundHalfEven
  simp only [Int.mul_ediv_cancel _ hd, Int.mul_emod_left]
  rw [if_pos (by omega)]

/-- `str(amount)` of a two-decimal amount. -/
def formatCents (c : Cents) : String :=
  let n := c.natAbs
  let cents := n % 100
  let frac := if cents < 10 then s!"0{cents}" else s!"{cents}"
  if c < 0 then s!"-{n / 100}.{frac}" else s!"{n / 100}.{frac}"

/-! ### Minor units -/

/-- `_ZERO_DECIMAL_CURRENCIES`. -/
def zeroDecimalCurrencies : List String :=
  ["BIF", "CLP", "DJF", "GNF", "JPY", "KMF", "KRW", "MGA", "PYG", "RWF",
   "UGX", "VND", "VUV", "XAF", "XOF", "XPF"]

/-- `_THREE_DECIMAL_CURRENCIES`. -/
def threeDecimalCurrencies : List String := ["BHD", "JOD", "KWD", "OMR", "TND"]

/-- `_to_minor_units`: an amount in the integer units Stripe charges `currency` in. -/
def toMinorUnits (amount : Cents) (currency : String) : Int :=
  let code := upper currency
  if code ∈ zeroDecimalCurrencies then roundHalfEven amount 100
  else if code ∈ threeDecimalCurrencies then (amount * 10) / 10 * 10
  else amount

/-- Stripe units per cent of `currency`, for the currencies whose units are not coarser. -/
def unitsPerCent (currency : String) : Int :=
  if upper currency ∈ threeDecimalCurrencies then 10 else 1

/-- Outside the zero-decimal currencies the conversion is exact. -/
theorem toMinorUnits_eq_mul {amount : Cents} {currency : String}
    (h : upper currency ∉ zeroDecimalCurrencies) :
    toMinorUnits amount currency = amount * unitsPerCent currency := by
  unfold toMinorUnits unitsPerCent
  rw [if_neg h]
  by_cases h3 : upper currency ∈ threeDecimalCurrencies
  · rw [if_pos h3, if_pos h3, Int.mul_ediv_cancel _ (by decide)]
  · rw [if_neg h3, if_neg h3, mul_one]

example : toMinorUnits 50000 "jpy" = 500 := by decide

/-- What one unit of `currency` is worth, in cents. -/
def centsPerUnit (currency : String) : ℚ :=
  let code := upper currency
  if code ∈ zeroDecimalCurrencies then 100
  else if code ∈ threeDecimalCurrencies then 1 / 10
  else 1

/-- What `units` of `currency` are worth, in cents. -/
def inCents (units : Int) (currency : String) : ℚ := units * centsPerUnit currency

/-- The amount in whole units of `currency`, rounded where the units are coarser than a cent. -/
def wholeUnits (amount : Cents) (currency : String) : Cents :=
  if upper currency ∈ zeroDecimalCurrencies then roundHalfEven amount 100 * 100 else amount

/-- **What is charged** for an amount is the amount in whole units. -/
theorem inCents_toMinorUnits (amount : Cents) (currency : String) :
    inCents (toMinorUnits amount currency) currency = wholeUnits amount currency := by
  unfold inCents toMinorUnits centsPerUnit wholeUnits
  dsimp only
  by_cases h0 : upper currency ∈ zeroDecimalCurrencies
  · rw [if_pos h0, if_pos h0, if_pos h0]
    push_cast
    rfl
  · rw [if_neg h0, if_neg h0, if_neg h0]
    by_cases h3 : upper currency ∈ threeDecimalCurrencies
    · rw [if_pos h3, if_pos h3, Int.mul_ediv_cancel _ (by decide)]
      push_cast
      ring
    · rw [if_neg h3, if_neg h3, mul_one]

/-- Rounding keeps nonnegative numbers so. -/
theorem roundHalfEven_nonneg {num : Int} {den : Nat} (h : 0 ≤ num) : 0 ≤ roundHalfEven num den := by
  have hq : 0 ≤ num / (den : Int) := Int.ediv_nonneg h (by omega)
  unfold roundHalfEven
  dsimp only
  split_ifs <;> omega

/-- A nonnegative amount has nonnegative minor units. -/
theorem toMinorUnits_nonneg {amount : Cents} {currency : String} (h : 0 ≤ amount) :
    0 ≤ toMinorUnits amount currency := by
  have hten : 0 ≤ amount * 10 := Int.mul_nonneg h (by decide)
  unfold toMinorUnits
  dsimp only
  split_ifs
  · exact roundHalfEven_nonneg h
  · exact Int.mul_nonneg (Int.ediv_nonneg hten (by decide)) (by decide)
  · exact h

/-- A charge of nothing. -/
theorem toMinorUnits_zero (currency : String) : toMinorUnits 0 currency = 0 := by
  unfold toMinorUnits
  dsimp only
  split_ifs <;> rfl

/-- Upper case forgets lower case. -/
theorem toUpper_toLower (c : Char) : c.toLower.toUpper = c.toUpper := by
  unfold Char.toLower
  split_ifs with h
  · rw [ge_iff_le, UInt32.le_iff_toNat_le, UInt32.le_iff_toNat_le] at h
    have hup : ('a'.val - 'A'.val).toNat = 32 := rfl
    have hdown : ('A'.val - 'a'.val).toNat = 4294967264 := rfl
    have hA : 'A'.val.toNat = 65 := rfl
    have hZ : 'Z'.val.toNat = 90 := rfl
    have ha : 'a'.val.toNat = 97 := rfl
    have hz : 'z'.val.toNat = 122 := rfl
    have hshift : (c.val + ('a'.val - 'A'.val)).toNat = c.val.toNat + 32 := by
      rw [UInt32.toNat_add, hup, Nat.mod_eq_of_lt (by omega)]
    have hlower : 'a'.val ≤ c.val + ('a'.val - 'A'.val) ∧
        c.val + ('a'.val - 'A'.val) ≤ 'z'.val := by
      rw [UInt32.le_iff_toNat_le, UInt32.le_iff_toNat_le]
      omega
    have hupper : ¬('a'.val ≤ c.val ∧ c.val ≤ 'z'.val) := by
      rw [UInt32.le_iff_toNat_le, UInt32.le_iff_toNat_le]
      omega
    unfold Char.toUpper
    rw [dif_pos hlower, dif_neg hupper]
    refine Char.ext (UInt32.toNat_inj.mp ?_)
    rw [UInt32.toNat_add, hshift, hdown]
    omega
  · rfl

/-- Upper case does not see lower case. -/
theorem upper_lower (s : String) : upper (lower s) = upper s := by
  unfold upper lower
  rw [String.toList_ofList, List.map_map]
  exact congrArg String.ofList (List.map_congr_left fun c _ => toUpper_toLower c)

/-- Minor units do not depend on the case of the currency. -/
theorem inCents_lower (units : Int) (currency : String) :
    inCents units (lower currency) = inCents units currency := by
  unfold inCents centsPerUnit
  rw [upper_lower]

end BoxOffice
