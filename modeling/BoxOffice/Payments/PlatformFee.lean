import BoxOffice.Payments.StripeSession
import Mathlib.Tactic.Linarith

namespace BoxOffice

/-!
# Payments — the platform fee beside the charge

The fee is rounded half up and has a fixed part; the charge is rounded half to even and has none.

* `FeeFits` — the fee of a total is missing, or a positive amount within the charge;
* `FeeHasRoom` — the exact share of the total, in minor units, is less than half a unit above
  what the charge leaves beside the fixed part;
* `platform_fee_fits_iff` — the first is the second, and whatever the configuration the fee never
  falls when the total rises.
-/

/-! ### Rounding half up -/

/-- Rounding half up stays within `k` exactly up to half a unit above it. -/
theorem roundHalfUp_le_iff {num k : Int} {den : Nat} (hnum : 0 ≤ num) (hden : 0 < den) :
    roundHalfUp num den ≤ k ↔ 2 * num < den * (2 * k + 1) := by
  have hpos : (0 : Int) < 2 * den := by omega
  unfold roundHalfUp
  rw [if_pos hnum, ← Int.lt_add_one_iff, Int.ediv_lt_iff_lt_mul hpos]
  constructor <;> intro h <;> linarith

/-- Rounding keeps nonnegative numbers so. -/
theorem roundHalfUp_nonneg {num : Int} {den : Nat} (h : 0 ≤ num) : 0 ≤ roundHalfUp num den := by
  unfold roundHalfUp
  rw [if_pos h]
  exact Int.ediv_nonneg (by omega) (by omega)

/-- Rounding is monotone. -/
theorem roundHalfUp_mono {num num' : Int} {den : Nat} (hnum : 0 ≤ num) (hle : num ≤ num')
    (hden : 0 < den) : roundHalfUp num den ≤ roundHalfUp num' den := by
  have hself : 2 * num' < den * (2 * roundHalfUp num' den + 1) :=
    (roundHalfUp_le_iff (hnum.trans hle) hden).mp le_rfl
  exact (roundHalfUp_le_iff hnum hden).mpr (by linarith)

/-! ### The fee -/

/-- How many millionths of a major unit one minor unit of the currency is. -/
def feeScale (code : String) : Nat :=
  if code ∈ zeroDecimalCurrencies then 1000000
  else if code ∈ threeDecimalCurrencies then 1000
  else 10000

/-- The percentage part of a fee, in minor units. -/
def pctMinor (share : Int) (code : String) : Int :=
  let rounded := roundHalfUp share (feeScale code)
  if code ∈ threeDecimalCurrencies then rounded / 10 * 10 else rounded

/-- The currency a fee is computed in. -/
def feeCurrency (organization : Organization) (currency : String) : String :=
  if currency = "" then organization.currency else currency

/-- The minor units that the charge leaves beside the fixed part of the fee; where the fee is a
    multiple of ten, up to the last unit that is cut off. -/
def feeRoom (settings : FeeSettings) (total : Cents) (currency : String) : Int :=
  let left := toMinorUnits total currency - settings.fixedCents
  if upper currency ∈ threeDecimalCurrencies then left / 10 * 10 + 9 else left

/-- The exact share of the total is less than half a unit above what is left. -/
def FeeHasRoom (settings : FeeSettings) (organization : Organization) (total : Cents)
    (currency : String) : Prop :=
  2 * (total * feePercent settings organization)
    < feeScale (upper (feeCurrency organization currency))
      * (2 * feeRoom settings total (feeCurrency organization currency) + 1)

instance (settings : FeeSettings) (organization : Organization) (total : Cents)
    (currency : String) : Decidable (FeeHasRoom settings organization total currency) :=
  inferInstanceAs (Decidable (_ < _))

/-- No fee, or a positive one that is at most the charge. -/
def FeeFits (settings : FeeSettings) (organization : Organization) (total : Cents)
    (currency : String) : Prop :=
  ∀ fee ∈ applicationFeeAmount settings organization total currency,
    0 < fee ∧ fee ≤ toMinorUnits total (feeCurrency organization currency)

/-- The fee, with none counted as zero. -/
def feeOrZero (settings : FeeSettings) (organization : Organization) (total : Cents)
    (currency : String) : Int :=
  (applicationFeeAmount settings organization total currency).getD 0

section Fee

variable {settings : FeeSettings} {organization : Organization} {total total' : Cents}
  {currency code : String} {share share' : Int}

/-- Every currency has a positive scale. -/
theorem feeScale_pos (code : String) : 0 < feeScale code := by
  unfold feeScale
  split_ifs <;> decide

/-- A currency is in one class only. -/
theorem not_zeroDecimal_of_three (h : code ∈ threeDecimalCurrencies) :
    code ∉ zeroDecimalCurrencies := by
  intro hzero
  unfold threeDecimalCurrencies at h
  simp only [List.mem_cons, List.not_mem_nil, or_false] at h
  rcases h with rfl | rfl | rfl | rfl | rfl <;> revert hzero <;> decide

/-- **`application_fee_amount`**, with its three branches in one. -/
theorem applicationFeeAmount_eq :
    applicationFeeAmount settings organization total currency
      = (let fee := pctMinor (total * feePercent settings organization)
            (upper (feeCurrency organization currency)) + settings.fixedCents
         if fee ≤ 0 then none else some fee) := by
  unfold applicationFeeAmount pctMinor feeScale
  dsimp only
  rw [show (if currency = "" then organization.currency else currency)
    = feeCurrency organization currency from rfl]
  by_cases h3 : upper (feeCurrency organization currency) ∈ threeDecimalCurrencies
  · have h0 := not_zeroDecimal_of_three h3
    simp only [h0, h3, if_true, if_false]
  · simp only [h3, if_false]
    by_cases h0 : upper (feeCurrency organization currency) ∈ zeroDecimalCurrencies
    · simp only [h0, if_true]
    · simp only [h0, if_false]

/-- The fee of a nonnegative share is nonnegative. -/
theorem pctMinor_nonneg (h : 0 ≤ share) : 0 ≤ pctMinor share code := by
  have hround : 0 ≤ roundHalfUp share (feeScale code) := roundHalfUp_nonneg h
  unfold pctMinor
  dsimp only
  split_ifs
  · exact Int.mul_nonneg (Int.ediv_nonneg hround (by decide)) (by decide)
  · exact hround

/-- The fee grows with the share. -/
theorem pctMinor_mono (h : 0 ≤ share) (hle : share ≤ share') :
    pctMinor share code ≤ pctMinor share' code := by
  have hround := roundHalfUp_mono h hle (feeScale_pos code)
  unfold pctMinor
  dsimp only
  split_ifs
  · have htens := Int.ediv_le_ediv (by decide : (0 : Int) < 10) hround
    linarith
  · exact hround

/-- A fee above zero is the sum of its parts. -/
theorem feeOrZero_eq (hshare : 0 ≤ total * feePercent settings organization)
    (hfixed : 0 ≤ settings.fixedCents) :
    feeOrZero settings organization total currency
      = pctMinor (total * feePercent settings organization)
          (upper (feeCurrency organization currency)) + settings.fixedCents := by
  have hpct : 0 ≤ pctMinor (total * feePercent settings organization)
      (upper (feeCurrency organization currency)) := pctMinor_nonneg hshare
  unfold feeOrZero
  rw [applicationFeeAmount_eq]
  dsimp only
  split_ifs with hle
  · exact (le_antisymm hle (add_nonneg hpct hfixed)).symm
  · rfl

/-- A fee fits when it is within the charge, also where it is none. -/
theorem feeFits_iff (htotal : 0 ≤ total) : FeeFits settings organization total currency ↔
    feeOrZero settings organization total currency
      ≤ toMinorUnits total (feeCurrency organization currency) := by
  unfold FeeFits feeOrZero
  cases hfee : applicationFeeAmount settings organization total currency with
  | none => simpa using toMinorUnits_nonneg htotal
  | some fee =>
    rw [applicationFeeAmount_eq] at hfee
    dsimp only at hfee
    split_ifs at hfee with hle
    have hpos : 0 < fee := by rw [← Option.some.inj hfee]; exact not_le.mp hle
    simpa using fun _ => hpos

/-- The parts are within the charge exactly when the exact share has room. -/
theorem pctMinor_le_iff (hshare : 0 ≤ share) {charge fixed : Int} :
    pctMinor share code + fixed ≤ charge ↔
      2 * share < feeScale code * (2 *
        (if code ∈ threeDecimalCurrencies then (charge - fixed) / 10 * 10 + 9
          else charge - fixed) + 1) := by
  rw [← roundHalfUp_le_iff hshare (feeScale_pos code)]
  unfold pctMinor
  dsimp only
  split_ifs <;> omega

end Fee

/-- **The platform fee.** For every rate and fixed part that are not negative and every positive
    total, the fee fits the charge exactly when the share of the total has room beside the fixed
    part; and a larger total never has a smaller fee. -/
theorem platform_fee_fits_iff {settings : FeeSettings} {organization : Organization}
    {total : Cents} {currency : String} (hrate : 0 ≤ feePercent settings organization)
    (hfixed : 0 ≤ settings.fixedCents) (htotal : 0 < total) :
    (FeeFits settings organization total currency ↔
        FeeHasRoom settings organization total currency) ∧
      ∀ total', total ≤ total' → feeOrZero settings organization total currency
        ≤ feeOrZero settings organization total' currency := by
  have hshare : 0 ≤ total * feePercent settings organization := Int.mul_nonneg htotal.le hrate
  constructor
  · rw [feeFits_iff htotal.le, feeOrZero_eq hshare hfixed, pctMinor_le_iff hshare]
    rfl
  · intro total' hle
    have hmul : total * feePercent settings organization
        ≤ total' * feePercent settings organization := Int.mul_le_mul_of_nonneg_right hle hrate
    rw [feeOrZero_eq hshare hfixed, feeOrZero_eq (hshare.trans hmul) hfixed]
    exact Int.add_le_add_right (pctMinor_mono hshare hmul) _

/-- Ten percent and thirty cents of ten dollars. -/
theorem platform_fee_fits_ten : FeeFits ⟨10, 30⟩ ⟨1, "Playhouse", "USD", "acct_1", true, none⟩
    1000 "USD" := by
  have hrate : 0 ≤ feePercent ⟨10, 30⟩ ⟨1, "Playhouse", "USD", "acct_1", true, none⟩ := by decide
  have hroom : FeeHasRoom ⟨10, 30⟩ ⟨1, "Playhouse", "USD", "acct_1", true, none⟩ 1000 "USD" := by
    decide +kernel
  exact (platform_fee_fits_iff hrate (by decide) (by decide)).1.mpr hroom

/-- **The counterexample.** A fixed part of thirty cents is more than a charge of twenty, and the
    whole of two and a half yen is rounded up to three where the charge is rounded to two. -/
theorem fee_above_charge : ∃ organization : Organization,
    applicationFeeAmount ⟨0, 30⟩ organization 20 "USD" = some 30 ∧ toMinorUnits 20 "USD" = 20 ∧
    applicationFeeAmount ⟨100, 0⟩ organization 250 "JPY" = some 3 ∧ toMinorUnits 250 "JPY" = 2 :=
  ⟨⟨1, "Playhouse", "USD", "acct_1", true, none⟩, by decide +kernel, by decide +kernel,
    by decide +kernel, by decide +kernel⟩

/-- Without a fixed part, the fee of a currency that has cents always fits. -/
theorem feeFits_of_decimal {settings : FeeSettings} {organization : Organization} {total : Cents}
    {currency : String} (hrate : 0 ≤ feePercent settings organization)
    (hwhole : feePercent settings organization ≤ 10000) (hfixed : settings.fixedCents = 0)
    (htotal : 0 < total)
    (hcents : upper (feeCurrency organization currency) ∉ zeroDecimalCurrencies) :
    FeeFits settings organization total currency := by
  have hshare : 0 ≤ total * feePercent settings organization := Int.mul_nonneg htotal.le hrate
  have hle : total * feePercent settings organization ≤ total * 10000 :=
    Int.mul_le_mul_of_nonneg_left hwhole htotal.le
  rw [feeFits_iff htotal.le, feeOrZero_eq hshare hfixed.ge, pctMinor_le_iff hshare, hfixed,
    toMinorUnits_eq_mul hcents]
  unfold feeScale unitsPerCent
  rw [if_neg hcents]
  split_ifs
  · -- Ten units a cent, so nothing is cut off.
    rw [sub_zero, Int.mul_ediv_cancel _ (by decide)]
    push_cast
    linarith
  · push_cast
    linarith

end BoxOffice
