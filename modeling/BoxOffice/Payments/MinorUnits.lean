import BoxOffice.Payments.OneCurrency

namespace BoxOffice

open Relational Transition

/-!
# Payments — minor units of a session and of its total

The line items, the gift and the coupon of a cart are converted to minor units one by one, the
grand total in one piece.

* `chargedUnits` — what the line items minus the coupon come to;
* `drift` — what the separate roundings add, less the part of the discount that the total does
  not count because it exceeds the tickets;
* `minor_units_reconcile_iff` — the two conversions agree exactly when the drift is small
  (`DriftVanishes`): nothing in a currency with two or three decimals, at most half a unit in a
  currency without any.
-/

/-- The sum of `unit_amount * quantity` over the line items, minus the coupon's `amount_off`. -/
def chargedUnits (db : Db) (hold : Hold) : Int :=
  ((lineItemsForHold db hold).map fun l => l.unitAmount * (l.quantity : Int)).sum
    - ((holdCoupon db hold).map (·.amountOff)).getD 0

/-- What rounding to whole units adds to an amount. -/
def roundingError (amount : Cents) (currency : String) : Cents :=
  wholeUnits amount currency - amount

/-- The part of the discount beyond the ticket subtotal. -/
def excessDiscount (hold : Hold) : Cents := max (holdDiscount hold - hold.gross) 0

/-- What the separate roundings add up to, less the excess of the discount. -/
def drift (db : Db) (hold : Hold) : Cents :=
  ((soldLines db hold).map fun l =>
      (l.quantity : Cents) * roundingError l.unitAmount (holdCurrency db hold)).sum
    + roundingError (holdDonation hold) (holdCurrency db hold)
    - roundingError (holdDiscount hold) (holdCurrency db hold) - excessDiscount hold

/-- The drift is less than half a unit, or half a unit away from an even number of units.  In a
    currency that has cents there is none. -/
def DriftVanishes (db : Db) (hold : Hold) : Prop :=
  if upper (holdCurrency db hold) ∈ zeroDecimalCurrencies then
    (-50 < drift db hold ∧ drift db hold < 50) ∨
      ((drift db hold = 50 ∨ drift db hold = -50) ∧
        (holdGrandTotal db hold + drift db hold) % 200 = 0)
  else drift db hold = 0

instance (db : Db) (hold : Hold) : Decidable (DriftVanishes db hold) := by
  unfold DriftVanishes
  infer_instance

/-! ### Rounding -/

/-- **The nearest whole.** An integer is the rounded quotient when it is nearer than half, or at
    half and even. -/
theorem roundHalfEven_eq_iff (n q : Int) : roundHalfEven n 100 = q ↔
    (-50 < 100 * q - n ∧ 100 * q - n < 50) ∨
      ((100 * q - n = 50 ∨ 100 * q - n = -50) ∧ q % 2 = 0) := by
  unfold roundHalfEven
  dsimp only
  split_ifs <;> omega

section Conversion

variable {currency : String}

/-- `k` units of the currency are `u` cents. -/
def Scale (currency : String) (k u : Int) : Prop :=
  ∀ amount : Cents, toMinorUnits amount currency * k = (amount + roundingError amount currency) * u

/-- In a currency without decimals a unit is a hundred cents. -/
theorem scale_zeroDecimal (h : upper currency ∈ zeroDecimalCurrencies) : Scale currency 100 1 := by
  intro amount
  unfold toMinorUnits roundingError wholeUnits
  dsimp only
  rw [if_pos h, if_pos h]
  ring

/-- In any other currency there is nothing to round. -/
theorem scale_decimal (h : upper currency ∉ zeroDecimalCurrencies) :
    Scale currency 1 (unitsPerCent currency) := by
  intro amount
  unfold roundingError wholeUnits
  rw [toMinorUnits_eq_mul h, if_neg h]
  ring

/-- The minor units of an amount do not depend on the case of the currency. -/
theorem toMinorUnits_congr {a b : String} (amount : Cents) (h : upper a = upper b) :
    toMinorUnits amount a = toMinorUnits amount b := by
  unfold toMinorUnits
  rw [h]

end Conversion

/-! ### The cart -/

section Cart

variable {db : Db} {hold : Hold}

/-- The lines of a cart whose seats agree are converted as the cart is. -/
theorem lineCurrency_agrees (hmem : hold ∈ db.holds.rows) (hshape : hold.Shaped)
    (hagree : SeatsAgree db hold) {l : Line} (hl : l ∈ soldLines db hold) :
    upper (lineCurrency db hold l) = upper (holdCurrency db hold) := by
  have hline : l.lineItem db hold ∈ ticketLineItems db hold :=
    (ticketLineItems_perm hmem).mem_iff.mpr (List.mem_map_of_mem hl)
  have hlower : lower (lineCurrency db hold l) = lower (holdCurrency db hold) :=
    (ticketLineItems_currency_iff hmem hshape).mpr hagree _ hline
  rw [← upper_lower, hlower, upper_lower]

/-- The units of the ticket lines. -/
theorem ticketLineItems_units (hmem : hold ∈ db.holds.rows) (hshape : hold.Shaped)
    (hagree : SeatsAgree db hold) :
    ((ticketLineItems db hold).map fun l => l.unitAmount * (l.quantity : Int)).sum
      = ((soldLines db hold).map fun l =>
          (l.quantity : Int) * toMinorUnits l.unitAmount (holdCurrency db hold)).sum := by
  rw [((ticketLineItems_perm hmem).map _).sum_eq, List.map_map]
  refine congrArg List.sum (List.map_congr_left fun l hl => ?_)
  show toMinorUnits l.unitAmount (lineCurrency db hold l) * (l.quantity : Int) = _
  rw [toMinorUnits_congr _ (lineCurrency_agrees hmem hshape hagree hl), mul_comm]

/-- The units of the gift. -/
theorem donationLineItems_units (hs : hold.Signed) :
    ((donationLineItems db hold).map fun l => l.unitAmount * (l.quantity : Int)).sum
      = toMinorUnits (holdDonation hold) (holdCurrency db hold) := by
  unfold donationLineItems
  by_cases h : holdDonation hold ≤ 0
  · rw [if_pos h, le_antisymm h hs.donation_nonneg, toMinorUnits_zero]
    rfl
  · rw [if_neg h]
    simp

/-- The units of the coupon. -/
theorem holdCoupon_units (hs : hold.Signed) : ((holdCoupon db hold).map (·.amountOff)).getD 0
    = toMinorUnits (holdDiscount hold) (holdCurrency db hold) := by
  unfold holdCoupon
  dsimp only
  split_ifs with h
  · rfl
  · exact le_antisymm (toMinorUnits_nonneg hs.discount_nonneg) (not_lt.mp h)

/-- **The units of a cart**, item by item. -/
theorem chargedUnits_eq (hmem : hold ∈ db.holds.rows) (hshape : hold.Shaped) (hs : hold.Signed)
    (hagree : SeatsAgree db hold) :
    chargedUnits db hold
      = ((soldLines db hold).map fun l =>
          (l.quantity : Int) * toMinorUnits l.unitAmount (holdCurrency db hold)).sum
        + toMinorUnits (holdDonation hold) (holdCurrency db hold)
        - toMinorUnits (holdDiscount hold) (holdCurrency db hold) := by
  unfold chargedUnits lineItemsForHold
  rw [List.map_append, List.sum_append, ticketLineItems_units hmem hshape hagree,
    donationLineItems_units hs, holdCoupon_units hs]

/-- The grand total, without its floor. -/
theorem holdGrandTotal_eq (hmem : hold ∈ db.holds.rows) (hshape : hold.Shaped) :
    holdGrandTotal db hold
      = hold.gross - holdDiscount hold + excessDiscount hold + holdDonation hold := by
  unfold holdGrandTotal excessDiscount
  rw [holdTotal_eq_gross hmem hshape]
  -- The floor matters only when the discount exceeds the tickets.
  rcases le_total (holdDiscount hold) hold.gross with hle | hle
  · rw [max_eq_left (sub_nonneg.mpr hle), max_eq_right (sub_nonpos.mpr hle)]
    ring
  · rw [max_eq_right (sub_nonpos.mpr hle), max_eq_left (sub_nonneg.mpr hle)]
    ring

/-- A sum over lines that are converted one by one. -/
theorem Scale.sum {currency : String} {k u : Int} (h : Scale currency k u) (lines : List Line) :
    (lines.map fun l => (l.quantity : Int) * toMinorUnits l.unitAmount currency).sum * k
      = ((lines.map fun l => (l.quantity : Cents) * l.unitAmount).sum
        + (lines.map fun l => (l.quantity : Cents) * roundingError l.unitAmount currency).sum)
          * u := by
  induction lines with
  | nil => simp
  | cons l rest ih =>
    simp only [List.map_cons, List.sum_cons]
    -- A line is worth its quantity times what one of it is converted to.
    rw [add_mul, ih, mul_assoc, h]
    ring

/-- **The units of a cart** are worth its grand total and the drift. -/
theorem chargedUnits_scaled {k u : Int} (hmem : hold ∈ db.holds.rows) (hshape : hold.Shaped)
    (hs : hold.Signed) (hagree : SeatsAgree db hold) (hscale : Scale (holdCurrency db hold) k u) :
    chargedUnits db hold * k = (holdGrandTotal db hold + drift db hold) * u := by
  rw [chargedUnits_eq hmem hshape hs hagree, sub_mul, add_mul, hscale.sum, hscale, hscale,
    soldLines_amount hmem hshape, holdGrandTotal_eq hmem hshape]
  unfold drift
  ring

/-- A cent is a positive number of units. -/
theorem unitsPerCent_pos (currency : String) : 0 < unitsPerCent currency := by
  unfold unitsPerCent
  split_ifs <;> decide

/-- **The two conversions** agree exactly when the drift vanishes. -/
theorem chargedUnits_eq_iff (hmem : hold ∈ db.holds.rows) (hshape : hold.Shaped)
    (hs : hold.Signed) (hagree : SeatsAgree db hold) :
    chargedUnits db hold = toMinorUnits (holdGrandTotal db hold) (holdCurrency db hold) ↔
      DriftVanishes db hold := by
  unfold DriftVanishes
  by_cases hzero : upper (holdCurrency db hold) ∈ zeroDecimalCurrencies
  · have hunits := chargedUnits_scaled hmem hshape hs hagree (scale_zeroDecimal hzero)
    have htotal : toMinorUnits (holdGrandTotal db hold) (holdCurrency db hold)
        = roundHalfEven (holdGrandTotal db hold) 100 := by
      unfold toMinorUnits
      exact if_pos hzero
    have hdrift : drift db hold = 100 * chargedUnits db hold - holdGrandTotal db hold := by
      linarith
    -- The units are even when their cents are a multiple of two hundred.
    have heven : ∀ total units : Int, (total + (100 * units - total)) % 200 = 0 ↔
        units % 2 = 0 := by
      intro total units
      omega
    rw [if_pos hzero, htotal, eq_comm, roundHalfEven_eq_iff, hdrift]
    exact or_congr_right (and_congr_right fun _ => (heven _ _).symm)
  · have hunits := chargedUnits_scaled hmem hshape hs hagree (scale_decimal hzero)
    have hpos := unitsPerCent_pos (holdCurrency db hold)
    rw [if_neg hzero, toMinorUnits_eq_mul hzero, ← mul_one (chargedUnits db hold), hunits, add_mul]
    constructor
    · intro h
      have hproduct : drift db hold * unitsPerCent (holdCurrency db hold) = 0 := by linarith
      -- A cent is at least one unit, so only a drift of zero is worth no unit.
      rcases mul_eq_zero.mp hproduct with hdrift | hunit
      · exact hdrift
      · exact absurd hunit hpos.ne'
    · intro h
      rw [h, zero_mul, add_zero]

end Cart

/-- **Minor units reconcile.** For a stored cart of any reachable state whose seats share a
    currency, the units of its line items minus the coupon are those of its grand total exactly
    when the drift vanishes. -/
theorem minor_units_reconcile_iff {trig : Trig} {s : State} {hold : Hold}
    (h : Reachable (theater trig) s) (hmem : hold ∈ s.db.holds.rows)
    (hagree : SeatsAgree s.db hold) :
    chargedUnits s.db hold
        = toMinorUnits (holdGrandTotal s.db hold) (holdCurrency s.db hold) ↔
      DriftVanishes s.db hold := by
  obtain ⟨hshape, hsigned, -⟩ := theater_carts h
  exact chargedUnits_eq_iff hmem (hshape hold hmem) (hsigned hold hmem) hagree

/-! ### Two places, a code and a gift in yen -/

/-- A quarter off. -/
def springCode : PromoCodeForm := ⟨"spring", .percent, 2500, "", none, none, none, none, true⟩

/-- The sample theater sells general admission at 10.40 yen. -/
def yenNight : State :=
  ⟨execStaff flatTrig (.createPromoCode 1 springCode)
    (execStaff flatTrig (.addPriceTier 1 1 "General" 1040 "JPY") sampleDb), 0⟩

/-- A buyer holds two places, with the code. -/
def yenCode : State :=
  exec (.applyPromoCode 1 "a" (some 1) "spring") (exec (.setGaHold 1 1 "a" 3 2) yenNight)

/-- A gift of 5.60 yen comes on top. -/
def yenGift : State := exec (.setHoldDonation 1 "a" (some 1) (some 560) 1) yenCode

/-- The cart in yen is reachable. -/
theorem yenGift_reachable : Reachable (theater flatTrig) yenGift := by
  have hnight : Reachable (theater flatTrig) yenNight :=
    staff_reachable (staff_reachable (.of_init sampleState_fresh)
      (.addPriceTier 1 1 "General" 1040 "JPY")) (.createPromoCode 1 springCode)
  have hplaces : Reachable (theater flatTrig) (exec (.setGaHold 1 1 "a" 3 2) yenNight) :=
    hnight.step (i := .shop (.setGaHold 1 1 "a" 3 2)) ⟨trivial, rfl⟩
  have hcode : Reachable (theater flatTrig) yenCode :=
    hplaces.step (i := .shop (.applyPromoCode 1 "a" (some 1) "spring")) ⟨trivial, rfl⟩
  exact hcode.step (i := .shop (.setHoldDonation 1 "a" (some 1) (some 560) 1)) ⟨trivial, rfl⟩

/-- The places, the gift and the discount are rounded apart, and come to 21 yen like the total of
    21.20 yen. -/
theorem minor_units_reconcile_yen : ∃ hold ∈ yenGift.db.holds.rows,
    holdDiscount hold = 520 ∧ holdDonation hold = 560 ∧ drift yenGift.db hold = -20 ∧
    chargedUnits yenGift.db hold = 21 ∧
    chargedUnits yenGift.db hold
      = toMinorUnits (holdGrandTotal yenGift.db hold) (holdCurrency yenGift.db hold) := by
  obtain ⟨hold, hmem, hdiscount, hgift, hdrift, hunits, hagree, hvanishes⟩ :
      ∃ hold ∈ yenGift.db.holds.rows, holdDiscount hold = 520 ∧ holdDonation hold = 560 ∧
        drift yenGift.db hold = -20 ∧ chargedUnits yenGift.db hold = 21 ∧
        SeatsAgree yenGift.db hold ∧ DriftVanishes yenGift.db hold := by decide +kernel
  exact ⟨hold, hmem, hdiscount, hgift, hdrift, hunits,
    (minor_units_reconcile_iff yenGift_reachable hmem hagree).mpr hvanishes⟩

/-! ### Two places at half a yen -/

/-- The sample theater sells general admission at 10.50 yen, and a buyer holds two places. -/
def yenCart : State :=
  exec (.setGaHold 1 1 "a" 3 2)
    ⟨execStaff flatTrig (.addPriceTier 1 1 "General" 1050 "JPY") sampleDb, 0⟩

/-- The cart of two places at half a yen is reachable. -/
theorem yenCart_reachable : Reachable (theater flatTrig) yenCart := by
  have hpriced := @staff_reachable flatTrig _ (.of_init sampleState_fresh)
    (.addPriceTier 1 1 "General" 1050 "JPY")
  exact hpriced.step (i := .shop (.setGaHold 1 1 "a" 3 2)) ⟨trivial, rfl⟩

/-- **The counterexample.** Each place is charged 10 yen, and the total is 21. -/
theorem places_rounded_apart : ∃ hold ∈ yenCart.db.holds.rows,
    Reachable (theater flatTrig) yenCart ∧ SeatsAgree yenCart.db hold ∧
    holdCurrency yenCart.db hold = "JPY" ∧ chargedUnits yenCart.db hold = 20 ∧
    toMinorUnits (holdGrandTotal yenCart.db hold) (holdCurrency yenCart.db hold) = 21 := by
  obtain ⟨hold, hmem, hrest⟩ : ∃ hold ∈ yenCart.db.holds.rows, SeatsAgree yenCart.db hold ∧
      holdCurrency yenCart.db hold = "JPY" ∧ chargedUnits yenCart.db hold = 20 ∧
      toMinorUnits (holdGrandTotal yenCart.db hold) (holdCurrency yenCart.db hold) = 21 := by decide
  exact ⟨hold, hmem, yenCart_reachable, hrest⟩

end BoxOffice
