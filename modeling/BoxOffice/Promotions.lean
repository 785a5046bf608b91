import BoxOffice.Money

namespace BoxOffice

open Relational

/-!
# Promotions — lookup, validation and arithmetic of discount codes

The functions of `promotions.services`.  They are hold-agnostic: validation takes the gross
subtotal and the charge currency of a cart.

* `computeDiscount_nonneg` and `validateCode_ok` are what the money path relies on: an applied
  discount lies in `[0, subtotal)`.
-/

/-- `get_usable_code`: the organization's code of that (normalised) name. -/
def getUsableCode (promoCodes : Table PromoCode) (organization : Nat) (code : String) :
    Option PromoCode :=
  let normalized := Python.upper (strip code)
  if normalized = "" then none
  else promoCodes.rows.find? fun p => p.organization == organization && p.code == normalized

/-- `compute_discount`: what the code takes off a gross subtotal. -/
def computeDiscount (promo : PromoCode) (subtotal : Cents) : Cents :=
  let discount := match promo.kind with
    | .percent => roundHalfUp (subtotal * promo.value) 10000
    | .fixed => min (promo.value : Int) subtotal
  if discount < 0 then 0 else discount

/-- `validate_code`: may the code be applied to a cart of that subtotal and currency now? -/
def validateCode (promo : PromoCode) (subtotal : Cents) (currency : String) (now : Time) :
    Except ServiceError Unit :=
  if !promo.isActive then .error (.promoError "That code isn't valid.")
  else if ∃ t ∈ promo.startsAt, now < t then .error (.promoError "That code isn't active yet.")
  else if ∃ t ∈ promo.endsAt, t < now then .error (.promoError "That code has expired.")
  else if ∃ n ∈ promo.maxRedemptions, n ≤ promo.redemptionCount then
    .error (.promoError "That code has reached its redemption limit.")
  else if ∃ m ∈ promo.minOrderAmount, subtotal < m then
    .error (.promoError (strip
      s!"That code requires an order of at least {formatCents (promo.minOrderAmount.getD 0)} {upper currency}."))
  else if promo.kind = .fixed ∧ promo.currency ≠ "" ∧ upper promo.currency ≠ upper currency then
    .error (.promoError "That code can't be used for this order's currency.")
  else if subtotal ≤ computeDiscount promo subtotal then
    .error (.promoError "This code can't be applied to this order.")
  else .ok ()

/-- `record_redemption`: bump the counter of the row in place. -/
def recordRedemption (promoCodes : Table PromoCode) (promo : Nat) : Table PromoCode :=
  promoCodes.update (fun p => p.id == promo)
    (fun p => { p with redemptionCount := p.redemptionCount + 1 })

/-- A discount is never negative. -/
theorem computeDiscount_nonneg (promo : PromoCode) (subtotal : Cents) :
    0 ≤ computeDiscount promo subtotal := by
  unfold computeDiscount
  extract_lets discount
  by_cases h : discount < 0
  · rw [if_pos h]
  · rw [if_neg h]; exact not_lt.mp h

/-- A code that passes validation leaves something to charge. -/
theorem validateCode_ok {promo : PromoCode} {subtotal : Cents} {currency : String} {now : Time}
    (h : validateCode promo subtotal currency now = .ok ()) :
    computeDiscount promo subtotal < subtotal := by
  unfold validateCode at h
  by_contra hle
  rw [not_lt] at hle
  rw [if_pos hle] at h
  split_ifs at h

end BoxOffice
