import BoxOffice.Orders.Holds
import BoxOffice.Promotions

namespace BoxOffice

open Relational

/-!
# Orders — the money of a cart

The totals of a hold and the four cart edits that change them.

* `holdTotal` is the gross ticket subtotal, `holdDiscount` and `holdDonation` read the frozen
  snapshots, `holdGrandTotal` is the net charge;
* `applyPromoCode`, `removePromoCode`, `setHoldDonation`, `clearHoldDonation` rewrite the promo
  or the donation columns of one row; `setPromo_cartEdit` and `setDonation_cartEdit` say they touch
  nothing else of it.
-/

/-! ### Totals -/

/-- `ga_unit_amount`: the frozen price, else the live price of the tier. -/
def gaUnitAmount (db : Db) (g : GaSelection) : Cents :=
  match g.gaUnitAmount with
  | some amount => amount
  | none => ((db.priceTiers.get? g.priceTier).map (·.amount)).getD 0

/-- `hold_total`: the gross ticket subtotal. -/
def holdTotal (db : Db) (h : Hold) : Cents :=
  match h.ga with
  | some g =>
    if g.quantity ≠ 0 then gaUnitAmount db g * g.quantity
    else ((holdSeatsOf db h).map (·.unitAmount)).sum
  | none => ((holdSeatsOf db h).map (·.unitAmount)).sum

/-- The currency of a price tier. -/
def tierCurrency (db : Db) (priceTier : Nat) : String :=
  ((db.priceTiers.get? priceTier).map (·.currency)).getD ""

/-- The currency of an organization. -/
def organizationCurrency (db : Db) (organization : Nat) : String :=
  ((db.organizations.get? organization).map (·.currency)).getD ""

/-- `hold_currency`: the single currency a hold is charged in. -/
def holdCurrency (db : Db) (h : Hold) : String :=
  match h.ga with
  | some g => tierCurrency db g.priceTier
  | none =>
    match (holdSeatsOf db h).head? with
    | some { priceTier := some t, .. } => tierCurrency db t
    | _ => organizationCurrency db h.organization

/-- `hold_discount`. -/
def holdDiscount (h : Hold) : Cents := h.discountAmount.getD 0

/-- `hold_donation`. -/
def holdDonation (h : Hold) : Cents := h.donationAmount.getD 0

/-- `hold_grand_total`: the net ticket charge, floored at zero, plus the donation. -/
def holdGrandTotal (db : Db) (h : Hold) : Cents :=
  max (holdTotal db h - holdDiscount h) 0 + holdDonation h

/-! ### Cart edits -/

/-- `hold.save(update_fields=…)` on the row with that key. -/
def editHold (db : Db) (id : Nat) (f : Hold → Hold)
    (hf : ∀ h, (f h).id = h.id := by intro _; exact id rfl) : Db :=
  { db with holds := db.holds.update (fun h => h.id == id) f hf }

/-- Set the three promo columns. -/
def Hold.setPromo (promoCode : Option Nat) (text : String) (discount : Option Cents) (h : Hold) :
    Hold :=
  { h with promoCode := promoCode, promoCodeText := text, discountAmount := discount }

/-- Set the two donation columns. -/
def Hold.setDonation (amount : Option Cents) (campaign : Option Nat) (h : Hold) : Hold :=
  { h with donationAmount := amount, donationCampaign := campaign }

/-- The session's own active hold of that key. -/
def findActiveHold (db : Db) (now : Time) (organization : Nat) (sessionKey : String)
    (holdId : Option Nat) : Option Hold :=
  db.holds.rows.find? fun h =>
    h.organization == organization && h.sessionKey == sessionKey && some h.id == holdId
      && decide (h.Active now)

/-- The session's own hold of that key, expired or not. -/
def findHold (db : Db) (organization : Nat) (sessionKey : String) (holdId : Option Nat) :
    Option Hold :=
  db.holds.rows.find? fun h =>
    h.organization == organization && h.sessionKey == sessionKey && some h.id == holdId

/-- `apply_promo_code`: freeze the discount of a code onto the hold.  A hold id that does not
    parse is `none`. -/
def applyPromoCode (db : Db) (now : Time) (organization : Nat) (sessionKey : String)
    (holdId : Option Nat) (code : String) : Result Unit :=
  match findActiveHold db now organization sessionKey holdId with
  | none => .error (.promoError "Your selection has expired. Please make your selection again.")
  | some hold =>
    match getUsableCode db.promoCodes organization code with
    | none => .error (.promoError "That code isn't valid.")
    | some promo =>
      let subtotal := holdTotal db hold
      match validateCode promo subtotal (holdCurrency db hold) now with
      | .error e => .error e
      | .ok () =>
        .ok (editHold db hold.id
          (Hold.setPromo (some promo.id) promo.code (some (computeDiscount promo subtotal))), ())

/-- `remove_promo_code`. -/
def removePromoCode (db : Db) (organization : Nat) (sessionKey : String) (holdId : Option Nat) :
    Db :=
  match findHold db organization sessionKey holdId with
  | none => db
  | some hold => editHold db hold.id (Hold.setPromo none "" none)

/-- `MAX_HOLD_DONATION`. -/
def maxHoldDonation : Cents := 1000000

/-- `set_hold_donation`.  `amount` is the submitted amount rounded to cents, or `none` when it
    does not parse. -/
def setHoldDonation (db : Db) (now : Time) (organization : Nat) (sessionKey : String)
    (holdId : Option Nat) (amount : Option Cents) (campaign : Nat) : Result Unit :=
  match findActiveHold db now organization sessionKey holdId with
  | none => .error (.holdError "Your selection has expired. Please make your selection again.")
  | some hold =>
    match amount with
    | none => .error (.holdError "Please enter a valid donation amount.")
    | some amount =>
      if amount ≤ 0 then .error (.holdError "Please enter a donation amount greater than zero.")
      else if maxHoldDonation < amount then
        .error (.holdError
          "Donations through checkout are capped at 10000; please contact the box office for a larger gift.")
      else .ok (editHold db hold.id (Hold.setDonation (some amount) (some campaign)), ())

/-- `clear_hold_donation`. -/
def clearHoldDonation (db : Db) (organization : Nat) (sessionKey : String)
    (holdId : Option Nat) : Db :=
  match findHold db organization sessionKey holdId with
  | none => db
  | some hold => editHold db hold.id (Hold.setDonation none none)

/-! ### What the edits write -/

/-- A rewriting of a hold that keeps its key, its owner, its expiry and its inventory. -/
def CartEdit (f : Hold → Hold) : Prop :=
  ∀ h, Hold.SameCart (f h) h ∧ (f h).holdSeats = h.holdSeats

/-- A code is an edit of the cart. -/
theorem setPromo_cartEdit (promoCode : Option Nat) (text : String) (discount : Option Cents) :
    CartEdit (Hold.setPromo promoCode text discount) :=
  fun _ => ⟨⟨rfl, rfl, rfl, rfl, rfl, rfl⟩, rfl⟩

/-- So is a gift. -/
theorem setDonation_cartEdit (amount : Option Cents) (campaign : Option Nat) :
    CartEdit (Hold.setDonation amount campaign) :=
  fun _ => ⟨⟨rfl, rfl, rfl, rfl, rfl, rfl⟩, rfl⟩

/-- What a cart edit may do to the money of a hold: keep or clear the discount, or set it
    between zero and the ticket subtotal; keep or clear the gift, or set a positive one. -/
structure MoneyEdit (db : Db) (h h' : Hold) : Prop where
  discount : ∀ d ∈ h'.discountAmount,
    h.discountAmount = some d ∨ (0 ≤ d ∧ d < holdTotal db h)
  donation : ∀ a ∈ h'.donationAmount, h.donationAmount = some a ∨ 0 < a

/-- Removing the code is an edit of the money. -/
theorem setPromo_none_moneyEdit (db : Db) (h : Hold) :
    MoneyEdit db h (h.setPromo none "" none) where
  discount := fun _ hd => by cases hd
  donation := fun _ ha => .inl ha

/-- So is applying one whose discount is less than the total. -/
theorem setPromo_moneyEdit {db : Db} {h : Hold} (promo : PromoCode)
    (hlt : computeDiscount promo (holdTotal db h) < holdTotal db h) :
    MoneyEdit db h (h.setPromo (some promo.id) promo.code
      (some (computeDiscount promo (holdTotal db h)))) where
  discount := fun d hd => by
    rw [← Option.some.inj hd]
    exact .inr ⟨computeDiscount_nonneg _ _, hlt⟩
  donation := fun _ ha => .inl ha

/-- So is a positive gift. -/
theorem setDonation_moneyEdit (db : Db) (h : Hold) {amount : Option Cents} (campaign : Option Nat)
    (hpos : ∀ a ∈ amount, 0 < a) : MoneyEdit db h (h.setDonation amount campaign) where
  discount := fun _ hd => .inl hd
  donation := fun a ha => .inr (hpos a ha)

section Spec

variable {db db' : Db} {now : Time} {organization : Nat} {sessionKey : String}
  {holdId : Option Nat} {h : Hold}

/-- The holds after one of them was edited. -/
theorem mem_editHold {id : Nat} {f : Hold → Hold} {hf} :
    h ∈ (editHold db id f hf).holds.rows ↔
      ∃ k ∈ db.holds.rows, (if k.id = id then f k else k) = h := by
  show h ∈ (Table.update _ _ f hf).rows ↔ _
  rw [Table.mem_update]
  simp only [beq_iff_eq]

/-- What an active hold that is found is. -/
theorem findActiveHold_some (hf : findActiveHold db now organization sessionKey holdId = some h) :
    h ∈ db.holds.rows ∧ h.organization = organization ∧ h.sessionKey = sessionKey ∧
      some h.id = holdId ∧ h.Active now := by
  have hp := List.find?_some hf
  simp only [Bool.and_eq_true, beq_iff_eq, decide_eq_true_eq] at hp
  exact ⟨List.mem_of_find?_eq_some hf, hp.1.1.1, hp.1.1.2, hp.1.2, hp.2⟩

/-- **`apply_promo_code`.** A successful call freezes a discount between zero and the ticket
    subtotal of an active hold of the session. -/
theorem applyPromoCode_ok {code : String}
    (ha : applyPromoCode db now organization sessionKey holdId code = .ok (db', ())) :
    ∃ hold promo, findActiveHold db now organization sessionKey holdId = some hold ∧
      getUsableCode db.promoCodes organization code = some promo ∧
      computeDiscount promo (holdTotal db hold) < holdTotal db hold ∧
      db' = editHold db hold.id (Hold.setPromo (some promo.id) promo.code
        (some (computeDiscount promo (holdTotal db hold)))) := by
  unfold applyPromoCode at ha
  cases hh : findActiveHold db now organization sessionKey holdId with
  | none => simp only [hh] at ha; cases ha
  | some hold =>
    cases hp : getUsableCode db.promoCodes organization code with
    | none => simp only [hh, hp] at ha; cases ha
    | some promo =>
      simp only [hh, hp] at ha
      cases hv : validateCode promo (holdTotal db hold) (holdCurrency db hold) now with
      | error e => simp only [hv] at ha; cases ha
      | ok u =>
        simp only [hv] at ha
        cases ha
        exact ⟨hold, promo, rfl, rfl, validateCode_ok hv, rfl⟩

/-- **`remove_promo_code`.** -/
theorem removePromoCode_eq : removePromoCode db organization sessionKey holdId = db ∨
    ∃ hold, findHold db organization sessionKey holdId = some hold ∧
      removePromoCode db organization sessionKey holdId
        = editHold db hold.id (Hold.setPromo none "" none) := by
  unfold removePromoCode
  cases hh : findHold db organization sessionKey holdId with
  | none => exact .inl rfl
  | some hold => exact .inr ⟨hold, rfl, rfl⟩

/-- **`set_hold_donation`.** A successful call freezes a positive gift on an active hold of the
    session. -/
theorem setHoldDonation_ok {amount : Option Cents} {campaign : Nat}
    (ha : setHoldDonation db now organization sessionKey holdId amount campaign = .ok (db', ())) :
    ∃ hold gift, findActiveHold db now organization sessionKey holdId = some hold ∧
      amount = some gift ∧ 0 < gift ∧ gift ≤ maxHoldDonation ∧
      db' = editHold db hold.id (Hold.setDonation (some gift) (some campaign)) := by
  unfold setHoldDonation at ha
  cases hh : findActiveHold db now organization sessionKey holdId with
  | none => simp only [hh] at ha; cases ha
  | some hold =>
    cases amount with
    | none => simp only [hh] at ha; cases ha
    | some gift =>
      simp only [hh] at ha
      split_ifs at ha with h0 hmax
      cases ha
      exact ⟨hold, gift, rfl, rfl, not_le.mp h0, not_lt.mp hmax, rfl⟩

/-- **`clear_hold_donation`.** -/
theorem clearHoldDonation_eq : clearHoldDonation db organization sessionKey holdId = db ∨
    ∃ hold, findHold db organization sessionKey holdId = some hold ∧
      clearHoldDonation db organization sessionKey holdId
        = editHold db hold.id (Hold.setDonation none none) := by
  unfold clearHoldDonation
  cases hh : findHold db organization sessionKey holdId with
  | none => exact .inl rfl
  | some hold => exact .inr ⟨hold, rfl, rfl⟩

end Spec

end BoxOffice
