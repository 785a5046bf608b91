import BoxOffice.Cascade
import BoxOffice.Events.Pricing
import BoxOffice.Money

namespace BoxOffice

open Relational

/-!
# Dashboard — prices, promo codes and the donation campaign

The staff forms that edit what a cart is priced from.

* `saveReservedPrices` is the section grid, `addPriceTier` the general-admission form,
  `editPriceTier` / `deletePriceTier` the admin pages of the same rows;
* `savePromoCode`, `promoDeactivate` — codes are edited and archived, never deleted;
* `donationSettings` — the one campaign of an organization.
-/

/-! ### Price tiers -/

/-- One submitted price cell, after `Decimal(raw.strip())`. -/
inductive PriceCell
  | blank
  | malformed
  | number (value : ℚ)
deriving Repr, DecidableEq

/-- `_parse_price`: the amount of a cell, `none` for a blank one, or the error text. -/
def parsePrice : PriceCell → Except String (Option Cents)
  | .blank => .ok none
  | .malformed => .error "Enter a number, e.g. 45 or 45.00."
  | .number value =>
    if value < 0 then .error "Price can't be negative."
    else .ok (some (roundHalfEven (value.num * 100) value.den))

/-- One cell of the grid that is to be saved: the default or the override of a section. -/
structure PricePlan where
  performance : Option Nat
  section_ : Section
  amount : Option Cents

/-- The tier a cell edits. -/
def planTier (db : Db) (organization : Nat) (plan : PricePlan) : Option PriceTier :=
  (orderedBy (fun t : PriceTier => t.name) (db.priceTiers.rows.filter fun t =>
    t.organization == organization && t.performance == plan.performance
      && t.section_ == some plan.section_.id)).head?

/-- The tier a cell creates. -/
def planNewTier (organization : Nat) (plan : PricePlan) (amount : Cents) (id : Nat) :
    PriceTier where
  id := id
  organization := organization
  name := match plan.performance with
    | none => plan.section_.name
    | some _ => s!"{plan.section_.name} (this performance)"
  amount := amount
  currency := "USD"
  performance := plan.performance
  section_ := some plan.section_.id

/-- The amounts and the names that the columns of a price tier take. -/
structure PriceColumns where
  amountFits : Cents → Bool
  nameFits : String → Bool

/-- The columns as they are declared: ten digits, two of them after the point, and 255
    characters. -/
def declaredPriceColumns : PriceColumns where
  amountFits amount := amount < 10000000000
  nameFits name := name.length ≤ 255

/-- Save one cell: a blank one deletes its tier, any other creates it or sets its amount, unless
    the columns do not take it. -/
def savePlan (columns : PriceColumns) (db : Db) (organization : Nat) (plan : PricePlan) :
    Except ServiceError Db :=
  match plan.amount, planTier db organization plan with
  | none, none => .ok db
  | none, some tier => deletePriceTier db tier.id
  | some amount, some tier =>
    if columns.amountFits amount then
      .ok { db with
        priceTiers := db.priceTiers.update (fun t => t.id == tier.id)
          fun t => { t with amount := amount } }
    else .error (.dataError "amount")
  | some amount, none =>
    if columns.amountFits amount
        && columns.nameFits (planNewTier organization plan amount 0).name then
      .ok { db with priceTiers := db.priceTiers.insert (planNewTier organization plan amount) }
    else .error (.dataError "price tier")

/-- What saving one cell writes. -/
inductive PlanEffect (columns : PriceColumns) (db : Db) (organization : Nat) (plan : PricePlan) :
    Db → Prop
  | kept : plan.amount = none → planTier db organization plan = none →
      PlanEffect columns db organization plan db
  | cleared {tier : PriceTier} : plan.amount = none →
      planTier db organization plan = some tier → tierProtected db tier.id = false →
      PlanEffect columns db organization plan
        { db with
          priceTiers := db.priceTiers.delete fun t => t.id == tier.id
          holds := db.holds.delete (Hold.usesTier tier.id) }
  | repriced {tier : PriceTier} {amount : Cents} : plan.amount = some amount →
      planTier db organization plan = some tier → columns.amountFits amount = true →
      PlanEffect columns db organization plan
        { db with
          priceTiers := db.priceTiers.update (fun t => t.id == tier.id)
            fun t => { t with amount := amount } }
  | priced {amount : Cents} : plan.amount = some amount →
      planTier db organization plan = none → columns.amountFits amount = true →
      columns.nameFits (planNewTier organization plan amount 0).name = true →
      PlanEffect columns db organization plan
        { db with priceTiers := db.priceTiers.insert (planNewTier organization plan amount) }

/-- **One cell.** -/
theorem savePlan_effect {columns : PriceColumns} {db db' : Db} {organization : Nat}
    {plan : PricePlan}
    (h : savePlan columns db organization plan = .ok db') :
    PlanEffect columns db organization plan db' := by
  unfold savePlan at h
  cases ha : plan.amount with
  | none =>
    cases ht : planTier db organization plan with
    | none => simp only [ha, ht] at h; cases h; exact .kept ha ht
    | some tier =>
      simp only [ha, ht] at h
      obtain ⟨hfree, rfl⟩ := deletePriceTier_ok h
      exact .cleared ha ht hfree
  | some amount =>
    cases ht : planTier db organization plan with
    | none =>
      simp only [ha, ht] at h
      split_ifs at h with hfits
      cases h
      rw [Bool.and_eq_true] at hfits
      exact .priced ha ht hfits.1 hfits.2
    | some tier =>
      simp only [ha, ht] at h
      split_ifs at h with hfits
      cases h
      exact .repriced ha ht hfits

/-- The loop of the transaction. -/
def savePlans (columns : PriceColumns) (db : Db) (organization : Nat) :
    List PricePlan → Except ServiceError Db
  | [] => .ok db
  | plan :: rest =>
    match savePlan columns db organization plan with
    | .error e => .error e
    | .ok db => savePlans columns db organization rest

/-- The cells of one section, in the order they are saved, and the error texts of its
    fields. -/
def planSection (performance : Nat) (section_ : Section) (cells : PriceCell × PriceCell) :
    List PricePlan × List (String × String) :=
  let one (field : String) (performance : Option Nat) (cell : PriceCell) :=
    match parsePrice cell with
    | .ok amount => ([{ performance, section_, amount : PricePlan }], [])
    | .error e => ([], [(s!"{field}_{section_.id}", e)])
  let default_ := one "default" none cells.1
  let override_ := one "override" (some performance) cells.2
  (default_.1 ++ override_.1, default_.2 ++ override_.2)

/-- `_save_reserved_prices`: the next database, or the validation errors and no change.  `cells`
    gives the default and the override cell of a section. -/
def saveReservedPrices (columns : PriceColumns) (db : Db) (organization performance : Nat)
    (sections : List Section) (cells : Nat → PriceCell × PriceCell) :
    Except ServiceError (Db × List (String × String)) :=
  let plans := sections.map fun s => planSection performance s (cells s.id)
  let errors := (plans.map (·.2)).flatten
  if errors ≠ [] then .ok (db, errors)
  else
    match savePlans columns db organization (plans.map (·.1)).flatten with
    | .error e => .error e
    | .ok db => .ok (db, [])

/-- `PriceTierForm.save` on a general-admission performance. -/
def addPriceTier (db : Db) (organization performance : Nat) (name : String) (amount : Cents)
    (currency : String) : Db :=
  { db with priceTiers := db.priceTiers.insert fun id =>
      PriceTier.mk id organization name amount currency (some performance) none (by simp) }

/-- Rewrite the name, the amount and the currency of a tier. -/
def editPriceTier (db : Db) (priceTier : Nat) (name : String) (amount : Cents)
    (currency : String) : Db :=
  { db with
    priceTiers := db.priceTiers.update (fun t => t.id == priceTier)
      fun t => { t with name := name, amount := amount, currency := currency } }

/-! ### Promo codes -/

/-- The fields of `PromoCodeForm`, cleaned. -/
structure PromoCodeForm where
  code : String
  kind : PromoKind
  value : Nat
  currency : String
  startsAt : Option Time
  endsAt : Option Time
  maxRedemptions : Option Nat
  minOrderAmount : Option Cents
  isActive : Bool
deriving Repr, DecidableEq

/-- The row a form is saved to. -/
def PromoCodeForm.row (form : PromoCodeForm) (organization redemptionCount id : Nat) :
    PromoCode where
  id := id
  organization := organization
  code := Python.upper (strip form.code)
  kind := form.kind
  value := form.value
  currency := form.currency
  startsAt := form.startsAt
  endsAt := form.endsAt
  maxRedemptions := form.maxRedemptions
  redemptionCount := redemptionCount
  minOrderAmount := form.minOrderAmount
  isActive := form.isActive

/-- The row of a code has the key it was given. -/
theorem PromoCodeForm.row_id (form : PromoCodeForm) (organization redemptionCount id : Nat) :
    (form.row organization redemptionCount id).id = id := rfl

/-- `PromoCodeCreateView`. -/
def createPromoCode (db : Db) (organization : Nat) (form : PromoCodeForm) : Db :=
  { db with promoCodes := db.promoCodes.insert (form.row organization 0) }

/-- `PromoCodeUpdateView`. -/
def savePromoCode (db : Db) (promo : Nat) (form : PromoCodeForm) : Db :=
  { db with
    promoCodes := db.promoCodes.update (fun p => p.id == promo)
      (fun p => form.row p.organization p.redemptionCount p.id) (fun p => form.row_id _ _ p.id) }

/-- `promo_deactivate`, which toggles the flag. -/
def promoDeactivate (db : Db) (promo : Nat) : Db :=
  { db with
    promoCodes := db.promoCodes.update (fun p => p.id == promo)
      fun p => { p with isActive := !p.isActive } }

/-! ### The donation campaign -/

/-- `get_or_create_general_fund`. -/
def getOrCreateGeneralFund (campaigns : Table DonationCampaign) (organization : Nat) :
    Table DonationCampaign × DonationCampaign :=
  match (orderedByPk (campaigns.rows.filter (·.organization == organization))).head? with
  | some campaign => (campaigns, campaign)
  | none =>
    let mk := fun id => DonationCampaign.mk id organization "General Fund" true
    (campaigns.insert mk, mk campaigns.nextId)

/-- `donation_settings`. -/
def donationSettings (db : Db) (organization : Nat) (name : String) (isActive : Bool) : Db :=
  let (campaigns, campaign) := getOrCreateGeneralFund db.donationCampaigns organization
  { db with
    donationCampaigns := campaigns.update (fun c => c.id == campaign.id)
      fun c => { c with name := name, isActive := isActive } }

end BoxOffice
