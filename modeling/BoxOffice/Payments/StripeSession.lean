import BoxOffice.Payments.CheckoutSession

namespace BoxOffice

open Relational

/-!
# Payments — creating a Checkout Session

What the program sends to Stripe.

* `applicationFeeAmount` is the cut of the platform, in minor units;
* `createCheckoutSession`, `createDonationCheckoutSession` and `createPassCheckoutSession` build
  the `SessionRequest` of a cart, of a gift and of a pass; a theater that cannot charge yet gets
  a stub page instead;
* `SessionRequest.charged` is what the buyer pays for the request, `SessionRequest.completed` the
  session that the webhook delivers for it.

The success and cancel addresses are left out: they carry the host of the request only.
-/

/-! ### The cut of the platform -/

/-- `PLATFORM_FEE_PERCENT` and `PLATFORM_FEE_FIXED_CENTS`. -/
structure FeeSettings where
  percent : Int
  fixedCents : Int
deriving Repr, DecidableEq

/-- The rate of an organization, in hundredths of a percent. -/
def feePercent (settings : FeeSettings) (organization : Organization) : Int :=
  organization.platformFeePercent.getD (settings.percent * 100)

/-- `application_fee_amount`.  A blank `currency` stands for the organization's own. -/
def applicationFeeAmount (settings : FeeSettings) (organization : Organization) (total : Cents)
    (currency : String) : Option Int :=
  let code := upper (if currency = "" then organization.currency else currency)
  -- Cents times hundredths of a percent are millionths of a major unit.
  let fee := total * feePercent settings organization
  let pctMinor :=
    if code ∈ zeroDecimalCurrencies then roundHalfUp fee 1000000
    else if code ∈ threeDecimalCurrencies then roundHalfUp fee 1000 / 10 * 10
    else roundHalfUp fee 10000
  let feeMinor := pctMinor + settings.fixedCents
  if feeMinor ≤ 0 then none else some feeMinor

/-! ### Requests -/

/-- One line item, with `price_data` of its own. -/
structure LineItem where
  quantity : Nat
  currency : String
  unitAmount : Int
  name : String
deriving Repr, DecidableEq

/-- A coupon minted for one session. -/
structure Coupon where
  amountOff : Int
  currency : String
  name : String
deriving Repr, DecidableEq

/-- The parameters of `stripe.checkout.Session.create`; `kind`, `organizationId` and
    `marketingOptIn` are its metadata. -/
structure SessionRequest where
  lineItems : List LineItem
  kind : SessionKind
  organizationId : Nat
  marketingOptIn : Bool
  customerEmail : Option String
  applicationFee : Option Int
  coupon : Option Coupon
  stripeAccount : String
deriving Repr, DecidableEq

/-- Where the buyer is sent: to the simulated page with that query, or to Stripe. -/
inductive CheckoutPage
  | stub (query : String)
  | stripe (request : SessionRequest)
deriving Repr, DecidableEq

/-- What a line item charges, in cents. -/
def LineItem.amount (l : LineItem) : ℚ := l.quantity * inCents l.unitAmount l.currency

/-- What a coupon takes off, in cents. -/
def Coupon.amount (c : Coupon) : ℚ := inCents c.amountOff c.currency

/-- What the coupon of a request takes off, in cents. -/
def SessionRequest.discount (r : SessionRequest) : ℚ := (r.coupon.map Coupon.amount).getD 0

/-- **What the buyer is charged**, in cents: the line items minus the coupon. -/
def SessionRequest.charged (r : SessionRequest) : ℚ :=
  (r.lineItems.map LineItem.amount).sum - r.discount

/-- The completed session that the webhook delivers for a request. -/
def SessionRequest.completed (r : SessionRequest) (id buyerEmail buyerName : String)
    (paymentIntent : Option String) : CheckoutSession where
  id := id
  kind := r.kind
  organizationId := some r.organizationId
  marketingOptIn := r.marketingOptIn
  buyerEmail := buyerEmail
  buyerName := buyerName
  paymentIntent := paymentIntent

/-! ### A cart -/

/-- The title of the event of a performance. -/
def performanceTitle (db : Db) (performance : Nat) : String :=
  (((db.performances.get? performance).bind fun p => db.events.get? p.event).map (·.title)).getD ""

/-- The name of an organization. -/
def organizationName (db : Db) (organization : Nat) : String :=
  ((db.organizations.get? organization).map (·.name)).getD ""

/-- The name on a general-admission line. -/
def tierLineName (db : Db) (performance priceTier : Nat) : String :=
  performanceTitle db performance ++ " — " ++ ((db.priceTiers.get? priceTier).map (·.name)).getD ""

/-- `f"{section.name} {row_label}{number}"`. -/
def seatName (db : Db) (seat : Nat) : String :=
  match db.seats.get? seat with
  | some s => ((db.sections.get? s.section_).map (·.name)).getD "" ++ " " ++ s.rowLabel ++ s.number
  | none => ""

/-- The name on the line of a seat. -/
def seatLineName (db : Db) (performance seat : Nat) : String :=
  performanceTitle db performance ++ " — " ++ seatName db seat

/-- The currency a held seat is charged in. -/
def holdSeatCurrency (db : Db) (hold : Hold) (hs : HoldSeat) : String :=
  match hs.priceTier with
  | some t => tierCurrency db t
  | none => organizationCurrency db hold.organization

/-- The line of a general-admission cart. -/
def gaLineItem (db : Db) (hold : Hold) (g : GaSelection) : LineItem where
  quantity := g.quantity
  currency := lower (tierCurrency db g.priceTier)
  unitAmount := toMinorUnits (gaUnitAmount db g) (tierCurrency db g.priceTier)
  name := tierLineName db hold.performance g.priceTier

/-- The line of a held seat. -/
def seatLineItem (db : Db) (hold : Hold) (hs : HoldSeat) : LineItem where
  quantity := 1
  currency := lower (holdSeatCurrency db hold hs)
  unitAmount := toMinorUnits hs.unitAmount (holdSeatCurrency db hold hs)
  name := seatLineName db hold.performance hs.seat

/-- The ticket lines of `_line_items_for_hold`. -/
def ticketLineItems (db : Db) (hold : Hold) : List LineItem :=
  match hold.ga with
  | some g =>
    if g.quantity ≠ 0 then [gaLineItem db hold g]
    else (holdSeatsOf db hold).map (seatLineItem db hold)
  | none => (holdSeatsOf db hold).map (seatLineItem db hold)

/-- `_append_donation_line_item`: the lines it appends. -/
def donationLineItems (db : Db) (hold : Hold) : List LineItem :=
  if holdDonation hold ≤ 0 then []
  else [{
    quantity := 1
    currency := lower (holdCurrency db hold)
    unitAmount := toMinorUnits (holdDonation hold) (holdCurrency db hold)
    name := "Donation — " ++ organizationName db hold.organization }]

/-- `_line_items_for_hold`. -/
def lineItemsForHold (db : Db) (hold : Hold) : List LineItem :=
  ticketLineItems db hold ++ donationLineItems db hold

/-- `(promo_code_text or "Discount")[:40]`. -/
def couponName (promoCodeText : String) : String :=
  String.ofList ((if promoCodeText = "" then "Discount" else promoCodeText).toList.take 40)

/-- The coupon of a cart, if its discount comes to a unit of the currency at all. -/
def holdCoupon (db : Db) (hold : Hold) : Option Coupon :=
  let discountMinor := toMinorUnits (holdDiscount hold) (holdCurrency db hold)
  if 0 < discountMinor then
    some { amountOff := discountMinor, currency := lower (holdCurrency db hold),
           name := couponName hold.promoCodeText }
  else none

/-- `create_checkout_session`. -/
def createCheckoutSession (db : Db) (now : Time) (settings : FeeSettings) (hold : Hold)
    (marketingOptIn : Bool) : Except ServiceError CheckoutPage :=
  if hold.expiresAt ≤ now then
    .error (.checkoutError "Your hold has expired. Please make your selection again.")
  else if lineItemsForHold db hold = [] then
    .error (.checkoutError "There's nothing to check out.")
  else
    match db.organizations.get? hold.organization with
    | none => .error (.doesNotExist "Organization")
    | some organization =>
      if organization.stripeChargesEnabled = false then .ok (.stub s!"?hold_id={hold.id}")
      else .ok (.stripe {
        lineItems := lineItemsForHold db hold
        kind := .hold (some hold.id)
        organizationId := organization.id
        marketingOptIn := marketingOptIn
        customerEmail := none
        applicationFee := applicationFeeAmount settings organization (holdGrandTotal db hold)
          (holdCurrency db hold)
        coupon := holdCoupon db hold
        stripeAccount := organization.stripeAccountId })

/-! ### A gift and a pass -/

/-- `(organization.currency or "usd").lower()`. -/
def chargeCurrency (organization : Organization) : String :=
  lower (if organization.currency = "" then "usd" else organization.currency)

/-- The parameters of a session that sells one thing at one price. -/
def singleRequest (settings : FeeSettings) (organization : Organization) (amount : Cents)
    (name : String) (kind : SessionKind) (buyerEmail : String) (marketingOptIn : Bool) :
    SessionRequest where
  lineItems := [{
    quantity := 1
    currency := chargeCurrency organization
    unitAmount := toMinorUnits amount (chargeCurrency organization)
    name := name }]
  kind := kind
  organizationId := organization.id
  marketingOptIn := marketingOptIn
  customerEmail := if buyerEmail = "" then none else some buyerEmail
  applicationFee := applicationFeeAmount settings organization amount (chargeCurrency organization)
  coupon := none
  stripeAccount := organization.stripeAccountId

/-- `create_donation_checkout_session`. -/
def createDonationCheckoutSession (settings : FeeSettings) (organization : Organization)
    (amount : Cents) (campaign : Option Nat) (buyerEmail : String) (marketingOptIn : Bool) :
    CheckoutPage :=
  if organization.stripeChargesEnabled = false then .stub s!"?amount={formatCents amount}"
  else .stripe (singleRequest settings organization amount ("Donation — " ++ organization.name)
    (.donation (formatCents amount) (some amount) campaign) buyerEmail marketingOptIn)

/-- `create_pass_checkout_session`. -/
def createPassCheckoutSession (settings : FeeSettings) (organization : Organization)
    (product : PassProduct) (buyerEmail : String) (marketingOptIn : Bool) : CheckoutPage :=
  if organization.stripeChargesEnabled = false then .stub s!"?product_id={product.id}"
  else .stripe (singleRequest settings organization product.price
    (product.name ++ " — " ++ organization.name) (.pass (some product.id)) buyerEmail
    marketingOptIn)

/-! ### What they charge -/

/-- A delivery that says it created its order has one. -/
theorem created_ok {r : Result (Order × Bool)} (h : r.map (fun p => p.2.2) = .ok true) :
    ∃ db' order, r = .ok (db', order, true) := by
  rcases r with e | ⟨db', order, created⟩
  · cases h
  · cases created with
    | true => exact ⟨db', order, rfl⟩
    | false => cases h

section Spec

variable {db : Db} {now : Time} {settings : FeeSettings} {hold : Hold}
  {organization : Organization} {request : SessionRequest} {marketingOptIn : Bool}
  {buyerEmail : String}

/-- **A single price** is charged in whole units of the currency. -/
theorem singleRequest_charged (amount : Cents) (name : String) (kind : SessionKind) :
    (singleRequest settings organization amount name kind buyerEmail marketingOptIn).charged
      = wholeUnits amount (chargeCurrency organization) := by
  simp [singleRequest, SessionRequest.charged, SessionRequest.discount, LineItem.amount,
    inCents_toMinorUnits]

/-- **`create_checkout_session`.** What the request of an active cart carries. -/
theorem createCheckoutSession_stripe
    (h : createCheckoutSession db now settings hold marketingOptIn = .ok (.stripe request)) :
    hold.Active now ∧ request.lineItems = lineItemsForHold db hold ∧
      request.kind = .hold (some hold.id) ∧ request.organizationId = hold.organization ∧
      request.coupon = holdCoupon db hold := by
  unfold createCheckoutSession at h
  split_ifs at h with hexp hempty
  cases horg : db.organizations.get? hold.organization with
  | none => simp only [horg] at h; cases h
  | some organization =>
    simp only [horg] at h
    have hid : organization.id = hold.organization := Table.get?_key horg
    split_ifs at h
    · cases h
    · cases h
      exact ⟨not_le.mp hexp, rfl, rfl, hid, rfl⟩

/-- **`create_pass_checkout_session`.** What the request of a pass carries. -/
theorem createPassCheckoutSession_stripe {product : PassProduct}
    (h : createPassCheckoutSession settings organization product buyerEmail marketingOptIn
      = .stripe request) :
    request.charged = wholeUnits product.price (chargeCurrency organization) ∧
      request.kind = .pass (some product.id) ∧ request.organizationId = organization.id := by
  unfold createPassCheckoutSession at h
  split_ifs at h
  cases h
  exact ⟨singleRequest_charged _ _ _, rfl, rfl⟩

end Spec

end BoxOffice
