import BoxOffice.Payments.Inventory
import BoxOffice.Passes
import BoxOffice.Guests

namespace BoxOffice

open Relational

/-!
# Payments — fulfilment

The functions of `payments.services` that create paid orders.

* `fulfillHold` turns a hold into an order for money, `fulfillHoldWithPass` for an entitlement;
* `fulfillDonation` and `fulfillPassPurchase` need no hold;
* each is one transaction, and `…_ok` states once everything a successful call writes.
-/

/-- The keyword arguments the fulfilment functions share. -/
structure FulfillArgs where
  buyerEmail : String
  buyerName : String
  paymentRef : String
  provider : Provider
  stripeCheckoutSessionId : Option String
  marketingOptIn : Bool
deriving Repr, DecidableEq

/-! ### A hold, for money -/

/-- The order `fulfill_hold` creates. -/
def holdOrder (db : Db) (hold : Hold) (args : FulfillArgs) (guest : Option GuestAccount)
    (id : Nat) : Order where
  id := id
  organization := hold.organization
  performance := some hold.performance
  buyerEmail := args.buyerEmail
  buyerName := args.buyerName
  guest := guest.map (·.id)
  promoCodeText := hold.promoCodeText
  discountAmount := holdDiscount hold
  total := holdGrandTotal db hold
  status := .paid
  stripeCheckoutSessionId := args.stripeCheckoutSessionId

/-- A donation line. -/
def donationItem (order : Order) (amount : Cents) (campaign : Option Nat) (id : Nat) :
    OrderItem where
  id := id
  organization := order.organization
  order := order.id
  kind := .donation
  priceTier := none
  pricingZone := none
  donationCampaign := campaign
  passProduct := none
  seat := none
  quantity := 1
  unitAmount := amount

/-- The items with the hold's gift, if it carries one. -/
def withDonation (items : Table OrderItem) (hold : Hold) (order : Order) : Table OrderItem :=
  if 0 < holdDonation hold then
    items.insert (donationItem order (holdDonation hold) hold.donationCampaign)
  else items

/-- A payment row. -/
def paymentRow (order : Order) (provider : Provider) (amount : Cents) (status : PaymentStatus)
    (providerRef : String) (id : Nat) : Payment where
  id := id
  organization := order.organization
  order := order.id
  provider := provider
  amount := amount
  status := status
  providerRef := providerRef

/-- The codes with the redemption of the hold's code counted. -/
def withRedemption (promoCodes : Table PromoCode) (hold : Hold) : Table PromoCode :=
  match hold.promoCode with
  | some promo => recordRedemption promoCodes promo
  | none => promoCodes

/-- `hold.delete()`: the row of that key and, inside it, its seats. -/
def deleteHold (holds : Table Hold) (hold : Hold) : Table Hold :=
  holds.delete fun h => h.id == hold.id

/-- `fulfill_hold`. -/
def fulfillHold (db : Db) (now : Time) (hold : Hold) (args : FulfillArgs) : Result Order :=
  if hold.expiresAt ≤ now then
    .error (.holdGone
      s!"Hold {hold.id} is missing or expired; payment succeeded but nothing was fulfilled.")
  else
    let total := holdGrandTotal db hold
    let (guests, guest) := attachGuest db.guests hold.organization args.buyerEmail args.buyerName
      args.marketingOptIn now
    match createOrder db.orders (holdOrder db hold args guest) with
    | .error e => .error e
    | .ok (orders, order) =>
      match mintTickets { db with guests := guests, orders := orders } hold order with
      | .error e => .error e
      | .ok db =>
        .ok ({ db with
          orderItems := withDonation db.orderItems hold order
          payments := db.payments.insert
            (paymentRow order args.provider total .succeeded args.paymentRef)
          promoCodes := withRedemption db.promoCodes hold
          holds := deleteHold db.holds hold }, order)

/-! ### A gift -/

/-- The order of a sale without a performance. -/
def plainOrder (organization : Nat) (args : FulfillArgs) (guest : Option GuestAccount)
    (total : Cents) (id : Nat) : Order where
  id := id
  organization := organization
  performance := none
  buyerEmail := args.buyerEmail
  buyerName := args.buyerName
  guest := guest.map (·.id)
  promoCodeText := ""
  discountAmount := 0
  total := total
  status := .paid
  stripeCheckoutSessionId := args.stripeCheckoutSessionId

/-- `fulfill_donation`. -/
def fulfillDonation (db : Db) (now : Time) (organization : Nat) (amount : Cents)
    (campaign : Option Nat) (args : FulfillArgs) : Result Order :=
  let (guests, guest) := attachGuest db.guests organization args.buyerEmail args.buyerName
    args.marketingOptIn now
  match createOrder db.orders (plainOrder organization args guest amount) with
  | .error e => .error e
  | .ok (orders, order) =>
    .ok ({ db with
      guests := guests
      orders := orders
      orderItems := db.orderItems.insert (donationItem order amount campaign)
      payments := db.payments.insert
        (paymentRow order args.provider amount .succeeded args.paymentRef) }, order)

/-! ### A pass sale -/

/-- A pass line. -/
def passItem (order : Order) (product : PassProduct) (id : Nat) : OrderItem where
  id := id
  organization := order.organization
  order := order.id
  kind := .pass
  priceTier := none
  pricingZone := none
  donationCampaign := none
  passProduct := some product.id
  seat := none
  quantity := 1
  unitAmount := product.price

/-- The entitlement, with every term frozen off the product. -/
def newPassPurchase (order : Order) (product : PassProduct) (guest : Option GuestAccount)
    (id : Nat) : PassPurchase where
  id := id
  organization := order.organization
  product := product.id
  guest := guest.map (·.id)
  order := order.id
  kind := product.kind
  creditCount := product.creditCount
  creditsRemaining := product.creditCount
  validFrom := product.validFrom
  validUntil := product.validUntil
  coveredEvents := product.events
  status := .active

/-- `fulfill_pass_purchase`. -/
def fulfillPassPurchase (db : Db) (now : Time) (organization : Nat) (product : PassProduct)
    (args : FulfillArgs) : Result Order :=
  if !product.isActive then
    .error (.passData
      s!"Pass product {product.id} is inactive; payment succeeded but the pass was not issued.")
  else
    let (guests, guest) := attachGuest db.guests organization args.buyerEmail args.buyerName
      args.marketingOptIn now
    match createOrder db.orders (plainOrder organization args guest product.price) with
    | .error e => .error e
    | .ok (orders, order) =>
      .ok ({ db with
        guests := guests
        orders := orders
        orderItems := db.orderItems.insert (passItem order product)
        passPurchases := db.passPurchases.insert (newPassPurchase order product guest)
        payments := db.payments.insert
          (paymentRow order args.provider product.price .succeeded args.paymentRef) }, order)

/-! ### A hold, for an entitlement -/

/-- The admissions a hold asks for: its quantity, or the number of its seats. -/
def ticketCount (db : Db) (hold : Hold) : Nat :=
  match hold.ga with
  | some g => if g.quantity ≠ 0 then g.quantity else (holdSeatsOf db hold).length
  | none => (holdSeatsOf db hold).length

/-- The entitlement checks of `fulfill_hold_with_pass`, in its order, on the locked pass. -/
def checkPass (db : Db) (now : Time) (hold : Hold) (p : PassPurchase)
    (performance : Performance) : Except ServiceError Unit :=
  if p.organization ≠ hold.organization then
    .error (.passRedemption "This pass can't be used here.")
  else if redeemableNow p now = false then
    .error (.passRedemption "This pass is no longer active.")
  else if passCoversPerformance p performance = false then
    .error (.passRedemption "This pass doesn't cover this performance.")
  else if ticketCount db hold = 0 then
    .error (.passRedemption "There's nothing to redeem.")
  else
    match p.kind with
    | .flex =>
      if p.creditsRemaining.getD 0 < ticketCount db hold then
        .error (.passRedemption "This pass doesn't have enough credits left.")
      else .ok ()
    | .season =>
      if ticketCount db hold ≠ 1 then
        .error (.passRedemption
          "A season pass admits one seat per show -- redeem a single seat.")
      else if ∃ r ∈ db.passRedemptions.rows, r.passPurchase = p.id ∧ r.event = performance.event
      then .error (.passRedemption "This pass was already used for this show.")
      else .ok ()

/-- The free order of a redemption. -/
def redemptionOrder (hold : Hold) (buyerEmail buyerName : String) (guest : Option Nat)
    (id : Nat) : Order where
  id := id
  organization := hold.organization
  performance := some hold.performance
  buyerEmail := buyerEmail
  buyerName := buyerName
  guest := guest
  promoCodeText := ""
  discountAmount := 0
  total := 0
  status := .paid
  stripeCheckoutSessionId := none

/-- The face value of a ticket, from the lines of its order. -/
def faceValue (items : List OrderItem) (ticket : Ticket) : Cents :=
  match ticket.seat with
  | none => (((items.filter fun i => i.seat == none).getLast?).map (·.unitAmount)).getD 0
  | some s => (((items.filter fun i => i.seat == some s).getLast?).map (·.unitAmount)).getD 0

/-- The redemption row of one minted ticket. -/
def newRedemption (p : PassPurchase) (order : Order) (performance : Performance)
    (items : List OrderItem) (ticket : Ticket) (id : Nat) : PassRedemption where
  id := id
  organization := order.organization
  passPurchase := p.id
  order := order.id
  ticket := ticket.id
  performance := performance.id
  event := performance.event
  seat := ticket.seat
  faceValue := faceValue items ticket
  creditsUsed := if p.kind = .flex then 1 else 0

/-- Would the row violate `unique_season_event_redemption` or the one-to-one key of its
    ticket? -/
def redemptionClash (redemptions : Table PassRedemption) (r : PassRedemption) : Bool :=
  redemptions.rows.any fun x =>
    x.ticket == r.ticket ||
      (r.creditsUsed == 0 && x.creditsUsed == 0 && x.passPurchase == r.passPurchase
        && x.event == r.event)

/-- The loop that records one redemption a ticket. -/
def createRedemptions (p : PassPurchase) (order : Order) (performance : Performance)
    (items : List OrderItem) (redemptions : Table PassRedemption) :
    List Ticket → Except ServiceError (Table PassRedemption)
  | [] => .ok redemptions
  | ticket :: rest =>
    let mk := newRedemption p order performance items ticket
    if redemptionClash redemptions (mk redemptions.nextId) then
      .error (.passRedemption "This pass was already used for this show.")
    else createRedemptions p order performance items (redemptions.insert mk) rest

/-- Burn `n` credits, floored at zero; a pass without credits is exhausted. -/
def burnCredits (n : Nat) (p : PassPurchase) : PassPurchase :=
  let credits := p.creditsRemaining.getD 0 - n
  if credits = 0 then { p with creditsRemaining := some credits, status := .exhausted }
  else { p with creditsRemaining := some credits }

/-- A redemption keeps the key of the pass. -/
theorem burnCredits_id (n : Nat) (p : PassPurchase) : (burnCredits n p).id = p.id := by
  unfold burnCredits
  dsimp only
  split_ifs <;> rfl

/-- The passes after `n` admissions on `p`. -/
def chargedPasses (passPurchases : Table PassPurchase) (p : PassPurchase) (n : Nat) :
    Table PassPurchase :=
  if p.kind = .flex then
    passPurchases.update (fun x => x.id == p.id) (burnCredits n) (burnCredits_id n)
  else passPurchases

/-- The guest of a redemption: the pass holder, else the buyer's account. -/
def redemptionGuest (db : Db) (now : Time) (hold : Hold) (p : PassPurchase)
    (buyerEmail buyerName : String) (marketingOptIn : Bool) :
    Table GuestAccount × Option Nat :=
  match p.guest with
  | some g =>
    (if marketingOptIn then recordMarketingOptIn db.guests (db.guests.get? g) now else db.guests,
      some g)
  | none =>
    let (guests, guest) := attachGuest db.guests hold.organization buyerEmail buyerName
      marketingOptIn now
    (guests, guest.map (·.id))

/-- `fulfill_hold_with_pass`. -/
def fulfillHoldWithPass (db : Db) (now : Time) (hold : Hold) (passPurchase : Nat)
    (buyerEmail buyerName : String) (marketingOptIn : Bool) : Result Order :=
  if hold.expiresAt ≤ now then
    .error (.holdGone s!"Hold {hold.id} is missing or expired; the pass was not redeemed.")
  else if hold.promoCode ≠ none ∨ hold.promoCodeText ≠ "" then
    .error (.passRedemption
      "Remove the promo code before redeeming a pass -- a pass redemption is already free.")
  else if 0 < holdDonation hold then
    .error (.passRedemption
      "Remove the donation before redeeming a pass, then donate separately.")
  else
    match db.passPurchases.get? passPurchase, db.performances.get? hold.performance with
    | none, _ => .error (.doesNotExist "PassPurchase")
    | some _, none => .error (.doesNotExist "Performance")
    | some p, some performance =>
      match checkPass db now hold p performance with
      | .error e => .error e
      | .ok () =>
        let count := ticketCount db hold
        let (guests, guest) := redemptionGuest db now hold p buyerEmail buyerName marketingOptIn
        match createOrder db.orders (redemptionOrder hold buyerEmail buyerName guest) with
        | .error e => .error e
        | .ok (orders, order) =>
          match mintTickets { db with guests := guests, orders := orders } hold order with
          | .error e => .error e
          | .ok db =>
            match createRedemptions p order performance
                (db.orderItems.rows.filter fun i => i.order == order.id) db.passRedemptions
                (db.tickets.rows.filter fun t => t.order == order.id) with
            | .error e => .error e
            | .ok redemptions =>
              .ok ({ db with
                passRedemptions := redemptions
                passPurchases := chargedPasses db.passPurchases p count
                payments := db.payments.insert
                  (paymentRow order .pass 0 .succeeded s!"pass-{p.id}")
                holds := deleteHold db.holds hold }, order)

/-! ### What a successful call writes -/

section Spec

variable {db db' : Db} {now : Time} {hold : Hold} {args : FulfillArgs} {order : Order}

/-- An order is created with the next key, and only under a session that is free. -/
theorem createOrder_ok {orders orders' : Table Order} {mk : Nat → Order} {hk}
    (h : createOrder orders mk hk = .ok (orders', order)) :
    orders' = orders.insert mk hk ∧ order = mk orders.nextId ∧
      sessionTaken orders order.organization order.stripeCheckoutSessionId = false := by
  unfold createOrder at h
  dsimp only at h
  split_ifs at h with htaken
  cases h
  exact ⟨rfl, rfl, by simpa using htaken⟩

/-- What a sale does to the inventory tables, whichever route it takes: one paid order on the
    hold's performance, its tickets, the counted allocation, and the hold is gone. -/
structure Sold (db db' : Db) (hold : Hold) (order : Order) : Prop where
  orders : ∃ mk hk, db'.orders = db.orders.insert mk hk ∧ mk db.orders.nextId = order
  performance : order.performance = some hold.performance
  organization : order.organization = hold.organization
  status : order.status = .paid
  tickets : db'.tickets = db.tickets.insertMany (newTicket hold order) (soldSeats db hold)
  gaAllocations : db'.gaAllocations = soldAllocations db hold
  holds : db'.holds = deleteHold db.holds hold
  performances : db'.performances = db.performances

/-- The new order has the next key. -/
theorem Sold.order_id (h : Sold db db' hold order) : order.id = db.orders.nextId := by
  obtain ⟨mk, hk, -, rfl⟩ := h.orders
  exact hk _

/-- **`fulfill_hold`.** Everything a successful call checks and writes. -/
theorem fulfillHold_ok (h : fulfillHold db now hold args = .ok (db', order)) :
    ∃ guests guest,
      attachGuest db.guests hold.organization args.buyerEmail args.buyerName
        args.marketingOptIn now = (guests, guest) ∧
      hold.Active now ∧
      sessionTaken db.orders hold.organization args.stripeCheckoutSessionId = false ∧
      order = holdOrder db hold args guest db.orders.nextId ∧
      db' = { db with
        guests := guests
        orders := db.orders.insert (holdOrder db hold args guest)
        orderItems := withDonation
          (db.orderItems.insertMany (ticketItem order) (soldLines db hold)) hold order
        tickets := db.tickets.insertMany (newTicket hold order) (soldSeats db hold)
        gaAllocations := soldAllocations db hold
        payments := db.payments.insert
          (paymentRow order args.provider (holdGrandTotal db hold) .succeeded args.paymentRef)
        promoCodes := withRedemption db.promoCodes hold
        holds := deleteHold db.holds hold } := by
  unfold fulfillHold at h
  by_cases hexp : hold.expiresAt ≤ now
  · rw [if_pos hexp] at h; cases h
  · rw [if_neg hexp] at h
    rcases hg : attachGuest db.guests hold.organization args.buyerEmail args.buyerName
      args.marketingOptIn now with ⟨guests, guest⟩
    simp only [hg] at h
    cases ho : createOrder db.orders (holdOrder db hold args guest) with
    | error e => simp only [ho] at h; cases h
    | ok p =>
      obtain ⟨orders, o⟩ := p
      obtain ⟨rfl, rfl, hfree⟩ := createOrder_ok ho
      simp only [ho] at h
      split at h
      · cases h
      · rename_i db₁ hm
        have hm' := mintTickets_ok hm
        rw [soldLines_with, soldSeats_with, soldAllocations_with] at hm'
        subst hm'
        cases h
        exact ⟨guests, guest, rfl, not_le.mp hexp, hfree, rfl, rfl⟩

/-- What a successful sale of a cart has written. -/
theorem fulfillHold_sold (h : fulfillHold db now hold args = .ok (db', order)) :
    Sold db db' hold order := by
  obtain ⟨guests, guest, -, -, -, rfl, rfl⟩ := fulfillHold_ok h
  exact ⟨⟨_, fun _ => rfl, rfl, rfl⟩, rfl, rfl, rfl, rfl, rfl, rfl, rfl⟩

/-- **`fulfill_donation`.** -/
theorem fulfillDonation_ok {organization : Nat} {amount : Cents} {campaign : Option Nat}
    (h : fulfillDonation db now organization amount campaign args = .ok (db', order)) :
    ∃ guests guest,
      attachGuest db.guests organization args.buyerEmail args.buyerName
        args.marketingOptIn now = (guests, guest) ∧
      sessionTaken db.orders organization args.stripeCheckoutSessionId = false ∧
      order = plainOrder organization args guest amount db.orders.nextId ∧
      db' = { db with
        guests := guests
        orders := db.orders.insert (plainOrder organization args guest amount)
        orderItems := db.orderItems.insert (donationItem order amount campaign)
        payments := db.payments.insert
          (paymentRow order args.provider amount .succeeded args.paymentRef) } := by
  unfold fulfillDonation at h
  rcases hg : attachGuest db.guests organization args.buyerEmail args.buyerName
    args.marketingOptIn now with ⟨guests, guest⟩
  simp only [hg] at h
  cases ho : createOrder db.orders (plainOrder organization args guest amount) with
  | error e => simp only [ho] at h; cases h
  | ok p =>
    obtain ⟨orders, o⟩ := p
    obtain ⟨rfl, rfl, hfree⟩ := createOrder_ok ho
    simp only [ho] at h
    cases h
    exact ⟨guests, guest, rfl, hfree, rfl, rfl⟩

/-- **`fulfill_pass_purchase`.** -/
theorem fulfillPassPurchase_ok {organization : Nat} {product : PassProduct}
    (h : fulfillPassPurchase db now organization product args = .ok (db', order)) :
    ∃ guests guest,
      attachGuest db.guests organization args.buyerEmail args.buyerName
        args.marketingOptIn now = (guests, guest) ∧
      product.isActive = true ∧
      sessionTaken db.orders organization args.stripeCheckoutSessionId = false ∧
      order = plainOrder organization args guest product.price db.orders.nextId ∧
      db' = { db with
        guests := guests
        orders := db.orders.insert (plainOrder organization args guest product.price)
        orderItems := db.orderItems.insert (passItem order product)
        passPurchases := db.passPurchases.insert (newPassPurchase order product guest)
        payments := db.payments.insert
          (paymentRow order args.provider product.price .succeeded args.paymentRef) } := by
  unfold fulfillPassPurchase at h
  by_cases hactive : product.isActive
  · rw [if_neg (by simp [hactive])] at h
    rcases hg : attachGuest db.guests organization args.buyerEmail args.buyerName
      args.marketingOptIn now with ⟨guests, guest⟩
    simp only [hg] at h
    cases ho : createOrder db.orders (plainOrder organization args guest product.price) with
    | error e => simp only [ho] at h; cases h
    | ok p =>
      obtain ⟨orders, o⟩ := p
      obtain ⟨rfl, rfl, hfree⟩ := createOrder_ok ho
      simp only [ho] at h
      cases h
      exact ⟨guests, guest, rfl, hactive, hfree, rfl, rfl⟩
  · rw [if_pos (by simp [hactive])] at h; cases h

/-- `fulfill_donation` succeeds unless the session id is in use. -/
theorem fulfillDonation_cases (db : Db) (now : Time) (organization : Nat) (amount : Cents)
    (campaign : Option Nat) (args : FulfillArgs) :
    (∃ r, fulfillDonation db now organization amount campaign args = .ok r) ∨
      ∃ c, fulfillDonation db now organization amount campaign args = .error (.integrity c) := by
  unfold fulfillDonation
  dsimp only
  unfold createOrder
  dsimp only
  split_ifs
  · exact .inr ⟨_, rfl⟩
  · exact .inl ⟨_, rfl⟩

/-- `fulfill_pass_purchase` succeeds unless the session id is in use or the product inactive. -/
theorem fulfillPassPurchase_cases (db : Db) (now : Time) (organization : Nat)
    (product : PassProduct) (args : FulfillArgs) :
    (∃ r, fulfillPassPurchase db now organization product args = .ok r) ∨
      (∃ c, fulfillPassPurchase db now organization product args = .error (.integrity c)) ∨
      ∃ m, fulfillPassPurchase db now organization product args = .error (.passData m) := by
  unfold fulfillPassPurchase
  dsimp only
  unfold createOrder
  dsimp only
  split_ifs
  · exact .inr (.inr ⟨_, rfl⟩)
  · exact .inr (.inl ⟨_, rfl⟩)
  · exact .inl ⟨_, rfl⟩

/-- The loop of redemptions writes one row a ticket, when it goes through. -/
theorem createRedemptions_ok {p : PassPurchase} {performance : Performance}
    {items : List OrderItem} {redemptions redemptions' : Table PassRedemption} {l : List Ticket}
    (h : createRedemptions p order performance items redemptions l = .ok redemptions') :
    redemptions' = redemptions.insertMany (newRedemption p order performance items) l := by
  induction l generalizing redemptions with
  | nil => cases h; rfl
  | cons ticket rest ih =>
    unfold createRedemptions at h
    dsimp only at h
    split_ifs at h
    exact ih h

/-- What `fulfill_hold_with_pass` has checked about the pass it charges. -/
structure Admits (db : Db) (now : Time) (hold : Hold) (p : PassPurchase)
    (performance : Performance) : Prop where
  organization : p.organization = hold.organization
  redeemable : redeemableNow p now = true
  covers : passCoversPerformance p performance = true
  positive : 0 < ticketCount db hold
  flex : p.kind = .flex → ticketCount db hold ≤ p.creditsRemaining.getD 0
  season : p.kind = .season → ticketCount db hold = 1 ∧
    ∀ r ∈ db.passRedemptions.rows, r.passPurchase = p.id → r.event ≠ performance.event

/-- What a pass that was let through admits. -/
theorem checkPass_ok {p : PassPurchase} {performance : Performance}
    (h : checkPass db now hold p performance = .ok ()) : Admits db now hold p performance := by
  unfold checkPass at h
  by_cases horg : p.organization = hold.organization
  · rw [if_neg (not_not.mpr horg)] at h
    cases hk : p.kind with
    | flex =>
      simp only [hk] at h
      split_ifs at h with hnow hcov hcount hfew
      rw [Bool.not_eq_false] at hnow hcov
      exact ⟨horg, hnow, hcov, Nat.pos_of_ne_zero hcount, fun _ => not_lt.mp hfew,
        fun hs => absurd (hk.symm.trans hs) (by decide)⟩
    | season =>
      simp only [hk] at h
      split_ifs at h with hnow hcov hcount hone hused
      rw [Bool.not_eq_false] at hnow hcov
      exact ⟨horg, hnow, hcov, Nat.pos_of_ne_zero hcount, fun hf =>
        absurd (hk.symm.trans hf) (by decide),
        fun _ => ⟨not_not.mp hone, fun r hr hp he => hused ⟨r, hr, hp, he⟩⟩⟩
  · rw [if_pos horg] at h; cases h

/-- **`fulfill_hold_with_pass`.** Everything a successful call checks and writes. -/
theorem fulfillHoldWithPass_ok {passPurchase : Nat} {buyerEmail buyerName : String}
    {marketingOptIn : Bool}
    (h : fulfillHoldWithPass db now hold passPurchase buyerEmail buyerName marketingOptIn
      = .ok (db', order)) :
    ∃ p performance, db.passPurchases.get? passPurchase = some p ∧
      db.performances.get? hold.performance = some performance ∧
      hold.Active now ∧ hold.promoCode = none ∧ hold.promoCodeText = "" ∧
      holdDonation hold ≤ 0 ∧ Admits db now hold p performance ∧
      ∃ guests guest,
      redemptionGuest db now hold p buyerEmail buyerName marketingOptIn = (guests, guest) ∧
      let items := db.orderItems.insertMany (ticketItem order) (soldLines db hold)
      let tickets := db.tickets.insertMany (newTicket hold order) (soldSeats db hold)
      order = redemptionOrder hold buyerEmail buyerName guest db.orders.nextId ∧
      db' = { db with
        guests := guests
        orders := db.orders.insert (redemptionOrder hold buyerEmail buyerName guest)
        orderItems := items
        tickets := tickets
        gaAllocations := soldAllocations db hold
        passRedemptions := db.passRedemptions.insertMany
          (newRedemption p order performance (items.rows.filter fun i => i.order == order.id))
          (tickets.rows.filter fun t => t.order == order.id)
        passPurchases := chargedPasses db.passPurchases p (ticketCount db hold)
        payments := db.payments.insert (paymentRow order .pass 0 .succeeded s!"pass-{p.id}")
        holds := deleteHold db.holds hold } := by
  unfold fulfillHoldWithPass at h
  split_ifs at h with hexp hpromo hgift
  -- From here on the body is taken branch by branch, and every error is absurd.
  rw [not_or, not_not, not_not] at hpromo
  cases hp : db.passPurchases.get? passPurchase with
  | none => simp only [hp] at h; cases h
  | some p =>
    cases hperf : db.performances.get? hold.performance with
    | none => simp only [hp, hperf] at h; cases h
    | some performance =>
      simp only [hp, hperf] at h
      cases hc : checkPass db now hold p performance with
      | error e => simp only [hc] at h; cases h
      | ok u =>
        rcases hg : redemptionGuest db now hold p buyerEmail buyerName
          marketingOptIn with ⟨guests, guest⟩
        simp only [hc, hg] at h
        cases ho : createOrder db.orders (redemptionOrder hold buyerEmail buyerName guest) with
        | error e => simp only [ho] at h; cases h
        | ok q =>
          obtain ⟨orders, o⟩ := q
          obtain ⟨rfl, rfl, -⟩ := createOrder_ok ho
          simp only [ho] at h
          split at h
          · cases h
          · rename_i db₁ hm
            have hm' := mintTickets_ok hm
            rw [soldLines_with, soldSeats_with, soldAllocations_with] at hm'
            subst hm'
            dsimp only at h
            split at h
            · cases h
            · rename_i redemptions hr
              have hr' := createRedemptions_ok hr
              subst hr'
              cases h
              exact ⟨p, performance, rfl, rfl, not_le.mp hexp, hpromo.1, hpromo.2,
                not_lt.mp hgift, checkPass_ok hc, guests, guest, hg, rfl, rfl⟩

/-- What a successful redemption has written. -/
theorem fulfillHoldWithPass_sold {passPurchase : Nat} {buyerEmail buyerName : String}
    {marketingOptIn : Bool}
    (h : fulfillHoldWithPass db now hold passPurchase buyerEmail buyerName marketingOptIn
      = .ok (db', order)) : Sold db db' hold order := by
  obtain ⟨p, performance, -, -, -, -, -, -, -, guests, guest, -, rfl, rfl⟩ :=
    fulfillHoldWithPass_ok h
  exact ⟨⟨_, fun _ => rfl, rfl, rfl⟩, rfl, rfl, rfl, rfl, rfl, rfl, rfl⟩

end Spec

end BoxOffice
