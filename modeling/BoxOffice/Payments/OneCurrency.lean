import BoxOffice.Payments.ChargedCart

namespace BoxOffice

open Relational Transition

/-!
# Payments — the currencies of one cart

Every line item looks its currency up by itself: a seat priced by a tier takes the one of the
tier, a seat priced by a zone the one of the organization, the gift and the coupon the one of the
first seat.

* `SeatsAgree` — whatever priced the seats of the cart has one currency;
* `cart_one_currency_iff` — in any reachable state, that is exactly when the request to Stripe is
  in one currency;
* the section grid creates its tiers in dollars, so a theater that charges in another currency
  mixes them as soon as a cart has a seat of a zone beside a seat of a section:
  `mixed_currencies`.
-/

/-- The line items and the coupon of a request are in the currency `code`. -/
structure SessionRequest.OneCurrency (r : SessionRequest) (code : String) : Prop where
  lines : ∀ l ∈ r.lineItems, l.currency = code
  coupon : ∀ c ∈ r.coupon, c.currency = code

/-- The tiers of the seats, and the organization where a seat has none, share a currency. -/
def SeatsAgree (db : Db) (hold : Hold) : Prop :=
  ∀ a ∈ hold.holdSeats, ∀ b ∈ hold.holdSeats,
    lower (holdSeatCurrency db hold a) = lower (holdSeatCurrency db hold b)

instance (db : Db) (hold : Hold) : Decidable (SeatsAgree db hold) := by
  unfold SeatsAgree
  infer_instance

section Currencies

variable {db : Db} {hold : Hold}

/-- The currency of a cart of seats is that of its first seat. -/
theorem holdCurrency_cons {a : HoldSeat} {rest : List HoldSeat} (hmem : hold ∈ db.holds.rows)
    (hga : hold.ga = none) (hseats : hold.holdSeats = a :: rest) :
    holdCurrency db hold = holdSeatCurrency db hold a := by
  obtain ⟨seat, priceTier, pricingZone, unitAmount⟩ := a
  unfold holdCurrency holdSeatCurrency
  simp only [hga, holdSeatsOf_self hmem, hseats, List.head?_cons]
  cases priceTier <;> rfl

/-- The gift is in the currency of the cart. -/
theorem donationLineItems_currency {l : LineItem} (hl : l ∈ donationLineItems db hold) :
    l.currency = lower (holdCurrency db hold) := by
  unfold donationLineItems at hl
  split_ifs at hl
  · exact absurd hl List.not_mem_nil
  · rw [List.mem_singleton.mp hl]

/-- So is the coupon. -/
theorem holdCoupon_currency {c : Coupon} (hc : c ∈ holdCoupon db hold) :
    c.currency = lower (holdCurrency db hold) := by
  unfold holdCoupon at hc
  dsimp only at hc
  split_ifs at hc
  · rw [← Option.some.inj hc]
  · cases hc

/-- **The ticket lines** are in the currency of the cart when its seats agree. -/
theorem ticketLineItems_currency_iff (hmem : hold ∈ db.holds.rows) (hshape : hold.Shaped) :
    (∀ l ∈ ticketLineItems db hold, l.currency = lower (holdCurrency db hold)) ↔
      SeatsAgree db hold := by
  cases hga : hold.ga with
  | some g =>
    have hseats : hold.holdSeats = [] := hshape.seatless (by rw [hga]; exact Option.some_ne_none g)
    have hagree : SeatsAgree db hold := by
      intro a ha
      rw [hseats] at ha
      cases ha
    refine ⟨fun _ => hagree, fun _ l hl => ?_⟩
    -- Places have one line, in the currency of their tier.
    obtain ⟨hquantity, -⟩ := hshape.frozen g hga
    have hline : ticketLineItems db hold = [gaLineItem db hold g] := by
      unfold ticketLineItems
      rw [hga]
      exact if_pos (by omega)
    rw [hline, List.mem_singleton] at hl
    have hcurrency : holdCurrency db hold = tierCurrency db g.priceTier := by
      unfold holdCurrency
      rw [hga]
    rw [hl, hcurrency]
    rfl
  | none =>
    have hlines : ticketLineItems db hold = hold.holdSeats.map (seatLineItem db hold) := by
      unfold ticketLineItems
      rw [hga, holdSeatsOf_self hmem]
    -- Each seat has a line of its own, and the first seat gives the cart its currency.
    rw [hlines, List.forall_mem_map]
    cases hseats : hold.holdSeats with
    | nil =>
      unfold SeatsAgree
      rw [hseats]
      simp
    | cons first rest =>
      rw [holdCurrency_cons hmem hga hseats]
      unfold SeatsAgree
      rw [hseats]
      constructor
      · intro h a ha b hb
        exact (h a ha).trans (h b hb).symm
      · intro h a ha
        exact h a ha first (List.mem_cons_self ..)

end Currencies

/-- **One currency.** The request for a stored cart of any reachable state is in one currency, the
    one of the cart, exactly when whatever priced its seats has one currency. -/
theorem cart_one_currency_iff {trig : Trig} {s : State} {settings : FeeSettings} {hold : Hold}
    {marketingOptIn : Bool} {request : SessionRequest} (h : Reachable (theater trig) s)
    (hmem : hold ∈ s.db.holds.rows)
    (hcreate : createCheckoutSession s.db s.now settings hold marketingOptIn
      = .ok (.stripe request)) :
    request.OneCurrency (lower (holdCurrency s.db hold)) ↔ SeatsAgree s.db hold := by
  obtain ⟨-, hlines, -, -, hcoupon⟩ := createCheckoutSession_stripe hcreate
  have hiff := ticketLineItems_currency_iff hmem (carts_shaped h hold hmem)
  constructor
  · intro hone
    -- The ticket lines are lines of the request.
    refine hiff.mp fun l hl => hone.lines l ?_
    rw [hlines]
    exact List.mem_append_left _ hl
  · intro hagree
    refine ⟨fun l hl => ?_, fun c hc => ?_⟩
    · rw [hlines] at hl
      rcases List.mem_append.mp hl with hl | hl
      · exact hiff.mpr hagree l hl
      · exact donationLineItems_currency hl
    · rw [hcoupon] at hc
      exact holdCoupon_currency hc

/-! ### A theater that charges in euros -/

/-- The sample theater in euros, with a second seat and no price yet. -/
def euroDb : Db :=
  { sampleDb with
    organizations := Table.empty.insert fun id =>
      Organization.mk id "Playhouse" "EUR" "acct_1" true none
    seats := sampleDb.seats.insert fun id => Seat.mk id 1 1 "A" "2" 1 0 false
    priceTiers := .empty }

/-- The staff price the section in the grid. -/
def gridPriced : StaffOp :=
  .saveReservedPrices declaredPriceColumns 1 1 fun _ => (.number 30, .blank)

/-- They price the first seat in a zone. -/
def firstSeatPriced : StaffOp := .applyZone 1 1 [1] 5000 ⟨1, 1, "Premium", "#d62828"⟩

/-- A buyer holds both seats, once they are priced. -/
def bothSeatsHeld (db : Db) : State :=
  exec (.setReservedHold 1 1 "a" [1, 2])
    ⟨execStaff flatTrig firstSeatPriced (execStaff flatTrig gridPriced db), 0⟩

/-- Both seats in one cart are reachable. -/
theorem bothSeatsHeld_reachable {db : Db} (h : Fresh ⟨db, 0⟩) :
    Reachable (theater flatTrig) (bothSeatsHeld db) :=
  (staff_reachable (staff_reachable (.of_init h) gridPriced) firstSeatPriced).step
    (i := .shop (.setReservedHold 1 1 "a" [1, 2])) ⟨trivial, rfl⟩

/-- The cart of both seats in euros. -/
def euroCart : State := bothSeatsHeld euroDb

/-- The cart in two currencies is reachable. -/
theorem euroCart_reachable : Reachable (theater flatTrig) euroCart :=
  bothSeatsHeld_reachable ⟨rfl, rfl, rfl, rfl, rfl, rfl, rfl, by decide, by decide⟩

/-- The same in dollars, with a gift on top. -/
def dollarCart : State :=
  exec (.setHoldDonation 1 "a" (some 1) (some 500) 1)
    (bothSeatsHeld { euroDb with organizations := sampleDb.organizations })

/-- The cart in dollars is reachable. -/
theorem dollarCart_reachable : Reachable (theater flatTrig) dollarCart :=
  (bothSeatsHeld_reachable ⟨rfl, rfl, rfl, rfl, rfl, rfl, rfl, by decide, by decide⟩).step
    (i := .shop (.setHoldDonation 1 "a" (some 1) (some 500) 1)) ⟨trivial, rfl⟩

/-- The seat of the zone, the other one and the gift are all charged in dollars. -/
theorem cart_one_currency_dollars : ∃ hold ∈ dollarCart.db.holds.rows, ∃ request,
    createCheckoutSession dollarCart.db dollarCart.now ⟨0, 0⟩ hold false = .ok (.stripe request) ∧
    request.lineItems.map (·.unitAmount) = [5000, 3000, 500] ∧ request.OneCurrency "usd" := by
  have hsession : ∃ hold ∈ dollarCart.db.holds.rows, ∃ request,
      createCheckoutSession dollarCart.db dollarCart.now ⟨0, 0⟩ hold false
        = .ok (.stripe request) ∧
      lower (holdCurrency dollarCart.db hold) = "usd" ∧ SeatsAgree dollarCart.db hold ∧
      request.lineItems.map (·.unitAmount) = [5000, 3000, 500] :=
    ⟨_, List.mem_cons_self .., _, rfl, rfl, by decide, rfl⟩
  obtain ⟨hold, hmem, request, hcreate, husd, hagree, hlines⟩ := hsession
  have hone := (cart_one_currency_iff dollarCart_reachable hmem hcreate).mpr hagree
  rw [husd] at hone
  exact ⟨hold, hmem, request, hcreate, hlines, hone⟩

/-- **The counterexample.** The seat of the zone is charged in euros, the other one in dollars. -/
theorem mixed_currencies : ∃ hold ∈ euroCart.db.holds.rows, ∃ request,
    Reachable (theater flatTrig) euroCart ∧
    createCheckoutSession euroCart.db euroCart.now ⟨0, 0⟩ hold false = .ok (.stripe request) ∧
    lower (holdCurrency euroCart.db hold) = "eur" ∧
    request.lineItems.map (fun l => (l.currency, l.unitAmount)) = [("eur", 5000), ("usd", 3000)] ∧
    ¬request.OneCurrency (lower (holdCurrency euroCart.db hold)) := by
  have hsession : ∃ hold ∈ euroCart.db.holds.rows, ∃ request,
      createCheckoutSession euroCart.db euroCart.now ⟨0, 0⟩ hold false = .ok (.stripe request) ∧
      lower (holdCurrency euroCart.db hold) = "eur" ∧
      request.lineItems.map (fun l => (l.currency, l.unitAmount))
        = [("eur", 5000), ("usd", 3000)] :=
    ⟨_, List.mem_cons_self .., _, rfl, rfl, rfl⟩
  obtain ⟨hold, hmem, request, hcreate, heur, hlines⟩ := hsession
  refine ⟨hold, hmem, request, euroCart_reachable, hcreate, heur, hlines, fun hone => ?_⟩
  have hdollars : ("usd", (3000 : Int)) ∈ request.lineItems.map fun l =>
    (l.currency, l.unitAmount) := by
    rw [hlines]
    simp
  obtain ⟨l, hl, hpair⟩ := List.mem_map.mp hdollars
  have hcurrency : l.currency = "usd" := congrArg Prod.fst hpair
  rw [hone.lines l hl, heur] at hcurrency
  exact absurd hcurrency (by decide)

end BoxOffice
