import BoxOffice.Payments.Books
import BoxOffice.Transition.Interleaving

namespace BoxOffice

open Relational Transition

/-!
# Payments — interleaved checkouts of one cart

`checkout_test`, `checkout_stub`, `pass_redeem` and the webhook each read a hold first and hand
the object they read to an atomic fulfilment later.  An `Attempt` is one such request; between
its steps other attempts and the rest of the box office run.

* `attempt` is one step, `checkouts` the interleaving of all of them;
* the till records every sale of a hold, so that "converted at most once" can be said;
* `attempt_cases` says once what a step can do.
-/

/-- What a request asks for. -/
inductive Route
  /-- `checkout_test` or `checkout_stub`, by its provider. -/
  | checkout (organization : Nat) (sessionKey : String) (holdId : Nat) (provider : Provider)
      (buyerEmail buyerName paymentRef : String) (marketingOptIn : Bool)
  /-- `pass_redeem` of a signed-in guest, with the pass the session has chosen. -/
  | redeem (organization : Nat) (sessionKey : String) (holdId : Nat) (guest : GuestAccount)
      (passPurchase : Nat)
  /-- A webhook delivery of a session that names a hold. -/
  | webhook (organization : Nat) (session : CheckoutSession)

/-- How far an attempt has come. -/
inductive Stage
  | requested
  | checked
  | holding (hold : Hold)
  | answered (order : Option Order)

/-- One checkout attempt. -/
structure Attempt where
  route : Route
  stage : Stage

/-- The box office, and the sales of holds: the key of each hold with that of its order. -/
structure Till where
  state : State
  sales : List (Nat × Nat)

/-- Is the simulated checkout there at all?  `checkout_test` by its setting, `checkout_stub` while
    the theater cannot charge. -/
def checkoutOpen (enableTest : Bool) (db : Db) (organization : Nat) : Provider → Bool
  | .test => enableTest
  | .stub =>
    match db.organizations.get? organization with
    | some o => !o.stripeChargesEnabled
    | none => false
  | _ => false

/-- The reads a request makes before it fulfils. -/
def Route.read (enableTest : Bool) (s : State) : Route → Stage
  | .checkout organization sessionKey holdId provider buyerEmail _ _ _ =>
    if checkoutOpen enableTest s.db organization provider && buyerEmail != "" then
      match findActiveHold s.db s.now organization sessionKey (some holdId) with
      | some hold => .holding hold
      | none => .answered none
    else .answered none
  | .redeem organization sessionKey holdId guest passPurchase =>
    match findActiveHold s.db s.now organization sessionKey (some holdId),
        s.db.passPurchases.rows.find? fun p =>
          p.organization == organization && p.id == passPurchase && p.guest == some guest.id with
    | some hold, some _ => .holding hold
    | _, _ => .answered none
  | .webhook organization session =>
    match existingOrder s.db organization session.id with
    | some order => .answered (some order)
    | none => .checked

/-- The second read of a delivery.  A gift or a pass has no hold. -/
def Route.readHold (s : State) : Route → Stage
  | .webhook organization session =>
    match readTarget s.db s.now organization session with
    | .ok (.hold hold) => .holding hold
    | _ => .answered none
  | _ => .answered none

/-- The arguments of a simulated checkout. -/
def checkoutArgs (provider : Provider) (buyerEmail buyerName paymentRef : String)
    (marketingOptIn : Bool) : FulfillArgs where
  buyerEmail := buyerEmail
  buyerName := buyerName
  paymentRef := paymentRef
  provider := provider
  stripeCheckoutSessionId := none
  marketingOptIn := marketingOptIn

/-- The atomic fulfilment: the order, and whether this call created it. -/
def Route.fulfill (db : Db) (now : Time) (hold : Hold) : Route → Result (Order × Bool)
  | .checkout _ _ _ provider buyerEmail buyerName paymentRef marketingOptIn =>
    match fulfillHold db now hold
        (checkoutArgs provider buyerEmail buyerName paymentRef marketingOptIn) with
    | .ok (db, order) => .ok (db, order, true)
    | .error e => .error e
  | .redeem _ _ _ guest passPurchase =>
    match fulfillHoldWithPass db now hold passPurchase guest.email guest.name false with
    | .ok (db, order) => .ok (db, order, true)
    | .error e => .error e
  | .webhook organization session => fulfillTarget db now organization session (.hold hold)

/-- The next step of an attempt. -/
def attempt (enableTest : Bool) (s : Till) (a : Attempt) : Till × Attempt :=
  match a.stage with
  | .requested => (s, { a with stage := a.route.read enableTest s.state })
  | .checked => (s, { a with stage := a.route.readHold s.state })
  | .holding hold =>
    match a.route.fulfill s.state.db s.state.now hold with
    | .error _ => (s, { a with stage := .answered none })
    | .ok (db, order, created) =>
      ({ state := { s.state with db := db }
         sales := if created then (hold.id, order.id) :: s.sales else s.sales },
        { a with stage := .answered (some order) })
  | .answered _ => (s, a)

/-- Any checkout attempts of any carts, interleaved with the other operations of the box
    office. -/
def checkouts (enableTest : Bool) : Processes Till Attempt Op where
  init s := Fresh s.state ∧ s.sales = []
  start a := a.stage = .requested
  step := attempt enableTest
  admits s op := Admissible s.state op ∧ ¬op.SellsHold
  env op s := { s with state := exec op s.state }

/-! ### What fulfilment checks -/

/-- The allocation of a general-admission hold has room for it. -/
def HasRoom (db : Db) (hold : Hold) : Prop := hold.isGa = true →
  ∃ a, allocationOf db hold.performance = some a ∧ a.sold + hold.gaQuantity ≤ a.capacity

/-- What the fulfilment of a route checks before it writes: the hold is active, the allocation
    has room, and the session id is free or the pass admits the hold. -/
def Route.Accepts (s : State) (hold : Hold) : Route → Prop
  | .checkout _ _ _ _ _ _ _ _ => hold.Active s.now ∧ HasRoom s.db hold
  | .redeem _ _ _ _ passPurchase => hold.Active s.now ∧ HasRoom s.db hold ∧
      hold.promoCode = none ∧ hold.promoCodeText = "" ∧ holdDonation hold ≤ 0 ∧
      ∃ p performance, s.db.passPurchases.get? passPurchase = some p ∧
        s.db.performances.get? hold.performance = some performance ∧
        Admits s.db s.now hold p performance
  | .webhook _ session => hold.Active s.now ∧ HasRoom s.db hold ∧
      sessionTaken s.db.orders hold.organization (some session.id) = false

section Checks

variable {db db' : Db} {now : Time} {hold : Hold} {order : Order}

/-- Tickets are only minted where there is room. -/
theorem mintTickets_room (h : mintTickets db hold order = .ok db') : HasRoom db hold := by
  intro hga
  unfold mintTickets at h
  unfold Hold.isGa at hga
  unfold Hold.gaQuantity
  cases hg : hold.ga with
  | none => rw [hg] at hga; cases hga
  | some g =>
    rw [hg] at hga
    have hq : g.quantity ≠ 0 := by simpa using hga
    simp only [hg, hq, ne_eq, not_false_eq_true, if_true] at h
    unfold fulfillGa at h
    cases ha : allocationOf db hold.performance with
    | none => simp only [ha] at h; cases h
    | some allocation =>
      simp only [ha] at h
      split_ifs at h with hfull
      exact ⟨allocation, rfl, not_lt.mp hfull⟩

/-- The guests and the orders written before do not change the room. -/
theorem mintTickets_room_with {guests : Table GuestAccount} {orders : Table Order}
    (h : mintTickets { db with guests := guests, orders := orders } hold order = .ok db') :
    HasRoom db hold := by
  have hroom := mintTickets_room h
  unfold HasRoom allocationOf at hroom ⊢
  exact hroom

/-- A cart is only sold where there is room. -/
theorem fulfillHold_room {args : FulfillArgs}
    (h : fulfillHold db now hold args = .ok (db', order)) : HasRoom db hold := by
  unfold fulfillHold at h
  by_cases hexp : hold.expiresAt ≤ now
  · rw [if_pos hexp] at h; cases h
  · rw [if_neg hexp] at h
    rcases hg : attachGuest db.guests hold.organization args.buyerEmail args.buyerName
      args.marketingOptIn now with ⟨guests, guest⟩
    simp only [hg] at h
    cases ho : createOrder db.orders (holdOrder db hold args guest) with
    | error e => simp only [ho] at h; cases h
    | ok p =>
      simp only [ho] at h
      cases hm : mintTickets { db with guests := guests, orders := p.1 } hold p.2 with
      | error e => simp only [hm] at h; cases h
      | ok db₁ => exact mintTickets_room_with hm

/-- A cart is only redeemed where there is room. -/
theorem fulfillHoldWithPass_room {passPurchase : Nat} {buyerEmail buyerName : String}
    {marketingOptIn : Bool}
    (h : fulfillHoldWithPass db now hold passPurchase buyerEmail buyerName marketingOptIn
      = .ok (db', order)) : HasRoom db hold := by
  unfold fulfillHoldWithPass at h
  split_ifs at h
  split at h
  · cases h
  · cases h
  · rename_i p performance hp hperf
    cases hc : checkPass db now hold p performance with
    | error e => simp only [hc] at h; cases h
    | ok u =>
      rcases hg : redemptionGuest db now hold p buyerEmail buyerName
        marketingOptIn with ⟨guests, guest⟩
      simp only [hc, hg] at h
      cases ho : createOrder db.orders (redemptionOrder hold buyerEmail buyerName guest) with
      | error e => simp only [ho] at h; cases h
      | ok q =>
        simp only [ho] at h
        cases hm : mintTickets { db with guests := guests, orders := q.1 } hold q.2 with
        | error e => simp only [hm] at h; cases h
        | ok db₁ => exact mintTickets_room_with hm

end Checks

/-- **The fulfilment of an attempt.** A call that returns sold the hold, having checked all of
    `Accepts`, or found the order of an earlier delivery and changed nothing. -/
theorem Route.fulfill_ok {s : State} {r : Route} {hold : Hold} {db' : Db} {order : Order}
    {created : Bool} (h : r.fulfill s.db s.now hold = .ok (db', order, created)) :
    (created = true ∧ Sold s.db db' hold order ∧ r.Accepts s hold ∧ Booked s.db db') ∨
      (created = false ∧ db' = s.db) := by
  cases r with
  | checkout organization sessionKey holdId provider buyerEmail buyerName paymentRef optIn =>
    -- A sale on the spot either returns or raises.
    unfold Route.fulfill at h
    dsimp only at h
    split at h
    · rename_i hf
      cases h
      obtain ⟨_, _, -, hactive, -⟩ := fulfillHold_ok hf
      exact .inl ⟨rfl, fulfillHold_sold hf, ⟨hactive, fulfillHold_room hf⟩,
        fulfillHold_booked hf⟩
    · cases h
  | redeem organization sessionKey holdId guest passPurchase =>
    unfold Route.fulfill at h
    dsimp only at h
    split at h
    · rename_i hf
      cases h
      obtain ⟨p, performance, hp, hperf, hactive, hpromo, htext, hgift, hadmits, -⟩ :=
        fulfillHoldWithPass_ok hf
      exact .inl ⟨rfl, fulfillHoldWithPass_sold hf,
        ⟨hactive, fulfillHoldWithPass_room hf, hpromo, htext, hgift, p, performance, hp, hperf,
          hadmits⟩, fulfillHoldWithPass_booked hf⟩
    · cases h
  | webhook organization session =>
    rcases fulfillTarget_ok h with ⟨hc, hbody⟩ | ⟨hc, hsame, -⟩
    -- A session that was not there yet was fulfilled like any cart.
    · have hf : fulfillHold s.db s.now hold (sessionArgs session) = .ok (db', order) := hbody
      obtain ⟨_, _, -, hactive, hfree, -⟩ := fulfillHold_ok hf
      exact .inl ⟨hc, fulfillHold_sold hf, ⟨hactive, fulfillHold_room hf, hfree⟩,
        fulfillHold_booked hf⟩
    · exact .inr ⟨hc, hsame⟩

/-- The attempt sells the hold it has read in this step. -/
structure Sells (s s' : Till) (a : Attempt) (hold : Hold) (order : Order) : Prop where
  stage : a.stage = .holding hold
  sold : Sold s.state.db s'.state.db hold order
  accepts : a.route.Accepts s.state hold
  booked : Booked s.state.db s'.state.db
  sales : s'.sales = (hold.id, order.id) :: s.sales

/-- **A step of an attempt.** It sells the hold it has read, or changes nothing. -/
theorem attempt_cases (enableTest : Bool) (s : Till) (a : Attempt) :
    (attempt enableTest s a).1 = s ∨ ∃ hold order,
      Sells s (attempt enableTest s a).1 a hold order := by
  unfold attempt
  cases hstage : a.stage with
  | requested => exact .inl rfl
  | checked => exact .inl rfl
  | answered order => exact .inl rfl
  | holding hold =>
    dsimp only
    split
    · exact .inl rfl
    · rename_i db order created hf
      rcases Route.fulfill_ok hf with ⟨rfl, hsold, haccepts, hbooked⟩ | ⟨rfl, rfl⟩
      · exact .inr ⟨hold, order, hstage, hsold, haccepts, hbooked, rfl⟩
      · exact .inl rfl

end BoxOffice
