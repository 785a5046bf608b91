import BoxOffice.Payments.CartMoney

namespace BoxOffice

open Relational Transition

/-!
# Payments — the money identity of a fulfilled order

`MoneyIdentity` relates a new order to its items, tickets and payment.  `fulfillHold_identity`
shows that a successful `fulfill_hold` on a cart of a reachable state satisfies it exactly when
the frozen ticket prices of the cart do not add up to less than zero: `hold_grand_total` floors
the ticket net at zero, and `fulfill_hold` records the unfloored discount and items.
-/

/-- What the records of a fulfilled order owe each other.  `carried` is the number of places
    or seats the hold carried. -/
structure MoneyIdentity (db : Db) (order : Order) (carried : Nat) : Prop where
  paid : order.status = .paid
  ticketed : 0 < orderTickets db order.id
  counted : orderTickets db order.id = orderQuantity db order.id
  carried : orderTickets db order.id = carried
  oneGift : orderGifts db order.id ≤ 1
  total : order.total
    = orderSubtotal db order.id - order.discountAmount + orderDonation db order.id
  discount : 0 ≤ order.discountAmount ∧ order.discountAmount ≤ orderSubtotal db order.id
  payment : orderPayments db order.id = [order.total]

/-- The places or seats a cart carries. -/
def Hold.carried (h : Hold) : Nat :=
  match h.ga with
  | some g => g.quantity
  | none => h.holdSeats.length

/-! ### What a cart sells -/

section Cart

variable {db : Db} {hold : Hold}

/-- Ordering the seats of a hold loses none of them. -/
theorem orderedHoldSeats_perm (hmem : hold ∈ db.holds.rows) :
    (orderedHoldSeats db hold).Perm hold.holdSeats := by
  unfold orderedHoldSeats
  rw [holdSeatsOf_self hmem]
  exact List.perm_insertionSort _ _

/-- As many seats are sold as the cart carries. -/
theorem soldSeats_length (hmem : hold ∈ db.holds.rows) (hs : hold.Shaped) :
    (soldSeats db hold).length = hold.carried := by
  unfold soldSeats Hold.carried
  cases hga : hold.ga with
  | none => dsimp only; rw [List.length_map, (orderedHoldSeats_perm hmem).length_eq]
  | some g =>
    have hq := (hs.frozen g hga).1
    dsimp only
    rw [if_pos (by omega), List.length_replicate]

/-- The lines sell as much as the cart carries. -/
theorem soldLines_quantity (hmem : hold ∈ db.holds.rows) (hs : hold.Shaped) :
    ((soldLines db hold).map (·.quantity)).sum = hold.carried := by
  unfold soldLines Hold.carried
  cases hga : hold.ga with
  | none =>
    dsimp only
    rw [List.map_map, ((orderedHoldSeats_perm hmem).map _).sum_eq]
    show (hold.holdSeats.map fun _ => 1).sum = _
    simp
  | some g =>
    have hq := (hs.frozen g hga).1
    dsimp only
    rw [if_pos (by omega)]
    simp [gaLine]

/-- The lines add up to the gross amount of the cart. -/
theorem soldLines_amount (hmem : hold ∈ db.holds.rows) (hs : hold.Shaped) :
    ((soldLines db hold).map fun l => (l.quantity : Cents) * l.unitAmount).sum = hold.gross := by
  unfold soldLines Hold.gross
  cases hga : hold.ga with
  | none =>
    dsimp only
    rw [List.map_map, ((orderedHoldSeats_perm hmem).map _).sum_eq]
    refine congrArg List.sum (List.map_congr_left fun x _ => ?_)
    show ((1 : Nat) : Cents) * x.unitAmount = x.unitAmount
    simp
  | some g =>
    obtain ⟨hq, hfrozen⟩ := hs.frozen g hga
    dsimp only
    rw [if_pos (by omega)]
    cases hu : g.gaUnitAmount with
    | none => exact absurd hu hfrozen
    | some amount => simp [gaLine, gaUnitAmount, hu, mul_comm]

end Cart

/-! ### What a fulfilment puts on the books -/

section Fulfilled

variable {db db' : Db} {now : Time} {hold : Hold} {args : FulfillArgs} {order : Order}

/-- The rows a fulfilment adds. -/
theorem fulfilled_rows (h : fulfillHold db now hold args = .ok (db', order)) :
    order.id = db.orders.nextId ∧
      db'.tickets = db.tickets.insertMany (newTicket hold order) (soldSeats db hold) ∧
      db'.orderItems = withDonation
        (db.orderItems.insertMany (ticketItem order) (soldLines db hold)) hold order ∧
      db'.payments = db.payments.insert
        (paymentRow order args.provider order.total .succeeded args.paymentRef) := by
  obtain ⟨guests, guest, -, -, -, rfl, rfl⟩ := fulfillHold_ok h
  exact ⟨rfl, rfl, rfl, rfl⟩

/-- The order has a ticket for each seat sold. -/
theorem fulfilled_tickets (hl : Linked db)
    (h : fulfillHold db now hold args = .ok (db', order)) :
    orderTickets db' order.id = (soldSeats db hold).length := by
  obtain ⟨hid, htickets, -, -⟩ := fulfilled_rows h
  have hold0 : Table.total (fun t : Ticket => if t.order = order.id then 1 else 0) db.tickets = 0 :=
    Table.total_eq_zero fun t ht => if_neg (by rw [hid]; exact hl.ticket_ne ht)
  have hnew : ∀ (seat : Option Nat) (i : Nat),
      (if (newTicket hold order seat i).order = order.id then 1 else 0) = 1 := fun _ _ => if_pos rfl
  unfold orderTickets
  rw [htickets, Table.total_insertMany hnew, hold0]
  simp

/-- What a weight that looks at the items of one order sees of its fulfilment: the sold lines,
    and the gift if there is one. -/
theorem fulfilled_items {M : Type} [AddCommMonoid M] (hl : Linked db)
    (h : fulfillHold db now hold args = .ok (db', order)) {w : OrderItem → M} {v : Line → M}
    {g : M} (hother : ∀ i : OrderItem, i.order ≠ order.id → w i = 0)
    (hline : ∀ l i, w (ticketItem order l i) = v l)
    (hgift : ∀ i, w (donationItem order (holdDonation hold) hold.donationCampaign i) = g) :
    Table.total w db'.orderItems
      = ((soldLines db hold).map v).sum + if 0 < holdDonation hold then g else 0 := by
  obtain ⟨hid, -, hitems, -⟩ := fulfilled_rows h
  have hold0 : Table.total w db.orderItems = 0 :=
    Table.total_eq_zero fun i hi => hother i (by rw [hid]; exact hl.item_ne hi)
  rw [hitems]
  unfold withDonation
  split_ifs
  · rw [Table.total_insert, Table.total_insertMany hline, hold0, zero_add, hgift]
  · rw [Table.total_insertMany hline, hold0, zero_add, add_zero]

/-- The lines of the order have the quantities that were sold. -/
theorem fulfilled_quantity (hl : Linked db)
    (h : fulfillHold db now hold args = .ok (db', order)) :
    orderQuantity db' order.id = ((soldLines db hold).map (·.quantity)).sum := by
  unfold orderQuantity
  rw [fulfilled_items hl h (v := Line.quantity) (g := 0) (fun i hi => if_neg fun hp => hi hp.1)
    (fun _ _ => if_pos ⟨rfl, rfl⟩) (fun _ => if_neg fun hp => by cases hp.2), ite_self, add_zero]

/-- Its lines have the amounts that were sold. -/
theorem fulfilled_subtotal (hl : Linked db)
    (h : fulfillHold db now hold args = .ok (db', order)) :
    orderSubtotal db' order.id
      = ((soldLines db hold).map fun l => (l.quantity : Cents) * l.unitAmount).sum := by
  unfold orderSubtotal
  rw [fulfilled_items hl h (v := fun l : Line => (l.quantity : Cents) * l.unitAmount) (g := 0)
    (fun i hi => if_neg fun hp => hi hp.1) (fun _ _ => if_pos ⟨rfl, rfl⟩)
    (fun _ => if_neg fun hp => by cases hp.2), ite_self, add_zero]

/-- Its donation is that of the cart. -/
theorem fulfilled_donation (hl : Linked db)
    (h : fulfillHold db now hold args = .ok (db', order)) :
    orderDonation db' order.id = if 0 < holdDonation hold then holdDonation hold else 0 := by
  unfold orderDonation
  rw [fulfilled_items hl h (v := fun _ => 0) (g := holdDonation hold)
    (fun i hi => if_neg fun hp => hi hp.1) (fun _ _ => if_neg fun hp => by cases hp.2)
    (fun _ => (if_pos ⟨rfl, rfl⟩).trans (by simp [donationItem]))]
  simp

/-- It has one gift at most. -/
theorem fulfilled_oneGift (hl : Linked db)
    (h : fulfillHold db now hold args = .ok (db', order)) : orderGifts db' order.id ≤ 1 := by
  unfold orderGifts
  rw [fulfilled_items hl h (v := fun _ => 0) (g := 1)
    (fun i hi => if_neg fun hp => hi hp.1) (fun _ _ => if_neg fun hp => by cases hp.2)
    (fun _ => if_pos ⟨rfl, rfl⟩)]
  split_ifs <;> simp

/-- It has one payment, of its total. -/
theorem fulfilled_payments (hl : Linked db)
    (h : fulfillHold db now hold args = .ok (db', order)) :
    orderPayments db' order.id = [order.total] := by
  obtain ⟨hid, -, -, hpayments⟩ := fulfilled_rows h
  unfold orderPayments
  rw [hpayments]
  exact newPayments hl hid

/-- **The identity.** On a priced cart of linked books a fulfilment satisfies the money
    identity exactly when the frozen prices do not add up to less than zero. -/
theorem moneyIdentity_iff (hl : Linked db) (hmem : hold ∈ db.holds.rows) (hp : hold.Priced)
    (h : fulfillHold db now hold args = .ok (db', order)) :
    MoneyIdentity db' order hold.carried ↔ 0 ≤ hold.gross := by
  -- Every figure of the order, in terms of the frozen cart.
  have htickets := (fulfilled_tickets hl h).trans (soldSeats_length hmem hp.toShaped)
  have hsubtotal := (fulfilled_subtotal hl h).trans (soldLines_amount hmem hp.toShaped)
  have hquantity := (fulfilled_quantity hl h).trans (soldLines_quantity hmem hp.toShaped)
  have hpaid : order.status = .paid := (fulfillHold_sold h).status
  have hrecorded : order.discountAmount = holdDiscount hold ∧
      order.total = holdGrandTotal db hold := by
    obtain ⟨_, _, -, -, -, rfl, -⟩ := fulfillHold_ok h
    exact ⟨rfl, rfl⟩
  constructor
  · -- The recorded discount would have to fit between zero and a negative subtotal.
    intro hid
    rw [← hsubtotal]
    exact le_trans hid.discount.1 hid.discount.2
  · intro hgross
    -- A priced cart carries something, its discount lies between zero and its gross, and a gift is
    -- positive where there is one.
    have hcarried : 0 < hold.carried := by
      unfold Hold.carried
      cases hga : hold.ga with
      | some g => exact (hp.frozen g hga).1
      | none => exact List.length_pos_of_ne_nil (hp.seated hga)
    have hdiscount : 0 ≤ holdDiscount hold ∧ holdDiscount hold ≤ hold.gross := by
      unfold holdDiscount
      cases hd : hold.discountAmount with
      | none => exact ⟨le_refl 0, hgross⟩
      | some d => exact ⟨(hp.discount d hd).1, (hp.discount d hd).2.le⟩
    have hgift : (if 0 < holdDonation hold then holdDonation hold else 0) = holdDonation hold := by
      unfold holdDonation
      cases ha : hold.donationAmount with
      | none => rfl
      | some a => exact if_pos (hp.donation a ha)
    refine ⟨hpaid, by rw [htickets]; exact hcarried, by rw [htickets, hquantity], htickets,
      fulfilled_oneGift hl h, ?_, ?_, fulfilled_payments hl h⟩
    · rw [hrecorded.1, hrecorded.2, hsubtotal, fulfilled_donation hl h, hgift]
      unfold holdGrandTotal
      rw [holdTotal_eq_gross hmem hp.toShaped, max_eq_left (Int.sub_nonneg.mpr hdiscount.2)]
    · rw [hrecorded.1, hsubtotal]
      exact hdiscount

end Fulfilled

/-- **Fulfilled carts.** However the cart was put together while prices, zones and codes were
    edited, the order of a successful `fulfill_hold` satisfies the money identity exactly when
    the frozen ticket prices of the cart do not add up to less than zero. -/
theorem fulfillHold_identity {trig : Trig} {s : State} {hold : Hold} {args : FulfillArgs}
    {db' : Db} {order : Order} (h : Reachable (pricingDay trig) s) (hmem : hold ∈ s.db.holds.rows)
    (hok : fulfillHold s.db s.now hold args = .ok (db', order)) :
    MoneyIdentity db' order hold.carried ↔ 0 ≤ hold.gross := by
  obtain ⟨hpriced, hlinked⟩ := pricingDay_invariant h
  exact moneyIdentity_iff hlinked hmem (hpriced hold hmem) hok

/-- A request that keeps the seats of the carts stays within the day. -/
theorem pricingDay_step {trig : Trig} {s : State} (h : Reachable (pricingDay trig) s)
    (r : Request) (ha : AdmissibleRequest s r) (hkeep : r.keepsSeats) :
    Reachable (pricingDay trig) (execRequest trig r s) :=
  h.step ⟨⟨ha, rfl⟩, hkeep⟩

/-- The sample cart of the session `a`, one place at 20.00. -/
def generalCart : State := execRequest flatTrig (.shop (.setGaHold 1 1 "a" 1 1)) sampleState

/-- The cart with one place is reachable. -/
theorem generalCart_reachable : Reachable (pricingDay flatTrig) generalCart :=
  pricingDay_step (.of_init sampleState_fresh) _ trivial trivial

/-- The cart is fulfilled and its order satisfies the identity. -/
theorem fulfillHold_identity_sample : ∃ hold ∈ generalCart.db.holds.rows, ∃ db' order,
    fulfillHold generalCart.db generalCart.now hold sampleArgs = .ok (db', order) ∧
      MoneyIdentity db' order hold.carried := by
  obtain ⟨hold, hmem, hgross, hok⟩ : ∃ hold ∈ generalCart.db.holds.rows, 0 ≤ hold.gross ∧
      (fulfillHold generalCart.db generalCart.now hold sampleArgs).isOk := by decide
  cases hr : fulfillHold generalCart.db generalCart.now hold sampleArgs with
  | error e => rw [hr] at hok; cases hok
  | ok r => exact ⟨hold, hmem, r.1, r.2, hr,
      (fulfillHold_identity generalCart_reachable hmem hr).mpr hgross⟩

/-! ### A price below zero -/

/-- The staff add a general-admission price of -5.00, which the form accepts, and the session
    `a` takes a place at it. -/
def creditCart : State :=
  execRequest flatTrig (.shop (.setGaHold 1 1 "a" 3 1))
    (execRequest flatTrig (.staff (.addPriceTier 1 1 "Credit" (-500) "USD")) sampleState)

/-- The cart at a negative price is reachable. -/
theorem creditCart_reachable : Reachable (pricingDay flatTrig) creditCart :=
  pricingDay_step (pricingDay_step (.of_init sampleState_fresh)
    (.staff (.addPriceTier 1 1 "Credit" (-500) "USD")) trivial trivial)
    (.shop (.setGaHold 1 1 "a" 3 1)) trivial trivial

/-- The condition on prices is needed: a credit makes the identity fail. -/
theorem identity_fails_below_zero :
    ¬∀ (trig : Trig) (s : State) (hold : Hold) (args : FulfillArgs) (db' : Db) (order : Order),
      Reachable (pricingDay trig) s → hold ∈ s.db.holds.rows →
      fulfillHold s.db s.now hold args = .ok (db', order) →
      MoneyIdentity db' order hold.carried := by
  intro hall
  obtain ⟨hold, hmem, hgross, hok⟩ : ∃ hold ∈ creditCart.db.holds.rows, ¬0 ≤ hold.gross ∧
      (fulfillHold creditCart.db creditCart.now hold sampleArgs).isOk := by decide
  cases hr : fulfillHold creditCart.db creditCart.now hold sampleArgs with
  | error e => rw [hr] at hok; cases hok
  | ok r =>
    obtain ⟨hpriced, hlinked⟩ := pricingDay_invariant creditCart_reachable
    exact hgross ((moneyIdentity_iff hlinked hmem (hpriced hold hmem) hr).mp
      (hall flatTrig creditCart hold sampleArgs r.1 r.2 creditCart_reachable hmem hr))

end BoxOffice
