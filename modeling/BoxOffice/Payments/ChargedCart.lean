import BoxOffice.Payments.CartWindow
import BoxOffice.Payments.Identity
import Mathlib.Algebra.BigOperators.Group.Multiset.Basic
import Mathlib.Tactic.Linarith

namespace BoxOffice

open Relational Transition

/-!
# Payments — what the buyer was charged and what is recorded

A session describes the cart as it was when the session was created; the delivery records the
cart as it is by then.

* `AsCharged` — the order, its payment, its tickets, its discount and its gift are those of the
  session's line items and coupon;
* `CartAsPriced` — the stored cart still has the discount, the code and the gift of the session,
  and its prices are whole units of their currency;
* `charged_is_recorded` — over every run of the shop in between, one holds exactly when the
  other does.
-/

/-! ### What was described and what was recorded -/

/-- Number, price in cents, and name. -/
abbrev Description := Nat × ℚ × String

/-- What a line item describes. -/
def LineItem.description (l : LineItem) : Description :=
  (l.quantity, inCents l.unitAmount l.currency, l.name)

/-- The name of the place or the seat of a sold line. -/
def lineName (catalogue : Db) (performance : Nat) (seat priceTier : Option Nat) : String :=
  match seat with
  | some s => seatLineName catalogue performance s
  | none => tierLineName catalogue performance (priceTier.getD 0)

/-- What a recorded ticket item describes. -/
def OrderItem.description (catalogue : Db) (performance : Nat) (i : OrderItem) : Description :=
  (i.quantity, (i.unitAmount : ℚ), lineName catalogue performance i.seat i.priceTier)

/-- The descriptions of the ticket items of an order. -/
def recordedLines (catalogue db : Db) (performance order : Nat) : Multiset Description :=
  Table.total (fun i => if i.order = order ∧ i.kind = .ticket then
    {i.description catalogue performance} else 0) db.orderItems

/-- The seats its ticket items were sold for, one entry a place. -/
def itemSeats (db : Db) (order : Nat) : Multiset (Option Nat) :=
  Table.total (fun i => if i.order = order ∧ i.kind = .ticket then
    Multiset.replicate i.quantity i.seat else 0) db.orderItems

/-- The seats of its tickets. -/
def ticketSeats (db : Db) (order : Nat) : Multiset (Option Nat) :=
  Table.total (fun t => if t.order = order then {t.seat} else 0) db.tickets

/-- The records of an order are what its session charged and described.  The names are those of
    the catalogue the session was created from. -/
structure AsCharged (catalogue db : Db) (request : SessionRequest) (order : Order) : Prop where
  total : (order.total : ℚ) = request.charged
  payment : orderPayments db order.id = [order.total]
  discount : (order.discountAmount : ℚ) = request.discount
  code : ∀ c ∈ request.coupon, c.name = couponName order.promoCodeText
  lines : ∃ performance ∈ order.performance, ∃ tickets gifts,
    request.lineItems = tickets ++ gifts ∧
    recordedLines catalogue db performance order.id = (tickets.map LineItem.description : List _) ∧
    ((orderDonation db order.id : Cents) : ℚ) = (gifts.map LineItem.amount).sum
  tickets : ticketSeats db order.id = itemSeats db order.id

/-- The currency of a sold line. -/
def lineCurrency (db : Db) (hold : Hold) (l : Line) : String :=
  match l.priceTier with
  | some t => tierCurrency db t
  | none => organizationCurrency db hold.organization

/-- The cart as it is stored carries the discount, the code and the gift that the session
    charged, every ticket price is a whole number of units, and the discount is covered. -/
structure CartAsPriced (catalogue : Db) (hold cart : Hold) : Prop where
  discount : holdDiscount cart = wholeUnits (holdDiscount hold) (holdCurrency catalogue hold)
  code : ∀ c ∈ holdCoupon catalogue hold, c.name = couponName cart.promoCodeText
  donation : holdDonation cart = wholeUnits (holdDonation hold) (holdCurrency catalogue hold)
  prices : ∀ l ∈ soldLines catalogue hold,
    wholeUnits l.unitAmount (lineCurrency catalogue hold l) = l.unitAmount
  covered : holdDiscount cart ≤ hold.gross

instance (catalogue : Db) (hold cart : Hold) : Decidable (CartAsPriced catalogue hold cart) :=
  decidable_of_iff
    (holdDiscount cart = wholeUnits (holdDiscount hold) (holdCurrency catalogue hold) ∧
      (∀ c ∈ holdCoupon catalogue hold, c.name = couponName cart.promoCodeText) ∧
      holdDonation cart = wholeUnits (holdDonation hold) (holdCurrency catalogue hold) ∧
      (∀ l ∈ soldLines catalogue hold,
        wholeUnits l.unitAmount (lineCurrency catalogue hold l) = l.unitAmount) ∧
      holdDiscount cart ≤ hold.gross)
    ⟨fun ⟨h1, h2, h3, h4, h5⟩ => ⟨h1, h2, h3, h4, h5⟩,
      fun ⟨h1, h2, h3, h4, h5⟩ => ⟨h1, h2, h3, h4, h5⟩⟩

/-! ### The session -/

section Session

variable {db : Db} {hold : Hold}

/-- The line item of a sold line. -/
def Line.lineItem (db : Db) (hold : Hold) (l : Line) : LineItem where
  quantity := l.quantity
  currency := lower (lineCurrency db hold l)
  unitAmount := toMinorUnits l.unitAmount (lineCurrency db hold l)
  name := lineName db hold.performance l.seat l.priceTier

/-- What is charged for a sold line, in cents. -/
def Line.charge (db : Db) (hold : Hold) (l : Line) : Cents :=
  wholeUnits l.unitAmount (lineCurrency db hold l)

/-- A line item charges the price of its line. -/
theorem lineItem_price (l : Line) :
    inCents (l.lineItem db hold).unitAmount (l.lineItem db hold).currency = l.charge db hold := by
  unfold Line.lineItem Line.charge
  rw [inCents_lower, inCents_toMinorUnits]

/-- The ticket lines of the session are the lines the cart sells, up to their order. -/
theorem ticketLineItems_perm (hmem : hold ∈ db.holds.rows) :
    (ticketLineItems db hold).Perm ((soldLines db hold).map (Line.lineItem db hold)) := by
  have hseats : ((holdSeatsOf db hold).map (seatLineItem db hold)).Perm
      (((orderedHoldSeats db hold).map seatLine).map (Line.lineItem db hold)) := by
    rw [List.map_map, holdSeatsOf_self hmem]
    exact ((orderedHoldSeats_perm hmem).map _).symm
  unfold ticketLineItems soldLines
  cases hga : hold.ga with
  | none => exact hseats
  | some g =>
    dsimp only
    by_cases hq : g.quantity ≠ 0
    · rw [if_pos hq, if_pos hq]
      exact .refl _
    · rw [if_neg hq, if_neg hq]
      exact hseats

/-- The line items of the tickets add up to what the lines charge. -/
theorem tickets_amount (hmem : hold ∈ db.holds.rows) :
    ((ticketLineItems db hold).map LineItem.amount).sum
      = (((soldLines db hold).map fun l =>
        (l.quantity : Cents) * l.charge db hold).sum : Cents) := by
  rw [((ticketLineItems_perm hmem).map _).sum_eq, List.map_map]
  induction soldLines db hold with
  | nil => rfl
  | cons l rest ih =>
    rw [List.map_cons, List.sum_cons, List.map_cons, List.sum_cons, ih, Int.cast_add, Int.cast_mul,
      ← lineItem_price]
    rfl

/-- The gift lines charge the gift, in whole units. -/
theorem gifts_amount (hs : hold.Signed) : ((donationLineItems db hold).map LineItem.amount).sum
    = wholeUnits (holdDonation hold) (holdCurrency db hold) := by
  unfold donationLineItems
  by_cases h : holdDonation hold ≤ 0
  · have hzero : holdDonation hold = 0 := le_antisymm h hs.donation_nonneg
    rw [if_pos h, hzero, ← inCents_toMinorUnits, toMinorUnits_zero]
    simp [inCents]
  · rw [if_neg h, ← inCents_toMinorUnits]
    simp [LineItem.amount, inCents_lower]

/-- The coupon takes off the discount, in whole units. -/
theorem coupon_amount (hs : hold.Signed) : ((holdCoupon db hold).map Coupon.amount).getD 0
    = wholeUnits (holdDiscount hold) (holdCurrency db hold) := by
  unfold holdCoupon
  dsimp only
  rw [← inCents_toMinorUnits]
  split_ifs with h
  · simp [Coupon.amount, inCents_lower]
  · -- A discount that does not come to a unit comes to none.
    have hzero : toMinorUnits (holdDiscount hold) (holdCurrency db hold) = 0 :=
      le_antisymm (not_lt.mp h) (toMinorUnits_nonneg hs.discount_nonneg)
    rw [hzero]
    simp [inCents]

/-- **What a session charges**, in cents. -/
theorem request_charged {request : SessionRequest} (hmem : hold ∈ db.holds.rows) (hs : hold.Signed)
    (hlines : request.lineItems = lineItemsForHold db hold)
    (hcoupon : request.coupon = holdCoupon db hold) :
    request.charged
      = ((((soldLines db hold).map fun l => (l.quantity : Cents) * l.charge db hold).sum
      + wholeUnits (holdDonation hold) (holdCurrency db hold)
      - wholeUnits (holdDiscount hold) (holdCurrency db hold) : Cents) : ℚ) := by
  unfold SessionRequest.charged SessionRequest.discount lineItemsForHold at *
  rw [hlines, hcoupon, coupon_amount hs, List.map_append, List.sum_append, tickets_amount hmem,
    gifts_amount hs, Int.cast_sub, Int.cast_add]

/-! ### Exact prices -/

/-- Rounding to whole units changes nothing in an amount that it has rounded. -/
theorem wholeUnits_charge {l k : Line} (hl : upper (lineCurrency db hold l) ∈ zeroDecimalCurrencies)
    (hk : upper (lineCurrency db hold k) ∈ zeroDecimalCurrencies)
    (h : l.unitAmount = k.charge db hold) : l.charge db hold = l.unitAmount := by
  have hround := roundHalfEven_mul (roundHalfEven k.unitAmount 100) (show 0 < 100 by decide)
  unfold Line.charge wholeUnits at *
  rw [if_pos hl, h, if_pos hk]
  exact congrArg (· * 100) hround

/-- What a sold line describes. -/
def Line.description (db : Db) (hold : Hold) (l : Line) : Description :=
  (l.quantity, (l.unitAmount : ℚ), lineName db hold.performance l.seat l.priceTier)

/-- What a line item tells the buyer. -/
theorem lineItem_description (l : Line) : (l.lineItem db hold).description
    = (l.quantity, (l.charge db hold : ℚ), lineName db hold.performance l.seat l.priceTier) := by
  unfold LineItem.description
  rw [lineItem_price]
  rfl

/-- **Exact prices.** The session describes the lines the cart sells exactly when every price is
    a whole number of units. -/
theorem lines_described_iff (lines : Multiset Line) :
    (lines.map fun l => (l.lineItem db hold).description) = lines.map (Line.description db hold) ↔
      ∀ l ∈ lines, l.charge db hold = l.unitAmount := by
  have hexact : ∀ l : Line, l.charge db hold = l.unitAmount →
      (l.lineItem db hold).description = l.description db hold := fun l hl => by
    rw [lineItem_description, hl]
    rfl
  constructor
  · intro h
    -- The exact lines cancel, so the others describe each other.
    rw [← Multiset.filter_add_not (fun l => l.charge db hold = l.unitAmount) lines,
      Multiset.map_add, Multiset.map_add,
      Multiset.map_congr rfl fun l hl => hexact l (Multiset.mem_filter.mp hl).2] at h
    have hrest := add_left_cancel h
    have hcoarse : ∀ l : Line, l.charge db hold ≠ l.unitAmount →
        upper (lineCurrency db hold l) ∈ zeroDecimalCurrencies := by
      intro l hl
      by_contra hfine
      exact hl (if_neg hfine)
    intro l hl
    by_contra hne
    have hmem : l.description db hold ∈
        (lines.filter fun l => ¬l.charge db hold = l.unitAmount).map (Line.description db hold) :=
      Multiset.mem_map_of_mem _ (Multiset.mem_filter.mpr ⟨hl, hne⟩)
    rw [← hrest] at hmem
    obtain ⟨k, hk, hkl⟩ := Multiset.mem_map.mp hmem
    rw [lineItem_description] at hkl
    have hcast : (k.charge db hold : ℚ) = (l.unitAmount : ℚ) :=
      congrArg (fun d : Description => d.2.1) hkl
    have hprice : l.unitAmount = k.charge db hold := by exact_mod_cast hcast.symm
    exact hne (wholeUnits_charge (hcoarse l hne) (hcoarse k (Multiset.mem_filter.mp hk).2) hprice)
  · exact fun h => Multiset.map_congr rfl fun l hl => hexact l (h l hl)

end Session

/-! ### The records -/

section Records

variable {db db' : Db} {now : Time} {cart : Hold} {args : FulfillArgs} {order : Order}
  {catalogue : Db} {hold : Hold}

/-- The ticket items of a fulfilled cart are its sold lines. -/
theorem fulfilled_recordedLines (hl : Linked db)
    (h : fulfillHold db now cart args = .ok (db', order)) (performance : Nat) :
    recordedLines catalogue db' performance order.id
      = (((soldLines db cart).map fun l : Line =>
          ((l.quantity, (l.unitAmount : ℚ), lineName catalogue performance l.seat l.priceTier) :
            Description) : List _) : Multiset Description) := by
  unfold recordedLines
  rw [fulfilled_items hl h (v := fun l : Line => ({(l.quantity, (l.unitAmount : ℚ),
      lineName catalogue performance l.seat l.priceTier)} : Multiset Description)) (g := 0)
    (fun i hi => if_neg fun hp => hi hp.1) (fun _ _ => if_pos ⟨rfl, rfl⟩)
    (fun _ => if_neg fun hp => by cases hp.2), ite_self, add_zero]
  induction soldLines db cart with
  | nil => rfl
  | cons l rest ih => rw [List.map_cons, List.sum_cons, ih]; rfl

/-- The seats a cart sells are those of its lines, one a place. -/
theorem soldSeats_multiset (db : Db) (cart : Hold) :
    ((soldSeats db cart).map fun s => ({s} : Multiset (Option Nat))).sum
      = ((soldLines db cart).map fun l => Multiset.replicate l.quantity l.seat).sum := by
  have hseats : (((orderedHoldSeats db cart).map fun hs => some hs.seat).map
      fun s => ({s} : Multiset (Option Nat))).sum
        = (((orderedHoldSeats db cart).map seatLine).map
          fun l => Multiset.replicate l.quantity l.seat).sum := by
    rw [List.map_map, List.map_map]
    exact congrArg List.sum (List.map_congr_left fun hs _ => (Multiset.replicate_one _).symm)
  unfold soldSeats soldLines
  cases cart.ga with
  | none => exact hseats
  | some g =>
    dsimp only
    by_cases hq : g.quantity ≠ 0
    · rw [if_pos hq, if_pos hq, List.map_replicate, List.sum_replicate, Multiset.nsmul_singleton]
      simp [gaLine]
    · rw [if_neg hq, if_neg hq]
      exact hseats

/-- The tickets of a fulfilled cart are on the seats of its items. -/
theorem fulfilled_seats (hl : Linked db) (h : fulfillHold db now cart args = .ok (db', order)) :
    ticketSeats db' order.id = itemSeats db' order.id := by
  obtain ⟨hid, htickets, -, -⟩ := fulfilled_rows h
  have hnone : Table.total (fun t : Ticket => if t.order = order.id then
      ({t.seat} : Multiset (Option Nat)) else 0) db.tickets = 0 :=
    Table.total_eq_zero fun t ht => if_neg (by rw [hid]; exact hl.ticket_ne ht)
  unfold ticketSeats itemSeats
  rw [htickets, Table.total_insertMany (v := fun s => ({s} : Multiset (Option Nat)))
      (fun _ _ => if_pos rfl), hnone, zero_add,
    fulfilled_items hl h (v := fun l : Line => Multiset.replicate l.quantity l.seat) (g := 0)
      (fun i hi => if_neg fun hp => hi hp.1) (fun _ _ => if_pos ⟨rfl, rfl⟩)
      (fun _ => if_neg fun hp => by cases hp.2), ite_self, add_zero]
  exact soldSeats_multiset db cart

/-- **The same cart.** A row with the places and the seats of the cart sells the same lines. -/
theorem soldLines_same (hmem : hold ∈ catalogue.holds.rows) (hshape : hold.Shaped)
    (hmem' : cart ∈ db.holds.rows) (hga : cart.ga = hold.ga)
    (hseats : cart.holdSeats = hold.holdSeats) : soldLines db cart = soldLines catalogue hold := by
  have hordered : orderedHoldSeats db cart = orderedHoldSeats catalogue hold := by
    unfold orderedHoldSeats
    rw [holdSeatsOf_self hmem', holdSeatsOf_self hmem, hseats]
  unfold soldLines
  rw [hga, hordered]
  cases hsel : hold.ga with
  | none => rfl
  | some g =>
    obtain ⟨hq, hfrozen⟩ := hshape.frozen g hsel
    dsimp only
    rw [if_pos (by omega), if_pos (by omega)]
    unfold gaLine gaUnitAmount
    cases hu : g.gaUnitAmount with
    | none => exact absurd hu hfrozen
    | some amount => rfl

end Records

/-! ### One delivery -/

/-- A session was created from `hold`, and by its delivery the row is `cart`, with the same
    places and seats. -/
structure CartDelivery (catalogue db db' : Db) (now : Time) (hold cart : Hold)
    (request : SessionRequest) (args : FulfillArgs) (order : Order) : Prop where
  linked : Linked db
  created : hold ∈ catalogue.holds.rows
  shaped : hold.Shaped
  signed : hold.Signed
  stored : cart ∈ db.holds.rows
  same : Hold.SameCart cart hold
  seats : cart.holdSeats = hold.holdSeats
  signed' : cart.Signed
  lines : request.lineItems = lineItemsForHold catalogue hold
  coupon : request.coupon = holdCoupon catalogue hold
  fulfilled : fulfillHold db now cart args = .ok (db', order)

namespace CartDelivery

variable {catalogue db db' : Db} {now : Time} {hold cart : Hold} {request : SessionRequest}
  {args : FulfillArgs} {order : Order}

/-- The delivery sells the lines that were charged. -/
theorem sold (d : CartDelivery catalogue db db' now hold cart request args order) :
    soldLines db cart = soldLines catalogue hold :=
  soldLines_same d.created d.shaped d.stored d.same.2.2.2.2.2 d.seats

/-- The totals of the order, by the columns of the two rows. -/
theorem recorded (d : CartDelivery catalogue db db' now hold cart request args order) :
    order.performance = some hold.performance ∧ order.discountAmount = holdDiscount cart ∧
      order.promoCodeText = cart.promoCodeText ∧
      order.total = max (hold.gross - holdDiscount cart) 0 + holdDonation cart := by
  obtain ⟨-, -, hperf, -, -, hga⟩ := d.same
  have hshape : cart.Shaped := d.shaped.of_sameCart d.same d.seats
  have hgross : cart.gross = hold.gross := by unfold Hold.gross; rw [hga, d.seats]
  obtain ⟨_, _, -, -, -, rfl, -⟩ := fulfillHold_ok d.fulfilled
  refine ⟨congrArg some hperf, rfl, rfl, ?_⟩
  show holdGrandTotal db cart = _
  unfold holdGrandTotal
  rw [holdTotal_eq_gross d.stored hshape, hgross]

/-- The order has the gift of the cart. -/
theorem gift (d : CartDelivery catalogue db db' now hold cart request args order) :
    orderDonation db' order.id = holdDonation cart := by
  rw [fulfilled_donation d.linked d.fulfilled]
  split_ifs with hpos
  · rfl
  · exact le_antisymm d.signed'.donation_nonneg (not_lt.mp hpos)

/-- The request has the discount of the cart. -/
theorem discount (d : CartDelivery catalogue db db' now hold cart request args order) :
    request.discount = (wholeUnits (holdDiscount hold) (holdCurrency catalogue hold) : ℚ) := by
  unfold SessionRequest.discount
  rw [d.coupon, coupon_amount d.signed]

/-- The recorded lines are those of the session exactly when the prices are exact. -/
theorem described_iff (d : CartDelivery catalogue db db' now hold cart request args order) :
    recordedLines catalogue db' hold.performance order.id
        = ((ticketLineItems catalogue hold).map LineItem.description : List _) ↔
      ∀ l ∈ soldLines catalogue hold, l.charge catalogue hold = l.unitAmount := by
  rw [fulfilled_recordedLines d.linked d.fulfilled, d.sold,
    Multiset.coe_eq_coe.mpr ((ticketLineItems_perm d.created).map LineItem.description),
    List.map_map, eq_comm]
  exact lines_described_iff (soldLines catalogue hold : Multiset Line)

/-- With exact prices the ticket lines charge the ticket subtotal. -/
theorem subtotal (d : CartDelivery catalogue db db' now hold cart request args order)
    (hprices : ∀ l ∈ soldLines catalogue hold, l.charge catalogue hold = l.unitAmount) :
    ((soldLines catalogue hold).map fun l =>
      (l.quantity : Cents) * l.charge catalogue hold).sum = hold.gross := by
  rw [← soldLines_amount d.created d.shaped]
  exact congrArg List.sum (List.map_congr_left fun l hl => by rw [hprices l hl])

/-- The ticket lines of a described session are its first lines, one a sold line. -/
theorem split (d : CartDelivery catalogue db db' now hold cart request args order)
    {tickets gifts : List LineItem} (hsplit : request.lineItems = tickets ++ gifts)
    (hdescribed : recordedLines catalogue db' hold.performance order.id
      = (tickets.map LineItem.description : List _)) :
    tickets = ticketLineItems catalogue hold ∧ gifts = donationLineItems catalogue hold := by
  have hcount := congrArg Multiset.card hdescribed
  rw [fulfilled_recordedLines d.linked d.fulfilled, d.sold, Multiset.coe_card, Multiset.coe_card,
    List.length_map, List.length_map] at hcount
  have hlength : tickets.length = (ticketLineItems catalogue hold).length := by
    rw [(ticketLineItems_perm d.created).length_eq, List.length_map, hcount]
  exact List.append_inj (hsplit.symm.trans d.lines) hlength

/-- **One delivery.** What is recorded is what was charged exactly when the cart is still priced
    as it was. -/
theorem asCharged_iff (d : CartDelivery catalogue db db' now hold cart request args order) :
    AsCharged catalogue db' request order ↔ CartAsPriced catalogue hold cart := by
  obtain ⟨hperformance, hdiscount, htext, htotal⟩ := d.recorded
  have hcharged := request_charged d.created d.signed d.lines d.coupon
  constructor
  -- Each part of what was recorded gives the part of the price that it was charged for.
  · rintro ⟨hpaid, -, hoff, hcode, ⟨performance, hp, tickets, gifts, hsplit, hrec, hgifts⟩, -⟩
    obtain rfl : hold.performance = performance := Option.some.inj (hperformance.symm.trans hp)
    obtain ⟨rfl, rfl⟩ := d.split hsplit hrec
    have hprices := d.described_iff.mp hrec
    have hcut : holdDiscount cart = wholeUnits (holdDiscount hold)
        (holdCurrency catalogue hold) := by
      rw [d.discount, hdiscount] at hoff
      exact_mod_cast hoff
    have hgiven : holdDonation cart = wholeUnits (holdDonation hold)
        (holdCurrency catalogue hold) := by
      rw [d.gift, gifts_amount d.signed] at hgifts
      exact_mod_cast hgifts
    refine ⟨hcut, ?_, hgiven, hprices, ?_⟩
    · rw [← d.coupon, ← htext]
      exact hcode
    · -- The floor at zero must not have raised the total.
      rw [hcharged, d.subtotal hprices, ← hcut, ← hgiven, htotal] at hpaid
      have hpaid' : max (hold.gross - holdDiscount cart) 0 + holdDonation cart
          = hold.gross + holdDonation cart - holdDiscount cart := by exact_mod_cast hpaid
      have hfloor := le_max_right (hold.gross - holdDiscount cart) 0
      linarith
  · intro hpriced
    refine ⟨?_, fulfilled_payments d.linked d.fulfilled, ?_, ?_,
      ⟨hold.performance, hperformance, _, _, d.lines, d.described_iff.mpr hpriced.prices, ?_⟩,
      fulfilled_seats d.linked d.fulfilled⟩
    · rw [hcharged, d.subtotal hpriced.prices, ← hpriced.discount, ← hpriced.donation, htotal,
        max_eq_left (Int.sub_nonneg.mpr hpriced.covered)]
      push_cast
      ring
    · rw [d.discount, hdiscount, hpriced.discount]
    · rw [d.coupon, htext]
      exact hpriced.code
    · rw [d.gift, gifts_amount d.signed, hpriced.donation]

end CartDelivery

/-! ### The run in between -/

/-- **Charged and recorded.** A session is created from a stored cart of any reachable state, the
    shop goes on in any way, and the delivery of the completed session creates an order: its
    records are what the session charged and described exactly when the stored cart is still
    priced as it was. -/
theorem charged_is_recorded {trig : Trig} {s s' : State} {settings : FeeSettings} {hold : Hold}
    {marketingOptIn : Bool} {request : SessionRequest} {ops : List Op} {organization : Nat}
    {id buyerEmail buyerName : String} {paymentIntent : Option String} {db' : Db} {order : Order}
    (h : Reachable (theater trig) s) (hmem : hold ∈ s.db.holds.rows)
    (hcreate : createCheckoutSession s.db s.now settings hold marketingOptIn
      = .ok (.stripe request))
    (hrun : Run boxOffice s ops s')
    (hdeliver : fulfillCheckoutSession s'.db s'.now organization
      (request.completed id buyerEmail buyerName paymentIntent) = .ok (db', order, true)) :
    AsCharged s.db db' request order ↔
      ∀ cart ∈ s'.db.holds.rows, cart.id = hold.id → CartAsPriced s.db hold cart := by
  obtain ⟨-, hlines, hkind, -, hcoupon⟩ := createCheckoutSession_stripe hcreate
  obtain ⟨hshape, hsigned, -⟩ := theater_carts h
  obtain ⟨-, hsigned', hlinked⟩ := theater_carts (theater_run h hrun)
  obtain ⟨cart, hcart, hid, hfulfil⟩ := (@cartDelivery_ok _ _ _ _ hold.id) hkind hdeliver
  obtain ⟨hsame, hseats⟩ := (cart_kept hmem hrun).same cart hcart hid
  have d : CartDelivery s.db s'.db db' s'.now hold cart request _ order :=
    ⟨hlinked, hmem, hshape hold hmem, hsigned hold hmem, hcart, hsame, hseats, hsigned' cart hcart,
      hlines, hcoupon, hfulfil⟩
  rw [d.asCharged_iff]
  constructor
  · intro hpriced k hk hkid
    rwa [Table.eq_of_key_eq hk hcart (hkid.trans hid.symm)]
  · exact fun hall => hall cart hcart hid

/-! ### A gift added on the way -/

/-- The session of the sample cart of `a`, one place at 20.00. -/
def placeRequest : SessionRequest where
  lineItems := [⟨1, "usd", 2000, "Hamlet — General"⟩]
  kind := .hold (some 1)
  organizationId := 1
  marketingOptIn := false
  customerEmail := none
  applicationFee := none
  coupon := none
  stripeAccount := "acct_1"

/-- The buyer adds a gift of 10.00 while the payment page is open. -/
def giftAdded : State := exec (.setHoldDonation 1 "a" (some 1) (some 1000) 1) sampleCarts

/-- The buyer takes it back again. -/
def giftCleared : State := exec (.clearHoldDonation 1 "a" (some 1)) giftAdded

/-- The session adds a gift. -/
theorem giftAdded_run : Run boxOffice sampleCarts
    [.setHoldDonation 1 "a" (some 1) (some 1000) 1] giftAdded := .single ⟨trivial, rfl⟩

/-- The session adds a gift and takes it back. -/
theorem giftCleared_run : Run boxOffice sampleCarts
    [.setHoldDonation 1 "a" (some 1) (some 1000) 1, .clearHoldDonation 1 "a" (some 1)]
      giftCleared :=
  giftAdded_run.snoc ⟨trivial, rfl⟩

/-- The place in the sample cart is charged at twenty dollars. -/
theorem placeRequest_charged : placeRequest.charged = 2000 := by
  have husd : inCents 2000 "usd" = 2000 := by
    rw [show (2000 : Int) = toMinorUnits 2000 "usd" from by decide, inCents_toMinorUnits]
    norm_num [show wholeUnits 2000 "usd" = 2000 from by decide]
  simp [SessionRequest.charged, SessionRequest.discount, placeRequest, LineItem.amount, husd]

/-- The session, delivered. -/
def placeSession : CheckoutSession := placeRequest.completed "cs_1" "ada@example.com" "Ada" none

/-- The request is the one of the stored cart. -/
theorem placeRequest_created : ∃ hold ∈ sampleCarts.db.holds.rows, hold.id = 1 ∧
    createCheckoutSession sampleCarts.db sampleCarts.now ⟨0, 0⟩ hold false
      = .ok (.stripe placeRequest) := by decide

/-- With the gift taken back, what is recorded is what was charged. -/
theorem charged_is_recorded_sample : ∃ db' order,
    fulfillCheckoutSession giftCleared.db giftCleared.now 1 placeSession = .ok (db', order, true) ∧
    AsCharged sampleCarts.db db' placeRequest order := by
  obtain ⟨db', order, hok⟩ :=
    created_ok (r := fulfillCheckoutSession giftCleared.db giftCleared.now 1 placeSession) rfl
  obtain ⟨hold, hmem, hid, hcreate⟩ := placeRequest_created
  have hpriced : ∀ hold ∈ sampleCarts.db.holds.rows, hold.id = 1 →
      ∀ cart ∈ giftCleared.db.holds.rows, cart.id = hold.id →
        CartAsPriced sampleCarts.db hold cart := by decide
  exact ⟨db', order, hok, ((@charged_is_recorded flatTrig)
    (theater_of_boxOffice sampleCarts_reachable) hmem hcreate giftCleared_run hok).mpr
      (hpriced hold hmem hid)⟩

/-- With the gift in the cart, 30.00 are recorded for a session that charged 20.00. -/
theorem gift_never_charged : ∃ hold ∈ sampleCarts.db.holds.rows,
    createCheckoutSession sampleCarts.db sampleCarts.now ⟨0, 0⟩ hold false
      = .ok (.stripe placeRequest) ∧
    Run boxOffice sampleCarts [.setHoldDonation 1 "a" (some 1) (some 1000) 1] giftAdded ∧
    ∃ db' order, fulfillCheckoutSession giftAdded.db giftAdded.now 1 placeSession
        = .ok (db', order, true) ∧
      order.total = 3000 ∧ ¬AsCharged sampleCarts.db db' placeRequest order := by
  obtain ⟨db', order, hok⟩ :=
    created_ok (r := fulfillCheckoutSession giftAdded.db giftAdded.now 1 placeSession) rfl
  obtain ⟨hold, hmem, -, hcreate⟩ := placeRequest_created
  have htotal : order.total = 3000 := by
    obtain ⟨cart, hcart, hid, hfulfil⟩ := (@cartDelivery_ok _ _ _ _ 1) rfl hok
    have hall : ∀ cart ∈ giftAdded.db.holds.rows, cart.id = 1 →
        holdGrandTotal giftAdded.db cart = 3000 := by decide
    obtain ⟨_, _, -, -, -, rfl, -⟩ := fulfillHold_ok hfulfil
    exact hall cart hcart hid
  refine ⟨hold, hmem, hcreate, giftAdded_run, db', order, hok, htotal, fun hcharged => ?_⟩
  have hpaid := hcharged.total
  rw [htotal, placeRequest_charged] at hpaid
  norm_num at hpaid

end BoxOffice
