import BoxOffice.Orders.HoldMoney
import BoxOffice.Orders.Tokens
import BoxOffice.Orders.Void

namespace BoxOffice

open Relational

/-!
# Payments — selling the inventory of a hold

The inventory half of fulfilment, shared by every route that turns a hold into an order.

* `fulfillGa` / `fulfillReserved` re-check the inventory of a hold and mint its tickets;
* `mintTickets_ok` brings both to one normal form: the lines and the seats a hold sells are
  `soldLines` and `soldSeats`, and `soldAllocations` counts them;
* `createOrder` and `mintSeat` are the inserts that a unique constraint can refuse.

A hold is passed as the object the caller read; only `holdSeatsOf` goes back to the database.
-/

/-! ### Inserts that a constraint can refuse -/

/-- Would an order with this session id violate `unique_stripe_checkout_session_per_org`?  Null
    and blank session ids are exempt. -/
def sessionTaken (orders : Table Order) (organization : Nat) (session : Option String) : Bool :=
  session != none && session != some "" &&
    orders.rows.any fun o => o.organization == organization && o.stripeCheckoutSessionId == session

/-- `Order.objects.create`. -/
def createOrder (orders : Table Order) (mk : Nat → Order)
    (hk : ∀ i, (mk i).id = i := by intro _; exact id rfl) :
    Except ServiceError (Table Order × Order) :=
  let order := mk orders.nextId
  if sessionTaken orders order.organization order.stripeCheckoutSessionId then
    .error (.integrity "unique_stripe_checkout_session_per_org")
  else .ok (orders.insert mk hk, order)

/-- One ticket line of an order. -/
structure Line where
  priceTier : Option Nat
  pricingZone : Option Nat
  seat : Option Nat
  quantity : Nat
  unitAmount : Cents
deriving Repr, DecidableEq

/-- The `OrderItem` of a ticket line. -/
def ticketItem (order : Order) (l : Line) (id : Nat) : OrderItem where
  id := id
  organization := order.organization
  order := order.id
  kind := .ticket
  priceTier := l.priceTier
  pricingZone := l.pricingZone
  donationCampaign := none
  passProduct := none
  seat := l.seat
  quantity := l.quantity
  unitAmount := l.unitAmount

/-- The ticket of a sold seat, or of one general-admission place.  Its key stands for the random
    draw of its code. -/
def newTicket (hold : Hold) (order : Order) (seat : Option Nat) (id : Nat) : Ticket where
  id := id
  organization := order.organization
  order := order.id
  performance := hold.performance
  seat := seat
  holderName := order.buyerName
  token := newToken id
  status := .valid
  usedAt := none
  scannedBy := none

/-! ### Inventory -/

/-- The line of a general-admission hold. -/
def gaLine (db : Db) (g : GaSelection) : Line where
  priceTier := some g.priceTier
  pricingZone := none
  seat := none
  quantity := g.quantity
  unitAmount := gaUnitAmount db g

/-- `_fulfill_ga`. -/
def fulfillGa (db : Db) (hold : Hold) (g : GaSelection) (order : Order) :
    Except ServiceError Db :=
  match allocationOf db hold.performance with
  | none => .error (.doesNotExist "GAAllocation")
  | some allocation =>
    if allocation.capacity < allocation.sold + g.quantity then
      .error (.availabilityChanged
        s!"GA allocation for performance {hold.performance} no longer has room for hold {hold.id} ({g.quantity} seat(s)).")
    else .ok
      { db with
        orderItems := db.orderItems.insert (ticketItem order (gaLine db g))
        tickets := db.tickets.insertMany (newTicket hold order)
          (List.replicate g.quantity none)
        gaAllocations := db.gaAllocations.update (fun a => a.id == allocation.id)
          (fun a => { a with sold := allocation.sold + g.quantity }) }

/-- The line of a held seat. -/
def seatLine (hs : HoldSeat) : Line where
  priceTier := hs.priceTier
  pricingZone := hs.pricingZone
  seat := some hs.seat
  quantity := 1
  unitAmount := hs.unitAmount

/-- `hold.hold_seats.order_by("seat_id")`. -/
def orderedHoldSeats (db : Db) (hold : Hold) : List HoldSeat :=
  (holdSeatsOf db hold).insertionSort (fun a b => a.seat ≤ b.seat)

/-- The item and the ticket of one held seat.  The ticket insert runs into
    `unique_live_ticket_per_performance_seat` when the seat is on a live ticket already. -/
def mintSeat (db : Db) (hold : Hold) (order : Order) (hs : HoldSeat) : Except ServiceError Db :=
  if isTicketed db hold.performance hs.seat then
    .error (.integrity "unique_live_ticket_per_performance_seat")
  else .ok
    { db with
      orderItems := db.orderItems.insert (ticketItem order (seatLine hs))
      tickets := db.tickets.insert (newTicket hold order (some hs.seat)) }

/-- The loop over the held seats. -/
def mintSeats (db : Db) (hold : Hold) (order : Order) : List HoldSeat → Except ServiceError Db
  | [] => .ok db
  | hs :: rest =>
    match mintSeat db hold order hs with
    | .error e => .error e
    | .ok db => mintSeats db hold order rest

/-- `_fulfill_reserved`. -/
def fulfillReserved (db : Db) (hold : Hold) (order : Order) : Except ServiceError Db :=
  let holdSeats := orderedHoldSeats db hold
  let ticketed := (holdSeats.map (·.seat)).filter fun s => isTicketed db hold.performance s
  if ticketed ≠ [] then
    .error (.availabilityChanged
      s!"Seat(s) {ticketed} for performance {hold.performance} are already ticketed; hold {hold.id} can't be fulfilled.")
  else mintSeats db hold order holdSeats

/-- The branch on `hold.price_tier_id and hold.quantity`. -/
def mintTickets (db : Db) (hold : Hold) (order : Order) : Except ServiceError Db :=
  match hold.ga with
  | some g => if g.quantity ≠ 0 then fulfillGa db hold g order else fulfillReserved db hold order
  | none => fulfillReserved db hold order

/-- The ticket lines a hold sells. -/
def soldLines (db : Db) (hold : Hold) : List Line :=
  match hold.ga with
  | some g => if g.quantity ≠ 0 then [gaLine db g] else (orderedHoldSeats db hold).map seatLine
  | none => (orderedHoldSeats db hold).map seatLine

/-- The seats a hold sells, one entry a ticket. -/
def soldSeats (db : Db) (hold : Hold) : List (Option Nat) :=
  match hold.ga with
  | some g =>
    if g.quantity ≠ 0 then List.replicate g.quantity none
    else (orderedHoldSeats db hold).map fun hs => some hs.seat
  | none => (orderedHoldSeats db hold).map fun hs => some hs.seat

/-- The allocations after a hold is sold. -/
def soldAllocations (db : Db) (hold : Hold) : Table GAAllocation :=
  match allocationOf db hold.performance with
  | some allocation =>
    if hold.isGa then
      db.gaAllocations.update (fun a => a.id == allocation.id)
        (fun a => { a with sold := allocation.sold + hold.gaQuantity })
    else db.gaAllocations
  | none => db.gaAllocations

/-! ### The normal form of minting -/

section Spec

variable {db db' : Db} {hold : Hold} {order : Order}

/-- What minting the seats of a hold has written. -/
theorem mintSeats_ok {l : List HoldSeat} (h : mintSeats db hold order l = .ok db') :
    db' = { db with
      orderItems := db.orderItems.insertMany (ticketItem order)
        (l.map seatLine)
      tickets := db.tickets.insertMany (newTicket hold order)
        (l.map fun hs => some hs.seat) } := by
  induction l generalizing db with
  | nil => cases h; rfl
  | cons hs rest ih =>
    unfold mintSeats mintSeat at h
    split_ifs at h with hfree
    exact ih h

/-- Distinct seats none of which is on a live ticket are minted without a conflict. -/
theorem mintSeats_isOk {l : List HoldSeat} (hnd : (l.map (·.seat)).Nodup)
    (hfree : ∀ hs ∈ l, isTicketed db hold.performance hs.seat = false) :
    ∃ db', mintSeats db hold order l = .ok db' := by
  induction l generalizing db with
  | nil => exact ⟨db, rfl⟩
  | cons hs rest ih =>
    rw [List.map_cons, List.nodup_cons] at hnd
    have hhs := hfree hs (by simp)
    unfold mintSeats mintSeat
    rw [if_neg (by simp [hhs])]
    refine ih hnd.2 fun x hx => ?_
    have hx0 := hfree x (by simp [hx])
    have hne : hs.seat ≠ x.seat := fun he => hnd.1 (List.mem_map.mpr ⟨x, hx, he.symm⟩)
    unfold isTicketed at hx0 ⊢
    simp only [Table.insert_rows, List.any_append, hx0, Bool.false_or]
    simp [newTicket, hne]

/-- **Minting.** A successful inventory step writes exactly the lines and the tickets of the
    hold, and counts them in the allocation. -/
theorem mintTickets_ok (h : mintTickets db hold order = .ok db') :
    db' = { db with
      orderItems := db.orderItems.insertMany (ticketItem order)
        (soldLines db hold)
      tickets := db.tickets.insertMany (newTicket hold order)
        (soldSeats db hold)
      gaAllocations := soldAllocations db hold } := by
  -- Seats first: they leave the allocation alone.
  have hreserved : ∀ hga : hold.isGa = false, fulfillReserved db hold order = .ok db' →
      db' = { db with
        orderItems := db.orderItems.insertMany (ticketItem order)
          ((orderedHoldSeats db hold).map seatLine)
        tickets := db.tickets.insertMany (newTicket hold order)
          ((orderedHoldSeats db hold).map fun hs => some hs.seat)
        gaAllocations := soldAllocations db hold } := by
    intro hga hr
    unfold fulfillReserved at hr
    dsimp only at hr
    split_ifs at hr
    have hsame : soldAllocations db hold = db.gaAllocations := by
      unfold soldAllocations
      cases allocationOf db hold.performance with
      | none => rfl
      | some a => simp [hga]
    rw [mintSeats_ok hr, hsame]
  unfold mintTickets at h
  unfold soldLines soldSeats
  cases hg : hold.ga with
  | none =>
    simp only [hg] at h ⊢
    exact hreserved (by simp [Hold.isGa, hg]) h
  | some g =>
    -- A cart of no places at all is minted as one of seats.
    by_cases hq : g.quantity = 0
    · simp only [hg, hq, ne_eq, not_true_eq_false, if_false] at h ⊢
      exact hreserved (by simp [Hold.isGa, hg, hq]) h
    · simp only [hg, hq, ne_eq, not_false_eq_true, if_true] at h ⊢
      unfold fulfillGa at h
      cases ha : allocationOf db hold.performance with
      | none => simp only [ha] at h; cases h
      | some allocation =>
        simp only [ha] at h
        split_ifs at h
        cases h
        have hga : hold.isGa = true := by simp [Hold.isGa, hg, hq]
        simp [soldAllocations, ha, hga, Hold.gaQuantity, hg]

/-! What a hold sells does not depend on the guests and the orders a fulfilment has written
    before it mints. -/

/-- The lines do not depend on guests and orders. -/
theorem soldLines_with (guests : Table GuestAccount) (orders : Table Order) :
    soldLines { db with guests := guests, orders := orders } hold = soldLines db hold := rfl

/-- Nor do the seats. -/
theorem soldSeats_with (guests : Table GuestAccount) (orders : Table Order) :
    soldSeats { db with guests := guests, orders := orders } hold = soldSeats db hold := rfl

/-- Nor do the allocations. -/
theorem soldAllocations_with (guests : Table GuestAccount) (orders : Table Order) :
    soldAllocations { db with guests := guests, orders := orders } hold
      = soldAllocations db hold := rfl

end Spec

end BoxOffice
