import BoxOffice.Dashboard.StaffEffect
import BoxOffice.Payments.Sales

namespace BoxOffice

open Relational Transition

/-!
# Payments — the books

The items, tickets and payments of an order all carry its key.  `Linked` says that no row
carries a key that has not been handed out, so no earlier row belongs to a new order
(`Linked.item_ne`, `Linked.ticket_ne`, `Linked.payment_ne`), and its payments are exactly those that
its fulfilment writes (`newPayments`).

* `Booked` is the step relation that keeps `Linked`: rows keep their order, and new rows carry
  a key that exists;
* `exec_booked` and `linked` carry it through every request of the theater.
-/

/-- No sale row carries an order key of the future. -/
structure Linked (db : Db) : Prop where
  orderItems : ∀ i ∈ db.orderItems.rows, i.order < db.orders.nextId
  tickets : ∀ t ∈ db.tickets.rows, t.order < db.orders.nextId
  payments : ∀ p ∈ db.payments.rows, p.order < db.orders.nextId

/-- Rows keep their order; new rows carry a key that exists. -/
structure Booked (db db' : Db) : Prop where
  next : db.orders.nextId ≤ db'.orders.nextId
  orderItems : ∀ i ∈ db'.orderItems.rows,
    (∃ j ∈ db.orderItems.rows, i.order = j.order) ∨ i.order < db'.orders.nextId
  tickets : ∀ t ∈ db'.tickets.rows,
    (∃ u ∈ db.tickets.rows, t.order = u.order) ∨ t.order < db'.orders.nextId
  payments : ∀ p ∈ db'.payments.rows,
    (∃ q ∈ db.payments.rows, p.order = q.order) ∨ p.order < db'.orders.nextId

section Books

variable {trig : Trig} {db db' : Db} {now : Time} {hold : Hold} {order : Order}
  {args : FulfillArgs}

/-- What a sale books stays linked. -/
theorem Booked.linked (hb : Booked db db') (hl : Linked db) : Linked db' where
  orderItems := fun i hi => by
    rcases hb.orderItems i hi with ⟨j, hj, h⟩ | h
    · rw [h]; exact lt_of_lt_of_le (hl.orderItems j hj) hb.next
    · exact h
  tickets := fun t ht => by
    rcases hb.tickets t ht with ⟨u, hu, h⟩ | h
    · rw [h]; exact lt_of_lt_of_le (hl.tickets u hu) hb.next
    · exact h
  payments := fun p hp => by
    rcases hb.payments p hp with ⟨q, hq, h⟩ | h
    · rw [h]; exact lt_of_lt_of_le (hl.payments q hq) hb.next
    · exact h

/-- Sales kept are booked. -/
theorem SalesKept.booked (h : SalesKept db db') : Booked db db' where
  next := by rw [h.orders]
  orderItems := fun i hi => .inl (h.orderItems i hi)
  tickets := fun t ht => .inl (h.tickets t ht)
  payments := fun p hp => .inl ⟨p, by rw [← h.payments]; exact hp, rfl⟩

/-- Books that stay are booked. -/
theorem Booked.of_eq (ho : db'.orders = db.orders) (hp : db'.payments = db.payments)
    (hi : db'.orderItems = db.orderItems) (ht : db'.tickets = db.tickets) : Booked db db' :=
  (SalesKept.of_eq ho hp hi ht).booked

/-- Nothing was booked. -/
theorem Booked.refl (db : Db) : Booked db db := .of_eq rfl rfl rfl rfl

/-! ### Sales -/

/-- Rows built for one order carry its key. -/
theorem ticketItem_order {items : Table OrderItem} {lines : List Line} {i : OrderItem}
    (hi : i ∈ (items.insertMany (ticketItem order) lines).rows) :
    (∃ j ∈ items.rows, i.order = j.order) ∨ i.order = order.id := by
  rcases Table.mem_insertMany hi with hi | ⟨_, -, _, -, rfl⟩
  · exact .inl ⟨i, hi, rfl⟩
  · exact .inr rfl

/-- A minted ticket is one of the order. -/
theorem newTicket_order {tickets : Table Ticket} {seats : List (Option Nat)} {t : Ticket}
    (ht : t ∈ (tickets.insertMany (newTicket hold order) seats).rows) :
    (∃ u ∈ tickets.rows, t.order = u.order) ∨ t.order = order.id := by
  rcases Table.mem_insertMany ht with ht | ⟨_, -, _, -, rfl⟩
  · exact .inl ⟨t, ht, rfl⟩
  · exact .inr rfl

/-- A new payment is one of the order. -/
theorem paymentRow_order {payments : Table Payment} {provider : Provider} {amount : Cents}
    {status : PaymentStatus} {ref : String} {p : Payment}
    (hp : p ∈ (payments.insert (paymentRow order provider amount status ref)).rows) :
    (∃ q ∈ payments.rows, p.order = q.order) ∨ p.order = order.id := by
  rcases Table.mem_insert.mp hp with hp | rfl
  · exact .inl ⟨p, hp, rfl⟩
  · exact .inr rfl

/-- A gift is an order line of the order. -/
theorem withDonation_order {items : Table OrderItem} {i : OrderItem}
    (hi : i ∈ (withDonation items hold order).rows) :
    i ∈ items.rows ∨ i.order = order.id := by
  unfold withDonation at hi
  split_ifs at hi
  · rcases Table.mem_insert.mp hi with hi | rfl
    · exact .inl hi
    · exact .inr rfl
  · exact .inl hi

/-- A sale of a cart books under its order. -/
theorem fulfillHold_booked (h : fulfillHold db now hold args = .ok (db', order)) :
    Booked db db' := by
  obtain ⟨guests, guest, -, -, -, rfl, rfl⟩ := fulfillHold_ok h
  have hlt : db.orders.nextId < db.orders.nextId + 1 := Nat.lt_succ_self _
  refine ⟨Nat.le_succ _, fun i hi => ?_, fun t ht => ?_, fun p hp => ?_⟩
  · rcases withDonation_order hi with hi | hi
    · rcases ticketItem_order hi with hi | hi
      · exact .inl hi
      · exact .inr (hi.trans_lt hlt)
    · exact .inr (hi.trans_lt hlt)
  · rcases newTicket_order ht with ht | ht
    · exact .inl ht
    · exact .inr (ht.trans_lt hlt)
  · rcases paymentRow_order hp with hp | hp
    · exact .inl hp
    · exact .inr (hp.trans_lt hlt)

/-- A redemption books under its order. -/
theorem fulfillHoldWithPass_booked {passPurchase : Nat} {buyerEmail buyerName : String}
    {marketingOptIn : Bool}
    (h : fulfillHoldWithPass db now hold passPurchase buyerEmail buyerName marketingOptIn
      = .ok (db', order)) : Booked db db' := by
  obtain ⟨p, performance, -, -, -, -, -, -, -, guests, guest, -, rfl, rfl⟩ :=
    fulfillHoldWithPass_ok h
  have hlt : db.orders.nextId < db.orders.nextId + 1 := Nat.lt_succ_self _
  refine ⟨Nat.le_succ _, fun i hi => ?_, fun t ht => ?_, fun p hp => ?_⟩
  · rcases ticketItem_order hi with hi | hi
    · exact .inl hi
    · exact .inr (hi.trans_lt hlt)
  · rcases newTicket_order ht with ht | ht
    · exact .inl ht
    · exact .inr (ht.trans_lt hlt)
  · rcases paymentRow_order hp with hp | hp
    · exact .inl hp
    · exact .inr (hp.trans_lt hlt)

/-- A sale without a performance books one item and one payment. -/
theorem booked_of_plain {guests : Table GuestAccount} {mk : Nat → Order} {hk}
    {item : Nat → OrderItem} {hitem} {passPurchases : Table PassPurchase} {provider : Provider}
    {amount : Cents} {ref : String} (hi : ∀ n, (item n).order = (mk db.orders.nextId).id) :
    Booked db
      { db with
        guests := guests
        orders := db.orders.insert mk hk
        orderItems := db.orderItems.insert item hitem
        passPurchases := passPurchases
        payments := db.payments.insert
          (paymentRow (mk db.orders.nextId) provider amount .succeeded ref) } := by
  have hid : (mk db.orders.nextId).id = db.orders.nextId := hk _
  have hlt : db.orders.nextId < db.orders.nextId + 1 := Nat.lt_succ_self _
  refine ⟨Nat.le_succ _, fun i hmem => ?_, fun t ht => .inl ⟨t, ht, rfl⟩, fun p hmem => ?_⟩
  · rcases List.mem_append.mp hmem with hmem | hmem
    · exact .inl ⟨i, hmem, rfl⟩
    · rw [List.mem_singleton.mp hmem, hi, hid]
      exact .inr hlt
  · rcases paymentRow_order hmem with h | h
    · exact .inl h
    · exact .inr (by rw [h, hid]; exact hlt)

/-- A donation books under its order. -/
theorem fulfillDonation_booked {organization : Nat} {amount : Cents} {campaign : Option Nat}
    (h : fulfillDonation db now organization amount campaign args = .ok (db', order)) :
    Booked db db' := by
  obtain ⟨guests, guest, -, -, rfl, rfl⟩ := fulfillDonation_ok h
  exact booked_of_plain fun _ => rfl

/-- The sale of a pass books under its order. -/
theorem fulfillPassPurchase_booked {organization : Nat} {product : PassProduct}
    (h : fulfillPassPurchase db now organization product args = .ok (db', order)) :
    Booked db db' := by
  obtain ⟨guests, guest, -, -, -, rfl, rfl⟩ := fulfillPassPurchase_ok h
  exact booked_of_plain fun _ => rfl

/-! ### Undoing -/

/-- A void keeps every row with its order. -/
theorem booked_of_voided (ho : db.orders.nextId = db'.orders.nextId)
    (hi : db'.orderItems = db.orderItems) (ht : db'.tickets = voidedTickets db.tickets order.id)
    (hp : ∀ p ∈ db'.payments.rows,
      (∃ q ∈ db.payments.rows, p.order = q.order) ∨ p.order < db'.orders.nextId) :
    Booked db db' := by
  refine ⟨ho.le, fun i hmem => .inl ⟨i, hi ▸ hmem, rfl⟩, fun t hmem => ?_, hp⟩
  rw [ht] at hmem
  obtain ⟨u, hu, rfl⟩ := Table.mem_update.mp hmem
  exact .inl ⟨u, hu, by split <;> rfl⟩

/-- Voiding an order books nothing new. -/
theorem voidOrder_booked : Booked db (voidOrder db order).1 := by
  rw [voidOrder_fst]
  exact booked_of_voided rfl rfl rfl fun p hp => .inl ⟨p, hp, rfl⟩

/-- A cancellation books nothing new. -/
theorem orderCancel_booked : Booked db (orderCancel db order) := by
  unfold orderCancel
  split_ifs
  · exact .refl db
  · rw [undoOrder_eq]
    exact booked_of_voided rfl rfl rfl fun p hp => .inl ⟨p, hp, rfl⟩

/-- A refund books nothing new. -/
theorem refundOrder_booked {id : Nat} {gateway : Except String String} {performed : Bool}
    (h : refundOrder db id gateway = .ok (db', performed)) : Booked db db' := by
  obtain ⟨o, ho, ⟨-, rfl, -⟩ | ⟨-, -, -, provider, refundRef, rfl⟩⟩ := refundOrder_ok h
  · exact .refl _
  · rw [refundedDb_eq]
    refine booked_of_voided rfl rfl rfl fun p hp => ?_
    rcases paymentRow_order hp with hp | hp
    · exact .inl hp
    · exact .inr (hp.trans_lt (db.orders.fresh o (Table.get?_mem ho)))

end Books

/-- **The books.** Every operation keeps rows with their orders and books new rows on orders
    that exist. -/
theorem exec_booked (op : Op) (s : State) : Booked s.db (exec op s).db := by
  cases exec_sale op s with
  | none h => exact .of_eq h.orders h.payments h.orderItems h.tickets
  | hold _ _ _ _ _ h => exact fulfillHold_booked h
  | withPass _ _ _ _ _ _ _ h => exact fulfillHoldWithPass_booked h
  | donation _ _ _ _ _ _ h => exact fulfillDonation_booked h
  | passSale _ _ _ _ _ h => exact fulfillPassPurchase_booked h
  | void order _ _ h => rw [h]; exact voidOrder_booked
  | refund _ _ _ h => exact refundOrder_booked h
  | cancel order _ _ h => rw [h]; exact orderCancel_booked

/-- Fresh books are linked, and every request of the theater keeps them so. -/
theorem Fresh.linked {s : State} (h : Fresh s) : Linked s.db where
  orderItems := fun i hi => by rw [h.orderItems] at hi; cases hi
  tickets := fun t ht => by rw [h.tickets] at ht; cases ht
  payments := fun p hp => by rw [h.payments] at hp; cases hp

/-- **The step.** Every request keeps the books linked. -/
theorem execRequest_linked {trig : Trig} {s : State} (hga : GaSeatless s.db) (r : Request)
    (hl : Linked s.db) : Linked (execRequest trig r s).db := by
  cases r with
  | shop op => exact (exec_booked op s).linked hl
  | staff op => exact ((@execStaff_effect trig) hga op).2.booked.linked hl

/-! ### What an order has on the books -/

section Totals

/-- The tickets of an order. -/
def orderTickets (db : Db) (order : Nat) : Nat :=
  Table.total (fun t => if t.order = order then 1 else 0) db.tickets

/-- The tickets its items were sold for. -/
def orderQuantity (db : Db) (order : Nat) : Nat :=
  Table.total (fun i => if i.order = order ∧ i.kind = .ticket then i.quantity else 0) db.orderItems

/-- What its ticket items add up to. -/
def orderSubtotal (db : Db) (order : Nat) : Cents :=
  Table.total (fun i => if i.order = order ∧ i.kind = .ticket then i.quantity * i.unitAmount else 0)
    db.orderItems

/-- What its donation items add up to. -/
def orderDonation (db : Db) (order : Nat) : Cents :=
  Table.total
    (fun i => if i.order = order ∧ i.kind = .donation then i.quantity * i.unitAmount else 0)
    db.orderItems

/-- How many donation items it has. -/
def orderGifts (db : Db) (order : Nat) : Nat :=
  Table.total (fun i => if i.order = order ∧ i.kind = .donation then 1 else 0) db.orderItems

/-- The amounts of its payments. -/
def orderPayments (db : Db) (order : Nat) : List Cents :=
  (db.payments.rows.filter fun p => p.order == order).map (·.amount)

variable {db : Db}

/-- Nothing is on the books of an order before its key is handed out. -/
theorem Linked.item_ne (hl : Linked db) {i : OrderItem} (hi : i ∈ db.orderItems.rows) :
    i.order ≠ db.orders.nextId := (hl.orderItems i hi).ne

/-- No ticket has the key of the next order. -/
theorem Linked.ticket_ne (hl : Linked db) {t : Ticket} (ht : t ∈ db.tickets.rows) :
    t.order ≠ db.orders.nextId := (hl.tickets t ht).ne

/-- No payment has the key of the next order. -/
theorem Linked.payment_ne (hl : Linked db) {p : Payment} (hp : p ∈ db.payments.rows) :
    p.order ≠ db.orders.nextId := (hl.payments p hp).ne

/-- The payments of a new order are the one that was inserted with it. -/
theorem newPayments (hl : Linked db) {order : Order} (hid : order.id = db.orders.nextId)
    {provider : Provider} {amount : Cents} {status : PaymentStatus} {ref : String} :
    ((db.payments.insert (paymentRow order provider amount status ref)).rows.filter
      fun p => p.order == order.id).map (·.amount) = [amount] := by
  rw [Table.insert_rows, List.filter_append]
  have hold : (db.payments.rows.filter fun p => p.order == order.id) = [] :=
    List.filter_eq_nil_iff.mpr fun p hp => by
      rw [hid]
      simpa using hl.payment_ne hp
  rw [hold]
  simp [paymentRow]

end Totals

end BoxOffice
