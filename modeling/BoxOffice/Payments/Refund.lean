import BoxOffice.Orders.Void
import BoxOffice.Passes
import BoxOffice.Payments.Fulfill

namespace BoxOffice

open Relational

/-!
# Payments — undoing an order

* `refundOrder` is `refund_order`: one transaction that gives the money, the inventory and the
  pass entitlement of a paid order back;
* `orderCancel` is the body of the dashboard's `order_cancel` run from start to end, which
  gives back the inventory and the entitlement but no money.

Stripe's answer to `Refund.create` is an argument: the refund's id, or the error text.
-/

/-- Write one status on an order row. -/
def setOrderStatus (orders : Table Order) (order : Nat) (status : OrderStatus) : Table Order :=
  orders.update (fun o => o.id == order) (fun o => { o with status := status })

/-- Did the order sell a pass? -/
def soldAPass (db : Db) (order : Nat) : Bool :=
  db.orderItems.rows.any fun i => i.order == order && i.kind == .pass

/-- Has a pass that the order sold been redeemed? -/
def soldPassUsed (db : Db) (order : Nat) : Bool :=
  db.passPurchases.rows.any fun p =>
    p.order == order && db.passRedemptions.rows.any fun r => r.passPurchase == p.id

/-- The first succeeded payment of an order. -/
def succeededPayment (db : Db) (order : Nat) : Option Payment :=
  (orderedByPk (db.payments.rows.filter fun p =>
    p.order == order && p.status == .succeeded)).head?

/-- `order.pass_purchases.update(status=REFUNDED)`, when the order sold a pass. -/
def refundedPasses (passPurchases : Table PassPurchase) (order : Nat) (sold : Bool) :
    Table PassPurchase :=
  if sold then
    passPurchases.update (fun p => p.order == order) (fun p => { p with status := .refunded })
  else passPurchases

/-- Void the order, reverse its redemptions and write its status. -/
def undoOrder (db : Db) (order : Order) (status : OrderStatus) : Db :=
  let db := (voidOrder db order).1
  let db := (restoreRedemptionsForOrder db order.id).1
  { db with orders := setOrderStatus db.orders order.id status }

/-- The part of `refund_order` after the gateway has answered. -/
def refundedDb (db : Db) (order : Order) (provider : Provider) (refundRef : String) : Db :=
  let sold := soldAPass db order.id
  let db := (voidOrder db order).1
  let db := (restoreRedemptionsForOrder db order.id).1
  { db with
    passPurchases := refundedPasses db.passPurchases order.id sold
    orders := setOrderStatus db.orders order.id .refunded
    payments := db.payments.insert
      (paymentRow order provider order.total .refunded refundRef) }

/-- `refund_order`; `true` when a refund was performed. -/
def refundOrder (db : Db) (order : Nat) (gateway : Except String String) :
    Result Bool :=
  match db.orders.get? order with
  | none => .error (.doesNotExist "Order")
  | some order =>
    if order.status ≠ .paid then .ok (db, false)
    else if soldAPass db order.id && soldPassUsed db order.id then
      .error (.refundError "This pass has been used; void its redeemed tickets first.")
    else
      let payment := succeededPayment db order.id
      let provider := (payment.map (·.provider)).getD .stripe
      if provider = .stripe then
        let paymentIntent := (payment.map (·.providerRef)).getD ""
        if "pi_".toList.isPrefixOf paymentIntent.toList then
          match gateway with
          | .error e => .error (.refundError e)
          | .ok refund => .ok (refundedDb db order provider refund, true)
        else .error (.refundError
          "This order has no Stripe PaymentIntent on file; refund it from the Stripe dashboard.")
      else .ok (refundedDb db order provider "", true)

/-- `order_cancel`, run without interruption. -/
def orderCancel (db : Db) (order : Order) : Db :=
  if order.status = .cancelled ∨ order.status = .refunded then db
  else undoOrder db order .cancelled

/-! ### What they write -/

section Spec

variable {db db' : Db} {order : Nat} {gateway : Except String String}

/-- **Undoing.** Tickets, allocation, redemptions, passes and the status; nothing else. -/
theorem undoOrder_eq (db : Db) (o : Order) (status : OrderStatus) :
    undoOrder db o status =
      { db with
          tickets := voidedTickets db.tickets o.id
          gaAllocations := voidedAllocations db o
          passRedemptions := db.passRedemptions.delete (fun r => r.order == o.id)
          passPurchases := restoredPasses db o.id
          orders := setOrderStatus db.orders o.id status } := by
  unfold undoOrder
  dsimp only
  rw [voidOrder_fst, restoreRedemptionsForOrder_fst]
  rfl

/-- **`refund_order`, its writes.** An undo, with the sold passes refunded and the reversal on
    record. -/
theorem refundedDb_eq (db : Db) (o : Order) (provider : Provider) (refundRef : String) :
    refundedDb db o provider refundRef =
      { db with
          tickets := voidedTickets db.tickets o.id
          gaAllocations := voidedAllocations db o
          passRedemptions := db.passRedemptions.delete (fun r => r.order == o.id)
          passPurchases :=
            refundedPasses (restoredPasses db o.id) o.id (soldAPass db o.id)
          orders := setOrderStatus db.orders o.id .refunded
          payments := db.payments.insert
            (paymentRow o provider o.total .refunded refundRef) } := by
  unfold refundedDb
  dsimp only
  rw [voidOrder_fst, restoreRedemptionsForOrder_fst]
  rfl

/-- **`refund_order`.** A call that returns found the order not paid and wrote nothing, or
    refunded a paid order none of whose sold passes is in use. -/
theorem refundOrder_ok {performed : Bool}
    (h : refundOrder db order gateway = .ok (db', performed)) :
    ∃ o, db.orders.get? order = some o ∧
      ((o.status ≠ .paid ∧ db' = db ∧ performed = false) ∨
        (o.status = .paid ∧ performed = true ∧
          (soldAPass db o.id && soldPassUsed db o.id) = false ∧
          ∃ provider refundRef, db' = refundedDb db o provider refundRef)) := by
  unfold refundOrder at h
  cases ho : db.orders.get? order with
  | none => simp only [ho] at h; cases h
  | some o =>
    simp only [ho] at h
    refine ⟨o, rfl, ?_⟩
    by_cases hpaid : o.status = .paid
    · rw [if_neg (not_not.mpr hpaid)] at h
      right
      by_cases hused : (soldAPass db o.id && soldPassUsed db o.id) = true
      · rw [if_pos hused] at h; cases h
      · rw [if_neg hused] at h
        rw [Bool.not_eq_true] at hused
        -- Through the provider, or without it where nothing was paid there.
        by_cases hstripe : ((succeededPayment db o.id).map (·.provider)).getD .stripe = .stripe
        · rw [if_pos hstripe] at h
          split_ifs at h
          cases gateway with
          | error e => cases h
          | ok refund => cases h; exact ⟨hpaid, rfl, hused, _, _, rfl⟩
        · rw [if_neg hstripe] at h
          cases h
          exact ⟨hpaid, rfl, hused, _, _, rfl⟩
    · rw [if_pos hpaid] at h
      cases h
      exact .inl ⟨hpaid, rfl, rfl⟩

end Spec

end BoxOffice
