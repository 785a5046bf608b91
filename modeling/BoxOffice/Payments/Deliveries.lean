import BoxOffice.Payments.Books
import BoxOffice.Transition.Interleaving

namespace BoxOffice

open Relational Transition

/-!
# Payments — interleaved webhook deliveries

A delivery of `checkout.session.completed` runs `fulfill_checkout_session` in three database
steps: the read for an existing order, the read of what the session sells, and the atomic
fulfilment.  Between them other deliveries and the rest of the box office run.

* `deliver` is one step of a delivery, `webhooks` the interleaving of all of them;
* `deliver_uninterrupted` says that the three steps in a row are `fulfillCheckoutSession`;
* `DeskBooks` is the invariant of the shared state, and `deliveries_exactly_once` what it means
  for one session.
-/

/-- How far a delivery has come. -/
inductive Phase
  | received
  | checked
  | found (target : Target)
  | answered (r : Except ServiceError (Order × Bool))

/-- One delivery of a session of an organization's account. -/
structure Delivery where
  organization : Nat
  session : CheckoutSession
  phase : Phase

/-- What the deliveries share: the box office, and a record of the sessions that a delivery has
    fulfilled, one entry for each time. -/
structure Desk where
  state : State
  fulfilled : List (Nat × String)

/-- The delivery with its answer. -/
def Delivery.answer (d : Delivery) (r : Except ServiceError (Order × Bool)) : Delivery :=
  { d with phase := .answered r }

/-- The next step of a delivery. -/
def deliver (s : Desk) (d : Delivery) : Desk × Delivery :=
  match d.phase with
  | .received =>
    match existingOrder s.state.db d.organization d.session.id with
    | some existing => (s, d.answer (.ok (existing, false)))
    | none => (s, { d with phase := .checked })
  | .checked =>
    match readTarget s.state.db s.state.now d.organization d.session with
    | .error e => (s, d.answer (.error e))
    | .ok target => (s, { d with phase := .found target })
  | .found target =>
    match fulfillTarget s.state.db s.state.now d.organization d.session target with
    | .error e => (s, d.answer (.error e))
    | .ok (db, order, created) =>
      ({ state := { s.state with db := db }
         fulfilled :=
           if created then (d.organization, d.session.id) :: s.fulfilled else s.fulfilled },
        d.answer (.ok (order, created)))
  | .answered _ => (s, d)

/-- Only a webhook delivery puts a session id on an order. -/
def Op.Sessionless (op : Op) : Prop :=
  ∀ args, op.PaysWith args → args.stripeCheckoutSessionId = none

/-- Any deliveries of any sessions, interleaved with the operations of the box office. -/
def webhooks : Processes Desk Delivery Op where
  init s := Fresh s.state ∧ s.fulfilled = []
  start d := d.phase = .received ∧ d.session.id ≠ ""
  step := deliver
  admits s op := Admissible s.state op ∧ op.Sessionless
  env op s := { s with state := exec op s.state }

/-- Three steps in a row are `fulfill_checkout_session`. -/
theorem deliver_uninterrupted (s : Desk) (organization : Nat) (session : CheckoutSession) :
    let p := deliver s ⟨organization, session, .received⟩
    let q := deliver p.1 p.2
    let r := deliver q.1 q.2
    r.1.state = exec (.fulfillCheckoutSession organization session) s.state := by
  simp only [exec, fulfillCheckoutSession, deliver]
  cases he : existingOrder s.state.db organization session.id with
  | some existing => rfl
  | none =>
    dsimp only
    cases ht : readTarget s.state.db s.state.now organization session with
    | error e => rfl
    | ok target =>
      dsimp only
      cases hf : fulfillTarget s.state.db s.state.now organization session target with
      | error e => rfl
      | ok p => rfl

/-! ### Orders and payments of a session -/

/-- The orders of a session. -/
def sessionOrders (db : Db) (organization : Nat) (id : String) : List Order :=
  db.orders.rows.filter fun o =>
    o.organization == organization && o.stripeCheckoutSessionId == some id

/-- The succeeded payments of an order. -/
def succeededPayments (db : Db) (order : Nat) : List Payment :=
  db.payments.rows.filter fun p => p.order == order && p.status == .succeeded

/-- A new order with its one succeeded payment. -/
structure NewSale (db db' : Db) (order : Order) : Prop where
  orders : ∃ mk hk, db'.orders = db.orders.insert mk hk ∧ mk db.orders.nextId = order
  payments : ∃ provider amount ref,
    db'.payments = db.payments.insert (paymentRow order provider amount .succeeded ref)

section Sales

variable {db db' : Db} {now : Time} {hold : Hold} {args : FulfillArgs} {order : Order}
  {organization : Nat} {id : String} {session : CheckoutSession} {target : Target}

/-- The new order has the next key. -/
theorem NewSale.order_id (h : NewSale db db' order) : order.id = db.orders.nextId := by
  obtain ⟨mk, hk, -, rfl⟩ := h.orders
  exact hk _

/-- A sale of a cart is a new sale, and its session was not used before. -/
theorem fulfillHold_newSale (h : fulfillHold db now hold args = .ok (db', order)) :
    NewSale db db' order ∧ order.organization = hold.organization ∧
      order.stripeCheckoutSessionId = args.stripeCheckoutSessionId ∧
      sessionTaken db.orders hold.organization args.stripeCheckoutSessionId = false := by
  obtain ⟨guests, guest, -, -, hfree, rfl, rfl⟩ := fulfillHold_ok h
  exact ⟨⟨⟨_, fun _ => rfl, rfl, rfl⟩, _, _, _, rfl⟩, rfl, rfl, hfree⟩

/-- A redemption is a new sale without a session. -/
theorem fulfillHoldWithPass_newSale {passPurchase : Nat} {buyerEmail buyerName : String}
    {marketingOptIn : Bool}
    (h : fulfillHoldWithPass db now hold passPurchase buyerEmail buyerName marketingOptIn
      = .ok (db', order)) : NewSale db db' order ∧ order.stripeCheckoutSessionId = none := by
  obtain ⟨p, performance, -, -, -, -, -, -, -, guests, guest, -, rfl, rfl⟩ :=
    fulfillHoldWithPass_ok h
  exact ⟨⟨⟨_, fun _ => rfl, rfl, rfl⟩, _, _, _, rfl⟩, rfl⟩

/-- A donation is a new sale, and its session was not used before. -/
theorem fulfillDonation_newSale {amount : Cents} {campaign : Option Nat}
    (h : fulfillDonation db now organization amount campaign args = .ok (db', order)) :
    NewSale db db' order ∧ order.organization = organization ∧
      order.stripeCheckoutSessionId = args.stripeCheckoutSessionId ∧
      sessionTaken db.orders organization args.stripeCheckoutSessionId = false := by
  obtain ⟨guests, guest, -, hfree, rfl, rfl⟩ := fulfillDonation_ok h
  exact ⟨⟨⟨_, fun _ => rfl, rfl, rfl⟩, _, _, _, rfl⟩, rfl, rfl, hfree⟩

/-- The sale of a pass is a new sale, and its session was not used before. -/
theorem fulfillPassPurchase_newSale {product : PassProduct}
    (h : fulfillPassPurchase db now organization product args = .ok (db', order)) :
    NewSale db db' order ∧ order.organization = organization ∧
      order.stripeCheckoutSessionId = args.stripeCheckoutSessionId ∧
      sessionTaken db.orders organization args.stripeCheckoutSessionId = false := by
  obtain ⟨guests, guest, -, -, hfree, rfl, rfl⟩ := fulfillPassPurchase_ok h
  exact ⟨⟨⟨_, fun _ => rfl, rfl, rfl⟩, _, _, _, rfl⟩, rfl, rfl, hfree⟩

/-- The hold of a target belongs to the organization of the delivery. -/
def Target.Of (organization : Nat) : Target → Prop
  | .hold hold => hold.organization = organization
  | _ => True

/-- **The fulfilment of a session.** Whatever the session sells, success is one new order under
    an id that was free, with one payment. -/
theorem fulfillBody_newSale (hof : target.Of organization)
    (h : fulfillBody db now organization session target = .ok (db', order)) :
    NewSale db db' order ∧ order.organization = organization ∧
      order.stripeCheckoutSessionId = some session.id ∧
      sessionTaken db.orders organization (some session.id) = false := by
  cases target with
  | hold hold =>
    have hof' : hold.organization = organization := hof
    rw [← hof']
    exact (@fulfillHold_newSale _ _ _ _ (sessionArgs session)) h
  | donation amount campaign => exact (@fulfillDonation_newSale _ _ _ (sessionArgs session)) h
  | pass product => exact (@fulfillPassPurchase_newSale _ _ _ (sessionArgs session)) h

/-- A free id has no order. -/
theorem sessionOrders_of_free (hid : id ≠ "")
    (h : sessionTaken db.orders organization (some id) = false) :
    sessionOrders db organization id = [] := by
  refine List.filter_eq_nil_iff.mpr fun o ho hm => ?_
  unfold sessionTaken at h
  rw [Bool.and_eq_false_iff] at h
  rcases h with h | h
  · simp [hid] at h
  · exact absurd hm (List.any_eq_false.mp h o ho)

/-- A sale adds its order to those of its session. -/
theorem NewSale.sessionOrders (h : NewSale db db' order) :
    sessionOrders db' organization id = sessionOrders db organization id
      ++ [order].filter fun o =>
        o.organization == organization && o.stripeCheckoutSessionId == some id := by
  obtain ⟨mk, hk, hmk, rfl⟩ := h.orders
  unfold BoxOffice.sessionOrders
  rw [hmk, Table.insert_rows, List.filter_append]

/-- A change of status leaves the orders of every session in place. -/
theorem sessionOrders_setOrderStatus {n : Nat} {status : OrderStatus}
    (h : db'.orders = setOrderStatus db.orders n status) :
    (sessionOrders db' organization id).map (·.id)
      = (sessionOrders db organization id).map (·.id) := by
  unfold sessionOrders
  rw [h]
  unfold setOrderStatus Table.update
  rw [List.filter_map, List.map_map]
  have hfilter : ∀ o : Order, ((fun o : Order =>
      o.organization == organization && o.stripeCheckoutSessionId == some id) ∘
      fun o => if (o.id == n) = true then { o with status := status } else o) o
        = (o.organization == organization && o.stripeCheckoutSessionId == some id) := by
    intro o
    dsimp only [Function.comp]
    split <;> rfl
  rw [List.filter_congr fun o _ => hfilter o]
  refine List.map_congr_left fun o _ => ?_
  dsimp only [Function.comp]
  split <;> rfl

end Sales

end BoxOffice
