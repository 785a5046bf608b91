import BoxOffice.System

namespace BoxOffice

open Relational Transition

/-!
# Payments — what an operation does to the sales

`exec_sale` says once what one operation can do to the orders, their items, tickets and
payments, and to the passes and their redemptions: nothing, one of the four sales, or an undo.
Invariants about these tables are then a case analysis over `SaleEffect`, not over the
operations.
-/

/-- The tables of the sales are as they were. -/
structure SalesEq (db db' : Db) : Prop where
  orders : db'.orders = db.orders
  orderItems : db'.orderItems = db.orderItems
  tickets : db'.tickets = db.tickets
  payments : db'.payments = db.payments
  passPurchases : db'.passPurchases = db.passPurchases
  passRedemptions : db'.passRedemptions = db.passRedemptions

/-- The arguments an operation passes to the fulfilment of a sale for money. -/
def Op.PaysWith : Op → FulfillArgs → Prop
  | .fulfillHold _ args, a => a = args
  | .fulfillDonation _ _ _ args, a => a = args
  | .fulfillPassPurchase _ _ args, a => a = args
  | .fulfillCheckoutSession _ session, a => a = sessionArgs session
  | _, _ => False

/-- The operations that sell a hold. -/
def Op.SellsHold : Op → Prop
  | .fulfillHold _ _ => True
  | .fulfillHoldWithPass _ _ _ _ _ => True
  | .fulfillCheckoutSession _ _ => True
  | _ => False

/-- What one operation can do to the sales. -/
inductive SaleEffect (db : Db) (now : Time) (op : Op) (db' : Db) : Prop
  | none : SalesEq db db' → SaleEffect db now op db'
  | hold (hold : Hold) (args : FulfillArgs) (order : Order) :
      op.SellsHold → op.PaysWith args →
      fulfillHold db now hold args = .ok (db', order) → SaleEffect db now op db'
  | withPass (hold : Hold) (passPurchase : Nat) (buyerEmail buyerName : String)
      (marketingOptIn : Bool) (order : Order) : op.SellsHold →
      fulfillHoldWithPass db now hold passPurchase buyerEmail buyerName marketingOptIn
        = .ok (db', order) → SaleEffect db now op db'
  | donation (organization : Nat) (amount : Cents) (campaign : Option Nat) (args : FulfillArgs)
      (order : Order) : op.PaysWith args →
      fulfillDonation db now organization amount campaign args = .ok (db', order) →
      SaleEffect db now op db'
  | passSale (organization : Nat) (product : PassProduct) (args : FulfillArgs) (order : Order) :
      op.PaysWith args →
      fulfillPassPurchase db now organization product args = .ok (db', order) →
      SaleEffect db now op db'
  | void (order : Order) : op = .voidOrder order.id → order ∈ db.orders.rows →
      db' = (voidOrder db order).1 → SaleEffect db now op db'
  | refund (order : Nat) (gateway : Except String String) (performed : Bool) :
      refundOrder db order gateway = .ok (db', performed) → SaleEffect db now op db'
  | cancel (order : Order) : op = .orderCancel order.id → order ∈ db.orders.rows →
      db' = orderCancel db order → SaleEffect db now op db'

section Sales

variable {db db' : Db} {now : Time}

/-- Sales equal themselves. -/
theorem SalesEq.refl (db : Db) : SalesEq db db := ⟨rfl, rfl, rfl, rfl, rfl, rfl⟩

/-- A transaction that rolls back has no effect. -/
theorem commit_sale {α : Type} {s : State} {op : Op} {r : Result α}
    (h : ∀ db' a, r = .ok (db', a) → SaleEffect s.db s.now op db') :
    SaleEffect s.db s.now op (s.commit r).db :=
  commit_rule (p := SaleEffect s.db s.now op) (.none (.refl s.db)) h

end Sales

/-! ### Operations on carts -/

/-- The operations on carts, and the clock. -/
def Op.OnCarts : Op → Prop
  | .advance _ | .setGaHold .. | .setReservedHold .. | .releaseHold .. | .releaseHoldById .. => True
  | .releaseExpiredHolds | .applyPromoCode .. | .removePromoCode .. => True
  | .setHoldDonation .. | .clearHoldDonation .. => True
  | _ => False

/-- At most the holds are other than before. -/
def OnlyHolds (db db' : Db) : Prop := ∃ holds, db' = { db with holds := holds }

/-- Only the carts were written, if anything. -/
theorem OnlyHolds.refl (db : Db) : OnlyHolds db db := ⟨db.holds, rfl⟩

/-- A request that writes only carts commits only carts. -/
theorem OnlyHolds.commit {α : Type} {s : State} {r : Result α}
    (h : ∀ db' a, r = .ok (db', a) → OnlyHolds s.db db') : OnlyHolds s.db (s.commit r).db :=
  commit_rule (p := OnlyHolds s.db) (.refl s.db) h

/-- **An operation on carts** writes holds and nothing else. -/
theorem exec_carts {op : Op} (h : op.OnCarts) (s : State) : OnlyHolds s.db (exec op s).db := by
  cases op with
  | advance d => exact .refl s.db
  -- A success has replaced the cart of the session, a failure has changed nothing.
  | setGaHold organization performance sessionKey priceTier quantity =>
    simp only [exec]
    split
    · refine .commit fun _ _ h => ?_
      rcases setGaHold_ok h with rfl | ⟨_, _, -, -, -, rfl⟩ <;> exact ⟨_, rfl⟩
    · exact .refl s.db
  | setReservedHold organization performance sessionKey seatIds =>
    simp only [exec]
    split
    · refine .commit fun _ _ h => ?_
      rcases setReservedHold_ok h with rfl | ⟨_, -, -, -, rfl⟩ <;> exact ⟨_, rfl⟩
    · exact .refl s.db
  | releaseHold => exact ⟨_, rfl⟩
  | releaseHoldById organization sessionKey holdId =>
    simp only [exec, releaseHoldById]
    split_ifs
    · exact .refl s.db
    · exact ⟨_, rfl⟩
  | releaseExpiredHolds => exact ⟨_, rfl⟩
  | applyPromoCode organization sessionKey holdId code =>
    simp only [exec]
    refine .commit fun _ _ h => ?_
    obtain ⟨_, _, -, -, -, rfl⟩ := applyPromoCode_ok h
    exact ⟨_, rfl⟩
  -- Edits rewrite one row of the carts.
  | removePromoCode organization sessionKey holdId =>
    simp only [exec]
    rcases @removePromoCode_eq s.db organization sessionKey holdId with h | ⟨_, -, h⟩ <;> rw [h]
    · exact .refl s.db
    · exact ⟨_, rfl⟩
  | setHoldDonation organization sessionKey holdId amount campaign =>
    simp only [exec]
    refine .commit fun _ _ h => ?_
    obtain ⟨_, _, -, -, -, -, rfl⟩ := setHoldDonation_ok h
    exact ⟨_, rfl⟩
  | clearHoldDonation organization sessionKey holdId =>
    simp only [exec]
    rcases @clearHoldDonation_eq s.db organization sessionKey holdId with h | ⟨_, -, h⟩ <;> rw [h]
    · exact .refl s.db
    · exact ⟨_, rfl⟩
  | _ => exact h.elim

/-- Writing only carts is no sale. -/
theorem OnlyHolds.sale {db db' : Db} {now : Time} {op : Op} (h : OnlyHolds db db') :
    SaleEffect db now op db' := by
  obtain ⟨holds, rfl⟩ := h
  exact .none ⟨rfl, rfl, rfl, rfl, rfl, rfl⟩

/-! ### All operations -/

/-- **What an operation does to the sales.** -/
theorem exec_sale (op : Op) (s : State) : SaleEffect s.db s.now op (exec op s).db := by
  cases op with
  | fulfillHold hold args =>
    simp only [exec]
    exact commit_sale fun _ _ h => .hold hold args _ trivial rfl h
  | fulfillHoldWithPass hold passPurchase buyerEmail buyerName marketingOptIn =>
    simp only [exec]
    exact commit_sale fun _ _ h => .withPass hold passPurchase buyerEmail buyerName _ _ trivial h
  | fulfillDonation organization amount campaign args =>
    simp only [exec]
    exact commit_sale fun _ _ h => .donation organization amount campaign args _ rfl h
  | fulfillPassPurchase organization product args =>
    simp only [exec]
    split
    · exact commit_sale fun _ _ h => .passSale organization _ args _ rfl h
    · exact .none (.refl s.db)
  | fulfillCheckoutSession organization session =>
    simp only [exec]
    refine commit_sale fun db' a h => ?_
    -- A session sells what it was opened for, or has sold it before.
    rcases (@fulfillCheckoutSession_ok _ _ _ _ _ a.1 a.2) h with
      ⟨-, target, -, hbody⟩ | ⟨-, rfl, -⟩
    · cases target with
      | hold hold => exact .hold hold (sessionArgs session) _ trivial rfl hbody
      | donation amount campaign =>
        exact .donation organization amount campaign (sessionArgs session) _ rfl hbody
      | pass product => exact .passSale organization product (sessionArgs session) _ rfl hbody
    · exact .none (.refl s.db)
  | voidOrder order =>
    simp only [exec]
    split
    · rename_i o ho
      obtain ⟨hmem, rfl⟩ := Table.get?_eq_some.mp ho
      exact .void o rfl hmem rfl
    · exact .none (.refl s.db)
  | refundOrder order gateway =>
    simp only [exec]
    exact commit_sale fun _ performed h => .refund order gateway performed h
  | orderCancel order =>
    simp only [exec]
    split
    · rename_i o ho
      obtain ⟨hmem, rfl⟩ := Table.get?_eq_some.mp ho
      exact .cancel o rfl hmem rfl
    · exact .none (.refl s.db)
  | _ => exact OnlyHolds.sale (exec_carts (by trivial) s)

end BoxOffice
