import BoxOffice.System

namespace BoxOffice

open Relational Transition

/-!
# Inventory — what an operation can do

`Effect` lists what an operation can do to holds, tickets and allocations, with everything it
has checked before it does so.  `exec_effect` proves that this is all any admissible operation
does, so that the invariants of the later modules are proved once per effect and not once per
operation.
-/

/-- Every order row is still there, with its performance. -/
def OrdersKept (db db' : Db) : Prop :=
  ∀ o ∈ db.orders.rows, ∃ o' ∈ db'.orders.rows, o'.id = o.id ∧ o'.performance = o.performance

/-- What an operation can do to holds, tickets and allocations. -/
inductive Effect (now : Time) (db db' : Db) : Prop
  /-- Holds are deleted. -/
  | released (p : Hold → Bool) : db' = { db with holds := db.holds.delete p } →
      Effect now db db'
  /-- The session's hold is replaced by general-admission places that fit. -/
  | replacedGa (organization : Nat) (performance : Performance) (sessionKey : String)
      (priceTier : PriceTier) (allocation : GAAllocation) (n : Nat) :
      performance ∈ db.performances.rows → performance.organization = organization →
      allocationOf db performance.id = some allocation → 0 < n →
      allocation.sold + activeGaHeldQty db.holds now performance.id (some sessionKey) + n
        ≤ allocation.capacity →
      db' = (replaceSessionHold db organization performance.id sessionKey
        (newGaHold now organization performance sessionKey priceTier n)).1 → Effect now db db'
  /-- The session's hold is replaced by selectable seats. -/
  | replacedReserved (organization : Nat) (performance : Performance) (sessionKey : String)
      (seats : List Seat) :
      performance ∈ db.performances.rows → performance.organization = organization →
      (seats.map (·.id)).Nodup → seats ≠ [] →
      (∀ s ∈ seats, Selectable db now organization performance sessionKey s) →
      db' = (replaceSessionHold db organization performance.id sessionKey
        (newReservedHold now organization performance sessionKey
          (seats.map (newHoldSeat db performance)))).1 → Effect now db db'
  /-- The promo or donation columns of a hold are rewritten. -/
  | edited (id : Nat) (f : Hold → Hold) (hf : ∀ h, (f h).id = h.id) : CartEdit f →
      (∀ h ∈ db.holds.rows, h.id = id → MoneyEdit db h (f h)) →
      db' = editHold db id f hf → Effect now db db'
  /-- An active hold is sold. -/
  | sold (hold row : Hold) (order : Order) : row ∈ db.holds.rows → Hold.SameCart hold row →
      hold.Active now → Sold db db' hold order → Effect now db db'
  /-- The tickets of an order are voided. -/
  | voided (order : Order) : order ∈ db.orders.rows →
      db'.tickets = voidedTickets db.tickets order.id →
      db'.gaAllocations = voidedAllocations db order → db'.holds = db.holds →
      db'.performances = db.performances → OrdersKept db db' → Effect now db db'
  /-- The inventory is untouched. -/
  | aside : db'.tickets = db.tickets → db'.gaAllocations = db.gaAllocations →
      db'.holds = db.holds → db'.performances = db.performances → OrdersKept db db' →
      Effect now db db'

/-- The orders are kept while nothing happens. -/
theorem OrdersKept.refl (db : Db) : OrdersKept db db := fun o ho => ⟨o, ho, rfl, rfl⟩

/-- Orders that are still there are kept. -/
theorem OrdersKept.of_subset {db db' : Db} (h : ∀ o ∈ db.orders.rows, o ∈ db'.orders.rows) :
    OrdersKept db db' :=
  fun o ho => ⟨o, h o ho, rfl, rfl⟩

/-- A new status keeps the orders. -/
theorem OrdersKept.setStatus {db db' : Db} {order : Nat} {status : OrderStatus}
    (h : db'.orders = setOrderStatus db.orders order status) : OrdersKept db db' := by
  intro o ho
  refine ⟨if o.id == order then { o with status := status } else o, ?_, ?_, ?_⟩
  · rw [h]
    exact Table.mem_update.mpr ⟨o, ho, rfl⟩
  · split <;> rfl
  · split <;> rfl

/-- Nothing happened. -/
theorem Effect.same {now : Time} (db : Db) : Effect now db db :=
  .aside rfl rfl rfl rfl (.refl db)

/-- A commit has the effect that every successful result has. -/
theorem commit_effect {α : Type} {s : State} {r : Result α}
    (h : ∀ db' a, r = .ok (db', a) → Effect s.now s.db db') :
    Effect s.now s.db (s.commit r).db :=
  commit_rule (p := Effect s.now s.db) (.same s.db) h

section Effects

variable {db db' : Db} {now : Time} {order : Order}

/-- What holding places does to the inventory. -/
theorem setGaHold_effect {organization n : Nat} {sessionKey : String} {priceTier : PriceTier}
    {quantity : Option Int} {result : Option Hold} {performance : Performance}
    (hp : findPerformance db organization n = some performance)
    (h : setGaHold db now organization performance sessionKey priceTier quantity
      = .ok (db', result)) : Effect now db db' := by
  obtain ⟨hmem, horg⟩ := findPerformance_some hp
  rcases setGaHold_ok h with rfl | ⟨allocation, n, hall, hn, hfit, rfl⟩
  · exact .released _ rfl
  · exact .replacedGa organization performance sessionKey priceTier allocation n hmem horg hall
      hn hfit rfl

/-- What holding seats does to it. -/
theorem setReservedHold_effect {organization n : Nat} {sessionKey : String}
    {seatIds : List Nat} {result : Option Hold} {performance : Performance}
    (hp : findPerformance db organization n = some performance)
    (h : setReservedHold db now organization performance sessionKey seatIds
      = .ok (db', result)) : Effect now db db' := by
  obtain ⟨hmem, horg⟩ := findPerformance_some hp
  rcases setReservedHold_ok h with rfl | ⟨seats, hnd, hne, hsel, rfl⟩
  · exact .released _ rfl
  · exact .replacedReserved organization performance sessionKey seats hmem horg hnd hne hsel rfl

/-- What the sale of a cart does to it. -/
theorem fulfillHold_effect {hold : Hold} {args : FulfillArgs} (hrow : HoldExists db hold)
    (h : fulfillHold db now hold args = .ok (db', order)) : Effect now db db' := by
  obtain ⟨row, hmem, hsame⟩ := hrow
  obtain ⟨_, _, _, hactive, _⟩ := fulfillHold_ok h
  exact .sold hold row order hmem hsame hactive (fulfillHold_sold h)

/-- What a redemption does to it. -/
theorem fulfillHoldWithPass_effect {hold : Hold} {passPurchase : Nat}
    {buyerEmail buyerName : String} {marketingOptIn : Bool} (hrow : HoldExists db hold)
    (h : fulfillHoldWithPass db now hold passPurchase buyerEmail buyerName marketingOptIn
      = .ok (db', order)) : Effect now db db' := by
  obtain ⟨row, hmem, hsame⟩ := hrow
  obtain ⟨_, _, _, _, hactive, _⟩ := fulfillHoldWithPass_ok h
  exact .sold hold row order hmem hsame hactive (fulfillHoldWithPass_sold h)

/-- What a donation does to it. -/
theorem fulfillDonation_effect {organization : Nat} {amount : Cents} {campaign : Option Nat}
    {args : FulfillArgs}
    (h : fulfillDonation db now organization amount campaign args = .ok (db', order)) :
    Effect now db db' := by
  obtain ⟨_, _, _, _, _, rfl⟩ := fulfillDonation_ok h
  exact .aside rfl rfl rfl rfl (.of_subset fun _ ho => List.mem_append_left _ ho)

/-- What the sale of a pass does to it. -/
theorem fulfillPassPurchase_effect {organization : Nat} {product : PassProduct}
    {args : FulfillArgs}
    (h : fulfillPassPurchase db now organization product args = .ok (db', order)) :
    Effect now db db' := by
  obtain ⟨_, _, _, _, _, _, rfl⟩ := fulfillPassPurchase_ok h
  exact .aside rfl rfl rfl rfl (.of_subset fun _ ho => List.mem_append_left _ ho)

/-- Fulfilling a completed session sells the stored hold it names, records a gift or a pass,
    or finds the order of an earlier delivery. -/
theorem fulfillCheckoutSession_effect {organization : Nat} {session : CheckoutSession}
    {created : Bool}
    (h : fulfillCheckoutSession db now organization session = .ok (db', order, created)) :
    Effect now db db' := by
  rcases fulfillCheckoutSession_ok h with ⟨-, target, ht, hb⟩ | ⟨-, rfl, -⟩
  · cases target with
    | hold hold =>
      exact fulfillHold_effect ⟨hold, (readTarget_hold ht).1, ⟨rfl, rfl, rfl, rfl, rfl, rfl⟩⟩ hb
    | donation amount campaign => exact fulfillDonation_effect hb
    | pass product => exact fulfillPassPurchase_effect hb
  · exact .same _

/-- What voiding an order does to it. -/
theorem voidOrder_effect (ho : order ∈ db.orders.rows) :
    Effect now db (voidOrder db order).1 := by
  rw [voidOrder_fst]
  exact .voided order ho rfl rfl rfl rfl (.of_subset fun _ h => h)

/-- What a refund does to it. -/
theorem refundOrder_effect {id : Nat} {gateway : Except String String} {performed : Bool}
    (h : refundOrder db id gateway = .ok (db', performed)) : Effect now db db' := by
  obtain ⟨o, ho, ⟨-, rfl, -⟩ | ⟨-, -, -, provider, refundRef, rfl⟩⟩ := refundOrder_ok h
  · exact .same _
  · rw [refundedDb_eq]
    exact .voided o (Table.get?_mem ho) rfl rfl rfl rfl (.setStatus rfl)

/-- What a cancellation does to it. -/
theorem orderCancel_effect (ho : order ∈ db.orders.rows) :
    Effect now db (orderCancel db order) := by
  unfold orderCancel
  by_cases hdone : order.status = .cancelled ∨ order.status = .refunded
  · rw [if_pos hdone]; exact .same db
  · rw [if_neg hdone, undoOrder_eq]
    exact .voided order ho rfl rfl rfl rfl (.setStatus rfl)

/-- Removing a code does nothing to it. -/
theorem removePromoCode_effect {organization : Nat} {sessionKey : String}
    {holdId : Option Nat} :
    Effect now db (removePromoCode db organization sessionKey holdId) := by
  rcases (@removePromoCode_eq db organization sessionKey holdId) with h | ⟨hold, -, h⟩
  · rw [h]; exact .same db
  · exact .edited hold.id _ _ (setPromo_cartEdit _ _ _)
      (fun k _ _ => setPromo_none_moneyEdit db k) h

/-- Nor does clearing a gift. -/
theorem clearHoldDonation_effect {organization : Nat} {sessionKey : String}
    {holdId : Option Nat} :
    Effect now db (clearHoldDonation db organization sessionKey holdId) := by
  rcases (@clearHoldDonation_eq db organization sessionKey holdId) with h | ⟨hold, -, h⟩
  · rw [h]; exact .same db
  · exact .edited hold.id _ _ (setDonation_cartEdit _ _)
      (fun k _ _ => setDonation_moneyEdit db k none fun _ ha => by cases ha) h

end Effects

/-- **Effects.** This is everything an admissible operation can do to the inventory. -/
theorem exec_effect {s : State} {op : Op} (ha : Admissible s op) :
    Effect s.now s.db (exec op s).db := by
  cases op with
  | advance d => exact .same s.db
  | setGaHold organization performance sessionKey priceTier quantity =>
    simp only [exec]
    cases hp : findPerformance s.db organization performance with
    | none => exact .same s.db
    | some p =>
      cases s.db.priceTiers.get? priceTier with
      | none => exact .same s.db
      | some t => exact commit_effect fun _ _ hr => setGaHold_effect hp hr
  | setReservedHold organization performance sessionKey seatIds =>
    simp only [exec]
    cases hp : findPerformance s.db organization performance with
    | none => exact .same s.db
    | some p => exact commit_effect fun _ _ hr => setReservedHold_effect hp hr
  | releaseHold organization performance sessionKey => exact .released _ rfl
  | releaseHoldById organization sessionKey holdId =>
    simp only [exec, releaseHoldById]
    by_cases h0 : holdId = 0
    · rw [if_pos h0]; exact .same s.db
    · rw [if_neg h0]; exact .released _ rfl
  | releaseExpiredHolds => exact .released _ rfl
  -- Edits of a cart keep what it holds, and its money within bounds.
  | applyPromoCode organization sessionKey holdId code =>
    simp only [exec]
    refine commit_effect fun db' _ hr => ?_
    obtain ⟨hold, promo, hfind, -, hlt, rfl⟩ := applyPromoCode_ok hr
    refine .edited hold.id _ _ (setPromo_cartEdit _ _ _) (fun k hk hid => ?_) rfl
    rw [Table.eq_of_key_eq hk (findActiveHold_some hfind).1 hid]
    exact setPromo_moneyEdit promo hlt
  | removePromoCode organization sessionKey holdId => exact removePromoCode_effect
  | setHoldDonation organization sessionKey holdId amount campaign =>
    simp only [exec]
    refine commit_effect fun db' _ hr => ?_
    obtain ⟨hold, gift, -, -, hpos, -, rfl⟩ := setHoldDonation_ok hr
    refine .edited hold.id _ _ (setDonation_cartEdit _ _) (fun k _ _ => ?_) rfl
    exact setDonation_moneyEdit s.db k _ fun a ha => Option.some.inj ha ▸ hpos
  | clearHoldDonation organization sessionKey holdId => exact clearHoldDonation_effect
  -- A fulfilment sells what its cart has held.
  | fulfillHold hold args =>
    simp only [exec]
    exact commit_effect fun _ _ hr => fulfillHold_effect ha hr
  | fulfillHoldWithPass hold passPurchase buyerEmail buyerName marketingOptIn =>
    simp only [exec]
    exact commit_effect fun _ _ hr => fulfillHoldWithPass_effect ha hr
  | fulfillDonation organization amount campaign args =>
    simp only [exec]
    exact commit_effect fun _ _ hr => fulfillDonation_effect hr
  | fulfillPassPurchase organization product args =>
    simp only [exec]
    cases findProduct s.db organization product with
    | none => exact .same s.db
    | some p => exact commit_effect fun _ _ hr => fulfillPassPurchase_effect hr
  | fulfillCheckoutSession organization session =>
    simp only [exec]
    exact commit_effect fun _ _ hr => fulfillCheckoutSession_effect hr
  -- What is undone is voided, and no cart is made of it.
  | voidOrder order =>
    simp only [exec]
    cases ho : s.db.orders.get? order with
    | none => exact .same s.db
    | some o => exact voidOrder_effect (Table.get?_mem ho)
  | refundOrder order gateway =>
    simp only [exec]
    exact commit_effect fun _ _ hr => refundOrder_effect hr
  | orderCancel order =>
    simp only [exec]
    cases ho : s.db.orders.get? order with
    | none => exact .same s.db
    | some o => exact orderCancel_effect (Table.get?_mem ho)

end BoxOffice
