import BoxOffice.Payments.CheckoutSession
import BoxOffice.Payments.Refund
import BoxOffice.Transition.Run

namespace BoxOffice

open Relational Transition

/-!
# System — the box office as a transition system

A state is the database and the clock.  An `Op` is one serialized transaction of the program
together with the lookups of the view that calls it; `exec` runs it, and an exception leaves
the state as it was.

* `Admissible` says what a run may ask for: a fulfilment is given a hold whose row still exists;
* `boxOffice` is the transition system of all runs from a fresh set-up.
-/

/-- The database and the clock. -/
structure State where
  db : Db
  now : Time

/-- One transaction. -/
inductive Op
  | advance (d : Nat)
  | setGaHold (organization performance : Nat) (sessionKey : String) (priceTier : Nat)
      (quantity : Int)
  | setReservedHold (organization performance : Nat) (sessionKey : String) (seatIds : List Nat)
  | releaseHold (organization performance : Nat) (sessionKey : String)
  | releaseHoldById (organization : Nat) (sessionKey : String) (holdId : Nat)
  | releaseExpiredHolds
  | applyPromoCode (organization : Nat) (sessionKey : String) (holdId : Option Nat)
      (code : String)
  | removePromoCode (organization : Nat) (sessionKey : String) (holdId : Option Nat)
  | setHoldDonation (organization : Nat) (sessionKey : String) (holdId : Option Nat)
      (amount : Option Cents) (campaign : Nat)
  | clearHoldDonation (organization : Nat) (sessionKey : String) (holdId : Option Nat)
  | fulfillHold (hold : Hold) (args : FulfillArgs)
  | fulfillHoldWithPass (hold : Hold) (passPurchase : Nat) (buyerEmail buyerName : String)
      (marketingOptIn : Bool)
  | fulfillDonation (organization : Nat) (amount : Cents) (campaign : Option Nat)
      (args : FulfillArgs)
  | fulfillPassPurchase (organization product : Nat) (args : FulfillArgs)
  | fulfillCheckoutSession (organization : Nat) (session : CheckoutSession)
  | voidOrder (order : Nat)
  | refundOrder (order : Nat) (gateway : Except String String)
  | orderCancel (order : Nat)

/-- Commit what a transaction returns, or roll back. -/
def State.commit {α : Type} (s : State) (r : Result α) : State :=
  match r with
  | .ok (db, _) => { s with db := db }
  | .error _ => s

/-- `get_object_or_404(Performance, organization=…, pk=…)`. -/
def findPerformance (db : Db) (organization performance : Nat) : Option Performance :=
  db.performances.rows.find? fun p => p.organization == organization && p.id == performance

/-- The performance that is found has the key. -/
theorem findPerformance_id {db : Db} {organization performance : Nat} {p : Performance}
    (h : findPerformance db organization performance = some p) : p.id = performance := by
  have hp := List.find?_some h
  simp only [Bool.and_eq_true, beq_iff_eq] at hp
  exact hp.2

/-- `get_object_or_404(PassProduct, organization=…, pk=…)`. -/
def findProduct (db : Db) (organization product : Nat) : Option PassProduct :=
  db.passProducts.rows.find? fun p => p.organization == organization && p.id == product

/-- Run one operation.  A lookup that fails is a 404 and changes nothing. -/
def exec (op : Op) (s : State) : State :=
  match op with
  | .advance d => { s with now := s.now + d }
  | .setGaHold organization performance sessionKey priceTier quantity =>
    match findPerformance s.db organization performance, s.db.priceTiers.get? priceTier with
    | some p, some t =>
      s.commit (setGaHold s.db s.now organization p sessionKey t (some quantity))
    | _, _ => s
  | .setReservedHold organization performance sessionKey seatIds =>
    match findPerformance s.db organization performance with
    | some p => s.commit (setReservedHold s.db s.now organization p sessionKey seatIds)
    | none => s
  | .releaseHold organization performance sessionKey =>
    { s with db := releaseHold s.db organization performance sessionKey }
  | .releaseHoldById organization sessionKey holdId =>
    { s with db := releaseHoldById s.db organization sessionKey holdId }
  | .releaseExpiredHolds => { s with db := releaseExpiredHolds s.db s.now }
  | .applyPromoCode organization sessionKey holdId code =>
    s.commit (applyPromoCode s.db s.now organization sessionKey holdId code)
  | .removePromoCode organization sessionKey holdId =>
    { s with db := removePromoCode s.db organization sessionKey holdId }
  | .setHoldDonation organization sessionKey holdId amount campaign =>
    s.commit (setHoldDonation s.db s.now organization sessionKey holdId amount campaign)
  | .clearHoldDonation organization sessionKey holdId =>
    { s with db := clearHoldDonation s.db organization sessionKey holdId }
  | .fulfillHold hold args => s.commit (fulfillHold s.db s.now hold args)
  | .fulfillHoldWithPass hold passPurchase buyerEmail buyerName marketingOptIn =>
    s.commit (fulfillHoldWithPass s.db s.now hold passPurchase buyerEmail buyerName
      marketingOptIn)
  | .fulfillDonation organization amount campaign args =>
    s.commit (fulfillDonation s.db s.now organization amount campaign args)
  | .fulfillPassPurchase organization product args =>
    match findProduct s.db organization product with
    | some p => s.commit (fulfillPassPurchase s.db s.now organization p args)
    | none => s
  | .fulfillCheckoutSession organization session =>
    s.commit (fulfillCheckoutSession s.db s.now organization session)
  | .voidOrder order =>
    match s.db.orders.get? order with
    | some o => { s with db := (voidOrder s.db o).1 }
    | none => s
  | .refundOrder order gateway => s.commit (refundOrder s.db order gateway)
  | .orderCancel order =>
    match s.db.orders.get? order with
    | some o => { s with db := orderCancel s.db o }
    | none => s

/-- The stored hold an object was read from still exists.  Promo and donation columns of the
    object may be out of date; the others are never rewritten. -/
def HoldExists (db : Db) (hold : Hold) : Prop := ∃ row ∈ db.holds.rows, Hold.SameCart hold row

/-- What a run may ask for. -/
def Admissible (s : State) : Op → Prop
  | .fulfillHold hold _ => HoldExists s.db hold
  | .fulfillHoldWithPass hold _ _ _ _ => HoldExists s.db hold
  | _ => True

/-- A freshly set up box office: performances, prices, codes, passes on sale and so on, but
    no cart, no order and nothing counted as sold. -/
structure Fresh (s : State) : Prop where
  holds : s.db.holds.rows = []
  orders : s.db.orders.rows = []
  orderItems : s.db.orderItems.rows = []
  tickets : s.db.tickets.rows = []
  payments : s.db.payments.rows = []
  passPurchases : s.db.passPurchases.rows = []
  passRedemptions : s.db.passRedemptions.rows = []
  sold : ∀ a ∈ s.db.gaAllocations.rows, a.sold = 0
  allocations : (s.db.gaAllocations.rows.map (·.performance)).Nodup

/-- The box office: any sequence of admissible operations from a fresh set-up. -/
def boxOffice : System State Op := .ofFun Fresh Admissible exec

/-- Running an admissible operation stays inside the reachable states. -/
theorem reachable_exec {s : State} {op : Op} (h : Reachable boxOffice s)
    (ha : Admissible s op) : Reachable boxOffice (exec op s) :=
  h.step ⟨ha, rfl⟩

/-- The performance that is found is stored, and the organization's. -/
theorem findPerformance_some {db : Db} {organization performance : Nat} {p : Performance}
    (h : findPerformance db organization performance = some p) :
    p ∈ db.performances.rows ∧ p.organization = organization := by
  have hp := List.find?_some h
  simp only [Bool.and_eq_true, beq_iff_eq] at hp
  exact ⟨List.mem_of_find?_eq_some h, hp.1⟩

/-- What holds of the database as it is, and of every one that the transaction returns, holds after
    the commit. -/
theorem commit_rule {α : Type} {p : Db → Prop} {s : State} {r : Result α} (hstay : p s.db)
    (hok : ∀ db' a, r = .ok (db', a) → p db') : p (s.commit r).db := by
  unfold State.commit
  cases r with
  | error e => exact hstay
  | ok q => exact hok q.1 q.2 rfl

/-- A commit takes no time. -/
theorem commit_now {α : Type} (s : State) (r : Result α) : (s.commit r).now = s.now := by
  cases r <;> rfl

/-- No operation turns the clock back. -/
theorem now_le_exec (op : Op) (s : State) : s.now ≤ (exec op s).now := by
  cases op with
  | advance d => exact Nat.le_add_right _ _
  | setGaHold organization performance sessionKey priceTier quantity =>
    simp only [exec]
    split
    · rw [commit_now]
    · exact le_refl _
  | setReservedHold organization performance sessionKey seatIds =>
    simp only [exec]
    split
    · rw [commit_now]
    · exact le_refl _
  | fulfillPassPurchase organization product args =>
    simp only [exec]
    split
    · rw [commit_now]
    · exact le_refl _
  | voidOrder order => simp only [exec]; split <;> exact le_refl _
  | orderCancel order => simp only [exec]; split <;> exact le_refl _
  | applyPromoCode => simp only [exec, commit_now, le_refl]
  | setHoldDonation => simp only [exec, commit_now, le_refl]
  | fulfillHold => simp only [exec, commit_now, le_refl]
  | fulfillHoldWithPass => simp only [exec, commit_now, le_refl]
  | fulfillDonation => simp only [exec, commit_now, le_refl]
  | fulfillCheckoutSession => simp only [exec, commit_now, le_refl]
  | refundOrder => simp only [exec, commit_now, le_refl]
  | releaseHold => exact le_refl _
  | releaseHoldById => exact le_refl _
  | releaseExpiredHolds => exact le_refl _
  | removePromoCode => exact le_refl _
  | clearHoldDonation => exact le_refl _

/-! ### A sample set-up

One theater with one performance that sells two general-admission places and one reserved
seat, a fund and a flex pass; the concrete runs of the later modules start here. -/

/-- A section of one seat. -/
def sampleParams : SectionParams where
  originX := 0
  originY := 0
  rotation := 0
  seatPitch := 1
  rowPitch := 1
  rowXOffset := 0
  offsetMode := .repeated
  altRowSeatDelta := 0
  arcRadius := none
  pivotMode := .center
  pivotX := 0
  pivotY := 0
  rows := 1
  seatsPerRow := 1
  removedSeats := []
  accessibleSeats := []
  numberingScheme := .sequential
  rowLabelScheme := .skipIo
  rowLabelStart := 0

/-- A flex pass may have four credits. -/
theorem fourCredits : (PassKind.flex = .flex ∧ ∃ n ∈ some 4, 0 < n) ∨
    (PassKind.flex = .season ∧ (some 4 : Option Nat) = none) :=
  .inl ⟨rfl, 4, rfl, by decide⟩

/-- The sample database; every row has key `1`, except the tier of the section, `2`. -/
def sampleDb : Db :=
  { Db.empty with
    organizations := Table.empty.insert fun id =>
      Organization.mk id "Playhouse" "USD" "acct_1" true none
    venues := Table.empty.insert fun id => Venue.mk id 1 "Main house" "UTC"
    seatingCharts := Table.empty.insert fun id => SeatingChart.mk id 1 1 "House"
    sections := Table.empty.insert fun id => Section.mk id 1 1 "Stalls" 0 "" sampleParams
    seats := Table.empty.insert fun id => Seat.mk id 1 1 "A" "1" 0 0 false
    events := Table.empty.insert fun id => Event.mk id 1 "Hamlet"
    performances := Table.empty.insert fun id => Performance.mk id 1 1 1 5000 .ga .published (some 1)
    priceTiers := (Table.empty.insert fun id =>
      PriceTier.mk id 1 "General" 2000 "USD" (some 1) none (by simp)).insert fun id =>
      PriceTier.mk id 1 "Stalls" 3000 "USD" none (some 1) (by simp)
    gaAllocations := Table.empty.insert fun id => GAAllocation.mk id 1 1 2 0
    donationCampaigns := Table.empty.insert fun id => DonationCampaign.mk id 1 "General Fund" true
    passProducts := Table.empty.insert fun id =>
      PassProduct.mk id 1 "Four shows" .flex 6000 (some 4) none none [] true
        fourCredits }

/-- The sample state, at time zero. -/
def sampleState : State := ⟨sampleDb, 0⟩

/-- The sample state is fresh. -/
theorem sampleState_fresh : Fresh sampleState where
  holds := rfl
  orders := rfl
  orderItems := rfl
  tickets := rfl
  payments := rfl
  passPurchases := rfl
  passRedemptions := rfl
  sold := by decide
  allocations := by decide

/-- The sample theater with a second performance on the chart. -/
def twoNights : Db :=
  { sampleDb with performances := sampleDb.performances.insert fun id =>
      Performance.mk id 1 1 1 6000 .reserved .published (some 1) }

/-- The second performance. -/
def secondNight : Performance := ⟨2, 1, 1, 1, 6000, .reserved, .published, some 1⟩

/-- The seat. -/
def stallsSeat : Seat := ⟨1, 1, 1, "A", "1", 0, 0, false⟩

/-- The theater with two nights is fresh. -/
theorem twoNights_fresh : Fresh ⟨twoNights, 0⟩ where
  holds := rfl
  orders := rfl
  orderItems := rfl
  tickets := rfl
  payments := rfl
  passPurchases := rfl
  passRedemptions := rfl
  sold := by decide
  allocations := by decide

/-- A buyer. -/
def sampleArgs : FulfillArgs where
  buyerEmail := "ada@example.com"
  buyerName := "Ada"
  paymentRef := "pi_1"
  provider := .stripe
  stripeCheckoutSessionId := some "cs_1"
  marketingOptIn := false

/-- The sample state after the session `a` holds one place and the session `b` the seat. -/
def sampleCarts : State :=
  exec (.setReservedHold 1 1 "b" [1]) (exec (.setGaHold 1 1 "a" 1 1) sampleState)

/-- The sample carts are reachable. -/
theorem sampleCarts_reachable : Reachable boxOffice sampleCarts := by
  unfold sampleCarts
  exact reachable_exec (reachable_exec (.of_init sampleState_fresh) trivial) trivial

example : sampleCarts.db.holds.rows.map (fun h => (h.sessionKey, h.gaQuantity, h.holdSeats.length))
    = [("a", 1, 0), ("b", 0, 1)] := by decide

end BoxOffice
