import BoxOffice.Inventory.SeatMap
import BoxOffice.Payments.Sales
import BoxOffice.Relational.Deleting
import BoxOffice.Transition.Collect

namespace BoxOffice

open Relational Transition

/-!
# Orders — the sweeper leaves no trace

`release_expired_holds` runs every minute, or late, or never: nobody can tell.

* `Op.answer` is what the caller of an operation gets back;
* `…_swept` — every function of the carts and the payments does the same with and without the
  carts that have expired;
* `sweeper` is the clean-up, as a `Collector`;
* `sweeper_invisible` — runs that differ in their sweeps give the same answers, and the pages
  show the same from then on.
-/

/-- What the caller of an operation gets back. -/
inductive Reply
  | done
  | hold (hold : Option Hold)
  | order (order : Order)
  | checkout (order : Order) (created : Bool)
  | voided (tickets : Nat)
  | refunded (performed : Bool)
  | notFound
deriving DecidableEq

/-- The value of a transaction, or its exception. -/
def replied {α : Type} (reply : α → Reply) (r : Result α) : Except ServiceError Reply :=
  r.map fun q => reply q.2

/-- The answer to an operation. -/
def Op.answer (op : Op) (s : State) : Except ServiceError Reply :=
  match op with
  | .advance _ => .ok .done
  | .setGaHold organization performance sessionKey priceTier quantity =>
    match findPerformance s.db organization performance, s.db.priceTiers.get? priceTier with
    | some p, some t =>
      replied .hold (BoxOffice.setGaHold s.db s.now organization p sessionKey t (some quantity))
    | _, _ => .ok .notFound
  | .setReservedHold organization performance sessionKey seatIds =>
    match findPerformance s.db organization performance with
    | some p =>
      replied .hold (BoxOffice.setReservedHold s.db s.now organization p sessionKey seatIds)
    | none => .ok .notFound
  | .releaseHold .. | .releaseHoldById .. | .releaseExpiredHolds | .removePromoCode ..
  | .clearHoldDonation .. => .ok .done
  | .applyPromoCode organization sessionKey holdId code =>
    replied (fun _ => .done)
      (BoxOffice.applyPromoCode s.db s.now organization sessionKey holdId code)
  | .setHoldDonation organization sessionKey holdId amount campaign =>
    replied (fun _ => .done)
      (BoxOffice.setHoldDonation s.db s.now organization sessionKey holdId amount campaign)
  | .fulfillHold hold args => replied .order (BoxOffice.fulfillHold s.db s.now hold args)
  | .fulfillHoldWithPass hold passPurchase buyerEmail buyerName marketingOptIn =>
    replied .order (BoxOffice.fulfillHoldWithPass s.db s.now hold passPurchase buyerEmail buyerName
      marketingOptIn)
  | .fulfillDonation organization amount campaign args =>
    replied .order (BoxOffice.fulfillDonation s.db s.now organization amount campaign args)
  | .fulfillPassPurchase organization product args =>
    match findProduct s.db organization product with
    | some p => replied .order (BoxOffice.fulfillPassPurchase s.db s.now organization p args)
    | none => .ok .notFound
  | .fulfillCheckoutSession organization session =>
    replied (fun r => .checkout r.1 r.2)
      (BoxOffice.fulfillCheckoutSession s.db s.now organization session)
  | .voidOrder order =>
    match s.db.orders.get? order with
    | some o => .ok (.voided (BoxOffice.voidOrder s.db o).2)
    | none => .ok .notFound
  | .refundOrder order gateway =>
    replied .refunded (BoxOffice.refundOrder s.db order gateway)
  | .orderCancel order =>
    match s.db.orders.get? order with
    | some _ => .ok .done
    | none => .ok .notFound

/-- `cart_item_count`, the number on the cart badge. -/
def cartItemCount (db : Db) (now : Time) (organization : Nat) (sessionKey : String) : Nat :=
  if sessionKey = "" then 0
  else
    let holds := db.holds.rows.filter fun h =>
      h.organization == organization && h.sessionKey == sessionKey && decide (h.Active now)
    (holds.map Hold.gaQuantity).sum + (holds.map fun h => h.holdSeats.length).sum

/-! ### Functions of the database without its expired carts -/

/-- Clean up the database a transaction returns. -/
def sweptResult {α : Type} (now : Time) (r : Result α) : Result α :=
  r.map (Prod.map (releaseExpiredHolds · now) id)

section Reads

variable {db : Db} {now : Time} {organization : Nat} {sessionKey : String} {hold : Hold}

/-- Sweeping twice is sweeping later. -/
theorem releaseExpiredHolds_idem {now' : Time} (h : now ≤ now') :
    releaseExpiredHolds (releaseExpiredHolds db now) now' = releaseExpiredHolds db now' := by
  have hholds : (db.holds.delete fun h => decide (h.expiresAt ≤ now)).delete
      (fun h => decide (h.expiresAt ≤ now')) = db.holds.delete fun h => decide (h.expiresAt ≤ now') :=
    Table.delete_delete_of_imp fun r hr => decide_eq_true ((of_decide_eq_true hr).trans h)
  unfold releaseExpiredHolds
  rw [hholds]

/-- What looks at live carts only passes over the swept ones. -/
theorem not_active_of_swept {h : Hold} (hp : decide (h.expiresAt ≤ now) = true) :
    ¬h.Active now := not_lt.mpr (of_decide_eq_true hp)

/-- Sweeping leaves the places that others hold. -/
theorem activeGaHeldQty_swept (performance : Nat) (exclude : Option String) :
    activeGaHeldQty (releaseExpiredHolds db now).holds now performance exclude
      = activeGaHeldQty db.holds now performance exclude :=
  Table.total_delete_of_zero fun _ _ hp => if_neg fun h => not_active_of_swept hp h.2.1

/-- Sweeping leaves the seats that others hold. -/
theorem isHeldByOthers_swept (seat : Nat) :
    isHeldByOthers (releaseExpiredHolds db now) now sessionKey seat
      = isHeldByOthers db now sessionKey seat :=
  Table.any_delete fun _ _ hp => by
    rw [decide_eq_false (not_active_of_swept hp)]
    rfl

/-- Sweeping leaves the tickets. -/
theorem isTicketed_swept (performance seat : Nat) :
    isTicketed (releaseExpiredHolds db now) performance seat = isTicketed db performance seat := rfl

/-- Sweeping leaves the blocks. -/
theorem isBlocked_swept (performance seat : Nat) :
    isBlocked (releaseExpiredHolds db now) performance seat = isBlocked db performance seat := rfl

/-- Sweeping leaves the active holds to be found. -/
theorem findActiveHold_swept (holdId : Option Nat) :
    findActiveHold (releaseExpiredHolds db now) now organization sessionKey holdId
      = findActiveHold db now organization sessionKey holdId :=
  Table.find?_delete fun _ _ hp => by
    rw [decide_eq_false (not_active_of_swept hp), Bool.and_false]

/-- Sweeping leaves the active holds of a seat. -/
theorem activeSeatHolds_swept (performance seat : Nat) :
    activeSeatHolds (releaseExpiredHolds db now) now performance seat
      = activeSeatHolds db now performance seat :=
  Table.filter_delete_of_mem fun _ _ hp => by
    rw [decide_eq_false (not_active_of_swept hp), Bool.and_false, Bool.false_and]

/-- A live stored cart is there after the sweep. -/
theorem get?_swept (hactive : hold.Active now) (hrow : HoldExists db hold) :
    (releaseExpiredHolds db now).holds.get? hold.id = db.holds.get? hold.id := by
  obtain ⟨row, hmem, hsame⟩ := hrow
  refine Table.get?_delete fun r hr hid => ?_
  rw [Table.eq_of_key_eq hr hmem (hid.trans hsame.1)]
  exact decide_eq_false (not_le.mpr (hactive.trans_eq hsame.2.2.2.2.1))

/-- An active hold is there after a sweep if it was before. -/
theorem holdExists_swept (hactive : hold.Active now) :
    HoldExists (releaseExpiredHolds db now) hold ↔ HoldExists db hold := by
  constructor
  · rintro ⟨row, hmem, hsame⟩
    exact ⟨row, (Table.mem_delete.mp hmem).1, hsame⟩
  · rintro ⟨row, hmem, hsame⟩
    exact ⟨row, Table.mem_delete.mpr ⟨hmem,
      decide_eq_false (not_le.mpr (hactive.trans_eq hsame.2.2.2.2.1))⟩, hsame⟩

end Reads

/-! ### Carts -/

section Carts

variable {db : Db} {now : Time} {organization performance : Nat} {sessionKey : String}

/-- Releasing a hold and sweeping commute. -/
theorem releaseHold_swept :
    releaseHold (releaseExpiredHolds db now) organization performance sessionKey
      = releaseExpiredHolds (releaseHold db organization performance sessionKey) now := by
  unfold releaseHold releaseExpiredHolds clearSessionHold
  rw [Table.delete_comm]

/-- So do releasing it by its key and sweeping. -/
theorem releaseHoldById_swept (holdId : Nat) :
    releaseHoldById (releaseExpiredHolds db now) organization sessionKey holdId
      = releaseExpiredHolds (releaseHoldById db organization sessionKey holdId) now := by
  unfold releaseHoldById
  split_ifs
  · rfl
  · unfold releaseExpiredHolds
    rw [Table.delete_comm]

/-- A cart that is put in a place is live. -/
theorem replaceSessionHold_swept {mk : Nat → Hold} {hk} (hnew : ∀ i, now < (mk i).expiresAt) :
    replaceSessionHold (releaseExpiredHolds db now) organization performance sessionKey mk hk
      = Prod.map (releaseExpiredHolds · now) id
          (replaceSessionHold db organization performance sessionKey mk hk) := by
  have hholds : (clearSessionHold (releaseExpiredHolds db now).holds organization performance
      sessionKey).insert mk hk
      = ((clearSessionHold db.holds organization performance sessionKey).insert mk hk).delete
          fun h => decide (h.expiresAt ≤ now) := by
    have hlive : decide ((mk (clearSessionHold db.holds organization performance
        sessionKey).nextId).expiresAt ≤ now) = false := decide_eq_false (not_le.mpr (hnew _))
    rw [Table.insert_delete hlive]
    unfold clearSessionHold releaseExpiredHolds
    rw [Table.delete_comm]
  unfold replaceSessionHold
  dsimp only [Prod.map, id]
  rw [hholds]
  rfl

/-- A new hold expires later. -/
theorem lt_defaultHoldExpiry (now : Time) : now < defaultHoldExpiry now := by
  unfold defaultHoldExpiry
  exact Nat.lt_add_of_pos_right (by decide)

/-- Holding places and sweeping commute. -/
theorem setGaHold_swept {p : Performance} {t : PriceTier} {quantity : Option Int} :
    setGaHold (releaseExpiredHolds db now) now organization p sessionKey t quantity
      = sweptResult now (setGaHold db now organization p sessionKey t quantity) := by
  unfold setGaHold
  rw [activeGaHeldQty_swept, releaseHold_swept]
  have halloc : allocationOf (releaseExpiredHolds db now) p.id = allocationOf db p.id := rfl
  rw [halloc]
  cases quantity with
  | none => rfl
  | some n =>
    dsimp only
    split_ifs
    · rfl
    · cases allocationOf db p.id with
      | none => rfl
      | some a =>
        dsimp only
        split_ifs
        · rfl
        · rfl
        · rw [replaceSessionHold_swept fun _ => lt_defaultHoldExpiry now]
          rfl

/-- Holding seats and sweeping commute. -/
theorem setReservedHold_swept {p : Performance} {seatIds : List Nat} :
    setReservedHold (releaseExpiredHolds db now) now organization p sessionKey seatIds
      = sweptResult now (setReservedHold db now organization p sessionKey seatIds) := by
  have hseats : ∀ l, requestedSeats (releaseExpiredHolds db now) organization p l
      = requestedSeats db organization p l := fun l => rfl
  have hprices : ∀ s, resolveReservedPrices (releaseExpiredHolds db now) p s
      = resolveReservedPrices db p s := fun s => rfl
  have hnew : newHoldSeat (releaseExpiredHolds db now) p = newHoldSeat db p := rfl
  unfold setReservedHold
  simp only [releaseHold_swept, isHeldByOthers_swept, isTicketed_swept, isBlocked_swept, hseats,
    hprices, hnew]
  split_ifs
  · rfl
  · rfl
  · rfl
  · rfl
  · rfl
  · rw [replaceSessionHold_swept fun _ => lt_defaultHoldExpiry now]
    rfl

/-- Edits of one cart, whose expiry stays. -/
theorem editHold_swept {id : Nat} {f : Hold → Hold} {hf} (hkeep : ∀ h, (f h).expiresAt = h.expiresAt) :
    editHold (releaseExpiredHolds db now) id f hf = releaseExpiredHolds (editHold db id f hf) now := by
  unfold editHold releaseExpiredHolds
  rw [Table.update_delete fun r => by rw [hkeep]]

/-- A row that the session's key finds is the only one. -/
theorem findHold_unique {holdId : Option Nat} {hold r : Hold}
    (hf : findHold db organization sessionKey holdId = some hold) (hr : r ∈ db.holds.rows)
    (hid : some r.id = holdId) : r = hold := by
  have hp := List.find?_some hf
  simp only [Bool.and_eq_true, beq_iff_eq] at hp
  exact Table.eq_of_key_eq hr (List.mem_of_find?_eq_some hf)
    (Option.some.inj (hid.trans hp.2.symm))

/-- An edit of the session's cart, live or not. -/
theorem editFound_swept (holdId : Option Nat) {f : Hold → Hold} {hf}
    (hkeep : ∀ h, (f h).expiresAt = h.expiresAt) :
    (match findHold (releaseExpiredHolds db now) organization sessionKey holdId with
      | none => releaseExpiredHolds db now
      | some hold => editHold (releaseExpiredHolds db now) hold.id f hf)
      = releaseExpiredHolds (match findHold db organization sessionKey holdId with
        | none => db
        | some hold => editHold db hold.id f hf) now := by
  cases hfound : findHold db organization sessionKey holdId with
  | none =>
    have hnone : findHold (releaseExpiredHolds db now) organization sessionKey holdId = none :=
      List.find?_eq_none.mpr fun r hr =>
        List.find?_eq_none.mp hfound r (Table.mem_delete.mp hr).1
    rw [hnone]
  | some hold =>
    by_cases hactive : hold.Active now
    -- The sweep leaves this cart and takes none that was found before it.
    · have hsome : findHold (releaseExpiredHolds db now) organization sessionKey holdId
          = some hold := by
        rw [← hfound]
        refine Table.find?_delete fun r hr hp => Bool.eq_false_iff.mpr fun hq => ?_
        rw [Bool.and_eq_true, beq_iff_eq] at hq
        obtain rfl := findHold_unique hfound hr hq.2
        exact not_active_of_swept hp hactive
      rw [hsome]
      exact editHold_swept hkeep
    · -- The sweep takes the cart, edited or not.
      have hgone : ∀ r ∈ (releaseExpiredHolds db now).holds.rows, r.id ≠ hold.id := by
        intro r hr hid
        obtain ⟨hmem, hlive⟩ := Table.mem_delete.mp hr
        obtain rfl := Table.eq_of_key_eq hmem (List.mem_of_find?_eq_some hfound) hid
        exact hactive (not_le.mp (of_decide_eq_false hlive))
      have hnone : findHold (releaseExpiredHolds db now) organization sessionKey holdId = none :=
        List.find?_eq_none.mpr fun r hr hq => by
          simp only [Bool.and_eq_true, beq_iff_eq] at hq
          have hsame := findHold_unique hfound (Table.mem_delete.mp hr).1 hq.2
          exact hgone r hr (by rw [hsame])
      rw [hnone]
      dsimp only
      rw [← editHold_swept hkeep]
      unfold editHold
      rw [Table.update_eq_self fun r hr => by rw [beq_eq_false_iff_ne]; exact hgone r hr]

/-- Removing a code and sweeping commute. -/
theorem removePromoCode_swept (holdId : Option Nat) :
    removePromoCode (releaseExpiredHolds db now) organization sessionKey holdId
      = releaseExpiredHolds (removePromoCode db organization sessionKey holdId) now :=
  editFound_swept holdId fun _ => rfl

/-- So do clearing a gift and sweeping. -/
theorem clearHoldDonation_swept (holdId : Option Nat) :
    clearHoldDonation (releaseExpiredHolds db now) organization sessionKey holdId
      = releaseExpiredHolds (clearHoldDonation db organization sessionKey holdId) now :=
  editFound_swept holdId fun _ => rfl

/-- Setting a gift and sweeping commute. -/
theorem setHoldDonation_swept (holdId : Option Nat) (amount : Option Cents) (campaign : Nat) :
    setHoldDonation (releaseExpiredHolds db now) now organization sessionKey holdId amount campaign
      = sweptResult now
          (setHoldDonation db now organization sessionKey holdId amount campaign) := by
  unfold setHoldDonation
  rw [findActiveHold_swept]
  cases findActiveHold db now organization sessionKey holdId with
  | none => rfl
  | some hold =>
    cases amount with
    | none => rfl
    | some amount =>
      dsimp only
      split_ifs
      · rfl
      · rfl
      · rw [@editHold_swept db now hold.id (Hold.setDonation (some amount) (some campaign))
          (fun _ => rfl) fun _ => rfl]
        rfl

end Carts

/-! ### A live cart, whatever else is in its table -/

/-- The database with other carts. -/
def Db.withHolds (db : Db) (holds : Table Hold) : Db := { db with holds := holds }

section Live

variable {db : Db} {now : Time} {hold : Hold} {holds : Table Hold} {order : Order}

/-- The seats of a hold depend on its row only. -/
theorem holdSeatsOf_withHolds (h : holds.get? hold.id = db.holds.get? hold.id) :
    holdSeatsOf (db.withHolds holds) hold = holdSeatsOf db hold := by
  unfold holdSeatsOf
  have hget : (db.withHolds holds).holds.get? hold.id = db.holds.get? hold.id := h
  rw [hget]

/-- So does its total. -/
theorem holdTotal_withHolds (h : holds.get? hold.id = db.holds.get? hold.id) :
    holdTotal (db.withHolds holds) hold = holdTotal db hold := by
  unfold holdTotal
  rw [holdSeatsOf_withHolds h]
  rfl

/-- So does its currency. -/
theorem holdCurrency_withHolds (h : holds.get? hold.id = db.holds.get? hold.id) :
    holdCurrency (db.withHolds holds) hold = holdCurrency db hold := by
  unfold holdCurrency
  rw [holdSeatsOf_withHolds h]
  rfl

/-- Minting seats does not look at the holds. -/
theorem mintSeats_withHolds (l : List HoldSeat) :
    mintSeats (db.withHolds holds) hold order l
      = (mintSeats db hold order l).map (·.withHolds holds) := by
  induction l generalizing db with
  | nil => rfl
  | cons hs rest ih =>
    unfold mintSeats mintSeat
    have hfree : isTicketed (db.withHolds holds) hold.performance hs.seat
        = isTicketed db hold.performance hs.seat := rfl
    rw [hfree]
    split_ifs
    · rfl
    · exact @ih { db with
        orderItems := db.orderItems.insert (ticketItem order (seatLine hs))
        tickets := db.tickets.insert (newTicket hold order (some hs.seat)) }

/-- Tickets are minted for the one cart. -/
theorem mintTickets_withHolds (h : holds.get? hold.id = db.holds.get? hold.id) :
    mintTickets (db.withHolds holds) hold order
      = (mintTickets db hold order).map (·.withHolds holds) := by
  -- Seats of the one cart, and tickets, which no cart has.
  have hreserved : fulfillReserved (db.withHolds holds) hold order
      = (fulfillReserved db hold order).map (·.withHolds holds) := by
    have hseats : orderedHoldSeats (db.withHolds holds) hold = orderedHoldSeats db hold := by
      unfold orderedHoldSeats
      rw [holdSeatsOf_withHolds h]
    have hfree : ∀ s, isTicketed (db.withHolds holds) hold.performance s
        = isTicketed db hold.performance s := fun s => rfl
    unfold fulfillReserved
    simp only [hseats, hfree]
    split_ifs
    · rfl
    · exact mintSeats_withHolds _
  have hga : ∀ g, fulfillGa (db.withHolds holds) hold g order
      = (fulfillGa db hold g order).map (·.withHolds holds) := by
    intro g
    unfold fulfillGa
    have halloc : allocationOf (db.withHolds holds) hold.performance
        = allocationOf db hold.performance := rfl
    rw [halloc]
    cases allocationOf db hold.performance with
    | none => rfl
    | some a =>
      dsimp only
      split_ifs <;> rfl
  unfold mintTickets
  cases hold.ga with
  | none => exact hreserved
  | some g =>
    dsimp only
    split_ifs
    · exact hga g
    · exact hreserved

/-- **`fulfill_hold`** looks at one cart, and takes it. -/
theorem fulfillHold_withHolds (h : holds.get? hold.id = db.holds.get? hold.id)
    (args : FulfillArgs) :
    fulfillHold (db.withHolds holds) now hold args
      = (fulfillHold db now hold args).map
          (Prod.map (·.withHolds (deleteHold holds hold)) id) := by
  -- Its total and its order depend on its own rows only.
  have htotal : holdGrandTotal (db.withHolds holds) hold = holdGrandTotal db hold := by
    unfold holdGrandTotal
    rw [holdTotal_withHolds h]
  have horder : holdOrder (db.withHolds holds) hold args = holdOrder db hold args := by
    unfold holdOrder
    rw [htotal]
  unfold fulfillHold
  simp only [htotal, horder]
  split_ifs
  · rfl
  · have hguests : (db.withHolds holds).guests = db.guests := rfl
    have horders : (db.withHolds holds).orders = db.orders := rfl
    rw [hguests, horders]
    rcases attachGuest db.guests hold.organization args.buyerEmail args.buyerName
      args.marketingOptIn now with ⟨guests, guest⟩
    dsimp only
    cases createOrder db.orders (holdOrder db hold args guest) with
    | error e => rfl
    | ok q =>
      dsimp only
      have hmint : mintTickets { db.withHolds holds with guests := guests, orders := q.1 } hold q.2
          = (mintTickets { db with guests := guests, orders := q.1 } hold q.2).map
              (·.withHolds holds) :=
        @mintTickets_withHolds { db with guests := guests, orders := q.1 } hold holds q.2 h
      rw [hmint]
      cases mintTickets { db with guests := guests, orders := q.1 } hold q.2 with
      | error e => rfl
      | ok db' => rfl

/-- **`fulfill_hold_with_pass`** looks at one cart, and takes it. -/
theorem fulfillHoldWithPass_withHolds (h : holds.get? hold.id = db.holds.get? hold.id)
    (passPurchase : Nat) (email name : String) (optIn : Bool) :
    fulfillHoldWithPass (db.withHolds holds) now hold passPurchase email name optIn
      = (fulfillHoldWithPass db now hold passPurchase email name optIn).map
          (Prod.map (·.withHolds (deleteHold holds hold)) id) := by
  -- Nothing that it reads of the carts is of another cart, and all other tables are the same.
  have hcount : ticketCount (db.withHolds holds) hold = ticketCount db hold := by
    unfold ticketCount
    rw [holdSeatsOf_withHolds h]
  have hcheck : ∀ p performance, checkPass (db.withHolds holds) now hold p performance
      = checkPass db now hold p performance := fun p performance => by
    have hused : (db.withHolds holds).passRedemptions = db.passRedemptions := rfl
    simp only [checkPass, hcount, hused]
  have hpasses : (db.withHolds holds).passPurchases = db.passPurchases := rfl
  have hperformances : (db.withHolds holds).performances = db.performances := rfl
  have hguests : (db.withHolds holds).guests = db.guests := rfl
  have hguest : ∀ p, redemptionGuest (db.withHolds holds) now hold p email name optIn
      = redemptionGuest db now hold p email name optIn := fun p => by
    simp only [redemptionGuest, hguests]
  have horders : (db.withHolds holds).orders = db.orders := rfl
  -- The same branches are taken on both sides, so they fail alike.
  cases hp : db.passPurchases.get? passPurchase with
  | none =>
    simp only [fulfillHoldWithPass, hpasses, hp]
    split_ifs <;> rfl
  | some p =>
    cases hperf : db.performances.get? hold.performance with
    | none =>
      simp only [fulfillHoldWithPass, hpasses, hperformances, hp, hperf]
      split_ifs <;> rfl
    | some performance =>
      rcases hg : redemptionGuest db now hold p email name optIn with ⟨guests, guest⟩
      simp only [fulfillHoldWithPass, hpasses, hperformances, hp, hperf, hcheck, hguest, hg,
        hcount, horders]
      split_ifs
      · rfl
      · rfl
      · rfl
      · cases checkPass db now hold p performance with
        | error e => rfl
        | ok u =>
          dsimp only
          cases createOrder db.orders (redemptionOrder hold email name guest) with
          | error e => rfl
          | ok q =>
            dsimp only
            -- The tickets are minted from the seats of the one cart.
            have hmint : mintTickets { db.withHolds holds with guests := guests, orders := q.1 }
                hold q.2
                = (mintTickets { db with guests := guests, orders := q.1 } hold q.2).map
                    (·.withHolds holds) :=
              @mintTickets_withHolds { db with guests := guests, orders := q.1 } hold holds q.2 h
            simp only [Db.withHolds] at hmint ⊢
            rw [hmint]
            cases mintTickets { db with guests := guests, orders := q.1 } hold q.2 with
            | error e => rfl
            | ok db' =>
              simp only [Except.map]
              cases createRedemptions p q.2 performance
                (db'.orderItems.rows.filter fun i => i.order == q.2.id) db'.passRedemptions
                (db'.tickets.rows.filter fun t => t.order == q.2.id) with
              | error e => rfl
              | ok redemptions => rfl

end Live

/-! ### Payments -/

section Payments

variable {db db' : Db} {now : Time} {organization : Nat} {hold : Hold} {args : FulfillArgs}

/-- Taking the cart and sweeping go in any order. -/
theorem withHolds_swept (h : db'.holds = deleteHold db.holds hold) :
    db'.withHolds (deleteHold (releaseExpiredHolds db now).holds hold)
      = releaseExpiredHolds db' now := by
  unfold Db.withHolds releaseExpiredHolds
  rw [h]
  unfold deleteHold
  dsimp only
  rw [Table.delete_comm]

/-- A cart that is no longer there was not live. -/
theorem fulfillHold_swept (hrow : hold.Active now → HoldExists db hold) :
    fulfillHold (releaseExpiredHolds db now) now hold args
      = sweptResult now (fulfillHold db now hold args) := by
  by_cases hactive : hold.Active now
  · refine (fulfillHold_withHolds (get?_swept hactive (hrow hactive)) args).trans ?_
    cases h : fulfillHold db now hold args with
    | error e => rfl
    | ok r =>
      exact congrArg (fun d => Except.ok (d, r.2)) (withHolds_swept (fulfillHold_sold h).holds)
  · unfold fulfillHold
    rw [if_pos (not_lt.mp hactive), if_pos (not_lt.mp hactive)]
    rfl

/-- A redemption and a sweep commute. -/
theorem fulfillHoldWithPass_swept (hrow : hold.Active now → HoldExists db hold)
    (passPurchase : Nat) (email name : String) (optIn : Bool) :
    fulfillHoldWithPass (releaseExpiredHolds db now) now hold passPurchase email name optIn
      = sweptResult now (fulfillHoldWithPass db now hold passPurchase email name optIn) := by
  by_cases hactive : hold.Active now
  · refine (fulfillHoldWithPass_withHolds (get?_swept hactive (hrow hactive)) passPurchase email
      name optIn).trans ?_
    cases h : fulfillHoldWithPass db now hold passPurchase email name optIn with
    | error e => rfl
    | ok r =>
      exact congrArg (fun d => Except.ok (d, r.2))
        (withHolds_swept (fulfillHoldWithPass_sold h).holds)
  · unfold fulfillHoldWithPass
    rw [if_pos (not_lt.mp hactive), if_pos (not_lt.mp hactive)]
    rfl

/-- A donation and a sweep commute. -/
theorem fulfillDonation_swept (amount : Cents) (campaign : Option Nat) :
    fulfillDonation (releaseExpiredHolds db now) now organization amount campaign args
      = sweptResult now (fulfillDonation db now organization amount campaign args) := by
  have hguests : (releaseExpiredHolds db now).guests = db.guests := rfl
  have horders : (releaseExpiredHolds db now).orders = db.orders := rfl
  rcases hg : attachGuest db.guests organization args.buyerEmail args.buyerName
    args.marketingOptIn now with ⟨guests, guest⟩
  simp only [fulfillDonation, hguests, horders, hg]
  cases createOrder db.orders (plainOrder organization args guest amount) with
  | error e => rfl
  | ok q => rfl

/-- The sale of a pass and a sweep commute. -/
theorem fulfillPassPurchase_swept (product : PassProduct) :
    fulfillPassPurchase (releaseExpiredHolds db now) now organization product args
      = sweptResult now (fulfillPassPurchase db now organization product args) := by
  have hguests : (releaseExpiredHolds db now).guests = db.guests := rfl
  have horders : (releaseExpiredHolds db now).orders = db.orders := rfl
  rcases hg : attachGuest db.guests organization args.buyerEmail args.buyerName
    args.marketingOptIn now with ⟨guests, guest⟩
  simp only [fulfillPassPurchase, hguests, horders, hg]
  split_ifs
  · rfl
  · cases createOrder db.orders (plainOrder organization args guest product.price) with
    | error e => rfl
    | ok q => rfl

/-- A hold session finds a live cart, or none. -/
theorem readTarget_swept (session : CheckoutSession) :
    readTarget (releaseExpiredHolds db now) now organization session
      = readTarget db now organization session := by
  have hcampaigns : (releaseExpiredHolds db now).donationCampaigns = db.donationCampaigns := rfl
  have hproducts : (releaseExpiredHolds db now).passProducts = db.passProducts := rfl
  unfold readTarget
  rw [hcampaigns, hproducts]
  -- Gifts and passes refer to no cart.
  split_ifs
  · rfl
  · cases session.kind with
    | donation amountText amount campaign => rfl
    | pass product => rfl
    | hold holdId =>
      cases holdId with
      | none => rfl
      | some i =>
        simp only [Option.bind_some]
        cases hf : db.holds.rows.find? fun r => r.organization == organization && r.id == i with
        | none =>
          have hnone : (releaseExpiredHolds db now).holds.rows.find?
              (fun r => r.organization == organization && r.id == i) = none :=
            List.find?_eq_none.mpr fun r hr =>
              List.find?_eq_none.mp hf r (Table.mem_delete.mp hr).1
          rw [hnone]
        | some hold =>
          -- Keys are unique, so there is one cart of that number: it is live, or it is swept and
          -- refused.
          have honly : ∀ r ∈ db.holds.rows,
              (r.organization == organization && r.id == i) = true → r = hold := by
            intro r hr hq
            have hp := List.find?_some hf
            simp only [Bool.and_eq_true, beq_iff_eq] at hp hq
            exact Table.eq_of_key_eq hr (List.mem_of_find?_eq_some hf) (hq.2.trans hp.2.symm)
          by_cases hexpired : hold.expiresAt ≤ now
          · have hnone : (releaseExpiredHolds db now).holds.rows.find?
                (fun r => r.organization == organization && r.id == i) = none :=
              List.find?_eq_none.mpr fun r hr hq => by
                obtain ⟨hmem, hlive⟩ := Table.mem_delete.mp hr
                obtain rfl := honly r hmem hq
                exact of_decide_eq_false hlive hexpired
            rw [hnone]
            dsimp only
            rw [if_pos hexpired]
          · have hsome : (releaseExpiredHolds db now).holds.rows.find?
                (fun r => r.organization == organization && r.id == i) = some hold := by
              rw [← hf]
              refine Table.find?_delete fun r hr hp => Bool.eq_false_iff.mpr fun hq => ?_
              obtain rfl := honly r hr hq
              exact hexpired (of_decide_eq_true hp)
            rw [hsome]

/-- The body of a delivery and a sweep commute. -/
theorem fulfillBody_swept (session : CheckoutSession) {target : Target}
    (h : readTarget db now organization session = .ok target) :
    fulfillBody (releaseExpiredHolds db now) now organization session target
      = sweptResult now (fulfillBody db now organization session target) := by
  cases target with
  | hold hold =>
    exact fulfillHold_swept fun _ => ⟨hold, (readTarget_hold h).1, rfl, rfl, rfl, rfl, rfl, rfl⟩
  | donation amount campaign => exact fulfillDonation_swept amount campaign
  | pass product => exact fulfillPassPurchase_swept product

/-- A delivery and a sweep commute. -/
theorem fulfillCheckoutSession_swept (session : CheckoutSession) :
    fulfillCheckoutSession (releaseExpiredHolds db now) now organization session
      = sweptResult now (fulfillCheckoutSession db now organization session) := by
  have horder : existingOrder (releaseExpiredHolds db now) organization session.id
      = existingOrder db organization session.id := rfl
  unfold fulfillCheckoutSession
  rw [horder, readTarget_swept]
  cases hexisting : existingOrder db organization session.id with
  | some o => rfl
  | none =>
    dsimp only
    cases ht : readTarget db now organization session with
    | error e => rfl
    | ok target =>
      dsimp only
      unfold fulfillTarget
      rw [fulfillBody_swept session ht, horder, hexisting]
      cases fulfillBody db now organization session target with
      | ok r => rfl
      | error e => cases e <;> cases target <;> rfl

/-- Voiding an order and a sweep commute. -/
theorem voidOrder_swept (o : Order) :
    voidOrder (releaseExpiredHolds db now) o
      = Prod.map (releaseExpiredHolds · now) id (voidOrder db o) := by
  have hlive : liveTicketsOf (releaseExpiredHolds db now) o.id = liveTicketsOf db o.id := rfl
  have hcount : gaCount (releaseExpiredHolds db now) o.id = gaCount db o.id := rfl
  unfold voidOrder
  simp only [hlive, hcount]
  split_ifs
  · rfl
  · cases o.performance with
    | none => rfl
    | some performance => rfl
  · cases o.performance with
    | none => rfl
    | some performance => rfl

/-- Undoing an order and a sweep commute. -/
theorem undoOrder_swept (o : Order) (status : OrderStatus) :
    undoOrder (releaseExpiredHolds db now) o status
      = releaseExpiredHolds (undoOrder db o status) now := by
  rw [undoOrder_eq, undoOrder_eq]
  rfl

/-- A cancellation and a sweep commute. -/
theorem orderCancel_swept (o : Order) :
    orderCancel (releaseExpiredHolds db now) o = releaseExpiredHolds (orderCancel db o) now := by
  unfold orderCancel
  split_ifs
  · rfl
  · exact undoOrder_swept o _

/-- A refund goes as it does without the sweep, and answers the same. -/
theorem refundOrder_swept (order : Nat) (gateway : Except String String) :
    refundOrder (releaseExpiredHolds db now) order gateway
      = sweptResult now (refundOrder db order gateway) := by
  have horder : (releaseExpiredHolds db now).orders.get? order = db.orders.get? order := rfl
  have hrefunded : ∀ o provider ref, refundedDb (releaseExpiredHolds db now) o provider ref
      = releaseExpiredHolds (refundedDb db o provider ref) now := fun o provider ref => by
    rw [refundedDb_eq, refundedDb_eq]
    rfl
  unfold refundOrder
  rw [horder]
  cases db.orders.get? order with
  | none => rfl
  | some o =>
    have hpass : soldAPass (releaseExpiredHolds db now) o.id = soldAPass db o.id := rfl
    have hused : soldPassUsed (releaseExpiredHolds db now) o.id = soldPassUsed db o.id := rfl
    have hpayment : succeededPayment (releaseExpiredHolds db now) o.id
        = succeededPayment db o.id := rfl
    simp only [hpass, hused, hpayment, hrefunded]
    split_ifs
    · rfl
    · rfl
    · cases gateway <;> rfl
    · rfl
    · rfl

end Payments

/-- Applying a code goes as it does without the sweep, and answers the same. -/
theorem applyPromoCode_swept {db : Db} {now : Time} {organization : Nat} {sessionKey : String}
    (holdId : Option Nat) (code : String) :
    applyPromoCode (releaseExpiredHolds db now) now organization sessionKey holdId code
      = sweptResult now (applyPromoCode db now organization sessionKey holdId code) := by
  have hcodes : (releaseExpiredHolds db now).promoCodes = db.promoCodes := rfl
  unfold applyPromoCode
  rw [findActiveHold_swept, hcodes]
  cases hf : findActiveHold db now organization sessionKey holdId with
  | none => rfl
  | some hold =>
    obtain ⟨hmem, -, -, -, hactive⟩ := findActiveHold_some hf
    -- The cart that was found is live, so the sweep leaves it.
    have hget := get?_swept hactive ⟨hold, hmem, rfl, rfl, rfl, rfl, rfl, rfl⟩
    have htotal : holdTotal (releaseExpiredHolds db now) hold = holdTotal db hold :=
      holdTotal_withHolds hget
    have hcurrency : holdCurrency (releaseExpiredHolds db now) hold = holdCurrency db hold :=
      holdCurrency_withHolds hget
    dsimp only
    cases getUsableCode db.promoCodes organization code with
    | none => rfl
    | some promo =>
      dsimp only
      rw [htotal, hcurrency]
      cases validateCode promo (holdTotal db hold) (holdCurrency db hold) now with
      | error e => rfl
      | ok u =>
        dsimp only
        rw [@editHold_swept db now hold.id (Hold.setPromo (some promo.id) promo.code
          (some (computeDiscount promo (holdTotal db hold)))) (fun _ => rfl) fun _ => rfl]
        rfl

/-! ### The sweeper -/

/-- A state without its expired carts. -/
def State.swept (s : State) : State := { s with db := releaseExpiredHolds s.db s.now }

/-- Everything but the sweep. -/
def Op.live : Op → Bool
  | .releaseExpiredHolds => false
  | _ => true

/-- A cart that is paid for is still stored while it is live. -/
def Stored (s : State) : Op → Prop
  | .fulfillHold hold _ => hold.Active s.now → HoldExists s.db hold
  | .fulfillHoldWithPass hold _ _ _ _ => hold.Active s.now → HoldExists s.db hold
  | _ => True

section Sweeper

variable {s : State} {op : Op}

/-- An admissible operation names stored carts. -/
theorem Admissible.stored (h : Admissible s op) : Stored s op := by
  cases op with
  | fulfillHold hold args => exact fun _ => h
  | fulfillHoldWithPass hold p email name optIn => exact fun _ => h
  | _ => trivial

/-- A sweep leaves stored what the operation names. -/
theorem stored_swept : Stored s.swept op ↔ Stored s op := by
  cases op with
  | fulfillHold hold args => exact forall_congr' fun hactive => holdExists_swept hactive
  | fulfillHoldWithPass hold p email name optIn =>
    exact forall_congr' fun hactive => holdExists_swept hactive
  | _ => exact Iff.rfl

/-- The reply is that of the result. -/
theorem replied_swept {α : Type} (reply : α → Reply) (r : Result α) :
    replied reply (sweptResult s.now r) = replied reply r := by
  cases r with
  | error e => rfl
  | ok q => rfl

/-- The answer is the same after a sweep. -/
theorem answer_swept (hs : Stored s op) : op.answer s.swept = op.answer s := by
  have hnow : s.swept.now = s.now := rfl
  have hdb : s.swept.db = releaseExpiredHolds s.db s.now := rfl
  unfold Op.answer
  rw [hnow, hdb]
  -- What an operation looks up, apart from carts, the sweep does not touch.
  cases op with
  | setGaHold organization performance sessionKey priceTier quantity =>
    have hp : findPerformance (releaseExpiredHolds s.db s.now) organization performance
        = findPerformance s.db organization performance := rfl
    have ht : (releaseExpiredHolds s.db s.now).priceTiers = s.db.priceTiers := rfl
    simp only [hp, ht, setGaHold_swept, replied_swept]
  | setReservedHold organization performance sessionKey seatIds =>
    have hp : findPerformance (releaseExpiredHolds s.db s.now) organization performance
        = findPerformance s.db organization performance := rfl
    simp only [hp, setReservedHold_swept, replied_swept]
  | applyPromoCode => simp only [applyPromoCode_swept, replied_swept]
  | setHoldDonation => simp only [setHoldDonation_swept, replied_swept]
  | fulfillHold hold args => simp only [fulfillHold_swept hs, replied_swept]
  | fulfillHoldWithPass hold p email name optIn =>
    simp only [fulfillHoldWithPass_swept hs, replied_swept]
  | fulfillDonation => simp only [fulfillDonation_swept, replied_swept]
  | fulfillPassPurchase organization product args =>
    have hp : findProduct (releaseExpiredHolds s.db s.now) organization product
        = findProduct s.db organization product := rfl
    simp only [hp, fulfillPassPurchase_swept, replied_swept]
  | fulfillCheckoutSession => simp only [fulfillCheckoutSession_swept, replied_swept]
  | voidOrder order =>
    have ho : (releaseExpiredHolds s.db s.now).orders = s.db.orders := rfl
    simp only [ho, voidOrder_swept, Prod.map_snd, id]
  | refundOrder => simp only [refundOrder_swept, replied_swept]
  | orderCancel order =>
    have ho : (releaseExpiredHolds s.db s.now).orders = s.db.orders := rfl
    simp only [ho]
  | _ => rfl

/-- A transaction and a sweep, with the sweep first and without. -/
theorem commit_swept {α : Type} {r r' : Result α} (h : r' = sweptResult s.now r) :
    (s.swept.commit r').swept = (s.commit r).swept := by
  rw [h]
  cases r with
  | error e =>
    show (⟨releaseExpiredHolds (releaseExpiredHolds s.db s.now) s.now, s.now⟩ : State) = _
    rw [releaseExpiredHolds_idem le_rfl]
    rfl
  | ok q =>
    show (⟨releaseExpiredHolds (releaseExpiredHolds q.1 s.now) s.now, s.now⟩ : State) = _
    rw [releaseExpiredHolds_idem le_rfl]
    rfl

/-- Sweeping twice is sweeping once. -/
theorem swept_idem (s : State) : s.swept.swept = s.swept := by
  show (⟨releaseExpiredHolds (releaseExpiredHolds s.db s.now) s.now, s.now⟩ : State) = _
  rw [releaseExpiredHolds_idem le_rfl]
  rfl

/-- An edit of the database that a sweep commutes with. -/
theorem edit_swept (f : Db → Db) (hf : f (releaseExpiredHolds s.db s.now) = releaseExpiredHolds (f s.db) s.now) :
    ({ s.swept with db := f s.swept.db } : State).swept = ({ s with db := f s.db } : State).swept := by
  show (⟨releaseExpiredHolds (f (releaseExpiredHolds s.db s.now)) s.now, s.now⟩ : State) = _
  rw [hf, releaseExpiredHolds_idem le_rfl]
  rfl

/-- An operation after a sweep leads to the same state, but for expired carts. -/
theorem exec_swept (hs : Stored s op) : (exec op s.swept).swept = (exec op s).swept := by
  cases op with
  | advance d =>
    -- Sweeping again finds nothing that the first sweep has left to it.
    show (⟨releaseExpiredHolds (releaseExpiredHolds s.db s.now) (s.now + d), s.now + d⟩ : State) = _
    rw [releaseExpiredHolds_idem (Nat.le_add_right _ _)]
    rfl
  | setGaHold organization performance sessionKey priceTier quantity =>
    -- A sweep deletes carts only, so whatever else an operation looks up is the same.
    have hp : findPerformance (releaseExpiredHolds s.db s.now) organization performance
        = findPerformance s.db organization performance := rfl
    have ht : (releaseExpiredHolds s.db s.now).priceTiers = s.db.priceTiers := rfl
    show (exec _ ⟨releaseExpiredHolds s.db s.now, s.now⟩).swept = _
    simp only [exec, hp, ht]
    cases findPerformance s.db organization performance with
    | none => exact swept_idem s
    | some p =>
      cases s.db.priceTiers.get? priceTier with
      | none => exact swept_idem s
      | some t => exact commit_swept setGaHold_swept
  | setReservedHold organization performance sessionKey seatIds =>
    have hp : findPerformance (releaseExpiredHolds s.db s.now) organization performance
        = findPerformance s.db organization performance := rfl
    show (exec _ ⟨releaseExpiredHolds s.db s.now, s.now⟩).swept = _
    simp only [exec, hp]
    cases findPerformance s.db organization performance with
    | none => exact swept_idem s
    | some p => exact commit_swept setReservedHold_swept
  | releaseHold organization performance sessionKey =>
    exact edit_swept (fun db => releaseHold db organization performance sessionKey) releaseHold_swept
  | releaseHoldById organization sessionKey holdId =>
    exact edit_swept (fun db => releaseHoldById db organization sessionKey holdId)
      (releaseHoldById_swept holdId)
  | releaseExpiredHolds => exact edit_swept (fun db => releaseExpiredHolds db s.now) rfl
  | removePromoCode organization sessionKey holdId =>
    exact edit_swept (fun db => removePromoCode db organization sessionKey holdId)
      (removePromoCode_swept holdId)
  | clearHoldDonation organization sessionKey holdId =>
    exact edit_swept (fun db => clearHoldDonation db organization sessionKey holdId)
      (clearHoldDonation_swept holdId)
  | applyPromoCode organization sessionKey holdId code =>
    simp only [exec]
    exact commit_swept (applyPromoCode_swept holdId code)
  | setHoldDonation organization sessionKey holdId amount campaign =>
    simp only [exec]
    exact commit_swept (setHoldDonation_swept holdId amount campaign)
  -- The cart that is fulfilled is stored; if it has expired, both are refused.
  | fulfillHold hold args =>
    simp only [exec]
    exact commit_swept (fulfillHold_swept hs)
  | fulfillHoldWithPass hold p email name optIn =>
    simp only [exec]
    exact commit_swept (fulfillHoldWithPass_swept hs p email name optIn)
  | fulfillDonation organization amount campaign args =>
    simp only [exec]
    exact commit_swept (fulfillDonation_swept amount campaign)
  | fulfillPassPurchase organization product args =>
    have hp : findProduct (releaseExpiredHolds s.db s.now) organization product
        = findProduct s.db organization product := rfl
    show (exec _ ⟨releaseExpiredHolds s.db s.now, s.now⟩).swept = _
    simp only [exec, hp]
    cases findProduct s.db organization product with
    | none => exact swept_idem s
    | some p => exact commit_swept (fulfillPassPurchase_swept p)
  | fulfillCheckoutSession organization session =>
    simp only [exec]
    exact commit_swept (fulfillCheckoutSession_swept session)
  | voidOrder order =>
    have ho : (releaseExpiredHolds s.db s.now).orders = s.db.orders := rfl
    show (exec _ ⟨releaseExpiredHolds s.db s.now, s.now⟩).swept = _
    simp only [exec, ho]
    cases s.db.orders.get? order with
    | none => exact swept_idem s
    | some o =>
      exact edit_swept (fun db => (voidOrder db o).1) (congrArg Prod.fst (voidOrder_swept o))
  | refundOrder order gateway =>
    simp only [exec]
    exact commit_swept (refundOrder_swept order gateway)
  | orderCancel order =>
    have ho : (releaseExpiredHolds s.db s.now).orders = s.db.orders := rfl
    show (exec _ ⟨releaseExpiredHolds s.db s.now, s.now⟩).swept = _
    simp only [exec, ho]
    cases s.db.orders.get? order with
    | none => exact swept_idem s
    | some o => exact edit_swept (fun db => orderCancel db o) (orderCancel_swept o)

end Sweeper

/-- The sweep, as a clean-up. -/
def sweeper : Collector Stored exec Op.answer where
  collect := State.swept
  live := Op.live
  idem := swept_idem
  label := fun s op hop => by
    cases op with
    | releaseExpiredHolds => rfl
    | _ => cases hop
  guard_collect := fun _ _ _ => stored_swept
  out_collect := fun _ _ _ hs => answer_swept hs
  step_collect := fun _ _ _ hs => exec_swept hs

/-- What the pages read of the carts. -/
theorem pages_swept {s t : State} (h : t.swept = s.swept) :
    (∀ performance exclude,
      gaAvailable t.db t.now performance exclude = gaAvailable s.db s.now performance exclude) ∧
    (∀ performance sessionKey, reservedSeatStates t.db t.now performance sessionKey
      = reservedSeatStates s.db s.now performance sessionKey) ∧
    ∀ organization sessionKey, cartItemCount t.db t.now organization sessionKey
      = cartItemCount s.db s.now organization sessionKey := by
  -- Each of the three reads live carts only, and looks up the rest beside them.
  have hga : ∀ (u : State) performance exclude, gaAvailable u.swept.db u.swept.now performance
      exclude = gaAvailable u.db u.now performance exclude := fun u performance exclude => by
    have halloc : allocationOf (releaseExpiredHolds u.db u.now) performance
        = allocationOf u.db performance := rfl
    show gaAvailable (releaseExpiredHolds u.db u.now) u.now performance exclude = _
    unfold gaAvailable
    rw [halloc, activeGaHeldQty_swept]
  have hmap : ∀ (u : State) performance sessionKey, reservedSeatStates u.swept.db u.swept.now
      performance sessionKey = reservedSeatStates u.db u.now performance sessionKey :=
    fun u performance sessionKey => by
      have hseats : performanceSeats (releaseExpiredHolds u.db u.now) performance
          = performanceSeats u.db performance := rfl
      show reservedSeatStates (releaseExpiredHolds u.db u.now) u.now performance sessionKey = _
      unfold reservedSeatStates reservedSeatState
      simp only [hseats, activeSeatHolds_swept, isBlocked_swept, isTicketed_swept]
  have hbadge : ∀ (u : State) organization sessionKey, cartItemCount u.swept.db u.swept.now
      organization sessionKey = cartItemCount u.db u.now organization sessionKey :=
    fun u organization sessionKey => by
      have hfilter : ((releaseExpiredHolds u.db u.now).holds.rows.filter fun h =>
          h.organization == organization && h.sessionKey == sessionKey && decide (h.Active u.now))
          = u.db.holds.rows.filter fun h =>
            h.organization == organization && h.sessionKey == sessionKey
              && decide (h.Active u.now) :=
        Table.filter_delete_of_mem fun _ _ hp => by
          rw [decide_eq_false (not_active_of_swept hp), Bool.and_false]
      show cartItemCount (releaseExpiredHolds u.db u.now) u.now organization sessionKey = _
      unfold cartItemCount
      dsimp only
      rw [hfilter]
  refine ⟨fun performance exclude => ?_, fun performance sessionKey => ?_,
    fun organization sessionKey => ?_⟩
  · rw [← hga t, h, hga s]
  · rw [← hmap t, h, hmap s]
  · rw [← hbadge t, h, hbadge s]

/-- **The sweeper leaves no trace.** Run any operations of the box office, and run them again with
    the sweeps at other times, or none, or more of them: every caller gets the same answer, the
    databases end the same but for carts that have expired, and the availability, the seat map
    and the cart badge that the pages show are the same. -/
theorem sweeper_invisible {s t : State} {ops ops' : List Op} (h : Run boxOffice s ops t)
    (hsame : ops'.filter Op.live = ops.filter Op.live) :
    outputs exec Op.answer Op.live ops' s = outputs exec Op.answer Op.live ops s ∧
    (execAll exec ops' s).swept = t.swept ∧
    (∀ performance exclude,
      gaAvailable (execAll exec ops' s).db (execAll exec ops' s).now performance exclude
        = gaAvailable t.db t.now performance exclude) ∧
    (∀ performance sessionKey, reservedSeatStates (execAll exec ops' s).db
        (execAll exec ops' s).now performance sessionKey
      = reservedSeatStates t.db t.now performance sessionKey) ∧
    ∀ organization sessionKey, cartItemCount (execAll exec ops' s).db
        (execAll exec ops' s).now organization sessionKey
      = cartItemCount t.db t.now organization sessionKey := by
  obtain ⟨hend, hanswers⟩ :=
    sweeper.invisible (h.weaken fun _ _ => Admissible.stored) hsame
  exact ⟨hanswers, hend, pages_swept hend⟩

/-- A cart that has expired is swept, or not, before its places are taken again. -/
theorem sweeper_invisible_sample :
    outputs exec Op.answer Op.live
        [.setGaHold 1 1 "a" 1 2, .advance 600000000, .setGaHold 1 1 "b" 1 2] sampleState
      = outputs exec Op.answer Op.live
        [.setGaHold 1 1 "a" 1 2, .advance 600000000, .releaseExpiredHolds, .setGaHold 1 1 "b" 1 2]
        sampleState := by
  have hr : Run boxOffice sampleState
      [.setGaHold 1 1 "a" 1 2, .advance 600000000, .releaseExpiredHolds, .setGaHold 1 1 "b" 1 2]
      (execAll exec [.setGaHold 1 1 "a" 1 2, .advance 600000000, .releaseExpiredHolds,
        .setGaHold 1 1 "b" 1 2] sampleState) := Run.of_execAll fun op hop s => by
    simp only [List.mem_cons, List.not_mem_nil, or_false] at hop
    rcases hop with rfl | rfl | rfl | rfl <;> trivial
  exact (sweeper_invisible hr rfl).1

end BoxOffice
