import BoxOffice.Orders.HoldMoney
import BoxOffice.Relational.Service

namespace BoxOffice

open Relational

/-!
# Orders — the hold functions as programs

The eight hold functions of `orders.services`, statement by statement: each reads, checks,
raises and writes in the source's order, and what it had written before a raise would stay
written but for `transaction.atomic`.

Every one of them raises before its first write, so it is the function of `Orders.Holds` or
`Orders.HoldMoney` that returns the next database or an error (`setGaHoldCall_eq` and its
siblings), with or without the transaction.
-/

/-- A hold id as it is posted: a key, or the `repr` of a value that is none. -/
abbrev PostedId := Except String Nat

/-- `_clear_session_hold`. -/
def clearSessionHoldCall (organization performance : Nat) (sessionKey : String) :
    Service Db ServiceError Unit :=
  Service.write fun db => releaseHold db organization performance sessionKey

/-- The database with one more hold. -/
def addHold (mk : Nat → Hold) (hk : ∀ i, (mk i).id = i) (db : Db) : Db :=
  { db with holds := db.holds.insert mk hk }

/-- `Hold.objects.create`. -/
def createHold (mk : Nat → Hold) (hk : ∀ i, (mk i).id = i) : Service Db ServiceError Hold := do
  let db ← Service.read
  Service.write (addHold mk hk)
  pure (mk db.holds.nextId)

/-- Add seats to a hold. -/
def Hold.addSeats (holdSeats : List HoldSeat) (h : Hold) : Hold :=
  { h with holdSeats := h.holdSeats ++ holdSeats }

/-- Adding seats keeps the key of a hold. -/
theorem Hold.addSeats_id (holdSeats : List HoldSeat) (h : Hold) :
    (h.addSeats holdSeats).id = h.id :=
  rfl

/-- `release_hold`. -/
def releaseHoldCall (organization performance : Nat) (sessionKey : String) :
    Service Db ServiceError Unit :=
  Service.atomic (clearSessionHoldCall organization performance sessionKey)

/-- `release_hold_by_id`.  A value that is no key reaches the query unchecked. -/
def releaseHoldByIdCall (organization : Nat) (sessionKey : String) (holdId : PostedId) :
    Service Db ServiceError Unit :=
  Service.atomic <|
    match holdId with
    | .error repr => Service.raise (.valueError s!"Field 'id' expected a number but got {repr}.")
    | .ok holdId =>
      if holdId = 0 then pure ()
      else Service.write fun db => { db with holds := db.holds.delete fun h =>
        h.organization == organization && h.sessionKey == sessionKey && h.id == holdId }

/-- A new hold of places has the key it was given. -/
theorem newGaHold_id (now : Time) (organization : Nat) (performance : Performance)
    (sessionKey : String) (priceTier : PriceTier) (quantity id : Nat) :
    (newGaHold now organization performance sessionKey priceTier quantity id).id = id := rfl

/-- `Hold.objects.create` with a tier and a quantity. -/
def createGaHold (now : Time) (organization : Nat) (performance : Performance)
    (sessionKey : String) (priceTier : PriceTier) (quantity : Nat) :
    Service Db ServiceError Hold :=
  createHold (newGaHold now organization performance sessionKey priceTier quantity)
    (newGaHold_id now organization performance sessionKey priceTier quantity)

/-- `set_ga_hold`. -/
def setGaHoldCall (now : Time) (organization : Nat) (performance : Performance)
    (sessionKey : String) (priceTier : PriceTier) (quantity : Option Int) :
    Service Db ServiceError (Option Hold) :=
  Service.atomic <|
    match quantity with
    | none => do
      clearSessionHoldCall organization performance.id sessionKey
      pure none
    | some quantity =>
      if quantity ≤ 0 then do
        clearSessionHoldCall organization performance.id sessionKey
        pure none
      else do
        let db ← Service.read
        match allocationOf db performance.id with
        | none => Service.raise (.doesNotExist "GAAllocation")
        | some allocation =>
          let otherHeldQty := activeGaHeldQty db.holds now performance.id (some sessionKey)
          let available : Int := (allocation.capacity : Int) - allocation.sold - otherHeldQty
          if available < quantity then
            if available ≤ 0 then Service.raise (.insufficientAvailability "Sold out.")
            else Service.raise (.insufficientAvailability
              s!"Only {available} ticket(s) available for this performance.")
          else do
            clearSessionHoldCall organization performance.id sessionKey
            let hold ←
              createGaHold now organization performance sessionKey priceTier quantity.toNat
            pure (some hold)

/-- A new hold of seats has the key it was given. -/
theorem newReservedHold_id (now : Time) (organization : Nat) (performance : Performance)
    (sessionKey : String) (holdSeats : List HoldSeat) (id : Nat) :
    (newReservedHold now organization performance sessionKey holdSeats id).id = id := rfl

/-- `set_reserved_hold`.  The hold is created without seats, and the seats are added to it. -/
def setReservedHoldCall (now : Time) (organization : Nat) (performance : Performance)
    (sessionKey : String) (seatIds : List Nat) : Service Db ServiceError (Option Hold) :=
  Service.atomic <|
    let seatIds := seatIds.dedup
    if seatIds = [] then do
      clearSessionHoldCall organization performance.id sessionKey
      pure none
    else do
      let db ← Service.read
      let seats := requestedSeats db organization performance seatIds
      if seats.length ≠ seatIds.length then
        Service.raise
          (.seatUnavailable "One or more selected seats aren't part of this performance.")
      else
        let unavailable := seatIds.filter fun s =>
          isTicketed db performance.id s || isHeldByOthers db now sessionKey s
            || isBlocked db performance.id s
        if unavailable ≠ [] then
          let labels := ", ".intercalate
            ((seats.filter fun s => unavailable.contains s.id).map fun s => s.rowLabel ++ s.number)
          let verb := if unavailable.length = 1 then "was" else "were"
          Service.raise (.seatUnavailable
            s!"Sorry — {labels} {verb} just taken by someone else. Please choose different seats.")
        else if ∃ s ∈ seats, resolveReservedPrices db performance s = none then
          Service.raise (.holdError
            "Some selected seats don't have a price set yet; contact the box office.")
        else do
          let holdSeats := seats.map (newHoldSeat db performance)
          clearSessionHoldCall organization performance.id sessionKey
          let hold ← createHold (newReservedHold now organization performance sessionKey [])
            (newReservedHold_id now organization performance sessionKey [])
          Service.write fun db =>
            editHold db hold.id (Hold.addSeats holdSeats) (Hold.addSeats_id holdSeats)
          pure (some (hold.addSeats holdSeats))

/-- A code keeps the key of a hold. -/
theorem Hold.setPromo_id (promoCode : Option Nat) (text : String) (discount : Option Cents)
    (h : Hold) : (h.setPromo promoCode text discount).id = h.id := rfl

/-- A gift keeps the key of a hold. -/
theorem Hold.setDonation_id (amount : Option Cents) (campaign : Option Nat) (h : Hold) :
    (h.setDonation amount campaign).id = h.id := rfl

/-- `hold.save(update_fields=["promo_code", …])`. -/
def savePromo (hold : Nat) (promoCode : Option Nat) (text : String) (discount : Option Cents)
    (db : Db) : Db :=
  editHold db hold (Hold.setPromo promoCode text discount)
    (Hold.setPromo_id promoCode text discount)

/-- `hold.save(update_fields=["donation_amount", …])`. -/
def saveDonation (hold : Nat) (amount : Option Cents) (campaign : Option Nat) (db : Db) : Db :=
  editHold db hold (Hold.setDonation amount campaign) (Hold.setDonation_id amount campaign)

/-- `apply_promo_code`. -/
def applyPromoCodeCall (now : Time) (organization : Nat) (sessionKey : String)
    (holdId : PostedId) (code : String) : Service Db ServiceError Unit :=
  Service.atomic do
    let db ← Service.read
    match findActiveHold db now organization sessionKey holdId.toOption with
    | none =>
      Service.raise
        (.promoError "Your selection has expired. Please make your selection again.")
    | some hold =>
      match getUsableCode db.promoCodes organization code with
      | none => Service.raise (.promoError "That code isn't valid.")
      | some promo =>
        let subtotal := holdTotal db hold
        match validateCode promo subtotal (holdCurrency db hold) now with
        | .error e => Service.raise e
        | .ok () =>
          Service.write
            (savePromo hold.id (some promo.id) promo.code (some (computeDiscount promo subtotal)))

/-- `remove_promo_code`. -/
def removePromoCodeCall (organization : Nat) (sessionKey : String) (holdId : PostedId) :
    Service Db ServiceError Unit :=
  Service.atomic do
    let db ← Service.read
    match findHold db organization sessionKey holdId.toOption with
    | none => pure ()
    | some hold => Service.write (savePromo hold.id none "" none)

/-- `set_hold_donation`. -/
def setHoldDonationCall (now : Time) (organization : Nat) (sessionKey : String)
    (holdId : PostedId) (amount : Option Cents) (campaign : Nat) : Service Db ServiceError Unit :=
  Service.atomic do
    let db ← Service.read
    match findActiveHold db now organization sessionKey holdId.toOption with
    | none =>
      Service.raise
        (.holdError "Your selection has expired. Please make your selection again.")
    | some hold =>
      match amount with
      | none => Service.raise (.holdError "Please enter a valid donation amount.")
      | some amount =>
        if amount ≤ 0 then
          Service.raise (.holdError "Please enter a donation amount greater than zero.")
        else if maxHoldDonation < amount then
          Service.raise (.holdError
            "Donations through checkout are capped at 10000; please contact the box office for a larger gift.")
        else Service.write (saveDonation hold.id (some amount) (some campaign))

/-- `clear_hold_donation`. -/
def clearHoldDonationCall (organization : Nat) (sessionKey : String) (holdId : PostedId) :
    Service Db ServiceError Unit :=
  Service.atomic do
    let db ← Service.read
    match findHold db organization sessionKey holdId.toOption with
    | none => pure ()
    | some hold => Service.write (saveDonation hold.id none none)

/-! ### What they amount to -/

section Summary

variable {now : Time} {organization : Nat} {performance : Performance} {sessionKey : String}
  {holdId : PostedId}

/-- Clearing and creating is replacing. -/
theorem createHold_cleared {n : Nat} {mk : Nat → Hold} {hk : ∀ i, (mk i).id = i} (db : Db) :
    createHold mk hk (releaseHold db organization n sessionKey)
      = (.ok (mk (clearSessionHold db.holds organization n sessionKey).nextId),
          (replaceSessionHold db organization n sessionKey mk hk).1) := rfl

/-- A hold that gets its seats right after it was created was created with them. -/
theorem addSeats_created (mk : Nat → Hold) (hk : ∀ i, (mk i).id = i) (holdSeats : List HoldSeat)
    (db : Db) :
    editHold (addHold mk hk db) db.holds.nextId (Hold.addSeats holdSeats)
        (Hold.addSeats_id holdSeats)
      = addHold (fun i => (mk i).addSeats holdSeats) hk db := by
  unfold editHold addHold
  congr 1
  -- The update hits the new row, and no other row has its key.
  refine Table.update_insert (k := hk) (beq_iff_eq.mpr (hk _)) fun h hh => ?_
  exact beq_eq_false_iff_ne.mpr (Table.key_ne_nextId hh)

/-- The statements of the release by key, run in one transaction. -/
theorem releaseHoldByIdCall_eq :
    releaseHoldByIdCall organization sessionKey holdId
      = Service.ofExcept fun db =>
          match holdId with
          | .error repr => .error (.valueError s!"Field 'id' expected a number but got {repr}.")
          | .ok holdId => .ok (releaseHoldById db organization sessionKey holdId, ()) := by
  refine Service.atomic_eq_ofExcept (funext fun db => ?_)
  unfold Service.ofExcept
  cases holdId with
  | error repr => rfl
  | ok holdId =>
    unfold releaseHoldById
    dsimp only
    split_ifs <;> rfl

/-- Those of holding places. -/
theorem setGaHoldCall_eq {priceTier : PriceTier} {quantity : Option Int} :
    setGaHoldCall now organization performance sessionKey priceTier quantity
      = Service.ofExcept fun db =>
          setGaHold db now organization performance sessionKey priceTier quantity := by
  refine Service.atomic_eq_ofExcept (funext fun db => ?_)
  unfold Service.ofExcept setGaHold
  cases quantity with
  | none => rfl
  | some quantity =>
    dsimp only
    by_cases hq : quantity ≤ 0
    · rw [if_pos hq, if_pos hq]
      rfl
    · rw [if_neg hq, if_neg hq, Service.read_bind]
      cases allocationOf db performance.id with
      | none => rfl
      | some allocation =>
        dsimp only
        split_ifs
        · rfl
        · rfl
        · -- The two writes, one after the other.
          exact (Service.bind_ok rfl).trans (Service.bind_ok (createHold_cleared db))

/-- Those of holding seats. -/
theorem setReservedHoldCall_eq {seatIds : List Nat} :
    setReservedHoldCall now organization performance sessionKey seatIds
      = Service.ofExcept fun db =>
          setReservedHold db now organization performance sessionKey seatIds := by
  refine Service.atomic_eq_ofExcept (funext fun db => ?_)
  unfold Service.ofExcept setReservedHold
  dsimp only
  by_cases hnone : seatIds.dedup = []
  · rw [if_pos hnone, if_pos hnone]
    rfl
  · rw [if_neg hnone, if_neg hnone, Service.read_bind]
    split_ifs
    · rfl
    · rfl
    · rfl
    · rfl
    · -- The three writes, one after the other.
      refine (Service.bind_ok rfl).trans ((Service.bind_ok (createHold_cleared db)).trans ?_)
      rw [Service.write_bind]
      have hseats := addSeats_created (newReservedHold now organization performance sessionKey [])
        (newReservedHold_id now organization performance sessionKey [])
        ((requestedSeats db organization performance seatIds.dedup).map
          (newHoldSeat db performance))
        (releaseHold db organization performance.id sessionKey)
      exact congrArg (Prod.mk _) hseats

/-- Those of applying a code. -/
theorem applyPromoCodeCall_eq {code : String} :
    applyPromoCodeCall now organization sessionKey holdId code
      = Service.ofExcept fun db =>
          applyPromoCode db now organization sessionKey holdId.toOption code := by
  refine Service.atomic_eq_ofExcept (funext fun db => ?_)
  unfold Service.ofExcept applyPromoCode
  rw [Service.read_bind]
  dsimp only
  cases findActiveHold db now organization sessionKey holdId.toOption with
  | none => rfl
  | some hold =>
    dsimp only
    cases getUsableCode db.promoCodes organization code with
    | none => rfl
    | some promo =>
      dsimp only
      cases validateCode promo (holdTotal db hold) (holdCurrency db hold) now with
      | error e => rfl
      | ok u => rfl

/-- Those of removing it. -/
theorem removePromoCodeCall_eq :
    removePromoCodeCall organization sessionKey holdId
      = Service.ofExcept fun db =>
          .ok (removePromoCode db organization sessionKey holdId.toOption, ()) := by
  refine Service.atomic_eq_ofExcept (funext fun db => ?_)
  unfold Service.ofExcept removePromoCode
  rw [Service.read_bind]
  dsimp only
  cases findHold db organization sessionKey holdId.toOption <;> rfl

/-- Those of setting a gift. -/
theorem setHoldDonationCall_eq {amount : Option Cents} {campaign : Nat} :
    setHoldDonationCall now organization sessionKey holdId amount campaign
      = Service.ofExcept fun db =>
          setHoldDonation db now organization sessionKey holdId.toOption amount campaign := by
  refine Service.atomic_eq_ofExcept (funext fun db => ?_)
  unfold Service.ofExcept setHoldDonation
  rw [Service.read_bind]
  dsimp only
  cases findActiveHold db now organization sessionKey holdId.toOption with
  | none => rfl
  | some hold =>
    cases amount with
    | none => rfl
    | some amount =>
      dsimp only
      split_ifs <;> rfl

/-- Those of clearing it. -/
theorem clearHoldDonationCall_eq :
    clearHoldDonationCall organization sessionKey holdId
      = Service.ofExcept fun db =>
          .ok (clearHoldDonation db organization sessionKey holdId.toOption, ()) := by
  refine Service.atomic_eq_ofExcept (funext fun db => ?_)
  unfold Service.ofExcept clearHoldDonation
  rw [Service.read_bind]
  dsimp only
  cases findHold db organization sessionKey holdId.toOption <;> rfl

end Summary

end BoxOffice
