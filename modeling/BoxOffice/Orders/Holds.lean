import BoxOffice.Events.Pricing
import BoxOffice.Money

namespace BoxOffice

open Relational

/-!
# Orders — carts

The hold functions of `orders.services`: availability, and the transactions that create,
replace and release the hold of a session.

* every function is one transaction: it reads the database it is given and returns the next
  one, or an exception and no database at all;
* `now` is the clock the transaction reads; a hold is *active* while `now < expiresAt`;
* `setGaHold_ok`, `setReservedHold_ok` say once what a successful call writes.
-/

/-- `default_hold_expiry`: ten minutes from now. -/
def defaultHoldExpiry (now : Time) : Time := now + 10 * 60 * 1000000

namespace Hold

/-- A hold that has not expired. -/
def Active (h : Hold) (now : Time) : Prop := now < h.expiresAt

instance (h : Hold) (now : Time) : Decidable (h.Active now) :=
  inferInstanceAs (Decidable (now < h.expiresAt))

/-- `hold.price_tier_id and hold.quantity`, with a quantity of zero counting as false. -/
def isGa (h : Hold) : Bool :=
  match h.ga with
  | some g => g.quantity != 0
  | none => false

/-- The `quantity` column, with null counting as zero. -/
def gaQuantity (h : Hold) : Nat := (h.ga.map (·.quantity)).getD 0

/-- Two images of one row that differ at most in the promo and donation columns, the only
    ones a cart edit rewrites in place. -/
def SameCart (a b : Hold) : Prop :=
  a.id = b.id ∧ a.organization = b.organization ∧ a.performance = b.performance ∧
    a.sessionKey = b.sessionKey ∧ a.expiresAt = b.expiresAt ∧ a.ga = b.ga

instance (a b : Hold) : Decidable (SameCart a b) := by unfold SameCart; infer_instance

end Hold

/-- `hold.hold_seats`: the seats of the *stored* hold.  The query goes by the key of the
    object, so a hold object whose row is gone has none. -/
def holdSeatsOf (db : Db) (h : Hold) : List HoldSeat :=
  match db.holds.get? h.id with
  | some row => row.holdSeats
  | none => []

/-! ### Availability -/

/-- `_active_ga_held_qty`. -/
def activeGaHeldQty (holds : Table Hold) (now : Time) (performance : Nat)
    (excludeSessionKey : Option String) : Nat :=
  Table.total
    (fun h => if h.performance = performance ∧ h.Active now ∧ some h.sessionKey ≠ excludeSessionKey
      then h.gaQuantity else 0) holds

/-- The allocation row of a performance. -/
def allocationOf (db : Db) (performance : Nat) : Option GAAllocation :=
  db.gaAllocations.rows.find? (fun a => a.performance == performance)

/-- `ga_available`. -/
def gaAvailable (db : Db) (now : Time) (performance : Nat) (excludeSessionKey : Option String) :
    Nat :=
  match allocationOf db performance with
  | none => 0
  | some a => a.capacity - a.sold - activeGaHeldQty db.holds now performance excludeSessionKey

/-- Is the seat on a ticket of the performance that is not void? -/
def isTicketed (db : Db) (performance seat : Nat) : Bool :=
  db.tickets.rows.any fun t =>
    t.performance == performance && t.seat == some seat && t.status != .void

/-- Is the seat in an active hold of another session, of any performance? -/
def isHeldByOthers (db : Db) (now : Time) (sessionKey : String) (seat : Nat) : Bool :=
  db.holds.rows.any fun h =>
    decide (h.Active now) && h.sessionKey != sessionKey && h.holdSeats.any (·.seat == seat)

/-- Is the seat pulled from sale for the performance? -/
def isBlocked (db : Db) (performance seat : Nat) : Bool :=
  db.seatBlocks.rows.any fun b => b.performance == performance && b.seat == seat

/-! ### Mutations -/

/-- `_clear_session_hold`. -/
def clearSessionHold (holds : Table Hold) (organization performance : Nat)
    (sessionKey : String) : Table Hold :=
  holds.delete fun h =>
    h.organization == organization && h.performance == performance && h.sessionKey == sessionKey

/-- `release_hold`. -/
def releaseHold (db : Db) (organization performance : Nat) (sessionKey : String) : Db :=
  { db with holds := clearSessionHold db.holds organization performance sessionKey }

/-- `release_hold_by_id`. -/
def releaseHoldById (db : Db) (organization : Nat) (sessionKey : String) (holdId : Nat) : Db :=
  if holdId = 0 then db
  else { db with holds := db.holds.delete fun h =>
    h.organization == organization && h.sessionKey == sessionKey && h.id == holdId }

/-- `release_expired_holds`, the sweeper command. -/
def releaseExpiredHolds (db : Db) (now : Time) : Db :=
  { db with holds := db.holds.delete fun h => decide (h.expiresAt ≤ now) }

/-- Clear the session's hold and create the row `mk` in its place. -/
def replaceSessionHold (db : Db) (organization performance : Nat) (sessionKey : String)
    (mk : Nat → Hold) (hk : ∀ i, (mk i).id = i := by intro _; exact id rfl) : Db × Option Hold :=
  let holds := clearSessionHold db.holds organization performance sessionKey
  ({ db with holds := holds.insert mk hk }, some (mk holds.nextId))

/-- The row `set_ga_hold` creates. -/
def newGaHold (now : Time) (organization : Nat) (performance : Performance) (sessionKey : String)
    (priceTier : PriceTier) (quantity : Nat) (id : Nat) : Hold where
  id := id
  organization := organization
  performance := performance.id
  sessionKey := sessionKey
  expiresAt := defaultHoldExpiry now
  ga := some { priceTier := priceTier.id, quantity := quantity,
               gaUnitAmount := some priceTier.amount }
  holdSeats := []
  promoCode := none
  promoCodeText := ""
  discountAmount := none
  donationAmount := none
  donationCampaign := none

/-- `set_ga_hold`: replace the session's hold by `quantity` seats at `priceTier`. -/
def setGaHold (db : Db) (now : Time) (organization : Nat) (performance : Performance)
    (sessionKey : String) (priceTier : PriceTier) (quantity : Option Int) :
    Result (Option Hold) :=
  match quantity with
  | none => .ok (releaseHold db organization performance.id sessionKey, none)
  | some quantity =>
    if quantity ≤ 0 then .ok (releaseHold db organization performance.id sessionKey, none)
    else
      match allocationOf db performance.id with
      | none => .error (.doesNotExist "GAAllocation")
      | some allocation =>
        let otherHeldQty := activeGaHeldQty db.holds now performance.id (some sessionKey)
        let available : Int := (allocation.capacity : Int) - allocation.sold - otherHeldQty
        if available < quantity then
          if available ≤ 0 then .error (.insufficientAvailability "Sold out.")
          else .error (.insufficientAvailability
            s!"Only {available} ticket(s) available for this performance.")
        else
          .ok (replaceSessionHold db organization performance.id sessionKey
            (newGaHold now organization performance sessionKey priceTier quantity.toNat))

/-- The seats of the request that the performance's chart has, in key order. -/
def requestedSeats (db : Db) (organization : Nat) (performance : Performance)
    (seatIds : List Nat) : List Seat :=
  orderedByPk (db.seats.rows.filter fun s =>
    s.organization == organization && (seatChart db s).isSome
      && seatChart db s == getSeatingChart db performance && seatIds.contains s.id)

/-- The `HoldSeat` of a seat at its resolved price. -/
def newHoldSeat (db : Db) (performance : Performance) (seat : Seat) : HoldSeat :=
  match resolveReservedPrices db performance seat with
  | some price =>
    { seat := seat.id, priceTier := price.tier, pricingZone := price.zone,
      unitAmount := price.amount }
  | none => { seat := seat.id, priceTier := none, pricingZone := none, unitAmount := 0 }

/-- The line of a seat is for that seat. -/
theorem newHoldSeat_seat (db : Db) (performance : Performance) (seat : Seat) :
    (newHoldSeat db performance seat).seat = seat.id := by
  unfold newHoldSeat
  cases resolveReservedPrices db performance seat <;> rfl

/-- The row `set_reserved_hold` creates, with its seats. -/
def newReservedHold (now : Time) (organization : Nat) (performance : Performance)
    (sessionKey : String) (holdSeats : List HoldSeat) (id : Nat) : Hold where
  id := id
  organization := organization
  performance := performance.id
  sessionKey := sessionKey
  expiresAt := defaultHoldExpiry now
  ga := none
  holdSeats := holdSeats
  promoCode := none
  promoCodeText := ""
  discountAmount := none
  donationAmount := none
  donationCampaign := none

/-- `set_reserved_hold`: replace the session's hold by exactly `seatIds`. -/
def setReservedHold (db : Db) (now : Time) (organization : Nat) (performance : Performance)
    (sessionKey : String) (seatIds : List Nat) : Result (Option Hold) :=
  let seatIds := seatIds.dedup
  if seatIds = [] then .ok (releaseHold db organization performance.id sessionKey, none)
  else
    let seats := requestedSeats db organization performance seatIds
    if seats.length ≠ seatIds.length then
      .error (.seatUnavailable "One or more selected seats aren't part of this performance.")
    else
      let unavailable := seatIds.filter fun s =>
        isTicketed db performance.id s || isHeldByOthers db now sessionKey s
          || isBlocked db performance.id s
      if unavailable ≠ [] then
        let labels := ", ".intercalate
          ((seats.filter fun s => unavailable.contains s.id).map fun s => s.rowLabel ++ s.number)
        let verb := if unavailable.length = 1 then "was" else "were"
        .error (.seatUnavailable
          s!"Sorry — {labels} {verb} just taken by someone else. Please choose different seats.")
      else if ∃ s ∈ seats, resolveReservedPrices db performance s = none then
        .error (.holdError
          "Some selected seats don't have a price set yet; contact the box office.")
      else
        .ok (replaceSessionHold db organization performance.id sessionKey
          (newReservedHold now organization performance sessionKey
            (seats.map (newHoldSeat db performance))))

/-! ### What the mutations write -/

section Spec

variable {db db' : Db} {now : Time} {organization : Nat} {performance : Performance}
  {sessionKey : String} {result : Option Hold}

/-- The holds after the session's one was replaced. -/
theorem mem_replaceSessionHold {n : Nat} {mk : Nat → Hold} {hk} {h : Hold} :
    h ∈ (replaceSessionHold db organization n sessionKey mk hk).1.holds.rows ↔
      h ∈ (clearSessionHold db.holds organization n sessionKey).rows ∨
        h = mk (clearSessionHold db.holds organization n sessionKey).nextId := by
  show h ∈ (Table.insert _ mk hk).rows ↔ _
  exact Table.mem_insert

/-- **`set_ga_hold`.** A call that returns either released the session's hold or replaced it by
    a hold of a positive quantity that fits beside everybody else's. -/
theorem setGaHold_ok {priceTier : PriceTier} {quantity : Option Int}
    (h : setGaHold db now organization performance sessionKey priceTier quantity
      = .ok (db', result)) :
    db' = releaseHold db organization performance.id sessionKey ∨
      ∃ allocation n, allocationOf db performance.id = some allocation ∧ 0 < n ∧
        allocation.sold + activeGaHeldQty db.holds now performance.id (some sessionKey) + n
          ≤ allocation.capacity ∧
        db' = (replaceSessionHold db organization performance.id sessionKey
          (newGaHold now organization performance sessionKey priceTier n)).1 := by
  unfold setGaHold at h
  cases quantity with
  | none => cases h; exact .inl rfl
  | some quantity =>
    by_cases hq : quantity ≤ 0
    · simp only [hq, if_true] at h; cases h; exact .inl rfl
    · simp only [hq, if_false] at h
      cases ha : allocationOf db performance.id with
      | none => simp only [ha] at h; cases h
      | some allocation =>
        simp only [ha] at h
        split_ifs at h with hfit
        cases h
        exact .inr ⟨allocation, quantity.toNat, rfl, by omega, by omega, rfl⟩

/-- What `set_reserved_hold` has checked about a seat it holds. -/
structure Selectable (db : Db) (now : Time) (organization : Nat) (performance : Performance)
    (sessionKey : String) (seat : Seat) : Prop where
  mem : seat ∈ db.seats.rows
  organization : seat.organization = organization
  chart : seatChart db seat = getSeatingChart db performance
  notTicketed : isTicketed db performance.id seat.id = false
  notHeld : isHeldByOthers db now sessionKey seat.id = false
  notBlocked : isBlocked db performance.id seat.id = false
  priced : (resolveReservedPrices db performance seat).isSome

/-- The seats that a request names are those of the performance. -/
theorem mem_requestedSeats {seatIds : List Nat} {seat : Seat} :
    seat ∈ requestedSeats db organization performance seatIds ↔
      seat ∈ db.seats.rows ∧ seat.organization = organization ∧ (seatChart db seat).isSome ∧
        seatChart db seat = getSeatingChart db performance ∧ seat.id ∈ seatIds := by
  unfold requestedSeats
  rw [(orderedByPk_perm _).mem_iff]
  simp [and_assoc]

/-- The requested seats are rows of the seat table, so their keys are distinct. -/
theorem requestedSeats_nodup (seatIds : List Nat) :
    ((requestedSeats db organization performance seatIds).map (·.id)).Nodup := by
  unfold requestedSeats
  refine (((orderedByPk_perm _).map _).nodup_iff).mpr ?_
  exact db.seats.nodup.sublist (List.filter_sublist.map _)

/-- A call that holds seats found as many as were asked for, each of them selectable. -/
theorem setReservedHold_checked {seatIds : List Nat} (hsome : seatIds.dedup ≠ [])
    (h : setReservedHold db now organization performance sessionKey seatIds = .ok (db', result)) :
    (requestedSeats db organization performance seatIds.dedup).length = seatIds.dedup.length ∧
      (∀ s ∈ requestedSeats db organization performance seatIds.dedup,
        Selectable db now organization performance sessionKey s) ∧
      db' = (replaceSessionHold db organization performance.id sessionKey
        (newReservedHold now organization performance sessionKey
          ((requestedSeats db organization performance seatIds.dedup).map
            (newHoldSeat db performance)))).1 := by
  unfold setReservedHold at h
  simp only [hsome, if_false] at h
  split_ifs at h with hlen hfree hpriced
  cases h
  rw [not_not] at hlen hfree
  refine ⟨hlen, ?_, rfl⟩
  intro s hs
  obtain ⟨hmem, horg, -, hchart, hid⟩ := mem_requestedSeats.mp hs
  have hnot := List.filter_eq_nil_iff.mp hfree s.id hid
  simp only [Bool.or_eq_true, not_or, Bool.not_eq_true] at hnot
  refine ⟨hmem, horg, hchart, hnot.1.1, hnot.1.2, hnot.2, ?_⟩
  cases hp : resolveReservedPrices db performance s with
  | none => exact absurd ⟨s, hs, hp⟩ hpriced
  | some _ => rfl

/-- **`set_reserved_hold`.** A call that returns either released the session's hold or replaced
    it by a hold of distinct seats, each of which it found selectable. -/
theorem setReservedHold_ok {seatIds : List Nat}
    (h : setReservedHold db now organization performance sessionKey seatIds = .ok (db', result)) :
    db' = releaseHold db organization performance.id sessionKey ∨
      ∃ seats : List Seat, (seats.map (·.id)).Nodup ∧ seats ≠ [] ∧
        (∀ s ∈ seats, Selectable db now organization performance sessionKey s) ∧
        db' = (replaceSessionHold db organization performance.id sessionKey
          (newReservedHold now organization performance sessionKey
            (seats.map (newHoldSeat db performance)))).1 := by
  by_cases hnil : seatIds.dedup = []
  · simp only [setReservedHold, hnil, if_true] at h
    cases h
    exact .inl rfl
  · obtain ⟨hlen, hselectable, rfl⟩ := setReservedHold_checked hnil h
    refine .inr ⟨_, requestedSeats_nodup seatIds.dedup, ?_, hselectable, rfl⟩
    -- As many seats were found as were asked for, and some were asked for.
    intro h0
    rw [h0] at hlen
    exact hnil (List.length_eq_zero_iff.mp hlen.symm)

end Spec

end BoxOffice
