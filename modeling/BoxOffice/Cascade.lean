import BoxOffice.Schema

namespace BoxOffice

open Relational

/-!
# Cascade — deletes under the foreign-key rules

What `QuerySet.delete()` does to the rows that refer to the deleted ones.

* `deleteSeats`, `deletePriceTier`, `deletePricingZone`, `deleteEvent`, `deleteSections` — one
  function per model class that staff can delete;
* a `PROTECT` reference refuses the whole delete, a `CASCADE` reference goes with it, a
  `SET_NULL` reference loses the key.
-/

/-- The seats of a hold whose seat is not among the deleted ones (`HoldSeat.seat`, `CASCADE`). -/
def Hold.dropSeats (ids : List Nat) (h : Hold) : Hold :=
  { h with holdSeats := h.holdSeats.filter fun hs => !ids.contains hs.seat }

/-- The seats of a zone that are not among the deleted ones (`PricingZoneSeat.seat`,
    `CASCADE`). -/
def PricingZone.dropSeats (ids : List Nat) (z : PricingZone) : PricingZone :=
  { z with seats := z.seats.filter fun s => !ids.contains s }

/-- Dropping seats keeps the key of a zone. -/
theorem PricingZone.dropSeats_id (ids : List Nat) (z : PricingZone) : (z.dropSeats ids).id = z.id :=
  rfl

/-- Null a seat key that is among the deleted ones. -/
def nullSeat (ids : List Nat) (seat : Option Nat) : Option Nat :=
  seat.filter fun s => !ids.contains s

/-- `Seat.objects.filter(pk__in=ids).delete()`.  `OrderItem.seat` is `PROTECT`. -/
def deleteSeats (db : Db) (ids : List Nat) : Except ServiceError Db :=
  if db.orderItems.rows.any fun i => i.seat.any fun s => ids.contains s then
    .error (.protectedRows "Seat")
  else .ok
    { db with
      seats := db.seats.delete fun s => ids.contains s.id
      holds := db.holds.update (fun _ => true) (Hold.dropSeats ids)
      seatBlocks := db.seatBlocks.delete fun b => ids.contains b.seat
      pricingZones := db.pricingZones.update (fun _ => true) (PricingZone.dropSeats ids)
        (PricingZone.dropSeats_id ids)
      tickets := db.tickets.update (fun _ => true) fun t => { t with seat := nullSeat ids t.seat }
      passRedemptions := db.passRedemptions.update (fun _ => true)
        fun r => { r with seat := nullSeat ids r.seat } }

/-- Does the hold's general-admission selection name the tier? -/
def Hold.usesTier (priceTier : Nat) (h : Hold) : Bool := h.ga.any fun g => g.priceTier == priceTier

/-- Does one of the hold's seats name the tier? -/
def Hold.seatUsesTier (priceTier : Nat) (h : Hold) : Bool :=
  h.holdSeats.any fun hs => hs.priceTier == some priceTier

/-- Is the tier named by a held seat or a sold line?  Both references are `PROTECT`. -/
def tierProtected (db : Db) (priceTier : Nat) : Bool :=
  db.holds.rows.any (Hold.seatUsesTier priceTier) ||
    db.orderItems.rows.any fun i => i.priceTier == some priceTier

/-- `tier.delete()`.  `Hold.price_tier` is `CASCADE`. -/
def deletePriceTier (db : Db) (priceTier : Nat) : Except ServiceError Db :=
  if tierProtected db priceTier then .error (.protectedRows "PriceTier")
  else .ok
    { db with
      priceTiers := db.priceTiers.delete fun t => t.id == priceTier
      holds := db.holds.delete (Hold.usesTier priceTier) }

/-- Null a zone key that names the deleted zone. -/
def nullZone (zone : Nat) (key : Option Nat) : Option Nat := key.filter fun z => z != zone

/-- The hold with the keys of its seats to a deleted zone nulled. -/
def Hold.dropZone (zone : Nat) (h : Hold) : Hold :=
  { h with holdSeats := h.holdSeats.map fun hs =>
      { hs with pricingZone := nullZone zone hs.pricingZone } }

/-- `zone.delete()`.  `HoldSeat.pricing_zone` and `OrderItem.pricing_zone` are `SET_NULL`. -/
def deletePricingZone (db : Db) (zone : Nat) : Db :=
  { db with
    pricingZones := db.pricingZones.delete fun z => z.id == zone
    holds := db.holds.update (fun _ => true) (Hold.dropZone zone)
    orderItems := db.orderItems.update (fun _ => true)
      fun i => { i with pricingZone := nullZone zone i.pricingZone } }

/-- The hold with the keys of its seats to deleted zones nulled. -/
def Hold.dropZones (zones : List Nat) (h : Hold) : Hold :=
  { h with holdSeats := h.holdSeats.map fun hs =>
      { hs with pricingZone := hs.pricingZone.filter fun z => !zones.contains z } }

/-- A product without the event among those it sells (`PassProduct.events`, many-to-many). -/
def PassProduct.dropEvent (event : Nat) (p : PassProduct) : PassProduct :=
  { p with events := p.events.filter fun e => e != event }

/-- A sold pass without the event among those it covers (`PassPurchase.covered_events`,
    many-to-many). -/
def PassPurchase.dropEvent (event : Nat) (p : PassPurchase) : PassPurchase :=
  { p with coveredEvents := p.coveredEvents.filter fun e => e != event }

/-- The performances that go with an event (`Performance.event`, `CASCADE`). -/
def performancesOf (db : Db) (event : Nat) : List Nat :=
  (db.performances.rows.filter (·.event == event)).map (·.id)

/-- The price tiers that go with some performances (`PriceTier.performance`, `CASCADE`). -/
def tiersOf (db : Db) (performances : List Nat) : List Nat :=
  (db.priceTiers.rows.filter fun t => t.performance.any performances.contains).map (·.id)

/-- Does a `PROTECT` reference keep the event?  `Order.performance`, `PassRedemption.event`,
    `PassRedemption.performance`, `HoldSeat.price_tier` and `OrderItem.price_tier`. -/
def eventProtected (db : Db) (event : Nat) : Bool :=
  let performances := performancesOf db event
  db.orders.rows.any (fun o => o.performance.any performances.contains) ||
    db.passRedemptions.rows.any
      (fun r => r.event == event || performances.contains r.performance) ||
    (tiersOf db performances).any (tierProtected db)

/-- `event.delete()`, with its performances and what belongs to them. -/
def deleteEvent (db : Db) (event : Nat) : Except ServiceError Db :=
  if eventProtected db event then .error (.protectedRows "Event")
  else
    let performances := performancesOf db event
    let tiers := tiersOf db performances
    let zones :=
      (db.pricingZones.rows.filter fun z => performances.contains z.performance).map (·.id)
    let tickets := (db.tickets.rows.filter fun t => performances.contains t.performance).map (·.id)
    .ok { db with
      events := db.events.delete fun e => e.id == event
      performances := db.performances.delete fun p => p.event == event
      gaAllocations := db.gaAllocations.delete fun a => performances.contains a.performance
      priceTiers := db.priceTiers.delete fun t => tiers.contains t.id
      pricingZones := db.pricingZones.delete fun z => zones.contains z.id
      seatBlocks := db.seatBlocks.delete fun b => performances.contains b.performance
      holds := (db.holds.delete fun h =>
        performances.contains h.performance || tiers.any h.usesTier).update (fun _ => true)
          (Hold.dropZones zones)
      orderItems := db.orderItems.update (fun _ => true) fun i =>
        { i with pricingZone := i.pricingZone.filter fun z => !zones.contains z }
      tickets := db.tickets.delete fun t => tickets.contains t.id
      passRedemptions := db.passRedemptions.delete fun r => tickets.contains r.ticket
      passProducts := db.passProducts.update (fun _ => true) (PassProduct.dropEvent event)
      passPurchases := db.passPurchases.update (fun _ => true) (PassPurchase.dropEvent event) }

/-- `chart.sections.all().delete()`: the sections with their seats and their prices
    (`Seat.section` and `PriceTier.section`, `CASCADE`). -/
def deleteSections (db : Db) (ids : List Nat) : Except ServiceError Db :=
  let seats := (db.seats.rows.filter fun s => ids.contains s.section_).map (·.id)
  let tiers := (db.priceTiers.rows.filter fun t => t.section_.any ids.contains).map (·.id)
  if tiers.any (tierProtected db) then .error (.protectedRows "Section")
  else
    match deleteSeats db seats with
    | .error e => .error e
    | .ok db => .ok { db with
        sections := db.sections.delete fun s => ids.contains s.id
        priceTiers := db.priceTiers.delete fun t => tiers.contains t.id
        holds := db.holds.delete fun h => tiers.any h.usesTier }

/-! ### What a delete leaves of a hold -/

section Spec

variable {db db' : Db}

/-- Seats that are not in the hold do not matter to it. -/
theorem Hold.dropSeats_eq_self {ids : List Nat} {h : Hold}
    (hfree : ∀ hs ∈ h.holdSeats, hs.seat ∉ ids) : h.dropSeats ids = h := by
  unfold Hold.dropSeats
  rw [List.filter_eq_self.mpr fun hs hmem => by simpa using hfree hs hmem]

/-- **Deleting seats.** A delete that goes through touches no sold line. -/
theorem deleteSeats_ok {ids : List Nat} (h : deleteSeats db ids = .ok db') :
    (∀ i ∈ db.orderItems.rows, ∀ s ∈ i.seat, s ∉ ids) ∧
      db' = { db with
        seats := db.seats.delete fun s => ids.contains s.id
        holds := db.holds.update (fun _ => true) (Hold.dropSeats ids)
        seatBlocks := db.seatBlocks.delete fun b => ids.contains b.seat
        pricingZones := db.pricingZones.update (fun _ => true) (PricingZone.dropSeats ids)
        tickets := db.tickets.update (fun _ => true)
          fun t => { t with seat := nullSeat ids t.seat }
        passRedemptions := db.passRedemptions.update (fun _ => true)
          fun r => { r with seat := nullSeat ids r.seat } } := by
  unfold deleteSeats at h
  split_ifs at h with hany
  cases h
  refine ⟨fun i hi s hs hmem => hany ?_, rfl⟩
  rw [List.any_eq_true]
  exact ⟨i, hi, by rw [Option.mem_def.mp hs]; simpa using hmem⟩

/-- **Deleting a price tier.** -/
theorem deletePriceTier_ok {priceTier : Nat} (h : deletePriceTier db priceTier = .ok db') :
    tierProtected db priceTier = false ∧ db' = { db with
      priceTiers := db.priceTiers.delete fun t => t.id == priceTier
      holds := db.holds.delete (Hold.usesTier priceTier) } := by
  unfold deletePriceTier at h
  split_ifs at h with hp
  cases h
  exact ⟨by simpa using hp, rfl⟩

end Spec

end BoxOffice
