import BoxOffice.Schema
import Mathlib.Data.List.Sort

namespace BoxOffice

open Relational

/-!
# Events — price resolution for reserved seats

The read side of the pricing model: which chart a performance uses, which seats it sells, and
what each of them costs.

* `resolveSeatTier` — the per-performance override of a section, else its default tier;
* `zonesBySeatId` — the pricing zone of a seat; a dictionary built over the zones in display
  order, so the last zone that lists the seat wins;
* `resolveReservedPrices` — zone first, then tier; a seat with neither has no entry;
* `resolveSeatPrice` — the same rule for a single seat, by queries of its own.
-/

/-- A queryset ordered by a name column; rows with equal names stay in key order. -/
def orderedBy {α : Type} (name : α → String) (rows : List α) : List α :=
  rows.insertionSort (fun a b => name a ≤ name b)

/-- A queryset ordered by its primary key. -/
def orderedByPk {α : Type} [Keyed α] (rows : List α) : List α :=
  rows.insertionSort (fun a b => Keyed.key a ≤ Keyed.key b)

/-- Ordering rows by their keys loses none. -/
theorem orderedByPk_perm {α : Type} [Keyed α] (rows : List α) : (orderedByPk rows).Perm rows :=
  List.perm_insertionSort _ _

/-- `get_seating_chart`: the explicit chart, else the venue's first by key. -/
def getSeatingChart (db : Db) (performance : Performance) : Option Nat :=
  match performance.seatingChart with
  | some chart => some chart
  | none =>
    ((orderedByPk (db.seatingCharts.rows.filter (·.venue == performance.venue))).head?).map
      (·.id)

/-- The chart of the section a seat belongs to. -/
def seatChart (db : Db) (seat : Seat) : Option Nat := (db.sections.get? seat.section_).map (·.chart)

/-- `performance_seats`: the bookable seats of the performance's chart. -/
def performanceSeats (db : Db) (performance : Performance) : List Seat :=
  match getSeatingChart db performance with
  | none => []
  | some chart =>
    db.seats.rows.filter fun s =>
      s.organization == performance.organization && seatChart db s == some chart

/-- `resolve_seat_tier`; `none` stands for `PricingError`. -/
def resolveSeatTier (db : Db) (performance : Performance) (section_ : Nat) : Option PriceTier :=
  let tiers := orderedBy (fun t : PriceTier => t.name)
    (db.priceTiers.rows.filter fun t =>
      t.organization == performance.organization && t.section_ == some section_)
  (tiers.find? fun t => t.performance == some performance.id).or
    (tiers.find? fun t => t.performance == none)

/-- `price_tiers_by_section`: the entry of one section. -/
def priceTiersBySection (db : Db) (performance : Performance) (section_ : Nat) :
    Option PriceTier :=
  match getSeatingChart db performance, db.sections.get? section_ with
  | some chart, some s =>
    if s.organization = performance.organization ∧ s.chart = chart then
      resolveSeatTier db performance section_
    else none
  | _, _ => none

/-- `zones_by_seat_id`: the entry of one seat. -/
def zonesBySeatId (db : Db) (performance : Performance) (seat : Nat) : Option PricingZone :=
  let zones := orderedBy (fun z : PricingZone => z.name)
    (db.pricingZones.rows.filter fun z =>
      z.organization == performance.organization && z.performance == performance.id)
  (zones.filter fun z => z.seats.contains seat).getLast?

/-- A resolved price and its provenance; exactly one of `zone` and `tier` is set. -/
structure ResolvedPrice where
  amount : Cents
  zone : Option Nat
  tier : Option Nat
deriving Repr, DecidableEq

/-- `resolve_reserved_prices`: the entry of one seat of the performance. -/
def resolveReservedPrices (db : Db) (performance : Performance) (seat : Seat) :
    Option ResolvedPrice :=
  match zonesBySeatId db performance seat.id with
  | some zone => some { amount := zone.amount, zone := some zone.id, tier := none }
  | none =>
    match priceTiersBySection db performance seat.section_ with
    | some tier => some { amount := tier.amount, zone := none, tier := some tier.id }
    | none => none

/-- `resolve_seat_price`; `none` stands for `PricingError`.  The first zone in display order that
    has the seat, else the tier of its section. -/
def resolveSeatPrice (db : Db) (performance : Performance) (seat : Seat) : Option ResolvedPrice :=
  let zones := orderedBy (fun z : PricingZone => z.name)
    (db.pricingZones.rows.filter fun z =>
      z.organization == performance.organization && z.performance == performance.id)
  match zones.find? fun z => z.seats.contains seat.id with
  | some zone => some { amount := zone.amount, zone := some zone.id, tier := none }
  | none =>
    match resolveSeatTier db performance seat.section_ with
    | some tier => some { amount := tier.amount, zone := none, tier := some tier.id }
    | none => none

end BoxOffice
