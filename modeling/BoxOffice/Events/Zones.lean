import BoxOffice.Cascade
import BoxOffice.Events.Pricing

namespace BoxOffice

open Relational

/-!
# Events — pricing zones

The mutations of `events.zones`.  Each is one transaction on the zones of a performance; a
hold's seats keep the price they were sold at, so none of them reads or writes a hold except
`deleteZone`, which nulls keys to the deleted row.
-/

/-- The zones `get_or_create` finds for a performance and a template. -/
def zonesOfTemplate (db : Db) (organization performance template : Nat) : List PricingZone :=
  db.pricingZones.rows.filter fun z =>
    z.organization == organization && z.performance == performance
      && z.template == some template

/-- The zone `apply_zone` creates. -/
def newZone (organization performance : Nat) (template : ZoneTemplate) (amount : Cents)
    (id : Nat) : PricingZone where
  id := id
  organization := organization
  performance := performance
  template := some template.id
  name := template.name
  color := template.color
  amount := amount
  seats := []

/-- Take the seats out of every other zone of the performance and into this one. -/
def claimSeats (pricingZones : Table PricingZone) (performance zone : Nat)
    (seatIds : List Nat) : Table PricingZone :=
  pricingZones.update (fun z => z.performance == performance)
    (fun z =>
      if z.id = zone then
        { z with seats := z.seats ++ seatIds.filter fun s => !z.seats.contains s }
      else { z with seats := z.seats.filter fun s => !seatIds.contains s })
    (fun z => by split <;> rfl)

/-- `apply_zone`.  The seats are distinct keys that the caller has looked up. -/
def applyZone (db : Db) (organization performance : Nat) (seatIds : List Nat) (amount : Cents)
    (template : ZoneTemplate) : Except ServiceError Db :=
  if seatIds = [] then .error (.zoneError "No seats selected.")
  else
    match zonesOfTemplate db organization performance template.id with
    | [] =>
      let zones := db.pricingZones.insert (newZone organization performance template amount)
      .ok { db with
        pricingZones := claimSeats zones performance db.pricingZones.nextId seatIds }
    | [zone] =>
      let zones := db.pricingZones.update (fun z => z.id == zone.id) fun z =>
        { z with name := template.name, color := template.color, amount := amount }
      .ok { db with pricingZones := claimSeats zones performance zone.id seatIds }
    | _ => .error (.multipleObjects "PricingZone")

/-- `remove_seats_from_zone`. -/
def removeSeatsFromZone (db : Db) (zone : Nat) (seatIds : List Nat) : Db :=
  { db with
    pricingZones := db.pricingZones.update (fun z => z.id == zone) (PricingZone.dropSeats seatIds)
      (PricingZone.dropSeats_id seatIds) }

/-- `delete_zone`. -/
def deleteZone (db : Db) (zone : Nat) : Db := deletePricingZone db zone

/-- The copy of a zone on another performance, with the seats its chart has. -/
def cloneZone (organization performance : Nat) (targetSeats : List Nat) (zone : PricingZone)
    (id : Nat) : PricingZone where
  id := id
  organization := organization
  performance := performance
  template := zone.template
  name := zone.name
  color := zone.color
  amount := zone.amount
  seats := zone.seats.filter fun s => targetSeats.contains s

/-- `clone_zones_from_performance`. -/
def cloneZonesFromPerformance (db : Db) (organization : Nat)
    (targetPerformance sourcePerformance : Performance) : Db :=
  let targetSeats := (performanceSeats db targetPerformance).map (·.id)
  let sourceZones := orderedBy (fun z : PricingZone => z.name)
    (db.pricingZones.rows.filter fun z =>
      z.organization == organization && z.performance == sourcePerformance.id)
  { db with
    pricingZones := db.pricingZones.insertMany
      (cloneZone organization targetPerformance.id targetSeats) sourceZones }

/-- `get_or_create_template`. -/
def getOrCreateTemplate (db : Db) (organization : Nat) (name color : String) :
    Table ZoneTemplate × ZoneTemplate :=
  match db.zoneTemplates.rows.find? fun t => t.organization == organization && t.name == name with
  | some template =>
    (db.zoneTemplates.update (fun t => t.id == template.id) fun t => { t with color := color },
      { template with color := color })
  | none =>
    let mk := fun id => ZoneTemplate.mk id organization name color
    (db.zoneTemplates.insert mk, mk db.zoneTemplates.nextId)

/-- **`apply_zone`** writes zones, nothing else. -/
theorem applyZone_ok {db db' : Db} {organization performance : Nat} {seatIds : List Nat}
    {amount : Cents} {template : ZoneTemplate}
    (h : applyZone db organization performance seatIds amount template = .ok db') :
    ∃ zones, db' = { db with pricingZones := zones } := by
  unfold applyZone at h
  split_ifs at h
  split at h
  · cases h; exact ⟨_, rfl⟩
  · cases h; exact ⟨_, rfl⟩
  · cases h

end BoxOffice
